import BufferTelemetry.AgentConfig
import BufferTelemetry.Forms
import BufferTelemetry.Loopback.Directory
import BufferTelemetry.Loopback.Session
import BufferTelemetry.Proofs.Counter.Layout
import BufferTelemetry.Proofs.Store.Entries
import BufferTelemetry.Proofs.Replica.Reports
import BufferTelemetry.Proofs.Counter.RowName
import BufferTelemetry.Proofs.Counter.RowLanguage
import BufferTelemetry.Proofs.Replica.CounterHistory
import BufferTelemetry.Proofs.Rpc.Actions
import BufferTelemetry.Proofs.Rpc.Looks
import BufferTelemetry.Proofs.Feed.Batches
import BufferTelemetry.Proofs.Registry.Registration
import BufferTelemetry.Proofs.Registry.Resolution
import BufferTelemetry.Proofs.Registry.Slots
import BufferTelemetry.Proofs.Registry.Units
import BufferTelemetry.Proofs.Startup.Configuration
import BufferTelemetry.Proofs.Registry.SwitchPlugin
import BufferTelemetry.Proofs.Commit.Thresholds
import BufferTelemetry.Proofs.Threshold.Validation
import BufferTelemetry.Proofs.Survey.Cells
import BufferTelemetry.Proofs.Survey.Collection
import BufferTelemetry.Proofs.Threshold.RoundTrip
import BufferTelemetry.Proofs.Threshold.Clearing
import BufferTelemetry.Proofs.Replica.Passes
import BufferTelemetry.Proofs.Replica.Deliveries
import BufferTelemetry.Proofs.Realm.Masks
import BufferTelemetry.Proofs.Settings.Pairs
import BufferTelemetry.Proofs.Store.Configurations
import BufferTelemetry.Proofs.Replica.Listing
import BufferTelemetry.Proofs.Replica.SettingsHistory
import BufferTelemetry.Proofs.Replica.Replay
import BufferTelemetry.Proofs.Commit.Settings
import BufferTelemetry.Proofs.Commit.SettingsEcho
import BufferTelemetry.Proofs.Survey.Answers
import BufferTelemetry.Proofs.Json.DistinctKeys
import BufferTelemetry.Proofs.Replica.Publication
import BufferTelemetry.Proofs.Replica.TrackingHistory
import BufferTelemetry.Proofs.Replica.DeliveryOrder
import BufferTelemetry.Proofs.Settings.RoundTrip
import BufferTelemetry.Proofs.Store.Memory
import BufferTelemetry.Proofs.Rpc.Emission
import BufferTelemetry.Proofs.Rpc.Conversations
import BufferTelemetry.Proofs.Commit.Acknowledgements
import BufferTelemetry.Proofs.Commit.Atomicity
import BufferTelemetry.Proofs.Rpc.Replies
import BufferTelemetry.Proofs.Rpc.Arrivals
import BufferTelemetry.Proofs.Rpc.Requests
import BufferTelemetry.Proofs.Rpc.Acceptance
import BufferTelemetry.Proofs.Rpc.Histories
import BufferTelemetry.Proofs.Feed.Lines
import BufferTelemetry.Proofs.Feed.Course
import BufferTelemetry.Proofs.Commit.TrackedRows
import BufferTelemetry.Proofs.Commit.Tracking
import BufferTelemetry.Proofs.Text.Uuid
import BufferTelemetry.Proofs.Replica.Addresses
import BufferTelemetry.Proofs.Commit.Addressing
import BufferTelemetry.Proofs.Rpc.Messages
import BufferTelemetry.Proofs.Rpc.Contacts
import BufferTelemetry.Proofs.Commit.KeptConnection
import BufferTelemetry.Proofs.Survey.Shapes
import BufferTelemetry.Proofs.Startup.PortCount
import BufferTelemetry.Proofs.Startup.Service
import BufferTelemetry.Proofs.Text.Hexadecimal
import BufferTelemetry.Proofs.Text.Hardware
import BufferTelemetry.Proofs.Json.Records
import BufferTelemetry.Proofs.Json.Forms
import BufferTelemetry.Proofs.Survey.Calls
import BufferTelemetry.Proofs.Survey.ExactFit
import BufferTelemetry.Proofs.Commit.InTurn
import BufferTelemetry.Proofs.Threshold.Refusal
import BufferTelemetry.Proofs.Replica.Overlay
import BufferTelemetry.Proofs.Store.Dumps
import BufferTelemetry.Proofs.Replica.Triggers
import BufferTelemetry.Proofs.Rpc.Endpoints
import BufferTelemetry.Proofs.Text.Families
