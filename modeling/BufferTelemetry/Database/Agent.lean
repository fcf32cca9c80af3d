import BufferTelemetry.Database.Startup
import BufferTelemetry.Registry.Requests

/-!
# The agent

What runs beside a switch: the replica of the database, the feed that fills it,
the connection that is kept for thresholds, the events that have been published,
and the registry through which the management interface asks its questions.
Every operation is a step from one state of the agent and the world to the next,
and between two operations the feed deals with what has arrived.
-/

namespace BufferTelemetry.Database

open Rpc

/-- The agent beside a switch. -/
structure Agent (σ : Type) where
  /-- How the agent reaches the database. -/
  access : Access
  replica : Replica
  /-- The connection that is kept for thresholds. -/
  kept : Option Client
  /-- The feed, once it has been started. -/
  feed : Option Feed
  /-- The events that have been published and not been read. -/
  unread : List Event
  registry : Registry (Backend σ)

namespace Agent

variable {σ : Type}

/-- An agent of so many units before its feed is started. -/
def initial (access : Access) (numUnits : Nat) (registry : Registry (Backend σ)) : Agent σ where
  access := access
  replica := .initial numUnits
  kept := none
  feed := none
  unread := []
  registry := registry

/-- The agent with a plugin that has been started. Nobody reads the events that were
published before. -/
def ofStarted (p : Started σ) (registry : Registry (Backend σ)) : Agent σ where
  access := p.access
  replica := p.replica
  kept := none
  feed := some p.feed
  unread := []
  registry := registry

/-- What the services of the agent work on. -/
def backend (a : Agent σ) (s : σ) : Backend σ where
  store := a.replica.store
  settingsRow := a.replica.settingsRow
  kept := a.kept
  world := s

/-- The agent after its services have worked. -/
def withBackend (a : Agent σ) (b : Backend σ) : Agent σ :=
  { a with
    replica.store := b.store
    replica.settingsRow := b.settingsRow
    kept := b.kept }

/-- Runs an operation of the services. -/
def serve {α : Type} (action : Action (Backend σ) α) : Action (Agent σ × σ) α :=
  Action.within (fun (a, s) => a.backend s) (fun (a, _) b => (a.withBackend b, b.world)) action

/-- Runs an operation on the store. -/
def withStore {α : Type} (f : StateM Store α) (a : Agent σ) : α × Agent σ :=
  let (result, store) := f a.replica.store
  (result, { a with replica.store := store })

/-- The number of unread events that are kept. -/
def maxUnread : Nat := 1024

/-- The events that are kept when too many have not been read: the newest ones. -/
def newest (events : List Event) : List Event := events.drop (events.length - maxUnread)

/-- Lets the feed deal with what has arrived. -/
def catchUp (t : Transport σ) (a : Agent σ) : StateM σ (Agent σ) :=
  fun s =>
    match a.feed with
    | none => (a, s)
    | some feed =>
      let (feed, w) := feed.catchUp t { replica := a.replica, events := a.unread, world := s }
      ({ a with feed := some feed, replica := w.replica, unread := newest w.events }, w.world)

/-- Stops the feed on request. -/
def cancel (a : Agent σ) : Agent σ := { a with feed := a.feed.map Feed.cancel }

/-- The events that have been published since they were read last. -/
def takeEvents (a : Agent σ) : List Event × Agent σ := (a.unread, { a with unread := [] })

end Agent

end BufferTelemetry.Database
