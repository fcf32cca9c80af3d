import BufferTelemetry.Realm
import BufferTelemetry.Text.LetterCase

/-!
# Settings of buffer statistics tracking

What is configured for one ASIC: whether and how its counters are sampled, how
often they are reported, how many triggers a window allows, and which realms are
collected. A limit of zero triggers means that none has been configured.
-/

namespace BufferTelemetry

/-- How a counter is sampled. -/
inductive TrackingMode where
  /-- The occupancy at the moment. -/
  | current
  /-- The greatest occupancy since the counter was last cleared. -/
  | peak
  deriving DecidableEq, Repr

namespace TrackingMode

/-- Both modes. -/
def all : List TrackingMode := [.current, .peak]

/-- The name of a mode. -/
def name : TrackingMode → String
  | .current => "current"
  | .peak => "peak"

/-- The number of a mode. -/
def code : TrackingMode → Nat
  | .current => 1
  | .peak => 2

/-- Reads the name of a mode in any letter case. -/
def ofString? (s : String) : Except ParseError TrackingMode :=
  match all.find? fun m => m.name.toList = Text.fold s with
  | some m => .ok m
  | none => .error (.trackingMode s)

end TrackingMode

/-- The settings of one ASIC. -/
structure Settings where
  /-- Whether tracking is on at all. -/
  enabled : Bool
  trackingMode : TrackingMode
  /-- Whether counters are reported periodically. -/
  periodicCollection : Bool
  collectionIntervalSecs : UInt32
  /-- The number of triggers that a window allows; zero when none is configured. -/
  maxTriggers : UInt32
  sendSnapshotOnTrigger : Bool
  triggerCollectionEnabled : Bool
  /-- The realms whose counters are collected. -/
  trackingMask : TrackingMask
  /-- Whether the realms have been committed before, so that a commit may leave them out. -/
  trackInit : Bool
  deriving DecidableEq, Repr

namespace Settings

/-- The settings of an ASIC about which nothing is known. -/
def initial : Settings where
  enabled := false
  trackingMode := .current
  periodicCollection := false
  collectionIntervalSecs := 0
  maxTriggers := 0
  sendSnapshotOnTrigger := false
  triggerCollectionEnabled := false
  trackingMask := .empty
  trackInit := false

/-- The number of triggers that a window allows when none is configured. -/
def defaultMaxTriggers : UInt32 := 60

/-- The settings with the default limit in place of one that is not configured. -/
def withTriggerDefault (s : Settings) : Settings :=
  if s.maxTriggers = 0 then { s with maxTriggers := defaultMaxTriggers } else s

end Settings

end BufferTelemetry
