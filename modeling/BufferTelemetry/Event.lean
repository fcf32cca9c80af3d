import BufferTelemetry.Realm

/-!
# Events

What is published to subscribers: a counter crossed its threshold, or part of
the configuration of a unit changed in the database.
-/

namespace BufferTelemetry

/-- The counter that crossed its threshold. -/
structure Trigger where
  realm : Realm
  /-- The name of the counter within its realm. -/
  counter : String
  port : UInt32
  /-- One less than the index of the counter. -/
  queue : Int32
  deriving DecidableEq, Repr

/-- Which part of a unit's configuration changed. -/
inductive Change where
  /-- One of the settings. -/
  | feature
  /-- The set of collected realms. -/
  | tracking
  deriving DecidableEq, Repr

/-- An event of one unit. -/
inductive Event where
  | trigger (asic : UInt32) (info : Trigger)
  | configChanged (asic : UInt32) (change : Change)
  deriving DecidableEq, Repr

/-- The unit to which an event belongs. -/
def Event.asic : Event → UInt32
  | .trigger asic _ => asic
  | .configChanged asic _ => asic

end BufferTelemetry
