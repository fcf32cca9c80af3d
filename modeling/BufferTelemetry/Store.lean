import BufferTelemetry.Counter.Layout
import BufferTelemetry.Error
import BufferTelemetry.Settings

/-!
# The store of counters

For each unit, the last known state of every counter and the unit's settings.
The counters of a unit are one vector in the order of their positions. An
operation on a unit that does not exist, or on a counter that does not, fails,
and as every change is the result of an operation, a failed one changes nothing.
-/

namespace BufferTelemetry

/-- The last known state of one counter. -/
structure Entry where
  stat : UInt64
  threshold : UInt64
  /-- Whether the counter is collected. -/
  enabled : Bool
  deriving DecidableEq, Repr

/-- The state of a counter about which nothing is known. -/
def Entry.initial : Entry where
  stat := 0
  threshold := 0
  enabled := false

/-- The counters and settings of one unit. -/
structure UnitState where
  entries : Vector Entry CounterKind.total
  settings : Settings

/-- The counters and settings of every unit. -/
structure Store where
  units : Array UnitState

/-- The address of a counter with the error that every operation of the store reports. -/
def Counter.place (c : Counter) : Except Error (Fin CounterKind.total) :=
  match c.position with
  | .ok p => .ok p
  | .error e => .error (.invalidParameter e.message)

namespace UnitState

/-- A unit about which nothing is known. -/
def initial : UnitState where
  entries := Vector.replicate CounterKind.total .initial
  settings := .initial

/-- The state of one counter. -/
def get (u : UnitState) (c : Counter) : Except Error Entry := do
  let p ← c.place
  return u.entries[p]

/-- The unit with the state of one counter replaced. -/
def put (u : UnitState) (p : Fin CounterKind.total) (e : Entry) : UnitState :=
  let ⟨entries, settings⟩ := u
  ⟨entries.set p e, settings⟩

end UnitState

/-- A copy of what is known about one unit. -/
structure Dump where
  settings : Settings
  /-- The counters whose statistic or threshold is not zero, by kind and offset. -/
  entries : List (CounterKind × Nat × Entry)

namespace Store

/-- A store of so many units about which nothing is known. -/
def initial (numUnits : Nat) : Store where
  units := Array.replicate numUnits .initial

/-- The number of units. -/
def numUnits (s : Store) : Nat := s.units.size

/-- What every operation reports for a unit that does not exist. -/
def unknownUnit (asic : UInt32) : Error := .invalidParameter s!"unknown ASIC unit {asic}"

/-- The state of one unit. -/
def unit (s : Store) (asic : UInt32) : Except Error UnitState :=
  match s.units[asic.toNat]? with
  | some u => .ok u
  | none => .error (unknownUnit asic)

/-- Changes the state of one unit. -/
def modifyUnit (s : Store) (asic : UInt32) (f : UnitState → UnitState) : Except Error Store :=
  if asic.toNat < s.units.size then
    .ok ⟨s.units.modify asic.toNat f⟩
  else
    .error (unknownUnit asic)

/-- The state of one counter. -/
def get (s : Store) (asic : UInt32) (c : Counter) : Except Error Entry := do
  (← s.unit asic).get c

/-- Records the state of a counter, with the factory threshold of its kind in place of
the one given if that is asked for. -/
def put (s : Store) (asic : UInt32) (c : Counter) (factory : Bool) (e : Entry) :
    Except Error Store := do
  let p ← c.place
  let e := if factory then { e with threshold := c.kind.factoryThreshold } else e
  s.modifyUnit asic (·.put p e)

/-- The settings of a unit, with the default limit of triggers if none is configured. -/
def settings (s : Store) (asic : UInt32) : Except Error Settings := do
  return (← s.unit asic).settings.withTriggerDefault

/-- Changes the settings of a unit, and answers what the change reports about the old ones. -/
def updateSettings {α : Type} (s : Store) (asic : UInt32) (f : Settings → Settings × α) :
    Except Error (α × Store) := do
  let u ← s.unit asic
  let s ← s.modifyUnit asic fun u => { u with settings := (f u.settings).1 }
  return ((f u.settings).2, s)

/-- Replaces the settings of a unit, with the default limit of triggers if none is given. -/
def setSettings (s : Store) (asic : UInt32) (settings : Settings) : Except Error Store := do
  return (← s.updateSettings asic fun _ => (settings.withTriggerDefault, ())).2

/-- Adds realms to those a unit collects, and tells whether any of them is new. -/
def mergeTracking (s : Store) (asic : UInt32) (observed : TrackingMask) :
    Except Error (Bool × Store) :=
  s.updateSettings asic fun old =>
    let merged := old.trackingMask.union observed
    ({ old with trackingMask := merged }, merged ≠ old.trackingMask)

/-- The settings of a unit and those of its counters that are not zero. -/
def dump (s : Store) (asic : UInt32) : Except Error Dump := do
  let u ← s.unit asic
  let entries := CounterKind.all.flatMap fun k =>
    ((u.entries.toArray.extract k.start (k.start + k.size)).toList.zipIdx.filter
      fun (e, _) => e.stat ≠ 0 ∨ e.threshold ≠ 0).map fun (e, i) => (k, i, e)
  return { settings := u.settings, entries }

end Store

end BufferTelemetry
