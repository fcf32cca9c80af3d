import BufferTelemetry.Database.Observation

/-!
# The replica of the database

The agent's copy of what the database holds: the store of counters and settings,
the identifier of the row with the settings, and whether settings have been
delivered at all. `Replica.apply` folds one update into it, and reports what the
update did and which events it gives rise to: per counter row that crossed its
threshold one trigger, and per unit at most one change of the collected realms
and one change of the settings.
-/

namespace BufferTelemetry.Database

/-- What one update did. -/
structure Outcome where
  /-- The number of counter rows that were recorded. -/
  rowsApplied : Nat
  /-- The number of counter rows that were passed over. -/
  rowsSkipped : Nat
  triggers : Nat
  /-- The units that collect a realm more than before. -/
  trackingChanged : List UInt32
  /-- The units with a changed setting. -/
  settingsChanged : List UInt32
  /-- Whether the update delivered settings. -/
  settingsSeen : Bool
  deriving DecidableEq, Repr

/-- The outcome of an update that does nothing. -/
def Outcome.nothing : Outcome where
  rowsApplied := 0
  rowsSkipped := 0
  triggers := 0
  trackingChanged := []
  settingsChanged := []
  settingsSeen := false

/-- The agent's copy of the database. -/
structure Replica where
  store : Store
  /-- The row with the settings, once its identifier is known. -/
  settingsRow : Option Uuid
  /-- Whether settings have been delivered. -/
  initialized : Bool

namespace Replica

/-- A replica of so many units before the first update. -/
def initial (numUnits : Nat) : Replica where
  store := .initial numUnits
  settingsRow := none
  initialized := false

/-- The units of a replica, in ascending order. -/
def units (r : Replica) : List UInt32 :=
  (List.range r.store.numUnits).map UInt32.ofNat

/-- The units to which settings are applied, in ascending order. They are counted in thirty-two
bits. -/
def settingsUnits (r : Replica) : List UInt32 :=
  (List.range (UInt32.ofNat r.store.numUnits).toNat).map UInt32.ofNat

end Replica

/-- An update in progress: the replica, the outcome and the events so far. -/
structure Progress where
  replica : Replica
  outcome : Outcome
  events : List Event

namespace Progress

/-- Records the counter of an observation. -/
def record (p : Progress) (o : Observation) : Progress :=
  match p.replica.store.put o.unit o.counter o.threshold.isNone o.entry with
  | .error _ => { p with outcome.rowsSkipped := p.outcome.rowsSkipped + 1 }
  | .ok store =>
    let p := { p with
      replica.store := store
      outcome.rowsApplied := p.outcome.rowsApplied + 1 }
    if o.triggered then
      { p with
        outcome.triggers := p.outcome.triggers + 1
        events := p.events ++ [o.event] }
    else p

/-- Records a counter row, or passes it over. -/
def recordRow (p : Progress) (row : Json) : Progress :=
  match Observation.ofRow? p.replica.store.numUnits row with
  | some o => p.record o
  | none => { p with outcome.rowsSkipped := p.outcome.rowsSkipped + 1 }

/-- Adds the realms that observations of a unit show to be collected. -/
def mergeTracking (os : List Observation) (p : Progress) (unit : UInt32) : Progress :=
  match p.replica.store.mergeTracking unit (Observation.collectedRealms os unit) with
  | .ok (true, store) =>
    { p with
      replica.store := store
      outcome.trackingChanged := p.outcome.trackingChanged ++ [unit]
      events := p.events ++ [.configChanged unit .tracking] }
  | _ => p

/-- Takes in the rows of the table of counters. -/
def applyCounters (p : Progress) (rows : List (String × Json)) : Progress :=
  let os := rows.filterMap fun (_, row) => Observation.ofRow? p.replica.store.numUnits row
  let recorded := rows.foldl (fun p (_, row) => p.recordRow row) p
  p.replica.units.foldl (mergeTracking os) recorded

/-- Applies pairs of settings to a unit. -/
def applySettingsTo (pairs : List (String × String)) (p : Progress) (unit : UInt32) : Progress :=
  match p.replica.store.updateSettings unit (applyPairs pairs) with
  | .ok (true, store) =>
    { p with
      replica.store := store
      outcome.settingsChanged := p.outcome.settingsChanged ++ [unit]
      events := p.events ++ [.configChanged unit .feature] }
  | .ok (false, store) => { p with replica.store := store }
  | .error _ => p

/-- Takes in the rows of the system table. -/
def applySettings (p : Progress) (rows : List (String × Json)) : Progress :=
  let seen := rows.filterMap fun (key, row) => SettingsRow.ofRow? key row
  let last := seen.foldl (fun last row => row.identifier <|> last) p.replica.settingsRow
  let p := { p with
    replica.settingsRow := last
    outcome.settingsSeen := p.outcome.settingsSeen || !seen.isEmpty }
  p.replica.settingsUnits.foldl (applySettingsTo (seen.flatMap SettingsRow.pairs)) p

/-- Takes in one table of an update. Tables without rows and tables that nobody asked for
are passed over. -/
def applyTable (p : Progress) (table : String) (rows : Json) : Progress :=
  match rows with
  | .obj rows =>
    if table = counterTable then p.applyCounters rows
    else if table = systemTable then p.applySettings rows
    else p
  | _ => p

end Progress

/-- Folds an update into the replica, table by table in the order of delivery. -/
def Replica.apply (r : Replica) (updates : Json) : Progress :=
  match updates with
  | .obj tables =>
    let start : Progress := { replica := r, outcome := .nothing, events := [] }
    let p := tables.foldl (fun p (table, rows) => p.applyTable table rows) start
    { p with replica.initialized := p.replica.initialized || p.outcome.settingsSeen }
  | _ => { replica := r, outcome := .nothing, events := [] }

end BufferTelemetry.Database
