import BufferTelemetry.Counter.RowName
import BufferTelemetry.Database.Tables
import BufferTelemetry.Event
import BufferTelemetry.Store
import BufferTelemetry.Text.Uuid

/-!
# What a row of an update says

An update delivers a row as an object with its columns before and after the
change; a column is looked up after the change first. A counter row is an
`Observation` of one counter if it names a unit that exists and a counter that
exists; any other is passed over. A row of settings delivers pairs of texts, of
which those count that are valid for the setting they name.
-/

namespace BufferTelemetry.Database

/-- The value of a column after a change, or before it if it is not given after it. -/
def column? (row : Json) (name : String) : Option Json :=
  ((row.get? "new").bind (·.get? name)) <|> ((row.get? "old").bind (·.get? name))

/-- What a counter row says about its counter. -/
structure Observation where
  unit : UInt32
  counter : Counter
  stat : UInt64
  /-- The threshold, if one is set. -/
  threshold : Option UInt64
  /-- Whether the counter is collected. -/
  enabled : Bool
  /-- Whether the counter has crossed its threshold. -/
  triggered : Bool
  deriving DecidableEq, Repr

namespace Observation

/-- The observation that a counter row makes, among the given number of units. -/
def ofRow? (numUnits : Nat) (row : Json) : Option Observation := do
  let unit ← (column? row "hw_unit_id").bind Json.word?
  let name ← (column? row "name").bind Json.text?
  guard (unit.toNat < numUnits)
  let counter ← (Counter.ofRowName name).toOption
  return {
    unit := unit.toUInt32
    counter
    stat := ((column? row "counter_value").bind Json.word?).getD 0
    threshold := (column? row "trigger_threshold").bind Json.word?
    enabled := (column? row "enabled").bind Json.flag? == some true
    triggered := (column? row "status").bind Json.text? == some triggeredStatus }

/-- The state of the counter, but for the threshold of one on which none is set. -/
def entry (o : Observation) : Entry where
  stat := o.stat
  threshold := o.threshold.getD 0
  enabled := o.enabled

/-- The event that the observation gives rise to if the counter crossed its threshold.
The database counts queues from one. -/
def event (o : Observation) : Event :=
  .trigger o.unit {
    realm := o.counter.kind.realm
    counter := o.counter.kind.counter
    port := o.counter.port
    queue := o.counter.index.toInt32 - 1 }

/-- The realms of those observations of a unit whose counters are collected. -/
def collectedRealms (os : List Observation) (unit : UInt32) : TrackingMask :=
  os.foldl (fun mask o =>
    if o.unit = unit ∧ o.enabled then mask.enable o.counter.kind.realm else mask) .empty

end Observation

/-- Reads a truth value. -/
def flagOfText? (s : String) : Option Bool :=
  if s = "true" then some true else if s = "false" then some false else none

/-- The settings with one of them read from its text, if the text is valid for it. -/
def SettingsKey.read? (s : Settings) (text : String) : SettingsKey → Option Settings
  | .enabled => (flagOfText? text).map ({ s with enabled := · })
  | .countersMode =>
    (TrackingMode.ofString? text).toOption.map ({ s with trackingMode := · })
  | .periodicCollection => (flagOfText? text).map ({ s with periodicCollection := · })
  | .snapshotOnTrigger => (flagOfText? text).map ({ s with sendSnapshotOnTrigger := · })
  | .collectionPeriod =>
    (Text.Numeral.decimal? UInt32.size text).map
      ({ s with collectionIntervalSecs := UInt32.ofNat · })
  | .triggerRateLimit =>
    (Text.Numeral.decimal? UInt32.size text).map ({ s with maxTriggers := UInt32.ofNat · })
  | .triggerCollection => (flagOfText? text).map ({ s with triggerCollectionEnabled := · })

/-- Applies one pair of a settings map, and tells whether it changed a setting. A pair
with an unknown key or with an invalid text changes none. -/
def applyPair (s : Settings) (pair : String × String) : Settings × Bool :=
  match (SettingsKey.ofName? pair.1).bind (SettingsKey.read? s pair.2) with
  | some s' => (s', s' ≠ s)
  | none => (s, false)

/-- Applies pairs in turn, and tells whether any of them changed a setting. -/
def applyPairs (pairs : List (String × String)) (s : Settings) : Settings × Bool :=
  pairs.foldl (fun (s, changed) pair =>
    let (s, now) := applyPair s pair
    (s, now || changed)) (s, false)

/-- What a settings row says. -/
structure SettingsRow where
  /-- The identifier of the row, if its key is one. -/
  identifier : Option Uuid
  /-- The pairs of texts in its map. -/
  pairs : List (String × String)

/-- What a row of the system table says about the settings, if it delivers them. Its key
is an identifier when it is written in groups. -/
def SettingsRow.ofRow? (key : String) (row : Json) : Option SettingsRow := do
  let value ← (row.get? "new").bind (·.get? settingsColumn)
  return {
    identifier := Uuid.ofGroups? key.toList
    pairs := (mapPairs value).filterMap fun (key, text) => text.text?.map (key, ·) }

end BufferTelemetry.Database
