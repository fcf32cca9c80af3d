import BufferTelemetry.Json.Basic
import BufferTelemetry.Settings

/-!
# Tables of the database

The names of tables and columns, and the values that columns hold: the empty set
stands for an optional column without a value, and a map is a list of pairs. The
settings of a unit are kept as a map from text to text.
-/

namespace BufferTelemetry.Database

/-- The table of counters. -/
def counterTable : String := "bufmon"

/-- The table whose one row holds the settings. -/
def systemTable : String := "System"

/-- The table that describes the hardware. -/
def subsystemTable : String := "Subsystem"

/-- The columns of the table of counters. -/
def counterColumns : List String :=
  ["counter_value", "counter_vendor_specific_info", "enabled", "hw_unit_id", "name", "status",
    "trigger_threshold", "_version"]

/-- The column with the map of settings. -/
def settingsColumn : String := "bufmon_config"

/-- The column with further facts about the statistics. -/
def infoColumn : String := "bufmon_info"

/-- The status of a counter that has crossed its threshold. -/
def triggeredStatus : String := "triggered"

/-- The value of an optional column that has none. -/
def emptySet : Json := .arr [.str "set", .arr []]

/-- The map with the given pairs. -/
def ofPairs (pairs : List (String × Json)) : Json :=
  .arr [.str "map", .arr (pairs.map fun (key, value) => .arr [.str key, value])]

/-- A pair of a map, if its key is a text. -/
def pair? : Json → Option (String × Json)
  | .arr [.str key, value] => some (key, value)
  | _ => none

/-- The pairs of a map in their order, without the malformed ones; a value that is no
map has none. -/
def mapPairs : Json → List (String × Json)
  | .arr [.str "map", .arr items] => items.filterMap pair?
  | _ => []

/-- A key of the map of settings. -/
inductive SettingsKey where
  | enabled
  | countersMode
  | periodicCollection
  | snapshotOnTrigger
  | collectionPeriod
  | triggerRateLimit
  | triggerCollection
  deriving DecidableEq, Repr

namespace SettingsKey

/-- Every key, in the order in which the map is written. -/
def all : List SettingsKey :=
  [.enabled, .countersMode, .periodicCollection, .snapshotOnTrigger, .collectionPeriod,
    .triggerRateLimit, .triggerCollection]

/-- The text of a key. -/
def name : SettingsKey → String
  | .enabled => "enabled"
  | .countersMode => "counters_mode"
  | .periodicCollection => "periodic_collection_enabled"
  | .snapshotOnTrigger => "snapshot_on_threshold_trigger"
  | .collectionPeriod => "collection_period"
  | .triggerRateLimit => "threshold_trigger_rate_limit"
  | .triggerCollection => "threshold_trigger_collection_enabled"

/-- The key with the given text. -/
def ofName? (s : String) : Option SettingsKey := all.find? (·.name = s)

/-- The text of a truth value. -/
def flagText (b : Bool) : String := if b then "true" else "false"

/-- The text that the map holds for a key. -/
def textOf (s : Settings) : SettingsKey → String
  | .enabled => flagText s.enabled
  | .countersMode => s.trackingMode.name
  | .periodicCollection => flagText s.periodicCollection
  | .snapshotOnTrigger => flagText s.sendSnapshotOnTrigger
  | .collectionPeriod => toString s.collectionIntervalSecs
  | .triggerRateLimit => toString s.maxTriggers
  | .triggerCollection => flagText s.triggerCollectionEnabled

end SettingsKey

/-- The map that holds the given settings. -/
def settingsMap (s : Settings) : Json :=
  ofPairs (SettingsKey.all.map fun key => (key.name, .str (key.textOf s)))

end BufferTelemetry.Database
