import BufferTelemetry.Database.Tables
import BufferTelemetry.Text.Uuid

/-!
# Requests to the database

The parameters of the requests that the agent sends: one subscription to the
counters and the settings, updates of rows chosen by a filter, and selections of
whole columns.
-/

namespace BufferTelemetry.Database

/-- The parameters of the subscription. -/
def monitorParams (database : String) : Json :=
  .arr [.str database, .null,
    .obj [
      (counterTable, .arr [.obj [("columns", .arr (counterColumns.map .str))]]),
      (systemTable, .arr [
        .obj [("columns", .arr [.str settingsColumn])],
        .obj [("columns", .arr [.str infoColumn])]])]]

/-- Sets a column of the rows that meet a condition. -/
def update (database table column : String) (value condition : Json) : Json :=
  .arr [.str database,
    .obj [
      ("op", .str "update"),
      ("table", .str table),
      ("row", .obj [(column, value)]),
      ("where", .arr [condition])]]

/-- Sets the threshold of the counter row with the given name. -/
def thresholdUpdate (database row : String) (value : UInt64) : Json :=
  update database counterTable "trigger_threshold" (.ofWord value)
    (.arr [.str "name", .str "==", .str row])

/-- Replaces the map of settings in the row with the given identifier. -/
def settingsUpdate (database : String) (row : Uuid) (settings : Settings) : Json :=
  update database systemTable settingsColumn (settingsMap settings)
    (.arr [.str "_uuid", .str "==", .arr [.str "uuid", .str row.toString]])

/-- Sets a column of all counter rows of a unit. -/
def unitUpdate (database column : String) (value : Json) (asic : UInt32) : Json :=
  update database counterTable column value
    (.arr [.str "hw_unit_id", .str "==", .int asic.toNat])

/-- Takes the thresholds of all counters of a unit back. -/
def clearThresholds (database : String) (asic : UInt32) : Json :=
  unitUpdate database "trigger_threshold" emptySet asic

/-- Sets the statistics of all counters of a unit to zero. -/
def clearStats (database : String) (asic : UInt32) : Json :=
  unitUpdate database "counter_value" (.int 0) asic

/-- Turns the collection of all counters of a realm on or off. -/
def trackingUpdate (database : String) (realm : Realm) (enabled : Bool) : Json :=
  update database counterTable "enabled" (if enabled then .bool true else emptySet)
    (.arr [.str "counter_vendor_specific_info", .str "includes",
      ofPairs [("realm", .str realm.name)]])

/-- Reads a column of every row of a table. -/
def select (database table column : String) : Json :=
  .arr [.str database,
    .obj [
      ("op", .str "select"),
      ("table", .str table),
      ("where", .arr []),
      ("columns", .arr [.str column])]]

/-- Reads whether the configuration of the switch has been applied. -/
def selectCurrentConfig (database : String) : Json := select database systemTable "cur_cfg"

/-- Reads the facts about the hardware. -/
def selectSubsystemInfo (database : String) : Json :=
  select database subsystemTable "other_info"

end BufferTelemetry.Database
