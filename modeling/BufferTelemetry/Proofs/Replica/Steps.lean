import BufferTelemetry.Database.Replica

/-!
# The steps of an update

An update is folded into a replica in small steps: a counter row is recorded, a unit collects the
realms that have been observed, rows of settings are seen, and their pairs are applied to a unit.
A relation between two states of an update and the counter rows between them that composes and
that holds of each step (`Stepwise`) holds of tables, and of the whole update (`Stepwise.apply`).
-/

namespace BufferTelemetry.Database

/-- The rows of a table that are about counters. -/
def tableRows (table : String) (rows : Json) : List Json :=
  if table = counterTable then (rows.members?.getD []).map Prod.snd else []

/-- The rows of an update that are about counters, in the order of their delivery. -/
def counterRows (updates : Json) : List Json :=
  (updates.members?.getD []).flatMap fun (table, rows) => tableRows table rows

/-- The relation composes, and each step of an update keeps it: the one that records a counter row
with this row, and the others with none. -/
structure Stepwise (R : List Json → Progress → Progress → Prop) : Prop where
  refl : ∀ p, R [] p p
  trans : ∀ {rows more p q q'}, R rows p q → R more q q' → R (rows ++ more) p q'
  recordRow : ∀ (p : Progress) row, R [row] p (p.recordRow row)
  mergeTracking : ∀ os (p : Progress) unit, R [] p (p.mergeTracking os unit)
  seeing : ∀ (p : Progress) settingsRow settingsSeen,
    R [] p { p with
      replica.settingsRow := settingsRow
      outcome.settingsSeen := settingsSeen }
  applySettingsTo : ∀ pairs (p : Progress) unit, R [] p (p.applySettingsTo pairs unit)
  initialized : ∀ (p : Progress) initialized,
    R [] p { p with replica.initialized := initialized }

namespace Stepwise

variable {R : List Json → Progress → Progress → Prop} (h : Stepwise R)

include h

theorem foldl_recordRow (rows : List (String × Json)) (p : Progress) :
    R (rows.map Prod.snd) p (rows.foldl (fun p (_, row) => p.recordRow row) p) := by
  induction rows generalizing p with
  | nil => exact h.refl p
  | cons row rest ih => exact h.trans (h.recordRow p row.2) (ih _)

/-- A pass over units takes no rows in if none of its steps does. -/
theorem foldl_units {step : Progress → UInt32 → Progress}
    (hstep : ∀ p unit, R [] p (step p unit)) (units : List UInt32) (p : Progress) :
    R [] p (units.foldl step p) := by
  induction units generalizing p with
  | nil => exact h.refl p
  | cons unit rest ih => exact h.trans (hstep p unit) (ih _)

theorem applyCounters (p : Progress) (rows : List (String × Json)) :
    R (rows.map Prod.snd) p (p.applyCounters rows) := by
  have hrecorded := h.foldl_recordRow rows p
  have hmerged := h.trans hrecorded (h.foldl_units (h.mergeTracking (rows.filterMap fun (_, row) =>
    Observation.ofRow? p.replica.store.numUnits row)) p.replica.units _)
  rw [List.append_nil] at hmerged
  exact hmerged

theorem applySettings (p : Progress) (rows : List (String × Json)) :
    R [] p (p.applySettings rows) :=
  h.trans (h.seeing p _ _) (h.foldl_units (h.applySettingsTo _) _ _)

theorem applyTable (p : Progress) (table : String) (rows : Json) :
    R (tableRows table rows) p (p.applyTable table rows) := by
  unfold Progress.applyTable tableRows
  cases rows with
  | obj rows =>
    dsimp only
    split
    · exact h.applyCounters p rows
    · split
      · exact h.applySettings p rows
      · exact h.refl p
  | _ => simpa [Json.members?] using h.refl p

theorem foldl_applyTable (tables : List (String × Json)) (p : Progress) :
    R (tables.flatMap fun (table, rows) => tableRows table rows) p
      (tables.foldl (fun p (table, rows) => p.applyTable table rows) p) := by
  induction tables generalizing p with
  | nil => exact h.refl p
  | cons table rest ih => exact h.trans (h.applyTable p table.1 table.2) (ih _)

/-- **Step by step.** What each step keeps is kept by a whole update, with its counter rows. -/
theorem apply (r : Replica) (updates : Json) :
    R (counterRows updates) { replica := r, outcome := .nothing, events := [] }
      (r.apply updates) := by
  cases updates with
  | obj tables =>
    rw [← List.append_nil (counterRows (.obj tables))]
    exact h.trans (h.foldl_applyTable tables _) (h.initialized _ _)
  | _ => exact h.refl _

end Stepwise

end BufferTelemetry.Database
