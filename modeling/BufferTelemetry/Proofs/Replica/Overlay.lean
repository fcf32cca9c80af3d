import BufferTelemetry.Database.Replica
import BufferTelemetry.Proofs.Json.Records

/-!
# Rows before and after a change

An update delivers a counter row as two objects: its columns before the change and those after
it. What an update does depends on these only through the columns that are looked up in a row, so
it does the same when every counter row is replaced by one that has the same columns
(`apply_mapCounterRows`). A row may so be replaced by its columns after the change, laid over
those before it (`column?_overlaid`), and a row with nothing but columns before the change by the
same columns after it (`column?_asCurrent`).
-/

namespace BufferTelemetry.Database

/-- The members of an object. Any other value has none, and neither has a value that is missing. -/
def membersOf (value : Option Json) : List (String × Json) :=
  (value.bind Json.members?).getD []

/-- Members laid over others, of which those stay that have another key. -/
def overlay (upper lower : List (String × Json)) : List (String × Json) :=
  upper ++ lower.filter fun member => (upper.lookup member.1).isNone

/-- The row with its columns after the change laid over those before it. -/
def overlaid (row : Json) : Json :=
  .obj [("new", .obj (overlay (membersOf (row.get? "new")) (membersOf (row.get? "old"))))]

/-- The row as a current one, if it has nothing but its columns before the change. -/
def asCurrent : Json → Json
  | .obj [("old", .obj columns)] => .obj [("new", .obj columns)]
  | row => row

/-- The table with each of its rows replaced. -/
def mapRows (f : Json → Json) : Json → Json
  | .obj rows => .obj (rows.map fun (key, row) => (key, f row))
  | rows => rows

/-- The update with each of its counter rows replaced. -/
def mapCounterRows (f : Json → Json) : Json → Json
  | .obj tables => .obj (tables.map fun (table, rows) =>
      (table, if table = counterTable then mapRows f rows else rows))
  | updates => updates

/-! ## Columns of a row -/

/-- What an object holds for a key is what is found among its members. -/
theorem bind_get?_eq_lookup (value : Option Json) (key : String) :
    value.bind (·.get? key) = (membersOf value).lookup key := by
  cases value with
  | none => rfl
  | some value => cases value <;> rfl

theorem lookup_overlay (upper lower : List (String × Json)) (key : String) :
    (overlay upper lower).lookup key = (upper.lookup key).or (lower.lookup key) := by
  rw [overlay, List.lookup_append]
  cases hupper : upper.lookup key with
  | some value => rfl
  | none =>
    have hkeep : (upper.lookup key).isNone = true := by rw [hupper]; rfl
    rw [lookup_filter (fun key => (upper.lookup key).isNone) hkeep]

theorem column?_eq_lookup (row : Json) (name : String) :
    column? row name =
      ((membersOf (row.get? "new")).lookup name).or ((membersOf (row.get? "old")).lookup name) := by
  rw [column?, Option.orElse_eq_orElse, Option.orElse_eq_or, bind_get?_eq_lookup,
    bind_get?_eq_lookup]

/-- The overlay has the columns of its row. -/
theorem column?_overlaid (row : Json) (name : String) :
    column? (overlaid row) name = column? row name := by
  have hnew : membersOf ((overlaid row).get? "new") =
      overlay (membersOf (row.get? "new")) (membersOf (row.get? "old")) := rfl
  have hold : membersOf ((overlaid row).get? "old") = [] := rfl
  rw [column?_eq_lookup (overlaid row), hnew, hold, lookup_overlay, List.lookup_nil, Option.or_none,
    column?_eq_lookup row]

theorem column?_asCurrent (row : Json) (name : String) :
    column? (asCurrent row) name = column? row name := by
  unfold asCurrent
  split
  · rename_i columns
    have hcurrent : membersOf ((Json.obj [("new", .obj columns)]).get? "new") = columns := rfl
    have hbefore : membersOf ((Json.obj [("old", .obj columns)]).get? "old") = columns := rfl
    rw [column?_eq_lookup, column?_eq_lookup, hcurrent, hbefore]
    exact Option.or_none
  · rfl

/-! ## Replaced rows -/

/-- An observation is made of the columns of a row. -/
theorem Observation.ofRow?_congr (numUnits : Nat) {row row' : Json}
    (h : ∀ name, column? row' name = column? row name) :
    ofRow? numUnits row' = ofRow? numUnits row := by
  have hcolumn : column? row' = column? row := funext h
  rw [ofRow?, ofRow?, hcolumn]

section Replaced

variable {f : Json → Json} (hf : ∀ row name, column? (f row) name = column? row name)

include hf

namespace Progress

theorem recordRow_replaced (p : Progress) (row : Json) : p.recordRow (f row) = p.recordRow row := by
  rw [recordRow, Observation.ofRow?_congr _ (hf row), recordRow]

theorem applyCounters_replaced (p : Progress) (rows : List (String × Json)) :
    p.applyCounters (rows.map fun (key, row) => (key, f row)) = p.applyCounters rows := by
  have hobservations :
      ((rows.map fun (key, row) => (key, f row)).filterMap fun (_, row) =>
        Observation.ofRow? p.replica.store.numUnits row) =
      rows.filterMap fun (_, row) => Observation.ofRow? p.replica.store.numUnits row := by
    rw [List.filterMap_map]
    congr 1
    funext row
    exact Observation.ofRow?_congr _ (hf row.2)
  have hrecorded :
      (rows.map fun (key, row) => (key, f row)).foldl (fun p (_, row) => p.recordRow row) p =
        rows.foldl (fun p (_, row) => p.recordRow row) p := by
    rw [List.foldl_map]
    congr 1
    funext p row
    exact recordRow_replaced hf p row.2
  simp only [applyCounters, hobservations, hrecorded]

theorem applyTable_replaced (p : Progress) (table : String) (rows : Json) :
    p.applyTable table (if table = counterTable then mapRows f rows else rows) =
      p.applyTable table rows := by
  by_cases htable : table = counterTable
  · rw [if_pos htable]
    cases rows with
    | obj rows =>
      simp only [mapRows, applyTable, if_pos htable]
      exact applyCounters_replaced hf p rows
    | _ => rfl
  · rw [if_neg htable]

end Progress

/-- **Replaced rows.** An update does the same when its counter rows are replaced by rows with
the same columns. -/
theorem apply_mapCounterRows (r : Replica) (updates : Json) :
    r.apply (mapCounterRows f updates) = r.apply updates := by
  cases updates with
  | obj tables =>
    have htables : ∀ p : Progress,
        (tables.map fun (table, rows) =>
          (table, if table = counterTable then mapRows f rows else rows)).foldl
            (fun p (table, rows) => p.applyTable table rows) p =
          tables.foldl (fun p (table, rows) => p.applyTable table rows) p := by
      intro p
      rw [List.foldl_map]
      congr 1
      funext p table
      exact Progress.applyTable_replaced hf p table.1 table.2
    simp only [mapCounterRows, Replica.apply, htables]
  | _ => rfl

end Replaced

/-- **Overlay.** A counter row counts as the members of its new object laid over those of its old
one: a key has the value of the new object if that has one, whatever it is, and otherwise that of
the old object. With every counter row replaced by this overlay, delivered as new, an update
leaves the same replica, with the same outcome and the same events in the same order, whatever
the replica was before. So does an update in which the rows with nothing but an old object are
made current. -/
theorem apply_overlaid (r : Replica) (updates : Json) :
    (∀ row key, ((overlaid row).get? "new").bind (·.get? key) =
      ((row.get? "new").bind (·.get? key)).or ((row.get? "old").bind (·.get? key))) ∧
    r.apply (mapCounterRows overlaid updates) = r.apply updates ∧
    r.apply (mapCounterRows asCurrent updates) = r.apply updates := by
  refine ⟨?_, apply_mapCounterRows column?_overlaid r updates,
    apply_mapCounterRows column?_asCurrent r updates⟩
  intro row key
  rw [bind_get?_eq_lookup (row.get? "new"), bind_get?_eq_lookup (row.get? "old")]
  exact lookup_overlay ..

end BufferTelemetry.Database
