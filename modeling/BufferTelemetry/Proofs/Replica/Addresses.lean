import BufferTelemetry.Proofs.Replica.SettingsHistory
import BufferTelemetry.Proofs.Text.Uuid

/-!
# The row with the settings

An update can deliver settings in several rows of the system table, and under any keys. Whatever
the key, the settings count, but only a row whose key is an identifier can be addressed later on
(`address?`). The replica records the identifier of the last such row, over all updates, and an
update without one leaves the record as it is (`settingsRow_apply_addresses`).
-/

namespace BufferTelemetry.Database

/-- The identifier that a key is, which takes thirty-six bytes. -/
def rowId? (key : String) : Option Uuid :=
  if key.utf8ByteSize = 36 then Uuid.ofString? key else none

/-- The key of a row and its identifier, if the row delivers settings and can be addressed. -/
def address? (key : String) (row : Json) : Option (String × Uuid) :=
  if (settingsMap? row).isSome then (rowId? key).map (key, ·) else none

def tableAddresses (table : String) (rows : Json) : List (String × Uuid) :=
  if table = systemTable then
    (rows.members?.getD []).filterMap fun (key, row) => address? key row
  else []

/-- The rows of an update that deliver settings and can be addressed, in the order of their
delivery. -/
def addresses (updates : Json) : List (String × Uuid) :=
  (updates.members?.getD []).flatMap fun (table, rows) => tableAddresses table rows

/-- The identifier of the last of the rows. -/
def lastId? (rows : List (String × Uuid)) : Option Uuid := rows.getLast?.map Prod.snd

theorem lastId?_append (rows more : List (String × Uuid)) :
    lastId? (rows ++ more) = (lastId? more).or (lastId? rows) := by
  rw [lastId?, List.getLast?_append]
  cases hmore : more.getLast? <;> simp [lastId?, hmore]

/-- A key that is an identifier is one in lower case, but for its letters. -/
theorem toString_of_rowId? {key : String} {u : Uuid} (h : rowId? key = some u) :
    u.toString = key.toLower := by
  unfold rowId? at h
  split at h
  · rename_i hsize
    rw [← String.toList_inj, Uuid.toList_toString (Uuid.ofGroups?_eq_some_iff.2 ⟨hsize, h⟩)]
    exact String.toList_map.symm
  · cases h

theorem rowId?_of_mem_addresses {key : String} {u : Uuid} {updates : Json}
    (h : (key, u) ∈ addresses updates) : rowId? key = some u := by
  obtain ⟨⟨table, rows⟩, -, h⟩ := List.mem_flatMap.1 h
  dsimp only [tableAddresses] at h
  split at h
  · obtain ⟨⟨key', row⟩, -, haddress⟩ := List.mem_filterMap.1 h
    obtain ⟨-, haddress⟩ := Option.ite_none_right_eq_some.1 haddress
    obtain ⟨u', hu, heq⟩ := Option.map_eq_some_iff.1 haddress
    cases heq
    exact hu
  · cases h

theorem ofGroups?_eq_rowId? (key : String) : Uuid.ofGroups? key.toList = rowId? key := by
  refine Option.ext fun u => ?_
  rw [Uuid.ofGroups?_eq_some_iff, rowId?, Option.ite_none_right_eq_some]

/-- A row of settings has the identifier by which it can be addressed. -/
theorem identifier_ofRow? (key : String) (row : Json) :
    (SettingsRow.ofRow? key row).bind SettingsRow.identifier =
      (address? key row).map Prod.snd := by
  unfold address?
  cases hmap : settingsMap? row with
  | none =>
    rw [settingsMap?] at hmap
    rw [SettingsRow.ofRow?, hmap]
    rfl
  | some value =>
    rw [settingsMap?] at hmap
    rw [SettingsRow.ofRow?, hmap, ← ofGroups?_eq_rowId?]
    show Uuid.ofGroups? key.toList = _
    rw [Option.isSome_some, if_pos rfl, Option.map_map]
    cases Uuid.ofGroups? key.toList <;> rfl

/-- A fold that keeps the last value keeps the last of all values. -/
theorem foldl_orElse {α β : Type} (f : α → Option β) (xs : List α) (last : Option β) :
    xs.foldl (fun last x => f x <|> last) last = (xs.filterMap f).getLast?.or last := by
  induction xs generalizing last with
  | nil => rfl
  | cons x rest ih =>
    rw [List.foldl_cons, ih]
    cases hx : f x with
    | none => rw [List.filterMap_cons_none hx, Option.orElse_eq_orElse, Option.orElse_none]
    | some y =>
      rw [List.filterMap_cons_some hx, List.getLast?_cons]
      cases (rest.filterMap f).getLast? <;> rfl

/-- Of the rows of a table the last one that can be addressed is recorded. -/
theorem foldl_identifier_eq (rows : List (String × Json)) (last : Option Uuid) :
    (rows.filterMap fun (key, row) => SettingsRow.ofRow? key row).foldl
        (fun last row => row.identifier <|> last) last =
      (lastId? (rows.filterMap fun (key, row) => address? key row)).or last := by
  rw [foldl_orElse, List.filterMap_filterMap, lastId?, ← List.getLast?_map, List.map_filterMap]
  congr 3
  funext (key, row)
  exact identifier_ofRow? key row

namespace Progress

variable {α : Type} {f : Progress → α → Progress}

/-- What keeps the row at each step keeps it. -/
theorem settingsRow_foldl
    (hf : ∀ p x, (f p x).replica.settingsRow = p.replica.settingsRow) (xs : List α)
    (p : Progress) : (xs.foldl f p).replica.settingsRow = p.replica.settingsRow := by
  induction xs generalizing p with
  | nil => rfl
  | cons x rest ih => exact (ih (f p x)).trans (hf p x)

theorem settingsRow_recordRow (p : Progress) (row : Json) :
    (p.recordRow row).replica.settingsRow = p.replica.settingsRow := by
  unfold recordRow
  split
  · unfold record
    split
    · rfl
    · dsimp only
      split <;> rfl
  · rfl

theorem settingsRow_mergeTracking (os : List Observation) (p : Progress) (unit : UInt32) :
    (mergeTracking os p unit).replica.settingsRow = p.replica.settingsRow := by
  unfold mergeTracking
  split <;> rfl

theorem settingsRow_applySettingsTo (pairs : List (String × String)) (p : Progress)
    (unit : UInt32) :
    (applySettingsTo pairs p unit).replica.settingsRow = p.replica.settingsRow := by
  unfold applySettingsTo
  split <;> rfl

/-- A table records the last of its rows that can be addressed. -/
theorem settingsRow_applyTable (p : Progress) (table : String) (rows : Json) :
    (p.applyTable table rows).replica.settingsRow =
      (lastId? (tableAddresses table rows)).or p.replica.settingsRow := by
  cases rows with
  | obj rows =>
    unfold applyTable tableAddresses
    dsimp only
    split
    · rename_i htable
      have hother : table ≠ systemTable := by
        rw [htable]
        decide
      rw [if_neg hother, applyCounters, settingsRow_foldl (settingsRow_mergeTracking _)]
      exact settingsRow_foldl (fun p (_, row) => settingsRow_recordRow p row) rows p
    · split
      · rw [applySettings, settingsRow_foldl (settingsRow_applySettingsTo _)]
        exact foldl_identifier_eq rows _
      · rfl
  | _ =>
    unfold tableAddresses
    split <;> rfl

theorem settingsRow_foldl_applyTable (tables : List (String × Json)) (p : Progress) :
    (tables.foldl (fun p (table, rows) => p.applyTable table rows) p).replica.settingsRow =
      (lastId? (tables.flatMap fun (table, rows) => tableAddresses table rows)).or
        p.replica.settingsRow := by
  induction tables generalizing p with
  | nil => rfl
  | cons table rest ih =>
    rw [List.foldl_cons, ih, settingsRow_applyTable, List.flatMap_cons, lastId?_append,
      Option.or_assoc]

end Progress

/-- **The recorded row** is the last one of the update that can be addressed, and the old one if
there is none. -/
theorem settingsRow_apply_addresses (r : Replica) (updates : Json) :
    (r.apply updates).replica.settingsRow = (lastId? (addresses updates)).or r.settingsRow := by
  cases updates with
  | obj tables => exact Progress.settingsRow_foldl_applyTable tables _
  | _ => rfl

/-- The settings that an update delivers are those of all its rows, under whatever keys. -/
theorem exists_settings_of_apply {r : Replica} (hsize : r.store.numUnits < UInt32.size)
    (updates : Json) {unit : UInt32} {old : Settings}
    (hold : r.store.settings? unit = some old) :
    ∃ new, (r.apply updates).replica.store.settings? unit = some new ∧ ∀ key, new.value key =
      (delivered key (settingsPairs updates)).getLast?.getD (old.value key) := by
  refine ⟨_, by rw [settings?_apply hsize, hold, Option.map_some], fun key => ?_⟩
  rw [Delivery.value_revise, value_applyPairs, pairs_ofUpdate]

end BufferTelemetry.Database
