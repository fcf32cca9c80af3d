import BufferTelemetry.Proofs.Replica.Listing

/-!
# The settings hold the last valid value

An update delivers maps of settings in the rows of its system table. Together they are one
sequence of pairs (`settingsPairs`), and after the update every setting of every unit has the
last value that is valid for it, whatever else the update delivers (`settings_of_update`).
The units that are listed and published as changed are those for which some valid value is
not the stored one. If a key is repeated this can happen without a difference in the end, and
if none is, it cannot.
-/

namespace BufferTelemetry.Database

/-- The map of settings that a row of the system table delivers. -/
def settingsMap? (row : Json) : Option Json := (row.get? "new").bind (·.get? settingsColumn)

/-- The maps of settings that an update delivers, in the order of their delivery. -/
def settingsMaps (updates : Json) : List Json :=
  (updates.members?.getD []).flatMap fun (table, rows) =>
    if table = systemTable then
      (rows.members?.getD []).filterMap fun (_, row) => settingsMap? row
    else []

/-- A pair of two texts. -/
def textPair? : Json → Option (String × String)
  | .arr [.str key, .str text] => some (key, text)
  | _ => none

/-- The pairs of texts in a map. What is no such pair is passed over, and what is no map has
none. -/
def textPairs : Json → List (String × String)
  | .arr [.str "map", .arr items] => items.filterMap textPair?
  | _ => []

/-- The pairs of settings that an update delivers. -/
def settingsPairs (updates : Json) : List (String × String) :=
  (settingsMaps updates).flatMap textPairs

theorem textPair?_eq (item : Json) :
    (pair? item).bind (fun (key, value) => value.text?.map (key, ·)) = textPair? item := by
  unfold pair?
  split
  · rename_i value
    cases value <;> rfl
  · rename_i hnot
    unfold textPair?
    split
    · rename_i key text
      exact absurd rfl (hnot key (.str text))
    · rfl

theorem textPairs_eq (value : Json) :
    (mapPairs value).filterMap (fun (key, text) => text.text?.map (key, ·)) = textPairs value := by
  by_cases hmap : ∃ items, value = .arr [.str "map", .arr items]
  · obtain ⟨items, rfl⟩ := hmap
    rw [mapPairs, textPairs, List.filterMap_filterMap]
    congr 1
    funext item
    exact textPair?_eq item
  · have hnone : mapPairs value = [] := by
      unfold mapPairs
      split
      · exact absurd ⟨_, rfl⟩ hmap
      · rfl
    have hnoText : textPairs value = [] := by
      unfold textPairs
      split
      · exact absurd ⟨_, rfl⟩ hmap
      · rfl
    rw [hnone, hnoText]
    rfl

theorem settingsRow_pairs_eq (key : String) (row : Json) :
    ((SettingsRow.ofRow? key row).map SettingsRow.pairs) = (settingsMap? row).map textPairs := by
  cases hmap : settingsMap? row with
  | none =>
    have hrow : SettingsRow.ofRow? key row = none := by
      rw [settingsMap?] at hmap
      rw [SettingsRow.ofRow?, hmap]
      rfl
    rw [hrow]
    rfl
  | some value =>
    rw [settingsMap?] at hmap
    rw [SettingsRow.ofRow?, hmap]
    exact congrArg some (textPairs_eq value)

theorem tableSettings_pairs_eq (rows : List (String × Json)) :
    (rows.filterMap fun (key, row) => SettingsRow.ofRow? key row).flatMap SettingsRow.pairs =
      (rows.filterMap fun (_, row) => settingsMap? row).flatMap textPairs := by
  induction rows with
  | nil => rfl
  | cons row rest ih =>
    have hrow := settingsRow_pairs_eq row.1 row.2
    cases hmap : settingsMap? row.2 with
    | none =>
      simp only [hmap, Option.map_none, Option.map_eq_none_iff] at hrow
      simpa [hmap, hrow] using ih
    | some value =>
      simp only [hmap, Option.map_some, Option.map_eq_some_iff] at hrow
      obtain ⟨seen, hseen, hpairs⟩ := hrow
      simpa [hmap, hseen, hpairs] using ih

/-- The pairs that are applied are those that the update delivers. -/
theorem pairs_ofUpdate (n : Nat) (updates : Json) :
    (Delivery.ofUpdate n updates).pairs = settingsPairs updates := by
  simp only [Delivery.pairs, Delivery.ofUpdate, settingsPairs, settingsMaps, List.flatMap_assoc]
  congr 1
  funext entry
  obtain ⟨table, rows⟩ := entry
  simp only [tableSettings]
  split
  · exact tableSettings_pairs_eq _
  · rfl

/-- **The last valid value counts.** After an update of a replica whose units 32 bits can
number, every setting of a unit has the value of the last pair for its key that is valid, and
its old value if there is none; the mark of a commit stays, and the realms are the old ones and
those that counter rows show. The units with a changed setting are listed in ascending order,
as no object in an update has a key twice (`distinct_of_delivery`), and one event is published
for each. A unit is listed exactly when a valid value is not the stored one: so every unit that
ends up different is listed, no setting of another unit is changed even for a moment, and if no
key is repeated only the units that end up different are listed. -/
theorem settings_of_update (r : Replica) (hsize : r.store.numUnits < UInt32.size)
    (updates : Json) :
    let after := r.apply updates
    let pairs := settingsPairs updates
    let observations :=
      (counterRows updates).filterMap (Observation.ofRow? r.store.numUnits)
    -- the settings of a unit
    (∀ unit old, r.store.settings? unit = some old →
      ∃ new, after.replica.store.settings? unit = some new ∧
        (∀ key, new.value key = (delivered key pairs).getLast?.getD (old.value key)) ∧
        new.trackInit = old.trackInit ∧
        new.trackingMask =
          old.trackingMask.union (Observation.collectedRealms observations unit) ∧
        -- whether it is listed
        (unit ∈ after.outcome.settingsChanged ↔
          ∃ key, ∃ v ∈ delivered key pairs, v ≠ old.value key) ∧
        ((∃ key, new.value key ≠ old.value key) → unit ∈ after.outcome.settingsChanged) ∧
        (unit ∉ after.outcome.settingsChanged →
          ∀ pre, pre <+: pairs → (applyPairs pre old).1 = old) ∧
        ((pairs.map Prod.fst).Nodup →
          (unit ∈ after.outcome.settingsChanged ↔ ∃ key, new.value key ≠ old.value key))) ∧
    -- the list and the events
    (∀ unit ∈ after.outcome.settingsChanged, unit.toNat < r.store.numUnits) ∧
    (updates.Distinct → after.outcome.settingsChanged.Pairwise (· < ·)) ∧
    changedUnits .feature after.events = after.outcome.settingsChanged := by
  intro after pairs observations
  let d := Delivery.ofUpdate r.store.numUnits updates
  have hpairs : d.pairs = pairs := pairs_ofUpdate r.store.numUnits updates
  have hlisted : ∀ unit, unit ∈ after.outcome.settingsChanged ↔
      ∃ old, r.store.settings? unit = some old ∧ (applyPairs d.pairs old).2 = true :=
    mem_listed_apply hsize .feature
  refine ⟨?_, ?_, fun hdistinct => listed_ascending hsize hdistinct .feature,
    changedUnits_apply hsize .feature⟩
  · intro unit old hold
    have hchanged : unit ∈ after.outcome.settingsChanged ↔ (applyPairs pairs old).2 = true := by
      rw [hlisted, hpairs]
      simp [hold]
    have hvalue : ∀ key, (d.revise unit old).value key = (applyPairs pairs old).1.value key := by
      intro key
      rw [d.value_revise, hpairs]
    refine ⟨d.revise unit old, ?_, ?_, d.trackInit_revise unit old, rfl, ?_, ?_, ?_, ?_⟩
    · rw [settings?_apply hsize, hold]
      rfl
    · intro key
      rw [hvalue, value_applyPairs]
    · rw [hchanged, changed_applyPairs_iff]
    · rintro ⟨key, hne⟩
      rw [hvalue] at hne
      exact hchanged.2 (changed_applyPairs_of_ne hne)
    · intro hnot pre hpre
      rw [hchanged, Bool.not_eq_true] at hnot
      exact applyPairs_prefix_of_unchanged hnot hpre
    · intro hnodup
      rw [hchanged, changed_applyPairs_iff_of_nodup old hnodup]
      simp only [hvalue]
  · intro unit hunit
    obtain ⟨old, hold, -⟩ := (hlisted unit).1 hunit
    exact Store.lt_of_settings? hold

/-- An update with a repeated key, the last value of which is the one that a unit has at
first, and with values that are not valid. -/
def flickering : Json :=
  .obj [(systemTable, .obj [("row", .obj [("new", .obj [(settingsColumn,
    ofPairs [("enabled", .str "true"), ("enabled", .str "maybe"), ("counters_mode", .int 2),
      ("collection_period", .str "60"), ("collection_period", .str "0")])])])])]

theorem distinct_flickering : flickering.Distinct := by
  decide

/-- Both units are listed, in order, and a unit has the valid values that came last. -/
theorem settings_of_update_flickering :
    let r := Replica.initial 2
    r.store.numUnits < UInt32.size ∧ flickering.Distinct ∧
      r.store.settings? 1 = some .initial ∧
      (∃ new, (r.apply flickering).replica.store.settings? 1 = some new ∧
        new.enabled = true ∧ new.trackingMode = .current ∧ new.collectionIntervalSecs = 0 ∧
        1 ∈ (r.apply flickering).outcome.settingsChanged) ∧
      (r.apply flickering).outcome.settingsChanged.Pairwise (· < ·) := by
  intro r
  have hsize : r.store.numUnits < UInt32.size := by decide
  have hinitial : r.store.settings? 1 = some .initial := rfl
  obtain ⟨hsettings, -, hascending, -⟩ := settings_of_update r hsize flickering
  obtain ⟨new, hnew, hvalue, -, -, hlisted, -⟩ := hsettings 1 .initial hinitial
  refine ⟨hsize, distinct_flickering, hinitial, ⟨new, hnew, hvalue .enabled,
    hvalue .countersMode, hvalue .collectionPeriod, hlisted.2 ⟨.enabled, true, ?_, ?_⟩⟩,
    hascending distinct_flickering⟩
  · exact List.mem_cons_self
  · exact Bool.noConfusion

end BufferTelemetry.Database
