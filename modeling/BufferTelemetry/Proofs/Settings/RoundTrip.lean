import BufferTelemetry.Proofs.Replica.SettingsHistory
import BufferTelemetry.Proofs.Text.Decimal

/-!
# Settings come back from their map

The map that holds some settings has one pair for each of the seven keys, and the text of each
pair stands for the setting (`SettingsKey.valueOf?_textOf`). So the map delivers every setting
once, in whatever order its pairs are (`delivered_perm_settingsMap`), and a row that delivers it
turns any settings into those that were written, all but the realms and the mark of a commit
(`applyPairs_perm_settingsMap`).
-/

namespace BufferTelemetry.Database

namespace SettingsKey

theorem flagValue?_flagText (b : Bool) : flagValue? (flagText b) = some b := by
  cases b <;> rfl

theorem numberValue?_toString (n : UInt32) : numberValue? (toString n) = some n := by
  rw [numberValue?, Text.Numeral.decimal?_toString, Option.map_some, UInt32.ofNat_toNat]

theorem valueOf?_name (m : TrackingMode) : countersMode.valueOf? m.name = some m := by
  cases m <;> decide

/-- **Round trip.** The text that the map holds for a key stands for the setting. -/
theorem valueOf?_textOf (s : Settings) (key : SettingsKey) :
    key.valueOf? (key.textOf s) = some (s.value key) := by
  cases key with
  | countersMode => exact valueOf?_name s.trackingMode
  | collectionPeriod => exact numberValue?_toString s.collectionIntervalSecs
  | triggerRateLimit => exact numberValue?_toString s.maxTriggers
  | _ => exact flagValue?_flagText _

end SettingsKey

theorem textPairs_settingsMap (s : Settings) :
    textPairs (settingsMap s) = SettingsKey.all.map fun key => (key.name, key.textOf s) := rfl

/-- The map of some settings delivers each of them once. -/
theorem delivered_settingsMap (s : Settings) (key : SettingsKey) :
    delivered key (textPairs (settingsMap s)) = [s.value key] := by
  rw [textPairs_settingsMap]
  have hall : key ∈ SettingsKey.all := by
    cases key <;> decide
  refine delivered_eq_singleton ?_ ?_
  · rw [List.map_map]
    show (SettingsKey.all.map SettingsKey.name).count key.name ≤ 1
    cases key <;> decide
  · refine List.mem_filterMap.2 ⟨_, List.mem_map_of_mem hall, ?_⟩
    simp [SettingsKey.valueOf?_textOf]

/-! ## In any order -/

theorem mapPairs_ofPairs (pairs : List (String × Json)) : mapPairs (ofPairs pairs) = pairs := by
  induction pairs with
  | nil => rfl
  | cons p rest ih => exact congrArg (List.cons p) ih

/-- The order of the pairs of a map decides nothing but the order of what they deliver. -/
theorem delivered_perm {pairs more : List (String × Json)} (horder : pairs.Perm more)
    (key : SettingsKey) :
    (delivered key (textPairs (ofPairs pairs))).Perm (delivered key (textPairs (ofPairs more))) := by
  rw [← textPairs_eq, ← textPairs_eq, mapPairs_ofPairs, mapPairs_ofPairs]
  exact (horder.filterMap _).filterMap _

theorem delivered_perm_settingsMap {s : Settings} {pairs : List (String × Json)}
    (horder : pairs.Perm (mapPairs (settingsMap s))) (key : SettingsKey) :
    delivered key (textPairs (ofPairs pairs)) = [s.value key] := by
  have hmap : ofPairs (mapPairs (settingsMap s)) = settingsMap s := rfl
  have hperm := delivered_perm horder key
  rw [hmap, delivered_settingsMap] at hperm
  exact List.perm_singleton.1 hperm

/-- **Settings come back.** However the pairs of the map that holds the settings `c` are ordered,
a row that delivers the map turns the settings `b` into those of `c`, with the realms and the mark
of a commit that `b` had; and a change is reported exactly when one of the seven settings of `b`
was not that of `c`. -/
theorem applyPairs_perm_settingsMap (c b : Settings) (pairs : List (String × Json))
    (horder : pairs.Perm (mapPairs (settingsMap c))) (rowKey : String) (row : Json)
    (hrow : settingsMap? row = some (ofPairs pairs)) :
    ∃ seen, SettingsRow.ofRow? rowKey row = some seen ∧
      (applyPairs seen.pairs b).1 =
        { c with trackingMask := b.trackingMask, trackInit := b.trackInit } ∧
      ((applyPairs seen.pairs b).2 = true ↔ ∃ key, b.value key ≠ c.value key) := by
  have hpairs := settingsRow_pairs_eq rowKey row
  rw [hrow, Option.map_some, Option.map_eq_some_iff] at hpairs
  obtain ⟨seen, hseen, hpairs⟩ := hpairs
  refine ⟨seen, hseen, ?_, ?_⟩
  · rw [hpairs]
    obtain ⟨hmask, hinit⟩ := trackingMask_applyPairs (textPairs (ofPairs pairs)) b
    refine Settings.ext_values ?_ hmask hinit
    intro key
    rw [value_applyPairs, delivered_perm_settingsMap horder]
    cases key <;> rfl
  · rw [hpairs, changed_applyPairs_iff]
    simp only [delivered_perm_settingsMap horder, List.mem_singleton, exists_eq_left]
    exact exists_congr fun key => ne_comm

/-- A row with the map of the settings, the pairs of which come in the opposite order. -/
def reversedRow (c : Settings) : Json :=
  .obj [("new", .obj [(settingsColumn, ofPairs (mapPairs (settingsMap c)).reverse)])]

/-- The greatest numbers come back, the mode too, and a single difference is reported. -/
theorem applyPairs_perm_settingsMap_reversed :
    let c : Settings := { Settings.initial with
      trackingMode := .peak, collectionIntervalSecs := 4294967295, maxTriggers := 4294967295 }
    let b : Settings := { c with maxTriggers := 0, trackInit := true }
    (mapPairs (settingsMap c)).reverse.Perm (mapPairs (settingsMap c)) ∧
      settingsMap? (reversedRow c) = some (ofPairs (mapPairs (settingsMap c)).reverse) ∧
      ∃ seen, SettingsRow.ofRow? "row" (reversedRow c) = some seen ∧
        applyPairs seen.pairs b = ({ c with trackInit := true }, true) := by
  intro c b
  have horder := List.reverse_perm (mapPairs (settingsMap c))
  have hrow : settingsMap? (reversedRow c) =
      some (ofPairs (mapPairs (settingsMap c)).reverse) := rfl
  obtain ⟨seen, hseen, hsettings, hchanged⟩ :=
    applyPairs_perm_settingsMap c b _ horder "row" (reversedRow c) hrow
  refine ⟨horder, hrow, seen, hseen, Prod.ext hsettings (hchanged.2 ⟨.triggerRateLimit, ?_⟩)⟩
  show (0 : UInt32) ≠ 4294967295
  decide

end BufferTelemetry.Database
