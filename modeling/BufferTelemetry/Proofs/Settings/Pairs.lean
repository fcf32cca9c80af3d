import BufferTelemetry.Database.Observation

/-!
# What pairs of settings do

Each of the seven settings is seen through its key: `Settings.value` and `Settings.set` read
and replace it, and `SettingsKey.valueOf?` says which texts are valid for it and for which
values they stand. In these terms pairs that are applied in turn

* leave every setting with the last valid value that they deliver for it
  (`value_applyPairs`);
* report a change exactly when some delivered value is not the old one
  (`changed_applyPairs_iff`), and if no key is repeated, exactly when some setting ends up
  different (`changed_applyPairs_iff_of_nodup`);
* are idempotent (`applyPairs_applyPairs`), though applied again they report a change if the
  values that they deliver for a key differ (`changed_applyPairs_again_iff`).
-/

namespace BufferTelemetry

namespace Database.SettingsKey

/-- What the setting under a key can be. -/
@[reducible]
def Value : SettingsKey → Type
  | .enabled => Bool
  | .countersMode => TrackingMode
  | .periodicCollection => Bool
  | .snapshotOnTrigger => Bool
  | .collectionPeriod => UInt32
  | .triggerRateLimit => UInt32
  | .triggerCollection => Bool

def flagValue? (text : String) : Option Bool :=
  match text with
  | "true" => some true
  | "false" => some false
  | _ => none

def numberValue? (text : String) : Option UInt32 :=
  (Text.Numeral.decimal? UInt32.size text).map UInt32.ofNat

/-- The value for which a text stands under a key, if it is valid there: a truth value is
spelled exactly, a mode in any letter case, and a number in decimal. -/
def valueOf? : (key : SettingsKey) → String → Option key.Value
  | .enabled, text => flagValue? text
  | .countersMode, text =>
    if Text.fold text = "current".toList then some .current
    else if Text.fold text = "peak".toList then some .peak
    else none
  | .periodicCollection, text => flagValue? text
  | .snapshotOnTrigger, text => flagValue? text
  | .collectionPeriod, text => numberValue? text
  | .triggerRateLimit, text => numberValue? text
  | .triggerCollection, text => flagValue? text

end Database.SettingsKey

namespace Settings

open Database

/-- The setting under a key. -/
def value (s : Settings) : (key : SettingsKey) → key.Value
  | .enabled => s.enabled
  | .countersMode => s.trackingMode
  | .periodicCollection => s.periodicCollection
  | .snapshotOnTrigger => s.sendSnapshotOnTrigger
  | .collectionPeriod => s.collectionIntervalSecs
  | .triggerRateLimit => s.maxTriggers
  | .triggerCollection => s.triggerCollectionEnabled

/-- The settings with the one under a key replaced. -/
def set (s : Settings) : (key : SettingsKey) → key.Value → Settings
  | .enabled, v => { s with enabled := v }
  | .countersMode, v => { s with trackingMode := v }
  | .periodicCollection, v => { s with periodicCollection := v }
  | .snapshotOnTrigger, v => { s with sendSnapshotOnTrigger := v }
  | .collectionPeriod, v => { s with collectionIntervalSecs := v }
  | .triggerRateLimit, v => { s with maxTriggers := v }
  | .triggerCollection, v => { s with triggerCollectionEnabled := v }

section Set

variable (s : Settings) (key : SettingsKey) (v : key.Value)

@[simp]
theorem value_set_self : (s.set key v).value key = v := by
  cases key <;> rfl

theorem value_set_ne {other : SettingsKey} (hne : other ≠ key) :
    (s.set key v).value other = s.value other := by
  cases key <;> cases other <;> simp_all [set, value]

@[simp]
theorem set_value : s.set key (s.value key) = s := by
  cases key <;> rfl

@[simp]
theorem trackingMask_set : (s.set key v).trackingMask = s.trackingMask := by
  cases key <;> rfl

@[simp]
theorem trackInit_set : (s.set key v).trackInit = s.trackInit := by
  cases key <;> rfl

theorem set_eq_self_iff : s.set key v = s ↔ v = s.value key := by
  constructor
  · intro h
    rw [← h, value_set_self]
  · rintro rfl
    exact set_value s key

end Set

/-- Settings are made up of the seven values, the realms and the mark of a commit. -/
theorem ext_values {s s' : Settings} (hvalue : ∀ key, s.value key = s'.value key)
    (hmask : s.trackingMask = s'.trackingMask) (hinit : s.trackInit = s'.trackInit) : s = s' := by
  have h₁ : s.enabled = s'.enabled := hvalue .enabled
  have h₂ : s.trackingMode = s'.trackingMode := hvalue .countersMode
  have h₃ : s.periodicCollection = s'.periodicCollection := hvalue .periodicCollection
  have h₄ : s.sendSnapshotOnTrigger = s'.sendSnapshotOnTrigger := hvalue .snapshotOnTrigger
  have h₅ : s.collectionIntervalSecs = s'.collectionIntervalSecs := hvalue .collectionPeriod
  have h₆ : s.maxTriggers = s'.maxTriggers := hvalue .triggerRateLimit
  have h₇ : s.triggerCollectionEnabled = s'.triggerCollectionEnabled := hvalue .triggerCollection
  cases s
  cases s'
  simp_all

end Settings

namespace Database

open SettingsKey

/-! ## Reading one pair -/

theorem flagOfText?_eq (text : String) : flagOfText? text = flagValue? text := by
  unfold flagOfText? flagValue?
  split
  · subst text
    rfl
  · split
    · subst text
      rfl
    · split <;> simp_all

theorem trackingMode_eq (text : String) :
    (TrackingMode.ofString? text).toOption = countersMode.valueOf? text := by
  simp only [TrackingMode.ofString?, TrackingMode.all, TrackingMode.name, List.find?, valueOf?]
  by_cases hcurrent : Text.fold text = "current".toList
  · simp [hcurrent, Except.toOption]
  · by_cases hpeak : Text.fold text = "peak".toList
    · simp [hpeak, Except.toOption]
    · have hcurrent' : ¬ "current".toList = Text.fold text := fun h => hcurrent h.symm
      have hpeak' : ¬ "peak".toList = Text.fold text := fun h => hpeak h.symm
      simp only [hcurrent, hpeak, hcurrent', hpeak', decide_false, if_false]
      rfl

theorem SettingsKey.read?_eq (s : Settings) (text : String) (key : SettingsKey) :
    key.read? s text = (key.valueOf? text).map (s.set key) := by
  cases key with
  | countersMode => simp only [read?, trackingMode_eq]; rfl
  | collectionPeriod => simp only [read?, valueOf?, numberValue?, Option.map_map]; rfl
  | triggerRateLimit => simp only [read?, valueOf?, numberValue?, Option.map_map]; rfl
  | _ => simp only [read?, valueOf?, flagOfText?_eq]; rfl

theorem SettingsKey.ofName?_eq_some_iff {name : String} {key : SettingsKey} :
    ofName? name = some key ↔ name = key.name := by
  constructor
  · intro h
    have hfound := List.find?_some h
    simpa using (of_decide_eq_true hfound).symm
  · rintro rfl
    cases key <;> decide

/-- The values that pairs deliver for a key, in their order. -/
def delivered (key : SettingsKey) (pairs : List (String × String)) : List key.Value :=
  pairs.filterMap fun (name, text) => if name = key.name then key.valueOf? text else none

theorem delivered_append (key : SettingsKey) (pairs more : List (String × String)) :
    delivered key (pairs ++ more) = delivered key pairs ++ delivered key more :=
  List.filterMap_append

theorem delivered_cons (key : SettingsKey) (pair : String × String)
    (rest : List (String × String)) :
    delivered key (pair :: rest) = delivered key [pair] ++ delivered key rest :=
  delivered_append key [pair] rest

/-- A pair either sets the one setting that it names, or delivers nothing and does nothing. -/
theorem applyPair_cases (s : Settings) (pair : String × String) :
    (∃ key v, pair.1 = key.name ∧ key.valueOf? pair.2 = some v ∧
      applyPair s pair = (s.set key v, decide (s.set key v ≠ s))) ∨
    ((∀ key, delivered key [pair] = []) ∧ applyPair s pair = (s, false)) := by
  cases hname : ofName? pair.1 with
  | none =>
    refine .inr ⟨?_, by simp [applyPair, hname]⟩
    intro key
    have hne : pair.1 ≠ key.name := by
      intro h
      simp [ofName?_eq_some_iff.2 h] at hname
    simp [delivered, hne]
  | some key =>
    have hkey : pair.1 = key.name := ofName?_eq_some_iff.1 hname
    cases hvalue : key.valueOf? pair.2 with
    | none =>
      refine .inr ⟨?_, by simp [applyPair, hname, SettingsKey.read?_eq, hvalue]⟩
      intro other
      by_cases hother : pair.1 = other.name
      · have hsame : key = other := by
          have := ofName?_eq_some_iff.2 hother
          simpa [hname] using this
        subst hsame
        simp [delivered, hvalue]
      · simp [delivered, hother]
    | some v =>
      exact .inl ⟨key, v, hkey, hvalue, by simp [applyPair, hname, SettingsKey.read?_eq, hvalue]⟩

theorem delivered_single_self {key : SettingsKey} {pair : String × String} {v : key.Value}
    (hname : pair.1 = key.name) (hvalue : key.valueOf? pair.2 = some v) :
    delivered key [pair] = [v] := by
  simp [delivered, hname, hvalue]

theorem delivered_single_ne {key other : SettingsKey} {pair : String × String}
    (hname : pair.1 = key.name) (hne : other ≠ key) : delivered other [pair] = [] := by
  have hother : pair.1 ≠ other.name := by
    intro h
    have hkey := ofName?_eq_some_iff.2 hname
    rw [ofName?_eq_some_iff.2 h] at hkey
    exact hne (Option.some.inj hkey)
  simp [delivered, hother]

theorem value_applyPair (s : Settings) (pair : String × String) (key : SettingsKey) :
    (applyPair s pair).1.value key = (delivered key [pair]).getLast?.getD (s.value key) := by
  rcases applyPair_cases s pair with ⟨named, v, hname, hvalue, happly⟩ | ⟨hnone, happly⟩
  · rw [happly]
    by_cases hkey : key = named
    · subst hkey
      simp [delivered_single_self hname hvalue]
    · simp [delivered_single_ne hname hkey, s.value_set_ne named v hkey]
  · simp [happly, hnone]

theorem changed_applyPair_iff (s : Settings) (pair : String × String) :
    (applyPair s pair).2 = true ↔ ∃ key, ∃ v ∈ delivered key [pair], v ≠ s.value key := by
  rcases applyPair_cases s pair with ⟨named, v, hname, hvalue, happly⟩ | ⟨hnone, happly⟩
  · rw [happly]
    simp only [ne_eq, decide_eq_true_eq, s.set_eq_self_iff]
    constructor
    · intro hne
      exact ⟨named, v, by simp [delivered_single_self hname hvalue], hne⟩
    · rintro ⟨key, w, hw, hne⟩
      by_cases hkey : key = named
      · subst hkey
        rw [delivered_single_self hname hvalue, List.mem_singleton] at hw
        exact hw ▸ hne
      · simp [delivered_single_ne hname hkey] at hw
  · simp [happly, hnone]

theorem applyPair_of_unchanged {s : Settings} {pair : String × String}
    (h : (applyPair s pair).2 = false) : (applyPair s pair).1 = s := by
  rcases applyPair_cases s pair with ⟨named, v, _, _, happly⟩ | ⟨_, happly⟩
  · simp only [happly, ne_eq, decide_not, Bool.not_eq_false', decide_eq_true_eq] at h
    rw [happly, h]
  · rw [happly]

theorem trackingMask_applyPair (s : Settings) (pair : String × String) :
    (applyPair s pair).1.trackingMask = s.trackingMask ∧
      (applyPair s pair).1.trackInit = s.trackInit := by
  rcases applyPair_cases s pair with ⟨named, v, _, _, happly⟩ | ⟨_, happly⟩
  all_goals simp [happly]

/-! ## Applying pairs in turn -/

theorem foldl_applyPair (pairs : List (String × String)) (s : Settings) (changed : Bool) :
    pairs.foldl (fun (s, changed) pair =>
      let (s, now) := applyPair s pair
      (s, now || changed)) (s, changed) =
      ((applyPairs pairs s).1, (applyPairs pairs s).2 || changed) := by
  induction pairs generalizing s changed with
  | nil => simp [applyPairs]
  | cons pair rest ih =>
    simp only [applyPairs, List.foldl_cons]
    rw [ih, ih]
    simp [Bool.or_assoc]

theorem applyPairs_append (pairs more : List (String × String)) (s : Settings) :
    applyPairs (pairs ++ more) s =
      ((applyPairs more (applyPairs pairs s).1).1,
        (applyPairs more (applyPairs pairs s).1).2 || (applyPairs pairs s).2) := by
  rw [← foldl_applyPair, applyPairs, List.foldl_append]
  rfl

theorem applyPairs_cons (pair : String × String) (rest : List (String × String)) (s : Settings) :
    applyPairs (pair :: rest) s =
      ((applyPairs rest (applyPair s pair).1).1,
        (applyPairs rest (applyPair s pair).1).2 || (applyPair s pair).2) := by
  have happend := applyPairs_append [pair] rest s
  simpa [applyPairs] using happend

/-- **The last valid value counts.** -/
theorem value_applyPairs (pairs : List (String × String)) (s : Settings) (key : SettingsKey) :
    (applyPairs pairs s).1.value key = (delivered key pairs).getLast?.getD (s.value key) := by
  induction pairs generalizing s with
  | nil => rfl
  | cons pair rest ih =>
    rw [applyPairs_cons, ih, value_applyPair, delivered_cons key pair rest, List.getLast?_append]
    cases (delivered key rest).getLast? <;> rfl

theorem trackingMask_applyPairs (pairs : List (String × String)) (s : Settings) :
    (applyPairs pairs s).1.trackingMask = s.trackingMask ∧
      (applyPairs pairs s).1.trackInit = s.trackInit := by
  induction pairs generalizing s with
  | nil => exact ⟨rfl, rfl⟩
  | cons pair rest ih =>
    have hpair := trackingMask_applyPair s pair
    have hrest := ih (applyPair s pair).1
    rw [applyPairs_cons]
    exact ⟨hrest.1.trans hpair.1, hrest.2.trans hpair.2⟩

/-- A change is reported exactly when a delivered value is not the old one. -/
theorem changed_applyPairs_iff (pairs : List (String × String)) (s : Settings) :
    (applyPairs pairs s).2 = true ↔ ∃ key, ∃ v ∈ delivered key pairs, v ≠ s.value key := by
  induction pairs generalizing s with
  | nil => simp [applyPairs, delivered]
  | cons pair rest ih =>
    have hpair := changed_applyPair_iff s pair
    have hsplit := fun key => delivered_cons key pair rest
    simp only [applyPairs_cons, hsplit, List.mem_append]
    cases hnow : (applyPair s pair).2 with
    | true =>
      -- the pair itself delivers a new value
      obtain ⟨key, v, hv, hne⟩ := hpair.1 hnow
      simp only [Bool.or_true, true_iff]
      exact ⟨key, v, .inl hv, hne⟩
    | false =>
      -- the pair delivers the old value at most, and the others meet the old settings
      rw [Bool.or_false, applyPair_of_unchanged hnow, ih]
      rw [hnow] at hpair
      constructor
      · rintro ⟨key, v, hv, hne⟩
        exact ⟨key, v, .inr hv, hne⟩
      · rintro ⟨key, v, hv | hv, hne⟩
        · exact absurd (hpair.2 ⟨key, v, hv, hne⟩) Bool.false_ne_true
        · exact ⟨key, v, hv, hne⟩

theorem changed_applyPairs_congr (pairs : List (String × String)) {s s' : Settings}
    (h : ∀ key, s.value key = s'.value key) :
    (applyPairs pairs s).2 = (applyPairs pairs s').2 := by
  rw [Bool.eq_iff_iff, changed_applyPairs_iff, changed_applyPairs_iff]
  simp only [h]

/-- Pairs that report no change have not changed a setting at any time. -/
theorem applyPairs_prefix_of_unchanged {pairs pre : List (String × String)} {s : Settings}
    (h : (applyPairs pairs s).2 = false) (hpre : pre <+: pairs) : (applyPairs pre s).1 = s := by
  obtain ⟨rest, rfl⟩ := hpre
  have hold : ∀ key, ∀ v ∈ delivered key pre, v = s.value key := by
    intro key v hv
    refine Classical.byContradiction fun hne => ?_
    have hchanged := (changed_applyPairs_iff (pre ++ rest) s).2
      ⟨key, v, by simp [delivered_append, hv], hne⟩
    simp [h] at hchanged
  obtain ⟨hmask, hinit⟩ := trackingMask_applyPairs pre s
  refine Settings.ext_values ?_ hmask hinit
  intro key
  rw [value_applyPairs]
  cases hlast : (delivered key pre).getLast? with
  | none => rfl
  | some v => exact hold key v (List.mem_of_getLast? hlast)

/-- A setting that ends up different has been changed at some time. -/
theorem changed_applyPairs_of_ne {pairs : List (String × String)} {s : Settings}
    {key : SettingsKey} (h : (applyPairs pairs s).1.value key ≠ s.value key) :
    (applyPairs pairs s).2 = true := by
  cases hc : (applyPairs pairs s).2 with
  | true => rfl
  | false =>
    rw [applyPairs_prefix_of_unchanged hc List.prefix_rfl] at h
    exact absurd rfl h

theorem length_delivered_le (key : SettingsKey) (pairs : List (String × String)) :
    (delivered key pairs).length ≤ (pairs.map Prod.fst).count key.name := by
  induction pairs with
  | nil => simp [delivered]
  | cons pair rest ih =>
    rw [delivered_cons, List.length_append, List.map_cons, List.count_cons]
    by_cases hname : pair.1 = key.name
    · have hone : (delivered key [pair]).length ≤ 1 := List.length_filterMap_le _ [pair]
      simp only [hname, beq_self_eq_true, if_true]
      omega
    · have hnone : delivered key [pair] = [] := by simp [delivered, hname]
      simp only [hnone, List.length_nil]
      omega

/-- If a key is not repeated, at most one value is delivered for it. -/
theorem delivered_eq_singleton {pairs : List (String × String)} {key : SettingsKey} {v : key.Value}
    (hcount : (pairs.map Prod.fst).count key.name ≤ 1) (hv : v ∈ delivered key pairs) :
    delivered key pairs = [v] := by
  have hlength := Nat.le_trans (length_delivered_le key pairs) hcount
  match hd : delivered key pairs with
  | [] => simp [hd] at hv
  | [w] =>
    rw [hd, List.mem_singleton] at hv
    rw [hv]
  | _ :: _ :: _ => simp [hd] at hlength

theorem changed_applyPairs_iff_of_nodup {pairs : List (String × String)} (s : Settings)
    (hnodup : (pairs.map Prod.fst).Nodup) :
    (applyPairs pairs s).2 = true ↔ ∃ key, (applyPairs pairs s).1.value key ≠ s.value key := by
  rw [changed_applyPairs_iff]
  constructor
  · rintro ⟨key, v, hv, hne⟩
    refine ⟨key, ?_⟩
    rw [value_applyPairs, delivered_eq_singleton (List.nodup_iff_count.1 hnodup _) hv]
    exact hne
  · rintro ⟨key, hne⟩
    rw [value_applyPairs] at hne
    cases hlast : (delivered key pairs).getLast? with
    | none => simp [hlast] at hne
    | some v => exact ⟨key, v, List.mem_of_getLast? hlast, by simpa [hlast] using hne⟩

/-! ## Applying pairs again -/

theorem applyPairs_applyPairs (pairs : List (String × String)) (s : Settings) :
    (applyPairs pairs (applyPairs pairs s).1).1 = (applyPairs pairs s).1 := by
  obtain ⟨hmask, hinit⟩ := trackingMask_applyPairs pairs (applyPairs pairs s).1
  refine Settings.ext_values ?_ hmask hinit
  intro key
  rw [value_applyPairs, value_applyPairs]
  cases (delivered key pairs).getLast? <;> rfl

/-- Pairs that are applied again report a change exactly when two of the values that they
deliver for a key differ. -/
theorem changed_applyPairs_again_iff (pairs : List (String × String)) (s : Settings) :
    (applyPairs pairs (applyPairs pairs s).1).2 = true ↔
      ∃ key, ∃ v ∈ delivered key pairs, ∃ w ∈ delivered key pairs, v ≠ w := by
  rw [changed_applyPairs_iff]
  constructor
  · rintro ⟨key, v, hv, hne⟩
    cases hlast : (delivered key pairs).getLast? with
    | none => simp [List.getLast?_eq_none_iff.1 hlast] at hv
    | some w =>
      rw [value_applyPairs, hlast] at hne
      exact ⟨key, v, hv, w, List.mem_of_getLast? hlast, hne⟩
  · rintro ⟨key, v, hv, w, hw, hne⟩
    -- the stored value cannot be both
    by_cases hstored : v = (applyPairs pairs s).1.value key
    · exact ⟨key, w, hw, fun h => hne (hstored.trans h.symm)⟩
    · exact ⟨key, v, hv, hstored⟩

end Database

end BufferTelemetry
