import BufferTelemetry.Proofs.Store.Entries

/-!
# The store as a table of settings

Beside the entries of its counters (`Store.cell?`) a unit has its settings, seen through
`Store.settings?`. A change of settings is a `configure` of one unit, which leaves all
counters and all other units alone, and a recorded counter leaves all settings alone.
The two views together determine the store (`ext_views`).
-/

namespace BufferTelemetry.Store

/-- The settings of a unit as they are stored, if there is such a unit. -/
def settings? (s : Store) (unit : UInt32) : Option Settings :=
  s.units[unit.toNat]?.map (·.settings)

/-- The store with the settings of one unit changed. -/
def configure (s : Store) (unit : UInt32) (f : Settings → Settings) : Store :=
  ⟨s.units.modify unit.toNat fun u => { u with settings := f u.settings }⟩

theorem settings?_eq_none_iff {s : Store} {unit : UInt32} :
    s.settings? unit = none ↔ s.numUnits ≤ unit.toNat := by
  simp [settings?, numUnits]

theorem exists_settings {s : Store} {unit : UInt32} (hu : unit.toNat < s.numUnits) :
    ∃ old, s.settings? unit = some old := by
  rw [← Option.isSome_iff_exists, Option.isSome_iff_ne_none, ne_eq, settings?_eq_none_iff]
  omega

theorem lt_of_settings? {s : Store} {unit : UInt32} {old : Settings}
    (h : s.settings? unit = some old) : unit.toNat < s.numUnits := by
  refine Nat.lt_of_not_le ?_
  intro hge
  simp [settings?_eq_none_iff.2 hge] at h

/-- What is read of the settings of a unit. -/
theorem settings_eq {s : Store} {unit : UInt32} {old : Settings}
    (h : s.settings? unit = some old) : s.settings unit = .ok old.withTriggerDefault := by
  obtain ⟨u, hu, rfl⟩ := Option.map_eq_some_iff.1 h
  simp [settings, Store.unit, hu, bind, Except.bind, pure, Except.pure]

/-! ## Units that exist and units that do not -/

section Units

variable {s : Store} {unit : UInt32}

theorem unit_eq_error (hu : s.numUnits ≤ unit.toNat) : s.unit unit = .error (unknownUnit unit) := by
  rw [Store.unit, Array.getElem?_eq_none hu]

theorem exists_unit (hu : unit.toNat < s.numUnits) : ∃ u, s.unit unit = .ok u := by
  have hlt : unit.toNat < s.units.size := hu
  exact ⟨s.units[unit.toNat], by rw [Store.unit, Array.getElem?_eq_getElem hlt]⟩

/-- Settings are read with the default limit in place of one that is not configured. -/
theorem of_settings_eq_ok {x : Settings} (h : s.settings unit = .ok x) :
    ∃ old : Settings, x = old.withTriggerDefault := by
  rcases Nat.lt_or_ge unit.toNat s.numUnits with hlt | hge
  · obtain ⟨old, hold⟩ := exists_settings hlt
    rw [settings_eq hold] at h
    cases h
    exact ⟨old, rfl⟩
  · simp only [settings, unit_eq_error hge, bind, Except.bind, reduceCtorEq] at h

theorem updateSettings_error {α : Type} (f : Settings → Settings × α)
    (hu : s.numUnits ≤ unit.toNat) : s.updateSettings unit f = .error (unknownUnit unit) := by
  simp only [updateSettings, unit_eq_error hu, bind, Except.bind]

theorem setSettings_error (settings : Settings) (hu : s.numUnits ≤ unit.toNat) :
    s.setSettings unit settings = .error (unknownUnit unit) := by
  simp only [setSettings, updateSettings_error _ hu, bind, Except.bind]

end Units

section Configure

variable {s : Store} {unit : UInt32} {f : Settings → Settings}

@[simp]
theorem numUnits_configure : (s.configure unit f).numUnits = s.numUnits := by
  simp [configure, numUnits]

theorem units_configure_of_ne {i : Nat} (hi : i ≠ unit.toNat) :
    (s.configure unit f).units[i]? = s.units[i]? := by
  rw [configure, Array.getElem?_modify, if_neg (Ne.symm hi)]

theorem configure_sameCounters : SameCounters s (s.configure unit f) :=
  sameCounters_modify s unit f

theorem settings?_configure (v : UInt32) :
    (s.configure unit f).settings? v =
      if v = unit then (s.settings? v).map f else s.settings? v := by
  simp only [configure, settings?, Array.getElem?_modify]
  by_cases hv : v = unit
  · subst hv
    cases s.units[v.toNat]? <;> simp
  · have hne : unit.toNat ≠ v.toNat := fun h => hv (UInt32.toNat_inj.1 h).symm
    simp [hne, hv]

/-- Settings that stay the same leave the store the same. -/
theorem configure_eq_self {old : Settings} (hold : s.settings? unit = some old)
    (hf : f old = old) : s.configure unit f = s := by
  obtain ⟨u, hu, rfl⟩ := Option.map_eq_some_iff.1 hold
  have hunits : s.units.modify unit.toNat (fun u => { u with settings := f u.settings }) =
      s.units := by
    apply Array.ext_getElem?
    intro i
    rw [Array.getElem?_modify]
    split
    · rename_i hi
      subst hi
      simp [hu, hf]
    · rfl
  rw [configure, hunits]

theorem updateSettings_eq {α : Type} {old : Settings} (g : Settings → Settings × α)
    (hold : s.settings? unit = some old) :
    s.updateSettings unit g = .ok ((g old).2, s.configure unit fun t => (g t).1) := by
  have hlt : unit.toNat < s.units.size := lt_of_settings? hold
  obtain ⟨u, hu, rfl⟩ := Option.map_eq_some_iff.1 hold
  have hunit : s.unit unit = .ok u := by simp only [Store.unit, hu]
  simp [updateSettings, hunit, modifyUnit, hlt, configure, bind, Except.bind, pure, Except.pure]

theorem setSettings_eq {old : Settings} (settings : Settings)
    (hold : s.settings? unit = some old) :
    s.setSettings unit settings = .ok (s.configure unit fun _ => settings.withTriggerDefault) := by
  rw [setSettings, updateSettings_eq _ hold]
  rfl

end Configure

theorem settings?_write (s : Store) (unit : UInt32) (p : Fin CounterKind.total) (e : Entry)
    (v : UInt32) : (s.write unit p e).settings? v = s.settings? v := by
  simp only [write, settings?, Array.getElem?_modify]
  split
  · cases s.units[v.toNat]? <;> simp [UnitState.put]
  · rfl

/-- Stores with the same counters and the same settings are the same. -/
theorem ext_views {s s' : Store} (hsize : s.numUnits < UInt32.size) (hsame : SameCounters s s')
    (hsettings : ∀ v, s'.settings? v = s.settings? v) : s' = s := by
  obtain ⟨units⟩ := s
  obtain ⟨units'⟩ := s'
  rw [Store.mk.injEq]
  have hlen : units'.size = units.size := hsame.1
  apply Array.ext hlen
  intro i hi' hi
  -- every unit has a number of thirty-two bits, by which the views look it up
  have hnum : (UInt32.ofNat i).toNat = i :=
    UInt32.toNat_ofNat_of_lt' (Nat.lt_trans hi hsize)
  have hentries : units'[i].entries = units[i].entries := by
    apply Vector.ext
    intro p hp
    have hcell := hsame.2 (.ofNat i) ⟨p, hp⟩
    simpa [cell?, hnum, hi, hi', hp] using hcell
  have hset : units'[i].settings = units[i].settings := by
    have hunit := hsettings (.ofNat i)
    simpa [settings?, hnum, hi, hi'] using hunit
  cases hu' : units'[i]
  cases hu : units[i]
  simp_all

end BufferTelemetry.Store
