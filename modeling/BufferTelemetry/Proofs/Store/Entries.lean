import BufferTelemetry.Proofs.Counter.Layout
import BufferTelemetry.Store

/-!
# The store as a table of entries

The counters of a store are seen through `Store.cell?`, the entry at a position
of a unit. Everything later proofs need of the operations is said here in terms of
that view: a read looks one entry up (`get_eq_ok_iff`), a recorded counter changes
one entry and no other (`put_eq_write`, `cell?_write`), and the operations on
settings change none (`SameCounters`).
-/

namespace BufferTelemetry

namespace Counter

theorem place_of_ok {c : Counter} {p : Fin CounterKind.total} (h : c.position = .ok p) :
    c.place = .ok p := by
  rw [place, h]

theorem place_of_error {c : Counter} {e : Error} (h : c.position = .error e) :
    c.place = .error (.invalidParameter e.message) := by
  rw [place, h]

end Counter

namespace Store

/-- The entry at a position of a unit, if there is such a unit. -/
def cell? (s : Store) (unit : UInt32) (p : Fin CounterKind.total) : Option Entry :=
  s.units[unit.toNat]?.bind fun u => u.entries[p.val]?

/-- The store with one entry replaced. -/
def write (s : Store) (unit : UInt32) (p : Fin CounterKind.total) (e : Entry) : Store :=
  ⟨s.units.modify unit.toNat (·.put p e)⟩

theorem cell?_eq_none_iff {s : Store} {unit : UInt32} {p : Fin CounterKind.total} :
    s.cell? unit p = none ↔ s.numUnits ≤ unit.toNat := by
  rw [cell?, numUnits, ← Array.getElem?_eq_none_iff]
  cases s.units[unit.toNat]? with
  | none => simp
  | some u => simp

theorem exists_cell {s : Store} {unit : UInt32} (hu : unit.toNat < s.numUnits)
    (p : Fin CounterKind.total) : ∃ e, s.cell? unit p = some e := by
  rw [← Option.isSome_iff_exists, Option.isSome_iff_ne_none, ne_eq, cell?_eq_none_iff]
  omega

/-- A counter can be read exactly when it has a position in a unit that exists. -/
theorem get_eq_ok_iff {s : Store} {unit : UInt32} {c : Counter} {e : Entry} :
    s.get unit c = .ok e ↔ ∃ p, c.position = .ok p ∧ s.cell? unit p = some e := by
  simp only [get, Store.unit, UnitState.get, Counter.place, cell?]
  cases hu : s.units[unit.toNat]? with
  | none => simp [bind, Except.bind]
  | some u =>
    cases hp : c.position with
    | error err => simp [bind, Except.bind]
    | ok p => simp [bind, Except.bind, pure, Except.pure]

/-- What is read of a counter depends on its own entry only. -/
theorem get_congr {s s' : Store} {unit : UInt32} {c : Counter} (hn : s'.numUnits = s.numUnits)
    (hcell : ∀ p, c.position = .ok p → s'.cell? unit p = s.cell? unit p) :
    s'.get unit c = s.get unit c := by
  by_cases hu : unit.toNat < s.numUnits
  · cases hp : c.position with
    | ok p =>
      obtain ⟨e, he⟩ := exists_cell hu p
      rw [get_eq_ok_iff.2 ⟨p, hp, he⟩, get_eq_ok_iff.2 ⟨p, hp, (hcell p hp).trans he⟩]
    | error err =>
      -- both reads fail, with the error of the address
      have hu' : unit.toNat < s'.numUnits := hn ▸ hu
      simp only [numUnits] at hu hu'
      simp only [get, Store.unit, UnitState.get, Counter.place_of_error hp,
        Array.getElem?_eq_getElem hu, Array.getElem?_eq_getElem hu', bind, Except.bind]
  · have hu' : ¬ unit.toNat < s'.numUnits := hn ▸ hu
    simp only [numUnits, Nat.not_lt] at hu hu'
    simp only [get, Store.unit, Array.getElem?_eq_none hu, Array.getElem?_eq_none hu', bind,
      Except.bind]

/-- Recording a counter of a unit that exists writes one entry. -/
theorem put_eq_write {s : Store} {unit : UInt32} {c : Counter} {p : Fin CounterKind.total}
    (hp : c.position = .ok p) (hu : unit.toNat < s.numUnits) (factory : Bool) (e : Entry) :
    s.put unit c factory e = .ok (s.write unit p
      (if factory then { e with threshold := c.kind.factoryThreshold } else e)) := by
  simp only [put, Counter.place_of_ok hp, bind, Except.bind, modifyUnit, write]
  exact if_pos hu

@[simp]
theorem numUnits_write (s : Store) (unit : UInt32) (p : Fin CounterKind.total) (e : Entry) :
    (s.write unit p e).numUnits = s.numUnits := by
  simp only [write, numUnits, Array.size_modify]

/-- A written entry is found again, and every other entry is unchanged. -/
theorem cell?_write {s : Store} {unit : UInt32} (hu : unit.toNat < s.numUnits)
    (p : Fin CounterKind.total) (e : Entry) (v : UInt32) (q : Fin CounterKind.total) :
    (s.write unit p e).cell? v q = if v = unit ∧ q = p then some e else s.cell? v q := by
  simp only [write, cell?, Array.getElem?_modify]
  by_cases hv : unit = v
  · subst hv
    have hlt : unit.toNat < s.units.size := hu
    simp only [if_pos, Array.getElem?_eq_getElem hlt, Option.map_some, true_and]
    by_cases hq : q = p
    · subst hq
      simp [UnitState.put]
    · have hne : p.val ≠ q.val := fun h => hq (Fin.ext h.symm)
      simp [UnitState.put, hq, Vector.getElem_set_ne _ _ hne]
  · have hne : unit.toNat ≠ v.toNat := fun h => hv (UInt32.toNat_inj.1 h)
    rw [if_neg hne, if_neg (fun h => hv h.1.symm)]

theorem units_write_of_ne (s : Store) {unit : UInt32} (p : Fin CounterKind.total) (e : Entry)
    {i : Nat} (hi : i ≠ unit.toNat) : (s.write unit p e).units[i]? = s.units[i]? := by
  rw [write, Array.getElem?_modify, if_neg (Ne.symm hi)]

@[simp]
theorem numUnits_initial (n : Nat) : (initial n).numUnits = n := by
  simp only [initial, numUnits, Array.size_replicate]

theorem cell?_initial {n : Nat} {unit : UInt32} (hu : unit.toNat < n)
    (p : Fin CounterKind.total) : (initial n).cell? unit p = some .initial := by
  simp [initial, cell?, hu, UnitState.initial]

/-! ## Operations on settings -/

/-- The stores have the same units with the same counters. -/
def SameCounters (s s' : Store) : Prop :=
  s'.numUnits = s.numUnits ∧ ∀ v p, s'.cell? v p = s.cell? v p

theorem SameCounters.refl (s : Store) : SameCounters s s := ⟨rfl, fun _ _ => rfl⟩

/-- Two stores with the units of a third one have the same counters if they agree on those that
the third one has. -/
theorem SameCounters.of_counters {s t t' : Store} (hn : t.numUnits = s.numUnits)
    (hn' : t'.numUnits = s.numUnits)
    (hcell : ∀ unit (c : Counter) p e, c.position = .ok p → s.cell? unit p = some e →
      t'.cell? unit p = t.cell? unit p) : SameCounters t t' := by
  refine ⟨hn'.trans hn.symm, ?_⟩
  intro unit p
  by_cases hu : unit.toNat < s.numUnits
  · obtain ⟨e, he⟩ := exists_cell hu p
    obtain ⟨c, hc⟩ := Counter.exists_counter_at p
    exact hcell unit c p e hc he
  · have hnone : ∀ t : Store, t.numUnits = s.numUnits → t.cell? unit p = none := by
      intro t ht
      rw [cell?_eq_none_iff, ht]
      omega
    rw [hnone t hn, hnone t' hn']

theorem sameCounters_modify (s : Store) (unit : UInt32) (f : Settings → Settings) :
    SameCounters s ⟨s.units.modify unit.toNat fun u => { u with settings := f u.settings }⟩ := by
  refine ⟨by simp only [numUnits, Array.size_modify], ?_⟩
  intro v p
  simp only [cell?, Array.getElem?_modify]
  split
  · rw [Option.bind_map]
    rfl
  · rfl

theorem updateSettings_sameCounters {α : Type} {s s' : Store} {unit : UInt32}
    {f : Settings → Settings × α} {a : α} (h : s.updateSettings unit f = .ok (a, s')) :
    SameCounters s s' := by
  simp only [updateSettings, bind, Except.bind, modifyUnit] at h
  split at h
  · cases h
  · split at h
    · cases h
    · rename_i modified hmod
      split at hmod
      · cases hmod
        cases h
        exact sameCounters_modify s unit fun old => (f old).1
      · cases hmod

theorem setSettings_sameCounters {s s' : Store} {unit : UInt32} {settings : Settings}
    (h : s.setSettings unit settings = .ok s') : SameCounters s s' := by
  simp only [setSettings, bind, Except.bind] at h
  split at h
  · cases h
  · rename_i result hupdate
    cases h
    exact updateSettings_sameCounters hupdate

theorem mergeTracking_sameCounters {s s' : Store} {unit : UInt32} {observed : TrackingMask}
    {changed : Bool} (h : s.mergeTracking unit observed = .ok (changed, s')) :
    SameCounters s s' :=
  updateSettings_sameCounters h

end Store

end BufferTelemetry
