import BufferTelemetry.Proofs.Store.Configurations
import Mathlib.Data.List.Nodup

/-!
# Dumps are complete and unambiguous

A dump lists the counters of a unit that are not zero, kind by kind. Each kind contributes the
entries of its own range (`UnitState.mem_shown_iff`), so an entry is listed under a kind and an
offset exactly if it is the entry of the counter with that kind and offset, and not zero
(`mem_dump_iff`). The listing is strictly ascending in the id of the kind and the offset, so no
counter is listed twice (`nodup_keys`). Together this makes a dump as good as reading the unit
counter by counter (`dump_lists_counters`).
-/

namespace BufferTelemetry

theorem CounterKind.mem_all (k : CounterKind) : k ∈ all := by
  cases k <;> decide

theorem CounterKind.all_ascending : all.Pairwise fun k l => k.id < l.id := by
  decide

theorem CounterKind.id_injective {k l : CounterKind} (h : k.id = l.id) : k = l := by
  revert h
  cases k <;> cases l <;> decide

theorem Counter.offset_map_eq_ok_iff {c : Counter} {i : Nat} :
    c.offset.map Fin.val = .ok i ↔ c.InBounds ∧ c.logical = i := by
  constructor
  · intro h
    cases ho : c.offset with
    | error e =>
      rw [ho] at h
      cases h
    | ok o =>
      obtain ⟨hin, hlogical⟩ := offset_eq_ok_iff.1 ho
      rw [ho] at h
      cases h
      exact ⟨hin, hlogical.symm⟩
  · rintro ⟨hin, rfl⟩
    have ho : c.offset = .ok ⟨c.logical, logical_lt_size hin⟩ := offset_eq_ok_iff.2 ⟨hin, rfl⟩
    rw [ho]
    rfl

/-- There is something to tell about the counter. -/
def Entry.NonZero (e : Entry) : Prop := e.stat ≠ 0 ∨ e.threshold ≠ 0

instance : DecidablePred Entry.NonZero := fun e =>
  inferInstanceAs (Decidable (e.stat ≠ 0 ∨ e.threshold ≠ 0))

namespace UnitState

/-- What a kind contributes to a dump. -/
def shown (u : UnitState) (k : CounterKind) : List (CounterKind × Nat × Entry) :=
  ((u.entries.toArray.extract k.start (k.start + k.size)).toList.zipIdx.filter
    fun (e, _) => e.stat ≠ 0 ∨ e.threshold ≠ 0).map fun (e, i) => (k, i, e)

/-- The entries of a kind are those at the positions behind its first one. -/
theorem getElem?_extract (u : UnitState) (k : CounterKind) (i : Nat) :
    (u.entries.toArray.extract k.start (k.start + k.size)).toList[i]? =
      if i < k.size then u.entries[k.start + i]? else none := by
  have hend := k.start_add_size_le_total
  have hrange : min (k.start + k.size) u.entries.toArray.size - k.start = k.size := by
    rw [u.entries.size_toArray]
    omega
  rw [Array.getElem?_toList, Array.getElem?_extract, hrange, Vector.getElem?_toArray]

theorem mem_shown_iff {u : UnitState} {k l : CounterKind} {i : Nat} {e : Entry} :
    (l, i, e) ∈ u.shown k ↔
      l = k ∧ i < k.size ∧ u.entries[k.start + i]? = some e ∧ e.NonZero := by
  rw [shown, List.mem_map]
  constructor
  · rintro ⟨⟨e', j⟩, hmem, heq⟩
    obtain ⟨hplace, hnonzero⟩ := List.mem_filter.1 hmem
    cases heq
    rw [List.mem_zipIdx_iff_getElem?, getElem?_extract] at hplace
    split at hplace
    · rename_i hi
      exact ⟨rfl, hi, hplace, of_decide_eq_true hnonzero⟩
    · cases hplace
  · rintro ⟨rfl, hi, hplace, hnonzero⟩
    refine ⟨(e, i), List.mem_filter.2 ⟨?_, decide_eq_true hnonzero⟩, rfl⟩
    rw [List.mem_zipIdx_iff_getElem?, getElem?_extract, if_pos hi]
    exact hplace

/-- The offsets of the entries of a kind ascend. -/
theorem shown_ascending (u : UnitState) (k : CounterKind) :
    (u.shown k).Pairwise fun x y => x.2.1 < y.2.1 := by
  rw [shown, List.pairwise_map]
  refine List.Pairwise.filter _ ?_
  have hplaces := (List.zipIdx_map_snd 0
    (u.entries.toArray.extract k.start (k.start + k.size)).toList) ▸ List.pairwise_lt_range'
  exact List.pairwise_map.1 hplaces

end UnitState

/-! ## The listing -/

namespace Dump

/-- The kind and the offset under which an entry is listed, with the kind as its id. -/
def key (x : CounterKind × Nat × Entry) : Nat × Nat := (x.1.id, x.2.1)

/-- The statistic and the threshold of a counter as they are known from the dump. -/
def reading (d : Dump) (k : CounterKind) (i : Nat) : UInt64 × UInt64 :=
  match d.entries.find? fun x => x.1 = k ∧ x.2.1 = i with
  | some (_, _, e) => (e.stat, e.threshold)
  | none => (0, 0)

end Dump

namespace Store

variable {s : Store} {asic : UInt32} {u : UnitState}

theorem units_of_unit (hu : s.unit asic = .ok u) : s.units[asic.toNat]? = some u := by
  unfold unit at hu
  split at hu
  · rename_i found hfound
    cases hu
    exact hfound
  · cases hu

/-- What is read of a counter is the entry of its unit at its position. -/
theorem get_eq_ok_iff_of_unit (hu : s.unit asic = .ok u) {c : Counter} {e : Entry} :
    s.get asic c = .ok e ↔ c.InBounds ∧ u.entries[c.kind.start + c.logical]? = some e := by
  rw [get_eq_ok_iff]
  simp only [cell?, units_of_unit hu, Option.bind_some]
  constructor
  · rintro ⟨p, hp, he⟩
    obtain ⟨hin, hval⟩ := Counter.position_eq_ok_iff.1 hp
    exact ⟨hin, hval ▸ he⟩
  · rintro ⟨hin, he⟩
    obtain ⟨p, hp⟩ := Counter.exists_position hin
    exact ⟨p, hp, (Counter.position_eq_ok_iff.1 hp).2 ▸ he⟩

theorem dump_eq (hu : s.unit asic = .ok u) :
    s.dump asic = .ok { settings := u.settings, entries := CounterKind.all.flatMap u.shown } := by
  rw [dump, hu]
  rfl

/-- An entry is listed exactly for a counter of its kind and offset that is not zero. -/
theorem mem_dump_iff (hu : s.unit asic = .ok u) {k : CounterKind} {i : Nat} {e : Entry} :
    (k, i, e) ∈ CounterKind.all.flatMap u.shown ↔ ∃ c : Counter, c.kind = k ∧
      c.offset.map Fin.val = .ok i ∧ s.get asic c = .ok e ∧ e.NonZero := by
  rw [List.mem_flatMap]
  constructor
  · rintro ⟨k', -, hshown⟩
    obtain ⟨rfl, hi, hentry, hnonzero⟩ := UnitState.mem_shown_iff.1 hshown
    obtain ⟨c, rfl, hin, rfl⟩ := Counter.exists_logical_eq k hi
    exact ⟨c, rfl, Counter.offset_map_eq_ok_iff.2 ⟨hin, rfl⟩,
      (get_eq_ok_iff_of_unit hu).2 ⟨hin, hentry⟩, hnonzero⟩
  · rintro ⟨c, rfl, hoffset, hget, hnonzero⟩
    obtain ⟨hin, rfl⟩ := Counter.offset_map_eq_ok_iff.1 hoffset
    obtain ⟨-, hentry⟩ := (get_eq_ok_iff_of_unit hu).1 hget
    exact ⟨c.kind, c.kind.mem_all, UnitState.mem_shown_iff.2
      ⟨rfl, Counter.logical_lt_size hin, hentry, hnonzero⟩⟩

/-- Whether a counter is listed under its kind and offset, and with which entry. -/
theorem mem_dump_iff_of_offset (hu : s.unit asic = .ok u) {c : Counter} {i : Nat} {e e' : Entry}
    (hoffset : c.offset.map Fin.val = .ok i) (hget : s.get asic c = .ok e) :
    (c.kind, i, e') ∈ CounterKind.all.flatMap u.shown ↔ e' = e ∧ e.NonZero := by
  obtain ⟨hin, rfl⟩ := Counter.offset_map_eq_ok_iff.1 hoffset
  rw [mem_dump_iff hu]
  constructor
  · rintro ⟨d, hkind, hoffset', hget', hnonzero⟩
    obtain ⟨-, hlogical⟩ := Counter.offset_map_eq_ok_iff.1 hoffset'
    obtain ⟨-, hentry⟩ := (get_eq_ok_iff_of_unit hu).1 hget
    obtain ⟨-, hentry'⟩ := (get_eq_ok_iff_of_unit hu).1 hget'
    rw [hkind, hlogical, hentry] at hentry'
    cases hentry'
    exact ⟨rfl, hnonzero⟩
  · rintro ⟨rfl, hnonzero⟩
    exact ⟨c, rfl, hoffset, hget, hnonzero⟩

/-- The listing ascends in the id of the kind, and within a kind in the offset. -/
theorem keys_ascending (u : UnitState) :
    ((CounterKind.all.flatMap u.shown).map Dump.key).Pairwise (Prod.Lex (· < ·) (· < ·)) := by
  rw [List.pairwise_map, List.pairwise_flatMap]
  constructor
  · intro k _
    refine (u.shown_ascending k).imp_of_mem ?_
    rintro ⟨l, i, e⟩ ⟨l', i', e'⟩ hx hy hlt
    obtain ⟨rfl, -⟩ := UnitState.mem_shown_iff.1 hx
    obtain ⟨rfl, -⟩ := UnitState.mem_shown_iff.1 hy
    exact .right _ hlt
  · refine CounterKind.all_ascending.imp ?_
    rintro k l hlt ⟨k', i, e⟩ hx ⟨l', i', e'⟩ hy
    obtain ⟨rfl, -⟩ := UnitState.mem_shown_iff.1 hx
    obtain ⟨rfl, -⟩ := UnitState.mem_shown_iff.1 hy
    exact .left _ _ hlt

theorem nodup_keys (u : UnitState) :
    ((CounterKind.all.flatMap u.shown).map Dump.key).Nodup := by
  refine (keys_ascending u).imp ?_
  rintro x y hlex rfl
  obtain hlt | ⟨-, hlt⟩ := Prod.lex_def.1 hlex
  · exact Nat.lt_irrefl _ hlt
  · exact Nat.lt_irrefl _ hlt

/-- A counter is listed once if it is not zero, else not at all. -/
theorem count_key (hu : s.unit asic = .ok u) {c : Counter} {i : Nat} {e : Entry}
    (hoffset : c.offset.map Fin.val = .ok i) (hget : s.get asic c = .ok e) :
    ((CounterKind.all.flatMap u.shown).map Dump.key).count (c.kind.id, i) =
      if e.NonZero then 1 else 0 := by
  have hmem : (c.kind.id, i) ∈ (CounterKind.all.flatMap u.shown).map Dump.key ↔ e.NonZero := by
    rw [List.mem_map]
    constructor
    · rintro ⟨⟨k, j, e'⟩, hlisted, hkey⟩
      obtain ⟨hid, rfl⟩ := Prod.mk.inj hkey
      obtain rfl : k = c.kind := CounterKind.id_injective hid
      exact ((mem_dump_iff_of_offset hu hoffset hget).1 hlisted).2
    · intro hnonzero
      exact ⟨_, (mem_dump_iff_of_offset hu hoffset hget).2 ⟨rfl, hnonzero⟩, rfl⟩
  split
  · rename_i hnonzero
    exact List.count_eq_one_of_mem (nodup_keys u) (hmem.2 hnonzero)
  · rename_i hzero
    exact List.count_eq_zero.2 fun h => hzero (hmem.1 h)

theorem reading_eq (hu : s.unit asic = .ok u) {c : Counter} {i : Nat} {e : Entry}
    (hoffset : c.offset.map Fin.val = .ok i) (hget : s.get asic c = .ok e) :
    Dump.reading ⟨u.settings, CounterKind.all.flatMap u.shown⟩ c.kind i = (e.stat, e.threshold) := by
  unfold Dump.reading
  split
  · rename_i k j e' hfound
    have hlisted := List.mem_of_find?_eq_some hfound
    have hmatch := List.find?_some hfound
    obtain ⟨rfl, rfl⟩ : k = c.kind ∧ j = i := of_decide_eq_true hmatch
    rw [((mem_dump_iff_of_offset hu hoffset hget).1 hlisted).1]
  · rename_i hnone
    have hzero : ¬ e.NonZero := by
      intro hnonzero
      have hlisted := (mem_dump_iff_of_offset hu hoffset hget).2 ⟨rfl, hnonzero⟩
      exact List.find?_eq_none.1 hnone _ hlisted (decide_eq_true ⟨rfl, rfl⟩)
    obtain ⟨hstat, hthreshold⟩ := not_or.1 hzero
    rw [Classical.not_not.1 hstat, Classical.not_not.1 hthreshold]

/-- **Dumps.** Every unit has a dump, and a unit that does not exist has none. An entry is listed
under a kind and an offset exactly if there is a counter of the kind with the offset, this is what
is read of it, and its statistic or its threshold is not zero. The listing is in the order of the
kinds and within a kind in that of the offsets. Every counter of the unit is listed once if it is
not zero, else not at all, and so its statistic and its threshold can be told from the dump, for
both are zero if it is not listed. -/
theorem dump_lists_counters (s : Store) (asic : UInt32) :
    (s.numUnits ≤ asic.toNat → s.dump asic = .error (unknownUnit asic)) ∧
    (asic.toNat < s.numUnits → ∃ d, s.dump asic = .ok d ∧
      s.settings? asic = some d.settings ∧
      -- what is listed, and in which order
      (∀ k i e, (k, i, e) ∈ d.entries ↔ ∃ c : Counter, c.kind = k ∧
        c.offset.map Fin.val = .ok i ∧ s.get asic c = .ok e ∧ (e.stat ≠ 0 ∨ e.threshold ≠ 0)) ∧
      (d.entries.map Dump.key).Pairwise (Prod.Lex (· < ·) (· < ·)) ∧
      -- what is known of each counter
      ∀ (c : Counter) i, c.offset.map Fin.val = .ok i → ∃ e, s.get asic c = .ok e ∧
        (d.entries.map Dump.key).count (c.kind.id, i) =
          (if e.stat ≠ 0 ∨ e.threshold ≠ 0 then 1 else 0) ∧
        d.reading c.kind i = (e.stat, e.threshold)) := by
  constructor
  · intro hnone
    rw [dump, unit_eq_error hnone]
    rfl
  · intro hunit
    obtain ⟨u, hu⟩ := exists_unit hunit
    refine ⟨_, dump_eq hu, ?_, fun k i e => mem_dump_iff hu, keys_ascending u, ?_⟩
    · rw [settings?, units_of_unit hu, Option.map_some]
    · intro c i hoffset
      obtain ⟨hin, -⟩ := Counter.offset_map_eq_ok_iff.1 hoffset
      obtain ⟨p, hp⟩ := Counter.exists_position hin
      obtain ⟨e, he⟩ := exists_cell hunit p
      have hget : s.get asic c = .ok e := get_eq_ok_iff.2 ⟨p, hp, he⟩
      exact ⟨e, hget, count_key hu hoffset hget, reading_eq hu hoffset hget⟩

end Store

end BufferTelemetry
