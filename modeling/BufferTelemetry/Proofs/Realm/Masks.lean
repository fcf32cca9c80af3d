import BufferTelemetry.Realm
import Mathlib.Data.List.Basic
import Mathlib.Order.Basic

/-!
# Sets of realms

The union of masks is that of sets: associative, with the empty mask as its unit, and a mask
does not grow by realms that it has. Masks are ordered by inclusion. A mask that grows by
realms is missing fewer of the eleven afterwards (`length_missing_lt`), so it can do that
eleven times and no more.
-/

namespace BufferTelemetry

namespace Realm

theorem mem_all (r : Realm) : r ∈ all := by cases r <;> decide

theorem nodup_all : all.Nodup := by decide

theorem name_injective : Function.Injective name := by
  intro a b h
  have hfind : ∀ r : Realm, all.find? (·.name = r.name) = some r := by
    intro r
    cases r <;> decide
  exact Option.some.inj ((hfind a).symm.trans (h ▸ hfind b))

end Realm

namespace TrackingMask

@[simp]
theorem union_empty (m : TrackingMask) : m.union empty = m := by
  simp [union, empty]

@[simp]
theorem empty_union (m : TrackingMask) : empty.union m = m := by
  simp [union, empty]

theorem union_assoc (a b c : TrackingMask) : (a.union b).union c = a.union (b.union c) := by
  simp [union, UInt32.or_assoc]

@[simp]
theorem union_self (m : TrackingMask) : m.union m = m := by
  simp [union]

theorem enable_eq_union (m : TrackingMask) (r : Realm) : m.enable r = m.union (empty.enable r) := by
  simp [enable, union, empty]

/-- Realms that come in two steps are all old exactly when those of both steps are. -/
theorem union_union_eq_iff {m a b : TrackingMask} :
    m.union (a.union b) = m ↔ m.union a = m ∧ (m.union a).union b = m.union a := by
  rw [← union_assoc]
  constructor
  · intro h
    -- the realms of the first step lie between the old ones and all
    have hfirst : m.union a = m := by
      calc m.union a = ((m.union a).union b).union a := by rw [h]
        _ = (m.union a).union b := by
          simp only [union, mk.injEq]
          rw [UInt32.or_assoc m.bits, UInt32.or_comm a.bits b.bits, ← UInt32.or_assoc,
            UInt32.or_assoc _ a.bits, UInt32.or_self]
        _ = m := h
    exact ⟨hfirst, h.trans hfirst.symm⟩
  · rintro ⟨hfirst, hsecond⟩
    rw [hsecond, hfirst]

/-! ## Inclusion -/

theorem union_comm (a b : TrackingMask) : a.union b = b.union a := by
  simp [union, UInt32.or_comm]

/-- A mask is at most another one that has all its bits. -/
instance : PartialOrder TrackingMask where
  le m m' := m.union m' = m'
  le_refl := union_self
  le_trans a b c hab hbc := by
    calc a.union c = a.union (b.union c) := by rw [hbc]
      _ = (a.union b).union c := (union_assoc a b c).symm
      _ = b.union c := by rw [hab]
      _ = c := hbc
  le_antisymm a b hab hba := by
    calc a = b.union a := hba.symm
      _ = a.union b := union_comm b a
      _ = b := hab

theorem le_union (m m' : TrackingMask) : m ≤ m.union m' := by
  show m.union (m.union m') = m.union m'
  rw [← union_assoc, union_self]

theorem lt_union_iff {m m' : TrackingMask} : m < m.union m' ↔ m.union m' ≠ m := by
  rw [(m.le_union m').lt_iff_ne, ne_comm]

/-! ## Adding realms -/

section Enable

variable {m m' : TrackingMask} {r : Realm} {realms : List Realm}

theorem enable_eq_self_iff : m.enable r = m ↔ empty.enable r ≤ m := by
  rw [enable_eq_union, union_comm]
  rfl

theorem toBitVec_bit (r : Realm) : r.bit.toBitVec = BitVec.twoPow 32 r.id := by
  cases r <;> decide

/-- A realm is enabled exactly if its bit changes nothing. -/
theorem isEnabled_iff : m.isEnabled r = true ↔ m.enable r = m := by
  have hid : r.id < 32 := by cases r <;> decide
  obtain ⟨bits⟩ := m
  unfold isEnabled enable
  rw [bne_iff_ne, TrackingMask.mk.injEq, ne_eq, ← UInt32.toBitVec_inj, ← UInt32.toBitVec_inj,
    UInt32.toBitVec_and, UInt32.toBitVec_or, toBitVec_bit, BitVec.and_twoPow]
  cases hbits : bits.toBitVec.getLsbD r.id with
  | true =>
    refine iff_of_true ?_ ?_
    · cases r <;> decide
    · refine BitVec.eq_of_getLsbD_eq fun i _ => ?_
      rw [BitVec.getLsbD_or, BitVec.getLsbD_twoPow]
      by_cases h : r.id = i
      · rw [← h, hbits, Bool.true_or]
      · simp [h]
  | false =>
    refine iff_of_false (fun h => h rfl) fun h => ?_
    have hbit : (bits.toBitVec ||| BitVec.twoPow 32 r.id).getLsbD r.id = true := by
      rw [BitVec.getLsbD_or, BitVec.getLsbD_twoPow, decide_eq_true hid, decide_eq_true rfl,
        Bool.and_self, Bool.or_true]
    rw [show bits.toBitVec ||| BitVec.twoPow 32 r.id = bits.toBitVec from h, hbits] at hbit
    cases hbit

theorem enable_right_comm (m : TrackingMask) (r s : Realm) :
    (m.enable r).enable s = (m.enable s).enable r := by
  simp only [enable, UInt32.or_assoc, UInt32.or_comm r.bit]

theorem foldl_enable (m : TrackingMask) (realms : List Realm) :
    realms.foldl enable m = m.union (realms.foldl enable empty) := by
  induction realms generalizing m with
  | nil => exact m.union_empty.symm
  | cons r rest ih =>
    rw [List.foldl_cons, List.foldl_cons, ih, ih (empty.enable r), m.enable_eq_union, union_assoc]

theorem le_foldl_enable (m : TrackingMask) (realms : List Realm) :
    m ≤ realms.foldl enable m := by
  rw [foldl_enable]
  exact m.le_union _

theorem enable_foldl_of_mem (m : TrackingMask) (hmem : r ∈ realms) :
    (realms.foldl enable m).enable r = realms.foldl enable m := by
  induction realms generalizing m with
  | nil => exact absurd hmem List.not_mem_nil
  | cons s rest ih =>
    rw [List.foldl_cons]
    rcases List.mem_cons.1 hmem with rfl | hrest
    · -- the realm is there from the first step on
      have hfirst : empty.enable r ≤ m.enable r := by
        rw [m.enable_eq_union, union_comm]
        exact le_union _ _
      exact enable_eq_self_iff.2 (le_trans hfirst (le_foldl_enable _ rest))
    · exact ih (m.enable s) hrest

theorem foldl_enable_eq_self (h : ∀ r ∈ realms, m.enable r = m) : realms.foldl enable m = m := by
  induction realms with
  | nil => rfl
  | cons r rest ih =>
    rw [List.foldl_cons, h r List.mem_cons_self]
    refine ih ?_
    intro s hs
    exact h s (List.mem_cons_of_mem r hs)

/-- The realms that a mask does not have. -/
def missing (m : TrackingMask) : List Realm := Realm.all.filter fun r => m.enable r ≠ m

theorem mem_missing : r ∈ m.missing ↔ m.enable r ≠ m := by
  simp [missing, r.mem_all]

theorem length_missing_le (m : TrackingMask) : m.missing.length ≤ 11 :=
  List.length_filter_le _ Realm.all

theorem missing_sublist (h : m ≤ m') : m'.missing.Sublist m.missing := by
  refine List.monotone_filter_right _ ?_
  intro r hr
  rw [decide_eq_true_iff] at hr ⊢
  intro hself
  exact hr (enable_eq_self_iff.2 (le_trans (enable_eq_self_iff.1 hself) h))

/-- A mask that grows by realms is missing fewer of them. -/
theorem length_missing_lt (h : m < realms.foldl enable m) :
    (realms.foldl enable m).missing.length < m.missing.length := by
  have hsub := missing_sublist (m.le_foldl_enable realms)
  refine Nat.lt_of_not_le ?_
  intro hle
  have hsame := hsub.eq_of_length_le hle
  -- one of the realms was missing before, and none of them is afterwards
  refine h.ne' (foldl_enable_eq_self ?_)
  intro r hr
  refine Classical.byContradiction fun hmissing => ?_
  rw [← ne_eq, ← mem_missing, ← hsame, mem_missing] at hmissing
  exact hmissing (m.enable_foldl_of_mem hr)

end Enable

end TrackingMask

end BufferTelemetry
