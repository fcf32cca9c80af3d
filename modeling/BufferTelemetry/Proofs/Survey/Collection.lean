import BufferTelemetry.Database.Services
import BufferTelemetry.Proofs.Rpc.Actions
import BufferTelemetry.Proofs.Store.Entries
import BufferTelemetry.Proofs.Survey.Cells

/-!
# Collected snapshots

A survey of the store succeeds if all counters that it visits exist, and its cells then
hold what is read of the counters one by one (`collect_eq`). They all exist on a Trident2
of at most as many ports as there can be (`fits_trident2`).
-/

namespace BufferTelemetry

namespace Survey

/-- The capabilities count no more counters than there are. -/
structure Fits (caps : Capabilities) : Prop where
  ports_le : count caps.numPorts ≤ maxPorts
  width_le : ∀ k : CounterKind, width caps k ≤ k.indexing.columns

theorem Fits.inBounds {caps : Capabilities} (h : Fits caps) {c : Counter} (hc : Visited caps c) :
    c.InBounds := by
  have hindex : c.index.toNat < c.kind.indexing.columns :=
    Nat.lt_of_lt_of_le hc.index_lt (h.width_le c.kind)
  cases hx : c.kind.indexing with
  | single => simp only [Counter.InBounds, hx]
  | row columns =>
    rw [hx] at hindex
    simp only [Counter.InBounds, hx]
    exact hindex
  | grid rows columns =>
    rw [hx] at hindex
    have hrows : maxPorts ≤ rows := by
      have hkind : maxPorts ≤ c.kind.indexing.rows := by
        revert hx
        cases c.kind <;> simp [CounterKind.indexing, Indexing.rows, maxPorts]
      rwa [hx] at hkind
    obtain ⟨hle, hlt⟩ := hc.port_le (by rw [hx]; rfl)
    have hports := h.ports_le
    simp only [Counter.InBounds, hx]
    exact ⟨hle, by omega, hindex⟩

theorem count_eq {n : UInt64} (h : n.toNat < UInt32.size) : count n = n.toNat := by
  rw [count, UInt64.toNat_toUInt32]
  exact Nat.mod_eq_of_lt h

theorem count_ports_le {numPorts : UInt64} (h : numPorts ≤ 130) : count numPorts ≤ maxPorts := by
  have hle : numPorts.toNat ≤ 130 := UInt64.le_iff_toNat_le.1 h
  have hsmall : numPorts.toNat < UInt32.size := Nat.lt_of_le_of_lt hle (by decide)
  rw [count_eq hsmall]
  exact hle

/-- A Trident2 has no more counters than there are. -/
theorem fits_trident2 {numPorts : UInt64} (h : numPorts ≤ 130) : Fits (.trident2 numPorts) where
  ports_le := count_ports_le h
  width_le k := by
    -- of the capabilities of a Trident2, only the number of ports varies
    have hsame : width (.trident2 numPorts) k = width (.trident2 0) k := by
      cases k <;> rfl
    rw [hsame]
    cases k <;> decide

end Survey

namespace Database.Backend

open Rpc

variable {σ : Type} {s : Store} {asics : List Asic} {unit : UInt32} {pick : Entry → UInt64}

/-- The value that is picked of a counter, and zero if it cannot be read. -/
def valueOf (s : Store) (unit : UInt32) (pick : Entry → UInt64) (c : Counter) : UInt64 :=
  ((s.get unit c).toOption.map pick).getD 0

theorem valueOf_eq {c : Counter} {e : Entry} (h : s.get unit c = .ok e) :
    valueOf s unit pick c = pick e := by
  rw [valueOf, h]
  rfl

/-- Counters that exist are read one by one. -/
theorem reader_eq (pick : Entry → UInt64) (hu : unit.toNat < s.numUnits) :
    ∃ read, reader s unit pick = .ok read ∧
      ∀ c : Counter, c.InBounds → read c = pure (valueOf s unit pick c) := by
  have hlt : unit.toNat < s.units.size := hu
  have hunit : s.unit unit = .ok s.units[unit.toNat] := by
    rw [Store.unit, Array.getElem?_eq_getElem hlt]
  refine ⟨fun c => (s.units[unit.toNat].get c).map pick, ?_, ?_⟩
  · rw [reader, hunit]
    rfl
  · intro c hin
    obtain ⟨p, hp⟩ := Counter.exists_position hin
    obtain ⟨e, he⟩ := Store.exists_cell hu p
    have hget : s.get unit c = .ok e := Store.get_eq_ok_iff.2 ⟨p, hp, he⟩
    have hread : s.units[unit.toNat].get c = .ok e := by
      rw [Store.get, hunit] at hget
      exact hget
    show (s.units[unit.toNat].get c).map pick = pure (valueOf s unit pick c)
    rw [valueOf_eq hget, hread]
    rfl

theorem capabilities_eq (asics : List Asic) (unit : UInt32) (b : Backend σ) :
    (capabilities asics unit : Action (Backend σ) Capabilities) b =
      ((findAsic asics unit).map Asic.capabilities, b) := by
  rw [capabilities, Action.bind_apply, Action.ofExcept_apply]
  cases findAsic asics unit <;> rfl

/-- What a survey needs: the capabilities of an ASIC and the reader of a unit, both of which
exist. -/
def surveyed (asics : List Asic) (s : Store) (unit : UInt32) (pick : Entry → UInt64) :
    Except Error (Capabilities × (Counter → Except Error UInt64)) := do
  let asic ← findAsic asics unit
  let read ← reader s unit pick
  return (asic.capabilities, read)

/-- A survey of the store answers what it finds there, and leaves everything as it is. -/
theorem survey_apply {α : Type}
    (survey : Capabilities → (Counter → Except Error UInt64) → Except Error α) (b : Backend σ) :
    (do
      let caps ← capabilities asics unit
      let b ← get
      Action.ofExcept do
        survey caps (← reader b.store unit pick) : Action (Backend σ) α) b =
      (surveyed asics b.store unit pick >>= fun (caps, read) => survey caps read, b) := by
  have hcaps := capabilities_eq asics unit b
  cases hasic : findAsic asics unit with
  | error e =>
    rw [hasic] at hcaps
    rw [Action.bind_error hcaps, surveyed, hasic]
    rfl
  | ok asic =>
    rw [hasic] at hcaps
    rw [Action.bind_ok hcaps, Action.bind_ok (Action.get_apply b), Action.ofExcept_apply,
      surveyed, hasic]
    cases reader b.store unit pick <;> rfl

theorem collect_apply (b : Backend σ) :
    collect asics unit pick b =
      (surveyed asics b.store unit pick >>= fun (caps, read) => Survey.snapshot caps read, b) :=
  survey_apply Survey.snapshot b

theorem collectRealm_apply (b : Backend σ) (r : Realm) :
    collectRealm asics unit r pick b =
      (surveyed asics b.store unit pick >>= fun (caps, read) => Survey.realm caps read r, b) :=
  survey_apply (fun caps read => Survey.realm caps read r) b

/-- **Collection.** A snapshot of a unit holds what is read of its counters. -/
theorem collect_eq {asic : Asic} (hasic : findAsic asics unit = .ok asic)
    (hfits : Survey.Fits asic.capabilities) (b : Backend σ) (hu : unit.toNat < b.store.numUnits) :
    collect asics unit pick b =
      (.ok (Survey.snapshot (m := Id) asic.capabilities (valueOf b.store unit pick)).run, b) := by
  obtain ⟨read, hreader, hread⟩ := reader_eq pick hu
  have hsurveyed : surveyed asics b.store unit pick = .ok (asic.capabilities, read) := by
    rw [surveyed, hasic, hreader]
    rfl
  rw [collect_apply, hsurveyed]
  show (Survey.snapshot asic.capabilities read, b) = _
  rw [Survey.snapshot_eq_pure fun c hc => hread c (hfits.inBounds hc)]
  rfl

end Database.Backend

end BufferTelemetry
