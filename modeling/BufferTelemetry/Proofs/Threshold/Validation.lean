import BufferTelemetry.Proofs.Counter.RowName
import BufferTelemetry.Threshold
import Mathlib.Data.List.Nodup

/-!
# Valid threshold requests

A request is valid when each of its writes is (`forM_eq_ok_iff`), and a write is valid
exactly when its value lies between one and the factory threshold, its port is one of
the ASIC's and its counter exists (`ThresholdWrite.validate_eq_ok_iff`). The writes of
one request are about counters of different kinds, in canonical coordinates, so they
have different row names, each of which is read back as the counter of its write
(`ThresholdRequest.nodup_rowNames`, `ThresholdRequest.ofRowName_rowName`).
-/

namespace BufferTelemetry

/-- Checks in turn succeed exactly when each of them does. -/
theorem forM_eq_ok_iff {α ε : Type} {check : α → Except ε Unit} {l : List α} :
    l.forM check = .ok () ↔ ∀ x ∈ l, check x = .ok () := by
  induction l with
  | nil => exact ⟨fun _ x hx => (List.not_mem_nil hx).elim, fun _ => rfl⟩
  | cons x rest ih =>
    show (check x >>= fun _ => rest.forM check) = .ok () ↔ _
    rw [List.forall_mem_cons, ← ih]
    cases check x with
    | error e => simp [bind, Except.bind]
    | ok checked => simp [bind, Except.bind]

theorem Counter.exists_offset_iff {c : Counter} : (∃ i, c.offset = .ok i) ↔ c.InBounds := by
  constructor
  · rintro ⟨i, hi⟩
    exact (offset_eq_ok_iff.1 hi).1
  · intro hin
    exact ⟨⟨c.logical, logical_lt_size hin⟩, offset_eq_ok_iff.2 ⟨hin, rfl⟩⟩

namespace ThresholdWrite

/-- The port of a write is one of the ASIC's, if the kind of its counter has ports. -/
def PortExists (caps : Capabilities) (w : ThresholdWrite) : Prop :=
  w.counter.kind.indexing.isDouble = true →
    w.counter.port ≠ 0 ∧ w.counter.port.toUInt64 ≤ caps.numPorts

/-- **Validity of a write.** -/
theorem validate_eq_ok_iff {caps : Capabilities} {w : ThresholdWrite} :
    w.validate caps = .ok () ↔ w.value ≠ 0 ∧ w.value ≤ w.counter.kind.factoryThreshold ∧
      w.PortExists caps ∧ w.counter.InBounds := by
  unfold validate PortExists
  dsimp only
  -- the checks are taken in the order in which they are made: value, port, existence
  by_cases hvalue : w.value = 0 ∨ w.counter.kind.factoryThreshold < w.value
  · have hbad : ¬ (w.value ≠ 0 ∧ w.value ≤ w.counter.kind.factoryThreshold) := by
      rintro ⟨hzero, hle⟩
      rcases hvalue with h | h
      · exact hzero h
      · exact absurd h (UInt64.not_lt.2 hle)
    rw [if_pos hvalue]
    constructor
    · intro h
      cases h
    · rintro ⟨hzero, hle, _⟩
      exact absurd ⟨hzero, hle⟩ hbad
  · obtain ⟨hzero, hle⟩ := not_or.1 hvalue
    rw [if_neg hvalue]
    by_cases hport : w.counter.kind.indexing.isDouble = true ∧
        (w.counter.port = 0 ∨ caps.numPorts < w.counter.port.toUInt64)
    · rw [if_pos hport]
      constructor
      · intro h
        cases h
      · rintro ⟨_, _, hexists, _⟩
        obtain ⟨hne, hports⟩ := hexists hport.1
        rcases hport.2 with h | h
        · exact absurd h hne
        · exact absurd h (UInt64.not_lt.2 hports)
    · rw [if_neg hport, ← Counter.exists_offset_iff]
      have hexists : w.counter.kind.indexing.isDouble = true →
          w.counter.port ≠ 0 ∧ w.counter.port.toUInt64 ≤ caps.numPorts := by
        intro hdouble
        obtain ⟨hne, hnlt⟩ := not_or.1 (not_and.1 hport hdouble)
        exact ⟨hne, UInt64.not_lt.1 hnlt⟩
      cases hoffset : w.counter.offset with
      | error e =>
        constructor
        · intro h
          cases h
        · rintro ⟨_, _, _, i, hi⟩
          cases hi
      | ok i => exact ⟨fun _ => ⟨hzero, UInt64.not_lt.1 hle, hexists, i, rfl⟩, fun _ => rfl⟩

end ThresholdWrite

namespace ThresholdRequest

variable {request : ThresholdRequest} {w w' : ThresholdWrite} {caps : Capabilities}

theorem nodup_kinds (request : ThresholdRequest) :
    (request.writes.map (·.counter.kind)).Nodup := by
  cases request <;> simp [writes]

theorem eq_of_kind_eq (hw : w ∈ request.writes) (hw' : w' ∈ request.writes)
    (h : w.counter.kind = w'.counter.kind) : w = w' :=
  List.inj_on_of_nodup_map request.nodup_kinds hw hw' h

/-- The writes of a request use no coordinate that is ignored. -/
theorem canonical_of_mem (hw : w ∈ request.writes) : w.counter.canonical = w.counter := by
  revert w
  cases request <;> simp [writes, Counter.canonical, CounterKind.indexing]

theorem inBounds_of_valid (hvalid : request.writes.forM (ThresholdWrite.validate caps) = .ok ())
    (hw : w ∈ request.writes) : w.counter.InBounds :=
  (ThresholdWrite.validate_eq_ok_iff.1 (forM_eq_ok_iff.1 hvalid w hw)).2.2.2

theorem ofRowName_rowName (hvalid : request.writes.forM (ThresholdWrite.validate caps) = .ok ())
    (hw : w ∈ request.writes) : Counter.ofRowName w.counter.rowName = .ok w.counter := by
  obtain ⟨p, hp⟩ := Counter.exists_position (inBounds_of_valid hvalid hw)
  rw [Counter.ofRowName_rowName hp, canonical_of_mem hw]

/-- The counters of a request have different row names. -/
theorem nodup_rowNames (request : ThresholdRequest) :
    (request.writes.map (·.counter.rowName)).Nodup := by
  refine List.Nodup.map_on ?_ request.nodup_kinds.of_map
  intro w hw w' hw' hname
  have hsame : w.counter.canonical = w'.counter.canonical := Counter.rowName_eq_iff.1 hname
  exact eq_of_kind_eq hw hw' (Counter.kind_eq_of_canonical_eq hsame)

end ThresholdRequest

end BufferTelemetry
