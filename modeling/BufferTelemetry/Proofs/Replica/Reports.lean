import BufferTelemetry.Database.Observation
import BufferTelemetry.Proofs.Counter.RowName

/-!
# Reports of counters

A counter row is *accepted* when it names a unit that exists and a counter that
exists, and then it *reports* the state of that counter; `Accepted` and `Reports` say
so column by column, without the machinery that reads a row. The reader makes an
observation of exactly the accepted rows (`accepted_iff_ofRow?`), and the observation
is what the row reports (`reports_iff_ofRow?`).

`LastReport` is the state of a counter after a sequence of rows: what the last row
that reports the counter says, and the state before if no row does.
-/

namespace BufferTelemetry.Database

/-- The row names a unit that exists and a counter that exists. -/
def Accepted (numUnits : Nat) (row : Json) : Prop :=
  (∃ w, (column? row "hw_unit_id").bind Json.word? = some w ∧ w.toNat < numUnits) ∧
  ∃ name d, column? row "name" = some (.str name) ∧ Counter.ofRowName name = .ok d

/-- The row is accepted, and reports that the counter of the unit is in the given state. -/
structure Reports (numUnits : Nat) (row : Json) (unit : UInt32) (c : Counter) (e : Entry) :
    Prop where
  unit_eq : ∃ w, (column? row "hw_unit_id").bind Json.word? = some w ∧
    w.toNat = unit.toNat ∧ w.toNat < numUnits
  counter_eq : ∃ name d, column? row "name" = some (.str name) ∧
    Counter.ofRowName name = .ok d ∧ d.canonical = c.canonical
  stat_eq : e.stat = ((column? row "counter_value").bind Json.word?).getD 0
  threshold_eq : e.threshold =
    ((column? row "trigger_threshold").bind Json.word?).getD c.kind.factoryThreshold
  enabled_iff : e.enabled = true ↔ column? row "enabled" = some (.bool true)

theorem Reports.unique {n : Nat} {row : Json} {unit : UInt32} {c : Counter} {e e' : Entry}
    (h : Reports n row unit c e) (h' : Reports n row unit c e') : e = e' := by
  obtain ⟨stat, threshold, enabled⟩ := e
  obtain ⟨stat', threshold', enabled'⟩ := e'
  rw [Entry.mk.injEq]
  refine ⟨h.stat_eq.trans h'.stat_eq.symm, h.threshold_eq.trans h'.threshold_eq.symm, ?_⟩
  exact Bool.eq_iff_iff.2 (h.enabled_iff.trans h'.enabled_iff.symm)

/-- The state of a counter after some rows, if it was in the state `base` before. -/
inductive LastReport (numUnits : Nat) (rows : List Json) (unit : UInt32) (c : Counter)
    (base : Entry) : Entry → Prop
  | unreported : (∀ row ∈ rows, ∀ e, ¬ Reports numUnits row unit c e) →
      LastReport numUnits rows unit c base base
  | reported (before row after e) : rows = before ++ row :: after →
      Reports numUnits row unit c e →
      (∀ later ∈ after, ∀ e', ¬ Reports numUnits later unit c e') →
      LastReport numUnits rows unit c base e

namespace LastReport

variable {n : Nat} {rows more : List Json} {row : Json} {unit : UInt32} {c : Counter}
  {base e e' : Entry}

theorem nil : LastReport n [] unit c base base :=
  .unreported (by simp)

theorem single (h : Reports n row unit c e) : LastReport n [row] unit c base e :=
  .reported [] row [] e rfl h (by simp)

theorem append (h : LastReport n rows unit c base e) (h' : LastReport n more unit c e e') :
    LastReport n (rows ++ more) unit c base e' := by
  cases h' with
  | unreported hmore =>
    cases h with
    | unreported hrows =>
      refine .unreported ?_
      intro row hmem
      rcases List.mem_append.1 hmem with hmem | hmem
      · exact hrows row hmem
      · exact hmore row hmem
    | reported before row after _ hsplit hrow hafter =>
      refine .reported before row (after ++ more) e ?_ hrow ?_
      · rw [hsplit, List.append_assoc, List.cons_append]
      · intro later hmem
        rcases List.mem_append.1 hmem with hmem | hmem
        · exact hafter later hmem
        · exact hmore later hmem
  | reported before row after _ hsplit hrow hafter =>
    refine .reported (rows ++ before) row after e' ?_ hrow hafter
    rw [hsplit, List.append_assoc]

/-- Rows that do not report the counter leave its state as it is. -/
theorem eq_base (h : LastReport n rows unit c base e)
    (hrows : ∀ row ∈ rows, ∀ e, ¬ Reports n row unit c e) : e = base := by
  cases h with
  | unreported _ => rfl
  | reported before row after _ hsplit hrow _ =>
    have hmem : row ∈ rows := by
      rw [hsplit]
      exact List.mem_append_right _ List.mem_cons_self
    exact absurd hrow (hrows row hmem e)

/-- What holds of every reported state holds of the last one, if there is any. -/
theorem of_reports {P : Entry → Prop} (h : LastReport n rows unit c base e)
    (hrows : ∀ row ∈ rows, ∀ e, Reports n row unit c e → P e)
    (hsome : ∃ row ∈ rows, ∃ e, Reports n row unit c e) : P e := by
  cases h with
  | unreported hnone =>
    obtain ⟨row, hmem, e, hreports⟩ := hsome
    exact absurd hreports (hnone row hmem e)
  | reported before row after _ hsplit hrow _ =>
    refine hrows row ?_ e hrow
    rw [hsplit]
    exact List.mem_append_right _ List.mem_cons_self

/-- If the last row of all reports the counter, then it is the last one to do so. -/
theorem eq_of_last (h : LastReport n (rows ++ [row]) unit c base e)
    (hrow : Reports n row unit c e') : e = e' := by
  have hmem : row ∈ rows ++ [row] := List.mem_append_right _ (List.mem_singleton.2 rfl)
  cases h with
  | unreported hnone => exact absurd hrow (hnone row hmem e')
  | reported before found after _ hsplit hfound hafter =>
    -- nothing can stand behind the found row, for the last row would be a later report
    rcases List.eq_nil_or_concat after with rfl | ⟨init, last, rfl⟩
    · obtain ⟨_, hlast⟩ := List.append_inj' hsplit rfl
      rw [← List.singleton_inj.1 hlast] at hfound
      exact hfound.unique hrow
    · have hlast : [row] = [last] :=
        (List.append_inj' (hsplit.trans (by simp : _ = (before ++ found :: init) ++ [last])) rfl).2
      rw [List.singleton_inj.1 hlast] at hrow
      exact absurd hrow (hafter last (by simp) e')

/-- Rows that are taken in again leave the counter as they left it. -/
theorem again (h : LastReport n rows unit c base e) (h' : LastReport n rows unit c e e') :
    e' = e := by
  cases h with
  | unreported hnone => exact h'.eq_base hnone
  | reported before row after _ hsplit hrow hafter =>
    cases h' with
    | unreported _ => rfl
    | reported before' row' after' _ hsplit' hrow' hafter' =>
      -- each of the two rows is the last one that reports the counter
      rcases List.append_eq_append_iff.1 (hsplit.symm.trans hsplit') with
        ⟨between, -, hrest⟩ | ⟨between, -, hrest⟩
      · rcases List.cons_eq_append_iff.1 hrest with ⟨-, hsame⟩ | ⟨more, -, hmore⟩
        · rw [List.cons.injEq] at hsame
          exact hrow'.unique (hsame.1 ▸ hrow)
        · exact absurd hrow' (hafter row' (by simp [hmore]) e')
      · rcases List.cons_eq_append_iff.1 hrest with ⟨-, hsame⟩ | ⟨more, -, hmore⟩
        · rw [List.cons.injEq] at hsame
          exact hrow'.unique (hsame.1 ▸ hrow)
        · exact absurd hrow (hafter' row (by simp [hmore]) e)

end LastReport

theorem text?_eq_some_iff {v : Option Json} {s : String} :
    v.bind Json.text? = some s ↔ v = some (.str s) := by
  rw [Option.bind_eq_some_iff]
  constructor
  · rintro ⟨v, rfl, h⟩
    cases v <;> cases h
    rfl
  · rintro rfl
    exact ⟨_, rfl, rfl⟩

theorem flag?_eq_some_iff {v : Option Json} {b : Bool} :
    v.bind Json.flag? = some b ↔ v = some (.bool b) := by
  rw [Option.bind_eq_some_iff]
  constructor
  · rintro ⟨v, rfl, h⟩
    cases v <;> cases h
    rfl
  · rintro rfl
    exact ⟨_, rfl, rfl⟩

namespace Observation

/-- The entry that an observation leaves in the store. -/
def stored (o : Observation) : Entry where
  stat := o.stat
  threshold := o.threshold.getD o.counter.kind.factoryThreshold
  enabled := o.enabled

theorem ofRow?_eq_some_iff {n : Nat} {row : Json} {o : Observation} :
    ofRow? n row = some o ↔ ∃ w name c,
      (column? row "hw_unit_id").bind Json.word? = some w ∧
      (column? row "name").bind Json.text? = some name ∧ w.toNat < n ∧
      Counter.ofRowName name = .ok c ∧
      o = {
        unit := w.toUInt32
        counter := c
        stat := ((column? row "counter_value").bind Json.word?).getD 0
        threshold := (column? row "trigger_threshold").bind Json.word?
        enabled := (column? row "enabled").bind Json.flag? == some true
        triggered := (column? row "status").bind Json.text? == some triggeredStatus } := by
  unfold ofRow?
  constructor
  · intro h
    obtain ⟨w, hw, h⟩ := Option.bind_eq_some_iff.1 h
    obtain ⟨name, hname, h⟩ := Option.bind_eq_some_iff.1 h
    obtain ⟨_, hguard, h⟩ := Option.bind_eq_some_iff.1 h
    obtain ⟨c, hc, h⟩ := Option.bind_eq_some_iff.1 h
    refine ⟨w, name, c, hw, hname, ?_, ?_, (Option.some.inj h).symm⟩
    · by_cases hlt : w.toNat < n
      · exact hlt
      · have hfails : (guard (w.toNat < n) : Option Unit) = none := if_neg hlt
        rw [hfails] at hguard
        cases hguard
    · cases hread : Counter.ofRowName name with
      | ok d =>
        rw [hread] at hc
        cases hc
        rfl
      | error e =>
        rw [hread] at hc
        cases hc
  · rintro ⟨w, name, c, hw, hname, hlt, hc, rfl⟩
    refine Option.bind_eq_some_iff.2 ⟨w, hw, Option.bind_eq_some_iff.2 ⟨name, hname, ?_⟩⟩
    refine Option.bind_eq_some_iff.2 ⟨(), if_pos hlt, Option.bind_eq_some_iff.2 ⟨c, ?_, rfl⟩⟩
    rw [hc]
    rfl

/-- The rows of which an observation is made are the accepted ones. -/
theorem accepted_iff_ofRow? {n : Nat} {row : Json} :
    Accepted n row ↔ (ofRow? n row).isSome := by
  rw [Option.isSome_iff_exists]
  constructor
  · rintro ⟨⟨w, hw, hlt⟩, name, d, hname, hd⟩
    exact ⟨_, ofRow?_eq_some_iff.2
      ⟨w, name, d, hw, text?_eq_some_iff.2 hname, hlt, hd, rfl⟩⟩
  · rintro ⟨o, ho⟩
    obtain ⟨w, name, d, hw, hname, hlt, hd, _⟩ := ofRow?_eq_some_iff.1 ho
    exact ⟨⟨w, hw, hlt⟩, name, d, text?_eq_some_iff.1 hname, hd⟩

theorem exists_position_of_ofRow? {n : Nat} {row : Json} {o : Observation}
    (h : ofRow? n row = some o) : ∃ p, o.counter.position = .ok p := by
  obtain ⟨_, _, _, _, _, _, hc, rfl⟩ := ofRow?_eq_some_iff.1 h
  exact Counter.exists_position_of_ofRowName hc

/-- An observation is of a unit that exists: the unit number is below the number of units, and
stays there when it is cut to thirty-two bits. -/
theorem unit_lt_of_ofRow? {n : Nat} {row : Json} {o : Observation}
    (h : ofRow? n row = some o) : o.unit.toNat < n := by
  obtain ⟨w, _, _, _, _, hlt, _, rfl⟩ := ofRow?_eq_some_iff.1 h
  calc w.toUInt32.toNat = w.toNat % 2 ^ 32 := UInt64.toNat_toUInt32 w
    _ ≤ w.toNat := Nat.mod_le ..
    _ < n := hlt

end Observation

instance (n : Nat) : DecidablePred (Accepted n) := fun _ =>
  decidable_of_iff _ Observation.accepted_iff_ofRow?.symm

/-- **Reading is reporting.** A row reports the counters and the state that the observation
made of it is about, and no others. -/
theorem reports_iff_ofRow? {n : Nat} {row : Json} {unit : UInt32} {c : Counter} {e : Entry}
    (hn : n < UInt32.size) :
    Reports n row unit c e ↔ ∃ o, Observation.ofRow? n row = some o ∧ o.unit = unit ∧
      o.counter.canonical = c.canonical ∧ o.stored = e := by
  constructor
  · intro h
    obtain ⟨w, hw, hunit, hlt⟩ := h.unit_eq
    obtain ⟨name, d, hname, hd, hsame⟩ := h.counter_eq
    refine ⟨_, Observation.ofRow?_eq_some_iff.2
      ⟨w, name, d, hw, text?_eq_some_iff.2 hname, hlt, hd, rfl⟩, ?_, hsame, ?_⟩
    · refine UInt32.toNat_inj.1 ?_
      rw [← hunit, UInt64.toNat_toUInt32]
      exact Nat.mod_eq_of_lt (hunit ▸ unit.toNat_lt)
    · obtain ⟨stat, threshold, enabled⟩ := e
      have henabled := h.enabled_iff
      rw [← flag?_eq_some_iff] at henabled
      simp only [Observation.stored, Entry.mk.injEq]
      refine ⟨h.stat_eq.symm, ?_, ?_⟩
      · rw [Counter.kind_eq_of_canonical_eq hsame]
        exact h.threshold_eq.symm
      · rw [Bool.eq_iff_iff, beq_iff_eq]
        exact henabled.symm
  · rintro ⟨o, ho, rfl, hsame, rfl⟩
    have hunit := Observation.unit_lt_of_ofRow? ho
    obtain ⟨w, name, d, hw, hname, hlt, hd, rfl⟩ := Observation.ofRow?_eq_some_iff.1 ho
    refine ⟨⟨w, hw, ?_, hlt⟩, ⟨name, d, text?_eq_some_iff.1 hname, hd, hsame⟩, rfl, ?_, ?_⟩
    · show w.toNat = w.toUInt32.toNat
      rw [UInt64.toNat_toUInt32]
      exact (Nat.mod_eq_of_lt (Nat.lt_trans hlt hn)).symm
    · rw [← Counter.kind_eq_of_canonical_eq hsame]
      rfl
    · rw [← flag?_eq_some_iff]
      exact beq_iff_eq

end BufferTelemetry.Database
