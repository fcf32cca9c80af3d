import BufferTelemetry.Proofs.Replica.Reports
import BufferTelemetry.Proofs.Replica.Steps
import BufferTelemetry.Proofs.Store.Entries

/-!
# The store holds the last report of every counter

However updates, changes of settings and reads follow each other, what is read of a
counter is what the last row that reports it says (`counter_of_run`). Everything is
carried by one relation: `Follows rows s s'` says that the store `s'` comes from `s`
by taking `rows` in. A recorded row follows (`recordRow_follows`), changes of
settings follow without rows (`Follows.of_sameCounters`), and steps compose
(`Follows.trans`), so updates (`takesIn_stepwise`) and whole runs follow too.
-/

namespace BufferTelemetry.Database

/-- The second store comes from the first by taking the rows in. -/
structure Follows (rows : List Json) (s s' : Store) : Prop where
  numUnits_eq : s'.numUnits = s.numUnits
  cell : ∀ unit c pos e, c.position = .ok pos → s.cell? unit pos = some e →
    ∃ e', s'.cell? unit pos = some e' ∧ LastReport s.numUnits rows unit c e e'

namespace Follows

variable {rows more : List Json} {s s' s'' : Store}

theorem of_sameCounters (h : Store.SameCounters s s') : Follows [] s s' := by
  refine ⟨h.1, ?_⟩
  intro unit c pos e _ hcell
  exact ⟨e, (h.2 unit pos).trans hcell, .nil⟩

theorem trans (h : Follows rows s s') (h' : Follows more s' s'') :
    Follows (rows ++ more) s s'' := by
  refine ⟨h'.numUnits_eq.trans h.numUnits_eq, ?_⟩
  intro unit c pos e hpos hcell
  obtain ⟨e', hcell', hlast⟩ := h.cell unit c pos e hpos hcell
  obtain ⟨e'', hcell'', hlast'⟩ := h'.cell unit c pos e' hpos hcell'
  rw [h.numUnits_eq] at hlast'
  exact ⟨e'', hcell'', hlast.append hlast'⟩

/-- A counter that no row reports is read as before. -/
theorem get_eq (h : Follows rows s s') {unit : UInt32} {c : Counter}
    (hrows : ∀ row ∈ rows, ∀ e, ¬ Reports s.numUnits row unit c e) :
    s'.get unit c = s.get unit c := by
  refine Store.get_congr h.numUnits_eq ?_
  intro pos hpos
  cases hcell : s.cell? unit pos with
  | none =>
    rw [Store.cell?_eq_none_iff, h.numUnits_eq, ← Store.cell?_eq_none_iff (p := pos)]
    exact hcell
  | some e =>
    obtain ⟨e', hcell', hlast⟩ := h.cell unit c pos e hpos hcell
    rw [hcell', hlast.eq_base hrows]

end Follows

namespace Progress

/-! ## Rows -/

/-- The observation of an existing counter is recorded: its entry is written, and it is
published if the counter has crossed its threshold. -/
theorem record_eq {p : Progress} {o : Observation} {pos : Fin CounterKind.total}
    (hpos : o.counter.position = .ok pos) (hu : o.unit.toNat < p.replica.store.numUnits) :
    p.record o = {
      replica := { p.replica with store := p.replica.store.write o.unit pos o.stored }
      outcome := { p.outcome with
        rowsApplied := p.outcome.rowsApplied + 1
        triggers := p.outcome.triggers + if o.triggered then 1 else 0 }
      events := p.events ++ if o.triggered then [o.event] else [] } := by
  have hput := Store.put_eq_write hpos hu o.threshold.isNone o.entry
  have hentry : (if o.threshold.isNone then
      { o.entry with threshold := o.counter.kind.factoryThreshold } else o.entry) = o.stored := by
    cases ht : o.threshold <;> simp [Observation.entry, Observation.stored, ht]
  rw [hentry] at hput
  unfold record
  rw [hput]
  cases o.triggered <;> simp

/-- The rows of which an observation is made are recorded without failure. -/
theorem recordRow_eq {p : Progress} {row : Json} {o : Observation}
    (ho : Observation.ofRow? p.replica.store.numUnits row = some o) :
    ∃ pos, o.counter.position = .ok pos ∧ p.recordRow row = {
      replica := { p.replica with store := p.replica.store.write o.unit pos o.stored }
      outcome := { p.outcome with
        rowsApplied := p.outcome.rowsApplied + 1
        triggers := p.outcome.triggers + if o.triggered then 1 else 0 }
      events := p.events ++ if o.triggered then [o.event] else [] } := by
  obtain ⟨pos, hpos⟩ := Observation.exists_position_of_ofRow? ho
  refine ⟨pos, hpos, ?_⟩
  rw [recordRow, ho]
  exact record_eq hpos (Observation.unit_lt_of_ofRow? ho)

/-- One row leaves every counter in the state that the row reports of it. -/
theorem recordRow_follows {p : Progress} (hn : p.replica.store.numUnits < UInt32.size)
    (row : Json) : Follows [row] p.replica.store (p.recordRow row).replica.store := by
  cases ho : Observation.ofRow? p.replica.store.numUnits row with
  | none =>
    have hstore : (p.recordRow row).replica.store = p.replica.store := by
      rw [recordRow, ho]
    rw [hstore]
    refine ⟨rfl, ?_⟩
    intro unit c pos e _ hcell
    refine ⟨e, hcell, .unreported ?_⟩
    intro row' hmem e' hreports
    obtain ⟨o, ho', _⟩ := (reports_iff_ofRow? hn).1 hreports
    rw [List.mem_singleton.1 hmem, ho] at ho'
    cases ho'
  | some o =>
    obtain ⟨opos, hopos, heq⟩ := recordRow_eq ho
    rw [heq]
    refine ⟨Store.numUnits_write .., ?_⟩
    intro unit c pos e hpos hcell
    have hwrite := Store.cell?_write (Observation.unit_lt_of_ofRow? ho) opos o.stored unit pos
    by_cases hsame : unit = o.unit ∧ pos = opos
    · -- the row reports this counter, under whatever coordinates
      rw [if_pos hsame] at hwrite
      refine ⟨o.stored, hwrite, .single ((reports_iff_ofRow? hn).2 ⟨o, ho, hsame.1.symm, ?_, rfl⟩)⟩
      exact Counter.canonical_eq_of_position_eq hopos (hsame.2 ▸ hpos)
    · rw [if_neg hsame, hcell] at hwrite
      refine ⟨e, hwrite, .unreported ?_⟩
      intro row' hmem e' hreports
      obtain ⟨o', ho', hunit, hcanonical, _⟩ := (reports_iff_ofRow? hn).1 hreports
      rw [List.mem_singleton.1 hmem, ho] at ho'
      cases ho'
      exact hsame ⟨hunit.symm, ((Counter.position_eq_iff hopos hpos).2 hcanonical).symm⟩

/-- The update goes from the first progress to the second by taking the rows in: the
store follows, and each row is counted as recorded or as passed over. -/
structure TakesIn (rows : List Json) (p q : Progress) : Prop where
  follows : Follows rows p.replica.store q.replica.store
  applied : q.outcome.rowsApplied = p.outcome.rowsApplied +
    rows.countP fun row => Accepted p.replica.store.numUnits row
  skipped : q.outcome.rowsSkipped = p.outcome.rowsSkipped +
    rows.countP fun row => ¬ Accepted p.replica.store.numUnits row

theorem TakesIn.trans {rows more : List Json} {p q r : Progress} (h : TakesIn rows p q)
    (h' : TakesIn more q r) : TakesIn (rows ++ more) p r := by
  have hn := h.follows.numUnits_eq
  refine ⟨h.follows.trans h'.follows, ?_, ?_⟩
  · rw [h'.applied, h.applied, hn, List.countP_append, Nat.add_assoc]
  · rw [h'.skipped, h.skipped, hn, List.countP_append, Nat.add_assoc]

/-- A step that changes neither counters nor the counts of rows takes no rows in. -/
theorem TakesIn.quiet {p q : Progress}
    (hstore : Store.SameCounters p.replica.store q.replica.store)
    (happlied : q.outcome.rowsApplied = p.outcome.rowsApplied)
    (hskipped : q.outcome.rowsSkipped = p.outcome.rowsSkipped) : TakesIn [] p q :=
  ⟨.of_sameCounters hstore, happlied, hskipped⟩

theorem TakesIn.refl (p : Progress) : TakesIn [] p p :=
  .quiet (.refl _) rfl rfl

theorem recordRow_takesIn {p : Progress} (hn : p.replica.store.numUnits < UInt32.size)
    (row : Json) : TakesIn [row] p (p.recordRow row) := by
  refine ⟨recordRow_follows hn row, ?_, ?_⟩
  all_goals
    cases ho : Observation.ofRow? p.replica.store.numUnits row with
    | none => simp [recordRow, ho, Observation.accepted_iff_ofRow?]
    | some o =>
      obtain ⟨_, _, heq⟩ := recordRow_eq ho
      simp [heq, ho, Observation.accepted_iff_ofRow?]

/-! ## Steps -/

theorem mergeTracking_takesIn (os : List Observation) (p : Progress) (unit : UInt32) :
    TakesIn [] p (p.mergeTracking os unit) := by
  unfold mergeTracking
  split
  · rename_i store hmerge
    exact .quiet (Store.mergeTracking_sameCounters hmerge) rfl rfl
  · exact .refl p

theorem applySettingsTo_takesIn (pairs : List (String × String)) (p : Progress) (unit : UInt32) :
    TakesIn [] p (p.applySettingsTo pairs unit) := by
  unfold applySettingsTo
  split
  · rename_i store hupdate
    exact .quiet (Store.updateSettings_sameCounters hupdate) rfl rfl
  · rename_i store hupdate
    exact .quiet (Store.updateSettings_sameCounters hupdate) rfl rfl
  · exact .refl p

/-- Every step takes in the counter rows that it records. -/
theorem takesIn_stepwise :
    Stepwise fun rows p q => p.replica.store.numUnits < UInt32.size → TakesIn rows p q where
  refl p _ := .refl p
  trans h h' hn := (h hn).trans (h' ((h hn).follows.numUnits_eq ▸ hn))
  recordRow _ row hn := recordRow_takesIn hn row
  mergeTracking os p unit _ := mergeTracking_takesIn os p unit
  seeing _ _ _ _ := .quiet (.refl _) rfl rfl
  applySettingsTo pairs p unit _ := applySettingsTo_takesIn pairs p unit
  initialized _ _ _ := .quiet (.refl _) rfl rfl

end Progress

/-! ## Updates and runs -/

/-- **One update.** The store follows the counter rows of the update, and each of them is
counted: as recorded if it is accepted, and otherwise as passed over. -/
theorem apply_takesIn {r : Replica} (hn : r.store.numUnits < UInt32.size) (updates : Json) :
    Follows (counterRows updates) r.store (r.apply updates).replica.store ∧
      (r.apply updates).outcome.rowsApplied =
        (counterRows updates).countP (fun row => Accepted r.store.numUnits row) ∧
      (r.apply updates).outcome.rowsSkipped =
        (counterRows updates).countP (fun row => ¬ Accepted r.store.numUnits row) := by
  have h := Progress.takesIn_stepwise.apply r updates hn
  exact ⟨h.follows, h.applied.trans (Nat.zero_add _), h.skipped.trans (Nat.zero_add _)⟩

/-- Something that is done with a replica: an update is folded in, settings are changed
from outside, or the store is read. -/
inductive Operation : Type 1 where
  | apply (updates : Json)
  | setSettings (unit : UInt32) (settings : Settings)
  | updateSettings {α : Type} (unit : UInt32) (f : Settings → Settings × α)
  | mergeTracking (unit : UInt32) (observed : TrackingMask)
  | read {α : Type} (question : Store → α)

namespace Operation

/-- The replica after an operation on its store, which changes nothing if it fails. -/
def withStore (r : Replica) (result : Except Error Store) : Replica :=
  match result with
  | .ok store => { r with store }
  | .error _ => r

def perform (r : Replica) : Operation → Replica
  | .apply updates => (r.apply updates).replica
  | .setSettings unit settings => withStore r (r.store.setSettings unit settings)
  | .updateSettings unit f => withStore r ((r.store.updateSettings unit f).map Prod.snd)
  | .mergeTracking unit observed =>
    withStore r ((r.store.mergeTracking unit observed).map Prod.snd)
  | .read _ => r

def run (ops : List Operation) (r : Replica) : Replica := ops.foldl perform r

/-- The counter rows that an operation delivers. -/
def rows : Operation → List Json
  | .apply updates => counterRows updates
  | _ => []

theorem withStore_follows {r : Replica} {result : Except Error Store}
    (h : ∀ s, result = .ok s → Store.SameCounters r.store s) :
    Follows [] r.store (withStore r result).store := by
  cases result with
  | ok s => exact .of_sameCounters (h s rfl)
  | error e => exact .of_sameCounters (.refl _)

theorem withStore_map_follows {α : Type} {r : Replica} {result : Except Error (α × Store)}
    (h : ∀ a s, result = .ok (a, s) → Store.SameCounters r.store s) :
    Follows [] r.store (withStore r (result.map Prod.snd)).store := by
  refine withStore_follows ?_
  intro s hs
  cases result with
  | ok answer =>
    cases hs
    exact h answer.1 answer.2 rfl
  | error e => cases hs

/-- Every operation follows the counter rows that it delivers. -/
theorem perform_follows {r : Replica} (hn : r.store.numUnits < UInt32.size) (op : Operation) :
    Follows op.rows r.store (op.perform r).store := by
  cases op with
  | apply updates => exact (apply_takesIn hn updates).1
  | setSettings unit settings =>
    exact withStore_follows fun _ h => Store.setSettings_sameCounters h
  | updateSettings unit f =>
    exact withStore_map_follows fun _ _ h => Store.updateSettings_sameCounters h
  | mergeTracking unit observed =>
    exact withStore_map_follows fun _ _ h => Store.mergeTracking_sameCounters h
  | read _ => exact .of_sameCounters (.refl _)

theorem run_follows (ops : List Operation) {r : Replica} (hn : r.store.numUnits < UInt32.size) :
    Follows (ops.flatMap rows) r.store (run ops r).store := by
  induction ops generalizing r with
  | nil => exact .of_sameCounters (.refl _)
  | cons op rest ih =>
    have hstep := perform_follows hn op
    exact hstep.trans (ih (hstep.numUnits_eq ▸ hn))

end Operation

/-- **The last report counts.** After any run of operations on a store that was empty at
first, what is read of a counter is what the last row that reports it says, and the
initial state if no row does. An update changes no counter that none of its rows reports;
it records every accepted row, which cannot fail, and passes every other one over. -/
theorem counter_of_run (n : Nat) (hn : n < UInt32.size) (ops : List Operation) (unit : UInt32)
    (hu : unit.toNat < n) (c : Counter) (p : Fin CounterKind.total) (hp : c.position = .ok p) :
    let r := Operation.run ops (.initial n)
    (∃ e, r.store.get unit c = .ok e ∧
      LastReport n (ops.flatMap Operation.rows) unit c .initial e) ∧
    (∀ updates v d, (∀ row ∈ counterRows updates, ∀ e, ¬ Reports n row v d e) →
      (r.apply updates).replica.store.get v d = r.store.get v d) ∧
    (∀ row, Accepted n row → ∃ o, Observation.ofRow? n row = some o ∧
      ∀ s : Store, s.numUnits = n →
        ∃ s', s.put o.unit o.counter o.threshold.isNone o.entry = .ok s') ∧
    (∀ updates,
      (r.apply updates).outcome.rowsApplied =
        (counterRows updates).countP (fun row => Accepted n row) ∧
      (r.apply updates).outcome.rowsSkipped =
        (counterRows updates).countP (fun row => ¬ Accepted n row)) := by
  intro r
  have hinitial : (Replica.initial n).store.numUnits = n := Store.numUnits_initial n
  have hrun : Follows (ops.flatMap Operation.rows) (Replica.initial n).store r.store :=
    Operation.run_follows ops (hinitial.symm ▸ hn)
  have hunits : r.store.numUnits = n := hrun.numUnits_eq.trans hinitial
  refine ⟨?_, ?_, ?_, ?_⟩
  · obtain ⟨e, hcell, hlast⟩ := hrun.cell unit c p .initial hp (Store.cell?_initial hu p)
    rw [hinitial] at hlast
    exact ⟨e, Store.get_eq_ok_iff.2 ⟨p, hp, hcell⟩, hlast⟩
  · intro updates v d hrows
    exact (apply_takesIn (hunits.symm ▸ hn) updates).1.get_eq (hunits.symm ▸ hrows)
  · intro row haccepted
    obtain ⟨o, ho⟩ := Option.isSome_iff_exists.1 (Observation.accepted_iff_ofRow?.1 haccepted)
    refine ⟨o, ho, ?_⟩
    intro s hs
    obtain ⟨pos, hpos⟩ := Observation.exists_position_of_ofRow? ho
    have hlt : o.unit.toNat < s.numUnits := hs ▸ Observation.unit_lt_of_ofRow? ho
    exact ⟨_, Store.put_eq_write hpos hlt _ _⟩
  · intro updates
    have hcounts := (apply_takesIn (hunits.symm ▸ hn) updates).2
    rw [hunits] at hcounts
    exact hcounts

/-- A row about the unicast queue with the given name in unit 0. -/
def queueRow (name : String) (stat : Int) : Json :=
  .obj [("new", .obj [("hw_unit_id", .int 0), ("name", .str name),
    ("counter_value", .int stat), ("enabled", .bool true)])]

/-- A queue is reported twice, under different spellings, while its unit is reconfigured. -/
def recount : List Operation :=
  [.apply (.obj [(counterTable,
      .obj [("a", queueRow "egress-uc-queue/uc-buffer-count/5/NONE" 7)])]),
    .setSettings 0 .initial,
    .apply (.obj [(systemTable, .obj []),
      (counterTable, .obj [("b", queueRow "egress-uc-queue/uc-buffer-count/+05" 9)])]),
    .read fun s => s.numUnits]

theorem counter_of_run_recount :
    1 < UInt32.size ∧ (0 : UInt32).toNat < 1 ∧ ∃ p, (⟨.ucast, 9, 5⟩ : Counter).position = .ok p ∧
      (Operation.run recount (.initial 1)).store.get 0 ⟨.ucast, 9, 5⟩ =
        .ok { stat := 9, threshold := CounterKind.ucast.factoryThreshold, enabled := true } := by
  have hn : 1 < UInt32.size := by decide
  have hu : (0 : UInt32).toNat < 1 := by decide
  obtain ⟨p, hp⟩ : ∃ p, (⟨.ucast, 9, 5⟩ : Counter).position = .ok p :=
    Counter.exists_position (by decide)
  refine ⟨hn, hu, p, hp, ?_⟩
  obtain ⟨⟨e, hget, hlast⟩, -⟩ := counter_of_run 1 hn recount 0 hu ⟨.ucast, 9, 5⟩ p hp
  have hrows : recount.flatMap Operation.rows =
      [queueRow "egress-uc-queue/uc-buffer-count/5/NONE" 7] ++
        [queueRow "egress-uc-queue/uc-buffer-count/+05" 9] := rfl
  rw [hrows] at hlast
  rw [hget, hlast.eq_of_last ?_]
  exact {
    unit_eq := ⟨0, rfl, rfl, hu⟩
    counter_eq := ⟨"egress-uc-queue/uc-buffer-count/+05", ⟨.ucast, 0, 5⟩, rfl, by rfl, rfl⟩
    stat_eq := rfl
    threshold_eq := rfl
    enabled_iff := ⟨fun _ => rfl, fun _ => rfl⟩ }

end BufferTelemetry.Database
