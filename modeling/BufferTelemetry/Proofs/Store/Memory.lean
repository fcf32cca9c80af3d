import BufferTelemetry.Proofs.Store.Configurations

/-!
# The store as a memory

A `Call` is one operation of the store with what it is given, and `run` performs calls in
turn. What a single call does is said once: it fails, with the store as it was, if its unit or
its counter does not exist, and otherwise it has the effect that is written down for it
(`Call.perform_cases`). From that a store after a run is a memory (`memory_of_run`):

* its vectors keep their length, so that every position lies within them;
* a counter reads as what was last recorded at its position, in whatever spelling of its
  coordinates (`get_run`);
* a call changes one entry, the settings of one unit, or nothing.
-/

namespace BufferTelemetry

theorem Counter.not_inBounds_of_error {c : Counter} {e : Error} (h : c.position = .error e) :
    ¬ c.InBounds := by
  intro hin
  obtain ⟨p, hp⟩ := Counter.exists_position hin
  rw [hp] at h
  cases h

theorem Settings.maxTriggers_withTriggerDefault_ne_zero (x : Settings) :
    x.withTriggerDefault.maxTriggers ≠ 0 := by
  unfold withTriggerDefault
  split
  · show defaultMaxTriggers ≠ 0
    decide
  · assumption

namespace Store

/-- An operation of the store with what it is given, by the type of its answer. -/
inductive Call : Type → Type 1 where
  | numUnits : Call Nat
  | get (unit : UInt32) (c : Counter) : Call Entry
  /-- Asks a question about the counters of a unit. -/
  | view {α : Type} (unit : UInt32) (question : (Counter → Except Error Entry) → α) : Call α
  | put (unit : UInt32) (c : Counter) (factory : Bool) (e : Entry) : Call Unit
  | settings (unit : UInt32) : Call Settings
  | setSettings (unit : UInt32) (settings : Settings) : Call Unit
  | updateSettings {α : Type} (unit : UInt32) (f : Settings → Settings × α) : Call α
  | mergeTracking (unit : UInt32) (observed : TrackingMask) : Call Bool
  | dump (unit : UInt32) : Call Dump

/-- The answer of an operation, and the store behind it, which is the old one if it failed. -/
def changed {α : Type} (s : Store) : Except Error (α × Store) → Except Error α × Store
  | .ok (x, s') => (.ok x, s')
  | .error e => (.error e, s)

/-- What is recorded of a counter. -/
def recorded (c : Counter) (factory : Bool) (e : Entry) : Entry :=
  if factory then { e with threshold := c.kind.factoryThreshold } else e

namespace Call

variable {α : Type}

/-- What a call answers, and the store that it leaves. -/
def perform : Call α → Store → Except Error α × Store
  | numUnits, s => (.ok s.numUnits, s)
  | get unit c, s => (s.get unit c, s)
  | view unit question, s => ((s.unit unit).map fun u => question u.get, s)
  | put unit c factory e, s => s.changed ((s.put unit c factory e).map fun s => ((), s))
  | settings unit, s => (s.settings unit, s)
  | setSettings unit x, s => s.changed ((s.setSettings unit x).map fun s => ((), s))
  | updateSettings unit f, s => s.changed (s.updateSettings unit f)
  | mergeTracking unit observed, s => s.changed (s.mergeTracking unit observed)
  | dump unit, s => (s.dump unit, s)

/-- The unit that a call is about. -/
def unit? : Call α → Option UInt32
  | numUnits => none
  | get unit _ => some unit
  | view unit _ => some unit
  | put unit .. => some unit
  | settings unit => some unit
  | setSettings unit _ => some unit
  | updateSettings unit _ => some unit
  | mergeTracking unit _ => some unit
  | dump unit => some unit

/-- The counter that a call is about. -/
def counter? : Call α → Option Counter
  | get _ c => some c
  | put _ c .. => some c
  | _ => none

/-- What a call is about exists in the store. -/
def Exists (call : Call α) (s : Store) : Prop :=
  (∀ unit, call.unit? = some unit → unit.toNat < s.numUnits) ∧
    ∀ c, call.counter? = some c → c.InBounds

/-- The error says what does not exist of that which a call is about. -/
def Complains (call : Call α) (s : Store) (e : Error) : Prop :=
  (∃ unit, call.unit? = some unit ∧ s.numUnits ≤ unit.toNat ∧ e = unknownUnit unit) ∨
    ∃ c err, call.counter? = some c ∧ c.position = .error err ∧
      e = .invalidParameter err.message

/-- The entry that a call records at a position of a unit. -/
def entryAt? (unit : UInt32) (p : Fin CounterKind.total) : Call α → Option Entry
  | put v c factory e =>
    if v = unit ∧ c.position.toOption = some p then some (recorded c factory e) else none
  | _ => none

/-- Whether a call records a counter. -/
def records : Call α → Bool
  | put .. => true
  | _ => false

/-- How a call changes the settings of its unit. -/
def revision? : Call α → Option (Settings → Settings)
  | setSettings _ x => some fun _ => x.withTriggerDefault
  | updateSettings _ f => some fun old => (f old).1
  | mergeTracking _ observed =>
    some fun old => { old with trackingMask := old.trackingMask.union observed }
  | _ => none

/-- The store behind a call that succeeds. -/
def effect : Call α → Store → Store
  | put unit c factory e, s =>
    match c.position with
    | .ok p => s.write unit p (recorded c factory e)
    | .error _ => s
  | call, s =>
    match call.unit?, call.revision? with
    | some unit, some f => s.configure unit f
    | _, _ => s

/-- What is promised of a call on a store. -/
structure Sound (call : Call α) (s : Store) : Prop where
  ok_iff : (∃ x, (call.perform s).1 = .ok x) ↔ call.Exists s
  /-- A call that fails says what does not exist, and changes nothing. -/
  of_error : ∀ e, (call.perform s).1 = .error e → call.Complains s e ∧ (call.perform s).2 = s
  other_units : ∀ i : Nat, (∀ unit, call.unit? = some unit → i ≠ unit.toNat) →
    (call.perform s).2.units[i]? = s.units[i]?
  /-- Counters change only if one is recorded. -/
  counters : call.records = false → SameCounters s (call.perform s).2
  /-- Reads change nothing. -/
  reads : call.records = false → call.revision? = none → (call.perform s).2 = s

theorem not_exists_of_complains {call : Call α} {s : Store} {e : Error}
    (h : call.Complains s e) : ¬ call.Exists s := by
  rintro ⟨hunit, hcounter⟩
  rcases h with ⟨unit, hu, hle, -⟩ | ⟨c, err, hc, herr, -⟩
  · have := hunit unit hu
    omega
  · exact Counter.not_inBounds_of_error herr (hcounter c hc)

/-! ## One call -/

section Perform

variable {s : Store} {unit : UInt32}

theorem exists_of_position {call : Call α} {c : Counter} {p : Fin CounterKind.total}
    (hunit : call.unit? = some unit) (hcounter : call.counter? = some c)
    (hu : unit.toNat < s.numUnits) (hp : c.position = .ok p) : call.Exists s := by
  constructor
  · intro v hv
    rw [hunit] at hv
    cases hv
    exact hu
  · intro d hd
    rw [hcounter] at hd
    cases hd
    exact (Counter.position_eq_ok_iff.1 hp).1

/-- A call about a unit alone fails exactly if there is no such unit. -/
theorem cases_of_unit {call : Call α} (hunit : call.unit? = some unit)
    (hcounter : call.counter? = none)
    (hok : unit.toNat < s.numUnits → ∃ x, call.perform s = (.ok x, call.effect s))
    (herror : s.numUnits ≤ unit.toNat → call.perform s = (.error (unknownUnit unit), s)) :
    (call.Exists s ∧ ∃ x, call.perform s = (.ok x, call.effect s)) ∨
      ∃ e, call.Complains s e ∧ call.perform s = (.error e, s) := by
  rcases Nat.lt_or_ge unit.toNat s.numUnits with hlt | hge
  · refine .inl ⟨⟨?_, ?_⟩, hok hlt⟩
    · intro v hv
      rw [hunit] at hv
      cases hv
      exact hlt
    · intro c hc
      rw [hcounter] at hc
      cases hc
  · exact .inr ⟨_, .inl ⟨unit, hunit, hge, rfl⟩, herror hge⟩

/-- **One call** has its effect if what it is about exists, and otherwise it says what does
not and leaves the store as it was. -/
theorem perform_cases (call : Call α) (s : Store) :
    (call.Exists s ∧ ∃ x, call.perform s = (.ok x, call.effect s)) ∨
      ∃ e, call.Complains s e ∧ call.perform s = (.error e, s) := by
  cases call with
  | numUnits => exact .inl ⟨⟨by simp [unit?], by simp [counter?]⟩, _, rfl⟩
  | get unit c =>
    rcases Nat.lt_or_ge unit.toNat s.numUnits with hlt | hge
    · cases hp : c.position with
      | ok p =>
        obtain ⟨e, he⟩ := exists_cell hlt p
        refine .inl ⟨exists_of_position rfl rfl hlt hp, e, ?_⟩
        rw [perform, get_eq_ok_iff.2 ⟨p, hp, he⟩]
        rfl
      | error err =>
        obtain ⟨u, hu⟩ := exists_unit hlt
        refine .inr ⟨_, .inr ⟨c, err, rfl, hp, rfl⟩, ?_⟩
        simp only [perform, Store.get, hu, UnitState.get, Counter.place_of_error hp, bind,
          Except.bind]
    · refine .inr ⟨_, .inl ⟨unit, rfl, hge, rfl⟩, ?_⟩
      simp only [perform, Store.get, unit_eq_error hge, bind, Except.bind]
  | view unit question =>
    refine cases_of_unit rfl rfl (fun hu => ?_) fun hu => ?_
    · obtain ⟨u, h⟩ := exists_unit hu
      exact ⟨question u.get, by rw [perform, h]; rfl⟩
    · rw [perform, unit_eq_error hu]
      rfl
  | put unit c factory e =>
    cases hp : c.position with
    | ok p =>
      rcases Nat.lt_or_ge unit.toNat s.numUnits with hlt | hge
      · refine .inl ⟨exists_of_position rfl rfl hlt hp, (), ?_⟩
        simp only [perform, put_eq_write hp hlt, Except.map, changed, effect, hp, recorded]
      · refine .inr ⟨_, .inl ⟨unit, rfl, hge, rfl⟩, ?_⟩
        have hno : ¬ unit.toNat < s.units.size := Nat.not_lt.2 hge
        simp only [perform, Store.put, Counter.place_of_ok hp, modifyUnit, if_neg hno, bind,
          Except.bind, Except.map, changed]
    | error err =>
      refine .inr ⟨_, .inr ⟨c, err, rfl, hp, rfl⟩, ?_⟩
      simp only [perform, Store.put, Counter.place_of_error hp, bind, Except.bind, Except.map,
        changed]
  | settings unit =>
    refine cases_of_unit rfl rfl (fun hu => ?_) fun hu => ?_
    · obtain ⟨old, hold⟩ := exists_settings hu
      exact ⟨old.withTriggerDefault, by rw [perform, settings_eq hold]; rfl⟩
    · simp only [perform, Store.settings, unit_eq_error hu, bind, Except.bind]
  | setSettings unit x =>
    refine cases_of_unit rfl rfl (fun hu => ?_) fun hu => ?_
    · obtain ⟨old, hold⟩ := exists_settings hu
      exact ⟨(), by rw [perform, setSettings_eq x hold]; rfl⟩
    · rw [perform, setSettings_error x hu, Except.map, changed]
  | updateSettings unit f =>
    refine cases_of_unit rfl rfl (fun hu => ?_) fun hu => ?_
    · obtain ⟨old, hold⟩ := exists_settings hu
      exact ⟨(f old).2, by rw [perform, updateSettings_eq f hold]; rfl⟩
    · rw [perform, updateSettings_error f hu, changed]
  | mergeTracking unit observed =>
    refine cases_of_unit rfl rfl (fun hu => ?_) fun hu => ?_
    · obtain ⟨old, hold⟩ := exists_settings hu
      exact ⟨_, by rw [perform, Store.mergeTracking, updateSettings_eq _ hold]; rfl⟩
    · rw [perform, Store.mergeTracking, updateSettings_error _ hu, changed]
  | dump unit =>
    refine cases_of_unit rfl rfl (fun hu => ?_) fun hu => ?_
    · obtain ⟨u, h⟩ := exists_unit hu
      exact ⟨_, by simp only [perform, Store.dump, h, bind, Except.bind]; rfl⟩
    · simp only [perform, Store.dump, unit_eq_error hu, bind, Except.bind]

end Perform

/-! ## What a call changes -/

section Effect

variable (call : Call α) (s : Store)

@[simp]
theorem numUnits_effect : (call.effect s).numUnits = s.numUnits := by
  cases call with
  | put unit c factory e =>
    simp only [effect]
    split
    · exact numUnits_write ..
    · rfl
  | setSettings | updateSettings | mergeTracking => exact numUnits_configure
  | _ => rfl

theorem units_effect {i : Nat} (hi : ∀ unit, call.unit? = some unit → i ≠ unit.toNat) :
    (call.effect s).units[i]? = s.units[i]? := by
  cases call with
  | put unit c factory e =>
    simp only [effect]
    split
    · exact units_write_of_ne s _ _ (hi unit rfl)
    · rfl
  | setSettings | updateSettings | mergeTracking => exact units_configure_of_ne (hi _ rfl)
  | _ => rfl

theorem effect_sameCounters (hrecords : call.records = false) :
    SameCounters s (call.effect s) := by
  cases call with
  | put => cases hrecords
  | setSettings | updateSettings | mergeTracking => exact configure_sameCounters
  | _ => exact .refl s

theorem effect_of_not_revision (hrecords : call.records = false) (hrev : call.revision? = none) :
    call.effect s = s := by
  cases call with
  | put => cases hrecords
  | setSettings | updateSettings | mergeTracking => cases hrev
  | _ => rfl

end Effect

/-- Every call does what is promised, whatever the store. -/
theorem sound (call : Call α) (s : Store) : call.Sound s := by
  rcases perform_cases call s with ⟨hexists, x, hok⟩ | ⟨e, hcomplains, herror⟩
  · refine ⟨?_, ?_, ?_, ?_, ?_⟩
    · exact ⟨fun _ => hexists, fun _ => ⟨x, by rw [hok]⟩⟩
    · intro e he
      rw [hok] at he
      cases he
    · rw [hok]
      exact fun _ => units_effect call s
    · rw [hok]
      exact effect_sameCounters call s
    · rw [hok]
      exact effect_of_not_revision call s
  · refine ⟨⟨?_, ?_⟩, ?_, ?_, ?_, ?_⟩
    · rintro ⟨x, hx⟩
      rw [herror] at hx
      cases hx
    · intro hexists
      exact absurd hexists (not_exists_of_complains hcomplains)
    · intro e' he'
      rw [herror] at he' ⊢
      cases he'
      exact ⟨hcomplains, rfl⟩
    · rw [herror]
      exact fun _ _ => rfl
    · rw [herror]
      exact fun _ => .refl s
    · rw [herror]
      exact fun _ _ => rfl

/-- A call that fails has recorded nothing at a unit that exists. -/
theorem entryAt?_of_complains {call : Call α} {s : Store} {e : Error} {unit : UInt32}
    (hcomplains : call.Complains s e) (hu : unit.toNat < s.numUnits)
    (p : Fin CounterKind.total) : call.entryAt? unit p = none := by
  cases call with
  | put v c factory entry =>
    refine if_neg ?_
    rintro ⟨rfl, hp⟩
    rcases hcomplains with ⟨v', hv, hge, -⟩ | ⟨d, err, hd, herr, -⟩
    · cases hv
      omega
    · cases hd
      rw [herr] at hp
      cases hp
  | _ => rfl

theorem cell?_effect (call : Call α) {s : Store} {unit : UInt32} (hu : unit.toNat < s.numUnits)
    (p : Fin CounterKind.total) :
    (call.effect s).cell? unit p = (call.entryAt? unit p).or (s.cell? unit p) := by
  by_cases hrecords : call.records = false
  · rw [(effect_sameCounters call s hrecords).2]
    cases call with
    | put => cases hrecords
    | _ => rfl
  · cases call with
    | put v c factory e =>
      cases hp : c.position with
      | error err =>
        simp only [effect, hp, entryAt?, Except.toOption]
        simp
      | ok q =>
        simp only [effect, hp, entryAt?, Except.toOption, Option.some.injEq]
        by_cases hv : v = unit
        · subst hv
          rw [cell?_write hu]
          by_cases hq : p = q
          · simp [hq]
          · simp [hq, Ne.symm hq]
        · have hne : unit.toNat ≠ v.toNat := fun h => hv (UInt32.toNat_inj.1 h).symm
          rw [if_neg (fun h => hv h.1), cell?, units_write_of_ne s q _ hne]
          rfl
    | _ => exact absurd rfl hrecords

/-- **One step.** An entry is what the call has recorded there, or what it was before. -/
theorem cell?_perform (call : Call α) {s : Store} {unit : UInt32}
    (hu : unit.toNat < s.numUnits) (p : Fin CounterKind.total) :
    (call.perform s).2.cell? unit p = (call.entryAt? unit p).or (s.cell? unit p) := by
  rcases perform_cases call s with ⟨-, x, hok⟩ | ⟨e, hcomplains, herror⟩
  · rw [hok]
    exact cell?_effect call hu p
  · rw [herror, entryAt?_of_complains hcomplains hu]
    rfl

@[simp]
theorem numUnits_perform (call : Call α) (s : Store) :
    (call.perform s).2.numUnits = s.numUnits := by
  rcases perform_cases call s with ⟨-, x, hok⟩ | ⟨e, -, herror⟩
  · rw [hok, numUnits_effect]
  · rw [herror]

end Call

/-! ## Runs -/

/-- The store after some calls, whether they succeed or fail. -/
def run (calls : List (Sigma Call)) (s : Store) : Store :=
  calls.foldl (fun s call => (call.2.perform s).2) s

/-- The entry that was last recorded at a position of a unit, if any was. -/
def lastRecorded? (calls : List (Sigma Call)) (unit : UInt32) (p : Fin CounterKind.total) :
    Option Entry :=
  (calls.filterMap fun call => call.2.entryAt? unit p).getLast?

theorem lastRecorded?_cons (call : Sigma Call) (calls : List (Sigma Call)) (unit : UInt32)
    (p : Fin CounterKind.total) :
    lastRecorded? (call :: calls) unit p =
      (lastRecorded? calls unit p).or (call.2.entryAt? unit p) := by
  unfold lastRecorded?
  cases hentry : call.2.entryAt? unit p with
  | none => simp only [List.filterMap_cons, hentry, Option.or_none]
  | some e =>
    simp only [List.filterMap_cons, hentry, List.getLast?_cons]
    cases (calls.filterMap fun call => call.2.entryAt? unit p).getLast? <;> rfl

@[simp]
theorem numUnits_run (calls : List (Sigma Call)) (s : Store) :
    (run calls s).numUnits = s.numUnits := by
  induction calls generalizing s with
  | nil => rfl
  | cons call rest ih => exact (ih _).trans (call.2.numUnits_perform s)

/-- **A run.** An entry is the last one that was recorded there, or what it was at the start. -/
theorem cell?_run (calls : List (Sigma Call)) {s : Store} {unit : UInt32}
    (hu : unit.toNat < s.numUnits) (p : Fin CounterKind.total) :
    (run calls s).cell? unit p = (lastRecorded? calls unit p).or (s.cell? unit p) := by
  induction calls generalizing s with
  | nil => rfl
  | cons call rest ih =>
    have hu' : unit.toNat < (call.2.perform s).2.numUnits := by
      rw [Call.numUnits_perform]
      exact hu
    calc (run (call :: rest) s).cell? unit p
        = (lastRecorded? rest unit p).or ((call.2.perform s).2.cell? unit p) := ih hu'
      _ = (lastRecorded? rest unit p).or ((call.2.entryAt? unit p).or (s.cell? unit p)) := by
          rw [Call.cell?_perform call.2 hu]
      _ = (lastRecorded? (call :: rest) unit p).or (s.cell? unit p) := by
          rw [lastRecorded?_cons, Option.or_assoc]

/-- What a counter reads as after some calls on a store about which nothing is known. -/
theorem get_run (n : Nat) (calls : List (Sigma Call)) {unit : UInt32} (hu : unit.toNat < n)
    {c : Counter} {p : Fin CounterKind.total} (hp : c.position = .ok p) :
    (run calls (initial n)).get unit c = .ok ((lastRecorded? calls unit p).getD .initial) := by
  have hu' : unit.toNat < (initial n).numUnits := by
    rw [numUnits_initial]
    exact hu
  refine get_eq_ok_iff.2 ⟨p, hp, ?_⟩
  rw [cell?_run calls hu', cell?_initial hu]
  cases lastRecorded? calls unit p <;> rfl

/-! ## Memory -/

/-- Everything that is looked up in the vector of a unit lies within it. -/
structure Fits (entries : Array Entry) : Prop where
  size : entries.size = CounterKind.total
  position : ∀ (c : Counter) p, c.position = .ok p → p.val < entries.size
  range : ∀ k : CounterKind, k.start + k.size ≤ entries.size

/-- A counter of a unit has got an entry, and nothing else has changed. -/
structure Writes (unit : UInt32) (c : Counter) (e : Entry) (s s' : Store) : Prop where
  /-- The entry is read under all coordinates of the counter. -/
  read : ∀ d : Counter, d.position = c.position → s'.get unit d = .ok e
  other_counters : ∀ (v : UInt32) (d : Counter), ¬ (v = unit ∧ d.position = c.position) →
    s'.get v d = s.get v d
  other_units : ∀ i : Nat, i ≠ unit.toNat → s'.units[i]? = s.units[i]?
  settings : ∀ v, s'.settings? v = s.settings? v

theorem fits_entries (u : UnitState) : Fits u.entries.toArray := by
  have hsize : u.entries.toArray.size = CounterKind.total := u.entries.size_toArray
  refine ⟨hsize, ?_, ?_⟩
  · intro c p _
    exact hsize.symm ▸ p.isLt
  · intro k
    exact hsize.symm ▸ k.start_add_size_le_total

/-- A counter that is recorded is written. -/
theorem put_writes {s s' : Store} {unit : UInt32} {c : Counter} {factory : Bool} {e : Entry}
    (h : s.put unit c factory e = .ok s') : Writes unit c (recorded c factory e) s s' := by
  have hput : (Call.put unit c factory e).perform s = (.ok (), s') := by
    simp only [Call.perform, h, Except.map, changed]
  rcases Call.perform_cases (.put unit c factory e) s with ⟨⟨hunit, hin⟩, x, hok⟩ | ⟨_, -, herror⟩
  · obtain ⟨p, hp⟩ := Counter.exists_position (hin c rfl)
    have hu : unit.toNat < s.numUnits := hunit unit rfl
    have hs' : s' = s.write unit p (recorded c factory e) := by
      rw [hok] at hput
      simp only [Call.effect, hp, Prod.mk.injEq] at hput
      exact hput.2.symm
    rw [hs']
    refine ⟨?_, ?_, fun i => units_write_of_ne s p _, settings?_write s unit p _⟩
    · intro d hd
      refine get_eq_ok_iff.2 ⟨p, hd.trans hp, ?_⟩
      rw [cell?_write hu, if_pos ⟨rfl, rfl⟩]
    · intro v d hd
      refine get_congr (numUnits_write ..) ?_
      intro q hq
      rw [cell?_write hu, if_neg]
      rintro ⟨hv, rfl⟩
      exact hd ⟨hv, hq.trans hp.symm⟩
  · rw [herror] at hput
    cases hput

/-- **The store is a memory.** After any calls it has the units that it started with, and all
positions of the layout lie within their vectors. A counter reads as what was last recorded at its
position, and as the initial entry if nothing was. Every call succeeds exactly if its unit and its
counter exist, and changes nothing if it fails, and no counter or other unit but those that it is
about. What is recorded at a counter is then read at every counter at its position, and at no
other. No unit has a limit of zero triggers. -/
theorem memory_of_run (n : Nat) (calls : List (Sigma Call)) :
    let s := run calls (initial n)
    (s.numUnits = n ∧ ∀ u ∈ s.units, Fits u.entries.toArray) ∧
    (∀ unit c p, unit.toNat < n → c.position = .ok p →
      s.get unit c = .ok ((lastRecorded? calls unit p).getD .initial)) ∧
    (∀ {α : Type} (call : Call α), call.Sound s) ∧
    (∀ unit c factory e s', s.put unit c factory e = .ok s' →
      Writes unit c (recorded c factory e) s s') ∧
    ∀ unit x, s.settings unit = .ok x → x.maxTriggers ≠ 0 := by
  intro s
  refine ⟨⟨?_, fun u _ => fits_entries u⟩, ?_, fun call => call.sound s, ?_, ?_⟩
  · show (run calls (initial n)).numUnits = n
    rw [numUnits_run, numUnits_initial]
  · intro unit c p hu hp
    exact get_run n calls hu hp
  · intro unit c factory e s' h
    exact put_writes h
  · intro unit x hx
    obtain ⟨old, rfl⟩ := of_settings_eq_ok hx
    exact old.maxTriggers_withTriggerDefault_ne_zero

end Store

end BufferTelemetry
