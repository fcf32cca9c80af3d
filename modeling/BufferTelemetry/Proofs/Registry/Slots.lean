import BufferTelemetry.Proofs.Registry.Registration

/-!
# Slots of a registry

A registry can be seen as a table of slots, each of which is free or holds a plugin: a
plugin that can be part of a registry at all (`Admissible`) is put into the first free slot.
The registry, which only counts its plugins, answers every call as the table does
(`slots_register`), and so the taken slots stand in front of the free ones and hold, in the
order of the calls, the plugins that were accepted. These are the first admissible ones, as
many as there are slots (`calls_fill_slots`).
-/

namespace BufferTelemetry.Registry

variable {ω τ : Type}

/-! ## One call -/

/-- The plugin has no more features than a plugin can have, and none of its System services
reports more ASICs than a platform can have. -/
structure Admissible (p : Plugin ω) : Prop where
  offers_le : p.offers.length ≤ maxFeaturesPerPlugin
  asics_le : ∀ o ∈ p.offers, ∀ s, o.service = .system s → s.asics.length ≤ maxAsics

/-- Checks in turn all pass, or one of them fails and decides. -/
theorem forM_cases {α ε : Type} (check : α → Except ε Unit) (l : List α) :
    (l.forM check = .ok () ∧ ∀ x ∈ l, check x = .ok ()) ∨
      ∃ x ∈ l, ∃ e, check x = .error e ∧ l.forM check = .error e := by
  induction l with
  | nil => exact .inl ⟨rfl, by simp⟩
  | cons x rest ih =>
    have hcons : (x :: rest).forM check = check x >>= fun _ => rest.forM check := rfl
    rw [hcons]
    cases hx : check x with
    | error e => exact .inr ⟨x, List.mem_cons_self, e, hx, rfl⟩
    | ok passed =>
      rcases ih with ⟨hrest, hall⟩ | ⟨y, hy, e, hfails, hrest⟩
      · exact .inl ⟨hrest, List.forall_mem_cons.2 ⟨hx, hall⟩⟩
      · exact .inr ⟨y, List.mem_cons_of_mem _ hy, e, hfails, hrest⟩

theorem checkOffer_cases (name : String) (o : Offer ω) :
    (checkOffer name o = .ok () ∧ ∀ s, o.service = .system s → s.asics.length ≤ maxAsics) ∨
      ∃ s, o.service = .system s ∧ maxAsics < s.asics.length ∧
        ∃ text, checkOffer name o = .error (.invalidParameter text) := by
  unfold checkOffer
  cases hservice : o.service with
  | bst b => exact .inl ⟨rfl, by simp⟩
  | system s =>
    by_cases hasics : s.asics.length > maxAsics
    · exact .inr ⟨s, rfl, hasics, _, if_pos hasics⟩
    · refine .inl ⟨if_neg hasics, ?_⟩
      rintro s' ⟨⟩
      omega

/-- A plugin passes the check if it is admissible, and is an invalid parameter if not. -/
theorem check_cases (p : Plugin ω) :
    (Admissible p ∧ check p = .ok ()) ∨
      (¬ Admissible p ∧ ∃ text, check p = .error (.invalidParameter text)) := by
  by_cases hoffers : p.offers.length > maxFeaturesPerPlugin
  · refine .inr ⟨fun h => absurd h.offers_le (by omega), ?_⟩
    rw [check, if_pos hoffers]
    exact ⟨_, rfl⟩
  · have hcheck : check p = p.offers.forM (checkOffer p.name) := if_neg hoffers
    rw [hcheck]
    rcases forM_cases (checkOffer p.name) p.offers with ⟨hok, hall⟩ | ⟨o, ho, e, hfails, herror⟩
    · refine .inl ⟨⟨by omega, ?_⟩, hok⟩
      intro o ho
      rcases checkOffer_cases p.name o with ⟨-, hasics⟩ | ⟨s, -, -, text, hfails⟩
      · exact hasics
      · rw [hall o ho] at hfails
        cases hfails
    · rcases checkOffer_cases p.name o with ⟨hpasses, -⟩ | ⟨s, hs, hasics, text, htext⟩
      · rw [hpasses] at hfails
        cases hfails
      · rw [htext] at hfails
        cases hfails
        exact .inr ⟨fun h => absurd (h.asics_le o ho s hs) (by omega), text, herror⟩

theorem isOk_check_iff {p : Plugin ω} : (check p).isOk = true ↔ Admissible p := by
  rcases check_cases p with ⟨h, hcheck⟩ | ⟨h, text, hcheck⟩
  · simp [hcheck, h, Except.isOk, Except.toBool]
  · simp [hcheck, h, Except.isOk, Except.toBool]

instance : DecidablePred (Admissible (ω := ω)) := fun _ => decidable_of_iff _ isOk_check_iff

/-- What a call can do: it refuses the plugin, or the registry is full, or the plugin is put
behind the others. -/
theorem register_cases (r : Registry ω) (p : Plugin ω) :
    (¬ Admissible p ∧ ∃ text, r.register p = .error (.invalidParameter text)) ∨
    (Admissible p ∧ r.capacity ≤ r.plugins.length ∧
      r.register p = .error (.tableFull "plugin registry")) ∨
    (Admissible p ∧ r.plugins.length < r.capacity ∧
      r.register p = .ok (r.plugins.length, { r with plugins := r.plugins ++ [p] })) := by
  rcases check_cases p with ⟨h, hcheck⟩ | ⟨h, text, hcheck⟩
  · by_cases hroom : r.plugins.length < r.capacity
    · refine .inr (.inr ⟨h, hroom, ?_⟩)
      rw [register, hcheck]
      exact if_pos hroom
    · refine .inr (.inl ⟨h, by omega, ?_⟩)
      rw [register, hcheck]
      exact if_neg hroom
  · refine .inl ⟨h, text, ?_⟩
    rw [register, hcheck]
    rfl

/-! ## Tables of slots -/

/-- The slots of a registry in their order: each of them is free or holds a plugin. -/
abbrev Slots (ω : Type) := List (Option (Plugin ω))

/-- So many slots that are free. -/
def Slots.free (ω : Type) (capacity : Nat) : Slots ω := List.replicate capacity none

/-- Puts a plugin into the first free slot, and answers which one that is. -/
def Slots.register (slots : Slots ω) (p : Plugin ω) : Except Error (Nat × Slots ω) := do
  check p
  match slots.findIdx? Option.isNone with
  | some slot => return (slot, slots.set slot (some p))
  | none => throw (.tableFull "plugin registry")

/-- The slots of a registry: those of its plugins, and behind them the free ones. -/
def slots (r : Registry ω) : Slots ω :=
  r.plugins.map some ++ List.replicate (r.capacity - r.plugins.length) none

theorem findIdx?_slots (r : Registry ω) :
    r.slots.findIdx? Option.isNone =
      if r.plugins.length < r.capacity then some r.plugins.length else none := by
  have htaken : (r.plugins.map some).findIdx? Option.isNone = none := by
    rw [List.findIdx?_eq_none_iff]
    simp
  rw [slots, List.findIdx?_append, htaken, Option.none_or]
  by_cases hroom : r.plugins.length < r.capacity
  · obtain ⟨rest, hrest⟩ := Nat.exists_eq_add_one_of_ne_zero (Nat.sub_ne_zero_of_lt hroom)
    rw [if_pos hroom, hrest, List.replicate_succ, List.findIdx?_cons]
    simp
  · rw [if_neg hroom, Nat.sub_eq_zero_of_le (by omega)]
    simp

theorem set_slots {r : Registry ω} (p : Plugin ω) (hroom : r.plugins.length < r.capacity) :
    r.slots.set r.plugins.length (some p) =
      ({ r with plugins := r.plugins ++ [p] } : Registry ω).slots := by
  have hrest : r.capacity - r.plugins.length = r.capacity - (r.plugins.length + 1) + 1 := by omega
  simp [slots, hrest, List.replicate_succ]

/-- **One step.** The registry answers a call as the table of its slots does, and its slots
are then those of the table. -/
theorem slots_register (r : Registry ω) (p : Plugin ω) :
    Slots.register r.slots p = (r.register p).map fun (slot, r') => (slot, r'.slots) := by
  unfold Slots.register register
  cases check p with
  | error e => rfl
  | ok passed =>
    show (match r.slots.findIdx? Option.isNone with
      | some slot => _
      | none => _) = _
    rw [findIdx?_slots]
    by_cases hroom : r.plugins.length < r.capacity
    · rw [if_pos hroom, if_pos hroom]
      show Except.ok (r.plugins.length, r.slots.set r.plugins.length (some p)) = _
      rw [set_slots p hroom]
      rfl
    · rw [if_neg hroom, if_neg hroom]
      rfl

/-! ## Calls in turn -/

/-- What a call answers, and the table after it: a call that fails leaves it as it is. -/
def call (register : τ → Plugin ω → Except Error (Nat × τ)) (t : τ) (p : Plugin ω) :
    Except Error Nat × τ :=
  match register t p with
  | .ok (slot, t') => (.ok slot, t')
  | .error e => (.error e, t)

/-- What calls answer in turn, and the table after them. -/
def calls (register : τ → Plugin ω → Except Error (Nat × τ)) :
    List (Plugin ω) → τ → List (Except Error Nat) × τ
  | [], t => ([], t)
  | p :: rest, t =>
    let (answer, next) := call register t p
    let (answers, last) := calls register rest next
    (answer :: answers, last)

/-- The plugins whose calls succeeded, in the order of the calls. -/
def accepted : List (Plugin ω) → List (Except Error Nat) → List (Plugin ω)
  | p :: rest, .ok _ :: answers => p :: accepted rest answers
  | _ :: rest, .error _ :: answers => accepted rest answers
  | _, _ => []

theorem call_cases (r : Registry ω) (p : Plugin ω) :
    (¬ Admissible p ∧ ∃ text, call register r p = (.error (.invalidParameter text), r)) ∨
    (Admissible p ∧ r.capacity ≤ r.plugins.length ∧
      call register r p = (.error (.tableFull "plugin registry"), r)) ∨
    (Admissible p ∧ r.plugins.length < r.capacity ∧
      call register r p = (.ok r.plugins.length, { r with plugins := r.plugins ++ [p] })) := by
  unfold call
  rcases register_cases r p with ⟨h, text, hregister⟩ | ⟨h, hfull, hregister⟩ |
    ⟨h, hroom, hregister⟩
  · exact .inl ⟨h, text, by rw [hregister]⟩
  · exact .inr (.inl ⟨h, hfull, by rw [hregister]⟩)
  · exact .inr (.inr ⟨h, hroom, by rw [hregister]⟩)

/-- **One call.** Which of its answers a call gives, and that it changes nothing if it fails. -/
theorem call_answers (r : Registry ω) (p : Plugin ω) (hroom : r.plugins.length ≤ r.capacity) :
    let (answer, r') := call register r p
    ((∃ text, answer = .error (.invalidParameter text)) ↔ ¬ Admissible p) ∧
    (answer = .error (.tableFull "plugin registry") ↔
      Admissible p ∧ r.plugins.length = r.capacity) ∧
    (∀ k, answer = .ok k ↔
      Admissible p ∧ r.plugins.length < r.capacity ∧ k = r.plugins.length) ∧
    ((∃ e, answer = .error e) → r' = r) := by
  rcases call_cases r p with ⟨h, text, hcall⟩ | ⟨h, hfull, hcall⟩ | ⟨h, hfree, hcall⟩
  · simp [hcall, h]
  · have hlength : r.plugins.length = r.capacity := Nat.le_antisymm hroom hfull
    simp [hcall, h, hlength]
  · have hlength : r.plugins.length ≠ r.capacity := Nat.ne_of_lt hfree
    simp [hcall, h, hfree, hlength, eq_comm]

theorem call_slots (r : Registry ω) (p : Plugin ω) :
    call Slots.register r.slots p = ((call register r p).1, (call register r p).2.slots) := by
  unfold call
  rw [slots_register]
  cases r.register p <;> rfl

/-- The table of slots answers calls as the registry does. -/
theorem calls_slots (ps : List (Plugin ω)) (r : Registry ω) :
    calls Slots.register ps r.slots =
      ((calls register ps r).1, (calls register ps r).2.slots) := by
  induction ps generalizing r with
  | nil => rfl
  | cons p rest ih =>
    simp only [calls, call_slots, ih]

theorem calls_registry (ps : List (Plugin ω)) (r : Registry ω) :
    (calls register ps r).2 = registerAll ps r := by
  induction ps generalizing r with
  | nil => rfl
  | cons p rest ih =>
    have hcall : (call register r p).2 = r.registered p := by
      unfold call registered
      cases r.register p <;> rfl
    show (calls register rest (call register r p).2).2 = registerAll rest (r.registered p)
    rw [ih, hcall]

/-- **A run.** The plugins that are accepted are put behind those that are there, and they are
the first admissible ones, as many as there is room for. -/
theorem calls_accept (ps : List (Plugin ω)) (r : Registry ω)
    (hroom : r.plugins.length ≤ r.capacity) :
    let (answers, r') := calls register ps r
    r'.capacity = r.capacity ∧ r'.plugins = r.plugins ++ accepted ps answers ∧
      accepted ps answers =
        (ps.filter fun p => Admissible p).take (r.capacity - r.plugins.length) := by
  induction ps generalizing r with
  | nil => simp [calls, accepted]
  | cons p rest ih =>
    rcases call_cases r p with ⟨h, text, hcall⟩ | ⟨h, hfull, hcall⟩ | ⟨h, hfree, hcall⟩
    · simp only [calls, hcall, accepted]
      rw [List.filter_cons_of_neg (by simpa using h)]
      exact ih r hroom
    · simp only [calls, hcall, accepted]
      obtain ⟨hcapacity, hplugins, haccepted⟩ := ih r hroom
      have hnone : r.capacity - r.plugins.length = 0 := by omega
      rw [hnone, List.take_zero] at haccepted ⊢
      exact ⟨hcapacity, hplugins, haccepted⟩
    · simp only [calls, hcall, accepted]
      have hlength : (r.plugins ++ [p]).length = r.plugins.length + 1 := by simp
      obtain ⟨hcapacity, hplugins, haccepted⟩ :=
        ih { r with plugins := r.plugins ++ [p] } (hlength ▸ hfree)
      have hleft : r.capacity - r.plugins.length = r.capacity - (r.plugins.length + 1) + 1 := by
        omega
      refine ⟨hcapacity, ?_, ?_⟩
      · rw [hplugins, List.append_assoc, List.singleton_append]
      · rw [List.filter_cons_of_pos (by simpa using h), hleft, List.take_succ_cons, haccepted,
          hlength]

/-- **Registration.** After any calls on an empty registry, the next call is refused as an
invalid parameter exactly when its plugin is not admissible; otherwise the registry is full
exactly when it holds as many plugins as it has slots; and otherwise the call answers the
number of calls that have succeeded before it. A call that fails leaves the registry as it is.
The plugins of the registry are those that were accepted, in the order of the calls: the first
admissible ones, as many as there are slots. A table of slots in which each plugin is put into
the first free slot answers the same, and holds these plugins in front of the free slots. -/
theorem calls_fill_slots (capacity : Nat) (before : List (Plugin ω)) (p : Plugin ω) :
    let r := registerAll before (.empty ω capacity)
    let answers := (calls register before (.empty ω capacity)).1
    let stored := accepted before answers
    let answer := (call register r p).1
    -- the next call
    ((∃ text, answer = .error (.invalidParameter text)) ↔ ¬ Admissible p) ∧
    (answer = .error (.tableFull "plugin registry") ↔ Admissible p ∧ stored.length = capacity) ∧
    (∀ k, answer = .ok k ↔ Admissible p ∧ stored.length < capacity ∧ k = stored.length) ∧
    ((∃ e, answer = .error e) → (call register r p).2 = r) ∧
    -- the plugins that are stored
    r.plugins = stored ∧ r.pluginNames = stored.map (·.name) ∧
    stored = (before.filter fun p => Admissible p).take capacity ∧
    -- their slots
    calls Slots.register before (.free ω capacity) =
      (answers, stored.map some ++ List.replicate (capacity - stored.length) none) := by
  intro r answers stored answer
  obtain ⟨hcapacity, hplugins, hstored⟩ := calls_accept before (.empty ω capacity) (Nat.zero_le _)
  rw [calls_registry] at hcapacity hplugins
  have hplugins : r.plugins = stored := hplugins
  have hcapacity : r.capacity = capacity := hcapacity
  have hstored : stored = (before.filter fun p => Admissible p).take capacity := hstored
  have hle : r.plugins.length ≤ r.capacity := by
    rw [hplugins, hcapacity, hstored]
    exact List.length_take_le _ _
  have hslots : calls Slots.register before (.free ω capacity) = (answers, r.slots) := by
    have hfree : Slots.free ω capacity = (empty ω capacity).slots := by
      simp [Slots.free, slots, empty]
    rw [hfree, calls_slots, calls_registry]
  rw [slots, hplugins, hcapacity] at hslots
  have hnames : r.pluginNames = stored.map (·.name) := by rw [pluginNames, hplugins]
  obtain ⟨hinvalid, hfull, hslot, hkept⟩ := call_answers r p hle
  rw [hplugins, hcapacity] at hfull hslot
  exact ⟨hinvalid, hfull, hslot, hkept, hplugins, hnames, hstored, hslots⟩

end BufferTelemetry.Registry
