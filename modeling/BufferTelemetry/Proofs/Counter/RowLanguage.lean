import BufferTelemetry.Proofs.Counter.RowName

/-!
# The language of row names

A row name is more than the name that is written for a counter: an unused slot may hold anything
or, if it is the second, be missing, and a number may have a sign and leading zeros. The pieces of
a name either spell a counter (`Spells`), or they are malformed, or what they name is unknown
(`exists_spells_or`). Each of the three decides what the name is read as (`ofRowName_of_spells`,
`ofRowName_of_malformed`, `ofRowName_of_unknown`), so together they are the language
(`ofRowName_language`).
-/

namespace BufferTelemetry

open Text

namespace Counter

/-- The slots of a row of a kind hold the coordinates that the kind uses, written in decimal. The
other coordinates are zero. -/
inductive Addresses : CounterKind → List String → Counter → Prop
  | single {kind : CounterKind} {slots : List String} (hx : kind.indexing = .single) :
      Addresses kind slots ⟨kind, 0, 0⟩
  | row {kind : CounterKind} {columns : Nat} {text : String} {rest : List String}
      {index : UInt32} (hx : kind.indexing = .row columns)
      (hindex : Numeral.Denotes text index.toNat) :
      Addresses kind (text :: rest) ⟨kind, 0, index⟩
  | grid {kind : CounterKind} {rows columns : Nat} {first second : String} {rest : List String}
      {port index : UInt32} (hx : kind.indexing = .grid rows columns)
      (hport : Numeral.Denotes first port.toNat) (hindex : Numeral.Denotes second index.toNat) :
      Addresses kind (first :: second :: rest) ⟨kind, port, index⟩

/-- The number of index slots that are read for a kind. -/
def slotsRead (kind : CounterKind) : Nat :=
  match kind.indexing with
  | .single => 0
  | .row _ => 1
  | .grid .. => 2

/-- There is a slot of the given number, and it holds a number of thirty-two bits. -/
def Legible (slots : List String) (i : Nat) : Prop :=
  ∃ text n, slots[i]? = some text ∧ Numeral.Denotes text n ∧ n < UInt32.size

/-- The pieces of a row name spell a counter that exists: the names of its realm and of the
counter, and one or two slots that address it. -/
def Spells (tokens : List String) (c : Counter) : Prop :=
  ∃ slots, tokens = c.kind.realm.name :: c.kind.counter :: slots ∧
    (slots.length = 1 ∨ slots.length = 2) ∧ Addresses c.kind slots c ∧ c.InBounds

/-- There are too few pieces or too many, or a slot that is read for the kind they name is
missing or holds no number of thirty-two bits. -/
inductive Malformed : List String → Prop
  | tokens {tokens : List String} (hlength : ¬ (tokens.length = 3 ∨ tokens.length = 4)) :
      Malformed tokens
  | slot {kind : CounterKind} {slots : List String} {i : Nat} (hi : i < slotsRead kind)
      (hslot : ¬ Legible slots i) : Malformed (kind.realm.name :: kind.counter :: slots)

/-- The pieces are as many as they should be, but they name no kind, or an address of their kind
at which there is no counter. -/
inductive Unknown : List String → Prop
  | kind {realm counter : String} {slots : List String}
      (hlength : slots.length = 1 ∨ slots.length = 2)
      (hkind : ∀ kind : CounterKind, ¬ (kind.realm.name = realm ∧ kind.counter = counter)) :
      Unknown (realm :: counter :: slots)
  | address {c : Counter} {slots : List String} (hlength : slots.length = 1 ∨ slots.length = 2)
      (haddress : Addresses c.kind slots c) (hout : ¬ c.InBounds) :
      Unknown (c.kind.realm.name :: c.kind.counter :: slots)

section Slots

variable {name : String} {kind : CounterKind} {slots : List String} {c : Counter}

theorem slot_eq_ok {text : String} {n : UInt32} (h : Numeral.Denotes text n.toNat) :
    slot name (some text) = .ok n := by
  have hread : Numeral.decimal? UInt32.size text = some n.toNat :=
    Numeral.decimal?_eq_some_iff.2 ⟨h, n.toNat_lt⟩
  simp only [slot, hread, UInt32.ofNat_toNat]

theorem slot_of_legible {i : Nat} (h : Legible slots i) :
    ∃ text, ∃ n : UInt32, slots[i]? = some text ∧ Numeral.Denotes text n.toNat := by
  obtain ⟨text, n, hslot, htext, hn⟩ := h
  refine ⟨text, .ofNat n, hslot, ?_⟩
  rwa [UInt32.toNat_ofNat_of_lt' hn]

/-- A slot that is not legible is reported as an invalid parameter. -/
theorem slot_of_not_legible (name : String) {i : Nat} (h : ¬ Legible slots i) :
    ∃ reason, slot name slots[i]? = .error (.invalidParameter reason) := by
  cases hslot : slots[i]? with
  | none => exact ⟨_, rfl⟩
  | some text =>
    have hread : Numeral.decimal? UInt32.size text = none := by
      refine Option.eq_none_iff_forall_ne_some.2 ?_
      intro n hn
      obtain ⟨htext, hlt⟩ := Numeral.decimal?_eq_some_iff.1 hn
      exact h ⟨text, n, hslot, htext, hlt⟩
    simp only [slot, hread]
    exact ⟨_, rfl⟩

theorem Addresses.kind_eq (h : Addresses kind slots c) : c.kind = kind := by
  cases h <;> rfl

/-- An address uses no coordinate that its kind ignores. -/
theorem Addresses.canonical_eq (h : Addresses kind slots c) : c.canonical = c := by
  cases h with
  | single hx => exact canonical_of_single hx
  | row hx => exact canonical_of_row hx
  | grid hx => exact canonical_of_grid hx

theorem ofSlots_of_addresses (h : Addresses kind slots c) : ofSlots name kind slots = .ok c := by
  cases h with
  | single hx => simp only [ofSlots, hx]
  | row hx hindex =>
    simp only [ofSlots, hx, List.getElem?_cons_zero, slot_eq_ok hindex]
    rfl
  | grid hx hport hindex =>
    simp only [ofSlots, hx, List.getElem?_cons_zero, List.getElem?_cons_succ, slot_eq_ok hport,
      slot_eq_ok hindex]
    rfl

/-- A slot is reported whether or not the one before it is legible. -/
theorem ofSlots_of_not_legible (name : String) {i : Nat} (hi : i < slotsRead kind)
    (h : ¬ Legible slots i) :
    ∃ reason, ofSlots name kind slots = .error (.invalidParameter reason) := by
  obtain ⟨reason, hreason⟩ := slot_of_not_legible name h
  cases hx : kind.indexing with
  | single =>
    simp only [slotsRead, hx] at hi
    exact absurd hi (Nat.not_lt_zero i)
  | row columns =>
    simp only [slotsRead, hx, Nat.lt_one_iff] at hi
    subst hi
    simp only [ofSlots, hx, hreason]
    exact ⟨reason, rfl⟩
  | grid rows columns =>
    simp only [slotsRead, hx] at hi
    simp only [ofSlots, hx]
    by_cases hfirst : Legible slots 0
    · obtain ⟨text, port, hslot, hport⟩ := slot_of_legible hfirst
      have hi : i = 1 := by
        have hne : i ≠ 0 := fun h0 => h (h0 ▸ hfirst)
        omega
      subst hi
      rw [hslot, slot_eq_ok hport, hreason]
      exact ⟨reason, rfl⟩
    · obtain ⟨reason, hreason⟩ := slot_of_not_legible name hfirst
      rw [hreason]
      exact ⟨reason, rfl⟩

/-- Legible slots are the address of a counter, which need not exist. -/
theorem exists_addresses (h : ∀ i < slotsRead kind, Legible slots i) :
    ∃ c, Addresses kind slots c := by
  cases hx : kind.indexing with
  | single => exact ⟨_, .single hx⟩
  | row columns =>
    obtain ⟨text, index, hslot, hindex⟩ := slot_of_legible (h 0 (by simp [slotsRead, hx]))
    obtain ⟨rest, rfl⟩ : ∃ rest, slots = text :: rest := List.head?_eq_some_iff.1 (by
      rwa [List.head?_eq_getElem?])
    exact ⟨_, .row hx hindex⟩
  | grid rows columns =>
    obtain ⟨first, port, hfirst, hport⟩ := slot_of_legible (h 0 (by simp [slotsRead, hx]))
    obtain ⟨second, index, hsecond, hindex⟩ := slot_of_legible (h 1 (by simp [slotsRead, hx]))
    match slots, hfirst, hsecond with
    | _ :: _ :: rest, rfl, rfl => exact ⟨_, .grid hx hport hindex⟩

end Slots

section Names

variable {name : String} {c : Counter}

/-- A name with one or two slots behind the name of a kind is read by its slots. -/
theorem ofRowName_of_pieces {kind : CounterKind} {slots : List String}
    (hpieces : pieces '/' name = kind.realm.name :: kind.counter :: slots)
    (hlength : slots.length = 1 ∨ slots.length = 2) :
    ofRowName name = ofSlots name kind slots >>= fun c =>
      match c.position with
      | .ok _ => .ok c
      | .error _ => .error (.notFound s!"counter for row key {name}") := by
  simp only [ofRowName, hpieces, if_pos hlength, CounterKind.lookup?_names]
  rfl

theorem ofRowName_of_spells (h : Spells (pieces '/' name) c) : ofRowName name = .ok c := by
  obtain ⟨slots, hpieces, hlength, haddress, hin⟩ := h
  obtain ⟨p, hp⟩ := exists_position hin
  rw [ofRowName_of_pieces hpieces hlength, ofSlots_of_addresses haddress]
  simp only [bind, Except.bind, hp]

theorem ofRowName_of_malformed (h : Malformed (pieces '/' name)) :
    ∃ reason, ofRowName name = .error (.invalidParameter reason) := by
  have hcount : ∀ tokens, pieces '/' name = tokens → ¬ (tokens.length = 3 ∨ tokens.length = 4) →
      ∃ reason, ofRowName name = .error (.invalidParameter reason) := by
    intro tokens htokens hlength
    match tokens, htokens with
    | [], htokens | [_], htokens =>
      simp only [ofRowName, htokens]
      exact ⟨_, rfl⟩
    | _ :: _ :: slots, htokens =>
      have hslots : ¬ (slots.length = 1 ∨ slots.length = 2) := by
        simpa only [List.length_cons, Nat.succ.injEq] using hlength
      simp only [ofRowName, htokens, if_neg hslots]
      exact ⟨_, rfl⟩
  generalize htokens : pieces '/' name = tokens at h
  cases h with
  | tokens hlength => exact hcount tokens htokens hlength
  | @slot kind slots i hi hslot =>
    by_cases hlength : slots.length = 1 ∨ slots.length = 2
    · obtain ⟨reason, hreason⟩ := ofSlots_of_not_legible name hi hslot
      rw [ofRowName_of_pieces htokens hlength, hreason]
      exact ⟨reason, rfl⟩
    · refine hcount _ htokens ?_
      simpa only [List.length_cons, Nat.succ.injEq] using hlength

theorem ofRowName_of_unknown (h : Unknown (pieces '/' name)) :
    ∃ item, ofRowName name = .error (.notFound item) := by
  generalize htokens : pieces '/' name = tokens at h
  cases h with
  | @kind realm counter slots hlength hkind =>
    have hlookup : CounterKind.lookup? realm counter = none := by
      refine List.find?_eq_none.2 ?_
      intro kind _ h
      exact hkind kind (of_decide_eq_true h)
    simp only [ofRowName, htokens, if_pos hlength, hlookup]
    exact ⟨_, rfl⟩
  | @address c slots hlength haddress hout =>
    rw [ofRowName_of_pieces htokens hlength, ofSlots_of_addresses haddress]
    cases hp : c.position with
    | ok p => exact absurd (position_eq_ok_iff.1 hp).1 hout
    | error e =>
      simp only [bind, Except.bind, hp]
      exact ⟨_, rfl⟩

/-- **Three ways.** Whatever the pieces of a name are, they spell a counter, or they are malformed,
or what they name is unknown. -/
theorem exists_spells_or (tokens : List String) :
    (∃ c, Spells tokens c) ∨ Malformed tokens ∨ Unknown tokens := by
  by_cases hcount : tokens.length = 3 ∨ tokens.length = 4
  · obtain ⟨realm, counter, slots, rfl⟩ :
        ∃ realm counter slots, tokens = realm :: counter :: slots := by
      match tokens, hcount with
      | realm :: counter :: slots, _ => exact ⟨realm, counter, slots, rfl⟩
    have hlength : slots.length = 1 ∨ slots.length = 2 := by
      simpa only [List.length_cons, Nat.succ.injEq] using hcount
    by_cases hkind : ∃ kind : CounterKind, kind.realm.name = realm ∧ kind.counter = counter
    · obtain ⟨kind, rfl, rfl⟩ := hkind
      by_cases hslots : ∀ i < slotsRead kind, Legible slots i
      · obtain ⟨c, haddress⟩ := exists_addresses hslots
        obtain rfl := haddress.kind_eq
        by_cases hin : c.InBounds
        · exact .inl ⟨c, slots, rfl, hlength, haddress, hin⟩
        · exact .inr (.inr (.address hlength haddress hin))
      · obtain ⟨i, hi, hslot⟩ : ∃ i, i < slotsRead kind ∧ ¬ Legible slots i := by
          simpa only [Classical.not_forall, exists_prop] using hslots
        exact .inr (.inl (.slot hi hslot))
    · exact .inr (.inr (.kind hlength fun kind h => hkind ⟨kind, h⟩))
  · exact .inr (.inl (.tokens hcount))

/-- What the pieces of a name are decides what the name is read as. -/
theorem ofRowName_cases (name : String) :
    (∃ c, Spells (pieces '/' name) c ∧ ofRowName name = .ok c) ∨
    (Malformed (pieces '/' name) ∧
      ∃ reason, ofRowName name = .error (.invalidParameter reason)) ∨
    (Unknown (pieces '/' name) ∧ ∃ item, ofRowName name = .error (.notFound item)) := by
  rcases exists_spells_or (pieces '/' name) with ⟨c, hspells⟩ | hmalformed | hunknown
  · exact .inl ⟨c, hspells, ofRowName_of_spells hspells⟩
  · exact .inr (.inl ⟨hmalformed, ofRowName_of_malformed hmalformed⟩)
  · exact .inr (.inr ⟨hunknown, ofRowName_of_unknown hunknown⟩)

theorem spells_of_ofRowName (h : ofRowName name = .ok c) : Spells (pieces '/' name) c := by
  rcases ofRowName_cases name with ⟨d, hd, hread⟩ | ⟨-, _, hread⟩ | ⟨-, _, hread⟩
  all_goals
    rw [hread] at h
    cases h
  exact hd

/-- A name uses no coordinate that the kind of its counter ignores. -/
theorem canonical_eq_of_ofRowName (h : ofRowName name = .ok c) : c.canonical = c := by
  obtain ⟨slots, -, -, haddress, -⟩ := spells_of_ofRowName h
  exact haddress.canonical_eq

/-- **The language of row names.** A name is read as a counter exactly if its pieces spell it, and
the name that is written for the counter is read as the counter again. It is an invalid parameter
exactly if its pieces are malformed, and not found exactly if what they name is unknown; it does
not fail for any other reason. -/
theorem ofRowName_language (name : String) :
    (∀ c, ofRowName name = .ok c ↔ Spells (pieces '/' name) c) ∧
    (∀ c, ofRowName name = .ok c → ofRowName c.rowName = .ok c) ∧
    ((∃ reason, ofRowName name = .error (.invalidParameter reason)) ↔
      Malformed (pieces '/' name)) ∧
    ((∃ item, ofRowName name = .error (.notFound item)) ↔ Unknown (pieces '/' name)) ∧
    ∀ e, ofRowName name = .error e →
      (∃ reason, e = .invalidParameter reason) ∨ ∃ item, e = .notFound item := by
  refine ⟨fun c => ⟨spells_of_ofRowName, ofRowName_of_spells⟩, ?_, ⟨?_, ofRowName_of_malformed⟩,
    ⟨?_, ofRowName_of_unknown⟩, ?_⟩
  · intro c h
    obtain ⟨p, hp⟩ := exists_position_of_ofRowName h
    rw [ofRowName_rowName hp, canonical_eq_of_ofRowName h]
  · rintro ⟨reason, h⟩
    rcases ofRowName_cases name with ⟨_, -, hread⟩ | ⟨hmalformed, _, hread⟩ | ⟨-, _, hread⟩
    all_goals
      rw [hread] at h
      cases h
    exact hmalformed
  · rintro ⟨item, h⟩
    rcases ofRowName_cases name with ⟨_, -, hread⟩ | ⟨-, _, hread⟩ | ⟨hunknown, _, hread⟩
    all_goals
      rw [hread] at h
      cases h
    exact hunknown
  · intro e h
    rcases ofRowName_cases name with ⟨_, -, hread⟩ | ⟨-, reason, hread⟩ | ⟨-, item, hread⟩
    all_goals
      rw [hread] at h
      cases h
    · exact .inl ⟨reason, rfl⟩
    · exact .inr ⟨item, rfl⟩

-- a number with a sign and leading zeros, and no second slot
example : ofRowName "egress-cpu-queue/cpu-buffer-count/+007" = .ok ⟨.cpuQueue, 0, 7⟩ := by rfl

end Names

end Counter

end BufferTelemetry
