import BufferTelemetry.Counter.RowName
import BufferTelemetry.Proofs.Counter.Layout
import BufferTelemetry.Proofs.Text.Decimal

/-!
# Row names denote counters

The name of a counter's row is read back as the counter, with the coordinates that
its kind ignores set to zero (`ofRowName_rowName`), and different counters have
different row names (`rowName_eq_iff`). An address without a counter has a row name
too, which is told apart from all others but is not found when it is read
(`rowName_denotes`). In the other direction a name is read as a counter only if that
counter exists (`exists_position_of_ofRowName`).

A name is cut at its slashes, so the first thing to know is that none of its four
parts contains one.
-/

namespace BufferTelemetry

open Text

namespace Text

theorem pieces_of_not_mem {s : String} (h : '/' ∉ s.toList) : pieces '/' s = [s] := by
  rw [pieces, List.splitOn_eq_singleton h, List.map_singleton, String.ofList_toList]

/-- What stands before the first slash is the first piece. -/
theorem pieces_append {s : String} (h : '/' ∉ s.toList) (t : String) :
    pieces '/' (s ++ "/" ++ t) = s :: pieces '/' t := by
  have hlist : (s ++ "/" ++ t).toList = s.toList ++ '/' :: t.toList := by
    rw [String.toList_append, String.toList_append]
    simp
  rw [pieces, hlist, List.splitOn_append_cons_self, List.splitOn_eq_singleton h,
    List.singleton_append, List.map_cons, String.ofList_toList, pieces]

theorem not_mem_toString (n : UInt32) : '/' ∉ (toString n).toList := by
  rw [Numeral.toList_toString]
  intro hmem
  exact absurd (Numeral.isDigit_of_mem_toDigits hmem) (by decide)

end Text

namespace CounterKind

theorem not_mem_realm_name (k : CounterKind) : '/' ∉ k.realm.name.toList := by
  cases k <;> decide

theorem not_mem_counter (k : CounterKind) : '/' ∉ k.counter.toList := by
  cases k <;> decide

theorem lookup?_names (k : CounterKind) : lookup? k.realm.name k.counter = some k := by
  cases k <;> decide

theorem names_of_lookup? {realm counter : String} {k : CounterKind}
    (h : lookup? realm counter = some k) : k.realm.name = realm ∧ k.counter = counter := by
  have hnames := List.find?_some h
  exact of_decide_eq_true hnames

end CounterKind

namespace Counter

def firstSlot (c : Counter) : String :=
  match c.kind.indexing with
  | .single => unusedSlot
  | .row _ => toString c.index
  | .grid .. => toString c.port

def secondSlot (c : Counter) : String :=
  match c.kind.indexing with
  | .grid .. => toString c.index
  | _ => unusedSlot

theorem not_mem_firstSlot (c : Counter) : '/' ∉ c.firstSlot.toList := by
  unfold firstSlot
  split
  · decide
  · exact not_mem_toString _
  · exact not_mem_toString _

theorem not_mem_secondSlot (c : Counter) : '/' ∉ c.secondSlot.toList := by
  unfold secondSlot
  split
  · exact not_mem_toString _
  · decide

theorem rowName_eq (c : Counter) :
    c.rowName = c.kind.realm.name ++ "/" ++
      (c.kind.counter ++ "/" ++ (c.firstSlot ++ "/" ++ c.secondSlot)) := by
  have happend : c.rowName =
      c.kind.realm.name ++ "/" ++ c.kind.counter ++ "/" ++ c.firstSlot ++ "/" ++ c.secondSlot := by
    cases hx : c.kind.indexing <;> simp only [rowName, firstSlot, secondSlot, hx] <;> rfl
  rw [happend]
  simp only [String.append_assoc]

theorem pieces_rowName (c : Counter) :
    pieces '/' c.rowName = [c.kind.realm.name, c.kind.counter, c.firstSlot, c.secondSlot] := by
  rw [rowName_eq, pieces_append c.kind.not_mem_realm_name, pieces_append c.kind.not_mem_counter,
    pieces_append c.not_mem_firstSlot, pieces_of_not_mem c.not_mem_secondSlot]

theorem slot_toString (row : String) (n : UInt32) : slot row (some (toString n)) = .ok n := by
  simp only [slot, Numeral.decimal?_toString, UInt32.ofNat_toNat]

/-- The slots of a counter's row name are read as its canonical coordinates. -/
theorem ofSlots_slots (row : String) (c : Counter) :
    ofSlots row c.kind [c.firstSlot, c.secondSlot] = .ok c.canonical := by
  cases hx : c.kind.indexing with
  | single =>
    rw [canonical_of_single hx]
    simp only [ofSlots, hx]
  | row columns =>
    rw [canonical_of_row hx]
    simp only [ofSlots, firstSlot, hx, List.getElem?_cons_zero, slot_toString]
    rfl
  | grid rows columns =>
    rw [canonical_of_grid hx]
    simp only [ofSlots, firstSlot, secondSlot, hx, List.getElem?_cons_zero,
      List.getElem?_cons_succ, slot_toString]
    rfl

/-- A row name is read as the canonical address, if there is a counter at it. -/
theorem ofRowName_rowName_eq (c : Counter) :
    ofRowName c.rowName = match c.position with
      | .ok _ => .ok c.canonical
      | .error _ => .error (.notFound s!"counter for row key {c.rowName}") := by
  simp only [ofRowName, pieces_rowName, CounterKind.lookup?_names, ofSlots_slots,
    List.length_cons, List.length_nil, or_true, if_true, bind, Except.bind, position_canonical]
  cases c.position <;> rfl

/-- **Round trip.** The row name of a counter that exists is read back as the counter. -/
theorem ofRowName_rowName {c : Counter} {p : Fin CounterKind.total} (hp : c.position = .ok p) :
    ofRowName c.rowName = .ok c.canonical := by
  rw [ofRowName_rowName_eq, hp]

/-- A name that is read as a counter has its parts: a realm and a counter in it, which name the
kind, and the slots, which address a counter that exists. -/
theorem parts_of_ofRowName {name : String} {c : Counter} (h : ofRowName name = .ok c) :
    ∃ realm counter slots kind, pieces '/' name = realm :: counter :: slots ∧
      CounterKind.lookup? realm counter = some kind ∧ ofSlots name kind slots = .ok c ∧
      ∃ p, c.position = .ok p := by
  unfold ofRowName at h
  split at h
  · rename_i realm counter slots hpieces
    split at h
    · split at h
      · cases h
      · rename_i kind hkind
        cases hs : ofSlots name kind slots with
        | error e => rw [hs] at h; cases h
        | ok d =>
          cases hd : d.position with
          | error e => rw [hs] at h; simp only [bind, Except.bind, hd] at h; cases h
          | ok p =>
            rw [hs] at h
            simp only [bind, Except.bind, hd] at h
            cases h
            exact ⟨realm, counter, slots, kind, hpieces, hkind, hs, p, hd⟩
    · cases h
  · cases h

/-- A name is read as a counter only if the counter exists. -/
theorem exists_position_of_ofRowName {name : String} {c : Counter} (h : ofRowName name = .ok c) :
    ∃ p, c.position = .ok p := by
  obtain ⟨-, -, -, -, -, -, -, hposition⟩ := parts_of_ofRowName h
  exact hposition

theorem kind_of_ofSlots {row : String} {kind : CounterKind} {slots : List String} {c : Counter}
    (h : ofSlots row kind slots = .ok c) : c.kind = kind := by
  unfold ofSlots at h
  split at h
  · cases h
    rfl
  · cases hindex : slot row slots[0]? with
    | error e => rw [hindex] at h; cases h
    | ok index => rw [hindex] at h; cases h; rfl
  · cases hport : slot row slots[0]? with
    | error e => rw [hport] at h; cases h
    | ok port =>
      cases hindex : slot row slots[1]? with
      | error e => rw [hport, hindex] at h; cases h
      | ok index => rw [hport, hindex] at h; cases h; rfl

/-- What stands before the first slash of a name that is read as a counter is its realm. -/
theorem realm_of_ofRowName {name : String} {c : Counter} (h : ofRowName name = .ok c) :
    (pieces '/' name).head? = some c.kind.realm.name := by
  obtain ⟨realm, counter, slots, kind, hpieces, hkind, hslots, -⟩ := parts_of_ofRowName h
  rw [hpieces, kind_of_ofSlots hslots, (CounterKind.names_of_lookup? hkind).1, List.head?_cons]

@[simp]
theorem rowName_canonical (c : Counter) : c.canonical.rowName = c.rowName := by
  obtain ⟨kind, port, index⟩ := c
  cases kind <;> rfl

/-- The parts of a row name determine the kind, and then the coordinates that it uses. -/
theorem canonical_eq_of_rowName_eq {c d : Counter} (h : c.rowName = d.rowName) :
    c.canonical = d.canonical := by
  have hpieces : pieces '/' c.rowName = pieces '/' d.rowName := by rw [h]
  simp only [pieces_rowName, List.cons.injEq, and_true] at hpieces
  obtain ⟨hrealm, hcounter, hfirst, hsecond⟩ := hpieces
  have hkind : c.kind = d.kind := by
    have hlookup := CounterKind.lookup?_names c.kind
    rw [hrealm, hcounter, CounterKind.lookup?_names] at hlookup
    exact (Option.some.inj hlookup).symm
  -- the slots are read alike, whether or not there are counters at the addresses
  have hread := ofSlots_slots c.rowName c
  rw [hkind, hfirst, hsecond, ofSlots_slots] at hread
  exact (Except.ok.inj hread).symm

/-- Counters share a row name exactly when they are the same counter. -/
theorem rowName_eq_iff {c d : Counter} : c.rowName = d.rowName ↔ c.canonical = d.canonical := by
  constructor
  · exact canonical_eq_of_rowName_eq
  · intro h
    rw [← rowName_canonical c, h, rowName_canonical]

/-- **Names denote counters.** Whatever the kind, port and index, the row name of an address
is read back as the same kind with canonical coordinates if the coordinates have an offset
within the kind, and is otherwise reported as not found. Two addresses have the same row
name exactly when they have the same kind and the same canonical coordinates. -/
theorem rowName_denotes (c d : Counter) :
    (ofRowName c.rowName = match c.offset with
      | .ok _ => .ok c.canonical
      | .error _ => .error (.notFound s!"counter for row key {c.rowName}")) ∧
    c.canonical.kind = c.kind ∧
    (c.rowName = d.rowName ↔
      c.kind = d.kind ∧ c.canonical.port = d.canonical.port ∧
        c.canonical.index = d.canonical.index) := by
  refine ⟨?_, canonical_kind c, ?_⟩
  · -- an address has a position exactly when it has an offset
    rw [ofRowName_rowName_eq, position]
    cases c.offset <;> rfl
  · rw [rowName_eq_iff]
    constructor
    · intro h
      exact ⟨kind_eq_of_canonical_eq h, by rw [h], by rw [h]⟩
    · rintro ⟨hkind, hport, hindex⟩
      rw [← canonical_kind c, ← canonical_kind d] at hkind
      cases hc : c.canonical
      cases hd : d.canonical
      simp_all

end Counter

end BufferTelemetry
