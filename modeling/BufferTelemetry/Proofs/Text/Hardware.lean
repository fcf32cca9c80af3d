import BufferTelemetry.MacAddress
import BufferTelemetry.Proofs.Text.Hexadecimal
import Mathlib.Data.List.Forall2

/-!
# Texts of hardware addresses

A hardware address is read back from the digits of its bytes with colons between them. It has other
texts too, with hyphens in place of the colons and with any numerals of its bytes.
`MacAddress.Spells` says which they are, and they are exactly the texts that are read
(`address_texts`).
-/

namespace BufferTelemetry

open Text

namespace MacAddress

theorem byte?_padded (b : UInt8) : byte? (Numeral.padded 16 2 b.toNat) = some b := by
  rw [byte?, Numeral.read?_padded 2 b.toNat_lt, Option.map_some, UInt8.ofNat_toNat]

theorem mapM_pairs (bytes : List UInt8) :
    (bytes.map fun b => Numeral.padded 16 2 b.toNat).mapM byte? = some bytes := by
  have hback : (byte? ∘ fun b : UInt8 => Numeral.padded 16 2 b.toNat) = fun b => pure b :=
    funext byte?_padded
  rw [List.mapM_map, hback, List.mapM_pure, List.map_id']
  rfl

theorem length_pairs (m : MacAddress) : m.pairs.length = 6 := by
  rw [pairs, List.length_map, Vector.length_toList]

theorem colon_notMem_pairs (m : MacAddress) : ∀ pair ∈ m.pairs, ':' ∉ pair := by
  intro pair hpair hcolon
  obtain ⟨b, -, rfl⟩ := List.mem_map.1 hpair
  exact absurd (Numeral.mem_hexDigits_of_mem_padded hcolon) (by decide)

/-- The text of an address is cut into the digits of its bytes. -/
theorem splitOn_toString (m : MacAddress) : m.toString.toList.splitOn ':' = m.pairs := by
  rw [toString, String.toList_ofList]
  refine List.splitOn_intercalate ':' m.colon_notMem_pairs ?_
  intro hnil
  have hsix : m.pairs.length = 6 := m.length_pairs
  rw [hnil] at hsix
  cases hsix

theorem colon_mem_toString (m : MacAddress) : ':' ∈ m.toString.toList := by
  by_contra hcolon
  -- a text without colons is one piece, and an address has six
  have hpieces := congrArg List.length (splitOn_toString m)
  rw [List.splitOn_eq_singleton hcolon] at hpieces
  simp [pairs] at hpieces

/-- **Round trip.** The text of a hardware address is read back as the address. -/
theorem ofString?_toString (m : MacAddress) : ofString? m.toString = .ok m := by
  unfold ofString?
  simp only [if_pos (colon_mem_toString m), splitOn_toString, pairs, mapM_pairs]
  rw [dif_pos (by simp)]
  rfl

/-! ### All texts of an address -/

/-- What the bytes of an address are separated by in a text: colons if it has any, else hyphens. -/
def separator (s : String) : Char := if ':' ∈ s.toList then ':' else '-'

/-- Between the separators of the text stand six numerals, which denote the bytes of the address in
their order. A byte is at most 255, and so is what the numeral denotes. -/
def Spells (s : String) (m : MacAddress) : Prop :=
  let parts := s.toList.splitOn (separator s)
  parts.length = 6 ∧
    List.Forall₂ (fun part b => Numeral.DenotesHex part b.toNat) parts m.bytes.toList

theorem byte?_eq_some_iff {part : List Char} {b : UInt8} :
    byte? part = some b ↔ Numeral.DenotesHex part b.toNat := by
  rw [byte?, Option.map_eq_some_iff]
  constructor
  · rintro ⟨n, hn, rfl⟩
    obtain ⟨hpart, hlt⟩ := Numeral.read?_hexadecimal_iff.1 hn
    rwa [UInt8.toNat_ofNat_of_lt' hlt]
  · intro h
    exact ⟨b.toNat, Numeral.read?_hexadecimal_iff.2 ⟨h, b.toNat_lt⟩, UInt8.ofNat_toNat⟩

theorem mapM_byte?_eq_some_iff {parts : List (List Char)} {bytes : List UInt8} :
    parts.mapM byte? = some bytes ↔
      List.Forall₂ (fun part b => Numeral.DenotesHex part b.toNat) parts bytes := by
  induction parts generalizing bytes with
  | nil =>
    rw [List.mapM_nil, List.forall₂_nil_left_iff]
    exact ⟨fun h => (Option.some.inj h).symm, fun h => h ▸ rfl⟩
  | cons part rest ih =>
    rw [List.mapM_cons, List.forall₂_cons_left_iff]
    constructor
    · intro h
      obtain ⟨b, hb, h⟩ := Option.bind_eq_some_iff.1 h
      obtain ⟨more, hmore, h⟩ := Option.bind_eq_some_iff.1 h
      cases h
      exact ⟨b, more, byte?_eq_some_iff.1 hb, ih.1 hmore, rfl⟩
    · rintro ⟨b, more, hb, hmore, rfl⟩
      rw [byte?_eq_some_iff.2 hb, ih.2 hmore]
      rfl

/-- **Texts.** A text is read as an address exactly if it spells it. -/
theorem ofString?_eq_ok_iff {s : String} {m : MacAddress} : ofString? s = .ok m ↔ Spells s m := by
  have hparts : (if ':' ∈ s.toList then ':' else '-') = separator s := rfl
  simp only [ofString?, hparts, Spells]
  constructor
  · intro h
    split at h
    · rename_i bytes hbytes
      split at h
      · rename_i hlength
        cases h
        have hspelled := mapM_byte?_eq_some_iff.1 hbytes
        exact ⟨hspelled.length_eq.trans hlength, by simpa using hspelled⟩
      · cases h
    · cases h
  · rintro ⟨-, hspelled⟩
    have hlength : m.bytes.toList.length = 6 := m.bytes.length_toList
    rw [mapM_byte?_eq_some_iff.2 hspelled]
    simp only [dif_pos hlength]
    rfl

theorem ofString?_cases (s : String) :
    (∃ m, ofString? s = .ok m) ∨ ofString? s = .error (.macAddress s) := by
  unfold ofString?
  dsimp only
  split
  · split
    · exact .inl ⟨_, rfl⟩
    · exact .inr rfl
  · exact .inr rfl

theorem filter_ne_of_notMem {c : Char} {cs : List Char} (h : c ∉ cs) :
    cs.filter (· ≠ c) = cs := by
  rw [List.filter_eq_self]
  intro d hd
  exact decide_eq_true fun heq => h (heq ▸ hd)

/-- Pieces that do not contain the separator are all that is left without it. -/
theorem filter_intercalate {c : Char} :
    ∀ {pieces : List (List Char)}, (∀ piece ∈ pieces, c ∉ piece) →
      ([c].intercalate pieces).filter (· ≠ c) = pieces.flatten
  | [], _ => rfl
  | [piece], h => by
    rw [List.intercalate_singleton, List.flatten_singleton,
      filter_ne_of_notMem (h piece List.mem_cons_self)]
  | piece :: next :: rest, h => by
    have ih := filter_intercalate fun other hother => h other (List.mem_cons_of_mem piece hother)
    have hseparator : [c].filter (· ≠ c) = [] := by simp
    rw [List.intercalate_cons_cons, List.filter_append, List.filter_append, ih, hseparator,
      filter_ne_of_notMem (h piece List.mem_cons_self), List.append_nil, ← List.flatten_cons]

theorem toList_uid_eq_pairs (m : MacAddress) :
    m.uid.toList = "0000".toList ++ m.pairs.flatten := String.toList_ofList

/-- The digits of the identifier that belongs to an address are four zeros and the text of the
address without its colons. -/
theorem toList_uid (m : MacAddress) :
    m.uid.toList = "0000".toList ++ m.toString.toList.filter (· ≠ ':') := by
  have htext : m.toString.toList = [':'].intercalate m.pairs := String.toList_ofList
  rw [toList_uid_eq_pairs, htext, filter_intercalate m.colon_notMem_pairs]

theorem length_uid (m : MacAddress) : m.uid.length = 16 := by
  have hpair : ∀ pair ∈ m.pairs, pair.length = 2 := by
    intro pair hpair
    obtain ⟨b, -, rfl⟩ := List.mem_map.1 hpair
    exact Numeral.length_padded (by decide) b.toNat_lt
  have hpairs : m.pairs.flatten.length = 12 := by
    rw [List.length_flatten, List.map_congr_left hpair, List.map_const', m.length_pairs]
    rfl
  rw [← String.length_toList, toList_uid_eq_pairs, List.length_append, hpairs]
  rfl

theorem mem_hexDigits_of_mem_uid {m : MacAddress} {c : Char} (hc : c ∈ m.uid.toList) :
    c ∈ Numeral.hexDigits := by
  rw [toList_uid_eq_pairs, List.mem_append, List.mem_flatten] at hc
  rcases hc with hzeros | ⟨pair, hpair, hc⟩
  · have hzero : c = '0' := List.eq_of_mem_replicate (n := 4) hzeros
    rw [hzero]
    decide
  · obtain ⟨b, -, rfl⟩ := List.mem_map.1 hpair
    exact Numeral.mem_hexDigits_of_mem_padded hc

/-- **Texts of addresses.** The text of an address is read back as the address, and without its
colons and behind four zeros it is the identifier that belongs to the address, which has sixteen
digits in lower case. A text is read as an address exactly if six numerals of its bytes stand
between its colons or, if it has none, between its hyphens; any other is refused with an error
that shows it. -/
theorem address_texts :
    (∀ m : MacAddress, ofString? m.toString = .ok m ∧
      m.uid.length = 16 ∧ (∀ c ∈ m.uid.toList, c ∈ "0123456789abcdef".toList) ∧
      m.uid.toList = "0000".toList ++ m.toString.toList.filter (· ≠ ':')) ∧
    ∀ s : String,
      (∀ m, ofString? s = .ok m ↔ Spells s m) ∧
      (ofString? s = .error (.macAddress s) ↔ ∀ m, ¬ Spells s m) := by
  constructor
  · intro m
    exact ⟨ofString?_toString m, length_uid m, fun c => mem_hexDigits_of_mem_uid, toList_uid m⟩
  · intro s
    refine ⟨fun m => ofString?_eq_ok_iff, ?_⟩
    constructor
    · intro herror m hspells
      rw [ofString?_eq_ok_iff.2 hspells] at herror
      cases herror
    · intro hnone
      rcases ofString?_cases s with ⟨m, hm⟩ | herror
      · exact absurd (ofString?_eq_ok_iff.1 hm) (hnone m)
      · exact herror

-- a sign, leading zeros and either case are fine, but not a hyphen in a text with colons
example : ofString? "0:+1:fF:00b:7:10" = .ok ⟨#v[0, 1, 255, 11, 7, 16]⟩ ∧
    ofString? "00-01-02-03-04:05" = .error (.macAddress "00-01-02-03-04:05") :=
  ⟨rfl, rfl⟩

end MacAddress

end BufferTelemetry
