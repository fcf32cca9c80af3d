import BufferTelemetry.Proofs.Text.Decimal
import BufferTelemetry.Text.LetterCase
import Mathlib.Data.List.Basic
import Mathlib.Data.Nat.Digits.Defs

/-!
# Reading what was written in hexadecimal

A number is written with the sixteen digits in lower case, with zeros in front up to a width,
and is read back from them whatever the width (`read?_padded`). None of the digits is a sign or a
separator, and none changes when letter case is folded. The written form is not the only text of
the number: its digits may be of either letter case, and a sign and more zeros may stand before
them (`read?_hexadecimal_iff`).
-/

namespace BufferTelemetry.Text.Numeral

/-- The digits that numbers are written with. -/
def hexDigits : List Char := (List.range 16).map Nat.digitChar

theorem mem_hexDigits {d : Nat} (hd : d < 16) : d.digitChar ∈ hexDigits :=
  List.mem_map_of_mem (List.mem_range.2 hd)

theorem digit?_digitChar {d : Nat} (hd : d < 16) : digit? 16 d.digitChar = some d := by
  have hall : ∀ d < 16, digit? 16 (Nat.digitChar d) = some d := by decide
  exact hall d hd

theorem digits?_append_singleton {ds : List Char} {n d : Nat} (hds : digits? 16 ds = some n)
    (hd : d < 16) : digits? 16 (ds ++ [d.digitChar]) = some (n * 16 + d) := by
  rw [digits?, List.foldlM_append]
  show (digits? 16 ds).bind _ = _
  rw [hds]
  simp [digit?_digitChar hd]

theorem digits?_toDigits (n : Nat) : digits? 16 (Nat.toDigits 16 n) = some n := by
  induction n using Nat.strongRecOn with
  | ind n ih =>
    rcases Nat.lt_or_ge n 16 with hlt | hge
    · rw [Nat.toDigits_of_lt_base hlt, ← List.nil_append [n.digitChar],
        digits?_append_singleton rfl hlt, Nat.zero_mul, Nat.zero_add]
    · rw [Nat.toDigits_of_base_le (by decide) hge,
        digits?_append_singleton (ih (n / 16) (by omega)) (Nat.mod_lt n (by decide)),
        Nat.div_add_mod']

theorem mem_hexDigits_of_mem_toDigits {n : Nat} {c : Char} (hc : c ∈ Nat.toDigits 16 n) :
    c ∈ hexDigits := by
  induction n using Nat.strongRecOn with
  | ind n ih =>
    rcases Nat.lt_or_ge n 16 with hlt | hge
    · rw [Nat.toDigits_of_lt_base hlt, List.mem_singleton] at hc
      exact hc ▸ mem_hexDigits hlt
    · rw [Nat.toDigits_of_base_le (by decide) hge, List.mem_append, List.mem_singleton] at hc
      rcases hc with hc | rfl
      · exact ih (n / 16) (by omega) hc
      · exact mem_hexDigits (Nat.mod_lt n (by decide))

theorem mem_hexDigits_of_mem_padded {width n : Nat} {c : Char} (hc : c ∈ padded 16 width n) :
    c ∈ hexDigits := by
  rw [padded, List.leftpad, List.mem_append] at hc
  rcases hc with hc | hc
  · exact List.eq_of_mem_replicate hc ▸ by decide
  · exact mem_hexDigits_of_mem_toDigits hc

/-- Zeros in front do not change what is read. -/
theorem digits?_replicate_append (k : Nat) (ds : List Char) :
    digits? 16 (List.replicate k '0' ++ ds) = digits? 16 ds := by
  induction k with
  | zero => rfl
  | succ k ih => exact ih

/-- **Round trip.** A number below the limit is read back, whatever the width it is written
with. -/
theorem read?_padded {limit n : Nat} (width : Nat) (hn : n < limit) :
    read? 16 limit (padded 16 width n) = some n := by
  have hne : padded 16 width n ≠ [] := by
    rw [padded, List.leftpad]
    exact List.append_ne_nil_of_right_ne_nil _ Nat.toDigits_ne_nil
  have hsign : '+' ∉ padded 16 width n := by
    intro hmem
    exact absurd (mem_hexDigits_of_mem_padded hmem) (by decide)
  rw [read?_eq hne hsign, padded, List.leftpad, digits?_replicate_append, digits?_toDigits]
  exact if_pos (by simpa using hn)

theorem foldChar_of_mem_hexDigits {c : Char} (hc : c ∈ hexDigits) : foldChar c = c := by
  have hall : ∀ d < 16, foldChar (Nat.digitChar d) = Nat.digitChar d := by decide
  obtain ⟨d, hd, rfl⟩ := List.mem_map.1 hc
  exact hall d (List.mem_range.1 hd)

theorem length_padded {width n : Nat} (hwidth : 0 < width) (hn : n < 16 ^ width) :
    (padded 16 width n).length = width := by
  rw [padded, List.length_leftpad]
  exact Nat.max_eq_left (Nat.toDigits_length 16 n width hwidth hn)

/-! ## All texts of a number -/

/-- The character is the digit of the value, in lower case or in upper case. -/
def HexDigit (c : Char) (d : Nat) : Prop :=
  d < 16 ∧ (c = d.digitChar ∨ c = d.digitChar.toUpper)

/-- The text is a hexadecimal numeral of the number: digits in either letter case, of which there
is at least one and the first ones may be zeros, behind a plus sign or nothing. -/
def DenotesHex (text : List Char) (n : Nat) : Prop :=
  ∃ ds values, (text = ds ∨ text = '+' :: ds) ∧ ds ≠ [] ∧ List.Forall₂ HexDigit ds values ∧
    Nat.ofDigits 16 values.reverse = n

/-- Only characters of ASCII are digits. -/
theorem toNat_lt_of_digit? {c : Char} {d : Nat} (h : digit? 16 c = some d) : c.toNat < 128 := by
  unfold digit? at h
  dsimp only at h
  by_cases hdigit : c.isDigit = true
  · simp only [Char.isDigit, Bool.and_eq_true, decide_eq_true_eq] at hdigit
    have : c.toNat ≤ 57 := UInt32.le_iff_toNat_le.1 hdigit.2
    omega
  · by_cases hlower : 'a' ≤ c ∧ c ≤ 'f'
    · have : c.toNat ≤ 102 := UInt32.le_iff_toNat_le.1 hlower.2
      omega
    · by_cases hupper : 'A' ≤ c ∧ c ≤ 'F'
      · have : c.toNat ≤ 70 := UInt32.le_iff_toNat_le.1 hupper.2
        omega
      · rw [if_neg hdigit, if_neg hlower, if_neg hupper, if_neg (Nat.lt_irrefl 16)] at h
        cases h

theorem digit?_hexadecimal_iff {c : Char} {d : Nat} : digit? 16 c = some d ↔ HexDigit c d := by
  constructor
  · intro h
    have hall : ∀ n < 128, ∀ d ∈ digit? 16 (Char.ofNat n), d < 16 ∧
        (Char.ofNat n = d.digitChar ∨ Char.ofNat n = d.digitChar.toUpper) := by
      decide +kernel
    have hchar := hall c.toNat (toNat_lt_of_digit? h) d
    rw [Char.ofNat_toNat] at hchar
    exact hchar h
  · rintro ⟨hd, rfl | rfl⟩
    · exact digit?_digitChar hd
    · have hall : ∀ d < 16, digit? 16 (Nat.digitChar d).toUpper = some d := by decide
      exact hall d hd

/-- Digits are read one by one behind the number that stands before them. -/
theorem foldlM_hexadecimal_iff {ds : List Char} {before n : Nat} :
    ds.foldlM (fun n c => (digit? 16 c).map (n * 16 + ·)) before = some n ↔
      ∃ values, List.Forall₂ HexDigit ds values ∧
        values.foldl (fun n d => n * 16 + d) before = n := by
  induction ds generalizing before with
  | nil =>
    rw [List.foldlM_nil]
    constructor
    · rintro ⟨⟩
      exact ⟨[], .nil, rfl⟩
    · rintro ⟨values, hvalues, rfl⟩
      cases hvalues
      rfl
  | cons c rest ih =>
    rw [List.foldlM_cons]
    constructor
    · intro h
      obtain ⟨next, hnext, hrest⟩ := Option.bind_eq_some_iff.1 h
      obtain ⟨d, hd, rfl⟩ := Option.map_eq_some_iff.1 hnext
      obtain ⟨values, hvalues, hn⟩ := ih.1 hrest
      exact ⟨d :: values, .cons (digit?_hexadecimal_iff.1 hd) hvalues, hn⟩
    · rintro ⟨_, hvalues, hn⟩
      cases hvalues with
      | cons hd hvalues =>
        rw [digit?_hexadecimal_iff.2 hd]
        exact ih.2 ⟨_, hvalues, hn⟩

/-- The first digit is the most significant one. -/
theorem ofDigits_reverse (values : List Nat) :
    Nat.ofDigits 16 values.reverse = values.foldl (fun n d => n * 16 + d) 0 := by
  rw [Nat.ofDigits_eq_foldr, List.foldr_reverse]
  congr 1
  funext n d
  rw [Nat.cast_id, Nat.add_comm, Nat.mul_comm]

/-- **Texts.** A text is read as a number below the limit exactly if it is a hexadecimal numeral
of it. -/
theorem read?_hexadecimal_iff {limit n : Nat} {text : List Char} :
    read? 16 limit text = some n ↔ DenotesHex text n ∧ n < limit := by
  rw [read?_eq_some_iff]
  constructor
  · rintro ⟨ds, htext, hne, hdigits, hlt⟩
    obtain ⟨values, hvalues, hn⟩ := foldlM_hexadecimal_iff.1 hdigits
    exact ⟨⟨ds, values, htext, hne, hvalues, (ofDigits_reverse values).trans hn⟩, hlt⟩
  · rintro ⟨⟨ds, values, htext, hne, hvalues, hn⟩, hlt⟩
    have hdigits : digits? 16 ds = some n :=
      foldlM_hexadecimal_iff.2 ⟨values, hvalues, (ofDigits_reverse values).symm.trans hn⟩
    exact ⟨ds, htext, hne, hdigits, hlt⟩

theorem toNat_lt_of_hexDigits {ds : List Char} {values : List Nat}
    (h : List.Forall₂ HexDigit ds values) : ∀ c ∈ ds, c.toNat < 128 := by
  induction h with
  | nil => exact fun c hc => absurd hc List.not_mem_nil
  | cons hd _ ih =>
    rw [List.forall_mem_cons]
    exact ⟨toNat_lt_of_digit? (digit?_hexadecimal_iff.2 hd), ih⟩

/-- A hexadecimal numeral is ASCII. -/
theorem DenotesHex.ascii {text : List Char} {n : Nat} (h : DenotesHex text n) :
    ∀ c ∈ text, c.toNat < 128 := by
  obtain ⟨ds, values, htext, -, hvalues, -⟩ := h
  have hds : ∀ c ∈ ds, c.toNat < 128 := toNat_lt_of_hexDigits hvalues
  rcases htext with rfl | rfl
  · exact hds
  · rw [List.forall_mem_cons]
    exact ⟨by decide, hds⟩

end BufferTelemetry.Text.Numeral
