import BufferTelemetry.Text.Numeral

/-!
# Reading what was written in decimal

The decimal text of a number is read back as the number, and holds nothing but
digits, so no separator can be mistaken for a part of it. It is not the only text of
the number: a sign and leading zeros may stand before it (`decimal?_eq_some_iff`).
-/

namespace BufferTelemetry.Text.Numeral

theorem digit?_of_isDigit {c : Char} (hc : c.isDigit = true) :
    digit? 10 c = some (c.toNat - '0'.toNat) := by
  have hle : c.toNat ≤ 57 := by
    simp only [Char.isDigit, Bool.and_eq_true, decide_eq_true_eq] at hc
    exact UInt32.le_iff_toNat_le.1 hc.2
  have hlt : c.toNat - '0'.toNat < 10 := by
    show c.toNat - 48 < 10
    omega
  simp only [digit?, hc, if_true]
  exact if_pos hlt

theorem foldlM_digits {ds : List Char} (hds : ∀ c ∈ ds, c.isDigit = true) (n : Nat) :
    ds.foldlM (fun n c => (digit? 10 c).map (n * 10 + ·)) n = some (Nat.ofDigitChars 10 ds n) := by
  induction ds generalizing n with
  | nil => rfl
  | cons d ds ih =>
    rw [List.foldlM_cons, digit?_of_isDigit (hds d List.mem_cons_self), Nat.ofDigitChars_cons,
      Nat.mul_comm 10 n]
    exact ih (fun c hc => hds c (List.mem_cons_of_mem d hc)) _

theorem isDigit_of_mem_toDigits {n : Nat} {c : Char} (hc : c ∈ Nat.toDigits 10 n) :
    c.isDigit = true :=
  Nat.isDigit_of_mem_toDigits (by decide) (by decide) hc

/-- Where there is no sign, a numeral is its digits. -/
theorem read?_eq {base limit : Nat} {ds : List Char} (hne : ds ≠ []) (hsign : '+' ∉ ds) :
    read? base limit ds = (digits? base ds).filter (· < limit) := by
  have hunsigned : unsigned ds = ds := by
    unfold unsigned
    split
    · exact absurd List.mem_cons_self hsign
    · rfl
  unfold read?
  rw [hunsigned]
  cases ds with
  | nil => exact absurd rfl hne
  | cons d ds => rfl

/-- The digits of a number below the limit are read back as the number. -/
theorem read?_toDigits {n limit : Nat} (hn : n < limit) :
    read? 10 limit (Nat.toDigits 10 n) = some n := by
  have hsign : '+' ∉ Nat.toDigits 10 n := by
    intro hmem
    exact absurd (isDigit_of_mem_toDigits hmem) (by decide)
  have hvalue : digits? 10 (Nat.toDigits 10 n) = some n := by
    rw [digits?, foldlM_digits (fun c hc => isDigit_of_mem_toDigits hc),
      Nat.ofDigitChars_ten_toDigits]
  rw [read?_eq Nat.toDigits_ne_nil hsign, hvalue]
  exact if_pos (by simpa using hn)

theorem toList_toString (n : UInt32) : (toString n).toList = Nat.toDigits 10 n.toNat :=
  Nat.toList_repr

/-- **Round trip.** The decimal text of a number of thirty-two bits is read back as the
number. -/
theorem decimal?_toString (n : UInt32) : decimal? UInt32.size (toString n) = some n.toNat := by
  rw [decimal?, toList_toString]
  exact read?_toDigits n.toNat_lt

/-! ## All texts of a number -/

/-- A sign is no digit of any base. -/
theorem digit?_plus (base : Nat) : digit? base '+' = none := by
  show (if base < base then some base else none) = none
  exact if_neg (Nat.lt_irrefl base)

/-- A numeral is digits, of which there is at least one, behind a plus sign or nothing. -/
theorem read?_eq_some_iff {base limit n : Nat} {text : List Char} :
    read? base limit text = some n ↔ ∃ ds, (text = ds ∨ text = '+' :: ds) ∧ ds ≠ [] ∧
      digits? base ds = some n ∧ n < limit := by
  have hread : ∀ ds, ds ≠ [] → unsigned text = ds →
      read? base limit text = (digits? base ds).filter (· < limit) := by
    intro ds hne hds
    rw [read?, hds]
    cases ds with
    | nil => exact absurd rfl hne
    | cons d ds => rfl
  constructor
  · intro h
    have hne : unsigned text ≠ [] := by
      intro hnil
      rw [read?, hnil] at h
      cases h
    rw [hread _ hne rfl, Option.filter_eq_some_iff] at h
    refine ⟨unsigned text, ?_, hne, h.1, of_decide_eq_true h.2⟩
    unfold unsigned
    split
    · exact .inr rfl
    · exact .inl rfl
  · rintro ⟨ds, htext, hne, hdigits, hlt⟩
    have hunsigned : unsigned text = ds := by
      rcases htext with rfl | rfl
      · unfold unsigned
        split
        · rw [digits?, List.foldlM_cons, digit?_plus] at hdigits
          cases hdigits
        · rfl
      · rfl
    rw [hread ds hne hunsigned, hdigits, Option.filter_eq_some_iff]
    exact ⟨rfl, decide_eq_true hlt⟩

/-- The text is a numeral of the number: digits, of which there is at least one and the first
ones may be zeros, behind a plus sign or nothing. -/
def Denotes (text : String) (n : Nat) : Prop :=
  ∃ ds, (text.toList = ds ∨ text.toList = '+' :: ds) ∧ ds ≠ [] ∧
    (∀ c ∈ ds, c.isDigit = true) ∧ Nat.ofDigitChars 10 ds 0 = n

theorem isDigit_of_digit? {c : Char} {n : Nat} (h : digit? 10 c = some n) : c.isDigit = true := by
  cases hc : c.isDigit with
  | true => rfl
  | false =>
    -- a letter is at least ten, and what is neither a digit nor a letter has no value
    have hlarge : ¬ (if 'a' ≤ c ∧ c ≤ 'f' then c.toNat - 'a'.toNat + 10
        else if 'A' ≤ c ∧ c ≤ 'F' then c.toNat - 'A'.toNat + 10 else 10) < 10 := by
      split
      · omega
      · split <;> omega
    simp only [digit?, hc, Bool.false_eq_true, if_false, if_neg hlarge] at h
    cases h

theorem isDigit_of_foldlM {ds : List Char} {n v : Nat}
    (h : ds.foldlM (fun n c => (digit? 10 c).map (n * 10 + ·)) n = some v) :
    ∀ c ∈ ds, c.isDigit = true := by
  induction ds generalizing n with
  | nil => exact fun c hc => absurd hc List.not_mem_nil
  | cons d ds ih =>
    rw [List.foldlM_cons] at h
    obtain ⟨n', hd, hrest⟩ := Option.bind_eq_some_iff.1 h
    obtain ⟨_, hd, -⟩ := Option.map_eq_some_iff.1 hd
    exact List.forall_mem_cons.2 ⟨isDigit_of_digit? hd, ih hrest⟩

theorem digits?_eq_some_iff {ds : List Char} {n : Nat} :
    digits? 10 ds = some n ↔ (∀ c ∈ ds, c.isDigit = true) ∧ Nat.ofDigitChars 10 ds 0 = n := by
  constructor
  · intro h
    have hds := isDigit_of_foldlM h
    rw [digits?, foldlM_digits hds] at h
    exact ⟨hds, Option.some.inj h⟩
  · rintro ⟨hds, rfl⟩
    exact foldlM_digits hds 0

/-- **Texts.** A text is read as a number below the limit exactly if it is a numeral of it. -/
theorem decimal?_eq_some_iff {limit n : Nat} {text : String} :
    decimal? limit text = some n ↔ Denotes text n ∧ n < limit := by
  rw [decimal?, read?_eq_some_iff]
  constructor
  · rintro ⟨ds, htext, hne, hdigits, hlt⟩
    obtain ⟨hds, hvalue⟩ := digits?_eq_some_iff.1 hdigits
    exact ⟨⟨ds, htext, hne, hds, hvalue⟩, hlt⟩
  · rintro ⟨⟨ds, htext, hne, hds, hvalue⟩, hlt⟩
    exact ⟨ds, htext, hne, digits?_eq_some_iff.2 ⟨hds, hvalue⟩, hlt⟩

end BufferTelemetry.Text.Numeral
