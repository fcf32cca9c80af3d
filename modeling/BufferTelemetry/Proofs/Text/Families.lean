import BufferTelemetry.Asic
import BufferTelemetry.Proofs.Text.Hexadecimal
import Mathlib.Data.List.Forall2

/-!
# Texts of sets of silicon families

The name of a set is read in any letter case, and so are its bits behind `0x`. Which the lower-case
form of a text is, Unicode says, and that is not only a matter of ASCII: the Kelvin sign has the
form `k`, the capital I with a dot has a form of two characters, and the form of a capital sigma
depends on where it stands. `LowerCase` says as much about it as a name can tell: a character of
ASCII and the Kelvin sign have a form of one letter, and the form of any other character is not all
ASCII.

Hence a lower-case form that is all ASCII is the only one (`LowerCase.unique`), and the reader, who
folds letters of ASCII and the Kelvin sign only, has a lower-case form in hand (`lowerCase_fold`).
Since all that spells a set is ASCII (`AsicType.Spells.ascii`), a text is read as a set exactly if
its lower-case form spells it, and any set is read back from its text (`AsicType.family_texts`).
-/

namespace BufferTelemetry

namespace Text

/-! ## Lower-case forms -/

/-- The characters can be the lower-case form of the character. -/
def LowerForm (c : Char) (form : List Char) : Prop :=
  if c.toNat < 128 then form = [c.toLower]
  else if c = kelvinSign then form = ['k']
  else ∃ d ∈ form, 128 ≤ d.toNat

/-- The word can be the lower-case form of the text: those of its characters, one after another. -/
def LowerCase (text word : List Char) : Prop :=
  ∃ forms, List.Forall₂ LowerForm text forms ∧ word = forms.flatten

theorem toLower_of_not_ascii {c : Char} (h : ¬ c.toNat < 128) : c.toLower = c := by
  unfold Char.toLower
  refine dif_neg ?_
  rintro ⟨-, hle⟩
  have hz : c.toNat ≤ 90 := UInt32.le_iff_toNat_le.1 hle
  omega

theorem lowerForm_foldChar (c : Char) : LowerForm c [foldChar c] := by
  have hkelvin : ¬ kelvinSign.toNat < 128 := by decide
  unfold LowerForm foldChar
  split
  · rename_i hascii
    have hne : c ≠ kelvinSign := by
      rintro rfl
      exact hkelvin hascii
    rw [if_neg hne]
  · rename_i hother
    split
    · rfl
    · rw [toLower_of_not_ascii hother]
      exact ⟨c, List.mem_singleton_self c, Nat.le_of_not_lt hother⟩

/-- The text as it is folded for comparison has the shape of a lower-case form. -/
theorem lowerCase_fold (s : String) : LowerCase s.toList (fold s) := by
  refine ⟨s.toList.map fun c => [foldChar c], ?_, ?_⟩
  · rw [List.forall₂_map_right_iff]
    exact List.forall₂_same.2 fun c _ => lowerForm_foldChar c
  · rw [fold, List.map_eq_flatMap, List.flatMap_def]

theorem LowerForm.unique {c : Char} {form other : List Char} (hform : LowerForm c form)
    (hother : LowerForm c other) (hascii : ∀ d ∈ form, d.toNat < 128) : form = other := by
  unfold LowerForm at hform hother
  split at hform
  · rename_i hc
    rw [if_pos hc] at hother
    rw [hform, hother]
  · rename_i hc
    rw [if_neg hc] at hother
    split at hform
    · rename_i hkelvin
      rw [if_pos hkelvin] at hother
      rw [hform, hother]
    · obtain ⟨d, hd, hlarge⟩ := hform
      exact absurd (hascii d hd) (Nat.not_lt.2 hlarge)

/-- No text has a lower-case form in ASCII and another one. -/
theorem LowerCase.unique {text word other : List Char} (hword : LowerCase text word)
    (hother : LowerCase text other) (hascii : ∀ d ∈ word, d.toNat < 128) : word = other := by
  obtain ⟨forms, hforms, rfl⟩ := hword
  obtain ⟨others, hothers, rfl⟩ := hother
  induction hforms generalizing others with
  | nil =>
    cases hothers
    rfl
  | cons hform hforms ih =>
    cases hothers with
    | cons hnext hothers =>
      rw [List.flatten_cons] at hascii
      have hrest := ih (fun d hd => hascii d (List.mem_append_right _ hd)) _ hothers
      rw [List.flatten_cons, List.flatten_cons, ← hrest,
        hform.unique hnext fun d hd => hascii d (List.mem_append_left _ hd)]

end Text

namespace AsicType

open Text

/-! ## All texts of a set -/

/-- The word, which is in lower case, stands for the set. -/
inductive Spells : List Char → AsicType → Prop
  | trident2 : Spells "trident2".toList .trident2
  | td2 : Spells "td2".toList .trident2
  | tomahawk : Spells "tomahawk".toList .tomahawk
  | th : Spells "th".toList .tomahawk
  | all : Spells "all".toList .all
  /-- The bits of a set, in hexadecimal, of which the named ones have some too. -/
  | bits {digits : List Char} {n : Nat} : Numeral.DenotesHex digits n → n < UInt32.size →
      Spells ("0x".toList ++ digits) ⟨.ofNat n⟩

/-- All that spells a set is ASCII. -/
theorem Spells.ascii {word : List Char} {t : AsicType} (h : Spells word t) :
    ∀ c ∈ word, c.toNat < 128 := by
  cases h with
  | bits hdigits _ =>
    have hstart : ∀ c ∈ "0x".toList, c.toNat < 128 := by simp
    intro c hc
    rcases List.mem_append.1 hc with hc | hc
    · exact hstart c hc
    · exact hdigits.ascii c hc
  | _ => simp

theorem ofString?_eq_ok_iff {s : String} {t : AsicType} :
    ofString? s = .ok t ↔ Spells (fold s) t := by
  unfold ofString?
  dsimp only
  generalize fold s = word
  constructor
  · intro h
    split at h
    · rename_i hname
      cases h
      rcases hname with rfl | rfl
      · exact .td2
      · exact .trident2
    · split at h
      · rename_i hname
        cases h
        rcases hname with rfl | rfl
        · exact .th
        · exact .tomahawk
      · split at h
        · rename_i hname
          cases h
          rw [hname]
          exact .all
        · split at h
          · rename_i n hn
            cases h
            obtain ⟨digits, hdigits, hread⟩ := Option.bind_eq_some_iff.1 hn
            obtain ⟨hdenotes, hlt⟩ := Numeral.read?_hexadecimal_iff.1 hread
            rw [after?_eq_some_iff.1 hdigits]
            exact .bits hdenotes hlt
          · cases h
  · intro h
    cases h with
    | bits hdigits hlt =>
      rename_i digits n
      rw [if_neg (by simp), if_neg (by simp), if_neg (by simp), after?_append, Option.bind_some,
        Numeral.read?_hexadecimal_iff.2 ⟨hdigits, hlt⟩]
    | _ => rfl

theorem ofString?_cases (s : String) :
    (∃ t, ofString? s = .ok t) ∨ ofString? s = .error (.asicType s) := by
  unfold ofString?
  dsimp only
  split
  · exact .inl ⟨_, rfl⟩
  · split
    · exact .inl ⟨_, rfl⟩
    · split
      · exact .inl ⟨_, rfl⟩
      · split
        · exact .inl ⟨_, rfl⟩
        · exact .inr rfl

/-! ## The written text -/

/-- The text of a set without a name does not change when letter case is folded. -/
theorem fold_hexadecimal (width n : Nat) :
    fold ("0x" ++ String.ofList (Numeral.padded 16 width n)) =
      "0x".toList ++ Numeral.padded 16 width n := by
  have hdigits : (Numeral.padded 16 width n).map foldChar = Numeral.padded 16 width n := by
    rw [List.map_congr_left fun c hc =>
      Numeral.foldChar_of_mem_hexDigits (Numeral.mem_hexDigits_of_mem_padded hc), List.map_id']
  have hlist : ("0x" ++ String.ofList (Numeral.padded 16 width n)).toList =
      "0x".toList ++ Numeral.padded 16 width n := by
    rw [String.toList_append, String.toList_ofList (l := Numeral.padded 16 width n)]
  rw [fold, hlist, List.map_append, hdigits]
  rfl

/-- The text of a set spells it, as its name or as its bits. -/
theorem spells_toString (t : AsicType) : Spells (fold t.toString) t := by
  unfold toString
  split
  · rename_i htrident
    rw [htrident]
    exact .td2
  · split
    · rename_i htomahawk
      rw [htomahawk]
      exact .th
    · split
      · rename_i hall
        rw [hall]
        exact .all
      · obtain ⟨hdigits, hlt⟩ :=
          Numeral.read?_hexadecimal_iff.1 (Numeral.read?_padded 4 t.bits.toNat_lt)
        have hbits : Spells _ ⟨.ofNat t.bits.toNat⟩ := .bits hdigits hlt
        rw [fold_hexadecimal]
        rwa [UInt32.ofNat_toNat] at hbits

/-- **Round trip.** The text of a set of silicon families is read back as the set. -/
theorem ofString?_toString (t : AsicType) : ofString? t.toString = .ok t :=
  ofString?_eq_ok_iff.2 t.spells_toString

theorem toString_injective : Function.Injective toString := by
  intro t u h
  have hread := congrArg ofString? h
  rw [ofString?_toString, ofString?_toString] at hread
  exact Except.ok.inj hread

/-- **Silicon families.** Every set is read back from its text, so different sets have different
texts. A text is read as a set exactly if its lower-case form is a name of the set, or `0x` and a
hexadecimal numeral of its bits, which are thirty-two; any other is refused with an error that
shows it as it was. -/
theorem family_texts :
    (∀ t : AsicType, ofString? t.toString = .ok t) ∧
    Function.Injective toString ∧
    ∀ (s : String) (word : List Char), LowerCase s.toList word →
      (∀ t, ofString? s = .ok t ↔ Spells word t) ∧
      (ofString? s = .error (.asicType s) ↔ ∀ t, ¬ Spells word t) := by
  refine ⟨ofString?_toString, toString_injective, ?_⟩
  intro s word hword
  have hread : ∀ t, ofString? s = .ok t ↔ Spells word t := by
    intro t
    rw [ofString?_eq_ok_iff]
    -- whichever of the two forms spells the set is ASCII, and so the other one is the same
    constructor
    · intro h
      rwa [← (lowerCase_fold s).unique hword h.ascii]
    · intro h
      rwa [← hword.unique (lowerCase_fold s) h.ascii]
  refine ⟨hread, ?_⟩
  constructor
  · intro herror t hspells
    rw [(hread t).2 hspells] at herror
    cases herror
  · intro hnone
    rcases ofString?_cases s with ⟨t, ht⟩ | herror
    · exact absurd ((hread t).1 ht) (hnone t)
    · exact herror

/-- The Kelvin sign is no letter of ASCII, but its lower-case form is. -/
theorem family_texts_kelvin :
    LowerCase "TomahaW\u212A".toList "tomahawk".toList ∧
      ofString? "TomahaW\u212A" = .ok tomahawk := by
  have hword : LowerCase "TomahaW\u212A".toList "tomahawk".toList :=
    lowerCase_fold "TomahaW\u212A"
  exact ⟨hword, ((family_texts.2.2 _ _ hword).1 tomahawk).2 .tomahawk⟩

-- a set with a name is also read from its bits, but not written as them
example : ofString? "0X+0002" = .ok tomahawk ∧ toString ⟨0x2⟩ = "th" ∧
    toString ⟨0xABCDE⟩ = "0xabcde" ∧
    ofString? "0x100000000" = .error (.asicType "0x100000000") :=
  ⟨rfl, rfl, rfl, rfl⟩

end AsicType

end BufferTelemetry
