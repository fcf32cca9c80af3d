import BufferTelemetry.Proofs.Text.Hexadecimal
import BufferTelemetry.Text.Uuid

/-!
# Identifiers as keys of rows

A key of thirty-six bytes that is read as an identifier is one in groups: of the four forms in
which an identifier can be written, only that one has this size (`ofGroups?_eq_some_iff`). The
identifier is written as the key with its letters in lower case (`toList_toString`).
-/

namespace BufferTelemetry.Uuid

open Text

/-! ## Digits -/

theorem digit?_of_hexDigit? {c : Char} {d : Fin 16} (h : hexDigit? c = some d) :
    Numeral.digit? 16 c = some d.val := by
  obtain ⟨n, hn, h⟩ := Option.bind_eq_some_iff.1 h
  split at h
  · cases h
    exact hn
  · cases h

theorem toNat_lt_of_hexDigit? {c : Char} {d : Fin 16} (h : hexDigit? c = some d) :
    c.toNat < 128 :=
  Numeral.toNat_lt_of_digit? (digit?_of_hexDigit? h)

/-- A digit is written in lower case. -/
theorem digitChar_of_hexDigit? {c : Char} {d : Fin 16} (h : hexDigit? c = some d) :
    Nat.digitChar d.val = c.toLower := by
  obtain ⟨hd, rfl | rfl⟩ := Numeral.digit?_hexadecimal_iff.1 (digit?_of_hexDigit? h)
  · have hall : ∀ d < 16, Nat.digitChar d = (Nat.digitChar d).toLower := by decide
    exact hall d hd
  · have hall : ∀ d < 16, Nat.digitChar d = (Nat.digitChar d).toUpper.toLower := by decide
    exact hall d hd

theorem of_mapM_hexDigit? {cs : List Char} {ds : List (Fin 16)} (h : cs.mapM hexDigit? = some ds) :
    ds.map (fun d => Nat.digitChar d.val) = cs.map Char.toLower ∧
      ∀ c ∈ cs, ∃ d, hexDigit? c = some d := by
  induction cs generalizing ds with
  | nil =>
    cases h
    exact ⟨rfl, nofun⟩
  | cons c rest ih =>
    rw [List.mapM_cons] at h
    obtain ⟨d, hd, h⟩ := Option.bind_eq_some_iff.1 h
    obtain ⟨more, hmore, h⟩ := Option.bind_eq_some_iff.1 h
    cases h
    obtain ⟨hmap, hdigits⟩ := ih hmore
    rw [List.map_cons, List.map_cons, hmap, digitChar_of_hexDigit? hd, List.forall_mem_cons]
    exact ⟨rfl, ⟨d, hd⟩, hdigits⟩

theorem of_ofBare? {cs : List Char} {u : Uuid} (h : ofBare? cs = some u) :
    (u.digits.toList.map fun d => Nat.digitChar d.val) = cs.map Char.toLower ∧ cs.length = 32 ∧
      ∀ c ∈ cs, ∃ d, hexDigit? c = some d := by
  obtain ⟨ds, hds, h⟩ := Option.bind_eq_some_iff.1 h
  obtain ⟨hmap, hdigits⟩ := of_mapM_hexDigit? hds
  split at h
  · rename_i hlength
    cases h
    have hcs : cs.length = 32 := by
      rw [← List.length_map Char.toLower, ← hmap, List.length_map, hlength]
    exact ⟨hmap, hcs, hdigits⟩
  · cases h

/-! ## Sizes -/

theorem utf8ByteSize_cons (c : Char) (cs : List Char) :
    (String.ofList (c :: cs)).utf8ByteSize = c.utf8Size + (String.ofList cs).utf8ByteSize := by
  rw [String.ofList_cons, String.utf8ByteSize_append, String.utf8ByteSize_singleton]

theorem utf8ByteSize_append (cs ds : List Char) :
    (String.ofList (cs ++ ds)).utf8ByteSize =
      (String.ofList cs).utf8ByteSize + (String.ofList ds).utf8ByteSize := by
  rw [String.ofList_append, String.utf8ByteSize_append]

theorem length_le_utf8ByteSize (cs : List Char) :
    cs.length ≤ (String.ofList cs).utf8ByteSize := by
  induction cs with
  | nil => exact Nat.le_refl 0
  | cons c rest ih =>
    have := c.utf8Size_pos
    rw [List.length_cons, utf8ByteSize_cons]
    omega

theorem utf8ByteSize_of_ascii {cs : List Char} (h : ∀ c ∈ cs, c.toNat < 128) :
    (String.ofList cs).utf8ByteSize = cs.length := by
  induction cs with
  | nil => rfl
  | cons c rest ih =>
    obtain ⟨hc, hrest⟩ := List.forall_mem_cons.1 h
    have hle : c.val ≤ 0x7F := by
      rw [UInt32.le_iff_toNat_le]
      exact Nat.le_of_lt_succ hc
    have hsize : c.utf8Size = 1 := by
      unfold Char.utf8Size
      exact if_pos hle
    rw [utf8ByteSize_cons, List.length_cons, ih hrest, hsize, Nat.add_comm]

/-- Thirty-two digits are as many bytes. -/
theorem size_of_ofBare? {cs : List Char} {u : Uuid} (h : ofBare? cs = some u) :
    (String.ofList cs).utf8ByteSize = 32 := by
  obtain ⟨-, hlength, hdigits⟩ := of_ofBare? h
  rw [utf8ByteSize_of_ascii fun c hc => (hdigits c hc).elim fun _ => toNat_lt_of_hexDigit?, hlength]

/-! ## Groups -/

theorem groupsOf_flatten (groups : List (List Char)) :
    groupsOf (groups.map List.length) groups.flatten = groups := by
  induction groups with
  | nil => rfl
  | cons group rest ih =>
    rw [List.map_cons, List.flatten_cons, groupsOf, List.take_left, List.drop_left, ih]

/-- What is read in groups is cut at its hyphens. -/
theorem of_ofGroups? {cs : List Char} {u : Uuid} (h : ofGroups? cs = some u) :
    ∃ groups, cs = ['-'].intercalate groups ∧ groups.map List.length = groupSizes ∧
      ofBare? groups.flatten = some u := by
  unfold ofGroups? at h
  dsimp only at h
  split at h
  · rename_i hsizes
    exact ⟨cs.splitOn '-', (List.intercalate_splitOn '-').symm, hsizes, h⟩
  · cases h

theorem map_intercalate {f : Char → Char} (c : Char) :
    ∀ groups : List (List Char),
      ([c].intercalate groups).map f = [f c].intercalate (groups.map (List.map f))
  | [] => rfl
  | [group] => by simp only [List.map_cons, List.map_nil, List.intercalate_singleton]
  | group :: next :: rest => by
    have ih := map_intercalate (f := f) c (next :: rest)
    rw [List.map_cons] at ih
    simp only [List.intercalate_cons_cons, List.map_append, List.map_cons, List.map_nil, ih]

/-- **The written form** of an identifier is the text from which it was read in groups, in lower
case. -/
theorem toList_toString {cs : List Char} {u : Uuid} (h : ofGroups? cs = some u) :
    u.toString.toList = cs.map Char.toLower := by
  obtain ⟨groups, rfl, hsizes, hbare⟩ := of_ofGroups? h
  obtain ⟨hdigits, -, -⟩ := of_ofBare? hbare
  have hgroups : groupsOf groupSizes (groups.flatten.map Char.toLower) =
      groups.map (List.map Char.toLower) := by
    have hlengths : (groups.map (List.map Char.toLower)).map List.length = groupSizes := by
      rw [← hsizes, List.map_map]
      congr 1
      funext group
      exact List.length_map _
    rw [List.map_flatten, ← hlengths, groupsOf_flatten]
  unfold toString
  rw [String.toList_ofList, hdigits, hgroups, map_intercalate]
  rfl

theorem utf8ByteSize_intercalate : ∀ groups : List (List Char),
    (String.ofList (['-'].intercalate groups)).utf8ByteSize =
      (String.ofList groups.flatten).utf8ByteSize + (groups.length - 1)
  | [] => rfl
  | [group] => by
    rw [List.intercalate_singleton, List.flatten_singleton]
    rfl
  | group :: next :: rest => by
    have ih := utf8ByteSize_intercalate (next :: rest)
    have hhyphen : (String.ofList ['-']).utf8ByteSize = 1 := rfl
    rw [List.intercalate_cons_cons, List.flatten_cons, utf8ByteSize_append, utf8ByteSize_append,
      utf8ByteSize_append, ih, hhyphen]
    simp only [List.length_cons, Nat.add_sub_cancel]
    omega

/-- What is read in groups has thirty-six bytes, and a hyphen is among them. -/
theorem size_of_ofGroups? {cs : List Char} {u : Uuid} (h : ofGroups? cs = some u) :
    (String.ofList cs).utf8ByteSize = 36 ∧ '-' ∈ cs := by
  obtain ⟨groups, rfl, hsizes, hbare⟩ := of_ofGroups? h
  have hfive : groups.length = 5 := by
    rw [← List.length_map List.length, hsizes]
    rfl
  constructor
  · rw [utf8ByteSize_intercalate, size_of_ofBare? hbare, hfive]
  · match groups, hfive with
    | group :: next :: rest, _ =>
      rw [List.intercalate_cons_cons, List.mem_append, List.mem_append]
      exact .inl (.inr List.mem_cons_self)

/-! ## Keys -/

theorem size_of_inBraces? {cs inner : List Char} (h : inBraces? cs = some inner) :
    (String.ofList cs).utf8ByteSize = (String.ofList inner).utf8ByteSize + 2 := by
  unfold inBraces? at h
  split at h
  · rename_i rest
    split at h
    · rename_i hlast
      cases h
      obtain ⟨inner, rfl⟩ := List.getLast?_eq_some_iff.1 hlast
      have hleft : Char.utf8Size '\x7b' = 1 := rfl
      have hright : (String.ofList ['\x7d']).utf8ByteSize = 1 := rfl
      rw [List.dropLast_concat, utf8ByteSize_cons, utf8ByteSize_append, hleft, hright]
      omega
    · cases h
  · cases h

theorem size_of_ofName? {cs : List Char} {u : Uuid} (h : ofName? cs = some u) :
    36 < (String.ofList cs).utf8ByteSize := by
  unfold ofName? at h
  dsimp only at h
  split at h
  · rename_i hspace
    obtain ⟨hsize, -⟩ := size_of_ofGroups? h
    have hlength : (cs.take "urn:uuid:".toList.length).length = 9 := by
      rw [← List.length_map Char.toLower, hspace]
      rfl
    have hle := length_le_utf8ByteSize (cs.take "urn:uuid:".toList.length)
    rw [← List.take_append_drop "urn:uuid:".toList.length cs, utf8ByteSize_append]
    omega
  · cases h

/-- **Keys.** An identifier in groups is one that is read from thirty-six bytes. -/
theorem ofGroups?_eq_some_iff {key : String} {u : Uuid} :
    ofGroups? key.toList = some u ↔ key.utf8ByteSize = 36 ∧ ofString? key = some u := by
  -- the forms are tried in turn
  have hforms : ofString? key = some u ↔
      ofBare? key.toList = some u ∨ ofBare? key.toList = none ∧
        (ofGroups? key.toList = some u ∨ ofGroups? key.toList = none ∧
          ((inBraces? key.toList).bind ofGroups? = some u ∨
            (inBraces? key.toList).bind ofGroups? = none ∧ ofName? key.toList = some u)) := by
    simp only [ofString?, Option.orElse_eq_orElse, Option.orElse_eq_or, Option.or_eq_some_iff]
  have hkey : key.utf8ByteSize = (String.ofList key.toList).utf8ByteSize := by
    rw [String.ofList_toList]
  rw [hkey, hforms]
  constructor
  · intro h
    obtain ⟨hsize, hhyphen⟩ := size_of_ofGroups? h
    refine ⟨hsize, .inr ⟨?_, .inl h⟩⟩
    refine Option.eq_none_iff_forall_not_mem.2 fun v hv => ?_
    obtain ⟨-, -, hdigits⟩ := of_ofBare? hv
    obtain ⟨d, hd⟩ := hdigits '-' hhyphen
    cases hd
  · -- the other forms are shorter or longer
    rintro ⟨hsize, hbare | ⟨-, h | ⟨-, h | ⟨-, h⟩⟩⟩⟩
    · rw [size_of_ofBare? hbare] at hsize
      omega
    · exact h
    · obtain ⟨inner, hinner, hgroups⟩ := Option.bind_eq_some_iff.1 h
      have hinside := size_of_inBraces? hinner
      obtain ⟨hgrouped, -⟩ := size_of_ofGroups? hgroups
      omega
    · have hlong := size_of_ofName? h
      omega

end BufferTelemetry.Uuid
