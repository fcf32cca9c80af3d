/-!
# Cutting a text at a separator

Functions on lists of characters that cut at a separator, and the `String`
forms in which the other modules use them. Each of the two that may find nothing
to cut comes with the equation that says what it finds: `cutLast?_eq_some_iff`
and `after?_eq_some_iff`.
-/

namespace BufferTelemetry.Text

/-- The pieces between the separators, of which there is always at least one. -/
def pieces (separator : Char) (s : String) : List String :=
  (s.toList.splitOn separator).map String.ofList

/-- What stands before and after the last separator, if there is one. -/
def cutLast? (separator : Char) (s : List Char) : Option (List Char × List Char) :=
  match s with
  | [] => none
  | c :: rest =>
    match cutLast? separator rest with
    | some (front, back) => some (c :: front, back)
    | none => if c = separator then some ([], rest) else none

theorem cutLast?_eq_none_iff {c : Char} {s : List Char} : cutLast? c s = none ↔ c ∉ s := by
  induction s with
  | nil => exact ⟨fun _ => List.not_mem_nil, fun _ => rfl⟩
  | cons d rest ih =>
    rw [cutLast?, List.mem_cons, not_or, ← ih]
    split
    · rename_i hrest
      rw [hrest]
      simp
    · rename_i hrest
      rw [hrest]
      split
      · rename_i hd
        simp [hd]
      · rename_i hd
        simp [Ne.symm hd]

theorem cutLast?_append {c : Char} (front : List Char) {back : List Char} (h : c ∉ back) :
    cutLast? c (front ++ c :: back) = some (front, back) := by
  induction front with
  | nil =>
    rw [List.nil_append, cutLast?, cutLast?_eq_none_iff.2 h]
    exact if_pos rfl
  | cons d front ih => rw [List.cons_append, cutLast?, ih]

/-- A text is cut where the separator stands for the last time. -/
theorem cutLast?_eq_some_iff {c : Char} {s front back : List Char} :
    cutLast? c s = some (front, back) ↔ s = front ++ c :: back ∧ c ∉ back := by
  constructor
  · intro h
    induction s generalizing front with
    | nil => cases h
    | cons d rest ih =>
      rw [cutLast?] at h
      split at h
      · rename_i f b hrest
        cases h
        obtain ⟨hsplit, hback⟩ := ih hrest
        exact ⟨by rw [hsplit, List.cons_append], hback⟩
      · rename_i hrest
        split at h
        · rename_i hd
          cases h
          exact ⟨by rw [hd, List.nil_append], cutLast?_eq_none_iff.1 hrest⟩
        · cases h
  · rintro ⟨rfl, hback⟩
    exact cutLast?_append front hback

/-- The rest of the text behind the given beginning, if it begins so. -/
def after? (start s : List Char) : Option (List Char) :=
  match start, s with
  | [], s => some s
  | _ :: _, [] => none
  | a :: start, b :: s => if a = b then after? start s else none

theorem after?_append (start rest : List Char) : after? start (start ++ rest) = some rest := by
  induction start with
  | nil => rfl
  | cons a start ih =>
    rw [List.cons_append, after?]
    exact (if_pos rfl).trans ih

theorem after?_eq_some_iff {start s rest : List Char} :
    after? start s = some rest ↔ s = start ++ rest := by
  constructor
  · intro h
    induction start generalizing s with
    | nil =>
      rw [after?] at h
      exact Option.some.inj h
    | cons a start ih =>
      cases s with
      | nil => cases h
      | cons b s =>
        rw [after?] at h
        split at h
        · rename_i hab
          rw [hab, ih h, List.cons_append]
        · cases h
  · rintro rfl
    exact after?_append start rest

end BufferTelemetry.Text
