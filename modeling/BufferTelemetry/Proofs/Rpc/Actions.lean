import BufferTelemetry.Rpc.Transport

/-!
# Running actions

What an action does, step by step: a bind runs its first part and hands the answer
and the changed world on to the second, or stops at the failure with the world as the
failed part left it.
-/

namespace BufferTelemetry.Action

variable {ω α β : Type}

/-- A bind runs one part after the other, up to a failure. -/
theorem bind_apply (a : Action ω α) (f : α → Action ω β) (w : ω) :
    (a >>= f) w =
      match a w with
      | (.ok x, w) => f x w
      | (.error e, w) => (.error e, w) := by
  show ExceptT.bindCont f (a w).1 (a w).2 = _
  rcases a w with ⟨_ | _, w⟩ <;> rfl

theorem bind_ok {a : Action ω α} {w w' : ω} {x : α} (h : a w = (.ok x, w'))
    (f : α → Action ω β) : (a >>= f) w = f x w' := by
  rw [bind_apply, h]

theorem bind_error {a : Action ω α} {w w' : ω} {e : Error} (h : a w = (.error e, w'))
    (f : α → Action ω β) : (a >>= f) w = (.error e, w') := by
  rw [bind_apply, h]

/-- A bind that succeeds has run both parts. -/
theorem bind_eq_ok_iff {a : Action ω α} {f : α → Action ω β} {w w'' : ω} {y : β} :
    (a >>= f) w = (.ok y, w'') ↔ ∃ x w', a w = (.ok x, w') ∧ f x w' = (.ok y, w'') := by
  rw [bind_apply]
  rcases haw : a w with ⟨e | x, w'⟩
  · constructor
    · intro h
      cases h
    · rintro ⟨x, _, h, -⟩
      cases h
  · constructor
    · intro h
      exact ⟨x, w', rfl, h⟩
    · rintro ⟨_, _, h, hf⟩
      cases h
      exact hf

theorem map_apply (f : α → β) (a : Action ω α) (w : ω) :
    (f <$> a) w = ((a w).1.map f, (a w).2) := by
  rw [← bind_pure_comp, bind_apply]
  rcases a w with ⟨_ | _, w'⟩ <;> rfl

@[simp]
theorem pure_apply (x : α) (w : ω) : (pure x : Action ω α) w = (.ok x, w) := rfl

@[simp]
theorem get_apply (w : ω) : (get : Action ω ω) w = (.ok w, w) := rfl

@[simp]
theorem ofExcept_apply (x : Except Error α) (w : ω) : (ofExcept x : Action ω α) w = (x, w) := by
  cases x <;> rfl

/-- An operation that cannot fail is run as it is. -/
@[simp]
theorem liftM_apply (f : StateM ω α) (w : ω) :
    (liftM f : Action ω α) w = (.ok (f w).1, (f w).2) := rfl

/-- A failure is handled in the world that the failed action has left. -/
theorem tryCatch_apply (a : Action ω α) (handle : Error → Action ω α) (w : ω) :
    tryCatch a handle w =
      match a w with
      | (.ok x, w) => (.ok x, w)
      | (.error e, w) => handle e w := by
  show ExceptT.tryCatch a handle w = _
  simp only [ExceptT.tryCatch, ExceptT.mk, bind, StateT.bind]
  rcases a w with ⟨_ | _, w⟩ <;> rfl

end BufferTelemetry.Action
