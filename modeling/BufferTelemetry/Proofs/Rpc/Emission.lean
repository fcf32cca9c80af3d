import BufferTelemetry.Proofs.Rpc.Actions

/-!
# What actions append to a log

Where the world of an action has a log, `Emits` says of the action what it appends to it, and
how that goes together with its answer and with the worlds before and after it. The entries of
the log may render something that says more, and it is this that is spoken about. The rules
follow the structure of actions.
-/

namespace BufferTelemetry.Action

/-- The action appends to the log what, with the world before it, its answer and the world
behind it, is as `Q` says. -/
def Emits {ω ε μ α : Type} (log : ω → List ε) (render : μ → ε) (a : Action ω α)
    (Q : ω → Except Error α → ω → List μ → Prop) : Prop :=
  ∀ w, ∃ ms, log (a w).2 = log w ++ ms.map render ∧ Q w (a w).1 (a w).2 ms

namespace Emits

variable {ω ω' ε μ α β : Type} {log : ω → List ε} {render : μ → ε} {a : Action ω α}
  {f : α → Action ω β} {Q Q' : ω → Except Error α → ω → List μ → Prop}
  {R : α → ω → Except Error β → ω → List μ → Prop} {S : ω → Except Error β → ω → List μ → Prop}

theorem imp (h : Emits log render a Q)
    (hQ : ∀ w result w' ms, Q w result w' ms → Q' w result w' ms) : Emits log render a Q' := by
  intro w
  obtain ⟨ms, hms, hq⟩ := h w
  exact ⟨ms, hms, hQ w _ _ ms hq⟩

/-- An action that leaves the log as it is appends nothing. -/
theorem of_log_eq (hlog : ∀ w, log (a w).2 = log w) (hQ : ∀ w, Q w (a w).1 (a w).2 []) :
    Emits log render a Q := by
  intro w
  refine ⟨[], ?_, hQ w⟩
  rw [hlog, List.map_nil, List.append_nil]

theorem pure {x : α} (hQ : ∀ w, Q w (.ok x) w []) : Emits log render (pure x) Q :=
  of_log_eq (fun _ => rfl) hQ

theorem throw {e : Error} (hQ : ∀ w, Q w (.error e) w []) : Emits log render (throw e) Q :=
  of_log_eq (fun _ => rfl) hQ

/-- Parts that follow each other append one after the other. -/
theorem bind (h : Emits log render a Q) (hf : ∀ x, Emits log render (f x) (R x))
    (herror : ∀ w e w' ms, Q w (.error e) w' ms → S w (.error e) w' ms)
    (hok : ∀ w x w' ms result w'' more, Q w (.ok x) w' ms → R x w' result w'' more →
      S w result w'' (ms ++ more)) : Emits log render (a >>= f) S := by
  intro w
  obtain ⟨ms, hms, hq⟩ := h w
  rcases haw : a w with ⟨e | x, w'⟩
  · rw [haw] at hms hq
    rw [bind_error haw]
    exact ⟨ms, hms, herror w e w' ms hq⟩
  · rw [haw] at hms hq
    rw [bind_ok haw]
    obtain ⟨more, hmore, hr⟩ := hf x w'
    refine ⟨ms ++ more, ?_, hok w x w' ms _ _ more hq hr⟩
    rw [hmore, hms, List.append_assoc, List.map_append]

/-- What comes behind a part that leaves the log as it is does all the appending. -/
theorem bind_silent {P : ω → Except Error α → ω → Prop} (hlog : ∀ w, log (a w).2 = log w)
    (hP : ∀ w, P w (a w).1 (a w).2) (hf : ∀ x, Emits log render (f x) (R x))
    (herror : ∀ w e w', P w (.error e) w' → S w (.error e) w' [])
    (hok : ∀ w x w' result w'' ms, P w (.ok x) w' → R x w' result w'' ms → S w result w'' ms) :
    Emits log render (a >>= f) S := by
  refine bind (Q := fun w result w' ms => P w result w' ∧ ms = [])
    (.of_log_eq hlog fun w => ⟨hP w, rfl⟩) hf ?_ ?_
  · rintro w e w' ms ⟨hw, rfl⟩
    exact herror w e w' hw
  · rintro w x w' ms result w'' more ⟨hw, rfl⟩ hmore
    exact hok w x w' result w'' more hw hmore

/-- A value that is computed from the answer takes its place. -/
theorem bind_pure {g : α → β} (h : Emits log render a Q)
    (herror : ∀ w e w' ms, Q w (.error e) w' ms → S w (.error e) w' ms)
    (hok : ∀ w x w' ms, Q w (.ok x) w' ms → S w (.ok (g x)) w' ms) :
    Emits log render (a >>= fun x => Pure.pure (g x)) S := by
  refine h.bind (R := fun x w result w' ms => result = .ok (g x) ∧ w' = w ∧ ms = [])
    (fun x => .pure fun w => ⟨rfl, rfl, rfl⟩) herror ?_
  rintro w x w' ms result w'' more hq ⟨rfl, rfl, rfl⟩
  rw [List.append_nil]
  exact hok w x _ ms hq

/-- What is appended before a failure comes before all that its handler appends. -/
theorem tryCatch {handle : Error → Action ω α}
    {R : Error → ω → Except Error α → ω → List μ → Prop} (h : Emits log render a Q)
    (hhandle : ∀ e, Emits log render (handle e) (R e))
    (hok : ∀ w x w' ms, Q w (.ok x) w' ms → Q' w (.ok x) w' ms)
    (herror : ∀ w e w' ms result w'' more, Q w (.error e) w' ms → R e w' result w'' more →
      Q' w result w'' (ms ++ more)) : Emits log render (tryCatch a handle) Q' := by
  intro w
  obtain ⟨ms, hms, hq⟩ := h w
  rw [tryCatch_apply]
  rcases haw : a w with ⟨e | x, w'⟩
  · rw [haw] at hms hq
    obtain ⟨more, hmore, hr⟩ := hhandle e w'
    refine ⟨ms ++ more, ?_, herror w e w' ms _ _ more hq hr⟩
    show log (handle e w').2 = _
    rw [hmore, hms, List.append_assoc, List.map_append]
  · rw [haw] at hms hq
    exact ⟨ms, hms, hok w x w' ms hq⟩

/-- What is appended in a part of the world is appended in the whole. -/
theorem within {part : ω' → ω} {replace : ω' → ω → ω'} {log' : ω' → List ε}
    (h : Emits log render a Q) (hpart : ∀ w, log (part w) = log' w)
    (hreplace : ∀ w p, log' (replace w p) = log p) :
    Emits log' render (Action.within part replace a) fun w result w' ms =>
      ∃ p, w' = replace w p ∧ Q (part w) result p ms := by
  intro w
  obtain ⟨ms, hms, hq⟩ := h (part w)
  refine ⟨ms, ?_, _, rfl, hq⟩
  show log' (replace w (a (part w)).2) = log' w ++ ms.map render
  rw [hreplace, hms, hpart]

end Emits

end BufferTelemetry.Action
