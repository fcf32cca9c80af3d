import BufferTelemetry.Proofs.Rpc.Turns

/-!
# Lines that arrive

What a transport has to say can be known beforehand: on a connection lines arrive one after the
other, and what is written in answer to them is taken (`Arrives`). Then each look takes the next
line in, and hands its message on unless it is an echo request (`look_of_line`). A look that fails
has met one of the ways in which a connection comes to be over (`breaks_of_failure`).
-/

namespace BufferTelemetry.Rpc.Client

variable {σ : Type} {t : Transport σ} {conn : ConnId} {line : String} {lines more : List String}
  {s s₁ s₂ s' : σ}

/-- A line that has been taken in is answered, if it is an echo request, and the reply is
taken. -/
def Takes (t : Transport σ) (conn : ConnId) (line : String) (s s' : σ) : Prop :=
  match echoed? line with
  | none => s' = s
  | some reply => t.send conn reply.line s = (.ok (), s')

/-- The lines arrive one after the other, and what is written in answer is taken. -/
inductive Arrives (t : Transport σ) (conn : ConnId) : List String → σ → σ → Prop
  | done {s : σ} : Arrives t conn [] s s
  | line {line : String} {lines : List String} {s s₁ s₂ s' : σ} :
      t.poll conn s = (.line line, s₁) → Takes t conn line s₁ s₂ → Arrives t conn lines s₂ s' →
      Arrives t conn (line :: lines) s s'

/-- **A look at a line that has arrived** takes it in and answers it. -/
theorem look_of_line (c : Client) (hpoll : t.poll c.conn s = (.line line, s₁))
    (htakes : Takes t c.conn line s₁ s₂) : run (look t) c s = (.ok (arrivalOf line), c, s₂) := by
  rw [run_look, hpoll]
  dsimp only
  rw [run_accept_eq]
  unfold Takes at htakes
  cases hecho : echoed? line with
  | none =>
    rw [hecho] at htakes
    rw [htakes]
  | some reply =>
    rw [hecho] at htakes
    simp only [htakes]

/-- Why the connection of a client is over: its stream has ended, a line of it cannot be read, or
the reply to an echo request cannot be written. -/
inductive Breaks (t : Transport σ) (c : Client) (s : σ) : Error → Prop
  | ended {s' : σ} : t.poll c.conn s = (.ended, s') → Breaks t c s c.closed
  | unreadable {e : LineError} {s' : σ} : t.poll c.conn s = (.failed e, s') →
      Breaks t c s (.transport e.message)
  | unanswered {line : String} {reply : Message} {reason : String} {s₁ s' : σ} :
      t.poll c.conn s = (.line line, s₁) → echoed? line = some reply →
      t.send c.conn reply.line s₁ = (.error reason, s') → Breaks t c s (.transport reason)

theorem failure?_arrivalOf (c : Client) (line : String) :
    Look.failure? c (.ok (arrivalOf line)) = none := by
  unfold arrivalOf
  cases handed? line <;> rfl

/-- **A look that fails** shows why the connection is over. -/
theorem breaks_of_failure {c : Client} {l : Look} {e : Error}
    (hlook : run (look t) c s = (l, c, s')) (hl : Look.failure? c l = some e) :
    Breaks t c s e := by
  rw [run_look] at hlook
  rcases hpoll : t.poll c.conn s with ⟨line | _ | _ | e', s₁⟩ <;> rw [hpoll] at hlook
  · dsimp only at hlook
    rw [run_accept_eq] at hlook
    cases hecho : echoed? line with
    | none =>
      rw [hecho] at hlook
      cases hlook
      rw [failure?_arrivalOf] at hl
      cases hl
    | some reply =>
      rw [hecho] at hlook
      rcases hsend : t.send c.conn reply.line s₁ with ⟨reason | _, s₂⟩ <;>
        simp only [hsend] at hlook <;> cases hlook
      · cases hl
        exact .unanswered hpoll hecho hsend
      · rw [failure?_arrivalOf] at hl
        cases hl
  · cases hlook
    cases hl
  · cases hlook
    cases hl
    exact .ended hpoll
  · cases hlook
    cases hl
    exact .unreadable hpoll

/-! ## Under a trace -/

section Traced

variable {w : Traced σ}

theorem traced_poll_of_line (h : t.poll conn w.world = (.line line, s')) :
    t.traced.poll conn w = (.line line, ⟨s', w.trace ++ [.taken conn line]⟩) := by
  simp only [Transport.traced, h]

theorem traced_poll_of_pending (h : t.poll conn w.world = (.pending, s')) :
    t.traced.poll conn w = (.pending, ⟨s', w.trace⟩) := by
  simp only [Transport.traced, h]

theorem traced_poll_of_ended (h : (t.poll conn w.world).1 = .ended) :
    (t.traced.poll conn w).1 = .ended := by
  rcases hpoll : t.poll conn w.world with ⟨p, s'⟩
  rw [hpoll] at h
  cases h
  simp only [Transport.traced, hpoll]

theorem traced_send_of_ok {text : String} (h : t.send conn text w.world = (.ok (), s')) :
    t.traced.send conn text w = (.ok (), ⟨s', w.trace ++ [.written conn text]⟩) := by
  simp only [Transport.traced, h]

theorem of_traced_poll {w' : Traced σ} {p : Poll} (h : t.traced.poll conn w = (p, w')) :
    t.poll conn w.world = (p, w'.world) := by
  simp only [Transport.traced] at h
  split at h <;> rename_i hpoll <;> cases h <;> exact hpoll

theorem of_traced_send {w' : Traced σ} {text : String} {result : Except String Unit}
    (h : t.traced.send conn text w = (result, w')) :
    t.send conn text w.world = (result, w'.world) := by
  simp only [Transport.traced] at h
  split at h <;> rename_i hsend <;> cases h <;> exact hsend

/-- What breaks a connection under a trace breaks it without. -/
theorem Breaks.of_traced {c : Client} {e : Error} (h : Breaks t.traced c w e) :
    Breaks t c w.world e := by
  cases h with
  | ended hpoll => exact .ended (of_traced_poll hpoll)
  | unreadable hpoll => exact .unreadable (of_traced_poll hpoll)
  | unanswered hpoll hecho hsend =>
    exact .unanswered (of_traced_poll hpoll) hecho (of_traced_send hsend)

/-- The turn in which the line was taken in is followed by its reply, if it has one. -/
theorem Takes.traced (h : Takes t conn line s s₁) (passed : List Crossing) :
    Takes t.traced conn line ⟨s, passed ++ [.taken conn line]⟩
      ⟨s₁, passed ++ (exchange conn line).map Turn.crossing⟩ := by
  unfold Takes at h ⊢
  unfold exchange
  cases hecho : echoed? line with
  | none =>
    rw [hecho] at h
    dsimp only at h ⊢
    rw [h]
    rfl
  | some reply =>
    rw [hecho] at h
    dsimp only at h ⊢
    rw [traced_send_of_ok (w := ⟨s, _⟩) h, List.append_assoc]
    rfl

/-- **The trace of what arrives** is an exchange for each line. -/
theorem Arrives.traced (h : Arrives t conn lines s s') (passed : List Crossing) :
    Arrives t.traced conn lines ⟨s, passed⟩
      ⟨s', passed ++ (exchanges conn lines).map Turn.crossing⟩ := by
  induction h generalizing passed with
  | done =>
    rw [exchanges, List.flatMap_nil, List.map_nil, List.append_nil]
    exact .done
  | @line line lines s s₁ s₂ s' hpoll htakes _ ih =>
    have hrest := ih (passed ++ (exchange conn line).map Turn.crossing)
    rw [List.append_assoc, ← List.map_append] at hrest
    exact .line (traced_poll_of_line (w := ⟨s, passed⟩) hpoll) (htakes.traced passed) hrest

end Traced

end BufferTelemetry.Rpc.Client
