import BufferTelemetry.Proofs.Rpc.Emission
import BufferTelemetry.Proofs.Rpc.Looks

/-!
# What is written

A transport `Records` what is written if its world keeps the lines that were written on
each connection; every transport can be made to do so (`Transport.recorded`). What an
action writes is then a list of messages, and `Sends` says of an action what it answers
and which messages it has written by then; it has the rules of `Action.Emits`, of which it is
a case. The operations of a client each have theirs: looking at a connection and draining
it write nothing but replies, and a request writes itself, if it succeeds.
-/

namespace BufferTelemetry.Rpc

/-- The lines that have been written, each with its connection. -/
abbrev Record := List (ConnId × String)

/-- The lines of messages, each with its connection. -/
def lines (ms : List (ConnId × Message)) : Record := ms.map fun (conn, m) => (conn, m.line)

/-- The record in a transport's world grows by the lines that are written, and only by them. -/
structure Transport.Records {σ : Type} (t : Transport σ) (written : σ → Record) : Prop where
  connect : ∀ endpoint limit s, written (t.connect endpoint limit s).2 = written s
  poll : ∀ conn s, written (t.poll conn s).2 = written s
  send_ok : ∀ conn line s, (t.send conn line s).1 = .ok () →
    written (t.send conn line s).2 = written s ++ [(conn, line)]
  send_error : ∀ conn line s e, (t.send conn line s).1 = .error e →
    written (t.send conn line s).2 = written s
  settle : ∀ s, written (t.settle s) = written s

structure Recorded (σ : Type) where
  world : σ
  written : Record

/-- The transport with a record of what has been written. -/
def Transport.recorded {σ : Type} (t : Transport σ) : Transport (Recorded σ) where
  connect endpoint limit w :=
    ((t.connect endpoint limit w.world).1, ⟨(t.connect endpoint limit w.world).2, w.written⟩)
  send conn line w :=
    match t.send conn line w.world with
    | (.ok (), s) => (.ok (), ⟨s, w.written ++ [(conn, line)]⟩)
    | (.error e, s) => (.error e, ⟨s, w.written⟩)
  poll conn w := ((t.poll conn w.world).1, ⟨(t.poll conn w.world).2, w.written⟩)
  settle w := ⟨t.settle w.world, w.written⟩
  patience conn w := t.patience conn w.world

theorem Transport.recorded_records {σ : Type} (t : Transport σ) :
    t.recorded.Records Recorded.written where
  connect _ _ _ := rfl
  poll _ _ := rfl
  send_ok conn line w h := by
    rcases hsend : t.send conn line w.world with ⟨_ | _, s⟩
    · simp only [recorded, hsend, reduceCtorEq] at h
    · simp only [recorded, hsend]
  send_error conn line w e h := by
    rcases hsend : t.send conn line w.world with ⟨_ | _, s⟩
    · simp only [recorded, hsend]
    · simp only [recorded, hsend, reduceCtorEq] at h
  settle _ := rfl

/-- The action writes messages that, with what it answers, are as `Q` says. -/
def Sends {ω α : Type} (written : ω → Record) (a : Action ω α)
    (Q : Except Error α → List (ConnId × Message) → Prop) : Prop :=
  ∀ w, ∃ ms, written (a w).2 = written w ++ lines ms ∧ Q (a w).1 ms

namespace Sends

variable {ω ω' α β : Type} {written : ω → Record} {a : Action ω α} {f : α → Action ω β}
  {Q Q' : Except Error α → List (ConnId × Message) → Prop}
  {R : α → Except Error β → List (ConnId × Message) → Prop}
  {S : Except Error β → List (ConnId × Message) → Prop}

/-- Writing messages is appending their lines to the record. -/
theorem iff_emits : Sends written a Q ↔
    Action.Emits written (fun (conn, m) => (conn, m.line)) a fun _ result _ ms => Q result ms :=
  Iff.rfl

theorem imp (h : Sends written a Q) (hQ : ∀ result ms, Q result ms → Q' result ms) :
    Sends written a Q' :=
  iff_emits.2 ((iff_emits.1 h).imp fun _ result _ => hQ result)

/-- An action that leaves the record as it is writes nothing. -/
theorem of_written_eq (hwritten : ∀ w, written (a w).2 = written w) (hQ : ∀ w, Q (a w).1 []) :
    Sends written a Q :=
  iff_emits.2 (.of_log_eq hwritten hQ)

theorem pure {x : α} (hQ : Q (.ok x) []) : Sends written (pure x) Q :=
  iff_emits.2 (.pure fun _ => hQ)

theorem throw {e : Error} (hQ : Q (.error e) []) : Sends written (throw e) Q :=
  iff_emits.2 (.throw fun _ => hQ)

/-- Parts that follow each other write one after the other. -/
theorem bind (h : Sends written a Q) (hf : ∀ x, Sends written (f x) (R x))
    (herror : ∀ e ms, Q (.error e) ms → S (.error e) ms)
    (hok : ∀ x ms result more, Q (.ok x) ms → R x result more → S result (ms ++ more)) :
    Sends written (a >>= f) S :=
  iff_emits.2 ((iff_emits.1 h).bind (fun x => iff_emits.1 (hf x)) (fun _ e _ => herror e)
    fun _ x _ ms result _ => hok x ms result)

/-- What comes behind a part that writes nothing does all the writing. -/
theorem bind_silent {T : Except Error β → List (ConnId × Message) → Prop}
    (hsilent : ∀ w, written (a w).2 = written w) (herror : ∀ e, T (.error e) [])
    (hf : ∀ x, Sends written (f x) T) : Sends written (a >>= f) T := by
  refine bind (Q := fun _ ms => ms = []) (.of_written_eq hsilent fun _ => rfl) hf ?_ ?_
  · rintro e ms rfl
    exact herror e
  · rintro x ms result more rfl hmore
    exact hmore

/-- What is written before a failure is written before all that its handler writes. -/
theorem tryCatch {handle : Error → Action ω α}
    {R : Error → Except Error α → List (ConnId × Message) → Prop}
    (h : Sends written a Q) (hhandle : ∀ e, Sends written (handle e) (R e))
    (hok : ∀ x ms, Q (.ok x) ms → Q' (.ok x) ms)
    (herror : ∀ e ms result more, Q (.error e) ms → R e result more → Q' result (ms ++ more)) :
    Sends written (tryCatch a handle) Q' :=
  iff_emits.2 ((iff_emits.1 h).tryCatch (fun e => iff_emits.1 (hhandle e)) (fun _ x _ => hok x)
    fun _ e _ ms result _ => herror e ms result)

theorem within {part : ω' → ω} {replace : ω' → ω → ω'} {written' : ω' → Record}
    (h : Sends written a Q) (hpart : ∀ w, written (part w) = written' w)
    (hreplace : ∀ w p, written' (replace w p) = written p) :
    Sends written' (Action.within part replace a) Q :=
  iff_emits.2 (((iff_emits.1 h).within hpart hreplace).imp fun _ _ _ _ ⟨_, _, hq⟩ => hq)

end Sends

/-- Only replies are written. -/
def Quiet {α : Type} (_ : Except Error α) (ms : List (ConnId × Message)) : Prop :=
  ∀ m ∈ ms, ∃ result id, m.2 = .reply result id

theorem Quiet.nil {α : Type} {result : Except Error α} : Quiet result [] := by
  intro m hm
  cases hm

theorem Sends.bind_quiet {ω α β : Type} {written : ω → Record} {a : Action ω α}
    {f : α → Action ω β} (h : Sends written a Quiet) (hf : ∀ x, Sends written (f x) Quiet) :
    Sends written (a >>= f) Quiet := by
  refine h.bind hf (fun _ _ hms => hms) ?_
  intro x ms result more hms hmore m hm
  rcases List.mem_append.1 hm with hm | hm
  · exact hms m hm
  · exact hmore m hm

namespace Client

variable {σ : Type} {t : Transport σ} {written : σ → Record}

def writtenOf (written : σ → Record) (w : Client × σ) : Record := written w.2

theorem sends_send (ht : t.Records written) (m : Message) :
    Sends (writtenOf written) (send t m) fun result ms =>
      match result with
      | .ok () => ∃ conn, ms = [(conn, m)]
      | .error _ => ms = [] := by
  intro (c, s)
  have hsend := run_send t m c s
  unfold run at hsend
  rw [hsend]
  rcases heq : t.send c.conn m.line s with ⟨e | _, s'⟩
  · refine ⟨[], ?_, rfl⟩
    have hkeeps := ht.send_error c.conn m.line s e (by rw [heq])
    rw [heq] at hkeeps
    show written s' = written s ++ lines []
    rw [hkeeps, lines, List.map_nil, List.append_nil]
  · refine ⟨[(c.conn, m)], ?_, c.conn, rfl⟩
    have hgrows := ht.send_ok c.conn m.line s (by rw [heq])
    rw [heq] at hgrows
    exact hgrows

theorem sends_accept (ht : t.Records written) (line : String) :
    Sends (writtenOf written) (accept t line) Quiet := by
  unfold accept
  split
  · rename_i params id _
    refine (sends_send ht (.reply params id)).bind (fun _ => .pure rfl) ?_ ?_
      (R := fun _ _ more => more = [])
    · rintro e ms rfl
      exact .nil
    · rintro _ ms result more ⟨conn, rfl⟩ rfl
      intro m hm
      rw [List.append_nil, List.mem_singleton] at hm
      exact ⟨params, id, by rw [hm]⟩
  · exact .pure .nil
  · exact .pure .nil

/-- A look writes nothing but the reply to an echo request. -/
theorem sends_look (ht : t.Records written) : Sends (writtenOf written) (look t) Quiet := by
  unfold look
  refine .bind_silent (fun w => ht.poll w.1.conn w.2) (fun _ => .nil) ?_
  intro p
  cases p with
  | line text => exact sends_accept ht text
  | pending => exact .pure .nil
  | ended => exact .pure .nil
  | failed e => exact .throw .nil

theorem sends_drainWithin (ht : t.Records written) (n : Nat) :
    Sends (writtenOf written) (drainWithin t n) Quiet := by
  induction n with
  | zero => exact .pure .nil
  | succ n ih =>
    unfold drainWithin
    refine (sends_look ht).bind_quiet ?_
    intro arrival
    cases arrival with
    | message m => exact ih.bind_quiet fun _ => .pure .nil
    | handled => exact ih
    | nothing => exact .pure .nil
    | ended => exact .bind_silent (fun _ => rfl) (fun _ => .nil) fun _ => .throw .nil

/-- Taking in what has arrived writes nothing but replies. -/
theorem sends_drain (ht : t.Records written) : Sends (writtenOf written) (drain t) Quiet :=
  .bind_silent (fun _ => rfl) (fun _ => .nil) (sends_drainWithin ht)

/-- A request that succeeds is written, and one that fails is not. -/
theorem sends_sendRequest (ht : t.Records written) (method : String) (params : Json) :
    Sends (writtenOf written) (sendRequest t method params) fun result ms =>
      match result with
      | .ok id => ∃ conn, ms = [(conn, .request method params (.int id))]
      | .error _ => ms = [] := by
  refine .bind_silent (fun _ => rfl) (fun _ => rfl) ?_
  intro (c, _)
  refine .bind_silent (fun _ => rfl) (fun _ => rfl) ?_
  intro _
  refine (sends_send ht (.request method params (.int c.nextId))).bind
    (R := fun _ result more => result = .ok c.nextId ∧ more = []) (fun _ => .pure ⟨rfl, rfl⟩) ?_ ?_
  · intro e ms hms
    exact hms
  · rintro _ ms result more ⟨conn, rfl⟩ ⟨rfl, rfl⟩
    exact ⟨conn, rfl⟩

theorem sends_awaitReplyWithin (ht : t.Records written) (method : String) (id n : Nat) :
    Sends (writtenOf written) (awaitReplyWithin t method id n) Quiet := by
  induction n with
  | zero => exact .pure .nil
  | succ n ih =>
    unfold awaitReplyWithin
    refine (sends_look ht).bind_quiet ?_
    intro arrival
    cases arrival with
    | message m =>
      dsimp only
      split
      · exact .of_written_eq (fun _ => by cases replyResult method m <;> rfl) fun _ => .nil
      · exact ih
    | handled => exact ih
    | nothing => exact .pure .nil
    | ended => exact .bind_silent (fun _ => rfl) (fun _ => .nil) fun _ => .throw .nil

/-- Waiting for a reply writes nothing but replies, however long it takes. -/
theorem sends_awaitReply (ht : t.Records written) (method : String) (id : Nat) :
    Sends (writtenOf written) (awaitReply t method id) Quiet := by
  have hwithin := sends_awaitReplyWithin ht method id
  refine .bind_silent (fun _ => rfl) (fun _ => .nil) fun n => ?_
  refine (hwithin n).bind_quiet ?_
  intro result
  cases result with
  | some result => exact .pure .nil
  | none =>
    refine .bind_silent (fun w => ht.settle w.2) (fun _ => .nil) fun _ => ?_
    exact .bind_silent (fun _ => rfl) (fun _ => .nil) hwithin

end Client

end BufferTelemetry.Rpc
