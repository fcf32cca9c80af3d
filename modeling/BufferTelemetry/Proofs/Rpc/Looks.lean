import BufferTelemetry.Proofs.Rpc.Actions
import BufferTelemetry.Rpc.Client

/-!
# What looks at a connection bring

A look asks the connection once and leaves the client as it is; what it brings
depends on the poll alone, unless the line is an echo request, which is answered
on the spot (`run_look`, `run_accept`). `looks` is what the first so many looks
bring, up to the first one that shows the stream to be over, and `messages` are
the messages among it.
-/

namespace BufferTelemetry.Rpc.Client

variable {σ : Type}

/-- The message that a line carries, if it carries one. -/
def lineMessage? (line : String) : Option Message :=
  (Json.parse? line).bind fun v => (Message.ofJson v).toOption

/-- The reply that a client gives to a message by itself. -/
def echoReply? : Message → Option Message
  | .request "echo" params id => some (.reply params id)
  | _ => none

theorem run_send (t : Transport σ) (m : Message) (c : Client) (s : σ) :
    run (send t m) c s =
      match t.send c.conn m.line s with
      | (.ok (), s) => (.ok (), c, s)
      | (.error reason, s) => (.error (.transport reason), c, s) := rfl

/-- A request takes the next number, whether or not it can be written. -/
theorem run_sendRequest (t : Transport σ) (method : String) (params : Json) (c : Client) (s : σ) :
    run (sendRequest t method params) c s =
      match t.send c.conn (Message.request method params (.int c.nextId)).line s with
      | (.ok (), s) => (.ok c.nextId, { c with nextId := c.nextId + 1 }, s)
      | (.error reason, s) => (.error (.transport reason), { c with nextId := c.nextId + 1 }, s) := by
  have hsend := run_send t (.request method params (.int c.nextId))
    { c with nextId := c.nextId + 1 } s
  show (send t (.request method params (.int c.nextId)) >>= fun _ => pure c.nextId)
    ({ c with nextId := c.nextId + 1 }, s) = _
  unfold run at hsend
  rw [Action.bind_apply, hsend]
  dsimp only
  rcases t.send c.conn (Message.request method params (.int c.nextId)).line s with
    ⟨_ | _, s⟩ <;> rfl

/-- A line is passed over, answered or handed on. -/
theorem run_accept (t : Transport σ) (line : String) (c : Client) (s : σ) :
    run (accept t line) c s =
      match lineMessage? line with
      | none => (.ok .handled, c, s)
      | some m =>
        match echoReply? m with
        | none => (.ok (.message m), c, s)
        | some reply =>
          match t.send c.conn reply.line s with
          | (.ok (), s) => (.ok .handled, c, s)
          | (.error reason, s) => (.error (.transport reason), c, s) := by
  unfold accept lineMessage?
  cases Json.parse? line with
  | none => rfl
  | some v =>
    simp only [Option.map_some, Option.bind_some]
    cases Message.ofJson v with
    | error e => rfl
    | ok m =>
      simp only [Except.toOption, echoReply?]
      split
      · rename_i params id heq
        cases heq
        have hsend := run_send t (.reply params id) c s
        simp only [run] at hsend ⊢
        rw [Action.bind_apply, hsend]
        rcases t.send c.conn (Message.reply params id).line s with ⟨_ | _, s⟩ <;> rfl
      · rename_i hne heq
        cases heq
        split
        · rename_i reply hreply
          split at hreply
          · exact absurd rfl (hne _ _)
          · rfl
        · rename_i reply hreply
          split at hreply
          · exact absurd rfl (hne _ _)
          · cases hreply
      · rename_i hne
        exact absurd rfl (hne m)

/-- A look is a poll, and takes the line that it brings in. -/
theorem run_look (t : Transport σ) (c : Client) (s : σ) :
    run (look t) c s =
      match t.poll c.conn s with
      | (.line text, s) => run (accept t text) c s
      | (.pending, s) => (.ok .nothing, c, s)
      | (.ended, s) => (.ok .ended, c, s)
      | (.failed e, s) => (.error (.transport e.message), c, s) := by
  unfold look run
  rw [Action.bind_apply]
  rcases hpoll : t.poll c.conn s with ⟨_ | _ | _ | _, s'⟩ <;> simp only [hpoll] <;> rfl

theorem run_look_client (t : Transport σ) (c : Client) (s : σ) :
    (run (look t) c s).2.1 = c := by
  rw [run_look]
  rcases t.poll c.conn s with ⟨line | _ | _ | _, s⟩
  · simp only [run_accept]
    cases lineMessage? line with
    | none => rfl
    | some m =>
      dsimp only
      cases echoReply? m with
      | none => rfl
      | some reply =>
        dsimp only
        rcases t.send c.conn reply.line s with ⟨_ | _, s⟩ <;> rfl
  · rfl
  · rfl
  · rfl

/-- What a look brings: an arrival, or the failure of the connection. -/
abbrev Look := Except Error Arrival

/-- Why nothing more will arrive, if the look shows that nothing will. -/
def Look.failure? (c : Client) : Look → Option Error
  | .error e => some e
  | .ok .ended => some c.closed
  | .ok _ => none

/-- What the first looks at the connection bring, up to the one that shows it to be over. -/
def looks (t : Transport σ) (c : Client) : Nat → σ → List Look
  | 0, _ => []
  | n + 1, s =>
    let (look, _, s) := run (look t) c s
    look :: if (Look.failure? c look).isSome then [] else looks t c n s

/-- Why nothing more will arrive after some looks, if one of them shows that nothing will. -/
def failure? (c : Client) (ls : List Look) : Option Error := ls.findSome? (Look.failure? c)

section Looks

variable {t : Transport σ} {c : Client} {l : Look} {s s' : σ}

theorem exists_run_look (t : Transport σ) (c : Client) (s : σ) :
    ∃ l s', run (look t) c s = (l, c, s') := by
  refine ⟨(run (look t) c s).1, (run (look t) c s).2.2, ?_⟩
  rw [Prod.ext_iff, Prod.ext_iff]
  exact ⟨rfl, run_look_client t c s, rfl⟩

theorem looks_of_failure {e : Error} (hlook : run (look t) c s = (l, c, s'))
    (hl : Look.failure? c l = some e) (n : Nat) :
    looks t c (n + 1) s = [l] ∧ failure? c [l] = some e := by
  constructor
  · rw [looks, hlook]
    show (l :: if (Look.failure? c l).isSome then [] else looks t c n s') = [l]
    rw [hl, Option.isSome_some, if_pos rfl]
  · rw [failure?, List.findSome?_cons, hl]

theorem looks_of_not_failure (hlook : run (look t) c s = (l, c, s'))
    (hl : Look.failure? c l = none) (n : Nat) :
    looks t c (n + 1) s = l :: looks t c n s' ∧
      failure? c (l :: looks t c n s') = failure? c (looks t c n s') := by
  constructor
  · rw [looks, hlook]
    show (l :: if (Look.failure? c l).isSome then [] else looks t c n s') = l :: looks t c n s'
    rw [hl, Option.isSome_none, if_neg Bool.false_ne_true]
  · rw [failure?, List.findSome?_cons, hl]
    rfl

end Looks

def messages (ls : List Look) : List Message :=
  ls.filterMap fun
    | .ok (.message m) => some m
    | _ => none

section Messages

variable {ls : List Look}

@[simp]
theorem messages_nil : messages [] = [] := rfl

@[simp]
theorem messages_message (m : Message) : messages (.ok (.message m) :: ls) = m :: messages ls := rfl

@[simp]
theorem messages_handled : messages (.ok .handled :: ls) = messages ls := rfl

@[simp]
theorem messages_nothing : messages (.ok .nothing :: ls) = messages ls := rfl

@[simp]
theorem messages_ended : messages (.ok .ended :: ls) = messages ls := rfl

@[simp]
theorem messages_error (e : Error) : messages (.error e :: ls) = messages ls := rfl

end Messages

end BufferTelemetry.Rpc.Client
