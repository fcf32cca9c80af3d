import BufferTelemetry.Proofs.Rpc.Arrivals
import BufferTelemetry.Proofs.Rpc.Replies

/-!
# Requests that wait

A request that waits is written, and then lines are taken in up to the first message that answers
it by its number (`Asked`). What it comes to depends on that message alone: the result of a
reply, the failure of an error reply, for a transaction the failure of an operation, and the
failure of the transport if there is no answer (`turns_request_decided`,
`turns_transact_decided`). Where the server says enough before the wait is over, it is the first
answer among all that it says (`request_of_served`, `transact_of_served`).
-/

namespace BufferTelemetry.Rpc.Client

variable {σ : Type} {t : Transport σ} {trace : σ → List Crossing}

/-! ## Outcomes -/

/-- A transaction succeeds exactly if no operation in its result has an error. -/
theorem checkTransaction_eq_ok_iff (result : Json) :
    checkTransaction result = .ok () ↔
      (result.items?.getD []).any (fun op => (op.get? "error").isSome) = false := by
  unfold checkTransaction
  cases hfind : (result.items?.getD []).find? fun op => (op.get? "error").isSome with
  | some op =>
    simp only [reduceCtorEq, false_iff, Bool.not_eq_false, List.any_eq_true]
    exact ⟨op, List.mem_of_find?_eq_some hfind, by simpa using List.find?_some hfind⟩
  | none =>
    simp only [true_iff, List.any_eq_false]
    exact List.find?_eq_none.1 hfind

/-- No operation of a transaction reports an error in its result. -/
def ErrorFree (x : Json) : Prop :=
  ∀ ops, x = .arr ops → ∀ op ∈ ops, ∀ members, op = .obj members → members.lookup "error" = none

theorem checkTransaction_eq_ok_iff_errorFree (x : Json) :
    checkTransaction x = .ok () ↔ ErrorFree x := by
  rw [checkTransaction_eq_ok_iff]
  cases x with
  | arr ops =>
    simp only [Json.items?, Option.getD_some, List.any_eq_false, Option.not_isSome_iff_eq_none]
    constructor
    · rintro h _ hops op hop members rfl
      cases hops
      exact h _ hop
    · intro h op hop
      cases op with
      | obj members => exact h ops rfl _ hop members rfl
      | _ => rfl
  | _ => exact iff_of_true rfl nofun

/-- What a request comes to, by the first message that answers it. -/
def RequestOutcome (method : String) (answer : Option Message) (result : Except Error Json) :
    Prop :=
  match answer with
  | some (.reply x _) => result = .ok x
  | some (.error e _) => result = .error (.failure s!"{method} failed: {e.compress}")
  | _ => ∃ reason, result = .error (.transport reason)

/-- What a transaction comes to, by the first message that answers it. -/
def TransactOutcome (answer : Option Message) (result : Except Error Json) : Prop :=
  match answer with
  | some (.reply x _) =>
    (ErrorFree x → result = .ok x) ∧ (¬ ErrorFree x → ∃ reason, result = .error (.failure reason))
  | some (.error e _) => result = .error (.failure s!"transact failed: {e.compress}")
  | _ => ∃ reason, result = .error (.transport reason)

/-- A transaction fails as the transport does, or because the server reports a failure. -/
theorem TransactOutcome.of_error {answer : Option Message} {e : Error}
    (h : TransactOutcome answer (.error e)) :
    (∃ reason, e = .transport reason) ∨ ∃ reason, e = .failure reason := by
  unfold TransactOutcome at h
  split at h
  · rename_i x _
    by_cases hfree : ErrorFree x
    · cases h.1 hfree
    · obtain ⟨reason, he⟩ := h.2 hfree
      cases he
      exact .inr ⟨reason, rfl⟩
  · cases h
    exact .inr ⟨_, rfl⟩
  · obtain ⟨reason, he⟩ := h
    cases he
    exact .inl ⟨reason, rfl⟩

/-- The result of a request that has been waited for, unless it is late. -/
def inTime (method : String) (timeoutMs : Nat) : Option Json → Except Error Json
  | none => .error (late method timeoutMs)
  | some result => .ok result

/-- What comes of the result that was waited for. -/
def verdict (timeoutMs : Nat) : Option Json → Except Error Json
  | none => .error (late "transact" timeoutMs)
  | some result => (checkTransaction result).map fun _ => result

theorem transact_eq (t : Transport σ) (params : Json) (timeoutMs : Nat) :
    transact t params timeoutMs =
      ask t "transact" params >>= fun result => Action.ofExcept (verdict timeoutMs result) := by
  unfold transact request
  rw [bind_assoc]
  congr 1
  funext result
  cases result with
  | none => rfl
  | some x =>
    show (Action.ofExcept (checkTransaction x) >>= fun _ => pure x) =
      Action.ofExcept ((checkTransaction x).map fun _ => x)
    cases checkTransaction x <;> rfl

theorem request_eq (t : Transport σ) (method : String) (params : Json) (timeoutMs : Nat) :
    request t method params timeoutMs =
      ask t method params >>= fun result => Action.ofExcept (inTime method timeoutMs result) := by
  unfold request
  congr 1
  funext result
  cases result <;> rfl

/-- What a wait comes to, by the first of the lines that answers the request. -/
structure Awaited (method : String) (id : Nat) (lines : List String)
    (result : Except Error (Option Json)) : Prop where
  of_answer : ∀ m, firstAnswer? id lines = some m → result = (replyResult method m).map some
  of_none : firstAnswer? id lines = none →
    result = .ok none ∨ ∃ reason, result = .error (.transport reason)

section Outcomes

variable {method : String} {id : Nat} {conn : ConnId} {waited : Except Error (Option Json)}
  {lines : List String} {turns : List Turn}

theorem Decided.awaited (h : Decided method id conn waited lines turns) :
    Awaited method id lines waited :=
  ⟨fun _ => h.result_of_answer, h.result_of_no_answer⟩

/-- A wait comes to what is said in a reply or in an error reply, or to no answer. -/
theorem Awaited.cases (h : Awaited method id lines waited) :
    (∃ x rid, firstAnswer? id lines = some (.reply x rid) ∧ waited = .ok (some x)) ∨
    (∃ e rid, firstAnswer? id lines = some (.error e rid) ∧
      waited = .error (.failure s!"{method} failed: {e.compress}")) ∨
    (firstAnswer? id lines = none ∧
      (waited = .ok none ∨ ∃ reason, waited = .error (.transport reason))) := by
  cases hfirst : firstAnswer? id lines with
  | none => exact .inr (.inr ⟨rfl, h.of_none hfirst⟩)
  | some m =>
    have hwaited := h.of_answer m hfirst
    have hreply := ((answers_iff id m).1 (List.find?_some hfirst)).2
    cases m with
    | reply x rid => exact .inl ⟨x, rid, rfl, hwaited⟩
    | error e rid => exact .inr (.inl ⟨e, rid, rfl, hwaited⟩)
    | request | notify => cases hreply

theorem Awaited.request (h : Awaited method id lines waited) (timeoutMs : Nat) :
    RequestOutcome method (firstAnswer? id lines) (waited.bind (inTime method timeoutMs)) := by
  rcases h.cases with ⟨x, rid, hfirst, rfl⟩ | ⟨e, rid, hfirst, rfl⟩ |
    ⟨hfirst, rfl | ⟨reason, rfl⟩⟩
  all_goals rw [hfirst]
  · exact rfl
  · exact rfl
  · exact ⟨_, rfl⟩
  · exact ⟨reason, rfl⟩

theorem Awaited.transact (h : Awaited "transact" id lines waited) (timeoutMs : Nat) :
    TransactOutcome (firstAnswer? id lines) (waited.bind (verdict timeoutMs)) := by
  rcases h.cases with ⟨x, rid, hfirst, rfl⟩ | ⟨e, rid, hfirst, rfl⟩ |
    ⟨hfirst, rfl | ⟨reason, rfl⟩⟩
  all_goals rw [hfirst]
  · show (ErrorFree x → (checkTransaction x).map (fun _ => x) = .ok x) ∧
      (¬ ErrorFree x → ∃ reason, (checkTransaction x).map (fun _ => x) = .error (.failure reason))
    rw [← checkTransaction_eq_ok_iff_errorFree]
    refine ⟨fun h => by rw [h]; rfl, fun h => ?_⟩
    unfold checkTransaction at h ⊢
    split at h
    · exact ⟨_, rfl⟩
    · exact absurd rfl h
  · exact rfl
  · exact ⟨_, rfl⟩
  · exact ⟨reason, rfl⟩

end Outcomes

/-- A request is written, and then lines are taken in up to the first that answers it, on which
it depends what the request comes to; or it cannot be written. -/
def Asked (conn : ConnId) (id : Nat) (request : Message)
    (Outcome : Option Message → Except Error Json → Prop) (result : Except Error Json)
    (turns : List Turn) : Prop :=
  (turns = [] ∧ ∃ reason, result = .error (.transport reason)) ∨
  ∃ lines rest, turns = .wrote conn request :: rest ∧ Exchanged conn lines rest ∧
    firstAnswer? id lines.dropLast = none ∧ Outcome (firstAnswer? id lines) result

section Asking

variable {Outcome : Option Message → Except Error Json → Prop} {method : String}
  {f : Option Json → Except Error Json}

theorem turns_ask_decided (ht : t.Traces trace) (params : Json)
    (hf : ∀ id lines waited, Awaited method id lines waited →
      Outcome (firstAnswer? id lines) (waited.bind f)) :
    Turns trace (ask t method params >>= fun result => Action.ofExcept (f result))
      fun w result w' turns => w'.1 = { w.1 with nextId := w.1.nextId + 1 } ∧
        Asked w.1.conn w.1.nextId (.request method params (.int w.1.nextId)) Outcome result
          turns := by
  refine (turns_ask ht method params).bind (R := fun waited w result w' turns =>
    w' = w ∧ result = f waited ∧ turns = []) ?_ ?_ ?_
  · intro waited
    refine .of_log_eq (fun w => by rw [Action.ofExcept_apply]) fun w => ?_
    rw [Action.ofExcept_apply]
    exact ⟨rfl, rfl, rfl⟩
  · rintro w e w' turns ⟨hclient, ⟨⟨reason, he⟩, rfl⟩ | ⟨lines, rest, rfl, hdecided⟩⟩
    · cases he
      exact ⟨hclient, .inl ⟨rfl, reason, rfl⟩⟩
    · exact ⟨hclient, .inr ⟨lines, rest, rfl, hdecided.exchanged, hdecided.dropLast_eq_none,
        hf _ _ _ hdecided.awaited⟩⟩
  · rintro w waited w' turns result w'' more
      ⟨hclient, ⟨⟨reason, he⟩, -⟩ | ⟨lines, rest, rfl, hdecided⟩⟩ ⟨rfl, rfl, rfl⟩
    · cases he
    · rw [List.append_nil]
      exact ⟨hclient, .inr ⟨lines, rest, rfl, hdecided.exchanged, hdecided.dropLast_eq_none,
        hf _ _ _ hdecided.awaited⟩⟩

end Asking

/-- **A request that waits** is decided by the first message that answers it. -/
theorem turns_request_decided (ht : t.Traces trace) (method : String) (params : Json)
    (timeoutMs : Nat) :
    Turns trace (request t method params timeoutMs) fun w result w' turns =>
      w'.1 = { w.1 with nextId := w.1.nextId + 1 } ∧
      Asked w.1.conn w.1.nextId (.request method params (.int w.1.nextId)) (RequestOutcome method)
        result turns := by
  rw [request_eq]
  exact turns_ask_decided ht params fun _ _ _ h => h.request timeoutMs

theorem turns_transact_decided (ht : t.Traces trace) (params : Json) (timeoutMs : Nat) :
    Turns trace (transact t params timeoutMs) fun w result w' turns =>
      w'.1 = { w.1 with nextId := w.1.nextId + 1 } ∧
      Asked w.1.conn w.1.nextId (.request "transact" params (.int w.1.nextId)) TransactOutcome
        result turns := by
  rw [transact_eq]
  exact turns_ask_decided ht params fun _ _ _ h => h.transact timeoutMs

/-! ## What the server says -/

/-- The server says enough before the wait for an answer is over: the lines arrive, and if none
of them answers the request, the stream ends behind them. Some may arrive only when the server
has dealt with what was written to it. -/
inductive Supplied (t : Transport σ) (conn : ConnId) (id : Nat) : List String → σ → Prop
  | atOnce {lines : List String} {s s' : σ} : Arrives t conn lines s s' →
      lines.length < t.patience conn s →
      (firstAnswer? id lines = none → (t.poll conn s').1 = .ended) → Supplied t conn id lines s
  | later {lines more : List String} {s s₁ s₂ s' : σ} : Arrives t conn lines s s₁ →
      lines.length < t.patience conn s → t.poll conn s₁ = (.pending, s₂) →
      Arrives t conn more (t.settle s₂) s' → more.length < t.patience conn (t.settle s₂) →
      (firstAnswer? id (lines ++ more) = none → (t.poll conn s').1 = .ended) →
      Supplied t conn id (lines ++ more) s

section Supplied

variable {method : String} {id n : Nat} {c : Client} {line : String} {lines : List String}
  {s s₁ s₂ s' : σ}

theorem awaitReplyWithin_succ (t : Transport σ) (method : String) (id n : Nat) (w : Client × σ) :
    awaitReplyWithin t method id (n + 1) w =
      match look t w with
      | (.error e, w) => (.error e, w)
      | (.ok (.message m), w) =>
        if answers id m then ((replyResult method m).map some, w)
        else awaitReplyWithin t method id n w
      | (.ok .handled, w) => awaitReplyWithin t method id n w
      | (.ok .nothing, w) => (.ok none, w)
      | (.ok .ended, w) => (.error w.1.closed, w) := by
  rw [awaitReplyWithin, Action.bind_apply]
  rcases look t w with ⟨e | (m | _ | _ | _), w'⟩
  · rfl
  · dsimp only
    split
    · cases replyResult method m <;> rfl
    · rfl
  all_goals rfl

/-- A wait takes lines that have arrived in up to the first answer, or all of them. -/
theorem awaitReplyWithin_of_arrives (h : Arrives t c.conn lines s s') (method : String)
    (id n : Nat) :
    (∃ m w', firstAnswer? id lines = some m ∧
      awaitReplyWithin t method id (n + lines.length + 1) (c, s) =
        ((replyResult method m).map some, w')) ∨
    (firstAnswer? id lines = none ∧
      awaitReplyWithin t method id (n + lines.length + 1) (c, s) =
        awaitReplyWithin t method id (n + 1) (c, s')) := by
  induction h with
  | done => exact .inr ⟨rfl, rfl⟩
  | @line line lines s s₁ s₂ s' hpoll htakes _ ih =>
    have hlook : look t (c, s) = (.ok (arrivalOf line), c, s₂) := look_of_line c hpoll htakes
    have hfirst : firstAnswer? id (line :: lines) =
        (firstAnswer? id [line]).or (firstAnswer? id lines) := firstAnswer?_append id [line] lines
    rw [List.length_cons, ← Nat.add_assoc, awaitReplyWithin_succ, hlook, hfirst]
    cases hhanded : handed? line with
    | none =>
      rw [arrivalOf_of_unhanded hhanded, firstAnswer?_of_unhanded hhanded, Option.none_or]
      exact ih
    | some m =>
      rw [arrivalOf_of_handed? hhanded, firstAnswer?_of_handed hhanded]
      dsimp only
      split
      · exact .inl ⟨m, _, rfl, rfl⟩
      · rw [Option.none_or]
        exact ih

theorem awaitReplyWithin_of_ended (method : String) (id n : Nat)
    (h : (t.poll c.conn s).1 = .ended) :
    ∃ w', awaitReplyWithin t method id (n + 1) (c, s) = (.error c.closed, w') := by
  have hlook := run_look t c s
  unfold run at hlook
  rcases hpoll : t.poll c.conn s with ⟨p, s'⟩
  rw [hpoll] at h hlook
  cases h
  rw [awaitReplyWithin_succ, hlook]
  exact ⟨_, rfl⟩

theorem awaitReplyWithin_of_pending (method : String) (id n : Nat)
    (h : t.poll c.conn s = (.pending, s')) :
    awaitReplyWithin t method id (n + 1) (c, s) = (.ok none, c, s') := by
  have hlook := run_look t c s
  unfold run at hlook
  rw [h] at hlook
  rw [awaitReplyWithin_succ, hlook]

/-- If the first looks decide the wait, it is over. -/
theorem awaitReply_of_decided {result : Except Error (Option Json)} {w' : Client × σ}
    (h : awaitReplyWithin t method id (t.patience c.conn s) (c, s) = (result, w'))
    (hresult : result ≠ .ok none) : awaitReply t method id (c, s) = (result, w') := by
  show (awaitReplyWithin t method id (t.patience c.conn s) >>= _) (c, s) = _
  rw [Action.bind_apply, h]
  rcases result with e | (_ | x)
  · rfl
  · exact absurd rfl hresult
  · rfl

/-- If they do not, the server gets the chance to deal with what it has been sent. -/
theorem awaitReply_of_undecided
    (h : awaitReplyWithin t method id (t.patience c.conn s) (c, s) = (.ok none, c, s')) :
    awaitReply t method id (c, s) =
      awaitReplyWithin t method id (t.patience c.conn (t.settle s')) (c, t.settle s') := by
  show (awaitReplyWithin t method id (t.patience c.conn s) >>= _) (c, s) = _
  rw [Action.bind_apply, h]
  rfl

theorem map_some_ne_ok_none (x : Except Error Json) : x.map some ≠ .ok none := by
  cases x <;> exact nofun

theorem Awaited.answer {m : Message} (h : firstAnswer? id lines = some m) :
    Awaited method id lines ((replyResult method m).map some) where
  of_answer m' hm' := by
    rw [h] at hm'
    cases hm'
    rfl
  of_none hnone := by
    rw [h] at hnone
    cases hnone

theorem Awaited.closed (h : firstAnswer? id lines = none) (c : Client) :
    Awaited method id lines (.error c.closed) where
  of_answer m hm := by
    rw [h] at hm
    cases hm
  of_none _ := .inr ⟨_, rfl⟩

/-- **A wait for which the server says enough** comes to the first answer, or to the end of the
stream. -/
theorem awaitReply_of_supplied (method : String) (h : Supplied t c.conn id lines s) :
    Awaited method id lines (awaitReply t method id (c, s)).1 := by
  cases h with
  | atOnce harrives hpatience hended =>
    obtain ⟨k, hk⟩ := Nat.exists_eq_add_of_lt hpatience
    rw [Nat.add_comm _ k] at hk
    rcases awaitReplyWithin_of_arrives harrives method id k with ⟨m, w', hm, hwait⟩ | ⟨hnone, hwait⟩
    · rw [← hk] at hwait
      rw [awaitReply_of_decided hwait (map_some_ne_ok_none _)]
      exact .answer hm
    · obtain ⟨w', hlast⟩ := awaitReplyWithin_of_ended method id k (hended hnone)
      rw [hlast, ← hk] at hwait
      rw [awaitReply_of_decided hwait nofun]
      exact .closed hnone c
  | @later lines more _ s₁ s₂ s' harrives hpatience hpending hmore hpatience' hended =>
    obtain ⟨k, hk⟩ := Nat.exists_eq_add_of_lt hpatience
    obtain ⟨k', hk'⟩ := Nat.exists_eq_add_of_lt hpatience'
    rw [Nat.add_comm _ k] at hk
    rw [Nat.add_comm _ k'] at hk'
    have hfirst := firstAnswer?_append id lines more
    rcases awaitReplyWithin_of_arrives harrives method id k with ⟨m, w', hm, hwait⟩ | ⟨hnone, hwait⟩
    · rw [← hk] at hwait
      rw [awaitReply_of_decided hwait (map_some_ne_ok_none _)]
      refine .answer ?_
      rw [hfirst, hm, Option.some_or]
    · -- the first looks bring no answer, so it is the lines behind them that count
      rw [← hk, awaitReplyWithin_of_pending method id k hpending] at hwait
      rw [awaitReply_of_undecided hwait, hk']
      rw [hnone, Option.none_or] at hfirst
      rcases awaitReplyWithin_of_arrives hmore method id k' with
        ⟨m, w', hm, hwait'⟩ | ⟨hnone', hwait'⟩
      · rw [hwait']
        exact .answer (hfirst.trans hm)
      · obtain ⟨w', hlast⟩ :=
          awaitReplyWithin_of_ended method id k' (hended (hfirst.trans hnone'))
        rw [hwait', hlast]
        exact .closed (hfirst.trans hnone') c

/-- The request is taken, and then the server says enough. -/
def Served (t : Transport σ) (conn : ConnId) (id : Nat) (request : Message) (lines : List String)
    (s : σ) : Prop :=
  ∃ s', t.send conn request.line s = (.ok (), s') ∧ Supplied t conn id lines s'

/-- A server that has lines to say, and takes everything. -/
def speaker : Transport (List String) where
  connect _ _ lines := (.ok 0, lines)
  send _ _ lines := (.ok (), lines)
  poll _ lines :=
    match lines with
    | [] => (.ended, [])
    | line :: rest => (.line line, rest)
  settle lines := lines
  patience _ lines := lines.length + 1

/-- There is no sequence of lines that a server could not say. -/
theorem served_speaker (conn : ConnId) (id : Nat) (request : Message) (lines : List String) :
    Served speaker conn id request lines lines := by
  have harrives : ∀ lines, Arrives speaker conn lines lines [] := by
    intro lines
    induction lines with
    | nil => exact .done
    | cons line rest ih =>
      refine .line rfl ?_ ih
      unfold Takes
      split
      · rfl
      · rfl
  exact ⟨lines, rfl, .atOnce (harrives lines) (Nat.lt_succ_self _) fun _ => rfl⟩

/-- The trace does not change what the server says. -/
theorem Supplied.traced {conn : ConnId} (h : Supplied t conn id lines s) (passed : List Crossing) :
    Supplied t.traced conn id lines ⟨s, passed⟩ := by
  cases h with
  | atOnce harrives hpatience hended =>
    exact .atOnce (harrives.traced passed) hpatience fun hnone =>
      traced_poll_of_ended (w := ⟨_, _⟩) (hended hnone)
  | later harrives hpatience hpending hmore hpatience' hended =>
    exact .later (harrives.traced passed) hpatience (traced_poll_of_pending (w := ⟨_, _⟩) hpending)
      (hmore.traced _) hpatience' fun hnone => traced_poll_of_ended (w := ⟨_, _⟩) (hended hnone)

theorem Served.traced {conn : ConnId} {request : Message} {w : Traced σ}
    (h : Served t conn id request lines w.world) : Served t.traced conn id request lines w := by
  obtain ⟨s', hsend, hsupplied⟩ := h
  exact ⟨_, traced_send_of_ok hsend, hsupplied.traced _⟩

theorem ask_of_served (params : Json)
    (h : Served t c.conn c.nextId (.request method params (.int c.nextId)) lines s) :
    Awaited method c.nextId lines (ask t method params (c, s)).1 := by
  obtain ⟨s', hsend, hsupplied⟩ := h
  have hrun := run_sendRequest t method params c s
  unfold run at hrun
  rw [hsend] at hrun
  unfold ask
  rw [Action.bind_ok hrun]
  exact awaitReply_of_supplied (c := { c with nextId := c.nextId + 1 }) method hsupplied

theorem bind_ofExcept_fst {ω α β : Type} (a : Action ω α) (f : α → Except Error β) (w : ω) :
    ((a >>= fun x => Action.ofExcept (f x)) w).1 = (a w).1.bind f := by
  rw [Action.bind_apply]
  rcases a w with ⟨e | x, w'⟩
  · rfl
  · simp only [Action.ofExcept_apply]
    rfl

theorem request_of_served (params : Json) (timeoutMs : Nat)
    (h : Served t c.conn c.nextId (.request method params (.int c.nextId)) lines s) :
    RequestOutcome method (firstAnswer? c.nextId lines)
      (request t method params timeoutMs (c, s)).1 := by
  rw [request_eq, bind_ofExcept_fst]
  exact (ask_of_served params h).request timeoutMs

theorem transact_of_served (params : Json) (timeoutMs : Nat)
    (h : Served t c.conn c.nextId (.request "transact" params (.int c.nextId)) lines s) :
    TransactOutcome (firstAnswer? c.nextId lines) (transact t params timeoutMs (c, s)).1 := by
  rw [transact_eq, bind_ofExcept_fst]
  exact (ask_of_served params h).transact timeoutMs

end Supplied

end BufferTelemetry.Rpc.Client
