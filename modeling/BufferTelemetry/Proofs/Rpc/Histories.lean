import BufferTelemetry.Proofs.Rpc.Requests

/-!
# Histories of a client

A client can be called in any order: it sends requests with and without waiting for them, it
sends notifications, and it takes in what the server has to say. Whatever has been called, the
requests are numbered from zero, so no number is given twice, and a request that waits is decided
by the first message that answers its own number (`history_request_decided`): replies to other
requests, late ones among them, requests and notifications of the server and lines that carry no
message are taken in before it and do not count.

* Taking in what the server says writes nothing but replies (`turns_receive`, `turns_drain`);
* a call writes at most one request, under the next number (`turns_call`);
* so the numbers of a history are distinct (`turns_history`).
-/

namespace BufferTelemetry.Rpc

/-- The numbers of the requests that are written. -/
def requestIds (turns : List Turn) : List Json :=
  turns.filterMap fun
    | .wrote _ (.request _ _ id) => some id
    | _ => none

theorem requestIds_append (turns more : List Turn) :
    requestIds (turns ++ more) = requestIds turns ++ requestIds more := List.filterMap_append

theorem requestIds_of_idle {conn : ConnId} {turns : List Turn} (h : Idle conn turns) :
    requestIds turns = [] := by
  refine List.filterMap_eq_nil_iff.2 ?_
  intro x hx
  rcases h x hx with ⟨line, rfl⟩ | ⟨result, id, rfl⟩ <;> rfl

namespace Client

variable {σ : Type} {t : Transport σ} {trace : σ → List Crossing}

/-! ## Listening -/

/-- Nothing is done but to take lines in and to answer them; only a failure can leave a line
without its reply. -/
def Listened {α : Type} (w : Client × σ) (result : Except Error α) (w' : Client × σ)
    (turns : List Turn) : Prop :=
  w'.1 = w.1 ∧ ∃ lines, Exchanged w.1.conn lines turns ∧
    ∀ x, result = .ok x → turns = exchanges w.1.conn lines

section Listening

variable {α β : Type}

theorem Listened.silent {w w' : Client × σ} {result : Except Error α} (hclient : w'.1 = w.1) :
    Listened w result w' [] :=
  ⟨hclient, [], .inl rfl, fun _ _ => rfl⟩

theorem turns_look_listened (ht : t.Traces trace) : Turns trace (look t) Listened :=
  (turns_look ht).imp fun _ _ _ _ ⟨hclient, lines, hbrings⟩ =>
    ⟨hclient, lines, hbrings.exchanged, fun _ hx => (hx ▸ hbrings).eq_exchanges⟩

/-- Parts that listen, one after the other, listen. -/
theorem turns_bind_listened {a : ClientAction σ α} {f : α → ClientAction σ β}
    (ha : Turns trace a Listened) (hf : ∀ x, Turns trace (f x) Listened) :
    Turns trace (a >>= f) Listened := by
  refine ha.bind hf ?_ ?_
  · rintro w e w' turns ⟨hclient, lines, hexchanged, -⟩
    exact ⟨hclient, lines, hexchanged, nofun⟩
  · rintro w x w' turns result w'' more ⟨hclient, lines, -, hall⟩
      ⟨hclient', rest, hexchanged, hall'⟩
    rw [hclient] at hclient' hexchanged hall'
    refine ⟨hclient', lines ++ rest, ?_, ?_⟩
    · rw [hall x rfl]
      exact hexchanged.prepend lines
    · intro y hy
      rw [hall x rfl, hall' y hy, exchanges_append]

theorem turns_silent_listened {a : ClientAction σ α} (htrace : ∀ w, trace (a w).2.2 = trace w.2)
    (hclient : ∀ w, (a w).2.1 = w.1) : Turns trace a Listened :=
  .of_log_eq htrace fun w => .silent (hclient w)

theorem turns_receiveWithin (ht : t.Traces trace) (n : Nat) :
    Turns trace (receiveWithin t n) Listened := by
  induction n with
  | zero => exact turns_silent_listened (fun _ => rfl) fun _ => rfl
  | succ n ih =>
    unfold receiveWithin
    refine turns_bind_listened (turns_look_listened ht) fun arrival => ?_
    cases arrival with
    | handled => exact ih
    | message | ended | nothing => exact turns_silent_listened (fun _ => rfl) fun _ => rfl

theorem turns_receive (ht : t.Traces trace) : Turns trace (receive t) Listened := by
  refine turns_patience fun n => turns_bind_listened (turns_receiveWithin ht n) fun arrival => ?_
  cases arrival with
  | nothing =>
    refine turns_bind_listened ?_ fun _ => turns_patience fun n => turns_receiveWithin ht n
    exact turns_silent_listened (fun w => ht.settle w.2) fun _ => rfl
  | message | ended | handled => exact turns_silent_listened (fun _ => rfl) fun _ => rfl

theorem turns_drainWithin (ht : t.Traces trace) (n : Nat) :
    Turns trace (drainWithin t n) Listened := by
  induction n with
  | zero => exact turns_silent_listened (fun _ => rfl) fun _ => rfl
  | succ n ih =>
    unfold drainWithin
    refine turns_bind_listened (turns_look_listened ht) fun arrival => ?_
    cases arrival with
    | message m =>
      exact turns_bind_listened ih fun _ => turns_silent_listened (fun _ => rfl) fun _ => rfl
    | handled => exact ih
    | nothing | ended => exact turns_silent_listened (fun _ => rfl) fun _ => rfl

theorem turns_drain (ht : t.Traces trace) : Turns trace (drain t) Listened :=
  turns_patience fun n => turns_drainWithin ht n

end Listening

/-! ## Histories -/

/-- A call of an operation of a client. -/
inductive Call where
  | post (method : String) (params : Json)
  | notify (method : String) (params : Json)
  | request (method : String) (params : Json) (timeoutMs : Nat)
  | transact (params : Json) (timeoutMs : Nat)
  | receive
  | drain

def Call.isRequest : Call → Bool
  | .post .. | .request .. | .transact .. => true
  | .notify .. | .receive | .drain => false

/-- The client and the world behind a call, whatever it has answered. -/
def Call.after (t : Transport σ) (w : Client × σ) : Call → Client × σ
  | .post method params => (sendRequest t method params w).2
  | .notify method params => (Client.notify t method params w).2
  | .request method params timeoutMs => (Client.request t method params timeoutMs w).2
  | .transact params timeoutMs => (Client.transact t params timeoutMs w).2
  | .receive => (Client.receive t w).2
  | .drain => (Client.drain t w).2

def history (t : Transport σ) (calls : List Call) (w : Client × σ) : Client × σ :=
  calls.foldl (Call.after t) w

/-- The client has made so many requests more, and the numbers that were written are among
theirs, in their order. -/
structure Numbered (trace : σ → List Crossing) (n : Nat) (w w' : Client × σ) (turns : List Turn) :
    Prop where
  client : w'.1 = { w.1 with nextId := w.1.nextId + n }
  trace : trace w'.2 = trace w.2 ++ turns.map Turn.crossing
  ids : (requestIds turns).Sublist ((List.range' w.1.nextId n).map fun (id : Nat) => Json.int id)

section History

variable {m n : Nat} {w w' w'' : Client × σ} {turns more : List Turn}

theorem Numbered.append (h : Numbered trace n w w' turns) (hmore : Numbered trace m w' w'' more) :
    Numbered trace (n + m) w w'' (turns ++ more) where
  client := by rw [hmore.client, h.client, Nat.add_assoc]
  trace := by rw [hmore.trace, h.trace, List.append_assoc, List.map_append]
  ids := by
    have hnext : w'.1.nextId = w.1.nextId + n := by rw [h.client]
    have hids := hmore.ids
    rw [hnext] at hids
    rw [requestIds_append, ← List.range'_append_1, List.map_append]
    exact h.ids.append hids

/-- What listens makes no request. -/
theorem numbered_of_listened {α : Type} {a : ClientAction σ α} (h : Turns trace a Listened)
    (w : Client × σ) : ∃ turns, Numbered trace 0 w (a w).2 turns := by
  obtain ⟨turns, hturns, hclient, lines, hexchanged, -⟩ := h w
  refine ⟨turns, hclient, hturns, ?_⟩
  rw [requestIds_of_idle hexchanged.idle]
  exact List.nil_sublist _

theorem numbered_of_asked {a : ClientAction σ Json} {method : String} {params : Json}
    {Outcome : Option Message → Except Error Json → Prop}
    (h : Turns trace a fun w result w' turns =>
      w'.1 = { w.1 with nextId := w.1.nextId + 1 } ∧
      Asked w.1.conn w.1.nextId (.request method params (.int w.1.nextId)) Outcome result turns)
    (w : Client × σ) : ∃ turns, Numbered trace 1 w (a w).2 turns := by
  obtain ⟨turns, hturns, hclient, hasked⟩ := h w
  refine ⟨turns, hclient, hturns, ?_⟩
  rcases hasked with ⟨rfl, -⟩ | ⟨lines, rest, rfl, hexchanged, -, -⟩
  · exact List.nil_sublist _
  · rw [← List.singleton_append, requestIds_append, requestIds_of_idle hexchanged.idle,
      List.append_nil]
    exact .refl _

/-- **A call** writes at most one request, under the next number. -/
theorem turns_call (ht : t.Traces trace) (call : Call) (w : Client × σ) :
    ∃ turns, Numbered trace (if call.isRequest then 1 else 0) w (call.after t w) turns := by
  cases call with
  | post method params =>
    obtain ⟨turns, hturns, hclient, ⟨-, rfl⟩ | ⟨-, rfl⟩⟩ := turns_sendRequest ht method params w
    · exact ⟨[], hclient, hturns, List.nil_sublist _⟩
    · exact ⟨_, hclient, hturns, .refl _⟩
  | notify method params =>
    have hgrows := ht.send w.1.conn (Message.notify method params).line w.2
    have hsend := run_send t (.notify method params) w.1 w.2
    unfold run at hsend
    show ∃ turns, Numbered trace 0 w (send t (.notify method params) w).2 turns
    rw [hsend]
    rcases heq : t.send w.1.conn (Message.notify method params).line w.2 with ⟨reason | _, s'⟩
    · rw [heq] at hgrows
      exact ⟨[], rfl, hgrows, .refl _⟩
    · rw [heq] at hgrows
      exact ⟨[.wrote w.1.conn (.notify method params)], rfl, hgrows, .refl _⟩
  | request method params timeoutMs =>
    exact numbered_of_asked (turns_request_decided ht method params timeoutMs) w
  | transact params timeoutMs =>
    exact numbered_of_asked (turns_transact_decided ht params timeoutMs) w
  | receive => exact numbered_of_listened (turns_receive ht) w
  | drain => exact numbered_of_listened (turns_drain ht) w

/-- **A history** numbers its requests one after the other. -/
theorem turns_history (ht : t.Traces trace) (calls : List Call) (w : Client × σ) :
    ∃ turns, Numbered trace (calls.countP Call.isRequest) w (history t calls w) turns := by
  induction calls generalizing w with
  | nil => exact ⟨[], rfl, (List.append_nil _).symm, .refl _⟩
  | cons call rest ih =>
    obtain ⟨turns, hcall⟩ := turns_call ht call w
    obtain ⟨more, hrest⟩ := ih (call.after t w)
    refine ⟨turns ++ more, ?_⟩
    rw [List.countP_cons, Nat.add_comm]
    exact hcall.append hrest

/-- A request that waits is decided by its own answer, on whatever transport, and comes to what
the server says if the server says enough. -/
structure DecidedByAnswer (t : Transport σ) (conn : ConnId) (id : Nat) (request : Message)
    (Outcome : Option Message → Except Error Json → Prop) (w : Client × Traced σ)
    (r : Except Error Json × Client × Traced σ) : Prop where
  asked : ∃ turns, r.2.2.trace = w.2.trace ++ turns.map Turn.crossing ∧
    Asked conn id request Outcome r.1 turns
  served : ∀ lines, Served t conn id request lines w.2.world → Outcome (firstAnswer? id lines) r.1

/-- **Requests and their own replies.** Whatever has been called on a connection, the requests
are numbered from zero in the order in which they were made, so the numbers on it are distinct,
and the next request has the next number. If it waits, then lines are taken in and echo requests
answered up to the first message that answers it by its number. A request returns the result of
a reply and the failure of an error reply, and a transaction returns a result unless an operation
reports an error in it; without an answer either fails as the transport does. -/
theorem history_request_decided (t : Transport σ) (endpoint : Endpoint) (conn : ConnId)
    (calls : List Call) (s : Traced σ) :
    let fresh : Client := { endpoint, conn, nextId := 0 }
    let id := calls.countP Call.isRequest
    let w := history t.traced calls (fresh, s)
    w.1 = { fresh with nextId := id } ∧
    (∃ turns, w.2.trace = s.trace ++ turns.map Turn.crossing ∧ (requestIds turns).Nodup ∧
      (requestIds turns).Sublist ((List.range id).map fun (k : Nat) => Json.int k)) ∧
    (∀ method params,
      let r := sendRequest t.traced method params w
      r.2.2.trace = w.2.trace ∧ (∃ reason, r.1 = .error (.transport reason)) ∨
      r.2.2.trace = w.2.trace ++
        [.written conn (Message.request method params (.int id)).line] ∧ r.1 = .ok id) ∧
    (∀ method params timeoutMs,
      DecidedByAnswer t conn id (.request method params (.int id)) (RequestOutcome method) w
        (request t.traced method params timeoutMs w)) ∧
    ∀ params timeoutMs,
      DecidedByAnswer t conn id (.request "transact" params (.int id)) TransactOutcome w
        (transact t.traced params timeoutMs w) := by
  intro fresh id w
  have ht := t.traced_traces
  obtain ⟨turns, hclient, htrace, hids⟩ := turns_history ht calls (fresh, s)
  have hw : w.1 = { fresh with nextId := id } := by
    rw [hclient]
    simp only [fresh, Nat.zero_add]
    rfl
  have hconn : w.1.conn = conn := by rw [hw]
  have hnext : w.1.nextId = id := by rw [hw]
  have hids : (requestIds turns).Sublist ((List.range id).map fun (k : Nat) => Json.int k) := by
    rw [List.range_eq_range']
    exact hids
  refine ⟨hw, ⟨turns, htrace, ?_, hids⟩, ?_, ?_, ?_⟩
  · refine hids.nodup (List.Pairwise.map _ ?_ List.nodup_range)
    intro k k' hne hk
    exact hne (Int.ofNat.inj (Json.int.inj hk))
  · intro method params
    obtain ⟨turns, hturns, -, ⟨hreason, rfl⟩ | ⟨hok, rfl⟩⟩ := turns_sendRequest ht method params w
    · exact .inl ⟨hturns.trans (List.append_nil _), hreason⟩
    · rw [hconn, hnext] at hturns
      exact .inr ⟨hturns, hok.trans (by rw [hnext])⟩
  · intro method params timeoutMs
    constructor
    · obtain ⟨turns, hturns, -, hasked⟩ := turns_request_decided ht method params timeoutMs w
      rw [hconn, hnext] at hasked
      exact ⟨turns, hturns, hasked⟩
    · intro lines hserved
      rw [← hconn, ← hnext] at hserved
      rw [← hnext]
      exact request_of_served params timeoutMs hserved.traced
  · intro params timeoutMs
    constructor
    · obtain ⟨turns, hturns, -, hasked⟩ := turns_transact_decided ht params timeoutMs w
      rw [hconn, hnext] at hasked
      exact ⟨turns, hturns, hasked⟩
    · intro lines hserved
      rw [← hconn, ← hnext] at hserved
      rw [← hnext]
      exact transact_of_served params timeoutMs hserved.traced

/-- A line that carries no message, the reply to a request that was not waited for, an echo
request with the number of that request, and the reply to the next one. -/
def lateReply : List String :=
  ["?", "\x7b\"id\":0,\"result\":\"late\",\"error\":null\x7d",
    "\x7b\"id\":0,\"method\":\"echo\",\"params\":[1]\x7d",
    "\x7b\"id\":1,\"result\":\"own\",\"error\":null\x7d"]

/-- The late reply to a request is not taken for the reply to the next one. -/
theorem history_request_decided_late_reply :
    let fresh : Client := { endpoint := .unix "db.sock", conn := 0, nextId := 0 }
    let w := history speaker.traced [.post "list_dbs" (.arr [])] (fresh, ⟨lateReply, []⟩)
    (request speaker.traced "list_dbs" (.arr []) 1000 w).1 = .ok (.str "own") := by
  intro fresh w
  obtain ⟨-, -, -, hrequest, -⟩ := history_request_decided speaker (.unix "db.sock") 0
    [.post "list_dbs" (.arr [])] ⟨lateReply, []⟩
  have hfirst : firstAnswer? 1 lateReply = some (.reply (.str "own") (.int 1)) := rfl
  have houtcome : RequestOutcome "list_dbs" (firstAnswer? 1 lateReply) _ :=
    (hrequest "list_dbs" (.arr []) 1000).served lateReply (served_speaker ..)
  rw [hfirst] at houtcome
  exact houtcome

end History

end Client

end BufferTelemetry.Rpc
