import BufferTelemetry.Proofs.Rpc.Requests

/-!
# Conversations with the server

Transactions that are sent on one connection, of which the last waits for its reply, are a
`Conversation`: they are written in turn, and behind them there is nothing but lines that are
taken in and replies to echo requests. A conversation is `Acknowledged` if all of them were
written and the first message that answers the last one does not report a failure, and exactly
then the client reports none (`Transacted`, `turns_transact`).
-/

namespace BufferTelemetry.Rpc

/-- Whether a message reports a failure: it is an error reply, or an operation of the
transaction whose result it brings has an error. -/
def Message.reportsFailure : Message → Bool
  | .error .. => true
  | .reply result _ => (result.items?.getD []).any fun op => (op.get? "error").isSome
  | _ => false

/-- The turns in which transactions are sent, numbered from the given number. -/
def requests (conn : ConnId) (id : Nat) : List Json → List Turn
  | [] => []
  | params :: rest =>
    .wrote conn (.request "transact" params (.int id)) :: requests conn (id + 1) rest

theorem requests_append (conn : ConnId) (id : Nat) (ps qs : List Json) :
    requests conn id (ps ++ qs) = requests conn id ps ++ requests conn (id + ps.length) qs := by
  induction ps generalizing id with
  | nil => rfl
  | cons p rest ih =>
    rw [List.cons_append, requests, requests, ih, List.length_cons, List.cons_append,
      Nat.add_right_comm, Nat.add_assoc]

theorem heard_requests (conn : ConnId) (id : Nat) (params : List Json) :
    heard (requests conn id params) = [] := by
  induction params generalizing id with
  | nil => rfl
  | cons p rest ih => exact ih (id + 1)

section Conversations

variable {α β : Type} {conn : ConnId} {id : Nat} {params ps qs : List Json}
  {turns rest : List Turn}

/-- Transactions are sent on a connection in turn, and once the last of them has been sent
nothing more is but replies. -/
def Conversation (conn : ConnId) (id : Nat) (params : List Json) (turns : List Turn) : Prop :=
  turns <+: requests conn id params ∨
    ∃ rest, turns = requests conn id params ++ rest ∧ Idle conn rest

/-- All transactions have been sent, and the answer to the last of them, which ends the
conversation, reports no failure. -/
def Acknowledged (conn : ConnId) (id : Nat) (params : List Json) (turns : List Turn) : Prop :=
  ∃ rest answer, turns = requests conn id params ++ rest ∧
    EndsWithAnswer (id + params.length - 1) (heard rest) (some answer) ∧
    answer.reportsFailure = false

/-- Nothing that answers the last transaction of an acknowledged conversation reports a
failure. -/
theorem Acknowledged.of_answers (h : Acknowledged conn id params turns) {m : Message}
    (hm : m ∈ heard turns) (hanswers : Client.answers (id + params.length - 1) m = true) :
    m.reportsFailure = false := by
  obtain ⟨rest, answer, rfl, ⟨-, before, hheard, hbefore⟩, hanswer⟩ := h
  rw [heard_append, heard_requests, List.nil_append, hheard] at hm
  rcases List.mem_append.1 hm with hm | hm
  · rw [hbefore m hm] at hanswers
    cases hanswers
  · rw [List.mem_singleton.1 hm]
    exact hanswer

/-- Where the answer to the last transaction is known, acknowledgement depends on it. -/
theorem acknowledged_iff (conn : ConnId) (id : Nat) (params : List Json)
    {answer : Option Message} (h : EndsWithAnswer (id + params.length - 1) (heard rest) answer) :
    Acknowledged conn id params (requests conn id params ++ rest) ↔
      ∃ m, answer = some m ∧ m.reportsFailure = false := by
  constructor
  · rintro ⟨rest', m, heq, hends, hm⟩
    rw [List.append_cancel_left_eq] at heq
    rw [← heq] at hends
    exact ⟨m, h.unique hends, hm⟩
  · rintro ⟨m, rfl, hm⟩
    exact ⟨rest, m, rfl, h, hm⟩

theorem not_acknowledged_of_unfinished (h : turns <+: requests conn id params) :
    ¬ Acknowledged conn id params turns := by
  rintro ⟨rest, answer, rfl, ⟨-, before, hheard, -⟩, -⟩
  have hlength := h.length_le
  rw [List.length_append] at hlength
  have hnil : rest = [] := List.eq_nil_of_length_eq_zero (by omega)
  rw [hnil] at hheard
  simp [heard] at hheard

/-- Transactions whose failure is reported: they make a conversation, which succeeds exactly
if it is acknowledged. -/
structure Transacted (conn : ConnId) (id : Nat) (params : List Json) (result : Except Error α)
    (turns : List Turn) : Prop where
  conversation : Conversation conn id params turns
  ok_iff : (∃ x, result = .ok x) ↔ Acknowledged conn id params turns

theorem Transacted.error {e : Error} (h : turns <+: requests conn id params) :
    Transacted conn id params (.error e : Except Error α) turns :=
  ⟨.inl h, iff_of_false nofun (not_acknowledged_of_unfinished h)⟩

/-- What is answered does not count, only whether it is a failure. -/
theorem Transacted.of_ok {x : α} (h : Transacted conn id params (.ok x : Except Error α) turns)
    (y : β) : Transacted conn id params (.ok y : Except Error β) turns :=
  ⟨h.conversation, (iff_of_true ⟨y, rfl⟩ ⟨x, rfl⟩).trans h.ok_iff⟩

theorem Transacted.of_error {e : Error}
    (h : Transacted conn id params (.error e : Except Error α) turns) :
    Transacted conn id params (.error e : Except Error β) turns :=
  ⟨h.conversation, (iff_of_false nofun nofun).trans h.ok_iff⟩

/-- Transactions that are sent before others are sent first. -/
theorem Transacted.prepend {result : Except Error α}
    (h : Transacted conn (id + ps.length) qs result turns) :
    Transacted conn id (ps ++ qs) result (requests conn id ps ++ turns) := by
  have hlast : id + (ps ++ qs).length - 1 = id + ps.length + qs.length - 1 := by
    rw [List.length_append, Nat.add_assoc]
  refine ⟨?_, h.ok_iff.trans ⟨?_, ?_⟩⟩
  · rcases h.conversation with hprefix | ⟨rest, rfl, hidle⟩
    · refine .inl ?_
      rw [requests_append]
      exact (List.prefix_append_right_inj _).2 hprefix
    · exact .inr ⟨rest, by rw [requests_append, List.append_assoc], hidle⟩
  · rintro ⟨rest, answer, rfl, hends, hanswer⟩
    refine ⟨rest, answer, by rw [requests_append, List.append_assoc], ?_, hanswer⟩
    rw [hlast]
    exact hends
  · rintro ⟨rest, answer, heq, hends, hanswer⟩
    rw [requests_append, List.append_assoc, List.append_cancel_left_eq] at heq
    rw [hlast] at hends
    exact ⟨rest, answer, heq, hends, hanswer⟩

end Conversations

namespace Client

variable {σ : Type} {t : Transport σ} {trace : σ → List Crossing}

theorem turns_sendTransaction (ht : t.Traces trace) (params : Json) :
    Turns trace (sendTransaction t params) fun w result w' turns =>
      ((∃ e, result = .error e) ∧ turns = []) ∨
      (result = .ok w.1.nextId ∧ w'.1 = { w.1 with nextId := w.1.nextId + 1 } ∧
        turns = requests w.1.conn w.1.nextId [params]) := by
  refine (turns_sendRequest ht "transact" params).imp ?_
  rintro w result w' turns ⟨hclient, ⟨⟨reason, rfl⟩, rfl⟩ | ⟨rfl, rfl⟩⟩
  · exact .inl ⟨⟨_, rfl⟩, rfl⟩
  · exact .inr ⟨rfl, hclient, rfl⟩

/-- What a transaction comes to is a result exactly if the message that answers it reports no
failure. -/
theorem TransactOutcome.ok_iff {answer : Option Message} {result : Except Error Json}
    (h : TransactOutcome answer result) (hreply : ∀ m, answer = some m → m.replyId? ≠ none) :
    (∃ x, result = .ok x) ↔ ∃ m, answer = some m ∧ m.reportsFailure = false := by
  cases answer with
  | none =>
    obtain ⟨reason, rfl⟩ := h
    exact iff_of_false nofun nofun
  | some m =>
    simp only [Option.some.injEq, exists_eq_left']
    cases m with
    | request | notify => exact absurd rfl (hreply _ rfl)
    | error e rid =>
      cases h
      exact iff_of_false nofun nofun
    | reply x rid =>
      obtain ⟨hok, hfailure⟩ := h
      rw [Message.reportsFailure, ← checkTransaction_eq_ok_iff,
        checkTransaction_eq_ok_iff_errorFree]
      constructor
      · rintro ⟨y, rfl⟩
        refine Classical.byContradiction fun herror => ?_
        obtain ⟨reason, he⟩ := hfailure herror
        cases he
      · exact fun hfree => ⟨x, hok hfree⟩

/-- What decides a transaction is what acknowledges it. -/
theorem transacted_of_asked {conn : ConnId} {id : Nat} {params : Json}
    {result : Except Error Json} {turns : List Turn}
    (h : Asked conn id (.request "transact" params (.int id)) TransactOutcome result turns) :
    Transacted conn id [params] result turns := by
  rcases h with ⟨rfl, reason, rfl⟩ | ⟨lines, rest, rfl, hexchanged, hbefore, houtcome⟩
  · exact .error List.nil_prefix
  · have hends : EndsWithAnswer id (heard rest) (firstAnswer? id lines) := by
      rw [hexchanged.heard_eq]
      exact endsWithAnswer_firstAnswer? hbefore
    refine ⟨.inr ⟨rest, rfl, hexchanged.idle⟩, ?_⟩
    refine Iff.trans (houtcome.ok_iff ?_) (acknowledged_iff conn id [params] hends).symm
    intro m hm
    rw [((answers_iff id m).1 (List.find?_some hm)).2]
    exact Option.some_ne_none _

/-- **A transaction** that waits for its result succeeds exactly if it is acknowledged. -/
theorem turns_transact (ht : t.Traces trace) (params : Json) (timeoutMs : Nat) :
    Turns trace (transact t params timeoutMs) fun w result _ turns =>
      Transacted w.1.conn w.1.nextId [params] result turns :=
  (turns_transact_decided ht params timeoutMs).imp fun _ _ _ _ ⟨_, hasked⟩ =>
    transacted_of_asked hasked

end Client

end BufferTelemetry.Rpc
