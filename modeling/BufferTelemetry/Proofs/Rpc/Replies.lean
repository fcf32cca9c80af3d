import BufferTelemetry.Proofs.Rpc.Turns

/-!
# Replies

A request is written under the next number of its client, and the wait for its reply is decided
by the first message that answers it: lines that bring no answer are taken in and, where they
are echo requests, answered, but they do not count (`turns_awaitReply`). A wait that takes no
answer in is late, or the connection has failed.
-/

namespace BufferTelemetry.Rpc

/-- The messages end with the first one that answers the request, if there is an answer. -/
def EndsWithAnswer (id : Nat) (ms : List Message) : Option Message → Prop
  | none => ∀ m ∈ ms, Client.answers id m = false
  | some m => Client.answers id m = true ∧
    ∃ before, ms = before ++ [m] ∧ ∀ b ∈ before, Client.answers id b = false

/-- There is only one answer that messages can end with. -/
theorem EndsWithAnswer.unique {id : Nat} {ms : List Message} {answer answer' : Option Message}
    (h : EndsWithAnswer id ms answer) (h' : EndsWithAnswer id ms answer') : answer = answer' := by
  have hno : ∀ m, EndsWithAnswer id ms none → ¬ EndsWithAnswer id ms (some m) := by
    rintro m hnone ⟨hanswers, before, rfl, -⟩
    have := hnone m (List.mem_append_right _ List.mem_cons_self)
    rw [hanswers] at this
    cases this
  cases answer with
  | none =>
    cases answer' with
    | none => rfl
    | some m' => exact absurd h' (hno m' h)
  | some m =>
    cases answer' with
    | none => exact absurd h (hno m h')
    | some m' =>
      obtain ⟨-, before, hms, -⟩ := h
      obtain ⟨-, before', hms', -⟩ := h'
      have hlast : ms.getLast? = some m := by rw [hms, List.getLast?_concat]
      rw [hms', List.getLast?_concat] at hlast
      exact hlast.symm

namespace Client

variable {σ : Type} {t : Transport σ} {trace : σ → List Crossing}

/-- An identifier is the number of a request exactly if it is written as that number. -/
theorem word?_toNat_eq_some_iff {rid : Json} {id : Nat} :
    rid.word?.map UInt64.toNat = some id ↔ id < UInt64.size ∧ rid = .int id := by
  rw [Option.map_eq_some_iff]
  constructor
  · rintro ⟨word, hword, rfl⟩
    unfold Json.word? at hword
    split at hword
    · rename_i n
      split at hword
      · rename_i hn
        cases hword
        rw [UInt64.toNat_ofNat_of_lt' hn]
        exact ⟨hn, rfl⟩
      · cases hword
    · cases hword
  · rintro ⟨hid, rfl⟩
    refine ⟨UInt64.ofNat id, ?_, UInt64.toNat_ofNat_of_lt' hid⟩
    show (if id < UInt64.size then some (UInt64.ofNat id) else none) = _
    rw [if_pos hid]

/-- Only replies and error replies answer a request, and by its own number. -/
theorem answers_iff (id : Nat) (m : Message) :
    answers id m = true ↔ id < UInt64.size ∧ m.replyId? = some (.int id) := by
  unfold answers
  rw [beq_iff_eq]
  cases m.replyId? with
  | none => exact iff_of_false nofun nofun
  | some rid => rw [Option.bind_some, word?_toNat_eq_some_iff, Option.some.injEq]

theorem answers_eq_false {id : Nat} {m : Message} (h : m.replyId? = none) :
    answers id m = false := by
  rw [answers, h]
  rfl

/-- The message of the first line that answers the request. -/
def firstAnswer? (id : Nat) (lines : List String) : Option Message :=
  (lines.filterMap lineMessage?).find? (answers id)

section FirstAnswer

variable {id : Nat} {lines : List String}

theorem firstAnswer?_append (id : Nat) (lines more : List String) :
    firstAnswer? id (lines ++ more) = (firstAnswer? id lines).or (firstAnswer? id more) := by
  rw [firstAnswer?, List.filterMap_append, List.find?_append]
  rfl

/-- Up to the first answer, messages end with it. -/
theorem endsWithAnswer_firstAnswer? (h : firstAnswer? id lines.dropLast = none) :
    EndsWithAnswer id (lines.filterMap lineMessage?) (firstAnswer? id lines) := by
  rcases List.eq_nil_or_concat lines with rfl | ⟨init, last, rfl⟩
  · exact nofun
  · rw [List.concat_eq_append] at h ⊢
    rw [List.dropLast_concat] at h
    have hinit : ∀ m ∈ init.filterMap lineMessage?, answers id m = false := by
      intro m hm
      exact eq_false_of_ne_true (List.find?_eq_none.1 h m hm)
    rw [firstAnswer?_append, h, Option.none_or, List.filterMap_append]
    cases hlast : lineMessage? last with
    | none =>
      simp only [firstAnswer?, List.filterMap_cons, hlast, List.filterMap_nil, List.find?_nil,
        List.append_nil]
      exact hinit
    | some m =>
      simp only [firstAnswer?, List.filterMap_cons, hlast, List.filterMap_nil, List.find?_singleton]
      split
      · rename_i hanswers
        exact ⟨hanswers, _, rfl, hinit⟩
      · rename_i hanswers
        intro m' hm'
        rcases List.mem_append.1 hm' with hm' | hm'
        · exact hinit m' hm'
        · rw [List.mem_singleton.1 hm']
          exact eq_false_of_ne_true hanswers

/-- What is not handed on is no reply. -/
theorem firstAnswer?_of_unhanded {line : String} (h : handed? line = none) :
    firstAnswer? id [line] = none := by
  refine List.find?_eq_none.2 ?_
  intro m hm
  obtain ⟨line', hmem, hm⟩ := List.mem_filterMap.1 hm
  rw [List.mem_singleton.1 hmem] at hm
  obtain ⟨reply, hreply⟩ := handed?_eq_none_iff.1 h m hm
  rw [answers_eq_false (of_echoReply? hreply).1]
  exact Bool.false_ne_true

theorem firstAnswer?_of_handed {line : String} {m : Message} (h : handed? line = some m) :
    firstAnswer? id [line] = if answers id m then some m else none := by
  rw [firstAnswer?, List.filterMap_cons, (handed?_eq_some_iff.1 h).1]
  exact List.find?_singleton

/-- A look that hands no answer on has taken none in. -/
theorem Brings.firstAnswer?_eq_none {conn : ConnId} {look : Look} {turns : List Turn}
    (h : Brings conn look lines turns)
    (hno : ∀ m, look = .ok (.message m) → answers id m = false) :
    firstAnswer? id lines = none := by
  cases h with
  | message hhanded =>
    rw [firstAnswer?_of_handed hhanded, hno _ rfl]
    rfl
  | handled hhanded => exact firstAnswer?_of_unhanded hhanded
  | nothing | ended | failed => rfl
  | unanswered _ hecho => exact firstAnswer?_of_unhanded (handed?_eq_none_of_echoed? hecho)

end FirstAnswer

/-- How the lines that are taken in decide a wait: with its answer, which is the last of them; or
without, when it is late or the connection fails. -/
inductive Decided (method : String) (id : Nat) (conn : ConnId) :
    Except Error (Option Json) → List String → List Turn → Prop
  | answered {lines : List String} {m : Message} : firstAnswer? id lines = some m →
      firstAnswer? id lines.dropLast = none →
      Decided method id conn ((replyResult method m).map some) lines (exchanges conn lines)
  | late {lines : List String} : firstAnswer? id lines = none →
      Decided method id conn (.ok none) lines (exchanges conn lines)
  | lost {lines : List String} {turns : List Turn} (reason : String) :
      firstAnswer? id lines = none → Exchanged conn lines turns →
      Decided method id conn (.error (.transport reason)) lines turns

namespace Decided

variable {method : String} {id : Nat} {conn : ConnId} {result : Except Error (Option Json)}
  {lines : List String} {turns : List Turn}

theorem exchanged (h : Decided method id conn result lines turns) :
    Exchanged conn lines turns := by
  cases h with
  | answered | late => exact .inl rfl
  | lost _ _ hexchanged => exact hexchanged

/-- A wait that takes an answer in returns what the answer says. -/
theorem result_of_answer {m : Message} (h : Decided method id conn result lines turns)
    (hm : firstAnswer? id lines = some m) : result = (replyResult method m).map some := by
  cases h with
  | answered hsome =>
    rw [hm] at hsome
    cases hsome
    rfl
  | late hnone | lost _ hnone =>
    rw [hm] at hnone
    cases hnone

theorem result_of_no_answer (h : Decided method id conn result lines turns)
    (hnone : firstAnswer? id lines = none) :
    result = .ok none ∨ ∃ reason, result = .error (.transport reason) := by
  cases h with
  | answered hsome =>
    rw [hnone] at hsome
    cases hsome
  | late => exact .inl rfl
  | lost reason => exact .inr ⟨reason, rfl⟩

/-- Behind the answer nothing is taken in. -/
theorem dropLast_eq_none (h : Decided method id conn result lines turns) :
    firstAnswer? id lines.dropLast = none := by
  have hdrop : firstAnswer? id lines = none → firstAnswer? id lines.dropLast = none := by
    intro hnone
    rcases List.eq_nil_or_concat lines with rfl | ⟨init, last, rfl⟩
    · rfl
    · rw [List.concat_eq_append] at hnone ⊢
      rw [firstAnswer?_append, Option.or_eq_none_iff] at hnone
      rw [List.dropLast_concat]
      exact hnone.1
  cases h with
  | answered _ hbefore => exact hbefore
  | late hnone | lost _ hnone => exact hdrop hnone

/-- Lines that bring no answer do not decide a wait. -/
theorem prepend {before : List String} (hno : firstAnswer? id before = none)
    (h : Decided method id conn result lines turns) :
    Decided method id conn result (before ++ lines) (exchanges conn before ++ turns) := by
  have hfirst : ∀ more, firstAnswer? id (before ++ more) = firstAnswer? id more := by
    intro more
    rw [firstAnswer?_append, hno, Option.none_or]
  cases h with
  | answered hsome hbefore =>
    have hne : lines ≠ [] := by
      rintro rfl
      cases hsome
    rw [← exchanges_append]
    refine .answered ((hfirst lines).trans hsome) ?_
    rw [List.dropLast_append_of_ne_nil hne, hfirst]
    exact hbefore
  | late hnone =>
    rw [← exchanges_append]
    exact .late ((hfirst lines).trans hnone)
  | lost reason hnone hexchanged =>
    exact .lost reason ((hfirst lines).trans hnone) (hexchanged.prepend before)

end Decided

/-- A wait takes in what comes up to the answer. -/
theorem turns_awaitReplyWithin (ht : t.Traces trace) (method : String) (id n : Nat) :
    Turns trace (awaitReplyWithin t method id n) fun w result w' turns =>
      w'.1 = w.1 ∧ ∃ lines, Decided method id w.1.conn result lines turns := by
  induction n with
  | zero => exact .pure fun _ => ⟨rfl, [], .late rfl⟩
  | succ n ih =>
    unfold awaitReplyWithin
    -- either the look brings the answer, or the wait goes on behind it
    refine (turns_look ht).bind (R := fun arrival w result w' turns => w'.1 = w.1 ∧
      ((∃ m, arrival = .message m ∧ answers id m = true ∧ turns = [] ∧
        result = (replyResult method m).map some) ∨
      ((∀ m, arrival = .message m → answers id m = false) ∧
        ∃ lines, Decided method id w.1.conn result lines turns))) ?_ ?_ ?_
    · intro arrival
      cases arrival with
      | message m =>
        dsimp only
        split
        · rename_i hanswers
          have hrun : ∀ w, (some <$> Action.ofExcept (replyResult method m) :
              ClientAction σ (Option Json)) w = ((replyResult method m).map some, w) := by
            intro w
            cases replyResult method m <;> rfl
          refine .of_log_eq (fun w => by rw [hrun]) fun w => ?_
          rw [hrun]
          exact ⟨rfl, .inl ⟨m, rfl, hanswers, rfl, rfl⟩⟩
        · rename_i hanswers
          refine ih.imp fun w result w' turns ⟨hclient, hdecided⟩ => ⟨hclient, .inr ⟨?_, hdecided⟩⟩
          intro m' hm'
          cases hm'
          exact eq_false_of_ne_true hanswers
      | handled =>
        exact ih.imp fun w result w' turns ⟨hclient, hdecided⟩ =>
          ⟨hclient, .inr ⟨nofun, hdecided⟩⟩
      | nothing => exact .pure fun w => ⟨rfl, .inr ⟨nofun, [], .late rfl⟩⟩
      | ended =>
        exact .of_log_eq (fun _ => rfl) fun w => ⟨rfl, .inr ⟨nofun, [], .lost _ rfl (.inl rfl)⟩⟩
    · rintro w e w' turns ⟨hclient, lines, hbrings⟩
      refine ⟨hclient, lines, ?_⟩
      have hno : firstAnswer? id lines = none := hbrings.firstAnswer?_eq_none nofun
      have hexchanged := hbrings.exchanged
      cases hbrings with
      | failed reason => exact .lost reason hno hexchanged
      | unanswered reason => exact .lost reason hno hexchanged
    · rintro w arrival w' turns result w'' more ⟨hclient, lines, hbrings⟩ ⟨hclient', hrest⟩
      refine ⟨hclient'.trans hclient, ?_⟩
      rw [hbrings.eq_exchanges]
      rcases hrest with ⟨m, rfl, hanswers, rfl, rfl⟩ | ⟨hno, rest, hdecided⟩
      · rw [List.append_nil]
        cases hbrings with
        | @message line _ hhanded =>
          refine ⟨[line], .answered ?_ rfl⟩
          rw [firstAnswer?_of_handed hhanded, hanswers]
          rfl
      · rw [hclient] at hdecided
        refine ⟨lines ++ rest, hdecided.prepend (hbrings.firstAnswer?_eq_none ?_)⟩
        intro m hm
        exact hno m (Except.ok.inj hm)

/-- Asking how long to wait takes no turn. -/
theorem turns_patience {α : Type} {f : Nat → ClientAction σ α}
    {Q : Client × σ → Except Error α → Client × σ → List Turn → Prop}
    (h : ∀ n, Turns trace (f n) Q) : Turns trace (patience t >>= f) Q := by
  refine .bind_silent (P := fun w result w' => (∃ n, result = .ok n) ∧ w' = w) (fun _ => rfl)
    (fun _ => ⟨⟨_, rfl⟩, rfl⟩) h ?_ ?_
  · rintro w e w' ⟨⟨n, hn⟩, -⟩
    cases hn
  · rintro w n w' result w'' turns ⟨-, rfl⟩ hq
    exact hq

/-- **A wait for a reply** is decided by the first answer, whatever comes before it. It takes a
second look behind what the server has to say. -/
theorem turns_awaitReply (ht : t.Traces trace) (method : String) (id : Nat) :
    Turns trace (awaitReply t method id) fun w result w' turns =>
      w'.1 = w.1 ∧ ∃ lines, Decided method id w.1.conn result lines turns := by
  have hwithin := turns_awaitReplyWithin ht method id
  refine turns_patience fun n => ?_
  refine (hwithin n).bind (R := fun first w result w' turns => w'.1 = w.1 ∧
    ((∃ x, first = some x ∧ result = .ok (some x) ∧ turns = []) ∨
    (first = none ∧ ∃ lines, Decided method id w.1.conn result lines turns))) ?_ ?_ ?_
  · intro first
    cases first with
    | some x => exact .pure fun w => ⟨rfl, .inl ⟨x, rfl, rfl, rfl⟩⟩
    | none =>
      refine .bind_silent (P := fun w result w' => (∃ x, result = .ok x) ∧ w'.1 = w.1)
        (fun w => ht.settle w.2) (fun _ => ⟨⟨_, rfl⟩, rfl⟩)
        (fun _ => turns_patience hwithin) ?_ ?_
      · rintro w e w' ⟨⟨x, hx⟩, -⟩
        cases hx
      · rintro w x w' result w'' turns ⟨-, hclient⟩ ⟨hclient', hdecided⟩
        rw [hclient] at hclient' hdecided
        exact ⟨hclient', .inr ⟨rfl, hdecided⟩⟩
  · intro w e w' turns h
    exact h
  · rintro w first w' turns result w'' more ⟨hclient, lines, hfirst⟩ ⟨hclient', hrest⟩
    refine ⟨hclient'.trans hclient, ?_⟩
    rcases hrest with ⟨x, rfl, rfl, rfl⟩ | ⟨rfl, rest, hdecided⟩
    · rw [List.append_nil]
      exact ⟨lines, hfirst⟩
    · generalize hresult : (Except.ok none : Except Error (Option Json)) = firstResult at hfirst
      cases hfirst with
      | @answered _ m => cases hm : replyResult method m <;> simp [hm, Except.map] at hresult
      | late hnone =>
        rw [hclient] at hdecided
        exact ⟨lines ++ rest, hdecided.prepend hnone⟩
      | lost => cases hresult

/-- A request takes the next number, and is the only thing that is written with it. -/
theorem turns_sendRequest (ht : t.Traces trace) (method : String) (params : Json) :
    Turns trace (sendRequest t method params) fun w result w' turns =>
      w'.1 = { w.1 with nextId := w.1.nextId + 1 } ∧
      ((∃ reason, result = .error (.transport reason)) ∧ turns = [] ∨
        result = .ok w.1.nextId ∧
          turns = [.wrote w.1.conn (.request method params (.int w.1.nextId))]) := by
  intro (c, s)
  have hgrows := ht.send c.conn (Message.request method params (.int c.nextId)).line s
  have hrun := run_sendRequest t method params c s
  unfold run at hrun
  rw [hrun]
  rcases heq : t.send c.conn (Message.request method params (.int c.nextId)).line s with
    ⟨reason | _, s'⟩
  · rw [heq] at hgrows
    exact ⟨[], hgrows, rfl, .inl ⟨⟨reason, rfl⟩, rfl⟩⟩
  · rw [heq] at hgrows
    exact ⟨[.wrote c.conn (.request method params (.int c.nextId))], hgrows, rfl, .inr ⟨rfl, rfl⟩⟩

/-- **A request and the wait for its reply.** If it can be written, what the server says behind
it decides the wait. -/
theorem turns_ask (ht : t.Traces trace) (method : String) (params : Json) :
    Turns trace (ask t method params) fun w result w' turns =>
      w'.1 = { w.1 with nextId := w.1.nextId + 1 } ∧
      ((∃ reason, result = .error (.transport reason)) ∧ turns = [] ∨
        ∃ lines rest, turns = .wrote w.1.conn (.request method params (.int w.1.nextId)) :: rest ∧
          Decided method w.1.nextId w.1.conn result lines rest) := by
  refine (turns_sendRequest ht method params).bind (turns_awaitReply ht method) ?_ ?_
  · rintro w e w' turns ⟨hclient, ⟨⟨reason, he⟩, rfl⟩ | ⟨he, -⟩⟩
    · cases he
      exact ⟨hclient, .inl ⟨⟨reason, rfl⟩, rfl⟩⟩
    · cases he
  · rintro w id w' turns result w'' more ⟨hclient, ⟨⟨reason, he⟩, -⟩ | ⟨hid, rfl⟩⟩
      ⟨hclient', lines, hdecided⟩
    · cases he
    · cases hid
      rw [hclient] at hclient' hdecided
      exact ⟨hclient', .inr ⟨lines, more, rfl, hdecided⟩⟩

end Client

end BufferTelemetry.Rpc
