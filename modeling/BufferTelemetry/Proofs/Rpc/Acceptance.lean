import BufferTelemetry.Proofs.Rpc.Arrivals
import BufferTelemetry.Proofs.Rpc.Conversations

/-!
# What goes out on a transport that takes it

A transport that opens every connection and takes every line is `Accepting`, whatever the server
says on it. Requests do not fail to go out there (`turns_sendRequest_accepted`), and one that is
waited for is written before anything else (`turns_transact_accepted`).
-/

namespace BufferTelemetry.Rpc

/-- The transport opens every connection and takes every line. -/
structure Accepting {σ : Type} (t : Transport σ) : Prop where
  connect : ∀ endpoint limit s, ∃ conn s', t.connect endpoint limit s = (.ok conn, s')
  send : ∀ conn line s, ∃ s', t.send conn line s = (.ok (), s')

theorem Accepting.traced {σ : Type} {t : Transport σ} (h : Accepting t) : Accepting t.traced where
  connect endpoint limit w := by
    obtain ⟨conn, s', hconnect⟩ := h.connect endpoint limit w.world
    exact ⟨conn, ⟨s', w.trace⟩, by simp only [Transport.traced, hconnect]⟩
  send conn line w := by
    obtain ⟨s', hsend⟩ := h.send conn line w.world
    exact ⟨_, Client.traced_send_of_ok hsend⟩

namespace Client

variable {σ : Type} {t : Transport σ} {trace : σ → List Crossing}

theorem turns_sendRequest_accepted (ht : t.Traces trace) (ha : Accepting t) (method : String)
    (params : Json) :
    Turns trace (sendRequest t method params) fun w result w' turns =>
      result = .ok w.1.nextId ∧ w'.1 = { w.1 with nextId := w.1.nextId + 1 } ∧
        turns = [.wrote w.1.conn (.request method params (.int w.1.nextId))] := by
  intro w
  obtain ⟨turns, hturns, hclient, ⟨⟨reason, he⟩, -⟩ | ⟨hok, hwrote⟩⟩ :=
    turns_sendRequest ht method params w
  · obtain ⟨s', hsend⟩ := ha.send w.1.conn
      (Message.request method params (.int w.1.nextId)).line w.2
    have hrun := run_sendRequest t method params w.1 w.2
    unfold run at hrun
    rw [hrun, hsend] at he
    cases he
  · exact ⟨turns, hturns, hok, hclient, hwrote⟩

/-- A transaction that is waited for is written first. -/
theorem turns_transact_accepted (ht : t.Traces trace) (ha : Accepting t) (params : Json)
    (timeoutMs : Nat) :
    Turns trace (transact t params timeoutMs) fun w _ _ turns =>
      ∃ rest, turns = requests w.1.conn w.1.nextId [params] ++ rest ∧ Idle w.1.conn rest := by
  have hask : Turns trace (ask t "transact" params) fun w _ _ turns =>
      ∃ rest, turns = requests w.1.conn w.1.nextId [params] ++ rest ∧ Idle w.1.conn rest := by
    refine (turns_sendRequest_accepted ht ha "transact" params).bind
      (turns_awaitReply ht "transact") ?_ ?_
    · rintro w e w' turns ⟨he, -⟩
      cases he
    · rintro w id w' turns result w'' more ⟨-, hclient, rfl⟩ ⟨-, lines, hdecided⟩
      have hidle : Idle w'.1.conn more := hdecided.exchanged.idle
      rw [hclient] at hidle
      exact ⟨more, rfl, hidle⟩
  rw [transact_eq]
  refine hask.bind (R := fun _ _ _ _ turns => turns = []) ?_ ?_ ?_
  · exact fun _ => .of_log_eq (fun w => by rw [Action.ofExcept_apply]) fun _ => rfl
  · exact fun _ _ _ _ h => h
  · rintro w x w' turns result w'' more ⟨rest, rfl, hidle⟩ rfl
    exact ⟨rest, List.append_nil _, hidle⟩

end Client

end BufferTelemetry.Rpc
