import BufferTelemetry.Proofs.Commit.KeptConnection
import BufferTelemetry.Threshold

/-!
# Thresholds that go out in turn

A commit of a threshold fails only as the transport does (`failsAsTransport_commitThreshold`): when
no connection can be opened, or the one that has just been opened fails. That a connection which
was kept has failed does not show, as the commit is then made again. Of commits in turn each sends
its transaction once, up to the first that fails, and with its last contact all ends
(`contacts_forM`).
-/

namespace BufferTelemetry

/-! ## Failures of the transport -/

namespace Action

/-- When the action fails, it is the transport that has failed. -/
def FailsAsTransport {ω α : Type} (a : Action ω α) : Prop :=
  ∀ w e, (a w).1 = .error e → ∃ reason, e = .transport reason

namespace FailsAsTransport

variable {ω ω' α β : Type} {a : Action ω α} {f : α → Action ω β}

theorem of_ok (h : ∀ w, ∃ x, (a w).1 = .ok x) : FailsAsTransport a := by
  intro w e he
  obtain ⟨x, hx⟩ := h w
  rw [hx] at he
  cases he

theorem pure (x : α) : FailsAsTransport (Pure.pure x : Action ω α) := of_ok fun _ => ⟨x, rfl⟩

theorem throw (reason : String) :
    FailsAsTransport (MonadExcept.throw (Error.transport reason) : Action ω α) := by
  intro w e he
  cases he
  exact ⟨reason, rfl⟩

theorem bind (h : FailsAsTransport a) (hf : ∀ x, FailsAsTransport (f x)) :
    FailsAsTransport (a >>= f) := by
  intro w e he
  rw [bind_apply] at he
  rcases haw : a w with ⟨e' | x, w'⟩
  · rw [haw] at he
    have heq : e' = e := Except.error.inj he
    exact heq ▸ h w e' (by rw [haw])
  · rw [haw] at he
    exact hf x w' e he

/-- Only the failure of the handler shows. -/
theorem tryCatch {handle : Error → Action ω α} (h : ∀ e, FailsAsTransport (handle e)) :
    FailsAsTransport (MonadExcept.tryCatch a handle) := by
  intro w e he
  rw [tryCatch_apply] at he
  rcases haw : a w with ⟨e' | x, w'⟩
  · rw [haw] at he
    exact h e' w' e he
  · rw [haw] at he
    cases he

theorem forM {commit : α → Action ω Unit} (h : ∀ x, FailsAsTransport (commit x)) (l : List α) :
    FailsAsTransport (l.forM commit) := by
  induction l with
  | nil => exact .pure ()
  | cons x rest ih => exact (h x).bind fun _ => ih

theorem within {part : ω' → ω} {replace : ω' → ω → ω'} (h : FailsAsTransport a) :
    FailsAsTransport (Action.within part replace a) :=
  fun w e he => h (part w) e he

end FailsAsTransport

end Action

namespace Rpc.Client

variable {σ : Type} (t : Transport σ)

theorem failsAsTransport_send (m : Message) : (send t m).FailsAsTransport := by
  rintro ⟨c, s⟩ e he
  have hsend := run_send t m c s
  unfold run at hsend
  rw [hsend] at he
  rcases heq : t.send c.conn m.line s with ⟨reason | _, s'⟩
  · rw [heq] at he
    cases he
    exact ⟨reason, rfl⟩
  · rw [heq] at he
    cases he

theorem failsAsTransport_accept (text : String) : (accept t text).FailsAsTransport := by
  unfold accept
  split
  · exact (failsAsTransport_send t _).bind fun _ => .pure _
  · exact .pure _
  · exact .pure _

theorem failsAsTransport_look : (look t).FailsAsTransport := by
  unfold look
  refine .bind (.of_ok fun _ => ⟨_, rfl⟩) ?_
  intro p
  cases p with
  | line text => exact failsAsTransport_accept t text
  | pending => exact .pure _
  | ended => exact .pure _
  | failed e => exact .throw _

theorem failsAsTransport_drain : (drain t).FailsAsTransport := by
  have hwithin : ∀ n, (drainWithin t n).FailsAsTransport := by
    intro n
    induction n with
    | zero => exact .pure _
    | succ n ih =>
      unfold drainWithin
      refine (failsAsTransport_look t).bind ?_
      intro arrival
      cases arrival with
      | message m => exact ih.bind fun _ => .pure _
      | handled => exact ih
      | nothing => exact .pure _
      | ended => exact .bind (.of_ok fun _ => ⟨_, rfl⟩) fun _ => .throw _
  exact .bind (.of_ok fun _ => ⟨_, rfl⟩) hwithin

theorem failsAsTransport_sendRequest (method : String) (params : Json) :
    (sendRequest t method params).FailsAsTransport :=
  .bind (.of_ok fun _ => ⟨_, rfl⟩) fun _ =>
    .bind (.of_ok fun _ => ⟨_, rfl⟩) fun _ => (failsAsTransport_send t _).bind fun _ => .pure _

theorem failsAsTransport_connect (endpoint : Endpoint) (limit : Nat) :
    (connect t endpoint limit).FailsAsTransport := by
  intro s e he
  unfold connect at he
  rcases heq : t.connect endpoint limit s with ⟨reason | conn, s'⟩
  · rw [heq] at he
    cases he
    exact ⟨reason, rfl⟩
  · rw [heq] at he
    cases he

end Rpc.Client

namespace Database

open Rpc

namespace Access

variable {σ : Type} (t : Transport σ) (a : Access)

theorem failsAsTransport_sendKept (params : Json) (c : Client) :
    (sendKept t params c).FailsAsTransport := by
  have hsend : (sendThreshold t params).FailsAsTransport :=
    (Client.failsAsTransport_drain t).bind fun _ =>
      (Client.failsAsTransport_sendRequest t _ _).bind fun _ => .pure _
  intro o e he
  unfold sendKept ExceptT.run at he
  rcases heq : sendThreshold t params (c, o.world) with ⟨e' | _, c', s⟩
  · rw [heq] at he
    have hsame : e' = e := Except.error.inj he
    exact hsame ▸ hsend _ e' (by rw [heq])
  · rw [heq] at he
    cases he

theorem failsAsTransport_sendFresh (params : Json) : (a.sendFresh t params).FailsAsTransport :=
  .bind (.within (Client.failsAsTransport_connect t _ _)) fun c =>
    failsAsTransport_sendKept t params c

/-- **Failure of a commit.** A commit of a threshold fails only as the transport does. -/
theorem failsAsTransport_commitThreshold (c : Counter) (value : UInt64) :
    (a.commitThreshold t c value).FailsAsTransport := by
  refine .bind (.of_ok fun o => ⟨o, rfl⟩) ?_
  intro o
  cases o.kept with
  | none => exact failsAsTransport_sendFresh t a _
  | some client => exact .tryCatch fun _ => failsAsTransport_sendFresh t a _

end Access

/-! ## Commits in turn -/

/-- What was done last has failed. -/
def EndsInFailure (cs : List (Contact Message)) : Prop :=
  ∃ front last, cs = front ++ [last] ∧ last.fails = true

section Failing

variable {params : Json} {e : Error} {kept kept' : Option Client} {cs : List (Contact Message)}

theorem EndsInFailure.append {more : List (Contact Message)} (h : EndsInFailure more)
    (cs : List (Contact Message)) : EndsInFailure (cs ++ more) := by
  obtain ⟨front, last, rfl, hfails⟩ := h
  exact ⟨cs ++ front, last, (List.append_assoc ..).symm, hfails⟩

theorem Lost.endsInFailure {c : Client} (h : Lost params c cs) : EndsInFailure cs := by
  obtain ⟨front, last, heq, -, hfails⟩ := h.exists_fails
  exact ⟨front, last, heq, hfails⟩

theorem Fresh.of_error (h : Fresh params (.error e) kept cs) :
    cs.filter Contact.goesOut = [] ∧ EndsInFailure cs := by
  cases h with
  | refused => exact ⟨rfl, [], _, rfl, rfl⟩
  | lost _ hlost => exact ⟨hlost.filter_goesOut, hlost.endsInFailure.append [_]⟩

/-- A commit that fails has sent nothing, and ends in the failure. -/
theorem Committed.of_error (h : Committed params kept (.error e) kept' cs) :
    cs.filter Contact.goesOut = [] ∧ EndsInFailure cs := by
  cases h with
  | @again _ before _ _ _ hlost hfresh =>
    obtain ⟨hout, hends⟩ := hfresh.of_error
    refine ⟨?_, hends.append before⟩
    rw [List.filter_append, hlost.filter_goesOut, hout]
    rfl
  | fresh hfresh => exact hfresh.of_error

end Failing

/-- The contact is the request for the transaction of a write, and has gone out. -/
def Transacts (database : String) (w : ThresholdWrite) (c : Contact Message) : Prop :=
  ∃ conn id, c = .wrote conn
    (.request "transact" (thresholdUpdate database w.counter.rowName w.value) (.int id)) (.ok ())

/-- What goes out are the transactions of writes in their order, one for each. Either these are
all writes, or the transport has failed: then they are those before the one that failed with it,
and the failure is all that comes behind them. -/
def GoInTurn (database : String) (writes : List ThresholdWrite) (result : Except Error Unit)
    (cs : List (Contact Message)) : Prop :=
  ∃ sent rest, writes = sent ++ rest ∧
    List.Forall₂ (Transacts database) sent (cs.filter Contact.goesOut) ∧
    (result = .ok () ∧ rest = [] ∨
      (∃ reason, result = .error (.transport reason)) ∧ rest ≠ [] ∧ EndsInFailure cs)

theorem GoInTurn.cons {database : String} {w : ThresholdWrite} {writes : List ThresholdWrite}
    {result : Except Error Unit} {cs more : List (Contact Message)} {c : Contact Message}
    (h : cs.filter Contact.goesOut = [c]) (hc : Transacts database w c)
    (hmore : GoInTurn database writes result more) :
    GoInTurn database (w :: writes) result (cs ++ more) := by
  obtain ⟨sent, rest, rfl, hsent, hend⟩ := hmore
  refine ⟨w :: sent, rest, rfl, ?_, ?_⟩
  · rw [List.filter_append, h]
    exact .cons hc hsent
  · rcases hend with hok | ⟨herror, hrest, hends⟩
    · exact .inl hok
    · exact .inr ⟨herror, hrest, hends.append cs⟩

namespace Access

variable {σ : Type} {t : Transport σ} {log : σ → List (Contact String)} {a : Access}

/-- **Commits in turn.** Thresholds that are committed one after the other go out in turn. -/
theorem contacts_forM (ht : t.Logs log) (writes : List ThresholdWrite) :
    Action.Emits (logOf log) Contact.line
      (writes.forM fun w => a.commitThreshold t w.counter w.value)
      fun _ result _ cs => GoInTurn a.database writes result cs := by
  induction writes with
  | nil => exact .pure fun _ => ⟨[], [], rfl, .nil, .inl ⟨rfl, rfl⟩⟩
  | cons w rest ih =>
    have hcommit : Action.Emits (logOf log) Contact.line (a.commitThreshold t w.counter w.value)
        fun o result o' cs =>
          Committed (thresholdUpdate a.database w.counter.rowName w.value) o.kept result o'.kept
            cs ∧ ∀ e, result = .error e → ∃ reason, e = .transport reason := by
      intro o
      obtain ⟨cs, hcs, hcommitted⟩ := contacts_commitThreshold (a := a) ht w.counter w.value o
      exact ⟨cs, hcs, hcommitted, failsAsTransport_commitThreshold t a w.counter w.value o⟩
    refine hcommit.bind (fun _ => ih) ?_ ?_
    · rintro o e o' cs ⟨hcommitted, htransport⟩
      obtain ⟨reason, rfl⟩ := htransport e rfl
      obtain ⟨hout, hends⟩ := hcommitted.of_error
      refine ⟨[], w :: rest, rfl, ?_, .inr ⟨⟨reason, rfl⟩, List.cons_ne_nil w rest, hends⟩⟩
      rw [hout]
      exact .nil
    · rintro o x o' cs result o'' more ⟨hcommitted, -⟩ hrest
      obtain ⟨c, -, hout⟩ := hcommitted.goesOut rfl
      exact hrest.cons hout ⟨c.conn, c.nextId, rfl⟩

end Access

end Database

end BufferTelemetry
