import BufferTelemetry.Proofs.Commit.Settings
import BufferTelemetry.Proofs.Rpc.Conversations

/-!
# What commits wait for

Every commit that waits makes a conversation on a connection of its own, and succeeds exactly
if the conversation is acknowledged (`turns_commitSettings`, `turns_commitTracking`). For the
collection of the realms this says less than it seems to: eleven transactions are sent, and it
is the answer to the last of them that counts. An answer to one of the others is taken in while
that one is waited for, and dropped, even if it reports a failure
(`commitTracking_ok_iff`, `commitTracking_drops_failure`).
-/

namespace BufferTelemetry.Database

open Rpc

namespace Access

variable {σ : Type} {t : Transport σ} {trace : σ → List Crossing} {a : Access}

/-- Transactions on a connection of their own. -/
def Separate {α : Type} (params : List Json) (result : Except Error α) (turns : List Turn) :
    Prop :=
  ∃ conn, Transacted conn 0 params result turns

theorem turns_connect (ht : t.Traces trace) :
    Action.Emits trace Turn.crossing (a.connect t) fun _ result _ turns =>
      (∀ c, result = .ok c → c.nextId = 0) ∧ turns = [] := by
  refine .of_log_eq ?_ fun s => ⟨?_, rfl⟩
  · intro s
    have hkeeps := ht.connect a.endpoint a.maxLine s
    unfold connect Client.connect
    rcases heq : t.connect a.endpoint a.maxLine s with ⟨_ | _, s'⟩
    all_goals
      rw [heq] at hkeeps
      exact hkeeps
  · intro c hc
    unfold connect Client.connect at hc
    rcases heq : t.connect a.endpoint a.maxLine s with ⟨_ | _, s'⟩
    all_goals
      rw [heq] at hc
      cases hc
    rfl

/-- What makes a conversation on a connection makes one on a fresh connection, numbered from
zero. -/
theorem turns_connected (ht : t.Traces trace) {α : Type} {b : ClientAction σ α}
    {params : List Json} (h : Client.Turns trace b fun w result _ turns =>
      Transacted w.1.conn w.1.nextId params result turns) :
    Action.Emits trace Turn.crossing (a.connect t >>= Client.runOnce b)
      fun _ result _ turns => Separate params result turns := by
  refine (turns_connect ht).bind (R := fun c _ result _ turns =>
    Transacted c.conn c.nextId params result turns) ?_ ?_ ?_
  · intro c s
    exact h (c, s)
  · rintro s e s' turns ⟨-, rfl⟩
    exact ⟨0, .error List.nil_prefix⟩
  · rintro s c s' turns result s'' more ⟨hfresh, rfl⟩ hmore
    rw [hfresh c rfl] at hmore
    exact ⟨c.conn, hmore⟩

/-- **The settings** are committed in one transaction, if the row is known. -/
theorem turns_commitSettings (ht : t.Traces trace) (row : Uuid) (settings : Settings) :
    Action.Emits trace Turn.crossing (a.commitSettings t (some row) settings)
      fun _ result _ turns => Separate [settingsUpdate a.database row settings] result turns := by
  refine (turns_connected ht (Client.turns_transact ht _ _)).bind_pure ?_ ?_
  · rintro s e s' turns ⟨conn, h⟩
    exact ⟨conn, h.of_error⟩
  · rintro s x s' turns ⟨conn, h⟩
    exact ⟨conn, h.of_ok ()⟩

/-- The transactions that are not waited for are sent in turn, up to the first that cannot be
written. -/
theorem turns_sendTracking (ht : t.Traces trace) (mask : TrackingMask) (realms : List Realm) :
    Client.Turns trace (a.sendTracking t mask realms) fun w result w' turns =>
      ((∃ e, result = .error e) ∧
        turns <+: requests w.1.conn w.1.nextId (trackingUpdates a mask realms)) ∨
      (result = .ok () ∧ w'.1 = { w.1 with nextId := w.1.nextId + realms.length } ∧
        turns = requests w.1.conn w.1.nextId (trackingUpdates a mask realms)) := by
  induction realms with
  | nil => exact .pure fun w => .inr ⟨rfl, rfl, rfl⟩
  | cons realm rest ih =>
    unfold sendTracking
    refine (Client.turns_sendTransaction ht _).bind (fun _ => ih) ?_ ?_
    · rintro w e w' turns (⟨-, rfl⟩ | ⟨he, -⟩)
      · exact .inl ⟨⟨e, rfl⟩, List.nil_prefix⟩
      · cases he
    · rintro w id w' turns result w'' more (⟨⟨e, he⟩, -⟩ | ⟨-, hclient, rfl⟩) hmore
      · cases he
      · rw [hclient] at hmore
        rcases hmore with ⟨he, hprefix⟩ | ⟨hok, hclient', rfl⟩
        · exact .inl ⟨he, (List.prefix_append_right_inj _).2 hprefix⟩
        · refine .inr ⟨hok, ?_, rfl⟩
          rw [hclient', List.length_cons]
          simp only [Client.mk.injEq, true_and]
          omega

/-- **The collection of the realms** is committed in one transaction each, of which the last is
waited for. -/
theorem turns_commitTracking (ht : t.Traces trace) (mask : TrackingMask) :
    Action.Emits trace Turn.crossing (a.commitTracking t mask)
      fun _ result _ turns => Separate (trackingUpdates a mask Realm.all) result turns := by
  unfold commitTracking
  split
  · rename_i hnone
    cases hnone
  · rename_i last hlast
    rw [trackingUpdates_of_getLast? a mask hlast]
    refine turns_connected ht ?_
    have htransact := (Client.turns_transact ht
      (trackingUpdate a.database last (mask.isEnabled last)) a.replyTimeoutMs).bind_pure
      (S := fun w result _ turns => Transacted w.1.conn w.1.nextId
        [trackingUpdate a.database last (mask.isEnabled last)] (result : Except Error Unit) turns)
      (g := fun _ => ()) (fun w e w' turns h => h.of_error) fun w x w' turns h => h.of_ok ()
    refine (turns_sendTracking ht mask Realm.all.dropLast).bind (fun _ => htransact) ?_ ?_
    · rintro w e w' turns (⟨-, hprefix⟩ | ⟨he, -⟩)
      · refine .error ?_
        rw [requests_append]
        exact hprefix.trans (List.prefix_append ..)
      · cases he
    · rintro w _ w' turns result w'' more (⟨⟨e, he⟩, -⟩ | ⟨-, hclient, rfl⟩) hmore
      · cases he
      · rw [hclient] at hmore
        refine Transacted.prepend ?_
        rw [trackingUpdates, List.length_map]
        exact hmore

/-! ## What is dropped -/

/-- No answer that is heard to one of the first so many transactions reports a failure. -/
def NoFailureHeard (n : Nat) (turns : List Turn) : Prop :=
  ∀ id < n, ∀ m ∈ heard turns, Client.answers id m = true → m.reportsFailure = false

/-- **Whose failure is reported.** The collection of the realms is committed exactly if the last
of its transactions is acknowledged; then no failure was heard at all exactly if none of those
before it failed, for which nothing else speaks. -/
theorem commitTracking_ok_iff (t : Transport σ) (a : Access) (mask : TrackingMask)
    (w : Traced σ) :
    ∃ conn turns,
      (a.commitTracking t.traced mask w).2.trace = w.trace ++ turns.map Turn.crossing ∧
      Conversation conn 0 (trackingUpdates a mask Realm.all) turns ∧
      ((a.commitTracking t.traced mask w).1 = .ok () ↔
        Acknowledged conn 0 (trackingUpdates a mask Realm.all) turns) ∧
      ((a.commitTracking t.traced mask w).1 = .ok () →
        (NoFailureHeard Realm.all.length turns ↔ NoFailureHeard (Realm.all.length - 1) turns)) := by
  obtain ⟨turns, hturns, conn, htransacted⟩ := turns_commitTracking t.traced_traces mask w
  have hok : (a.commitTracking t.traced mask w).1 = .ok () ↔
      Acknowledged conn 0 (trackingUpdates a mask Realm.all) turns := by
    rw [← htransacted.ok_iff]
    constructor
    · intro h
      exact ⟨(), h⟩
    · rintro ⟨_, h⟩
      exact h
  refine ⟨conn, turns, hturns, htransacted.conversation, hok, fun hresult => ⟨?_, ?_⟩⟩
  · intro h id hid
    exact h id (by omega)
  · intro h id hid m hm hanswers
    by_cases hlast : id < Realm.all.length - 1
    · exact h id hlast m hm hanswers
    · have hid' : id = 0 + (trackingUpdates a mask Realm.all).length - 1 := by
        rw [trackingUpdates, List.length_map]
        omega
      rw [hid'] at hanswers
      exact (hok.1 hresult).of_answers hm hanswers

/-- A transport on which some lines arrive, and which takes every line. -/
def arriving : Transport (List String) where
  connect _ _ lines := (.ok 0, lines)
  send _ _ lines := (.ok (), lines)
  poll _ lines :=
    match lines with
    | [] => (.pending, [])
    | line :: rest => (.line line, rest)
  settle lines := lines
  patience _ lines := lines.length

/-- An error reply to the first transaction and a result for the last. -/
def firstFails : List String :=
  ["\x7b\"result\":null,\"error\":\"constraint violation\",\"id\":0\x7d",
    "\x7b\"result\":[\x7b\"count\":1\x7d],\"error\":null,\"id\":10\x7d"]

/-- The failure of the first transaction is taken in and dropped, and the collection of the
realms counts as committed. -/
theorem commitTracking_drops_failure :
    let a : Access :=
      { endpoint := .unix "db.sock", database := "OpenSwitch", replyTimeoutMs := 1000
        maxLine := 4096 }
    let run := a.commitTracking arriving.traced .empty ⟨firstFails, []⟩
    run.1.toOption = some () ∧
      .written 0 (Message.request "transact" (trackingUpdate a.database .device false)
        (.int 0)).line ∈ run.2.trace ∧
      ∀ line ∈ firstFails.head?, .taken 0 line ∈ run.2.trace ∧
        (Client.lineMessage? line).map (fun m => (Client.answers 0 m, m.reportsFailure)) =
          some (true, true) := by
  decide +kernel

end Access

end BufferTelemetry.Database
