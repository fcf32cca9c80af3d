import BufferTelemetry.Database.Agent
import BufferTelemetry.Proofs.Commit.Atomicity
import BufferTelemetry.Proofs.Replica.Addresses
import BufferTelemetry.Proofs.Rpc.Acceptance
import BufferTelemetry.Proofs.Rpc.Requests

/-!
# Commits follow the feed

The row to which settings are committed is known from the feed alone: whatever an agent commits
in between, it is the last row that has been delivered with settings under a key that is an
identifier (`settingsRow_course`). Until there is one, a commit fails before a connection is
opened; from then on it is one request, which names the row as it was delivered, in lower case
(`commitSettings_follows_feed`).
-/

namespace BufferTelemetry.Database

open Rpc

/-! ## Courses -/

/-- What happens to an agent: an update is delivered, settings are committed, or the settings of
a unit are changed. -/
inductive Move where
  | deliver (updates : Json)
  | commit (settings : Settings)
  | configure (unit : UInt32) (settings : Settings)

/-- The rows that a move delivers with settings and that can be addressed. -/
def Move.addresses : Move → List (String × Uuid)
  | .deliver updates => Database.addresses updates
  | .commit _ | .configure .. => []

theorem Move.rowId?_of_mem_addresses {move : Move} {key : String} {id : Uuid}
    (h : (key, id) ∈ move.addresses) : rowId? key = some id := by
  cases move with
  | deliver updates => exact Database.rowId?_of_mem_addresses h
  | commit | configure => cases h

section Courses

variable {σ : Type}

/-- The agent and the world after a move, whatever has been answered. -/
def Move.after (t : Transport σ) (asics : List Asic) (w : Agent σ × σ) : Move → Agent σ × σ
  | .deliver updates =>
    let p := w.1.replica.apply updates
    ({ w.1 with replica := p.replica, unread := Agent.newest (w.1.unread ++ p.events) }, w.2)
  | .commit settings =>
    (w.1, (w.1.access.commitSettings t w.1.replica.settingsRow settings w.2).2)
  | .configure unit settings =>
    (Agent.serve (Backend.setSettings t w.1.access asics unit settings) w).2

def course (t : Transport σ) (asics : List Asic) (moves : List Move) (w : Agent σ × σ) :
    Agent σ × σ :=
  moves.foldl (Move.after t asics) w

variable {t : Transport σ} {asics : List Asic} {a : Access} {unit : UInt32} {c : Settings}

/-- A change of settings leaves the row and the units as they are. -/
theorem Backend.setSettings_keeps (b : Backend σ) :
    (setSettings t a asics unit c b).2.settingsRow = b.settingsRow ∧
      (setSettings t a asics unit c b).2.store.numUnits = b.store.numUnits := by
  cases hasic : findAsic asics unit with
  | error e =>
    rw [setSettings_eq, hasic]
    exact ⟨rfl, rfl⟩
  | ok asic =>
    rw [setSettings_apply hasic rfl]
    split
    · exact ⟨rfl, rfl⟩
    · cases hset : b.store.setSettings unit (committedSettings c) with
      | error e => exact ⟨rfl, rfl⟩
      | ok store => exact ⟨rfl, (records_of_setSettings hset).counters.1⟩

/-- A move records the last row that it delivers, and keeps the old one if there is none. -/
theorem settingsRow_after (w : Agent σ × σ) (move : Move) :
    (move.after t asics w).1.replica.settingsRow =
      (lastId? move.addresses).or w.1.replica.settingsRow := by
  cases move with
  | deliver updates => exact settingsRow_apply_addresses w.1.replica updates
  | commit settings => rfl
  | configure unit settings => exact (Backend.setSettings_keeps (w.1.backend w.2)).1

/-- **The row that is known** is the last one that was delivered. -/
theorem settingsRow_course (moves : List Move) (w : Agent σ × σ) :
    (course t asics moves w).1.replica.settingsRow =
      (lastId? (moves.flatMap Move.addresses)).or w.1.replica.settingsRow := by
  induction moves generalizing w with
  | nil => rfl
  | cons move rest ih =>
    show (course t asics rest (move.after t asics w)).1.replica.settingsRow = _
    rw [ih, settingsRow_after, List.flatMap_cons, lastId?_append, Option.or_assoc]

theorem numUnits_after {w : Agent σ × σ} (hsize : w.1.replica.store.numUnits < UInt32.size)
    (move : Move) :
    (move.after t asics w).1.replica.store.numUnits = w.1.replica.store.numUnits := by
  cases move with
  | deliver updates => exact numUnits_apply hsize
  | commit settings => rfl
  | configure unit settings => exact (Backend.setSettings_keeps (w.1.backend w.2)).2

theorem numUnits_course (moves : List Move) {w : Agent σ × σ}
    (hsize : w.1.replica.store.numUnits < UInt32.size) :
    (course t asics moves w).1.replica.store.numUnits = w.1.replica.store.numUnits := by
  induction moves generalizing w with
  | nil => rfl
  | cons move rest ih =>
    have hafter : (move.after t asics w).1.replica.store.numUnits = _ :=
      numUnits_after hsize move
    exact (ih (hafter.symm ▸ hsize)).trans hafter

end Courses

/-! ## The next commit -/

section Commits

variable {σ : Type} {t : Transport σ} {trace : σ → List Crossing}

/-- A commit to a known row is a transaction on a connection of its own. -/
theorem commitSettings_apply (t : Transport σ) (a : Access) (row : Uuid) (settings : Settings)
    (s : σ) :
    a.commitSettings t (some row) settings s =
      match t.connect a.endpoint a.maxLine s with
      | (.error reason, s) => (.error (.transport reason), s)
      | (.ok conn, s) =>
        let (result, _, s) := Client.transact t (settingsUpdate a.database row settings)
          a.replyTimeoutMs ({ endpoint := a.endpoint, conn, nextId := 0 }, s)
        (result.map fun _ => (), s) := by
  show (a.transactOnce t _ >>= fun _ => pure ()) s = _
  rw [Action.bind_apply, Access.transactOnce, Action.bind_apply, Access.connect, Client.connect]
  rcases t.connect a.endpoint a.maxLine s with ⟨reason | conn, s⟩
  · rfl
  · dsimp only
    unfold Client.runOnce Client.run
    rcases Client.transact t (settingsUpdate a.database row settings) a.replyTimeoutMs
      ({ endpoint := a.endpoint, conn, nextId := 0 }, s) with ⟨e | x, w⟩ <;> rfl

/-- It is one request, which is waited for, and which goes out if the server takes it. -/
theorem commitSettings_asked (ht : t.Traces trace) (a : Access) (row : Uuid) (settings : Settings)
    (s : σ) :
    ∃ conn turns result, trace (a.commitSettings t (some row) settings s).2 =
        trace s ++ turns.map Turn.crossing ∧
      (a.commitSettings t (some row) settings s).1 = result.map (fun _ => ()) ∧
      Client.Asked conn 0
        (.request "transact" (settingsUpdate a.database row settings) (.int 0))
        Client.TransactOutcome result turns ∧
      (Accepting t → turns ≠ []) := by
  have hkeeps := ht.connect a.endpoint a.maxLine s
  rw [commitSettings_apply]
  rcases hconnect : t.connect a.endpoint a.maxLine s with ⟨reason | conn, s'⟩
  · rw [hconnect] at hkeeps
    refine ⟨0, [], .error (.transport reason), hkeeps.trans (List.append_nil _).symm, rfl,
      .inl ⟨rfl, reason, rfl⟩, ?_⟩
    intro ha
    obtain ⟨conn, s'', hconnect'⟩ := ha.connect a.endpoint a.maxLine s
    rw [hconnect] at hconnect'
    cases hconnect'
  · rw [hconnect] at hkeeps
    let w : Client × σ := ({ endpoint := a.endpoint, conn, nextId := 0 }, s')
    obtain ⟨turns, hturns, -, hasked⟩ := Client.turns_transact_decided ht
      (settingsUpdate a.database row settings) a.replyTimeoutMs w
    refine ⟨conn, turns, _, ?_, rfl, hasked, ?_⟩
    · rw [← hkeeps]
      exact hturns
    · rintro ha rfl
      obtain ⟨turns', hturns', rest, rfl, -⟩ := Client.turns_transact_accepted ht ha
        (settingsUpdate a.database row settings) a.replyTimeoutMs w
      rw [hturns, List.append_cancel_left_eq] at hturns'
      cases hturns'

theorem commitSettings_ne_notFound (ht : t.Traces trace) (a : Access) (row : Uuid)
    (settings : Settings) (s : σ) (what : String) :
    (a.commitSettings t (some row) settings s).1 ≠ .error (.notFound what) := by
  intro hnext
  obtain ⟨conn, turns, result, -, hresult, hasked, -⟩ := commitSettings_asked ht a row settings s
  rw [hnext] at hresult
  rcases result with e | x
  · cases hresult
    rcases hasked with ⟨-, reason, he⟩ | ⟨lines, rest, -, -, -, houtcome⟩
    · cases he
    · rcases houtcome.of_error with ⟨reason, he⟩ | ⟨reason, he⟩ <;> cases he
  · cases hresult

/-- **Commits follow the feed.** After whatever deliveries and commits, the row that is known is
the last one of the system table that was delivered with settings under a key of thirty-six bytes
that is an identifier, and it is known from then on: what comes later keeps it, or puts a later
row in its place. A commit of settings is turned down as long as there was no such row, and only
then, and nothing has been done for it. Otherwise it is one request, an update of the row with
that identifier, which is written as its key in lower case. The settings of a delivery are those
of all rows, under whatever keys. -/
theorem commitSettings_follows_feed (t : Transport σ) (a : Access) (asics : List Asic)
    (numUnits : Nat) (registry : Registry (Backend (Traced σ))) (s : Traced σ)
    (moves : List Move) :
    let w := course t.traced asics moves (.initial a numUnits registry, s)
    let row := w.1.replica.settingsRow
    let seen := moves.flatMap Move.addresses
    -- the row that is known
    row = seen.getLast?.map Prod.snd ∧
    (∀ more, (course t.traced asics more w).1.replica.settingsRow =
      ((more.flatMap Move.addresses).getLast?.map Prod.snd).or row) ∧
    -- the next commit
    (∀ settings,
      let next := a.commitSettings t.traced row settings w.2
      (seen = [] → next = (.error (.notFound "BST configuration row"), w.2)) ∧
      ((∃ what, next.1 = .error (.notFound what)) ↔ seen = []) ∧
      ∀ key id, seen.getLast? = some (key, id) →
        let request := Message.request "transact"
          (update a.database systemTable settingsColumn (settingsMap settings)
            (.arr [.str "_uuid", .str "==", .arr [.str "uuid", .str key.toLower]])) (.int 0)
        ∃ conn turns result, next.2.trace = w.2.trace ++ turns.map Turn.crossing ∧
          next.1 = result.map (fun _ => ()) ∧
          Client.Asked conn 0 request Client.TransactOutcome result turns ∧
          (Accepting t → turns ≠ [])) ∧
    -- the next delivery
    ∀ updates,
      let after := (w.1.replica.apply updates).replica
      after.settingsRow = ((addresses updates).getLast?.map Prod.snd).or row ∧
      (numUnits < UInt32.size → ∀ unit old, w.1.replica.store.settings? unit = some old →
        ∃ new, after.store.settings? unit = some new ∧ ∀ key, new.value key =
          (delivered key (settingsPairs updates)).getLast?.getD (old.value key)) := by
  intro w row seen
  have hrow : row = lastId? seen :=
    (settingsRow_course moves (.initial a numUnits registry, s)).trans Option.or_none
  refine ⟨hrow, fun more => settingsRow_course more w, ?_, ?_⟩
  · intro settings next
    have hnone : seen = [] → next = (.error (.notFound "BST configuration row"), w.2) := by
      intro hseen
      have hunknown : row = none := by rw [hrow, hseen]; rfl
      show a.commitSettings t.traced row settings w.2 = _
      rw [hunknown]
      rfl
    have hsome : ∀ key id, seen.getLast? = some (key, id) → row = some id := by
      intro key id hlast
      rw [hrow, lastId?, hlast]
      rfl
    refine ⟨hnone, ⟨?_, fun hseen => ⟨_, congrArg Prod.fst (hnone hseen)⟩⟩, ?_⟩
    · rintro ⟨what, hnext⟩
      refine List.getLast?_eq_none_iff.1 (Option.eq_none_iff_forall_ne_some.2 ?_)
      rintro ⟨key, id⟩ hlast
      refine commitSettings_ne_notFound t.traced_traces a id settings w.2 what ?_
      rw [← hsome key id hlast]
      exact hnext
    · intro key id hlast request
      obtain ⟨move, -, hmem⟩ := List.mem_flatMap.1 (List.mem_of_getLast? hlast)
      have hrequest : request =
          .request "transact" (settingsUpdate a.database id settings) (.int 0) := by
        rw [settingsUpdate, toString_of_rowId? (move.rowId?_of_mem_addresses hmem)]
      obtain ⟨conn, turns, result, hturns, hresult, hasked, hwritten⟩ :=
        commitSettings_asked t.traced_traces a id settings w.2
      rw [← hsome key id hlast] at hturns hresult
      exact ⟨conn, turns, result, hturns, hresult, hrequest ▸ hasked,
        fun ha => hwritten ha.traced⟩
  · intro updates after
    refine ⟨settingsRow_apply_addresses w.1.replica updates, ?_⟩
    intro hsize unit old hold
    have hinitial : (Agent.initial a numUnits registry).replica.store.numUnits = numUnits :=
      Store.numUnits_initial numUnits
    have hunits : w.1.replica.store.numUnits = numUnits :=
      (numUnits_course moves (hinitial.symm ▸ hsize)).trans hinitial
    exact exists_settings_of_apply (hunits.symm ▸ hsize) updates hold

end Commits

end BufferTelemetry.Database
