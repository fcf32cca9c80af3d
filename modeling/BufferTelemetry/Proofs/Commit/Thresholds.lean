import BufferTelemetry.Database.Services
import BufferTelemetry.Proofs.Rpc.Recording
import BufferTelemetry.Proofs.Survey.Collection

/-!
# What a threshold request sends

The commit of a threshold sends exactly one transaction if it succeeds and none if it
fails, on whatever connections it tries (`sends_commitThreshold`). So a request sends
the transactions of its writes in their order, all of them if it succeeds and those
before the first failure otherwise, and none unless it is valid
(`Backend.sends_setThreshold`).
-/

namespace BufferTelemetry.Database

open Rpc

/-- The parameters of a transaction, if the message requests one. -/
def transaction? : Message → Option Json
  | .request "transact" params _ => some params
  | _ => none

/-- The parameters of the transactions that messages request. -/
def transactions (ms : List (ConnId × Message)) : List Json :=
  ms.filterMap fun (_, m) => transaction? m

theorem transactions_append (ms more : List (ConnId × Message)) :
    transactions (ms ++ more) = transactions ms ++ transactions more := List.filterMap_append

theorem transactions_of_quiet {α : Type} {result : Except Error α} {ms : List (ConnId × Message)}
    (h : Quiet result ms) : transactions ms = [] := by
  rw [transactions, List.filterMap_eq_nil_iff]
  intro (conn, m) hmem
  obtain ⟨reply, id, rfl⟩ := h (conn, m) hmem
  rfl

/-- The name in the where clause of a transaction that sets a threshold, and the threshold. -/
def assigned? (params : Json) : Option (String × Json) := do
  let update ← params.item? 1
  match update.get? "where", (← update.get? "row").get? "trigger_threshold" with
  | some (.arr [.arr [.str "name", .str "==", .str name]]), some value => some (name, value)
  | _, _ => none

theorem assigned?_thresholdUpdate (database row : String) (value : UInt64) :
    assigned? (thresholdUpdate database row value) = some (row, .ofWord value) := rfl

/-- The transactions are sent if the action succeeds, and none if it fails. -/
def Commits {α : Type} (committed : List Json) (result : Except Error α)
    (ms : List (ConnId × Message)) : Prop :=
  transactions ms =
    match result with
    | .ok _ => committed
    | .error _ => []

namespace Access

variable {σ : Type} {t : Transport σ} {written : σ → Record} {a : Access}

def writtenOf (written : σ → Record) (o : Outlet σ) : Record := written o.world

theorem sends_connect (ht : t.Records written) :
    Sends written (a.connect t) fun _ ms => transactions ms = [] := by
  refine .of_written_eq ?_ fun _ => rfl
  intro s
  have hconnect := ht.connect a.endpoint a.maxLine s
  unfold connect Client.connect
  rcases heq : t.connect a.endpoint a.maxLine s with ⟨_ | _, s'⟩
  all_goals
    rw [heq] at hconnect
    exact hconnect

theorem sends_sendThreshold (ht : t.Records written) (params : Json) :
    Sends (Client.writtenOf written) (sendThreshold t params) (Commits [params]) := by
  refine (Client.sends_drain ht).bind (R := fun _ => Commits [params]) ?_ ?_ ?_
  · intro _
    refine (Client.sends_sendRequest ht "transact" params).bind
      (R := fun _ result more => (∃ x, result = .ok x) ∧ more = []) ?_ ?_ ?_
    · intro _
      exact .pure ⟨⟨_, rfl⟩, rfl⟩
    · rintro e ms rfl
      rfl
    · rintro id ms result more ⟨conn, rfl⟩ ⟨⟨x, rfl⟩, rfl⟩
      rfl
  · intro e ms hquiet
    exact transactions_of_quiet hquiet
  · intro x ms result more hquiet hmore
    show transactions (ms ++ more) = _
    rw [transactions_append, transactions_of_quiet hquiet, List.nil_append]
    exact hmore

theorem sends_sendKept (ht : t.Records written) (params : Json) (c : Client) :
    Sends (writtenOf written) (sendKept t params c) (Commits [params]) := by
  intro o
  obtain ⟨ms, hms, hcommits⟩ := sends_sendThreshold ht params (c, o.world)
  refine ⟨ms, ?_, ?_⟩
  all_goals
    unfold sendKept ExceptT.run
    rcases heq : sendThreshold t params (c, o.world) with ⟨e | _, c', s⟩
    all_goals
      rw [heq] at hms hcommits
      assumption

theorem sends_sendFresh (ht : t.Records written) (params : Json) :
    Sends (writtenOf written) (a.sendFresh t params) (Commits [params]) := by
  refine Sends.bind (Q := fun _ ms => transactions ms = []) (R := fun _ => Commits [params])
    ((sends_connect ht).within (fun _ => rfl) fun _ _ => rfl) (sends_sendKept ht params) ?_ ?_
  · intro e ms hms
    exact hms
  · intro c ms result more hms hmore
    show transactions (ms ++ more) = _
    rw [transactions_append, hms, List.nil_append]
    exact hmore

/-- **One threshold.** A commit that succeeds sends its transaction once, and a commit that
fails does not send it, although it may try two connections. -/
theorem sends_commitThreshold (ht : t.Records written) (c : Counter) (value : UInt64) :
    Sends (writtenOf written) (a.commitThreshold t c value)
      (Commits [thresholdUpdate a.database c.rowName value]) := by
  refine .bind_silent (fun _ => rfl) (fun _ => rfl) ?_
  intro o
  cases o.kept with
  | none => exact sends_sendFresh ht _
  | some client =>
    refine (sends_sendKept ht _ client).tryCatch (fun _ => sends_sendFresh ht _) ?_ ?_
    · intro x ms hms
      exact hms
    · intro e ms result more hms hmore
      -- the kept connection has failed without sending, so the fresh one decides
      show transactions (ms ++ more) = _
      rw [transactions_append, hms, List.nil_append]
      exact hmore

/-- All transactions are sent if the action succeeds, and the first ones if it fails. -/
def CommitsInTurn {α : Type} (committed : List Json) (result : Except Error α)
    (ms : List (ConnId × Message)) : Prop :=
  transactions ms <+: committed ∧ ((∃ x, result = .ok x) → transactions ms = committed)

/-- Commits in turn send their transactions in turn. -/
theorem sends_forM {α ω : Type} {written : ω → Record} {commit : α → Action ω Unit}
    {params : α → Json} (h : ∀ x, Sends written (commit x) (Commits [params x])) (l : List α) :
    Sends written (l.forM commit) (CommitsInTurn (l.map params)) := by
  induction l with
  | nil => exact .pure ⟨List.prefix_rfl, fun _ => rfl⟩
  | cons x rest ih =>
    refine (h x).bind (fun _ => ih) ?_ ?_
    · intro e ms hms
      refine ⟨?_, ?_⟩
      · rw [show transactions ms = [] from hms]
        exact List.nil_prefix
      · rintro ⟨_, hok⟩
        cases hok
    · intro _ ms result more hms ⟨hfirst, hall⟩
      have happend : transactions (ms ++ more) = params x :: transactions more := by
        rw [transactions_append, show transactions ms = [params x] from hms]
        rfl
      refine ⟨?_, ?_⟩
      · rw [happend, List.map_cons]
        exact (List.prefix_cons_inj (params x)).2 hfirst
      · intro hok
        rw [happend, hall hok, List.map_cons]

end Access

namespace Backend

variable {σ : Type} {t : Transport σ} {written : σ → Record}

def writtenOf (written : σ → Record) (b : Backend σ) : Record := written b.world

/-- The transactions that the writes of a request are. -/
def thresholdUpdates (a : Access) (request : ThresholdRequest) : List Json :=
  request.writes.map fun w => thresholdUpdate a.database w.counter.rowName w.value

/-- They are about the rows with the names of the counters, and set the values. -/
theorem map_assigned?_thresholdUpdates (a : Access) (request : ThresholdRequest) :
    (thresholdUpdates a request).map assigned? =
      request.writes.map fun w => some (w.counter.rowName, .ofWord w.value) := by
  rw [thresholdUpdates, List.map_map]
  refine List.map_congr_left ?_
  intro w _
  exact assigned?_thresholdUpdate a.database w.counter.rowName w.value

/-- **A threshold request** sends the transactions of its writes in turn. -/
theorem sends_setThreshold (ht : t.Records written) (a : Access) (asics : List Asic)
    (unit : UInt32) (request : ThresholdRequest) :
    Sends (writtenOf written) (setThreshold t a asics unit request)
      (Access.CommitsInTurn (thresholdUpdates a request)) := by
  have hfails : ∀ e : Error, Access.CommitsInTurn (thresholdUpdates a request)
      (.error e : Except Error Unit) [] := by
    intro e
    refine ⟨List.nil_prefix, ?_⟩
    rintro ⟨_, hok⟩
    cases hok
  refine .bind_silent ?_ hfails ?_
  · intro b
    rw [capabilities_eq]
  · intro caps
    refine .bind_silent ?_ hfails ?_
    · intro b
      rw [Action.ofExcept_apply]
    · intro _
      have hwrites : Sends (Access.writtenOf written)
          (request.writes.forM fun w => a.commitThreshold t w.counter w.value)
          (Access.CommitsInTurn (thresholdUpdates a request)) :=
        Access.sends_forM (fun w : ThresholdWrite =>
          Access.sends_commitThreshold ht w.counter w.value) request.writes
      exact hwrites.within (fun _ => rfl) fun _ _ => rfl

end Backend

end BufferTelemetry.Database
