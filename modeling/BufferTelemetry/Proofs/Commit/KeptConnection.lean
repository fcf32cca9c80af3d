import Mathlib.Data.List.Basic
import BufferTelemetry.Database.Commit
import BufferTelemetry.Proofs.Rpc.Contacts

/-!
# The connection that is kept

Thresholds go out on a connection that is kept from one commit to the next. A commit that
finds no connection, or whose connection fails it, opens one, but never more than one, and
keeps it if the threshold goes out on it (`contacts_commitThreshold`). Whatever comes of the
commits, one connection is in use at a time, and its requests are numbered from zero
(`commitThreshold_keeps_connection`).
-/

namespace BufferTelemetry.Database

open Rpc

/-! ## One commit -/

/-- The request for a transaction that a client makes next. -/
def nextTransaction (params : Json) (c : Client) : Message :=
  .request "transact" params (.int c.nextId)

/-- A transaction goes out on a connection, when all that had arrived has been taken in. -/
def Sent (params : Json) (c : Client) (cs : List (Contact Message)) : Prop :=
  ∃ front, cs = front ++ [.wrote c.conn (nextTransaction params c) (.ok ())] ∧ Clean c.conn front

/-- A transaction does not go out on a connection: the last contact fails, which takes something
in or is the request itself. -/
def Lost (params : Json) (c : Client) (cs : List (Contact Message)) : Prop :=
  ∃ front last, cs = front ++ [last] ∧ Clean c.conn front ∧ last.fails = true ∧
    (last.Intake c.conn ∨ ∃ reason, last = .wrote c.conn (nextTransaction params c) (.error reason))

/-- What is done to commit a threshold on a fresh connection, with the result and the connection
that is kept. -/
inductive Fresh (params : Json) :
    Except Error Unit → Option Client → List (Contact Message) → Prop
  | refused {e : Error} {reason : String} : Fresh params (.error e) none [.opened (.error reason)]
  | lost {e : Error} {c : Client} {cs : List (Contact Message)} (hzero : c.nextId = 0)
      (h : Lost params c cs) : Fresh params (.error e) none (.opened (.ok c.conn) :: cs)
  | sent {c : Client} {cs : List (Contact Message)} (hzero : c.nextId = 0)
      (h : Sent params c cs) :
      Fresh params (.ok ()) (some { c with nextId := c.nextId + 1 }) (.opened (.ok c.conn) :: cs)

/-- What is done to commit a threshold, with the connections that are kept before and after. -/
inductive Committed (params : Json) :
    Option Client → Except Error Unit → Option Client → List (Contact Message) → Prop
  | kept {c : Client} {cs : List (Contact Message)} (h : Sent params c cs) :
      Committed params (some c) (.ok ()) (some { c with nextId := c.nextId + 1 }) cs
  | again {c : Client} {cs more : List (Contact Message)} {result : Except Error Unit}
      {kept : Option Client} (h : Lost params c cs) (hfresh : Fresh params result kept more) :
      Committed params (some c) result kept (cs ++ more)
  | fresh {cs : List (Contact Message)} {result : Except Error Unit} {kept : Option Client}
      (h : Fresh params result kept cs) : Committed params none result kept cs

section Committing

variable {params : Json} {c : Client} {cs : List (Contact Message)} {result : Except Error Unit}
  {kept kept' : Option Client}

/-- The connection that a kept client uses, with the number of its next request. -/
def inUse (kept : Option Client) : Option (ConnId × Nat) := kept.map fun c => (c.conn, c.nextId)

theorem Sent.runs (h : Sent params c cs) :
    Contact.Runs (some (c.conn, c.nextId)) cs (some (c.conn, c.nextId + 1)) := by
  obtain ⟨front, rfl, hclean⟩ := h
  exact hclean.runs.append (.singleton .requests)

theorem Lost.runs (h : Lost params c cs) :
    Contact.Runs (some (c.conn, c.nextId)) cs none := by
  obtain ⟨front, last, rfl, hclean, hfails, hlast⟩ := h
  refine hclean.runs.append (.singleton ?_)
  rcases hlast with hintake | ⟨reason, rfl⟩
  · exact .breaks hintake hfails
  · exact .loses

theorem Fresh.runs (h : Fresh params result kept cs) : Contact.Runs none cs (inUse kept) := by
  cases h with
  | refused => exact .singleton .refused
  | lost hzero h => exact .cons .opened (hzero ▸ h.runs)
  | sent hzero h => exact .cons .opened (hzero ▸ h.runs)

/-- A commit runs from the connection that is kept before to the one that is kept behind. -/
theorem Committed.runs (h : Committed params kept result kept' cs) :
    Contact.Runs (inUse kept) cs (inUse kept') := by
  cases h with
  | kept h => exact h.runs
  | again h hfresh => exact h.runs.append hfresh.runs
  | fresh h => exact h.runs

theorem Fresh.isSome_iff (h : Fresh params result kept cs) :
    kept.isSome = true ↔ result = .ok () := by
  cases h with
  | refused => exact iff_of_false nofun nofun
  | lost => exact iff_of_false nofun nofun
  | sent => exact iff_of_true rfl rfl

/-- A connection is kept by those commits that succeed. -/
theorem Committed.isSome_iff (h : Committed params kept result kept' cs) :
    kept'.isSome = true ↔ result = .ok () := by
  cases h with
  | kept => exact iff_of_true rfl rfl
  | again _ hfresh => exact hfresh.isSome_iff
  | fresh h => exact h.isSome_iff

/-! What a commit that is kept, lost or made afresh comes to. -/

theorem Sent.opened_notMem (h : Sent params c cs) (r : Except String ConnId) : .opened r ∉ cs := by
  obtain ⟨front, rfl, hclean⟩ := h
  simp [hclean.opened_notMem r]

theorem Lost.opened_notMem (h : Lost params c cs) (r : Except String ConnId) : .opened r ∉ cs := by
  obtain ⟨front, last, rfl, hclean, -, hlast⟩ := h
  have hne : .opened r ≠ last := by
    rintro rfl
    rcases hlast with hintake | ⟨reason, heq⟩
    · cases hintake
    · cases heq
  simp [hclean.opened_notMem r, hne]

/-- The connection has failed: so did the last contact, and it was on the connection. -/
theorem Lost.exists_fails (h : Lost params c cs) :
    ∃ front last, cs = front ++ [last] ∧ last.conn? = some c.conn ∧ last.fails = true := by
  obtain ⟨front, last, rfl, -, hfails, hlast⟩ := h
  refine ⟨front, last, rfl, ?_, hfails⟩
  rcases hlast with hintake | ⟨reason, rfl⟩
  · exact hintake.conn?_eq
  · rfl

theorem Sent.filter_goesOut (h : Sent params c cs) :
    cs.filter Contact.goesOut = [.wrote c.conn (nextTransaction params c) (.ok ())] := by
  obtain ⟨front, rfl, hclean⟩ := h
  rw [List.filter_append, hclean.filter_goesOut]
  rfl

theorem Lost.filter_goesOut (h : Lost params c cs) : cs.filter Contact.goesOut = [] := by
  obtain ⟨front, last, rfl, hclean, hfails, -⟩ := h
  rw [List.filter_append, hclean.filter_goesOut,
    List.filter_cons_of_neg (by rw [Contact.goesOut_of_fails hfails]; exact Bool.false_ne_true)]
  rfl

/-- A fresh connection is opened once, at the beginning. -/
theorem Fresh.exists_opened (h : Fresh params result kept cs) :
    ∃ r after, cs = .opened r :: after ∧ ∀ r', .opened r' ∉ after := by
  cases h with
  | refused => exact ⟨_, [], rfl, fun _ => List.not_mem_nil⟩
  | lost _ h => exact ⟨_, _, rfl, h.opened_notMem⟩
  | sent _ h => exact ⟨_, _, rfl, h.opened_notMem⟩

theorem Fresh.goesOut (h : Fresh params result kept cs) (hok : result = .ok ()) :
    ∃ c, kept = some { c with nextId := c.nextId + 1 } ∧
      cs.filter Contact.goesOut = [.wrote c.conn (nextTransaction params c) (.ok ())] := by
  cases h with
  | refused | lost => cases hok
  | sent _ h => exact ⟨_, rfl, h.filter_goesOut⟩

/-- The commit has failed on a connection of its own: it was refused, or it was lost. -/
theorem Fresh.exists_of_error {e : Error} (h : Fresh params (.error e) kept cs) :
    (∃ reason, cs = [.opened (.error reason)]) ∨
      ∃ c after, cs = .opened (.ok c.conn) :: after ∧ Lost params c after := by
  cases h with
  | refused => exact .inl ⟨_, rfl⟩
  | lost _ h => exact .inr ⟨_, _, rfl, h⟩

/-- **Openings.** A commit opens at most one connection, and opens it only if none was kept or
the one that was has failed. -/
theorem Committed.opened (h : Committed params kept result kept' cs)
    {before after : List (Contact Message)} {r : Except String ConnId}
    (hcs : cs = before ++ .opened r :: after) :
    (∀ r', .opened r' ∉ before) ∧ (∀ r', .opened r' ∉ after) ∧
      (kept = none ∧ before = [] ∨ ∃ c, kept = some c ∧ Lost params c before) := by
  have hfirst : ∀ {front cs' : List (Contact Message)} {kept'' : Option Client},
      (∀ r', .opened r' ∉ front) → Fresh params result kept'' cs' →
      front ++ cs' = before ++ .opened r :: after → before = front ∧ ∀ r', .opened r' ∉ after := by
    intro front cs' kept'' hfront hfresh heq
    obtain ⟨r₀, after₀, rfl, hafter⟩ := hfresh.exists_opened
    obtain ⟨rfl, -, rfl⟩ := (List.append_cons_inj_of_notMem (hfront r) (hafter r)).1 heq
    exact ⟨rfl, hafter⟩
  cases h with
  | kept h =>
    have hmem : .opened r ∈ cs := by
      rw [hcs]
      exact List.mem_append_right before List.mem_cons_self
    exact absurd hmem (h.opened_notMem r)
  | again h hfresh =>
    obtain ⟨rfl, hafter⟩ := hfirst h.opened_notMem hfresh hcs
    exact ⟨h.opened_notMem, hafter, .inr ⟨_, rfl, h⟩⟩
  | fresh h =>
    have hnone : ∀ r' : Except String ConnId, .opened r' ∉ ([] : List (Contact Message)) :=
      fun _ => List.not_mem_nil
    obtain ⟨rfl, hafter⟩ := hfirst hnone h hcs
    exact ⟨hnone, hafter, .inl ⟨rfl, rfl⟩⟩

/-- **Success.** The transaction goes out once, on the connection that is then kept. -/
theorem Committed.goesOut (h : Committed params kept result kept' cs) (hok : result = .ok ()) :
    ∃ c, kept' = some { c with nextId := c.nextId + 1 } ∧
      cs.filter Contact.goesOut = [.wrote c.conn (nextTransaction params c) (.ok ())] := by
  cases h with
  | kept h => exact ⟨_, rfl, h.filter_goesOut⟩
  | again h hfresh =>
    rw [List.filter_append, h.filter_goesOut]
    exact hfresh.goesOut hok
  | fresh h => exact h.goesOut hok

/-- **Failure.** It is a fresh connection that was refused, or on which the commit was lost. -/
theorem Committed.exists_of_error {e : Error} (h : Committed params kept (.error e) kept' cs) :
    ∃ before, (∃ reason, cs = before ++ [.opened (.error reason)]) ∨
      ∃ c after, cs = before ++ .opened (.ok c.conn) :: after ∧ Lost params c after := by
  cases h with
  | again h hfresh =>
    rcases hfresh.exists_of_error with ⟨reason, rfl⟩ | ⟨c, after, rfl, hlost⟩
    · exact ⟨_, .inl ⟨reason, rfl⟩⟩
    · exact ⟨_, .inr ⟨c, after, rfl, hlost⟩⟩
  | fresh h =>
    rcases h.exists_of_error with ⟨reason, rfl⟩ | ⟨c, after, rfl, hlost⟩
    · exact ⟨[], .inl ⟨reason, rfl⟩⟩
    · exact ⟨[], .inr ⟨c, after, rfl, hlost⟩⟩

end Committing

namespace Access

variable {σ : Type} {t : Transport σ} {log : σ → List (Contact String)} {a : Access}

def logOf (log : σ → List (Contact String)) (o : Outlet σ) : List (Contact String) := log o.world

theorem contacts_connect (ht : t.Logs log) :
    Action.Emits log Contact.line (a.connect t) fun _ result _ cs =>
      (∃ c, result = .ok c ∧ c.nextId = 0 ∧ cs = [.opened (.ok c.conn)]) ∨
        ∃ e reason, result = .error e ∧ cs = [.opened (.error reason)] := by
  intro s
  have hgrows := ht.connect a.endpoint a.maxLine s
  unfold connect Client.connect
  rcases heq : t.connect a.endpoint a.maxLine s with ⟨reason | conn, s'⟩
  all_goals rw [heq] at hgrows
  · exact ⟨[.opened (.error reason)], hgrows, .inr ⟨_, reason, rfl, rfl⟩⟩
  · exact ⟨[.opened (.ok conn)], hgrows, .inl ⟨_, rfl, rfl, rfl⟩⟩

theorem contacts_sendThreshold (ht : t.Logs log) (params : Json) :
    Client.Contacts log (sendThreshold t params) fun w result w' cs =>
      (result = .ok () ∧ w'.1 = { w.1 with nextId := w.1.nextId + 1 } ∧ Sent params w.1 cs) ∨
        ((∃ e, result = .error e) ∧ Lost params w.1 cs) := by
  refine (Client.contacts_drain ht).bind (R := fun _ w result w' cs =>
    (result = .ok () ∧ w'.1 = { w.1 with nextId := w.1.nextId + 1 } ∧
      cs = [.wrote w.1.conn (nextTransaction params w.1) (.ok ())]) ∨
    ((∃ e, result = .error e) ∧ ∃ reason,
      cs = [.wrote w.1.conn (nextTransaction params w.1) (.error reason)])) ?_ ?_ ?_
  · intro _
    refine (Client.contacts_sendRequest ht "transact" params).bind_pure (g := fun _ => ()) ?_ ?_
    · rintro w e w' cs ⟨-, ⟨⟨_, he⟩, -⟩ | ⟨e', reason, -, rfl⟩⟩
      · cases he
      · exact .inr ⟨⟨e, rfl⟩, reason, rfl⟩
    · rintro w x w' cs ⟨hclient, ⟨-, rfl⟩ | ⟨e', reason, he, -⟩⟩
      · exact .inl ⟨rfl, hclient, rfl⟩
      · cases he
  · rintro w e w' cs ⟨-, front, last, rfl, hclean, hintake, hfails⟩
    exact .inr ⟨⟨e, rfl⟩, front, last, rfl, hclean, hfails, .inl hintake⟩
  · rintro w x w' cs result w'' more ⟨hclient, hclean⟩ hmore
    rw [hclient] at hmore
    rcases hmore with ⟨rfl, hclient', rfl⟩ | ⟨herror, reason, rfl⟩
    · exact .inl ⟨rfl, hclient', cs, rfl, hclean⟩
    · exact .inr ⟨herror, cs, _, rfl, hclean, rfl, .inr ⟨reason, rfl⟩⟩

theorem contacts_sendKept (ht : t.Logs log) (params : Json) (c : Client) :
    Action.Emits (logOf log) Contact.line (sendKept t params c) fun _ result o' cs =>
      (result = .ok () ∧ o'.kept = some { c with nextId := c.nextId + 1 } ∧ Sent params c cs) ∨
        ((∃ e, result = .error e) ∧ o'.kept = none ∧ Lost params c cs) := by
  intro o
  obtain ⟨cs, hcs, hsends⟩ := contacts_sendThreshold ht params (c, o.world)
  refine ⟨cs, ?_⟩
  unfold sendKept ExceptT.run
  rcases heq : sendThreshold t params (c, o.world) with ⟨e | _, c', s⟩
  all_goals rw [heq] at hcs hsends
  · rcases hsends with ⟨he, -⟩ | ⟨-, hlost⟩
    · cases he
    · exact ⟨hcs, .inr ⟨⟨e, rfl⟩, rfl, hlost⟩⟩
  · rcases hsends with ⟨-, hclient, hsent⟩ | ⟨⟨e, he⟩, -⟩
    · exact ⟨hcs, .inl ⟨rfl, congrArg some hclient, hsent⟩⟩
    · cases he

theorem contacts_sendFresh (ht : t.Logs log) (params : Json) :
    Action.Emits (logOf log) Contact.line (a.sendFresh t params) fun o result o' cs =>
      o.kept = none → Fresh params result o'.kept cs := by
  refine Action.Emits.bind ((contacts_connect ht).within (fun _ => rfl) fun _ _ => rfl)
    (contacts_sendKept ht params) ?_ ?_
  · rintro o e o' cs ⟨s, rfl, ⟨c, he, -⟩ | ⟨e', reason, -, rfl⟩⟩ hnone
    · cases he
    · show Fresh params _ o.kept _
      rw [hnone]
      exact .refused
  · rintro o c o' cs result o'' more ⟨s, rfl, ⟨c', hc, hzero, rfl⟩ | ⟨e', reason, he, -⟩⟩ hmore -
    · cases hc
      rcases hmore with ⟨rfl, hkept, hsent⟩ | ⟨⟨e, rfl⟩, hkept, hlost⟩
      · rw [hkept]
        exact .sent hzero hsent
      · rw [hkept]
        exact .lost hzero hlost
    · cases he

/-- **One threshold.** A commit tries the connection that is kept, and then a fresh one. -/
theorem contacts_commitThreshold (ht : t.Logs log) (c : Counter) (value : UInt64) :
    Action.Emits (logOf log) Contact.line (a.commitThreshold t c value) fun o result o' cs =>
      Committed (thresholdUpdate a.database c.rowName value) o.kept result o'.kept cs := by
  refine .bind_silent (P := fun o result o' => result = .ok o ∧ o' = o) (fun _ => rfl)
    (fun _ => ⟨rfl, rfl⟩) (R := fun o o₀ result o' cs => o₀ = o →
      Committed (thresholdUpdate a.database c.rowName value) o.kept result o'.kept cs) ?_ ?_ ?_
  · intro o
    cases hkept : o.kept with
    | none =>
      refine (contacts_sendFresh ht _).imp ?_
      rintro _ result o' cs h rfl
      exact .fresh (h hkept)
    | some client =>
      refine (contacts_sendKept ht _ client).tryCatch (fun _ => contacts_sendFresh ht _) ?_ ?_
      · rintro _ x o' cs (⟨-, hkept', hsent⟩ | ⟨⟨e, he⟩, -⟩) rfl
        · rw [hkept']
          exact .kept hsent
        · cases he
      · rintro _ e o' cs result o'' more (⟨he, -⟩ | ⟨-, hnone, hlost⟩) hfresh rfl
        · cases he
        · exact .again hlost (hfresh hnone)
  · rintro o e o' ⟨he, -⟩
    cases he
  · rintro o x o' result o'' cs ⟨hx, rfl⟩ h
    cases hx
    exact h rfl

/-! ## Commits in turn -/

/-- What is left by commits of thresholds in turn, whatever has come of them. -/
def commitThresholds (a : Access) (t : Transport σ) (calls : List (Counter × UInt64))
    (o : Outlet σ) : Outlet σ :=
  calls.foldl (fun o call => (a.commitThreshold t call.1 call.2 o).2) o

/-- Commits run from the connection that is kept before to the one that is kept behind them. -/
theorem runs_commitThresholds (ht : t.Logs log) (calls : List (Counter × UInt64))
    (o : Outlet σ) :
    ∃ cs, log (a.commitThresholds t calls o).world = log o.world ++ cs.map Contact.line ∧
      Contact.Runs (inUse o.kept) cs (inUse (a.commitThresholds t calls o).kept) := by
  induction calls generalizing o with
  | nil => exact ⟨[], (List.append_nil _).symm, .nil⟩
  | cons call rest ih =>
    obtain ⟨cs, hcs, hcommitted⟩ := contacts_commitThreshold (a := a) ht call.1 call.2 o
    obtain ⟨more, hmore, hrest⟩ := ih (a.commitThreshold t call.1 call.2 o).2
    refine ⟨cs ++ more, ?_, hcommitted.runs.append hrest⟩
    rw [List.map_append, ← List.append_assoc]
    exact hmore.trans (congrArg (· ++ more.map Contact.line) hcs)

/-- **The connection that is kept.** Whatever thresholds have been committed, on whatever
transport and with whatever results, all that has been done ran along one connection at a time,
and the requests on each of them have the numbers from zero in the order in which they were sent.
The next commit keeps a connection exactly if it succeeds. It opens at most one connection, and
only if none was kept or the one that was has failed it. If it succeeds, its request has gone out
once, and no other has, on the connection that is then kept; if it fails, then so did the attempt
to open a connection, or what was done last on the one that it has opened. -/
theorem commitThreshold_keeps_connection (t : Transport σ) (a : Access) (w : Logged σ)
    (calls : List (Counter × UInt64)) :
    let o := a.commitThresholds t.logged calls { kept := none, world := w }
    (∃ cs, o.world.log = w.log ++ cs.map Contact.line ∧ Sessions cs) ∧
    ∀ c value,
      let next := a.commitThreshold t.logged c value o
      let params := thresholdUpdate a.database c.rowName value
      ∃ cs, next.2.world.log = o.world.log ++ cs.map Contact.line ∧
        (next.2.kept.isSome = true ↔ next.1 = .ok ()) ∧
        (∀ before r after, cs = before ++ .opened r :: after →
          (∀ r', .opened r' ∉ before) ∧ (∀ r', .opened r' ∉ after) ∧
          (o.kept = none ∨ ∃ client front last, o.kept = some client ∧ before = front ++ [last] ∧
            last.conn? = some client.conn ∧ last.fails = true)) ∧
        (next.1 = .ok () → ∃ client id, next.2.kept = some client ∧
          cs.filter Contact.goesOut =
            [.wrote client.conn (.request "transact" params (.int id)) (.ok ())]) ∧
        ∀ e, next.1 = .error e → ∃ before,
          (∃ reason, cs = before ++ [.opened (.error reason)]) ∨
          ∃ conn front last, cs = before ++ .opened (.ok conn) :: (front ++ [last]) ∧
            last.conn? = some conn ∧ last.fails = true := by
  intro o
  have ht := t.logged_logs
  refine ⟨?_, ?_⟩
  · obtain ⟨cs, hcs, hruns⟩ := runs_commitThresholds (a := a) ht calls { kept := none, world := w }
    exact ⟨cs, hcs, hruns.sessions⟩
  · intro c value next params
    obtain ⟨cs, hcs, hcommitted⟩ := contacts_commitThreshold (a := a) ht c value o
    refine ⟨cs, hcs, hcommitted.isSome_iff, ?_, ?_, ?_⟩
    · intro before r after heq
      obtain ⟨hbefore, hafter, hopened⟩ := hcommitted.opened heq
      refine ⟨hbefore, hafter, ?_⟩
      rcases hopened with ⟨hnone, -⟩ | ⟨client, hkept, hlost⟩
      · exact .inl hnone
      · obtain ⟨front, last, hfront, hlast⟩ := hlost.exists_fails
        exact .inr ⟨client, front, last, hkept, hfront, hlast⟩
    · intro hok
      obtain ⟨client, hkept, hout⟩ := hcommitted.goesOut hok
      exact ⟨_, client.nextId, hkept, hout⟩
    · intro e he
      have hcommitted' : Committed params o.kept (.error e) next.2.kept cs := he ▸ hcommitted
      obtain ⟨before, ⟨reason, hreason⟩ | ⟨client, after, hafter, hlost⟩⟩ :=
        hcommitted'.exists_of_error
      · exact ⟨before, .inl ⟨reason, hreason⟩⟩
      · obtain ⟨front, last, rfl, hlast⟩ := hlost.exists_fails
        exact ⟨before, .inr ⟨client.conn, front, last, hafter, hlast⟩⟩

end Access

end BufferTelemetry.Database
