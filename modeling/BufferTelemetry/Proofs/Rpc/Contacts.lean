import BufferTelemetry.Proofs.Rpc.Emission
import BufferTelemetry.Proofs.Rpc.Looks

/-!
# What is done at a transport

A transport `Logs` if its world keeps all that is done at it in the order in which it is done,
with what comes of it: connections that are opened, lines that are asked for, and lines that are
written, those that could not be written among them. Every transport can be made to do so
(`Transport.logged`). Taking in what has arrived asks for lines and writes replies, on one
connection; it fails exactly if its last contact does, and no contact fails before that one
(`contacts_drain`).

Where one connection is in use at a time, it is opened when none is and given up at the first
failure (`Contact.Step`). The requests on each connection are then numbered from zero without a
gap (`Sessions`).
-/

namespace BufferTelemetry.Rpc

/-- What is done at a transport, and what comes of it. -/
inductive Contact (τ : Type) where
  | opened (result : Except String ConnId)
  | asked (conn : ConnId) (p : Poll)
  | wrote (conn : ConnId) (x : τ) (result : Except String Unit)

namespace Contact

/-- The connection could not be opened, or it can no longer be used. -/
def fails {τ : Type} : Contact τ → Bool
  | .opened (.error _) | .asked _ .ended | .asked _ (.failed _) | .wrote _ _ (.error _) => true
  | _ => false

/-- The connection that the contact is on. -/
def conn? {τ : Type} : Contact τ → Option ConnId
  | .opened (.ok conn) | .asked conn _ | .wrote conn _ _ => some conn
  | .opened (.error _) => none

/-- The contact as the transport sees it. -/
def line : Contact Message → Contact String
  | .opened result => .opened result
  | .asked conn p => .asked conn p
  | .wrote conn m result => .wrote conn m.line result

end Contact

/-- The log in a transport's world grows by what is done, and only by that. -/
structure Transport.Logs {σ : Type} (t : Transport σ) (log : σ → List (Contact String)) :
    Prop where
  connect : ∀ endpoint limit s,
    log (t.connect endpoint limit s).2 = log s ++ [.opened (t.connect endpoint limit s).1]
  send : ∀ conn line s,
    log (t.send conn line s).2 = log s ++ [.wrote conn line (t.send conn line s).1]
  poll : ∀ conn s, log (t.poll conn s).2 = log s ++ [.asked conn (t.poll conn s).1]
  settle : ∀ s, log (t.settle s) = log s

structure Logged (σ : Type) where
  world : σ
  log : List (Contact String)

/-- The transport with a log of what is done. -/
def Transport.logged {σ : Type} (t : Transport σ) : Transport (Logged σ) where
  connect endpoint limit w :=
    let (result, s) := t.connect endpoint limit w.world
    (result, ⟨s, w.log ++ [.opened result]⟩)
  send conn line w :=
    let (result, s) := t.send conn line w.world
    (result, ⟨s, w.log ++ [.wrote conn line result]⟩)
  poll conn w :=
    let (p, s) := t.poll conn w.world
    (p, ⟨s, w.log ++ [.asked conn p]⟩)
  settle w := ⟨t.settle w.world, w.log⟩
  patience conn w := t.patience conn w.world

theorem Transport.logged_logs {σ : Type} (t : Transport σ) : t.logged.Logs Logged.log where
  connect _ _ _ := rfl
  send _ _ _ := rfl
  poll _ _ := rfl
  settle _ := rfl

/-! ## Taking in what has arrived -/

/-- A line is asked for on the connection, or a reply is written on it. -/
inductive Contact.Intake (conn : ConnId) : Contact Message → Prop
  | asked {p : Poll} : Intake conn (.asked conn p)
  | replied {x id : Json} {result : Except String Unit} :
      Intake conn (.wrote conn (.reply x id) result)

/-- What has arrived on a connection is taken in, and nothing fails. -/
def Clean (conn : ConnId) (cs : List (Contact Message)) : Prop :=
  ∀ c ∈ cs, c.Intake conn ∧ c.fails = false

/-- What has arrived on a connection is taken in, up to a contact that fails. -/
def Broken (conn : ConnId) (cs : List (Contact Message)) : Prop :=
  ∃ front last, cs = front ++ [last] ∧ Clean conn front ∧ last.Intake conn ∧ last.fails = true

section TakingIn

variable {conn : ConnId} {c : Contact Message} {cs more : List (Contact Message)}

theorem Contact.Intake.conn?_eq (h : c.Intake conn) : c.conn? = some conn := by
  cases h <;> rfl

theorem Clean.nil : Clean conn [] := nofun

theorem Clean.singleton (h : c.Intake conn) (hfails : c.fails = false) : Clean conn [c] := by
  intro c' hc'
  rw [List.mem_singleton.1 hc']
  exact ⟨h, hfails⟩

theorem Clean.append (h : Clean conn cs) (hmore : Clean conn more) : Clean conn (cs ++ more) := by
  intro c hc
  rcases List.mem_append.1 hc with hc | hc
  · exact h c hc
  · exact hmore c hc

theorem Clean.opened_notMem (h : Clean conn cs) (r : Except String ConnId) : .opened r ∉ cs := by
  intro hmem
  cases (h _ hmem).1

theorem Broken.singleton (h : c.Intake conn) (hfails : c.fails = true) : Broken conn [c] :=
  ⟨[], c, rfl, .nil, h, hfails⟩

theorem Clean.append_broken (h : Clean conn cs) (hmore : Broken conn more) :
    Broken conn (cs ++ more) := by
  obtain ⟨front, last, rfl, hfront, hlast, hfails⟩ := hmore
  exact ⟨cs ++ front, last, (List.append_assoc ..).symm, h.append hfront, hlast, hfails⟩

end TakingIn

namespace Client

variable {σ : Type} {t : Transport σ} {log : σ → List (Contact String)}

def logOf (log : σ → List (Contact String)) (w : Client × σ) : List (Contact String) := log w.2

/-- The contacts that an operation of a client makes. -/
abbrev Contacts {α : Type} (log : σ → List (Contact String)) (a : ClientAction σ α)
    (Q : Client × σ → Except Error α → Client × σ → List (Contact Message) → Prop) : Prop :=
  Action.Emits (logOf log) Contact.line a Q

/-- A message is written, or cannot be written, and then the operation fails. -/
theorem contacts_send (ht : t.Logs log) (m : Message) :
    Contacts log (send t m) fun w result w' cs => w'.1 = w.1 ∧
      ((result = .ok () ∧ cs = [.wrote w.1.conn m (.ok ())]) ∨
        ∃ e reason, result = .error e ∧ cs = [.wrote w.1.conn m (.error reason)]) := by
  intro (c, s)
  have hsend := run_send t m c s
  have hgrows := ht.send c.conn m.line s
  unfold run at hsend
  rw [hsend]
  rcases heq : t.send c.conn m.line s with ⟨reason | _, s'⟩
  all_goals rw [heq] at hgrows
  · exact ⟨[.wrote c.conn m (.error reason)], hgrows, rfl, .inr ⟨_, reason, rfl, rfl⟩⟩
  · exact ⟨[.wrote c.conn m (.ok ())], hgrows, rfl, .inl ⟨rfl, rfl⟩⟩

/-- An operation takes in what has arrived, and fails as its last contact does. -/
def TakesIn {α : Type} (w : Client × σ) (result : Except Error α) (w' : Client × σ)
    (cs : List (Contact Message)) : Prop :=
  w'.1 = w.1 ∧
    match result with
    | .ok _ => Clean w.1.conn cs
    | .error _ => Broken w.1.conn cs

theorem TakesIn.silent {α : Type} {x : α} (w : Client × σ) : TakesIn w (.ok x) w [] :=
  ⟨rfl, .nil⟩

theorem contacts_accept (ht : t.Logs log) (text : String) :
    Contacts log (accept t text) fun w result w' cs =>
      TakesIn w result w' cs ∧ result ≠ .ok .ended := by
  unfold accept
  split
  · rename_i params id _
    refine (contacts_send ht (.reply params id)).bind_pure (g := fun _ => Arrival.handled) ?_ ?_
    · rintro w e w' cs ⟨hclient, ⟨he, -⟩ | ⟨e', reason, -, rfl⟩⟩
      · cases he
      · exact ⟨⟨hclient, .singleton .replied rfl⟩, nofun⟩
    · rintro w x w' cs ⟨hclient, ⟨-, rfl⟩ | ⟨e', reason, he, -⟩⟩
      · exact ⟨⟨hclient, .singleton .replied rfl⟩, nofun⟩
      · cases he
  · exact .pure fun w => ⟨.silent w, nofun⟩
  · exact .pure fun w => ⟨.silent w, nofun⟩

/-- A look asks for a line and takes it in. The end of the stream counts as a failure here. -/
theorem contacts_look (ht : t.Logs log) :
    Contacts log (look t) fun w result w' cs => w'.1 = w.1 ∧
      match result with
      | .ok .ended | .error _ => Broken w.1.conn cs
      | .ok _ => Clean w.1.conn cs := by
  have hpoll : Contacts log
      (fun w => (.ok (t.poll w.1.conn w.2).1, w.1, (t.poll w.1.conn w.2).2) : ClientAction σ Poll)
      fun w result w' cs => w'.1 = w.1 ∧ ∃ p, result = .ok p ∧ cs = [.asked w.1.conn p] := by
    rintro ⟨c, s⟩
    exact ⟨[.asked c.conn (t.poll c.conn s).1], ht.poll c.conn s, rfl, _, rfl, rfl⟩
  unfold look
  refine hpoll.bind (R := fun p w result w' cs => w'.1 = w.1 ∧
    (((∃ text, p = .line text) ∧ TakesIn w result w' cs ∧ result ≠ .ok .ended) ∨
      (p = .pending ∧ result = .ok .nothing ∧ cs = []) ∨
      (p = .ended ∧ result = .ok .ended ∧ cs = []) ∨
      ∃ e e', p = .failed e ∧ result = .error e' ∧ cs = [])) ?_ ?_ ?_
  · intro p
    cases p with
    | line text =>
      exact (contacts_accept ht text).imp fun w result w' cs h =>
        ⟨h.1.1, .inl ⟨⟨text, rfl⟩, h⟩⟩
    | pending => exact .pure fun w => ⟨rfl, .inr (.inl ⟨rfl, rfl, rfl⟩)⟩
    | ended => exact .pure fun w => ⟨rfl, .inr (.inr (.inl ⟨rfl, rfl, rfl⟩))⟩
    | failed e => exact .throw fun w => ⟨rfl, .inr (.inr (.inr ⟨e, _, rfl, rfl, rfl⟩))⟩
  · rintro w e w' cs ⟨-, p, he, -⟩
    cases he
  · rintro w p w' cs result w'' more ⟨hclient, p', hp, rfl⟩ ⟨hclient', hmore⟩
    cases hp
    rw [hclient] at hclient'
    refine ⟨hclient', ?_⟩
    rcases hmore with ⟨⟨text, rfl⟩, ⟨-, htakes⟩, hne⟩ | ⟨rfl, rfl, rfl⟩ | ⟨rfl, rfl, rfl⟩ |
      ⟨e, e', rfl, rfl, rfl⟩
    · rw [hclient] at htakes
      have hasked : Clean w.1.conn [.asked w.1.conn (.line text)] := .singleton .asked rfl
      rcases result with e | (m | _ | _ | _)
      · exact hasked.append_broken htakes
      · exact hasked.append htakes
      · exact hasked.append htakes
      · exact absurd rfl hne
      · exact hasked.append htakes
    · exact .singleton .asked rfl
    · exact .singleton .asked rfl
    · exact .singleton .asked rfl

theorem contacts_drainWithin (ht : t.Logs log) (n : Nat) :
    Contacts log (drainWithin t n) TakesIn := by
  induction n with
  | zero => exact .pure .silent
  | succ n ih =>
    unfold drainWithin
    -- only the end of the stream ends the draining; behind all else it goes on
    refine (contacts_look ht).bind (R := fun arrival w result w' cs =>
      (arrival = .ended ∧ w'.1 = w.1 ∧ (∃ e, result = .error e) ∧ cs = []) ∨
        (arrival ≠ .ended ∧ TakesIn w result w' cs)) ?_ ?_ ?_
    · intro arrival
      cases arrival with
      | message m =>
        exact ih.bind_pure (fun w e w' cs h => .inr ⟨nofun, h⟩) fun w x w' cs h => .inr ⟨nofun, h⟩
      | handled => exact ih.imp fun w result w' cs h => .inr ⟨nofun, h⟩
      | nothing => exact .pure fun w => .inr ⟨nofun, .silent w⟩
      | ended =>
        intro w
        exact ⟨[], (List.append_nil _).symm, .inl ⟨rfl, rfl, ⟨_, rfl⟩, rfl⟩⟩
    · rintro w e w' cs h
      exact h
    · rintro w arrival w' cs result w'' more ⟨hclient, hlook⟩
        (⟨rfl, hclient', ⟨e, rfl⟩, rfl⟩ | ⟨hne, hclient', htakes⟩)
      · rw [List.append_nil]
        exact ⟨hclient'.trans hclient, hlook⟩
      · have hclean : Clean w.1.conn cs := by
          cases arrival with
          | message m => exact hlook
          | handled => exact hlook
          | nothing => exact hlook
          | ended => exact absurd rfl hne
        rw [hclient] at hclient' htakes
        refine ⟨hclient', ?_⟩
        cases result with
        | error e => exact hclean.append_broken htakes
        | ok x => exact hclean.append htakes

/-- **Draining** takes in what has arrived, and fails as its last contact does. -/
theorem contacts_drain (ht : t.Logs log) : Contacts log (drain t) TakesIn := by
  refine .bind_silent (P := fun w result w' => (∃ n, result = .ok n) ∧ w' = w) (fun _ => rfl)
    (fun _ => ⟨⟨_, rfl⟩, rfl⟩) (contacts_drainWithin ht) ?_ ?_
  · rintro w e w' ⟨⟨n, hn⟩, -⟩
    cases hn
  · rintro w n w' result w'' cs ⟨-, rfl⟩ h
    exact h

/-- A request takes the next number, whether or not it can be written. -/
theorem contacts_sendRequest (ht : t.Logs log) (method : String) (params : Json) :
    Contacts log (sendRequest t method params) fun w result w' cs =>
      let request := Message.request method params (.int w.1.nextId)
      w'.1 = { w.1 with nextId := w.1.nextId + 1 } ∧
        (((∃ id, result = .ok id) ∧ cs = [.wrote w.1.conn request (.ok ())]) ∨
          ∃ e reason, result = .error e ∧ cs = [.wrote w.1.conn request (.error reason)]) := by
  intro (c, s)
  have hrun := run_sendRequest t method params c s
  have hgrows := ht.send c.conn (Message.request method params (.int c.nextId)).line s
  unfold run at hrun
  rw [hrun]
  rcases heq : t.send c.conn (Message.request method params (.int c.nextId)).line s with
    ⟨reason | _, s'⟩
  all_goals rw [heq] at hgrows
  · exact ⟨[.wrote c.conn _ (.error reason)], hgrows, rfl, .inr ⟨_, reason, rfl, rfl⟩⟩
  · exact ⟨[.wrote c.conn _ (.ok ())], hgrows, rfl, .inl ⟨⟨_, rfl⟩, rfl⟩⟩

end Client

/-! ## One connection at a time -/

/-- How the connection in use, with the number of its next request, changes with what is done. -/
inductive Contact.Step : Option (ConnId × Nat) → Contact Message → Option (ConnId × Nat) → Prop
  | opened {conn : ConnId} : Step none (.opened (.ok conn)) (some (conn, 0))
  | refused {reason : String} : Step none (.opened (.error reason)) none
  | takesIn {conn : ConnId} {n : Nat} {c : Contact Message} (h : c.Intake conn)
      (hfails : c.fails = false) : Step (some (conn, n)) c (some (conn, n))
  | breaks {conn : ConnId} {n : Nat} {c : Contact Message} (h : c.Intake conn)
      (hfails : c.fails = true) : Step (some (conn, n)) c none
  | requests {conn : ConnId} {n : Nat} {method : String} {params : Json} :
      Step (some (conn, n)) (.wrote conn (.request method params (.int n)) (.ok ()))
        (some (conn, n + 1))
  | loses {conn : ConnId} {n : Nat} {method : String} {params : Json} {reason : String} :
      Step (some (conn, n)) (.wrote conn (.request method params (.int n)) (.error reason)) none

/-- One thing is done after the other. -/
inductive Contact.Runs :
    Option (ConnId × Nat) → List (Contact Message) → Option (ConnId × Nat) → Prop
  | nil {s : Option (ConnId × Nat)} : Runs s [] s
  | cons {s s' s'' : Option (ConnId × Nat)} {c : Contact Message} {cs : List (Contact Message)}
      (h : Step s c s') (hrest : Runs s' cs s'') : Runs s (c :: cs) s''

/-- The numbers of the requests, whether or not they could be written. -/
def attempted (cs : List (Contact Message)) : List Json :=
  cs.filterMap fun
    | .wrote _ (.request _ _ id) _ => some id
    | _ => none

/-- A request has been written. -/
def Contact.goesOut : Contact Message → Bool
  | .wrote _ (.request ..) (.ok ()) => true
  | _ => false

/-- The numbers of the requests that have been written. -/
def accepted (cs : List (Contact Message)) : List Json := attempted (cs.filter Contact.goesOut)

section Running

variable {s s' s'' : Option (ConnId × Nat)} {conn : ConnId} {n : Nat} {c : Contact Message}
  {cs more : List (Contact Message)}

theorem Contact.Runs.append (h : Runs s cs s') (hmore : Runs s' more s'') :
    Runs s (cs ++ more) s'' := by
  induction h with
  | nil => exact hmore
  | cons hstep _ ih => exact .cons hstep (ih hmore)

theorem Contact.Runs.singleton (h : Step s c s') : Runs s [c] s' := .cons h .nil

/-- What is done can be cut at any place. -/
theorem Contact.Runs.cut (h : Runs s (cs ++ more) s'') : ∃ s', Runs s cs s' ∧ Runs s' more s'' := by
  induction cs generalizing s with
  | nil => exact ⟨s, .nil, h⟩
  | cons c rest ih =>
    cases h with
    | cons hstep hrest =>
      obtain ⟨s', hfirst, hmore⟩ := ih hrest
      exact ⟨s', .cons hstep hfirst, hmore⟩

theorem Clean.runs (h : Clean conn cs) : Contact.Runs (some (conn, n)) cs (some (conn, n)) := by
  induction cs with
  | nil => exact .nil
  | cons c rest ih =>
    obtain ⟨hintake, hfails⟩ := h c List.mem_cons_self
    exact .cons (.takesIn hintake hfails) (ih fun c hc => h c (List.mem_cons_of_mem _ hc))

theorem Contact.goesOut_of_fails (h : c.fails = true) : c.goesOut = false := by
  match c, h with
  | .opened (.error _), _ => rfl
  | .asked _ .ended, _ => rfl
  | .asked _ (.failed _), _ => rfl
  | .wrote _ (.request ..) (.error _), _ => rfl
  | .wrote _ (.notify ..) (.error _), _ => rfl
  | .wrote _ (.reply ..) (.error _), _ => rfl
  | .wrote _ (.error ..) (.error _), _ => rfl

theorem Clean.filter_goesOut (h : Clean conn cs) : cs.filter Contact.goesOut = [] := by
  refine List.filter_eq_nil_iff.2 ?_
  intro c hc
  cases (h c hc).1 <;> exact Bool.false_ne_true

theorem Contact.Intake.attempted (h : c.Intake conn) (cs : List (Contact Message)) :
    attempted (c :: cs) = Rpc.attempted cs ∧ accepted (c :: cs) = Rpc.accepted cs := by
  cases h <;> exact ⟨rfl, rfl⟩

/-- As long as no connection is in use and none can be opened, nothing else is done. -/
theorem Contact.Runs.refused (h : Runs none cs s) (hopened : ∀ conn, .opened (.ok conn) ∉ cs) :
    (∀ c ∈ cs, ∃ reason, c = .opened (.error reason)) ∧
      attempted cs = [] ∧ accepted cs = [] := by
  induction cs with
  | nil => exact ⟨nofun, rfl, rfl⟩
  | cons c rest ih =>
    cases h with
    | cons hstep hrest =>
      cases hstep with
      | opened => exact absurd List.mem_cons_self (hopened _)
      | refused =>
        obtain ⟨hrefused, hattempted, haccepted⟩ :=
          ih hrest fun conn hmem => hopened conn (List.mem_cons_of_mem _ hmem)
        refine ⟨?_, hattempted, haccepted⟩
        intro c hc
        rcases List.mem_cons.1 hc with rfl | hc
        · exact ⟨_, rfl⟩
        · exact hrefused c hc

/-- **One connection.** Until another connection is opened, what is done is done on the one in
use, and when that is given up, no more than attempts to open another. The requests take the
next numbers in turn, and only the last of them may fail. -/
theorem Contact.Runs.session (h : Runs (some (conn, n)) cs s)
    (hopened : ∀ conn, .opened (.ok conn) ∉ cs) :
    (∀ c ∈ cs, c.conn? = some conn ∨ ∃ reason, c = .opened (.error reason)) ∧
      (∃ k, attempted cs = (List.range' n k).map fun (i : Nat) => Json.int i) ∧
      accepted cs <+: attempted cs := by
  induction cs generalizing n with
  | nil => exact ⟨nofun, ⟨0, rfl⟩, List.prefix_rfl⟩
  | cons c rest ih =>
    have hrestOpened : ∀ conn, .opened (.ok conn) ∉ rest :=
      fun conn hmem => hopened conn (List.mem_cons_of_mem _ hmem)
    cases h with
    | cons hstep hrest =>
      cases hstep with
      | takesIn hintake hfails =>
        obtain ⟨hattempted, haccepted⟩ := hintake.attempted rest
        obtain ⟨hconn, hnumbers, hprefix⟩ := ih hrest hrestOpened
        rw [hattempted, haccepted]
        refine ⟨?_, hnumbers, hprefix⟩
        intro c' hc'
        rcases List.mem_cons.1 hc' with rfl | hc'
        · exact .inl hintake.conn?_eq
        · exact hconn c' hc'
      | breaks hintake hfails =>
        obtain ⟨hattempted, haccepted⟩ := hintake.attempted rest
        obtain ⟨hrefused, hnone, hnone'⟩ := hrest.refused hrestOpened
        rw [hattempted, haccepted, hnone, hnone']
        refine ⟨?_, ⟨0, rfl⟩, List.prefix_rfl⟩
        intro c' hc'
        rcases List.mem_cons.1 hc' with rfl | hc'
        · exact .inl hintake.conn?_eq
        · exact .inr (hrefused c' hc')
      | requests =>
        obtain ⟨hconn, ⟨k, hk⟩, hprefix⟩ := ih hrest hrestOpened
        refine ⟨?_, ⟨k + 1, ?_⟩, ?_⟩
        · intro c' hc'
          rcases List.mem_cons.1 hc' with rfl | hc'
          · exact .inl rfl
          · exact hconn c' hc'
        · show Json.int n :: attempted rest = _
          rw [hk, List.range'_succ, List.map_cons]
        · exact (List.prefix_cons_inj (Json.int n)).2 hprefix
      | loses =>
        obtain ⟨hrefused, hnone, hnone'⟩ := hrest.refused hrestOpened
        refine ⟨?_, ⟨1, ?_⟩, ?_⟩
        · intro c' hc'
          rcases List.mem_cons.1 hc' with rfl | hc'
          · exact .inl rfl
          · exact .inr (hrefused c' hc')
        · show Json.int n :: attempted rest = _
          rw [hnone]
          rfl
        · show accepted rest <+: _
          rw [hnone']
          exact List.nil_prefix

/-- What is done runs along one connection at a time. Where the next connection is opened is
where the session on the one before ends. -/
structure Sessions (cs : List (Contact Message)) : Prop where
  /-- Before the first connection there are no more than attempts to open one. -/
  before : ∀ front rest, cs = front ++ rest → (∀ conn, .opened (.ok conn) ∉ front) →
    ∀ c ∈ front, ∃ reason, c = .opened (.error reason)
  /-- A session is on its own connection, and numbers its requests in the order in which they are
  made, be they written or not. -/
  numbered : ∀ before conn session rest,
    cs = before ++ .opened (.ok conn) :: (session ++ rest) →
    (∀ conn, .opened (.ok conn) ∉ session) →
    (∀ c ∈ session, c.conn? = some conn ∨ ∃ reason, c = .opened (.error reason)) ∧
      (∃ k, attempted session = (List.range k).map fun (i : Nat) => Json.int i) ∧
      accepted session <+: attempted session

theorem Contact.Runs.sessions (h : Runs none cs s) : Sessions cs where
  before front rest hcs hopened := by
    rw [hcs] at h
    obtain ⟨s', hfront, -⟩ := h.cut
    exact (hfront.refused hopened).1
  numbered before conn session rest hcs hopened := by
    rw [hcs] at h
    obtain ⟨s', -, hsession⟩ := h.cut
    cases hsession with
    | cons hstep hrest =>
      cases hstep with
      | opened =>
        obtain ⟨s'', hsession, -⟩ := hrest.cut
        simp only [List.range_eq_range']
        exact hsession.session hopened
      | takesIn hintake | breaks hintake => cases hintake

end Running

end BufferTelemetry.Rpc
