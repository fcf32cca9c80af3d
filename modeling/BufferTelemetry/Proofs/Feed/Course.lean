import BufferTelemetry.Proofs.Feed.Lines
import BufferTelemetry.Proofs.Rpc.Arrivals

/-!
# What a feed makes of lines

A feed that starts opens its connection and writes its subscription, and it stops at once only if
the transport does not let it (`Subscribing`, `start_subscribes`). Behind the subscription it
writes nothing but replies to echo requests, each before it takes the next line in. Whatever the
transport does, the feed is at any time in one of four conditions (`Made`): it waits, and has
folded all updates in; it takes in a batch, and has folded all updates in but those of the batch;
its subscription was rejected, and it has folded the updates before that in; or the transport has
failed it, at a look at which its connection was over (`run_breaks`). While the connection stays
open, the last is out of the question, and at the end of each batch the feed has dealt with all
lines but the noise (`run_of_batches`, `start_folds_lines`).
-/

namespace BufferTelemetry.Database.Feed

open Rpc Rpc.Client

variable {σ : Type} {t : Transport σ} {trace : σ → List Crossing}

/-- What a feed has made of the lines that it has taken in, with the turns that this took. -/
inductive Made (x : Replica × List Event) (c : Client) :
    List String → List Turn → Feed → Replica × List Event → Prop
  | waiting {lines : List String} : rejectionIn lines = none →
      Made x c lines (exchanges c.conn lines) (.waiting c 0) (absorb (updatesIn lines) x)
  | taking {settled behind : List String} : rejectionIn settled = none →
      Made x c (settled ++ behind) (exchanges c.conn (settled ++ behind))
        (.taking c 0 (behind.filterMap handed?)) (absorb (updatesIn settled) x)
  | rejected {lines : List String} {e : Json} : rejectionIn lines = some e →
      Made x c lines (exchanges c.conn lines) (.stopped (.error (rejected e)))
        (absorb (updatesIn lines) x)
  | failed {settled behind : List String} {turns : List Turn} (reason : String) :
      Exchanged c.conn (settled ++ behind) turns →
      Made x c (settled ++ behind) turns (.stopped (.error (.transport reason)))
        (absorb (updatesIn settled) x)

section Steps

variable {x : Replica × List Event} {c : Client} {w : FeedWorld σ}
  {lines settled behind more : List String} {turns : List Turn} {m : Message} {id : Nat}

/-- A message that was waited for is dealt with as a batch of one would be, and starts the next
batch. -/
theorem onMessage_dealt (c : Client) (id : Nat) (m : Message) (w : FeedWorld σ) :
    ∃ w', onMessage c id m w =
        (match rejection? id [m] with
          | some e => .stopped (.error e)
          | none => .taking c id [], w') ∧
      w'.world = w.world ∧ w'.shown = absorb (payloads id [m]) w.shown := by
  rw [onMessage_eq]
  cases hm : delivery id m with
  | error e =>
    rw [rejection?_cons_error hm, payloads_cons_error hm]
    exact ⟨w, rfl, rfl, rfl⟩
  | ok u =>
    rw [rejection?_cons_ok hm]
    cases u with
    | none =>
      rw [payloads_cons_none hm]
      exact ⟨w, rfl, rfl, rfl⟩
    | some u =>
      rw [payloads_cons_some hm]
      exact ⟨_, rfl, rfl, rfl⟩

theorem absorb_updatesIn_append (hnone : rejectionIn lines = none) :
    absorb (updatesIn (lines ++ more)) x =
      absorb (updatesIn more) (absorb (updatesIn lines) x) := by
  rw [updatesIn_append, hnone, ← absorb_append]
  rfl

theorem rejectionIn_append_of_none (hnone : rejectionIn lines = none) (more : List String) :
    rejectionIn (lines ++ more) = rejectionIn more := by
  rw [rejectionIn_append, hnone, Option.none_or]

theorem noise_of_unhanded {line : String} (h : handed? line = none) :
    rejectionIn [line] = none ∧ updatesIn [line] = [] := by
  obtain ⟨hupdate, hrejection⟩ := of_counts_eq_false (counts_of_unhanded h)
  rw [rejectionIn, List.findSome?_singleton, updatesIn_cons, hupdate, hrejection]
  exact ⟨rfl, rfl⟩

theorem run_look_turns (ht : t.Traces trace) (c : Client) (s : σ) :
    ∃ look s' lines turns, Client.run (Client.look t) c s = (look, c, s') ∧
      trace s' = trace s ++ turns.map Turn.crossing ∧ Brings c.conn look lines turns := by
  obtain ⟨turns, hturns, hclient, lines, hbrings⟩ := turns_look ht (c, s)
  refine ⟨_, _, lines, turns, ?_, hturns, hbrings⟩
  rw [Prod.ext_iff, Prod.ext_iff]
  exact ⟨rfl, hclient, rfl⟩

/-- A feed that waits takes the next line in and deals with its message at once. -/
theorem step_waiting_made (ht : t.Traces trace) (hnone : rejectionIn lines = none)
    (hshown : w.shown = absorb (updatesIn lines) x) :
    ∃ more rest, trace (step t (.waiting c 0) w).2.world =
        trace w.world ++ rest.map Turn.crossing ∧
      Made x c (lines ++ more) (exchanges c.conn lines ++ rest) (step t (.waiting c 0) w).1
        (step t (.waiting c 0) w).2.shown := by
  obtain ⟨look, s', more, rest, hlook, hgrows, hbrings⟩ := run_look_turns ht c w.world
  refine ⟨more, rest, ?_⟩
  have hexchanged := hbrings.exchanged.prepend lines
  cases hbrings with
  | @message line m hhanded =>
    obtain ⟨w', honMessage, hworld, hshown'⟩ := onMessage_dealt c 0 m (looked w s')
    have hmessages : [m] = [line].filterMap handed? := by
      rw [List.filterMap_cons_some hhanded, List.filterMap_nil]
    rw [step_waiting_message hlook, honMessage]
    refine ⟨(congrArg trace hworld).trans hgrows, ?_⟩
    rw [hshown', shown_looked, hshown, hmessages, payloads_handed, rejection?_handed,
      ← exchanges_append, ← absorb_updatesIn_append hnone]
    have happend := rejectionIn_append_of_none hnone [line]
    cases hrejection : rejectionIn [line] with
    | some e => exact .rejected (happend.trans hrejection)
    | none =>
      have htaking : Made x c (lines ++ [line] ++ []) _ (.taking c 0 []) _ :=
        .taking (happend.trans hrejection)
      rw [List.append_nil] at htaking
      exact htaking
  | handled hhanded =>
    obtain ⟨hrejection, hupdates⟩ := noise_of_unhanded hhanded
    rw [step_waiting_handled hlook]
    refine ⟨hgrows, ?_⟩
    rw [shown_looked, hshown, ← exchanges_append]
    have hwaiting := Made.waiting (x := x) (c := c)
      ((rejectionIn_append_of_none hnone _).trans hrejection)
    rw [absorb_updatesIn_append hnone, hupdates] at hwaiting
    exact hwaiting
  | nothing =>
    rw [step_waiting_nothing hlook]
    refine ⟨hgrows, ?_⟩
    rw [shown_looked, hshown, List.append_nil, List.append_nil]
    exact .waiting hnone
  | ended | failed | unanswered =>
    rw [step_waiting_failed hlook rfl]
    refine ⟨hgrows, ?_⟩
    rw [shown_looked, hshown]
    exact .failed _ hexchanged

/-- A feed that takes a batch in deals with its messages when nothing more arrives. -/
theorem step_taking_made (ht : t.Traces trace) (hnone : rejectionIn settled = none)
    (hshown : w.shown = absorb (updatesIn settled) x) :
    ∃ more rest, trace (step t (.taking c 0 (behind.filterMap handed?)) w).2.world =
        trace w.world ++ rest.map Turn.crossing ∧
      Made x c (settled ++ behind ++ more) (exchanges c.conn (settled ++ behind) ++ rest)
        (step t (.taking c 0 (behind.filterMap handed?)) w).1
        (step t (.taking c 0 (behind.filterMap handed?)) w).2.shown := by
  obtain ⟨look, s', more, rest, hlook, hgrows, hbrings⟩ := run_look_turns ht c w.world
  refine ⟨more, rest, ?_⟩
  have hexchanged := hbrings.exchanged.prepend (settled ++ behind)
  cases hbrings with
  | @message line m hhanded =>
    have hmessages : (behind ++ [line]).filterMap handed? = behind.filterMap handed? ++ [m] := by
      rw [List.filterMap_append, List.filterMap_cons_some hhanded, List.filterMap_nil]
    rw [step_taking_message hlook]
    refine ⟨hgrows, ?_⟩
    rw [shown_looked, hshown, ← exchanges_append, List.append_assoc, ← hmessages]
    exact .taking hnone
  | @handled line hhanded =>
    have hmessages : (behind ++ [line]).filterMap handed? = behind.filterMap handed? := by
      rw [List.filterMap_append, List.filterMap_cons_none hhanded, List.filterMap_nil,
        List.append_nil]
    rw [step_taking_handled hlook]
    refine ⟨hgrows, ?_⟩
    rw [shown_looked, hshown, ← exchanges_append, List.append_assoc, ← hmessages]
    exact .taking hnone
  | nothing =>
    rw [step_taking_nothing hlook, dispatchAll_eq]
    refine ⟨hgrows, ?_⟩
    rw [rejection?_handed, payloads_handed, shown_looked, hshown, ← absorb_updatesIn_append hnone,
      List.append_nil, List.append_nil]
    have happend := rejectionIn_append_of_none hnone behind
    cases hrejection : rejectionIn behind with
    | some e => exact .rejected (happend.trans hrejection)
    | none => exact .waiting (happend.trans hrejection)
  | ended | failed | unanswered =>
    rw [step_taking_failed hlook rfl]
    refine ⟨hgrows, ?_⟩
    rw [shown_looked, hshown, List.append_assoc]
    rw [List.append_assoc] at hexchanged
    exact .failed _ hexchanged

/-- **A step** takes at most one line more in. -/
theorem step_made (ht : t.Traces trace) {f : Feed} {shown : Replica × List Event}
    (h : Made x c lines turns f shown) (hshown : w.shown = shown) :
    ∃ more rest, trace (step t f w).2.world = trace w.world ++ rest.map Turn.crossing ∧
      Made x c (lines ++ more) (turns ++ rest) (step t f w).1 (step t f w).2.shown := by
  have hstopped : ∀ result, Made x c lines turns (.stopped result) shown →
      ∃ more rest, trace (step t (.stopped result) w).2.world =
          trace w.world ++ rest.map Turn.crossing ∧
        Made x c (lines ++ more) (turns ++ rest) (step t (.stopped result) w).1
          (step t (.stopped result) w).2.shown := by
    intro result h
    refine ⟨[], [], (List.append_nil _).symm, ?_⟩
    rw [List.append_nil, List.append_nil]
    exact hshown ▸ h
  cases h with
  | waiting hnone => exact step_waiting_made ht hnone hshown
  | taking hnone => exact step_taking_made ht hnone hshown
  | rejected hrejection => exact hstopped _ (.rejected hrejection)
  | failed reason hexchanged => exact hstopped _ (.failed reason hexchanged)

/-- **A run** takes lines in as long as it lasts. -/
theorem run_made (ht : t.Traces trace) (n : Nat) {f : Feed}
    (h : Made x c lines turns f w.shown) :
    ∃ more rest, trace (run t n f w).2.world = trace w.world ++ rest.map Turn.crossing ∧
      Made x c (lines ++ more) (turns ++ rest) (run t n f w).1 (run t n f w).2.shown := by
  induction n generalizing w f lines turns with
  | zero =>
    refine ⟨[], [], (List.append_nil _).symm, ?_⟩
    rw [List.append_nil, List.append_nil]
    exact h
  | succ n ih =>
    obtain ⟨more, rest, hgrows, hstep⟩ := step_made ht h rfl
    obtain ⟨more', rest', hgrows', hrun⟩ := ih hstep
    rw [run_succ]
    refine ⟨more ++ more', rest ++ rest', ?_, ?_⟩
    · rw [hgrows', hgrows, List.append_assoc, List.map_append]
    · rw [← List.append_assoc, ← List.append_assoc]
      exact hrun

/-- The client of a feed that has not stopped. -/
def client? : Feed → Option Client
  | .waiting c _ => some c
  | .taking c _ _ => some c
  | .stopped _ => none

/-- How a step leaves a feed: it runs on, or the look that the step has taken has found its
connection over, or its subscription was rejected. -/
inductive Leaves (t : Transport σ) (c : Client) (s : σ) : Feed → Prop
  | running {f : Feed} : f.client? = some c → Leaves t c s f
  | broken {e : Error} : Breaks t c s e → Leaves t c s (.stopped (.error e))
  | rejected (text : String) : Leaves t c s (.stopped (.error (.failure text)))

theorem Leaves.of_dealt (id : Nat) (ms : List Message) {f : Feed} {s : σ}
    (hf : f.client? = some c) :
    Leaves t c s
      (match rejection? id ms with
        | some e => .stopped (.error e)
        | none => f) := by
  cases hrejection : rejection? id ms with
  | some e =>
    obtain ⟨text, rfl⟩ := rejection?_eq_failure hrejection
    exact .rejected text
  | none => exact .running hf

theorem step_leaves {f : Feed} (hf : f.client? = some c) :
    Leaves t c w.world (step t f w).1 := by
  obtain ⟨l, s, hlook⟩ := exists_run_look t c w.world
  cases f with
  | stopped result => cases hf
  | waiting c id =>
    cases hf
    cases hl : Look.failure? c l with
    | some e =>
      rw [step_waiting_failed hlook hl]
      exact .broken (breaks_of_failure hlook hl)
    | none =>
      rcases l with e | (m | _ | _ | _)
      · cases hl
      · obtain ⟨w', honMessage, -, -⟩ := onMessage_dealt c id m (looked w s)
        rw [step_waiting_message hlook, honMessage]
        exact .of_dealt id [m] rfl
      · rw [step_waiting_handled hlook]
        exact .running rfl
      · cases hl
      · rw [step_waiting_nothing hlook]
        exact .running rfl
  | taking c id taken =>
    cases hf
    cases hl : Look.failure? c l with
    | some e =>
      rw [step_taking_failed hlook hl]
      exact .broken (breaks_of_failure hlook hl)
    | none =>
      rcases l with e | (m | _ | _ | _)
      · cases hl
      · rw [step_taking_message hlook]
        exact .running rfl
      · rw [step_taking_handled hlook]
        exact .running rfl
      · cases hl
      · rw [step_taking_nothing hlook, dispatchAll_eq]
        exact .of_dealt id taken rfl

/-- **A run that the transport has stopped** has met a look at which the connection was over. -/
theorem run_breaks (n : Nat) {f : Feed} (hf : f.client? = some c) {reason : String}
    (hstopped : (run t n f w).1 = .stopped (.error (.transport reason))) :
    ∃ k < n, Breaks t c (run t k f w).2.world (.transport reason) := by
  induction n generalizing f w with
  | zero =>
    have hstart : f = .stopped (.error (.transport reason)) := hstopped
    rw [hstart] at hf
    cases hf
  | succ n ih =>
    rw [run_succ] at hstopped
    have hleaves : Leaves t c w.world (step t f w).1 := step_leaves hf
    generalize hstep : (step t f w).1 = f' at hleaves hstopped
    cases hleaves with
    | running hrunning =>
      subst hstep
      obtain ⟨k, hk, hbreaks⟩ := ih hrunning hstopped
      exact ⟨k + 1, Nat.succ_lt_succ hk, hbreaks⟩
    | broken hbreaks =>
      rw [run_stopped] at hstopped
      cases hstopped
      exact ⟨0, Nat.succ_pos n, hbreaks⟩
    | rejected text =>
      rw [run_stopped] at hstopped
      cases hstopped

end Steps

/-! ## Batches of lines -/

/-- The connection stays open, and lines arrive in batches: behind each there is nothing more for
the time being. -/
inductive ArrivesInBatches (t : Transport σ) (conn : ConnId) :
    List (List String) → σ → σ → Prop
  | done {s : σ} : ArrivesInBatches t conn [] s s
  | batch {lines : List String} {batches : List (List String)} {s s₁ s₂ s' : σ} :
      Arrives t conn lines s s₁ → t.poll conn s₁ = (.pending, s₂) →
      ArrivesInBatches t conn batches s₂ s' → ArrivesInBatches t conn (lines :: batches) s s'

/-- How often a feed looks at its connection until the batches are over. -/
def looksFor (batches : List (List String)) : Nat :=
  batches.flatten.length + batches.length

/-- A run has dealt with the messages, and the world is as given unless one of them rejects the
subscription. -/
structure DealtWith (c : Client) (id : Nat) (ms : List Message) (s : σ) (w : FeedWorld σ)
    (r : Feed × FeedWorld σ) : Prop where
  feed : r.1 =
    match rejection? id ms with
    | some e => .stopped (.error e)
    | none => .waiting c id
  shown : r.2.shown = absorb (payloads id ms) w.shown
  world : rejection? id ms = none → r.2.world = s

section Batches

variable {c : Client} {id : Nat} {ms more : List Message} {lines : List String}
  {batches : List (List String)} {s s₁ s₂ s' : σ} {w w' : FeedWorld σ} {r : Feed × FeedWorld σ}

theorem dealtWith_dispatchAll (c : Client) (id : Nat) (ms : List Message) (w : FeedWorld σ) :
    DealtWith c id ms w.world w (dispatchAll c id ms w) := by
  rw [dispatchAll_eq]
  exact ⟨rfl, rfl, fun _ => rfl⟩

theorem DealtWith.append (hshown : w'.shown = absorb (payloads id ms) w.shown)
    (hnone : rejection? id ms = none) (h : DealtWith c id more s w' r) :
    DealtWith c id (ms ++ more) s w r where
  feed := by rw [h.feed, rejection?_append, hnone, Option.none_or]
  shown := by
    rw [h.shown, hshown, payloads_append, hnone, ← absorb_append]
    rfl
  world hmore := by
    rw [rejection?_append, hnone, Option.none_or] at hmore
    exact h.world hmore

/-- Behind a rejection nothing counts. -/
theorem DealtWith.rejected {e : Error} (hshown : w'.shown = absorb (payloads id ms) w.shown)
    (hsome : rejection? id ms = some e) :
    DealtWith c id (ms ++ more) s w (.stopped (.error e), w') where
  feed := by rw [rejection?_append, hsome, Option.some_or]
  shown := by
    rw [payloads_append, hsome, Option.isSome_some, if_pos rfl, List.append_nil]
    exact hshown
  world hmore := by
    rw [rejection?_append, hsome, Option.some_or] at hmore
    cases hmore

theorem run_add (m n : Nat) (f : Feed) (w : FeedWorld σ) :
    run t (m + n) f w = run t n (run t m f w).1 (run t m f w).2 := by
  induction m generalizing f w with
  | zero => rw [Nat.zero_add]; rfl
  | succ m ih => rw [Nat.succ_add, run_succ, run_succ, ih]

theorem run_look_of_pending (h : t.poll c.conn s = (.pending, s')) :
    Client.run (Client.look t) c s = (.ok .nothing, c, s') := by
  rw [run_look, h]

/-- A batch of which something has been taken in is taken in as a whole, and then dealt with. -/
theorem run_taking_batch (h : Arrives t c.conn lines s s₁)
    (hpending : t.poll c.conn s₁ = (.pending, s₂)) (taken : List Message) (w : FeedWorld σ)
    (hw : w.world = s) :
    run t (lines.length + 1) (.taking c id taken) w =
      dispatchAll c id (taken ++ lines.filterMap handed?) (looked w s₂) := by
  induction h generalizing taken w with
  | done =>
    have hlook := run_look_of_pending hpending
    rw [← hw] at hlook
    rw [List.filterMap_nil, List.append_nil]
    exact step_taking_nothing hlook
  | @line line lines s s₃ s₄ s₁ hpoll htakes _ ih =>
    have hlook := look_of_line c hpoll htakes
    rw [← hw] at hlook
    rw [List.length_cons, run_succ]
    cases hhanded : handed? line with
    | some m =>
      rw [arrivalOf_of_handed? hhanded] at hlook
      rw [step_taking_message hlook, List.filterMap_cons_some hhanded,
        ih hpending _ (looked w s₄) rfl, List.append_assoc]
      rfl
    | none =>
      rw [arrivalOf_of_unhanded hhanded] at hlook
      rw [step_taking_handled hlook, List.filterMap_cons_none hhanded,
        ih hpending _ (looked w s₄) rfl]
      rfl

/-- A batch is dealt with in turn. -/
theorem run_waiting_batch (h : Arrives t c.conn lines s s₁)
    (hpending : t.poll c.conn s₁ = (.pending, s₂)) (w : FeedWorld σ) (hw : w.world = s) :
    DealtWith c id (lines.filterMap handed?) s₂ w (run t (lines.length + 1) (.waiting c id) w) := by
  induction h generalizing w with
  | done =>
    have hlook := run_look_of_pending hpending
    rw [← hw] at hlook
    rw [show run t (([] : List String).length + 1) (.waiting c id) w = (.waiting c id, looked w s₂)
      from step_waiting_nothing hlook]
    exact ⟨rfl, rfl, fun _ => rfl⟩
  | @line line lines s s₃ s₄ s₁ hpoll htakes hrest ih =>
    have hlook := look_of_line c hpoll htakes
    rw [← hw] at hlook
    rw [List.length_cons, run_succ]
    cases hhanded : handed? line with
    | some m =>
      rw [arrivalOf_of_handed? hhanded] at hlook
      obtain ⟨w', honMessage, hworld, hshown⟩ := onMessage_dealt c id m (looked w s₄)
      rw [step_waiting_message hlook, honMessage, List.filterMap_cons_some hhanded]
      show DealtWith c id ([m] ++ lines.filterMap handed?) s₂ w _
      cases hrejection : rejection? id [m] with
      | some e =>
        dsimp only
        rw [run_stopped]
        exact .rejected hshown hrejection
      | none =>
        dsimp only
        rw [run_taking_batch hrest hpending [] w' hworld]
        have hdealt := dealtWith_dispatchAll c id (lines.filterMap handed?) (looked w' s₂)
        exact .append (show (looked w' s₂).shown = _ from hshown) hrejection hdealt
    | none =>
      rw [arrivalOf_of_unhanded hhanded] at hlook
      rw [step_waiting_handled hlook, List.filterMap_cons_none hhanded]
      have hdealt := ih hpending (looked w s₄) rfl
      exact ⟨hdealt.feed, hdealt.shown, hdealt.world⟩

/-- **A run over batches** deals with all their messages in turn. -/
theorem run_of_batches (h : ArrivesInBatches t c.conn batches s s') (w : FeedWorld σ)
    (hw : w.world = s) :
    DealtWith c id (batches.flatten.filterMap handed?) s' w
      (run t (looksFor batches) (.waiting c id) w) := by
  induction h generalizing w with
  | done => exact ⟨rfl, rfl, fun _ => hw⟩
  | @batch lines batches s s₁ s₂ s' harrives hpending _ ih =>
    have hbatch : DealtWith c id (lines.filterMap handed?) s₂ w _ :=
      run_waiting_batch harrives hpending w hw
    have hlooks : looksFor (lines :: batches) = (lines.length + 1) + looksFor batches := by
      simp only [looksFor, List.flatten_cons, List.length_append, List.length_cons]
      omega
    rw [hlooks, run_add, List.flatten_cons, List.filterMap_append, hbatch.feed]
    cases hrejection : rejection? id (lines.filterMap handed?) with
    | some e =>
      dsimp only
      rw [run_stopped]
      exact .rejected hbatch.shown hrejection
    | none =>
      exact .append hbatch.shown hrejection (ih _ (hbatch.world hrejection))

/-- The trace of what arrives in batches is an exchange for each line. -/
theorem ArrivesInBatches.traced {conn : ConnId} (h : ArrivesInBatches t conn batches s s')
    (passed : List Crossing) :
    ArrivesInBatches t.traced conn batches ⟨s, passed⟩
      ⟨s', passed ++ (exchanges conn batches.flatten).map Turn.crossing⟩ := by
  induction h generalizing passed with
  | done =>
    rw [List.flatten_nil, exchanges, List.flatMap_nil, List.map_nil, List.append_nil]
    exact .done
  | @batch lines batches s s₁ s₂ s' harrives hpending _ ih =>
    have hrest := ih (passed ++ (exchanges conn lines).map Turn.crossing)
    rw [List.append_assoc, ← List.map_append, ← exchanges_append] at hrest
    exact .batch (harrives.traced passed) (traced_poll_of_pending (w := ⟨s₁, _⟩) hpending) hrest

end Batches

/-- However lines are grouped, they can arrive so. -/
theorem arrivesInBatches_played (conn : ConnId) (batches : List (List String)) :
    ArrivesInBatches played conn batches
      (batches.flatMap fun lines => lines.map Poll.line ++ [.pending]) [] := by
  have harrives : ∀ (lines : List String) (script : List Poll),
      Arrives played conn lines (lines.map Poll.line ++ script) script := by
    intro lines script
    induction lines with
    | nil => exact .done
    | cons line rest ih =>
      refine .line rfl ?_ ih
      unfold Takes
      split
      · rfl
      · rfl
  induction batches with
  | nil => exact .done
  | cons lines batches ih =>
    rw [List.flatMap_cons, List.append_assoc]
    exact .batch (harrives lines _) rfl ih

/-! ## From the start -/

/-- The only request that a feed makes. -/
def subscription (database : String) : Message :=
  .request "monitor" (monitorParams database) (.int 0)

theorem run_subscribe (t : Transport σ) (endpoint : Endpoint) (conn : ConnId) (database : String)
    (s : σ) :
    Client.run (sendRequest t "monitor" (monitorParams database))
        { endpoint, conn, nextId := 0 } s =
      match t.send conn (subscription database).line s with
      | (.ok (), s) => (.ok 0, { endpoint, conn, nextId := 1 }, s)
      | (.error reason, s) => (.error (.transport reason), { endpoint, conn, nextId := 1 }, s) :=
  run_sendRequest ..

/-- How a feed subscribes: it opens a connection and writes its request, and the transport can
fail it in either. -/
inductive Subscribing (t : Transport σ) (endpoint : Endpoint) (database : String) (maxLine : Nat)
    (s : σ) : Except String ConnId → σ → Prop
  | unconnected {reason : String} {s' : σ} : t.connect endpoint maxLine s = (.error reason, s') →
      Subscribing t endpoint database maxLine s (.error reason) s'
  | unsent {conn : ConnId} {reason : String} {s₁ s' : σ} :
      t.connect endpoint maxLine s = (.ok conn, s₁) →
      t.send conn (subscription database).line s₁ = (.error reason, s') →
      Subscribing t endpoint database maxLine s (.error reason) s'
  | subscribed {conn : ConnId} {s₁ s' : σ} : t.connect endpoint maxLine s = (.ok conn, s₁) →
      t.send conn (subscription database).line s₁ = (.ok (), s') →
      Subscribing t endpoint database maxLine s (.ok conn) s'

section Subscribing

variable {endpoint : Endpoint} {database : String} {maxLine : Nat} {s s' : σ}
  {result : Except String ConnId}

theorem exists_subscribing (t : Transport σ) (endpoint : Endpoint) (database : String)
    (maxLine : Nat) (s : σ) :
    ∃ result s', Subscribing t endpoint database maxLine s result s' := by
  rcases hconnect : t.connect endpoint maxLine s with ⟨reason | conn, s₁⟩
  · exact ⟨_, _, .unconnected hconnect⟩
  · rcases hsend : t.send conn (subscription database).line s₁ with ⟨reason | _, s'⟩
    · exact ⟨_, _, .unsent hconnect hsend⟩
    · exact ⟨_, _, .subscribed hconnect hsend⟩

/-- **A feed that starts** waits for the reply to its subscription, or the transport has failed
it. -/
theorem start_subscribes (h : Subscribing t endpoint database maxLine s result s') :
    start t endpoint database maxLine s =
      (match result with
        | .ok conn => .waiting { endpoint, conn, nextId := 1 } 0
        | .error reason => .stopped (.error (.transport reason)), s') := by
  unfold start Client.connect
  cases h with
  | unconnected hconnect => rw [hconnect]
  | unsent hconnect hsend =>
    rw [hconnect]
    dsimp only
    rw [run_subscribe, hsend]
  | subscribed hconnect hsend =>
    rw [hconnect]
    dsimp only
    rw [run_subscribe, hsend]

/-- The trace shows the subscription if it was written. -/
theorem Subscribing.traced (h : Subscribing t endpoint database maxLine s result s')
    (passed : List Crossing) :
    Subscribing t.traced endpoint database maxLine ⟨s, passed⟩ result ⟨s', passed ++
      match result with
      | .ok conn => [.written conn (subscription database).line]
      | .error _ => []⟩ := by
  have hconnected : ∀ {opened : Except String ConnId} {s₁ : σ},
      t.connect endpoint maxLine s = (opened, s₁) →
      t.traced.connect endpoint maxLine ⟨s, passed⟩ = (opened, ⟨s₁, passed⟩) := by
    intro opened s₁ hconnect
    simp only [Transport.traced, hconnect]
  cases h with
  | unconnected hconnect =>
    rw [List.append_nil]
    exact .unconnected (hconnected hconnect)
  | unsent hconnect hsend =>
    rw [List.append_nil]
    refine .unsent (hconnected hconnect) ?_
    simp only [Transport.traced, hsend]
  | subscribed hconnect hsend =>
    exact .subscribed (hconnected hconnect) (traced_send_of_ok (w := ⟨_, passed⟩) hsend)

end Subscribing

/-- A feed that is stopped on request does nothing more. -/
theorem run_cancel (n : Nat) (f : Feed) (w : FeedWorld σ) :
    run t n (cancel f) w = (cancel f, w) := by
  cases f with
  | waiting | taking => exact run_stopped n _
  | stopped result => exact run_stopped n result

/-- **What a feed makes of the lines of its connection.** It writes its subscription, and behind
that the reply to each echo request in turn; if the connection cannot be opened or the
subscription cannot be written, it stops with the reason. Later it is stopped by a rejection of
the subscription, by a look at which the connection is over, or on request. While the connection
stays open, it has dealt at the end of each batch with all lines up to a rejection, however they
are grouped: its replica and the events that it has published are what the updates make of them
in the order of the lines, and noise can be left out or put in anywhere. -/
theorem start_folds_lines (t : Transport σ) (endpoint : Endpoint) (database : String)
    (maxLine : Nat) (replica : Replica) (events : List Event) (s : Traced σ) :
    let started := start t.traced endpoint database maxLine s
    let w : FeedWorld (Traced σ) := { replica, events, world := started.2 }
    (∃ reason,
      Subscribing t endpoint database maxLine s.world (.error reason) started.2.world ∧
      started.1 = .stopped (.error (.transport reason)) ∧ started.2.trace = s.trace) ∨
    ∃ c : Client, Subscribing t endpoint database maxLine s.world (.ok c.conn) started.2.world ∧
      c.endpoint = endpoint ∧ started.1 = .waiting c 0 ∧
      started.2.trace = s.trace ++ [.written c.conn (subscription database).line] ∧
      (∀ n, ∃ lines turns,
        let r := run t.traced n started.1 w
        r.2.world.trace = started.2.trace ++ turns.map Turn.crossing ∧
        Made (replica, events) c lines turns r.1 r.2.shown ∧
        (∀ reason, r.1 = .stopped (.error (.transport reason)) → ∃ k < n,
          Breaks t c (run t.traced k started.1 w).2.world.world (.transport reason)) ∧
        ∀ m, run t.traced m (cancel r.1) r.2 = (cancel r.1, r.2)) ∧
      ∀ batches s' lines, ArrivesInBatches t c.conn batches started.2.world s' →
        lines.filter counts = batches.flatten.filter counts →
        let r := run t.traced (looksFor batches) started.1 w
        r.2.shown = absorb (updatesIn lines) (replica, events) ∧
        (rejectionIn lines = none → r.1 = .waiting c 0 ∧ r.2.world.trace =
          started.2.trace ++ (exchanges c.conn batches.flatten).map Turn.crossing) ∧
        ∀ e, rejectionIn lines = some e → r.1 = .stopped (.error (rejected e)) := by
  intro started w
  obtain ⟨result, s', hsubscribing⟩ := exists_subscribing t endpoint database maxLine s.world
  have hstarted : started = _ := start_subscribes (hsubscribing.traced s.trace)
  have hworld : started.2.world = s' := congrArg (·.2.world) hstarted
  rw [hworld]
  cases result with
  | error reason =>
    refine .inl ⟨reason, hsubscribing, congrArg (·.1) hstarted, ?_⟩
    exact (congrArg (·.2.trace) hstarted).trans (List.append_nil _)
  | ok conn =>
    have hfeed : started.1 = .waiting { endpoint, conn, nextId := 1 } 0 :=
      congrArg (·.1) hstarted
    refine .inr ⟨{ endpoint, conn, nextId := 1 }, hsubscribing, rfl, hfeed,
      congrArg (·.2.trace) hstarted, ?_, ?_⟩
    · intro n
      have hwaiting : Made (replica, events) { endpoint, conn, nextId := 1 } [] []
          (.waiting { endpoint, conn, nextId := 1 } 0) w.shown := .waiting rfl
      obtain ⟨lines, turns, hgrows, hmade⟩ := run_made t.traced_traces n hwaiting
      rw [hfeed]
      refine ⟨lines, turns, hgrows, hmade, ?_, fun m => run_cancel m _ _⟩
      intro reason hstopped
      obtain ⟨k, hk, hbreaks⟩ := run_breaks n rfl hstopped
      exact ⟨k, hk, hbreaks.of_traced⟩
    · intro batches s' lines harrives hnoise
      rw [← hworld] at harrives
      have hdealt : DealtWith { endpoint, conn, nextId := 1 } 0
          (batches.flatten.filterMap handed?) _ w _ :=
        run_of_batches (harrives.traced started.2.trace) w rfl
      have hupdates : updatesIn batches.flatten = updatesIn lines := by
        rw [← updatesIn_filter batches.flatten, ← hnoise, updatesIn_filter]
      have hrejection : rejectionIn batches.flatten = rejectionIn lines := by
        rw [← rejectionIn_filter batches.flatten, ← hnoise, rejectionIn_filter]
      have hdealtFeed := hdealt.feed
      have hdealtWorld := hdealt.world
      rw [rejection?_handed, hrejection] at hdealtFeed hdealtWorld
      rw [hfeed]
      refine ⟨?_, ?_, ?_⟩
      · rw [hdealt.shown, payloads_handed, hupdates]
        rfl
      · intro hnone
        rw [hnone] at hdealtFeed hdealtWorld
        exact ⟨hdealtFeed, congrArg Traced.trace (hdealtWorld rfl)⟩
      · intro e he
        rw [he] at hdealtFeed
        exact hdealtFeed

/-- An update that reports the device counter. -/
def deviceReport (value : String) : String :=
  "\x7b\"bufmon\":\x7b\"a\":\x7b\"new\":\x7b\"hw_unit_id\":0,\"name\":\"device/data/NONE/NONE\"," ++
    "\"counter_value\":" ++ value ++ "\x7d\x7d\x7d\x7d"

/-- The reply to the subscription. -/
def subscriptionReply : String :=
  "\x7b\"id\":0,\"result\":" ++ deviceReport "9" ++ ",\"error\":null\x7d"

def echoRequest : String := "\x7b\"id\":\"still there\",\"method\":\"echo\",\"params\":[]\x7d"

def updateNotification : String :=
  "\x7b\"method\":\"update\",\"params\":[null," ++ deviceReport "12" ++ "]\x7d"

/-- Two batches of lines, in each of which noise comes first. -/
def twoBatches : List (List String) :=
  [["?", subscriptionReply], [echoRequest, updateNotification]]

/-- From a transport that lets it subscribe, a feed takes both updates in, and the reply to the
echo request is all that it writes behind its subscription. -/
theorem start_folds_lines_two_batches :
    let script := twoBatches.flatMap fun lines => lines.map Poll.line ++ [.pending]
    let started := start played.traced (.unix "db.sock") "OpenSwitch" 1048576 ⟨script, []⟩
    let r := run played.traced (looksFor twoBatches) started.1
      { replica := .initial 1, events := [], world := started.2 }
    (∃ c, r.1 = .waiting c 0) ∧
      (r.2.replica.store.get 0 ⟨.device, 0, 0⟩).toOption =
        some { stat := 12, threshold := CounterKind.device.factoryThreshold, enabled := false } ∧
      r.2.world.trace = [.written 0 (subscription "OpenSwitch").line, .taken 0 "?",
        .taken 0 subscriptionReply, .taken 0 echoRequest,
        .written 0 "\x7b\"result\":[],\"error\":null,\"id\":\"still there\"\x7d",
        .taken 0 updateNotification] := by
  intro script started r
  have hcourse := start_folds_lines played (.unix "db.sock") "OpenSwitch" 1048576 (.initial 1) []
    ⟨script, []⟩
  have hstarted : start played.traced (.unix "db.sock") "OpenSwitch" 1048576 ⟨script, []⟩ =
    started := rfl
  have hr : run played.traced (looksFor twoBatches) started.1
    { replica := .initial 1, events := [], world := started.2 } = r := rfl
  -- the run is not to be computed
  clear_value r
  dsimp only at hcourse
  rw [hstarted] at hcourse
  clear_value started
  rcases hcourse with ⟨reason, hsubscribing, -⟩ | ⟨c, hsubscribing, -, -, htrace, -, hbatches⟩
  · -- the transport opens every connection and takes every line
    cases hsubscribing with
    | unconnected hconnect => cases hconnect
    | unsent _ hsend => cases hsend
  · obtain ⟨hconn, hscript⟩ : c.conn = 0 ∧ started.2.world = script := by
      cases hsubscribing with
      | subscribed hconnect hsend =>
        obtain ⟨hconn, hconnected⟩ := Prod.mk.inj hconnect
        exact ⟨(Except.ok.inj hconn).symm, (Prod.mk.inj hsend).2.symm.trans hconnected.symm⟩
    have harrives : ArrivesInBatches played c.conn twoBatches started.2.world [] :=
      hscript ▸ arrivesInBatches_played c.conn twoBatches
    obtain ⟨hshown, hwaiting, -⟩ := hbatches twoBatches [] _ harrives rfl
    have hmessages : (rejectionIn twoBatches.flatten).isNone = true ∧
        ((absorb (updatesIn twoBatches.flatten) (.initial 1, [])).1.store.get 0
          ⟨.device, 0, 0⟩).toOption = some
            { stat := 12, threshold := CounterKind.device.factoryThreshold, enabled := false } ∧
        (exchanges 0 twoBatches.flatten).map Turn.crossing = [.taken 0 "?",
          .taken 0 subscriptionReply, .taken 0 echoRequest,
          .written 0 "\x7b\"result\":[],\"error\":null,\"id\":\"still there\"\x7d",
          .taken 0 updateNotification] := by
      decide +kernel
    obtain ⟨hfeed, hturns⟩ := hwaiting (Option.isNone_iff_eq_none.1 hmessages.1)
    rw [hr] at hshown hfeed hturns
    refine ⟨⟨c, hfeed⟩, ?_, ?_⟩
    · show (r.2.shown.1.store.get 0 ⟨.device, 0, 0⟩).toOption = _
      rw [hshown]
      exact hmessages.2.1
    · rw [hturns, htrace, hconn, hmessages.2.2]
      rfl

end BufferTelemetry.Database.Feed
