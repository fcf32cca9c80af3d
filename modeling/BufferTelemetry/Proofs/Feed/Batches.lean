import BufferTelemetry.Proofs.Feed.Deliveries
import BufferTelemetry.Proofs.Rpc.Looks

/-!
# What a feed hears

A feed waits for a message, deals with it, and takes in the messages behind it before
it deals with any of them. So the looks at its connection fall into *batches*, which
end where a look brings nothing. Of a complete batch every message is dealt with. Of
the last batch only the first message is, and if the connection turns out to be over
before the batch is complete, the messages behind it are lost.

* `heard` and `lost` are the messages that are dealt with and those that are not, and
  together they are all messages (`messages_eq_heard_append_lost`);
* the feed shows what the heard messages make of its replica (`run_dealt`);
* so it shows what all messages make of it exactly when nothing of weight was lost
  (`run_deals_with_heard`).
-/

namespace BufferTelemetry.Database.Feed

open Rpc Rpc.Client

variable {σ : Type}

/-! ## Batches -/

/-- Nothing has arrived: the look ends a batch. -/
def endsBatch : Look → Bool
  | .ok .nothing => true
  | _ => false

/-- The looks of complete batches. -/
def complete : List Look → List Look
  | [] => []
  | l :: ls => if (l :: ls).any endsBatch then l :: complete ls else []

/-- The looks behind the last complete batch. -/
def lastBatch : List Look → List Look
  | [] => []
  | l :: ls => if (l :: ls).any endsBatch then lastBatch ls else l :: ls

/-- The messages that a feed deals with. -/
def heard (ls : List Look) : List Message :=
  messages (complete ls) ++ (messages (lastBatch ls)).take 1

/-- The messages that have arrived and are not dealt with. -/
def lost (ls : List Look) : List Message := (messages (lastBatch ls)).drop 1

section Batches

variable {l : Look} {ls : List Look} {m : Message}

theorem complete_append_lastBatch (ls : List Look) : complete ls ++ lastBatch ls = ls := by
  induction ls with
  | nil => rfl
  | cons l ls ih =>
    unfold complete lastBatch
    split
    · rw [List.cons_append, ih]
    · rfl

theorem messages_append (ls more : List Look) :
    messages (ls ++ more) = messages ls ++ messages more := List.filterMap_append

/-- Every message that has arrived is either heard or lost, and the lost ones come last. -/
theorem messages_eq_heard_append_lost (ls : List Look) : messages ls = heard ls ++ lost ls := by
  calc messages ls = messages (complete ls ++ lastBatch ls) := by rw [complete_append_lastBatch]
    _ = messages (complete ls) ++ messages (lastBatch ls) := messages_append ..
    _ = messages (complete ls) ++
        ((messages (lastBatch ls)).take 1 ++ (messages (lastBatch ls)).drop 1) := by
      rw [List.take_append_drop]
    _ = heard ls ++ lost ls := by rw [heard, lost, List.append_assoc]

/-- What is heard of the messages of a batch that is being taken in: all, if it is completed. -/
def heardBehind (taken : List Message) (ls : List Look) : List Message :=
  if ls.any endsBatch then taken ++ heard ls else []

theorem heard_message :
    heard (.ok (.message m) :: ls) = m :: heardBehind [] ls := by
  unfold heard heardBehind complete lastBatch
  rw [List.any_cons]
  cases ls.any endsBatch <;> simp [endsBatch, heard]

theorem heard_handled : heard (.ok .handled :: ls) = heard ls := by
  have hany : (Except.ok Arrival.handled :: ls).any endsBatch = ls.any endsBatch := rfl
  cases ls with
  | nil => rfl
  | cons l ls =>
    unfold heard
    rw [complete, lastBatch, hany]
    cases h : (l :: ls).any endsBatch <;> simp [complete, lastBatch, h]

theorem heard_nothing : heard (.ok .nothing :: ls) = heard ls := by
  unfold heard
  rw [complete, lastBatch, List.any_cons]
  simp [endsBatch]

theorem heard_failure {c : Client} {e : Error} (h : Look.failure? c l = some e) :
    heard [l] = [] ∧ ∀ taken, heardBehind taken [l] = [] := by
  rcases l with e' | (m | _ | _ | _) <;> cases h <;> exact ⟨rfl, fun _ => rfl⟩

theorem heardBehind_message (taken : List Message) :
    heardBehind taken (.ok (.message m) :: ls) = heardBehind (taken ++ [m]) ls := by
  unfold heardBehind
  rw [List.any_cons]
  show (if ls.any endsBatch then _ else _) = _
  split
  · rename_i hany
    rw [heard_message, heardBehind, if_pos hany, List.append_assoc]
    rfl
  · rfl

theorem heardBehind_handled (taken : List Message) :
    heardBehind taken (.ok .handled :: ls) = heardBehind taken ls := by
  unfold heardBehind
  rw [heard_handled, List.any_cons]
  rfl

/-- When the batch is complete, all that has been taken in is heard. -/
theorem heardBehind_nothing (taken : List Message) :
    heardBehind taken (.ok .nothing :: ls) = taken ++ heard ls := by
  unfold heardBehind
  rw [heard_nothing, List.any_cons]
  rfl

end Batches

/-! ## Runs -/

variable {t : Transport σ} {c : Client} {id : Nat} {w : FeedWorld σ} {l : Look} {s : σ}

/-- The world of a feed after a look at its connection. -/
def looked (w : FeedWorld σ) (s : σ) : FeedWorld σ := { w with world := s }

@[simp]
theorem shown_looked (w : FeedWorld σ) (s : σ) : (looked w s).shown = w.shown := rfl

theorem lookOnce_eq (w : FeedWorld σ) (hlook : Client.run (look t) c w.world = (l, c, s)) :
    lookOnce t c w = ((l, c), looked w s) := by
  unfold lookOnce
  rw [hlook]
  rfl

theorem step_waiting_failed {e : Error} (hlook : Client.run (look t) c w.world = (l, c, s))
    (hl : Look.failure? c l = some e) :
    step t (.waiting c id) w = (.stopped (.error e), looked w s) := by
  simp only [step, bind, StateT.bind, lookOnce_eq w hlook]
  rcases l with e' | (m | _ | _ | _) <;> cases hl <;> rfl

theorem step_waiting_message {m : Message}
    (hlook : Client.run (look t) c w.world = (.ok (.message m), c, s)) :
    step t (.waiting c id) w = onMessage c id m (looked w s) := by
  simp only [step, bind, StateT.bind, lookOnce_eq w hlook]

theorem step_waiting_handled (hlook : Client.run (look t) c w.world = (.ok .handled, c, s)) :
    step t (.waiting c id) w = (.waiting c id, looked w s) := by
  simp only [step, bind, StateT.bind, lookOnce_eq w hlook]
  rfl

theorem step_waiting_nothing (hlook : Client.run (look t) c w.world = (.ok .nothing, c, s)) :
    step t (.waiting c id) w = (.waiting c id, looked w s) := by
  simp only [step, bind, StateT.bind, lookOnce_eq w hlook]
  rfl

section Taking

variable {taken : List Message}

theorem step_taking_failed {e : Error} (hlook : Client.run (look t) c w.world = (l, c, s))
    (hl : Look.failure? c l = some e) :
    step t (.taking c id taken) w = (.stopped (.error e), looked w s) := by
  simp only [step, bind, StateT.bind, lookOnce_eq w hlook]
  rcases l with e' | (m | _ | _ | _) <;> cases hl <;> rfl

theorem step_taking_message {m : Message}
    (hlook : Client.run (look t) c w.world = (.ok (.message m), c, s)) :
    step t (.taking c id taken) w = (.taking c id (taken ++ [m]), looked w s) := by
  simp only [step, bind, StateT.bind, lookOnce_eq w hlook]
  rfl

theorem step_taking_handled (hlook : Client.run (look t) c w.world = (.ok .handled, c, s)) :
    step t (.taking c id taken) w = (.taking c id taken, looked w s) := by
  simp only [step, bind, StateT.bind, lookOnce_eq w hlook]
  rfl

theorem step_taking_nothing (hlook : Client.run (look t) c w.world = (.ok .nothing, c, s)) :
    step t (.taking c id taken) w = dispatchAll c id taken (looked w s) := by
  simp only [step, bind, StateT.bind, lookOnce_eq w hlook]

end Taking

theorem run_succ (n : Nat) (f : Feed) :
    run t (n + 1) f w = run t n (step t f w).1 (step t f w).2 := rfl

theorem run_stopped (n : Nat) (result : Except Error Unit) :
    run t n (.stopped result) w = (.stopped result, w) := by
  induction n with
  | zero => rfl
  | succ n ih => exact ih

/-- From the world `w` the feed has come to deal with the messages: it shows what they make
of the replica, and it has stopped if one of them rejects the subscription, or else if the
connection has been found to be over. -/
structure Dealt (id : Nat) (ms : List Message) (ended : Option Error) (w : FeedWorld σ)
    (r : Feed × FeedWorld σ) : Prop where
  shown : r.2.shown = absorb (payloads id ms) w.shown
  stopped : ∀ e, (rejection? id ms).or ended = some e → r.1 = .stopped (.error e)

namespace Dealt

variable {ms more : List Message} {ended : Option Error} {r : Feed × FeedWorld σ}

theorem failed {e : Error} : Dealt id [] (some e) w (.stopped (.error e), looked w s) where
  shown := rfl
  stopped := by
    intro e' he
    cases he
    rfl

theorem append {w' : FeedWorld σ} (hfirst : w'.shown = absorb (payloads id ms) w.shown)
    (hnone : rejection? id ms = none) (h : Dealt id more ended w' r) :
    Dealt id (ms ++ more) ended w r where
  shown := by
    rw [h.shown, hfirst, payloads_append, hnone, ← absorb_append]
    rfl
  stopped := by
    intro e he
    rw [rejection?_append, hnone, Option.none_or] at he
    exact h.stopped e he

/-- Behind a rejection nothing counts. -/
theorem rejected {e : Error} {w' : FeedWorld σ}
    (hfirst : w'.shown = absorb (payloads id ms) w.shown) (hsome : rejection? id ms = some e) :
    Dealt id (ms ++ more) ended w (.stopped (.error e), w') where
  shown := by
    rw [payloads_append, hsome, Option.isSome_some, if_pos rfl, List.append_nil]
    exact hfirst
  stopped := by
    intro e' he
    rw [rejection?_append, hsome, Option.some_or, Option.some_or] at he
    cases he
    rfl

end Dealt

theorem onMessage_eq (c : Client) (id : Nat) (m : Message) (w : FeedWorld σ) :
    onMessage c id m w =
      match delivery id m with
      | .error e => (.stopped (.error e), w)
      | .ok none => (.taking c id [], w)
      | .ok (some u) => (.taking c id [], { w with
          replica := (absorbOne w.shown u).1
          events := (absorbOne w.shown u).2 }) := by
  unfold onMessage dispatch
  rcases delivery id m with e | (_ | u) <;> rfl

theorem Dealt.of_looked {ms : List Message} {ended : Option Error} {r : Feed × FeedWorld σ}
    (h : Dealt id ms ended (looked w s) r) : Dealt id ms ended w r :=
  ⟨h.shown, h.stopped⟩

/-- A run that starts with a message that was waited for. -/
theorem run_onMessage {m : Message} {more : List Message} {ended : Option Error} {n : Nat}
    (h : ∀ w' : FeedWorld σ, w'.world = w.world →
      Dealt id more ended w' (run t n (.taking c id []) w')) :
    Dealt id (m :: more) ended w
      (run t n (onMessage c id m w).1 (onMessage c id m w).2) := by
  rw [onMessage_eq]
  cases hm : delivery id m with
  | error e =>
    show Dealt id ([m] ++ more) ended w (run t n (.stopped (.error e)) w)
    rw [run_stopped]
    refine .rejected ?_ (rejection?_cons_error hm)
    rw [payloads_cons_error hm]
    rfl
  | ok u =>
    have hnone : rejection? id [m] = none := rejection?_cons_ok hm
    show Dealt id ([m] ++ more) ended w (run t n _ _)
    cases u with
    | none =>
      refine .append ?_ hnone (h w rfl)
      rw [payloads_cons_none hm]
      rfl
    | some u =>
      refine .append ?_ hnone (h _ rfl)
      rw [payloads_cons_some hm]
      rfl

/-- A run that starts with the messages of a complete batch. -/
theorem run_dispatchAll {ms more : List Message} {ended : Option Error} {n : Nat}
    (h : ∀ w' : FeedWorld σ, w'.world = w.world →
      Dealt id more ended w' (run t n (.waiting c id) w')) :
    Dealt id (ms ++ more) ended w
      (run t n (dispatchAll c id ms w).1 (dispatchAll c id ms w).2) := by
  rw [dispatchAll_eq]
  cases hr : rejection? id ms with
  | some e =>
    show Dealt id (ms ++ more) ended w (run t n (.stopped (.error e)) _)
    rw [run_stopped]
    exact .rejected rfl hr
  | none => exact .append rfl hr (h _ rfl)

/-- **A run deals with what is heard.** The two states of a feed that runs lead to each
other, so they are treated together. -/
theorem run_dealt (t : Transport σ) (c : Client) (id n : Nat) :
    (∀ w : FeedWorld σ, Dealt id (heard (looks t c n w.world)) (failure? c (looks t c n w.world)) w
      (run t n (.waiting c id) w)) ∧
    (∀ (w : FeedWorld σ) (taken : List Message),
      Dealt id (heardBehind taken (looks t c n w.world)) (failure? c (looks t c n w.world)) w
        (run t n (.taking c id taken) w)) := by
  induction n with
  | zero => exact ⟨fun _ => ⟨rfl, fun _ he => nomatch he⟩, fun _ _ => ⟨rfl, fun _ he => nomatch he⟩⟩
  | succ n ih =>
    obtain ⟨ihwaiting, ihtaking⟩ := ih
    constructor
    · intro w
      -- what the first look brings decides the step, and the rest is the hypothesis
      obtain ⟨l, s, hlook⟩ := exists_run_look t c w.world
      rw [run_succ]
      cases hl : Look.failure? c l with
      | some e =>
        obtain ⟨hlooks, hover⟩ := looks_of_failure hlook hl n
        rw [step_waiting_failed hlook hl, run_stopped, hlooks, hover, (heard_failure hl).1]
        exact .failed
      | none =>
        obtain ⟨hlooks, hover⟩ := looks_of_not_failure hlook hl n
        rw [hlooks, hover]
        rcases l with e | (m | _ | _ | _)
        · cases hl
        · rw [step_waiting_message hlook, heard_message]
          refine (run_onMessage ?_).of_looked
          intro w' hw'
          have htaking := ihtaking w' []
          rwa [hw'] at htaking
        · rw [step_waiting_handled hlook, heard_handled]
          exact (ihwaiting (looked w s)).of_looked
        · cases hl
        · rw [step_waiting_nothing hlook, heard_nothing]
          exact (ihwaiting (looked w s)).of_looked
    · intro w taken
      obtain ⟨l, s, hlook⟩ := exists_run_look t c w.world
      rw [run_succ]
      cases hl : Look.failure? c l with
      | some e =>
        obtain ⟨hlooks, hover⟩ := looks_of_failure hlook hl n
        -- here the messages that have been taken in are lost
        rw [step_taking_failed hlook hl, run_stopped, hlooks, hover, (heard_failure hl).2]
        exact .failed
      | none =>
        obtain ⟨hlooks, hover⟩ := looks_of_not_failure hlook hl n
        rw [hlooks, hover]
        rcases l with e | (m | _ | _ | _)
        · cases hl
        · rw [step_taking_message hlook, heardBehind_message]
          exact (ihtaking (looked w s) (taken ++ [m])).of_looked
        · rw [step_taking_handled hlook, heardBehind_handled]
          exact (ihtaking (looked w s) taken).of_looked
        · cases hl
        · rw [step_taking_nothing hlook, heardBehind_nothing]
          refine (run_dispatchAll ?_).of_looked
          intro w' hw'
          have hwaiting := ihwaiting w'
          rwa [hw'] at hwaiting

/-- **What a feed makes of its connection.** However the arrival of messages is grouped, a
feed deals with the heard messages, in the order of their arrival and each of them once;
and if its connection is over it has stopped. These are all messages up to a rejection
exactly when the last batch has no second message, or the feed has been rejected before it;
and the replica and the events are what all updates up to a rejection make of them if none
of the lost messages delivers an update. -/
theorem run_deals_with_heard (t : Transport σ) (c : Client) (id n : Nat) (w : FeedWorld σ) :
    let ls := looks t c n w.world
    let r := run t n (.waiting c id) w
    messages ls = heard ls ++ lost ls ∧
    r.2.shown = absorb (payloads id (heard ls)) w.shown ∧
    (∀ e, (rejection? id (heard ls)).or (failure? c ls) = some e → r.1 = .stopped (.error e)) ∧
    (upToRejection id (heard ls) = upToRejection id (messages ls) ↔
      (messages (lastBatch ls)).length ≤ 1 ∨ (rejection? id (heard ls)).isSome) ∧
    (payloads id (heard ls) = payloads id (messages ls) ↔
      payloads id (lost ls) = [] ∨ (rejection? id (heard ls)).isSome) := by
  intro ls r
  have hall : messages ls = heard ls ++ lost ls := messages_eq_heard_append_lost ls
  have hdealt : Dealt id (heard ls) (failure? c ls) w r := (run_dealt t c id n).1 w
  have hlost : lost ls = [] ↔ (messages (lastBatch ls)).length ≤ 1 := by
    rw [lost, List.drop_eq_nil_iff]
  refine ⟨hall, hdealt.shown, hdealt.stopped, ?_, ?_⟩
  · rw [hall, upToRejection_append, List.self_eq_append_right, ← hlost]
    cases (rejection? id (heard ls)).isSome with
    | true => simp
    | false => simp [upToRejection_eq_nil]
  · rw [hall, payloads_append, List.self_eq_append_right]
    cases (rejection? id (heard ls)).isSome with
    | true => simp
    | false => simp

/-- A transport that plays a script of polls back and takes every line. -/
def played : Transport (List Poll) where
  connect _ _ script := (.ok 0, script)
  send _ _ script := (.ok (), script)
  poll _ script :=
    match script with
    | [] => (.pending, [])
    | p :: rest => (p, rest)
  settle script := script
  patience _ script := script.length

/-- Two updates, of which the second reports a counter, and the end of the stream. -/
def hangUp : List Poll :=
  [.line "\x7b\"method\":\"update\",\"params\":[null,\x7b\x7d]\x7d",
    .line ("\x7b\"method\":\"update\",\"params\":[null,\x7b\"bufmon\":\x7b\"a\":\x7b\"new\":\x7b" ++
      "\"hw_unit_id\":0,\"name\":\"device/data/NONE/NONE\",\"counter_value\":9\x7d\x7d\x7d\x7d]\x7d"),
    .ended]

/-- The update behind another one is lost when the server hangs up: of the two messages one
is heard, and the counter that the other reports is not in the replica. -/
theorem run_hangUp_loses_update :
    let c : Client := { endpoint := .unix "db.sock", conn := 0, nextId := 1 }
    let w : FeedWorld (List Poll) := { replica := .initial 1, events := [], world := hangUp }
    let ls := looks played c 3 w.world
    let device (r : Replica) := (r.store.get 0 ⟨.device, 0, 0⟩).toOption
    (messages ls).length = 2 ∧ (lost ls).length = 1 ∧
      device (run played 3 (.waiting c 0) w).2.replica = some .initial ∧
      device (absorb (payloads 0 (messages ls)) w.shown).1 =
        some { stat := 9, threshold := CounterKind.device.factoryThreshold, enabled := false } := by
  decide +kernel

end BufferTelemetry.Database.Feed
