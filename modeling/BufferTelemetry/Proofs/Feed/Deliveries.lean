import BufferTelemetry.Database.Feed

/-!
# Dealing with messages in turn

A feed deals with messages up to the first one that rejects its subscription. What
comes of it depends on the updates that they deliver alone (`dispatchAll_eq`): the
`payloads` are folded into the replica one after the other, and the feed then waits
again unless there was a rejection.
-/

namespace BufferTelemetry.Database

open Rpc

variable {σ : Type}

/-- What a feed shows of its world: the replica and the events published. -/
def FeedWorld.shown (w : FeedWorld σ) : Replica × List Event := (w.replica, w.events)

/-- Folds one update into a replica, and publishes its events. -/
def absorbOne (x : Replica × List Event) (updates : Json) : Replica × List Event :=
  ((x.1.apply updates).replica, x.2 ++ (x.1.apply updates).events)

def absorb (updates : List Json) (x : Replica × List Event) : Replica × List Event :=
  updates.foldl absorbOne x

namespace Feed

/-- The error of the first message that rejects the subscription. -/
def rejection? (monitorId : Nat) : List Message → Option Error
  | [] => none
  | m :: ms =>
    match delivery monitorId m with
    | .error e => some e
    | .ok _ => rejection? monitorId ms

/-- The messages up to the first that rejects the subscription, and that one. -/
def upToRejection (monitorId : Nat) : List Message → List Message
  | [] => []
  | m :: ms =>
    match delivery monitorId m with
    | .error _ => [m]
    | .ok _ => m :: upToRejection monitorId ms

/-- The updates that messages deliver up to a rejection. -/
def payloads (monitorId : Nat) : List Message → List Json
  | [] => []
  | m :: ms =>
    match delivery monitorId m with
    | .error _ => []
    | .ok none => payloads monitorId ms
    | .ok (some updates) => updates :: payloads monitorId ms

variable {id : Nat} {m : Message} {ms more : List Message}

section Cons

theorem rejection?_cons_error {e : Error} (h : delivery id m = .error e) :
    rejection? id (m :: ms) = some e := by
  simp only [rejection?, h]

theorem rejection?_cons_ok {u : Option Json} (h : delivery id m = .ok u) :
    rejection? id (m :: ms) = rejection? id ms := by
  simp only [rejection?, h]

theorem payloads_cons_error {e : Error} (h : delivery id m = .error e) :
    payloads id (m :: ms) = [] := by
  simp only [payloads, h]

theorem payloads_cons_none (h : delivery id m = .ok none) :
    payloads id (m :: ms) = payloads id ms := by
  simp only [payloads, h]

theorem payloads_cons_some {u : Json} (h : delivery id m = .ok (some u)) :
    payloads id (m :: ms) = u :: payloads id ms := by
  simp only [payloads, h]

end Cons

/-- A rejection is no failure of the transport. -/
theorem rejection?_eq_failure {e : Error} (h : rejection? id ms = some e) :
    ∃ text, e = .failure text := by
  induction ms with
  | nil => cases h
  | cons m ms ih =>
    cases hm : delivery id m with
    | ok u =>
      rw [rejection?_cons_ok hm] at h
      exact ih h
    | error e' =>
      rw [rejection?_cons_error hm] at h
      cases h
      unfold delivery at hm
      split at hm
      · split at hm <;> cases hm
      · split at hm <;> cases hm
        exact ⟨_, rfl⟩
      · split at hm <;> cases hm
      · cases hm

section Append

theorem rejection?_append :
    rejection? id (ms ++ more) = (rejection? id ms).or (rejection? id more) := by
  induction ms with
  | nil => rfl
  | cons m ms ih =>
    rw [List.cons_append]
    cases h : delivery id m with
    | error e => rw [rejection?_cons_error h, rejection?_cons_error h, Option.some_or]
    | ok u => rw [rejection?_cons_ok h, rejection?_cons_ok h, ih]

/-- Nothing behind a rejection is taken in. -/
theorem payloads_append :
    payloads id (ms ++ more) =
      payloads id ms ++ if (rejection? id ms).isSome then [] else payloads id more := by
  induction ms with
  | nil => rfl
  | cons m ms ih =>
    rw [List.cons_append]
    cases h : delivery id m with
    | error e => simp [payloads_cons_error h, rejection?_cons_error h]
    | ok u =>
      cases u with
      | none => rw [payloads_cons_none h, payloads_cons_none h, rejection?_cons_ok h, ih]
      | some u =>
        rw [payloads_cons_some h, payloads_cons_some h, rejection?_cons_ok h, ih, List.cons_append]

theorem upToRejection_append :
    upToRejection id (ms ++ more) =
      upToRejection id ms ++ if (rejection? id ms).isSome then [] else upToRejection id more := by
  induction ms with
  | nil => rfl
  | cons m ms ih =>
    rw [List.cons_append]
    cases h : delivery id m with
    | error e => simp [upToRejection, h, rejection?_cons_error h]
    | ok u => simp [upToRejection, h, rejection?_cons_ok h, ih]

theorem upToRejection_eq_nil : upToRejection id ms = [] ↔ ms = [] := by
  cases ms with
  | nil => exact ⟨fun _ => rfl, fun _ => rfl⟩
  | cons m ms => cases h : delivery id m <;> simp [upToRejection, h]

end Append

theorem absorb_cons (u : Json) (us : List Json) (x : Replica × List Event) :
    absorb (u :: us) x = absorb us (absorbOne x u) := rfl

theorem absorb_append (us vs : List Json) (x : Replica × List Event) :
    absorb (us ++ vs) x = absorb vs (absorb us x) := List.foldl_append

/-- **Dealing with messages.** The updates are folded in, and a rejection stops the feed. -/
theorem dispatchAll_eq (c : Client) (ms : List Message) (w : FeedWorld σ) :
    dispatchAll c id ms w =
      (match rejection? id ms with
        | some e => .stopped (.error e)
        | none => .waiting c id,
      { w with
        replica := (absorb (payloads id ms) w.shown).1
        events := (absorb (payloads id ms) w.shown).2 }) := by
  induction ms generalizing w with
  | nil => rfl
  | cons m ms ih =>
    unfold dispatchAll dispatch
    cases h : delivery id m with
    | error e => simp only [rejection?_cons_error h, payloads_cons_error h]; rfl
    | ok u =>
      cases u with
      | none => simp only [rejection?_cons_ok h, payloads_cons_none h, ih]
      | some u => simp only [rejection?_cons_ok h, payloads_cons_some h, ih, absorb_cons]; rfl

end Feed

end BufferTelemetry.Database
