import BufferTelemetry.Asic
import BufferTelemetry.Database.Commit
import BufferTelemetry.Text.Blank

/-!
# Discovery of the port count

Before the agent can tell how many counters a switch has, the switch has to
apply its configuration. The database is asked again and again whether that has
happened, until the answer is not zero or the time is over; then the port count
is read from the facts about the hardware. Time is counted in milliseconds: an
attempt without a reply takes the time for which a reply is waited for, every
attempt is followed by a pause, and an attempt with its pause takes at least one
millisecond.
-/

namespace BufferTelemetry.Database

open Rpc Text

/-- How patiently the port count is looked for. -/
structure Patience where
  /-- The pause between two attempts. -/
  retryMs : Nat
  /-- The time after which the switch is given up. -/
  initMs : Nat

/-- What one attempt brought. -/
inductive Attempt where
  /-- The configuration has been applied. -/
  | applied
  /-- It has not been applied yet, or the attempt failed. -/
  | notYet
  /-- There was no reply in time. -/
  | noReply
  deriving DecidableEq, Repr

namespace Access

variable {σ : Type}

/-- The number of the configuration that is applied, from the result of its selection. -/
def currentConfig? (result : Json) : Option Int :=
  ((((result.item? 0).bind (·.get? "rows")).bind (·.item? 0)).bind
    (·.get? "cur_cfg")).bind Json.signed?

/-- The number of interfaces, from the result of the selection of the facts about the
hardware: the first pair of that name in any row counts. -/
def interfaceCount? (result : Json) : Option Nat := do
  let rows ← ((result.item? 0).bind (·.get? "rows")).bind Json.items?
  let facts := (rows.filterMap (·.get? "other_info")).flatMap mapPairs
  let value ← facts.lookup "interface_count"
  Numeral.decimal? UInt64.size (trim (← value.text?))

/-- Asks once whether the configuration has been applied. -/
def attempt (a : Access) (t : Transport σ) : StateM σ Attempt :=
  fun s =>
    match a.connect t s with
    | (.error _, s) => (.notYet, s)
    | (.ok c, s) =>
      match Client.run (Client.ask t "transact" (selectCurrentConfig a.database)) c s with
      | (.error _, _, s) => (.notYet, s)
      | (.ok none, _, s) => (.noReply, s)
      | (.ok (some result), _, s) =>
        match checkTransaction result with
        | .error _ => (.notYet, s)
        | .ok () => (if (currentConfig? result).getD 0 = 0 then .notYet else .applied, s)

/-- Asks until the configuration has been applied or the time is over, within so many
attempts; tells whether it has been applied. -/
def settle (a : Access) (t : Transport σ) (p : Patience) : Nat → Nat → StateM σ Bool
  | 0, _ => return false
  | n + 1, elapsed => do
    if elapsed ≥ p.initMs then return false
    match ← a.attempt t with
    | .applied => return true
    | .notYet => settle a t p n (elapsed + max 1 p.retryMs)
    | .noReply => settle a t p n (elapsed + max 1 (a.replyTimeoutMs + p.retryMs))

/-- The port count of the switch, which is at most the greatest that is supported. -/
def discoverPorts (a : Access) (t : Transport σ) (p : Patience) : Action σ Nat := do
  if ← a.settle t p p.initMs 0 then
    let result ← a.transactOnce t (selectSubsystemInfo a.database)
    match interfaceCount? result with
    | some (n + 1) => return min (n + 1) maxPorts
    | _ => throw (.notFound "Subsystem interface_count")
  else
    throw (.failure
      s!"switch configuration not applied within {durationText p.initMs}")

end Access

end BufferTelemetry.Database
