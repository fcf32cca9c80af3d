import BufferTelemetry.Error
import BufferTelemetry.Rpc.Endpoint
import BufferTelemetry.Rpc.LineReader

/-!
# Transports

A `Transport` is what the agent knows of the outside world: it opens connections,
writes lines to them and asks them for lines, and each of these may change the
world, whose type is left open. Everything that speaks to the database is
written over a transport, so what is shown for every transport holds whatever
the server does. Writing and asking do not wait. Where the agent waits, the other
side gets the chance to deal with what has been written to it, and the wait is
bounded by the transport's patience, the number of times it can be asked before
the deadline passes.
-/

namespace BufferTelemetry

/-- An operation that may change the world and may fail. -/
abbrev Action (ω : Type) := ExceptT Error (StateM ω)

namespace Action

variable {ω : Type}

/-- The operation that does not change the world and answers as the given value does. -/
def ofExcept {α : Type} (a : Except Error α) : Action ω α := liftExcept a

/-- Runs an operation on a part of the world. -/
def within {ω' α : Type} (part : ω → ω') (replace : ω → ω' → ω) (a : Action ω' α) :
    Action ω α :=
  fun w =>
    let (result, part') := a (part w)
    (result, replace w part')

end Action

namespace Rpc

/-- A connection of a transport. -/
abbrev ConnId := Nat

/-- The outside world as the agent can reach it. -/
structure Transport (σ : Type) where
  /-- Opens a connection whose lines are bounded, or says why it could not. -/
  connect : Endpoint → Nat → σ → Except String ConnId × σ
  /-- Writes a line, or says why it could not. -/
  send : ConnId → String → σ → Except String Unit × σ
  /-- Asks for the next line. -/
  poll : ConnId → σ → Poll × σ
  /-- Lets the other side deal with what has been written to it. -/
  settle : σ → σ
  /-- How often a connection can be asked before a wait for it is over. -/
  patience : ConnId → σ → Nat

end Rpc

end BufferTelemetry
