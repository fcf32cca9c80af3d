import BufferTelemetry.Counter.Layout
import BufferTelemetry.Text.Numeral
import BufferTelemetry.Text.Quoted
import BufferTelemetry.Text.Split

/-!
# Row names

The name of a counter's row in the database is the name of its kind and two
index slots, with slashes between them. A kind with a port uses both slots, a
kind with an index the first; a slot that is not used holds `NONE`. When a name
is read, the second slot may be missing and an unused slot may hold anything.
-/

namespace BufferTelemetry.Counter

open Text

/-- What stands in an index slot that is not used. -/
def unusedSlot : String := "NONE"

/-- The row name of a counter. -/
def rowName (c : Counter) : String :=
  match c.kind.indexing with
  | .single => s!"{c.kind.name}/{unusedSlot}/{unusedSlot}"
  | .row _ => s!"{c.kind.name}/{c.index}/{unusedSlot}"
  | .grid .. => s!"{c.kind.name}/{c.port}/{c.index}"

/-- Reads an index slot of the given row name. -/
def slot (row : String) : Option String → Except Error UInt32
  | none => .error (.invalidParameter s!"row key {row} is missing an index")
  | some text =>
    match Numeral.decimal? UInt32.size text with
    | some n => .ok (UInt32.ofNat n)
    | none => .error (.invalidParameter s!"row key {row} has bad index {quoted text}")

/-- Reads the index slots of a row of the given kind. -/
def ofSlots (row : String) (kind : CounterKind) (slots : List String) : Except Error Counter :=
  match kind.indexing with
  | .single => .ok ⟨kind, 0, 0⟩
  | .row _ => do
    let index ← slot row slots[0]?
    return ⟨kind, 0, index⟩
  | .grid .. => do
    let port ← slot row slots[0]?
    let index ← slot row slots[1]?
    return ⟨kind, port, index⟩

/-- The counter that a row name denotes. -/
def ofRowName (row : String) : Except Error Counter :=
  match pieces '/' row with
  | realm :: counter :: slots =>
    if slots.length = 1 ∨ slots.length = 2 then
      match CounterKind.lookup? realm counter with
      | none => .error (.notFound s!"BID for row key {row}")
      | some kind => do
        let c ← ofSlots row kind slots
        match c.position with
        | .ok _ => return c
        | .error _ => .error (.notFound s!"counter for row key {row}")
    else
      .error (.invalidParameter s!"row key {row} has {slots.length + 2} tokens")
  | short => .error (.invalidParameter s!"row key {row} has {short.length} tokens")

end BufferTelemetry.Counter
