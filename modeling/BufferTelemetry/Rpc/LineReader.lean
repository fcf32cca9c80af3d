/-!
# Lines from a stream of bytes

A `LineReader` cuts the bytes that arrive on a connection into lines. A line ends
with a line feed, before which one carriage return is dropped, and when the
stream ends the bytes behind the last line feed count as a line too. A line
longer than the limit is a failure: the reader then reports the end of the
stream once, and skips the rest of the line when it takes more bytes.

Bytes are taken into a store of bounded room, and no more of them at a time than
there is room for, so a failure can leave some on the connection. When the room
is used up, the bytes that are still to be handed on are moved to its front if
those that have been handed on take at least as much of it; otherwise the room is
doubled.
-/

namespace BufferTelemetry.Rpc

/-- Why a line could not be read. -/
inductive LineError where
  | tooLong
  | notText
  deriving DecidableEq, Repr

/-- The wording of a line error. -/
def LineError.message : LineError → String
  | .tooLong => "max line length exceeded"
  | .notText => "Unable to decode input as UTF8"

/-- What a stream of lines yields when it is asked for the next one. -/
inductive Poll where
  /-- A line. -/
  | line (text : String)
  /-- Nothing yet. -/
  | pending
  /-- The end of the stream. -/
  | ended
  /-- A line that could not be read. -/
  | failed (e : LineError)
  deriving DecidableEq, Repr

/-- The state of a reader of lines. -/
structure LineReader where
  /-- The greatest number of bytes of a line, without its line feed. -/
  limit : Nat
  /-- The room of the store. -/
  capacity : Nat
  /-- How much of it is taken by bytes that have been handed on. -/
  offset : Nat
  /-- The bytes that have been taken from the stream and not yet been handed on. -/
  buffer : List UInt8
  /-- Whether the rest of a line that was too long is being skipped. -/
  skipping : Bool
  /-- Whether the buffer may hold a line. -/
  readable : Bool
  /-- Whether the end of the stream has been seen. -/
  atEnd : Bool
  /-- Whether a failure has just been reported. -/
  failed : Bool
  deriving DecidableEq, Repr

/-- The bytes that have arrived on a connection and whether more can follow. -/
structure Inflow where
  bytes : List UInt8
  closed : Bool
  deriving DecidableEq, Repr

namespace LineReader

/-- The room of the store at the start. -/
def initialCapacity : Nat := 8192

/-- A reader of a stream from which nothing has been taken. -/
def initial (limit : Nat) : LineReader where
  limit := limit
  capacity := initialCapacity
  offset := 0
  buffer := []
  skipping := false
  readable := false
  atEnd := false
  failed := false

/-- The byte that ends a line. -/
def lineFeed : UInt8 := 0x0A

/-- The byte that is dropped from the end of a line. -/
def carriageReturn : UInt8 := 0x0D

/-- The text of a line. -/
def lineText (bytes : List UInt8) : Except LineError String :=
  let bytes := if bytes.getLast? = some carriageReturn then bytes.dropLast else bytes
  match String.fromUTF8? ⟨bytes.toArray⟩ with
  | some text => .ok text
  | none => .error .notText

/-- The reader after so many bytes have been handed on. -/
def drop (r : LineReader) (n : Nat) : LineReader :=
  { r with buffer := r.buffer.drop n, offset := r.offset + n }

/-- The reader behind a line that was too long, as far as the buffer goes. -/
def skip (r : LineReader) : LineReader :=
  if r.skipping then
    let n := (r.buffer.takeWhile (· ≠ lineFeed)).length
    if n < r.buffer.length then { r.drop (n + 1) with skipping := false } else r.drop n
  else r

/-- The next line that is complete in the buffer. -/
def takeLine (r : LineReader) : Option (Except LineError String) × LineReader :=
  let r := r.skip
  if r.skipping then (none, r)
  else if lineFeed ∈ r.buffer.take (r.limit + 1) then
    let line := r.buffer.takeWhile (· ≠ lineFeed)
    (some (lineText line), r.drop (line.length + 1))
  else if r.limit < r.buffer.length then
    (some (.error .tooLong), { r with skipping := true })
  else
    (none, r)

/-- The next line of a stream that has ended, for which no line feed is needed. -/
def takeLast (r : LineReader) : Option (Except LineError String) × LineReader :=
  match r.takeLine with
  | (some line, r) => (some line, r)
  | (none, r) =>
    if r.buffer = [] ∨ r.buffer = [carriageReturn] then (none, r)
    else (some (lineText r.buffer), r.drop r.buffer.length)

/-- Reports a line, and remembers a failure. -/
def report (line : Except LineError String) (r : LineReader) : Poll × LineReader :=
  match line with
  | .ok text => (.line text, r)
  | .error e => (.failed e, { r with failed := true })

/-- Hands on what is left of a stream that has ended. -/
def pollEnded (r : LineReader) : Poll × LineReader :=
  match r.takeLast with
  | (some line, r) => r.report line
  | (none, r) => (.ended, { r with readable := false })

/-- Asks the stream, after what was in the buffer has been handed on. -/
def pollEnd (r : LineReader) (inflow : Inflow) : Poll × LineReader :=
  if inflow.closed then
    if r.atEnd then (.ended, r)
    else { r with atEnd := true, readable := true }.pollEnded
  else
    (.pending, r)

/-- The reader with room for more bytes. -/
def makeRoom (r : LineReader) : LineReader :=
  if r.offset + r.buffer.length < r.capacity then r
  else if r.buffer.length ≤ r.offset then { r with offset := 0 }
  else { r with capacity := 2 * r.capacity }

/-- The number of bytes that can be taken. -/
def room (r : LineReader) : Nat := r.capacity - (r.offset + r.buffer.length)

/-- Takes as many bytes as there is room for, in a reader that has made some. -/
def take (r : LineReader) (inflow : Inflow) : LineReader × Inflow :=
  let n := max 1 r.room
  ({ r with buffer := r.buffer ++ inflow.bytes.take n, atEnd := false, readable := true },
    { inflow with bytes := inflow.bytes.drop n })

/-- Taking bytes leaves fewer of them. -/
theorem length_take_lt (r : LineReader) {inflow : Inflow} (h : inflow.bytes ≠ []) :
    (r.take inflow).2.bytes.length < inflow.bytes.length := by
  have := List.length_pos_iff.2 h
  simp only [take, List.length_drop]
  omega

/-- Takes the bytes that have arrived, until they bring a line or there are no more of
them, before asking for the end of the stream. -/
def pollInflow (r : LineReader) (inflow : Inflow) : Poll × LineReader × Inflow :=
  if h : inflow.bytes = [] then
    let (p, r) := r.makeRoom.pollEnd inflow
    (p, r, inflow)
  else
    have := length_take_lt r.makeRoom h
    let rest := (r.makeRoom.take inflow).2
    match (r.makeRoom.take inflow).1.takeLine with
    | (some line, r) =>
      let (p, r) := r.report line
      (p, r, rest)
    | (none, r) => { r with readable := false }.pollInflow rest
termination_by inflow.bytes.length

/-- Asks for the next line. Unless a line is left in the buffer, bytes that have arrived
are taken from the stream. -/
def poll (r : LineReader) (inflow : Inflow) : Poll × LineReader × Inflow :=
  if r.failed then
    (.ended, { r with failed := false, readable := false }, inflow)
  else if r.readable then
    if r.atEnd then
      let (p, r) := r.pollEnded
      (p, r, inflow)
    else
      match r.takeLine with
      | (some line, r) =>
        let (p, r) := r.report line
        (p, r, inflow)
      | (none, r) => { r with readable := false }.pollInflow inflow
  else
    r.pollInflow inflow

end LineReader

end BufferTelemetry.Rpc
