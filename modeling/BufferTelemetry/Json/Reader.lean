import BufferTelemetry.Json.Token

/-!
# Reading JSON text

A machine that takes one token at a time and keeps the containers that are still
open on a stack. `Json.parse?` reads a value as messages carry it: a repeated
key keeps its first place and takes its last value, a container may lie in at
most 126 others, and every number is in the range of the doubles.
`Json.parseRecord?` reads text that is decoded as a record of known members:
repeated keys are kept for the decoder to see, and what the record ignores is
bound by the grammar only. A text without a value, or an object with a key that
has none, is read as something that no member of a record takes.
-/

namespace BufferTelemetry.Json

/-- What a reader asks for beyond the grammar. -/
structure Rules where
  /-- The number of containers that may be open at once, if it is bounded. -/
  depth : Option Nat
  /-- Whether texts and numbers may lack a value. -/
  lenient : Bool
  /-- Whether a repeated key is merged into one member. -/
  merge : Bool

/-- What a message or a database value has to keep to. -/
def Rules.message : Rules := { depth := some 127, lenient := false, merge := true }

/-- What the text of a record has to keep to. -/
def Rules.record : Rules := { depth := none, lenient := true, merge := false }

/-- The members of an object that have been read. -/
structure Members where
  /-- The members, the last one first. -/
  taken : List (String × Json)
  /-- Whether one of the keys has no value. -/
  broken : Bool

/-- An object of which no member has been read. -/
def Members.empty : Members where
  taken := []
  broken := false

/-- A container that is still open. Its contents are kept with the last one first. -/
inductive Frame where
  /-- An array with the items so far. -/
  | arr (items : List Json)
  /-- An object with the members so far and the key whose value is to come. -/
  | obj (members : Members) (key : String)

/-- What may come next. -/
inductive Expect where
  /-- A value. -/
  | value
  /-- The first item of an array, or its end. -/
  | firstItem
  /-- A comma behind an item, or the end of the array. -/
  | moreItems
  /-- The first key of an object, or its end. -/
  | firstKey
  /-- A key behind a comma. -/
  | key (members : Members)
  /-- The colon behind a key. -/
  | colon (members : Members) (key : String)
  /-- A comma behind a member, or the end of the object. -/
  | moreMembers (members : Members)
  /-- Nothing: the value is complete. -/
  | nothing (value : Json)

/-- The state of the machine. -/
structure Builder where
  /-- The open containers, the innermost first. -/
  stack : List Frame
  /-- What may come next. -/
  expect : Expect

/-- The value of an object that has been read. -/
def Members.value (rules : Rules) (m : Members) : Json :=
  let members := m.taken.reverse
  if m.broken then .raw ""
  else .obj (if rules.merge then mergeMembers members else members)

namespace Builder

/-- Puts a complete value into the innermost open container. -/
def place (value : Json) : List Frame → Builder
  | [] => ⟨[], .nothing value⟩
  | .arr items :: stack => ⟨.arr (value :: items) :: stack, .moreItems⟩
  | .obj members key :: stack =>
    ⟨stack, .moreMembers { members with taken := (key, value) :: members.taken }⟩

/-- Takes the first token of a value. -/
def beginValue (rules : Rules) (stack : List Frame) : Token → Option Builder
  | .scalar value => some (place value stack)
  | .broken text => some (place (.raw text) stack)
  | .arrOpen =>
    if rules.depth.all (stack.length < ·) then some ⟨.arr [] :: stack, .firstItem⟩ else none
  | .objOpen =>
    if rules.depth.all (stack.length < ·) then some ⟨stack, .firstKey⟩ else none
  | _ => none

/-- Closes the innermost array. -/
def closeArray : List Frame → Option Builder
  | .arr items :: stack => some (place (.arr items.reverse) stack)
  | _ => none

/-- Takes a key. -/
def beginMember (stack : List Frame) (members : Members) : Token → Option Builder
  | .scalar (.str key) => some ⟨stack, .colon members key⟩
  | .broken key => some ⟨stack, .colon { members with broken := true } key⟩
  | _ => none

/-- Takes one token. -/
def step (rules : Rules) (b : Builder) (t : Token) : Option Builder :=
  match b.expect, t with
  | .value, t => beginValue rules b.stack t
  | .firstItem, .arrClose => closeArray b.stack
  | .firstItem, t => beginValue rules b.stack t
  | .moreItems, .comma => some ⟨b.stack, .value⟩
  | .moreItems, .arrClose => closeArray b.stack
  | .firstKey, .objClose => some (place (Members.empty.value rules) b.stack)
  | .firstKey, t => beginMember b.stack .empty t
  | .key members, t => beginMember b.stack members t
  | .colon members key, .colon => some ⟨.obj members key :: b.stack, .value⟩
  | .moreMembers members, .comma => some ⟨b.stack, .key members⟩
  | .moreMembers members, .objClose => some (place (members.value rules) b.stack)
  | _, _ => none

/-- The value, once it is complete. -/
def result? (b : Builder) : Option Json :=
  match b.expect with
  | .nothing value => some value
  | _ => none

end Builder

/-- Reads a text that holds one value under the given rules. -/
def read? (rules : Rules) (text : String) : Option Json := do
  let tokens ← Token.scan? rules.lenient text
  (← tokens.foldlM (Builder.step rules) ⟨[], .value⟩).result?

/-- Reads a value as messages carry it. -/
def parse? (text : String) : Option Json := read? .message text

/-- Reads the text of a record, with repeated keys kept. -/
def parseRecord? (text : String) : Option Json := read? .record text

end BufferTelemetry.Json
