import BufferTelemetry.Toml.Scalar
import BufferTelemetry.Toml.Table
import BufferTelemetry.Toml.Token

/-!
# TOML documents

Reads a document of TOML 1.1 as the value of its root table, by a machine that
takes one token at a time. Arrays and inline tables that are still open are kept
on a stack, which is bounded as the names of a key are; line ends may stand
between the tokens of an array or inline table and nowhere else inside a value.
-/

namespace BufferTelemetry.Toml

/-- A part of a dotted key. -/
inductive KeyPart where
  | name (text : String)
  | dot

/-- Whether the character can stand in a bare key. -/
def isBareKeyChar (c : Char) : Bool := c.isAlphanum || c = '_' || c = '-'

/-- The part that a piece of a word between dots is. -/
def partOfPiece? (piece : List Char) : Option (List KeyPart) :=
  if piece.isEmpty then some []
  else if piece.all isBareKeyChar then some [.name (String.ofList piece)]
  else none

/-- The parts of a word that stands in a key. -/
def partsOfWord? (word : List Char) : Option (List KeyPart) := do
  let parts ← (word.splitOn '.').mapM partOfPiece?
  return [KeyPart.dot].intercalate parts

/-- The number of names that a key may have, and of arrays and inline tables that may be
open at once. -/
def maxDepth : Nat := 80

/-- The names of a dotted key from its parts, which have to alternate with dots. -/
def namesOf? : List KeyPart → Option (List String)
  | [.name text] => some [text]
  | .name text :: .dot :: rest => (namesOf? rest).map (text :: ·)
  | _ => none

/-- The dotted key with the given parts. -/
def keyOf? (parts : List KeyPart) : Option (List String) :=
  (namesOf? parts).filter (·.length ≤ maxDepth)

/-- A value that is still open. -/
inductive Open where
  /-- The value of a key of the current table. -/
  | entry (key : List String)
  /-- An array with the items so far, the last one first. -/
  | arr (items : List Json)
  /-- An inline table with the entries so far, and the key whose value is to come. -/
  | table (entries : Entries) (key : List String)

/-- What the machine is in the middle of. -/
inductive Mode where
  | lineStart
  /-- A key at the start of a line, with its parts so far. -/
  | key (parts : List KeyPart)
  /-- Right behind the bracket that starts a header. -/
  | headerStart
  /-- A header, with the parts of its key so far; whether it names a sequence. -/
  | header (sequence : Bool) (parts : List KeyPart)
  /-- The header of a sequence, right behind its first closing bracket. -/
  | headerEnd (key : List String)
  /-- The rest of a line, in which nothing may follow. -/
  | lineEnd
  /-- Before a value; whether it may stand on a later line. -/
  | value (mayBreak : Bool) (stack : List Open)
  /-- Before an item of an array, or its end. -/
  | item (items : List Json) (stack : List Open)
  /-- Behind an item of an array. -/
  | afterItem (items : List Json) (stack : List Open)
  /-- Before an entry of an inline table, or its end. -/
  | entry (entries : Entries) (stack : List Open)
  /-- The key of an entry of an inline table, with its parts so far. -/
  | entryKey (entries : Entries) (parts : List KeyPart) (stack : List Open)
  /-- Behind that key, on a later line. -/
  | entryKeyEnd (entries : Entries) (key : List String) (stack : List Open)
  /-- Behind an entry of an inline table. -/
  | afterEntry (entries : Entries) (stack : List Open)
  /-- Behind a date, which a time may follow; whether a space has. -/
  | date (text : List Char) (space : Bool) (stack : List Open)

/-- The state of the machine. -/
structure Document where
  root : Entries
  /-- The header under which entries are added. -/
  current : List String
  mode : Mode

namespace Document

/-- Puts a complete value into what is open around it. -/
def place (d : Document) (value : Json) : List Open → Option Document
  | [] => none
  | .entry key :: _ => do
    let root ← Entries.within? (Entries.insert? key value) d.current d.root
    return { d with root, mode := .lineEnd }
  | .arr items :: stack => some { d with mode := .afterItem (value :: items) stack }
  | .table entries key :: stack => do
    return { d with mode := .afterEntry (← Entries.insert? key value entries) stack }

/-- Takes the first token of a value. Below the value of a line, the stack holds one
entry, so its length is the number of containers that are open with a further one. -/
def beginValue (d : Document) (stack : List Open) (t : Token) : Option Document :=
  match t with
  | .blank _ => some d
  | .text value _ => d.place (.str value) stack
  | .word cs =>
    if Scalar.isDate cs then some { d with mode := .date cs false stack }
    else do d.place (← Scalar.ofWord? cs) stack
  | .arrOpen =>
    if stack.length ≤ maxDepth then some { d with mode := .item [] stack } else none
  | .tableOpen =>
    if stack.length ≤ maxDepth then some { d with mode := .entry [] stack } else none
  | _ => none

/-- Names the table of a header. -/
def enter (d : Document) (sequence : Bool) (key : List String) : Option Document := do
  let last ← key.getLast?
  let change := if sequence then Entries.append? last else Entries.open? last
  let root ← Entries.within? change key.dropLast d.root
  return { root, current := key, mode := .lineEnd }

/-- The parts of a key that a token adds. -/
def keyParts? : Token → Option (List KeyPart)
  | .blank _ => some []
  | .word cs => partsOfWord? cs
  | .text value false => some [.name value]
  | _ => none

/-- Takes a token that does not belong to a date. -/
def stepPlain (d : Document) (t : Token) : Option Document :=
  match d.mode with
  | .lineStart =>
    match t with
    | .newline => some d
    | .arrOpen => some { d with mode := .headerStart }
    | .blank _ => some d
    | t => do return { d with mode := .key (← keyParts? t) }
  | .key parts =>
    match t with
    | .equals => do return { d with mode := .value false [.entry (← keyOf? parts)] }
    | t => do return { d with mode := .key (parts ++ (← keyParts? t)) }
  | .headerStart =>
    match t with
    | .arrOpen => some { d with mode := .header true [] }
    | t => do return { d with mode := .header false (← keyParts? t) }
  | .header sequence parts =>
    match t with
    | .arrClose => do
      let key ← keyOf? parts
      if sequence then return { d with mode := .headerEnd key } else d.enter false key
    | t => do return { d with mode := .header sequence (parts ++ (← keyParts? t)) }
  | .headerEnd key =>
    match t with
    | .arrClose => d.enter true key
    | _ => none
  | .lineEnd =>
    match t with
    | .blank _ => some d
    | .newline => some { d with mode := .lineStart }
    | _ => none
  | .value mayBreak stack =>
    match t with
    | .newline => if mayBreak then some d else none
    | t => d.beginValue stack t
  | .item items stack =>
    match t with
    | .blank _ => some d
    | .newline => some d
    | .arrClose => d.place (.arr items.reverse) stack
    | t => d.beginValue (.arr items :: stack) t
  | .afterItem items stack =>
    match t with
    | .blank _ => some d
    | .newline => some d
    | .comma => some { d with mode := .item items stack }
    | .arrClose => d.place (.arr items.reverse) stack
    | _ => none
  | .entry entries stack =>
    match t with
    | .blank _ => some d
    | .newline => some d
    | .tableClose => d.place (.obj (membersOf entries)) stack
    | t => do return { d with mode := .entryKey entries (← keyParts? t) stack }
  | .entryKey entries parts stack =>
    match t with
    | .newline => do return { d with mode := .entryKeyEnd entries (← keyOf? parts) stack }
    | .equals => do
      return { d with mode := .value true (.table entries (← keyOf? parts) :: stack) }
    | t => do return { d with mode := .entryKey entries (parts ++ (← keyParts? t)) stack }
  | .entryKeyEnd entries key stack =>
    match t with
    | .blank _ => some d
    | .newline => some d
    | .equals => some { d with mode := .value true (.table entries key :: stack) }
    | _ => none
  | .afterEntry entries stack =>
    match t with
    | .blank _ => some d
    | .newline => some d
    | .comma => some { d with mode := .entry entries stack }
    | .tableClose => d.place (.obj (membersOf entries)) stack
    | _ => none
  | .date .. => none

/-- Takes one token. A date is followed by a time if a single space and a time follow. -/
def step (d : Document) (t : Token) : Option Document :=
  match d.mode, t with
  | .date cs false stack, .blank true => some { d with mode := .date cs true stack }
  | .date cs true stack, .word time =>
    if Scalar.isTimeOfDay time then
      d.place (Scalar.moment (cs ++ ' ' :: time)) stack
    else none
  | .date cs _ stack, t => do
    (← d.place (Scalar.moment cs) stack).stepPlain t
  | _, t => d.stepPlain t

/-- The value of a document that ends where the machine stands. -/
def finish? (d : Document) : Option Json :=
  match d.mode with
  | .lineStart => some (.obj (membersOf d.root))
  | .lineEnd => some (.obj (membersOf d.root))
  | .date cs _ stack => do
    let d ← d.place (Scalar.moment cs) stack
    match d.mode with
    | .lineEnd => return .obj (membersOf d.root)
    | _ => none
  | _ => none

end Document

/-- Reads a document. -/
def parse? (text : String) : Option Json := do
  let start : Document := { root := [], current := [], mode := .lineStart }
  (← (← tokens? text).foldlM Document.step start).finish?

end BufferTelemetry.Toml
