import BufferTelemetry.Json.Basic
import BufferTelemetry.Text.Magnitude
import BufferTelemetry.Text.Numeral

/-!
# JSON tokens

The lexical level of JSON text, as a machine that takes one character at a
time: it stands between tokens, inside a bare word (a number or one of the three
literals), or inside a text, where it may be in the middle of an escape. An
escaped code point of the upper surrogate half should be followed by an escaped
one of the lower half. A text in which a surrogate stands alone, and a number
beyond the range of the doubles, have no value; where the text is read leniently
they are tokens all the same, because what is ignored needs no value.
-/

namespace BufferTelemetry.Json

open Text

/-- A token of JSON text. -/
inductive Token where
  /-- A literal, a number or a text. -/
  | scalar (value : Json)
  /-- A text in which a surrogate stands alone, as far as it has a value. -/
  | broken (text : String)
  /-- An opening bracket. -/
  | arrOpen
  /-- A closing bracket. -/
  | arrClose
  /-- An opening brace. -/
  | objOpen
  /-- A closing brace. -/
  | objClose
  /-- A comma. -/
  | comma
  /-- A colon. -/
  | colon

/-- The parts of a number: its sign, the digits before and after the point, and the
power of ten behind the exponent mark. -/
structure Lexeme where
  /-- Whether a minus sign comes first. -/
  negative : Bool
  /-- The digits before the point. -/
  whole : List Char
  /-- The digits after the point, if there is one. -/
  fraction : Option (List Char)
  /-- The power of ten, if there is an exponent mark. -/
  power : Option Int

namespace Lexeme

/-- Reads the exponent, where one may stand. -/
def exponent? : List Char → Option (Option Int)
  | [] => some none
  | e :: rest =>
    if e = 'e' ∨ e = 'E' then
      let (negative, ds) : Bool × List Char :=
        match rest with
        | '-' :: ds => (true, ds)
        | '+' :: ds => (false, ds)
        | ds => (false, ds)
      if ds.isEmpty ∨ !ds.all Char.isDigit then none
      else (Numeral.digits? 10 ds).map fun n => some (if negative then -(n : Int) else n)
    else none

/-- Reads the parts of a number. -/
def ofChars? (cs : List Char) : Option Lexeme := do
  let (negative, cs) : Bool × List Char :=
    match cs with
    | '-' :: rest => (true, rest)
    | rest => (false, rest)
  let whole := cs.takeWhile Char.isDigit
  guard (whole = ['0'] ∨ (whole ≠ [] ∧ whole.head? ≠ some '0'))
  match cs.dropWhile Char.isDigit with
  | '.' :: rest =>
    let fraction := rest.takeWhile Char.isDigit
    guard (fraction ≠ [])
    let power ← exponent? (rest.dropWhile Char.isDigit)
    return { negative, whole, fraction := some fraction, power }
  | rest =>
    let power ← exponent? rest
    return { negative, whole, fraction := none, power }

/-- The whole number that is meant, if the number is one that fits sixty-four bits. -/
def integer? (x : Lexeme) : Option Int := do
  guard (x.fraction.isNone ∧ x.power.isNone)
  let n ← Numeral.digits? 10 x.whole
  if x.negative then
    guard (n ≠ 0 ∧ n ≤ Int64.minValue.toInt.natAbs)
    return -(n : Int)
  else
    guard (n < UInt64.size)
    return n

/-- Appends digits to a number while it fits sixty-four bits, and answers the rest of
them with it. -/
def extend (n : Nat) : List Char → Nat × List Char
  | [] => (n, [])
  | d :: ds =>
    let next := n * 10 + (Numeral.digit? 10 d).getD 0
    if next < UInt64.size then extend next ds else (n, d :: ds)

/-- Whether the number is in the range of the doubles. Only the digits that fit
sixty-four bits count; of those that do not, the ones before the point count as zeros. -/
def isFinite (x : Lexeme) : Bool :=
  let fraction := x.fraction.getD []
  let (upper, zeros) := extend 0 x.whole
  let (digits, dropped) := extend upper fraction
  let shift : Int := zeros.length - (fraction.length - dropped.length : Nat)
  Magnitude.isFiniteProduct digits (shift + x.power.getD 0)

end Lexeme

/-- The value of a bare word: one of the literals or a number, which has to be in the
range of the doubles unless it is read leniently. The value of a number that is not whole
is its text: it is not rounded to a double, and `1.50` stays `1.50`. -/
def ofWord? (lenient : Bool) (word : List Char) : Option Json :=
  if word = "null".toList then some .null
  else if word = "true".toList then some (.bool true)
  else if word = "false".toList then some (.bool false)
  else do
    let x ← Lexeme.ofChars? word
    match x.integer? with
    | some n => return .int n
    | none =>
      guard (lenient || x.isFinite)
      return .raw (String.ofList word)

namespace Token

/-- The part of a text that has been read. -/
structure Draft where
  /-- The characters, the last one first. -/
  taken : List Char
  /-- Whether a surrogate among them stood alone. -/
  lone : Bool

/-- Where the machine stands. The characters of an unfinished word are kept with the
last one first. -/
inductive Place where
  /-- Between two tokens. -/
  | between
  /-- Inside a bare word. -/
  | word (taken : List Char)
  /-- Inside a text. -/
  | text (draft : Draft)
  /-- Behind a backslash. -/
  | escape (draft : Draft)
  /-- Inside the digits of an escaped code point, of which some are still to come; the
  upper surrogate that came before it is kept. -/
  | digits (draft : Draft) (missing value : Nat) (upper : Option Nat)
  /-- Behind an upper surrogate, before the backslash of the lower one. -/
  | lowerEscape (draft : Draft) (upper : Nat)
  /-- Behind that backslash. -/
  | lowerLetter (draft : Draft) (upper : Nat)

namespace Draft

/-- A text of which nothing has been read. -/
def empty : Draft where
  taken := []
  lone := false

/-- The text with a further character. -/
def push (d : Draft) (c : Char) : Draft := { d with taken := c :: d.taken }

/-- The text behind a surrogate that stands alone, if such a text is read on. -/
def broken? (lenient : Bool) (d : Draft) : Option Draft :=
  if lenient then some { d with lone := true } else none

/-- The token of the text. -/
def token (d : Draft) : Token :=
  let text := String.ofList d.taken.reverse
  if d.lone then .broken text else .scalar (.str text)

end Draft

/-- The state of the machine. -/
structure Scan where
  /-- The tokens that are complete, the last one first. -/
  done : List Token
  /-- Where the machine stands. -/
  place : Place

/-- Whether the character can stand in a bare word. -/
def isWordChar (c : Char) : Bool :=
  c.isAlphanum || c = '+' || c = '-' || c = '.'

/-- Takes a character that does not continue a token. -/
def begin (tokens : List Token) (c : Char) : Option Scan :=
  if c = ' ' ∨ c = '\n' ∨ c = '\t' ∨ c = '\r' then some ⟨tokens, .between⟩
  else if c = '[' then some ⟨.arrOpen :: tokens, .between⟩
  else if c = ']' then some ⟨.arrClose :: tokens, .between⟩
  else if c = '\x7b' then some ⟨.objOpen :: tokens, .between⟩
  else if c = '\x7d' then some ⟨.objClose :: tokens, .between⟩
  else if c = ',' then some ⟨.comma :: tokens, .between⟩
  else if c = ':' then some ⟨.colon :: tokens, .between⟩
  else if c = '"' then some ⟨tokens, .text .empty⟩
  else if isWordChar c then some ⟨tokens, .word [c]⟩
  else none

/-- The character that a one-letter escape stands for. -/
def escaped? (c : Char) : Option Char :=
  if c = '"' ∨ c = '\\' ∨ c = '/' then some c
  else if c = 'b' then some (Char.ofNat 0x08)
  else if c = 'f' then some (Char.ofNat 0x0C)
  else if c = 'n' then some '\n'
  else if c = 'r' then some '\r'
  else if c = 't' then some '\t'
  else none

/-- Where the machine stands after an escaped code point that no upper surrogate came
before. -/
def endAlone (lenient : Bool) (draft : Draft) (value : Nat) : Option Place :=
  if 0xD800 ≤ value ∧ value ≤ 0xDBFF then some (.lowerEscape draft value)
  else if 0xDC00 ≤ value ∧ value ≤ 0xDFFF then (draft.broken? lenient).map .text
  else some (.text (draft.push (Char.ofNat value)))

/-- Where the machine stands after an escaped code point. -/
def endDigits (lenient : Bool) (draft : Draft) (value : Nat) (upper : Option Nat) :
    Option Place :=
  match upper with
  | some high =>
    if 0xDC00 ≤ value ∧ value ≤ 0xDFFF then
      let point := 0x10000 + (high - 0xD800) * 0x400 + (value - 0xDC00)
      some (.text (draft.push (Char.ofNat point)))
    else (draft.broken? lenient).bind fun draft => endAlone lenient draft value
  | none => endAlone lenient draft value

/-- Takes a character inside a text. -/
def stepText (tokens : List Token) (draft : Draft) (c : Char) : Option Scan :=
  if c = '"' then some ⟨draft.token :: tokens, .between⟩
  else if c = '\\' then some ⟨tokens, .escape draft⟩
  else if c.toNat < 0x20 then none
  else some ⟨tokens, .text (draft.push c)⟩

/-- Takes the character behind a backslash. -/
def stepEscape (tokens : List Token) (draft : Draft) (c : Char) : Option Scan :=
  if c = 'u' then some ⟨tokens, .digits draft 4 0 none⟩
  else (escaped? c).map fun e => ⟨tokens, .text (draft.push e)⟩

/-- Takes one character. -/
def step (lenient : Bool) (s : Scan) (c : Char) : Option Scan :=
  match s.place with
  | .between => begin s.done c
  | .word taken =>
    if isWordChar c then some ⟨s.done, .word (c :: taken)⟩
    else do
      let value ← ofWord? lenient taken.reverse
      begin (.scalar value :: s.done) c
  | .text draft => stepText s.done draft c
  | .escape draft => stepEscape s.done draft c
  | .digits draft missing value upper => do
    let value := value * 16 + (← Numeral.digit? 16 c)
    if missing ≤ 1 then
      return ⟨s.done, ← endDigits lenient draft value upper⟩
    else
      return ⟨s.done, .digits draft (missing - 1) value upper⟩
  | .lowerEscape draft upper =>
    if c = '\\' then some ⟨s.done, .lowerLetter draft upper⟩
    else (draft.broken? lenient).bind fun draft => stepText s.done draft c
  | .lowerLetter draft upper =>
    if c = 'u' then some ⟨s.done, .digits draft 4 0 (some upper)⟩
    else (draft.broken? lenient).bind fun draft => stepEscape s.done draft c

/-- The tokens of a text that ends where the machine stands. -/
def finish? (lenient : Bool) (s : Scan) : Option (List Token) :=
  match s.place with
  | .between => some s.done.reverse
  | .word taken => do
    let value ← ofWord? lenient taken.reverse
    return (.scalar value :: s.done).reverse
  | _ => none

/-- The tokens of a text. -/
def scan? (lenient : Bool) (text : String) : Option (List Token) := do
  finish? lenient (← text.toList.foldlM (step lenient) ⟨[], .between⟩)

end Token

end BufferTelemetry.Json
