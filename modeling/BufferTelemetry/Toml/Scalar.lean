import BufferTelemetry.Json.Basic
import BufferTelemetry.Text.Magnitude
import BufferTelemetry.Text.Numeral

/-!
# TOML scalars

Truth values, whole numbers in four bases, other numbers, and dates and times.
Underscores may stand between digits. Numbers that are not whole keep the text
they were written in and have to be in the range of the doubles. A date or time
is a record with its text under a name of its own, so it can stand where a
record of optional members is asked for.
-/

namespace BufferTelemetry.Toml.Scalar

open Text

/-- Whether the character can stand in a run of decimal digits. -/
def isRunChar (c : Char) : Bool := c.isDigit || c = '_'

/-- The digits of a run in which single underscores may stand between digits. -/
def digitRun? (isDigit : Char → Bool) (cs : List Char) : Option (List Char) :=
  let groups := cs.splitOn '_'
  if groups.all fun g => !g.isEmpty && g.all isDigit then some groups.flatten else none

/-- The digits of a whole number without sign, which starts with a zero only if it is one. -/
def wholeRun? (cs : List Char) : Option (List Char) := do
  let ds ← digitRun? Char.isDigit cs
  guard (ds.head? ≠ some '0' ∨ ds.length = 1)
  return ds

/-- Takes a sign off. -/
def unsigned : List Char → Bool × List Char
  | '-' :: rest => (true, rest)
  | '+' :: rest => (false, rest)
  | rest => (false, rest)

/-- A whole number that can be told from its text. -/
def ofWhole? (value : Int) : Option Json :=
  match value with
  | .ofNat n => if n < Nat.pow 2 128 then some (.int value) else none
  | .negSucc n => if n < Nat.pow 2 127 then some (.int value) else none

/-- Reads a whole number in base sixteen, eight or two. -/
def based? (base : Nat) (cs : List Char) : Option Json := do
  let ds ← digitRun? (fun c => (Numeral.digit? base c).isSome) cs
  ofWhole? (← Numeral.digits? base ds)

/-- Reads a whole number in base ten. -/
def decimal? (cs : List Char) : Option Json := do
  let (negative, rest) := unsigned cs
  let n ← Numeral.digits? 10 (← wholeRun? rest)
  ofWhole? (if negative then -(n : Int) else n)

/-- Reads an exponent with its mark, where one may stand. -/
def exponent? : List Char → Option Int
  | [] => some 0
  | e :: rest => do
    guard (e = 'e' ∨ e = 'E')
    let (negative, ds) := unsigned rest
    let n ← Numeral.digits? 10 (← digitRun? Char.isDigit ds)
    return if negative then -(n : Int) else n

/-- Reads the part of a number behind its whole part, if there is more: the digits behind
the point, and the power of ten. -/
def tail? : List Char → Option (List Char × Int)
  | '.' :: rest => do
    let fraction := rest.takeWhile isRunChar
    let ds ← digitRun? Char.isDigit fraction
    return (ds, ← exponent? (rest.drop fraction.length))
  | [] => none
  | rest => do return ([], ← exponent? rest)

/-- Whether the text is a number without sign in the range of the doubles. -/
def isFiniteReal (cs : List Char) : Bool :=
  let number : Option (Nat × Int) := do
    let whole := cs.takeWhile isRunChar
    let (fraction, power) ← tail? (cs.drop whole.length)
    let n ← Numeral.digits? 10 ((← wholeRun? whole) ++ fraction)
    return (n, power - fraction.length)
  number.any fun (n, power) => Magnitude.isFinite n power

/-- Whether the text is a number, for one that is not a whole number. -/
def isReal (cs : List Char) : Bool :=
  let rest := (unsigned cs).2
  rest = "inf".toList || rest = "nan".toList || isFiniteReal rest

/-- Reads so many digits, and answers their value and the rest. -/
def fixed? (n : Nat) (cs : List Char) : Option (Nat × List Char) := do
  let ds := cs.take n
  guard (ds.length = n ∧ ds.all Char.isDigit)
  return (← Numeral.digits? 10 ds, cs.drop n)

/-- Takes a character off the front. -/
def expect? (c : Char) : List Char → Option (List Char)
  | d :: rest => if d = c then some rest else none
  | [] => none

/-- The number of days of a month. -/
def daysOf (year month : Nat) : Nat :=
  if month = 2 then
    if year % 4 = 0 ∧ (year % 100 ≠ 0 ∨ year % 400 = 0) then 29 else 28
  else if month = 4 ∨ month = 6 ∨ month = 9 ∨ month = 11 then 30
  else 31

/-- Takes a date off the front. -/
def date? (cs : List Char) : Option (List Char) := do
  let (year, cs) ← fixed? 4 cs
  let (month, cs) ← fixed? 2 (← expect? '-' cs)
  let (day, cs) ← fixed? 2 (← expect? '-' cs)
  guard (1 ≤ month ∧ month ≤ 12 ∧ 1 ≤ day ∧ day ≤ daysOf year month)
  return cs

/-- Takes the fraction of a second off the front, if there is one. -/
def fraction? : List Char → Option (List Char)
  | '.' :: rest => do
    guard (rest.head?.any Char.isDigit)
    return rest.dropWhile Char.isDigit
  | rest => some rest

/-- Takes a time off the front. The seconds may be missing. -/
def time? (cs : List Char) : Option (List Char) := do
  let (hour, cs) ← fixed? 2 cs
  let (minute, cs) ← fixed? 2 (← expect? ':' cs)
  guard (hour ≤ 23 ∧ minute ≤ 59)
  match cs with
  | ':' :: rest =>
    let (second, rest) ← fixed? 2 rest
    guard (second ≤ 60)
    fraction? rest
  | rest => return rest

/-- Whether the text is nothing or the offset of a time zone. -/
def isOffset (cs : List Char) : Bool :=
  match cs with
  | [] => true
  | ['Z'] => true
  | ['z'] => true
  | sign :: rest =>
    (sign = '+' || sign = '-') &&
      (do
        let (hour, rest) ← fixed? 2 rest
        let (minute, rest) ← fixed? 2 (← expect? ':' rest)
        guard (hour ≤ 23 ∧ minute ≤ 59 ∧ rest = [])).isSome

/-- Whether the text is a date without a time. -/
def isDate (cs : List Char) : Bool := date? cs == some []

/-- Whether the text is a time with or without an offset, as it may stand behind a date. -/
def isTimeOfDay (cs : List Char) : Bool := (time? cs).any isOffset

/-- Whether the text is a date, a time, or both. -/
def isDateTime (cs : List Char) : Bool :=
  time? cs == some [] ||
    match date? cs with
    | some [] => true
    | some (mark :: rest) => (mark = 'T' || mark = 't') && isTimeOfDay rest
    | none => false

/-- The name under which a date or time has its text. -/
def momentName : String := "moment"

/-- The record of a date or time. -/
def moment (cs : List Char) : Json := .obj [(momentName, .str (String.ofList cs))]

/-- The value of a word. -/
def ofWord? (cs : List Char) : Option Json :=
  match cs with
  | '0' :: 'x' :: rest => based? 16 rest
  | '0' :: 'o' :: rest => based? 8 rest
  | '0' :: 'b' :: rest => based? 2 rest
  | _ =>
    if cs = "true".toList then some (.bool true)
    else if cs = "false".toList then some (.bool false)
    else decimal? cs <|>
      if isReal cs then some (.raw (String.ofList cs))
      else if isDateTime cs then some (moment cs)
      else none

end BufferTelemetry.Toml.Scalar
