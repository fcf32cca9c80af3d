/-!
# Numerals

Unsigned whole numbers as text. `Numeral.read?` accepts one optional `+`, then
one or more digits of the base, with any number of leading zeros, and refuses
a value that does not lie below the given limit; a lone sign is no numeral.
`Numeral.padded` is the written form of fixed minimum width.
-/

namespace BufferTelemetry.Text.Numeral

/-- The value of a digit in either letter case, if it is one of the base. -/
def digit? (base : Nat) (c : Char) : Option Nat :=
  let value :=
    if c.isDigit then c.toNat - '0'.toNat
    else if 'a' ≤ c ∧ c ≤ 'f' then c.toNat - 'a'.toNat + 10
    else if 'A' ≤ c ∧ c ≤ 'F' then c.toNat - 'A'.toNat + 10
    else base
  if value < base then some value else none

/-- The number that a run of digits denotes, most significant digit first. -/
def digits? (base : Nat) (ds : List Char) : Option Nat :=
  ds.foldlM (fun n c => (digit? base c).map (n * base + ·)) 0

/-- The digits of a numeral, which may be preceded by a single `+`. -/
def unsigned : List Char → List Char
  | '+' :: ds => ds
  | ds => ds

/-- Reads a numeral of the base whose value lies below the limit. -/
def read? (base limit : Nat) (s : List Char) : Option Nat :=
  match unsigned s with
  | [] => none
  | ds => (digits? base ds).filter (· < limit)

/-- Reads a decimal numeral whose value lies below the limit. -/
def decimal? (limit : Nat) (s : String) : Option Nat :=
  read? 10 limit s.toList

/-- The digits of a number in the base, filled up with zeros to the width. -/
def padded (base width n : Nat) : List Char :=
  (Nat.toDigits base n).leftpad width '0'

end BufferTelemetry.Text.Numeral
