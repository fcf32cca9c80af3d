/-!
# The range of doubles

Which decimal numbers are too great for a double. `Magnitude.isFinite` asks for
the double nearest to the number. `Magnitude.isFiniteProduct` asks for the
product of two doubles, the one nearest to the digits and the one nearest to the
power of ten: it is rounded three times where the first is rounded once, so the
two differ for some numbers right at the bound. Both are decided in whole
numbers.
-/

namespace BufferTelemetry.Text.Magnitude

/-- The binary places of a double. -/
def places : Nat := 53

/-- Half a unit above the greatest double. A number that reaches it rounds to infinity. -/
def bound : Nat := Nat.pow 2 1024 - Nat.pow 2 970

/-- The greatest power of ten that is a double. -/
def maxPower : Nat := 308

/-- The double nearest to a whole number, were doubles without bound. A tie goes to the
even neighbour. -/
def nearest (n : Nat) : Nat :=
  if n < Nat.pow 2 places then n
  else
    let unit := Nat.pow 2 (n.log2 + 1 - places)
    let low := n / unit
    let rest := n % unit
    if 2 * rest < unit ∨ (2 * rest = unit ∧ low % 2 = 0) then low * unit
    else (low + 1) * unit

/-- Whether the digits, followed by so many zeros or with the point moved so many places
to the left, round to a finite double. A number with more than 310 places before the
point is beyond the bound and one with fewer than 309 is below it, so the power is
computed for few. -/
def isFinite (digits : Nat) (power : Int) : Bool :=
  let whole := (Nat.toDigits 10 digits).length + power
  if digits = 0 ∨ whole < 309 then true
  else if whole > 310 then false
  else if 0 ≤ power then digits * Nat.pow 10 power.toNat < bound
  else digits < bound * Nat.pow 10 (-power).toNat

/-- Whether the double nearest to the digits, times the one nearest to the power of ten,
is finite. A division, which a negative power asks for, is always finite. -/
def isFiniteProduct (digits : Nat) (power : Int) : Bool :=
  if digits = 0 ∨ power < 0 then true
  else if maxPower < power then false
  else nearest digits * nearest (Nat.pow 10 power.toNat) < bound

end BufferTelemetry.Text.Magnitude
