/-!
# Written durations

A duration is written in the greatest of the units second and millisecond that
it reaches, with the digits behind the point that it needs.
-/

namespace BufferTelemetry.Text

/-- The digits of thousandths behind a point, without zeros at the end. -/
def thousandths (n : Nat) : List Char :=
  ((Nat.toDigits 10 n).leftpad 3 '0').reverse.dropWhile (· = '0') |>.reverse

/-- A duration given in milliseconds. -/
def durationText (ms : Nat) : String :=
  if ms = 0 then "0ns"
  else if ms < 1000 then s!"{ms}ms"
  else if ms % 1000 = 0 then s!"{ms / 1000}s"
  else s!"{ms / 1000}.{String.ofList (thousandths (ms % 1000))}s"

end BufferTelemetry.Text
