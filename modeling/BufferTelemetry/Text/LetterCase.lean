/-!
# Letter case

Keywords are compared without regard to letter case. Exactly two characters
outside ASCII have a lower-case form that begins with an ASCII letter: the
Kelvin sign, whose form is `k`, and the capital I with a dot, whose form is `i`
followed by a combining mark and therefore occurs in no ASCII keyword. So for
the comparison with ASCII text it is enough to fold ASCII and the Kelvin sign.
-/

namespace BufferTelemetry.Text

/-- The Kelvin sign, whose lower-case form is the letter `k`. -/
def kelvinSign : Char := Char.ofNat 0x212A

/-- The lower-case form of a character, as far as ASCII keywords can tell. -/
def foldChar (c : Char) : Char :=
  if c = kelvinSign then 'k' else c.toLower

/-- The lower-case form of a text, as far as ASCII keywords can tell. -/
def fold (s : String) : List Char :=
  s.toList.map foldChar

end BufferTelemetry.Text
