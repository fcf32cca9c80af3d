import BufferTelemetry.Json.Basic

/-!
# Written JSON

`Json.compress` is the one written form of a value: no blanks, the members in
their order, and in texts an escape for the quote, the backslash and the control
characters below the space, and for nothing else.
-/

namespace BufferTelemetry.Json

/-- The two-digit escape of a control character. -/
def controlEscape (c : Char) : String :=
  let n := c.toNat
  "\\u00".push (Nat.digitChar (n / 16)) |>.push (Nat.digitChar (n % 16))

/-- Appends one character of a text in its written form. -/
def writeChar (out : String) (c : Char) : String :=
  if c = '"' then out ++ "\\\""
  else if c = '\\' then out ++ "\\\\"
  else if 0x20 ≤ c.toNat then out.push c
  else if c.toNat = 0x08 then out ++ "\\b"
  else if c.toNat = 0x0C then out ++ "\\f"
  else if c = '\n' then out ++ "\\n"
  else if c = '\r' then out ++ "\\r"
  else if c = '\t' then out ++ "\\t"
  else out ++ controlEscape c

/-- Appends a text between its quotes. -/
def writeText (out s : String) : String :=
  (s.toList.foldl writeChar (out.push '"')).push '"'

mutual

/-- Appends a value in its written form. -/
def writeOnto (out : String) : Json → String
  | .null => out ++ "null"
  | .bool true => out ++ "true"
  | .bool false => out ++ "false"
  | .int value => out ++ toString value
  | .raw text => out ++ text
  | .str text => writeText out text
  | .arr items => (writeItems (out.push '[') items).push ']'
  | .obj members => (writeMembers (out.push '\x7b') members).push '\x7d'

/-- Appends the items of an array with commas between them. -/
def writeItems (out : String) : List Json → String
  | [] => out
  | [item] => writeOnto out item
  | item :: rest => writeItems ((writeOnto out item).push ',') rest

/-- Appends the members of an object with commas between them. -/
def writeMembers (out : String) : List (String × Json) → String
  | [] => out
  | [(key, value)] => writeOnto ((writeText out key).push ':') value
  | (key, value) :: rest =>
    writeMembers ((writeOnto ((writeText out key).push ':') value).push ',') rest

end

/-- The written form of a value, without blanks. A number that is not whole is written with
the text that it was read with. A printer of doubles would write the shortest text of the
nearest double instead, which is another text of the same double unless the number was
written so already. -/
def compress (v : Json) : String := writeOnto "" v

end BufferTelemetry.Json
