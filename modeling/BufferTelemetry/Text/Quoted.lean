import BufferTelemetry.Text.Unprintable

/-!
# Quoted text in messages

A piece of foreign text is shown in a message between double quotes, with the
quote, the backslash and the common control characters behind a backslash, and
every other character that does not print by itself as its code point in
braces.
-/

namespace BufferTelemetry.Text

/-- A code point in lower case hexadecimal, between braces. -/
def codePoint (c : Char) : List Char :=
  "\\u\x7b".toList ++ Nat.toDigits 16 c.toNat ++ ['\x7d']

/-- How one character is shown between the quotes. -/
def quotedChar (c : Char) : List Char :=
  if c = '"' then ['\\', '"']
  else if c = '\\' then ['\\', '\\']
  else if c = '\n' then ['\\', 'n']
  else if c = '\r' then ['\\', 'r']
  else if c = '\t' then ['\\', 't']
  else if c.toNat = 0 then ['\\', '0']
  else if c.toNat < 0x20 ∨ c.toNat = 0x7F then codePoint c
  else if c.toNat < 0x7F then [c]
  else if isUnprintable c.toNat then codePoint c
  else [c]

/-- The text between double quotes, so that every character of it can be seen. -/
def quoted (s : String) : String :=
  String.ofList ('"' :: s.toList.flatMap quotedChar ++ ['"'])

end BufferTelemetry.Text
