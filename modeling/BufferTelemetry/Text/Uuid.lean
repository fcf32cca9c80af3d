import BufferTelemetry.Text.Numeral

/-!
# Row identifiers

A UUID is thirty-two hexadecimal digits. It is written in five groups of lower
case digits with hyphens between them, and read from that form, from the bare
digits, from braces around the groups, or from the groups behind `urn:uuid:`.
Letter case does not matter.
-/

namespace BufferTelemetry

/-- A universally unique identifier as its thirty-two digits. -/
structure Uuid where
  /-- The digits, most significant first. -/
  digits : Vector (Fin 16) 32
  deriving DecidableEq

namespace Uuid

open Text

/-- The sizes of the groups of the written form. -/
def groupSizes : List Nat := [8, 4, 4, 4, 12]

/-- The value of a hexadecimal digit. -/
def hexDigit? (c : Char) : Option (Fin 16) :=
  (Numeral.digit? 16 c).bind fun n => if h : n < 16 then some ⟨n, h⟩ else none

/-- Reads thirty-two digits without separators. -/
def ofBare? (s : List Char) : Option Uuid := do
  let ds ← s.mapM hexDigit?
  if h : ds.length = 32 then
    return ⟨⟨ds.toArray, by simpa using h⟩⟩
  else
    none

/-- Reads the five groups. -/
def ofGroups? (s : List Char) : Option Uuid :=
  let groups := s.splitOn '-'
  if groups.map List.length = groupSizes then ofBare? groups.flatten else none

/-- The text inside a pair of braces. -/
def inBraces? (s : List Char) : Option (List Char) :=
  match s with
  | '\x7b' :: rest => if rest.getLast? = some '\x7d' then some rest.dropLast else none
  | _ => none

/-- The groups behind the name of their namespace. -/
def ofName? (s : List Char) : Option Uuid :=
  let space := "urn:uuid:".toList
  if (s.take space.length).map Char.toLower = space then ofGroups? (s.drop space.length) else none

/-- Reads any of the four forms. -/
def ofString? (s : String) : Option Uuid :=
  let cs := s.toList
  ofBare? cs
    <|> ofGroups? cs
    <|> (inBraces? cs).bind ofGroups?
    <|> ofName? cs

/-- The digits cut into groups of the given sizes. -/
def groupsOf : List Nat → List Char → List (List Char)
  | [], _ => []
  | n :: sizes, ds => ds.take n :: groupsOf sizes (ds.drop n)

/-- The written form. -/
def toString (u : Uuid) : String :=
  let ds := u.digits.toList.map fun d => Nat.digitChar d.val
  String.ofList ("-".toList.intercalate (groupsOf groupSizes ds))

end Uuid

end BufferTelemetry
