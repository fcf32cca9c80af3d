import BufferTelemetry.Error
import BufferTelemetry.Text.Numeral
import BufferTelemetry.Text.Split

/-!
# MAC addresses

The six bytes of a hardware address, written as pairs of hexadecimal digits
with colons between them and read with colons or, where there is none, hyphens.
-/

namespace BufferTelemetry

/-- A hardware address. -/
structure MacAddress where
  bytes : Vector UInt8 6
  deriving DecidableEq

namespace MacAddress

open Text

/-- The address with all bytes zero. -/
def zero : MacAddress := ⟨Vector.replicate 6 0⟩

/-- Whether all bytes are zero. -/
def isZero (m : MacAddress) : Bool := m == zero

/-- The two digits of each byte. -/
def pairs (m : MacAddress) : List (List Char) :=
  m.bytes.toList.map fun b => Numeral.padded 16 2 b.toNat

/-- The written form of an address. -/
def toString (m : MacAddress) : String :=
  String.ofList ([':'].intercalate m.pairs)

/-- The agent identifier that belongs to an address: four zeros and its digits. -/
def uid (m : MacAddress) : String :=
  String.ofList ("0000".toList ++ m.pairs.flatten)

/-- Reads one byte. -/
def byte? (s : List Char) : Option UInt8 :=
  (Numeral.read? 16 256 s).map UInt8.ofNat

/-- Reads six bytes between the separators that the text uses. -/
def ofString? (s : String) : Except ParseError MacAddress :=
  let cs := s.toList
  let separator := if ':' ∈ cs then ':' else '-'
  match (cs.splitOn separator).mapM byte? with
  | some bytes =>
    if h : bytes.length = 6 then .ok ⟨⟨bytes.toArray, by simpa using h⟩⟩
    else .error (.macAddress s)
  | none => .error (.macAddress s)

end MacAddress

end BufferTelemetry
