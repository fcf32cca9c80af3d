import BufferTelemetry.Error
import BufferTelemetry.Text.LetterCase
import BufferTelemetry.Text.Numeral
import BufferTelemetry.Text.Split

/-!
# ASICs

`AsicType` is a set of silicon families as a mask of bits: a feature advertises
the set it supports, a query names one family, and `AsicType.all` marks a
generic implementation. `Capabilities` are the scaling parameters of one ASIC.
-/

namespace BufferTelemetry

/-- The greatest number of front-panel ports of one ASIC. -/
def maxPorts : Nat := 130

/-- The greatest number of ASICs of one platform. -/
def maxAsics : Nat := 1

/-- A set of silicon families. -/
structure AsicType where
  /-- One bit for each family. -/
  bits : UInt32
  deriving DecidableEq, Repr

namespace AsicType

open Text

/-- The Trident2 family. -/
def trident2 : AsicType := ⟨0x1⟩

/-- The Tomahawk family. -/
def tomahawk : AsicType := ⟨0x2⟩

/-- The wildcard that stands for every family. -/
def all : AsicType := ⟨0xFFFF⟩

/-- Whether this is the wildcard. -/
def isAll (t : AsicType) : Bool := t == all

/-- Whether no family is in the set. -/
def isEmpty (t : AsicType) : Bool := t.bits == 0

/-- Whether every family of the other set is in this one. -/
def contains (t other : AsicType) : Bool := t.bits &&& other.bits == other.bits

/-- The families of either set. -/
def union (t other : AsicType) : AsicType := ⟨t.bits ||| other.bits⟩

/-- The text of a set: its name if it has one, else its bits with at least four digits. -/
def toString (t : AsicType) : String :=
  if t = trident2 then "td2"
  else if t = tomahawk then "th"
  else if t = all then "all"
  else "0x" ++ String.ofList (Numeral.padded 16 4 t.bits.toNat)

/-- Reads the name of a set, or its bits behind `0x`, in any letter case. -/
def ofString? (s : String) : Except ParseError AsicType :=
  let word := fold s
  if word = "td2".toList ∨ word = "trident2".toList then .ok trident2
  else if word = "th".toList ∨ word = "tomahawk".toList then .ok tomahawk
  else if word = "all".toList then .ok all
  else
    match (after? "0x".toList word).bind (Numeral.read? 16 UInt32.size) with
    | some n => .ok ⟨UInt32.ofNat n⟩
    | none => .error (.asicType s)

end AsicType

/-- The scaling parameters of one ASIC. -/
structure Capabilities where
  numPorts : UInt64
  numUnicastQueues : UInt64
  numUnicastQueueGroups : UInt64
  numMulticastQueues : UInt64
  numServicePools : UInt64
  numCommonPools : UInt64
  numCpuQueues : UInt64
  numRqeQueues : UInt64
  numRqeQueuePools : UInt64
  numPriorityGroups : UInt64
  /-- Whether the ASIC supports precision time stamps. -/
  support1588 : Bool
  /-- The size of a buffer cell in bytes. -/
  cellToByte : UInt32
  deriving DecidableEq, Repr

/-- The parameters of a Trident2 with the given number of ports. -/
def Capabilities.trident2 (numPorts : UInt64) : Capabilities where
  numPorts := numPorts
  numUnicastQueues := 2960
  numUnicastQueueGroups := 128
  numMulticastQueues := 1040
  numServicePools := 4
  numCommonPools := 1
  numCpuQueues := 8
  numRqeQueues := 11
  numRqeQueuePools := 4
  numPriorityGroups := 8
  support1588 := true
  cellToByte := 208

/-- One ASIC as a System feature reports it. -/
structure Asic where
  /-- The number by which every other call addresses it. -/
  unit : UInt32
  asicType : AsicType
  capabilities : Capabilities
  deriving DecidableEq, Repr

end BufferTelemetry
