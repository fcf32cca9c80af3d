import BufferTelemetry.Error
import BufferTelemetry.Text.LetterCase

/-!
# Features

What a plugin can offer, and the set of features of a platform as a mask.
-/

namespace BufferTelemetry

/-- The greatest number of features known to the agent. -/
def maxFeatures : Nat := 16

/-- The greatest number of features of one plugin. -/
def maxFeaturesPerPlugin : Nat := maxFeatures + 1

/-- A feature that a plugin can offer. -/
inductive FeatureId where
  /-- Platform identity and the list of ASICs. -/
  | system
  /-- Buffer statistics tracking. -/
  | bst
  /-- Packet tracing. -/
  | packetTrace
  deriving DecidableEq, Repr

namespace FeatureId

/-- Every feature. -/
def all : List FeatureId := [.system, .bst, .packetTrace]

/-- The bit of a feature in a mask. -/
def bit : FeatureId → UInt32
  | .system => 1
  | .bst => 2
  | .packetTrace => 4

/-- The name of a feature. -/
def name : FeatureId → String
  | .system => "system"
  | .bst => "bst"
  | .packetTrace => "packet-trace"

/-- Reads the name of a feature in any letter case. -/
def ofString? (s : String) : Except ParseError FeatureId :=
  match all.find? fun f => f.name.toList = Text.fold s with
  | some f => .ok f
  | none => .error (.feature s)

end FeatureId

/-- A set of features. -/
structure FeatureMask where
  /-- One bit for each feature. -/
  bits : UInt32
  deriving DecidableEq, Repr

namespace FeatureMask

/-- The set without features. -/
def empty : FeatureMask := ⟨0⟩

/-- The set with one more feature. -/
def enable (m : FeatureMask) (f : FeatureId) : FeatureMask := ⟨m.bits ||| f.bit⟩

/-- Whether a feature is in the set. -/
def isEnabled (m : FeatureMask) (f : FeatureId) : Bool := m.bits &&& f.bit != 0

end FeatureMask

end BufferTelemetry
