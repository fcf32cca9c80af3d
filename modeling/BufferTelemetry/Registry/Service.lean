import BufferTelemetry.Asic
import BufferTelemetry.Event
import BufferTelemetry.Feature
import BufferTelemetry.MacAddress
import BufferTelemetry.Rpc.Transport
import BufferTelemetry.Settings
import BufferTelemetry.Snapshot
import BufferTelemetry.Threshold

/-!
# Services

What a plugin offers behind a feature. A `SystemService` describes the platform;
a `BstService` tracks buffer statistics, and its operations may change the
world. An operation that an implementation does not offer is unsupported, which
callers can tell from one that failed.
-/

namespace BufferTelemetry

/-- An address of the internet protocol, version four. -/
abbrev Ip4Address := Vector UInt8 4

/-- The identity of a platform and the ASICs it has. -/
structure SystemService where
  asics : List Asic
  /-- The features of the platform. -/
  featureMask : FeatureMask
  name : Except Error String
  mac : Except Error MacAddress
  ip4 : Except Error Ip4Address
  /-- Succeeds if the local time can be told. -/
  time : Except Error Unit
  networkOs : Except Error String
  /-- The unique identifier of the agent. -/
  uid : Except Error String
  /-- The unit with the given identifier of the application. -/
  asicFromNotation : String → Except Error UInt32
  /-- The application's identifier of a unit. -/
  asicToNotation : UInt32 → Except Error String
  portFromNotation : String → Except Error UInt32
  portToNotation : UInt32 → UInt32 → Except Error String
  lagToNotation : UInt32 → UInt32 → Except Error String
  /-- The factory maxima of a unit. -/
  maxBuffers : UInt32 → Except Error Snapshot

/-- A service that reports its ASICs and offers nothing else. -/
def SystemService.bare (asics : List Asic) : SystemService where
  asics := asics
  featureMask := .empty
  name := .error (.unsupported "system name get")
  mac := .error (.unsupported "system mac get")
  ip4 := .error (.unsupported "system ip4 get")
  time := .ok ()
  networkOs := .error (.unsupported "network os get")
  uid := .error (.unsupported "uid get")
  asicFromNotation _ := .error (.unsupported "asic translate from notation")
  asicToNotation _ := .error (.unsupported "asic translate to notation")
  portFromNotation _ := .error (.unsupported "port translate from notation")
  portToNotation _ _ := .error (.unsupported "port translate to notation")
  lagToNotation _ _ := .error (.unsupported "lag translate to notation")
  maxBuffers _ := .error (.unsupported "max buf snapshot get")

/-- Buffer statistics tracking for the units of a platform, in a world. -/
structure BstService (ω : Type) where
  setSettings : UInt32 → Settings → Action ω Unit
  settings : UInt32 → Action ω Settings
  /-- The statistics of every realm. -/
  snapshot : UInt32 → Action ω Snapshot
  /-- The statistics of one realm. -/
  realmData : UInt32 → Realm → Action ω RealmData
  setThreshold : UInt32 → ThresholdRequest → Action ω Unit
  /-- The thresholds of every realm. -/
  thresholds : UInt32 → Action ω Snapshot
  clearStats : UInt32 → Action ω Unit
  clearThresholds : UInt32 → Action ω Unit
  /-- Subscribes to the events of all units. -/
  subscribe : UInt32 → Action ω Unit

/-- A service that offers nothing. -/
def BstService.bare (ω : Type) : BstService ω where
  setSettings _ _ := throw (.unsupported "bst config set")
  settings _ := throw (.unsupported "bst config get")
  snapshot _ := throw (.unsupported "bst snapshot get")
  realmData _ realm := throw (.unsupported s!"bst {realm.name} data get")
  setThreshold _ request := throw (.unsupported s!"bst {request.realm.name} threshold set")
  thresholds _ := throw (.unsupported "bst threshold get")
  clearStats _ := throw (.unsupported "bst clear stats")
  clearThresholds _ := throw (.unsupported "bst clear thresholds")
  subscribe _ := throw (.unsupported "bst register trigger")

/-- The implementation of a feature. -/
inductive Service (ω : Type) where
  | system (s : SystemService)
  | bst (b : BstService ω)

/-- The feature that a service implements. -/
def Service.feature {ω : Type} : Service ω → FeatureId
  | .system _ => .system
  | .bst _ => .bst

/-- A feature of a plugin, with the silicon families that it serves. -/
structure Offer (ω : Type) where
  /-- The families; the wildcard marks a generic fallback. -/
  families : AsicType
  service : Service ω

/-- A plugin: a name and the features that it offers. -/
structure Plugin (ω : Type) where
  name : String
  offers : List (Offer ω)

end BufferTelemetry
