import BufferTelemetry.Registry.Basic

/-!
# Requests to the platform

The operations of the management interface. A question about the platform goes
to the generic System service; a question about a unit goes to the service for
the unit's ASIC type, which the generic one knows.
-/

namespace BufferTelemetry.Registry

variable {ω : Type}

/-- The service for questions about the platform. -/
def platform (r : Registry ω) : Except Error SystemService := r.systemService .all

/-- The ASIC type of a unit. -/
def unitAsicType (r : Registry ω) (unit : UInt32) : Except Error AsicType := do
  let s ← r.platform
  match s.asics.find? (·.unit = unit) with
  | some asic => return asic.asicType
  | none => throw (.notFound s!"ASIC unit {unit}")

/-- The number of units. -/
def numUnits (r : Registry ω) : Except Error Nat := do
  return (← r.platform).asics.length

/-- The System service for a unit. -/
def systemOfUnit (r : Registry ω) (unit : UInt32) : Except Error SystemService := do
  r.systemService (← r.unitAsicType unit)

/-- The capabilities of a unit. -/
def unitCapabilities (r : Registry ω) (unit : UInt32) : Except Error Capabilities := do
  let s ← r.systemOfUnit unit
  match s.asics.find? (·.unit = unit) with
  | some asic => return asic.capabilities
  | none => throw (.notFound s!"capabilities of ASIC unit {unit}")

/-- The name of the platform. -/
def systemName (r : Registry ω) : Except Error String := do (← r.platform).name

/-- The hardware address of the platform. -/
def systemMac (r : Registry ω) : Except Error MacAddress := do (← r.platform).mac

/-- The internet address of the platform. -/
def systemIp4 (r : Registry ω) : Except Error Ip4Address := do (← r.platform).ip4

/-- Succeeds if the platform can tell the time. -/
def systemTime (r : Registry ω) : Except Error Unit := do (← r.platform).time

/-- The network operating system. -/
def networkOs (r : Registry ω) : Except Error String := do (← r.platform).networkOs

/-- The unique identifier of the agent. -/
def systemUid (r : Registry ω) : Except Error String := do (← r.platform).uid

/-- The features of the platform. -/
def systemFeatureMask (r : Registry ω) : Except Error FeatureMask := do
  return (← r.platform).featureMask

/-- The unit with the given identifier of the application. -/
def asicFromNotation (r : Registry ω) (src : String) : Except Error UInt32 := do
  (← r.platform).asicFromNotation src

/-- The application's identifier of a unit. -/
def asicToNotation (r : Registry ω) (unit : UInt32) : Except Error String := do
  (← r.systemOfUnit unit).asicToNotation unit

/-- The port with the given identifier of the application. -/
def portFromNotation (r : Registry ω) (unit : UInt32) (src : String) : Except Error UInt32 := do
  (← r.systemOfUnit unit).portFromNotation src

/-- The application's identifier of a port. -/
def portToNotation (r : Registry ω) (unit port : UInt32) : Except Error String := do
  (← r.systemOfUnit unit).portToNotation unit port

/-- The application's identifier of a link aggregation group. -/
def lagToNotation (r : Registry ω) (unit lag : UInt32) : Except Error String := do
  (← r.systemOfUnit unit).lagToNotation unit lag

/-- The factory maxima of a unit. -/
def maxBuffers (r : Registry ω) (unit : UInt32) : Except Error Snapshot := do
  (← r.systemOfUnit unit).maxBuffers unit

/-- The service that tracks the statistics of a unit. -/
def bstOfUnit (r : Registry ω) (unit : UInt32) : Except Error (BstService ω) := do
  r.bstService (← r.unitAsicType unit)

/-- Forwards a request to the service that tracks the statistics of a unit. -/
def forward {α : Type} (r : Registry ω) (unit : UInt32) (f : BstService ω → UInt32 → Action ω α) :
    Action ω α := do
  f (← Action.ofExcept (r.bstOfUnit unit)) unit

/-- Applies settings to a unit. -/
def setBstSettings (r : Registry ω) (unit : UInt32) (settings : Settings) : Action ω Unit :=
  r.forward unit fun b unit => b.setSettings unit settings

/-- The settings of a unit. -/
def bstSettings (r : Registry ω) (unit : UInt32) : Action ω Settings :=
  r.forward unit fun b => b.settings

/-- The statistics of a unit. -/
def bstSnapshot (r : Registry ω) (unit : UInt32) : Action ω Snapshot :=
  r.forward unit fun b => b.snapshot

/-- The statistics of a realm of a unit. -/
def bstRealmData (r : Registry ω) (unit : UInt32) (realm : Realm) : Action ω RealmData :=
  r.forward unit fun b unit => b.realmData unit realm

/-- Sets thresholds of a unit. -/
def setBstThreshold (r : Registry ω) (unit : UInt32) (request : ThresholdRequest) :
    Action ω Unit :=
  r.forward unit fun b unit => b.setThreshold unit request

/-- The thresholds of a unit. -/
def bstThresholds (r : Registry ω) (unit : UInt32) : Action ω Snapshot :=
  r.forward unit fun b => b.thresholds

/-- Sets the statistics of a unit to zero. -/
def clearBstStats (r : Registry ω) (unit : UInt32) : Action ω Unit :=
  r.forward unit fun b => b.clearStats

/-- Takes the thresholds of a unit back. -/
def clearBstThresholds (r : Registry ω) (unit : UInt32) : Action ω Unit :=
  r.forward unit fun b => b.clearThresholds

/-- Subscribes to the events of the service that tracks a unit. -/
def subscribeBst (r : Registry ω) (unit : UInt32) : Action ω Unit :=
  r.forward unit fun b => b.subscribe

end BufferTelemetry.Registry
