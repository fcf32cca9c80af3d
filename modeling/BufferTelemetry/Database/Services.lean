import BufferTelemetry.Database.Commit
import BufferTelemetry.Registry.Service
import BufferTelemetry.Store
import BufferTelemetry.Survey
import BufferTelemetry.Text.Blank

/-!
# Services of a switch with a database

The System service of a switch with one ASIC, and the service that tracks its
buffer statistics: reads are answered from the store, writes go to the database
as commits. A change of settings reaches the store only after every commit that
it needs has succeeded, and a threshold request is validated as a whole before
the first of its writes is sent.
-/

namespace BufferTelemetry.Database

open Rpc Text

/-- What is known of the interfaces of the machine on which the agent runs. -/
structure Interfaces where
  mac? : String → Option MacAddress
  ip4? : String → Option Ip4Address

/-- A machine without interfaces. -/
def Interfaces.none : Interfaces where
  mac? _ := .none
  ip4? _ := .none

/-- The ASIC of a unit. -/
def findAsic (asics : List Asic) (unit : UInt32) : Except Error Asic :=
  match asics.find? (·.unit = unit) with
  | some asic => .ok asic
  | none => .error (.invalidParameter s!"unknown ASIC unit {unit}")

namespace SwitchSystem

/-- The name of the platform. -/
def platformName : String := "OVSDB-PLUGIN"

/-- The network operating system. -/
def networkOs : String := "ovsdb"

/-- The one ASIC of a switch. -/
def asics (asicType : AsicType) (numPorts : UInt64) : List Asic :=
  [{ unit := 0, asicType, capabilities := .trident2 numPorts }]

/-- The unit with the given identifier, which counts from one. -/
def unitOfNotation (asics : List Asic) (src : String) : Except Error UInt32 :=
  match Numeral.decimal? UInt32.size (trim src) with
  | some (n + 1) => do
    let asic ← findAsic asics (UInt32.ofNat n)
    return asic.unit
  | _ => .error (.invalidParameter s!"bad ASIC id '{src}'")

/-- The port with the given identifier, which is its number. -/
def portOfNotation (src : String) : Except Error UInt32 :=
  match Numeral.decimal? UInt32.size (trim src) with
  | some n => .ok (UInt32.ofNat n)
  | none => .error (.invalidParameter s!"bad port '{src}'")

/-- The hardware address of the management interface. -/
def mac (interfaces : Interfaces) (interface : String) : Except Error MacAddress :=
  match interfaces.mac? interface with
  | some m => .ok m
  | none => .error (.notFound s!"MAC address of interface {interface}")

/-- The internet address of the management interface. -/
def ip4 (interfaces : Interfaces) (interface : String) : Except Error Ip4Address :=
  match interfaces.ip4? interface with
  | some a => .ok a
  | none => .error (.notFound s!"IPv4 address of interface {interface}")

/-- The factory maxima of a unit. -/
def maxBuffers (asics : List Asic) (unit : UInt32) : Except Error Snapshot := do
  let asic ← findAsic asics unit
  Survey.snapshot asic.capabilities fun c => .ok c.kind.factoryThreshold

/-- The System service of a switch. -/
def service (interfaces : Interfaces) (interface : String) (asicType : AsicType)
    (numPorts : UInt64) : SystemService :=
  let asics := asics asicType numPorts
  { asics
    featureMask := FeatureMask.empty.enable .system |>.enable .bst
    name := .ok platformName
    mac := mac interfaces interface
    ip4 := ip4 interfaces interface
    time := .ok ()
    networkOs := .ok networkOs
    uid := (mac interfaces interface).map MacAddress.uid
    asicFromNotation := unitOfNotation asics
    asicToNotation := fun unit => (findAsic asics unit).map fun _ => toString (unit + 1)
    portFromNotation := portOfNotation
    portToNotation := fun unit port => (findAsic asics unit).map fun _ => toString port
    lagToNotation := fun unit lag => (findAsic asics unit).map fun _ => toString lag
    maxBuffers := maxBuffers asics }

end SwitchSystem

/-- What the service that tracks statistics works on: the store, the row with the
settings, the connection that is kept for thresholds, and the world. -/
structure Backend (σ : Type) where
  store : Store
  settingsRow : Option Uuid
  kept : Option Client
  world : σ

namespace Backend

variable {σ : Type}

/-- Runs an operation on the world alone. -/
def inWorld {α : Type} (a : Action σ α) : Action (Backend σ) α :=
  Action.within Backend.world (fun b s => { b with world := s }) a

/-- Runs an operation that may use the connection that is kept for thresholds. -/
def inOutlet {α : Type} (a : Action (Outlet σ) α) : Action (Backend σ) α :=
  Action.within (fun b => { kept := b.kept, world := b.world })
    (fun b o => { b with kept := o.kept, world := o.world }) a

/-- The capabilities of a unit. -/
def capabilities (asics : List Asic) (unit : UInt32) : Action (Backend σ) Capabilities := do
  return (← Action.ofExcept (findAsic asics unit)).capabilities

/-- Surveys the counters of a unit in the store, and picks a value of each. -/
def reader (s : Store) (unit : UInt32) (pick : Entry → UInt64) :
    Except Error (Counter → Except Error UInt64) := do
  let u ← s.unit unit
  return fun c => (u.get c).map pick

/-- The values of every realm of a unit. -/
def collect (asics : List Asic) (unit : UInt32) (pick : Entry → UInt64) :
    Action (Backend σ) Snapshot := do
  let caps ← capabilities asics unit
  let b ← get
  Action.ofExcept do
    Survey.snapshot caps (← reader b.store unit pick)

/-- The values of one realm of a unit. -/
def collectRealm (asics : List Asic) (unit : UInt32) (realm : Realm) (pick : Entry → UInt64) :
    Action (Backend σ) RealmData := do
  let caps ← capabilities asics unit
  let b ← get
  Action.ofExcept do
    Survey.realm caps (← reader b.store unit pick) realm

/-- Applies settings to a unit: commits them with the collection of triggers turned on,
commits the realms unless that has been done before, and then records them. -/
def setSettings (t : Transport σ) (a : Access) (asics : List Asic) (unit : UInt32)
    (settings : Settings) : Action (Backend σ) Unit := do
  let _ ← capabilities asics unit
  let settings := { settings with triggerCollectionEnabled := true }
  let b ← get
  inWorld (a.commitSettings t b.settingsRow settings)
  if !settings.trackInit then
    inWorld (a.commitTracking t settings.trackingMask)
  let b ← get
  let store ← Action.ofExcept (b.store.setSettings unit settings)
  set { b with store }

/-- Sets the thresholds of a request, each with a commit, after all of them have been
found to be valid. -/
def setThreshold (t : Transport σ) (a : Access) (asics : List Asic) (unit : UInt32)
    (request : ThresholdRequest) : Action (Backend σ) Unit := do
  let caps ← capabilities asics unit
  Action.ofExcept (request.writes.forM (ThresholdWrite.validate caps))
  inOutlet (request.writes.forM fun w => a.commitThreshold t w.counter w.value)

/-- The service that tracks the statistics of the given ASICs. -/
def service (t : Transport σ) (a : Access) (asics : List Asic) : BstService (Backend σ) where
  setSettings := setSettings t a asics
  settings unit := do
    let b ← get
    Action.ofExcept (b.store.settings unit)
  snapshot unit := collect asics unit Entry.stat
  realmData unit realm := collectRealm asics unit realm Entry.stat
  setThreshold := setThreshold t a asics
  thresholds unit := collect asics unit Entry.threshold
  clearStats unit := do
    let _ ← capabilities asics unit
    inWorld (a.commitClearStats t unit)
  clearThresholds unit := do
    let _ ← capabilities asics unit
    inWorld (a.commitClearThresholds t unit)
  subscribe unit := do
    let _ ← capabilities asics unit

end Backend

end BufferTelemetry.Database
