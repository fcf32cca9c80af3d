import BufferTelemetry.AgentConfig
import BufferTelemetry.Database.Discovery
import BufferTelemetry.Database.Feed
import BufferTelemetry.Database.Services

/-!
# Starting the agent's database plugin

The plugin is started in steps: the configuration is validated, the port count
is taken from it or discovered, a feed is started and the first settings are
waited for, and then the plugin is put together from the System service, which
serves every silicon family, and the service that tracks statistics, which
serves Trident2 and Tomahawk.
-/

namespace BufferTelemetry.Database

open Rpc

/-- The name of the plugin. -/
def pluginName : String := "ovsdb"

/-- What a started plugin consists of. -/
structure Started (σ : Type) where
  /-- How the plugin reaches the database. -/
  access : Access
  asicType : AsicType
  numPorts : UInt64
  feed : Feed
  /-- The replica as the feed has filled it so far. -/
  replica : Replica
  /-- What the plugin offers. -/
  plugin : Plugin (Backend σ)

/-- How a configuration reaches the database. -/
def accessOf (c : AgentConfig) (endpoint : Endpoint) : Access where
  endpoint := endpoint
  database := c.ovsdb.database
  replyTimeoutMs := c.replyTimeoutMs
  maxLine := c.ovsdb.maxMessageBytes.toNat

/-- The plugin with the given services. -/
def pluginOf {ω : Type} (system : SystemService) (bst : BstService ω) : Plugin ω where
  name := pluginName
  offers := [
    { families := .all, service := .system system },
    { families := AsicType.trident2.union .tomahawk, service := .bst bst }]

/-- The plugin for a switch. -/
def pluginFor {σ : Type} (t : Transport σ) (interfaces : Interfaces) (interface : String)
    (access : Access) (asicType : AsicType) (numPorts : UInt64) : Plugin (Backend σ) :=
  pluginOf (SwitchSystem.service interfaces interface asicType numPorts)
    (Backend.service t access (SwitchSystem.asics asicType numPorts))

/-- The error of a wait for the first settings that has ended without them. -/
def waitError (f : Feed) (timeoutMs : Nat) : Error :=
  match f.state with
  | .disconnected => .transport "sync engine stopped before the initial snapshot"
  | .streaming => .failure s!"no initial snapshot within {Text.durationText timeoutMs}"

/-- Fails unless settings have been delivered when the wait for them is over. -/
def checkInitialized (f : Feed) (initialized : Bool) (timeoutMs : Nat) : Except Error Unit :=
  if initialized then .ok () else .error (waitError f timeoutMs)

/-- The port count that a plugin is started with. -/
def portCount {σ : Type} (t : Transport σ) (c : AgentConfig) (access : Access) :
    Action σ UInt64 :=
  match c.system.numPorts with
  | some ports => return ports
  | none => do
    let ports ← access.discoverPorts t
      { retryMs := c.ovsdb.discoveryRetryMs.toNat, initMs := c.initTimeoutMs }
    return UInt64.ofNat ports

/-- Starts a feed, and lets it deal with what has arrived when the wait is over. -/
def startFeed {σ : Type} (t : Transport σ) (access : Access) (r : Replica) :
    StateM σ (Feed × FeedWorld σ) := do
  let f ← Feed.start t access.endpoint access.database access.maxLine
  modify t.settle
  fun s =>
    let (f, w) := Feed.catchUp t f { replica := r, events := [], world := s }
    ((f, w), w.world)

/-- Starts the plugin. -/
def start {σ : Type} (t : Transport σ) (interfaces : Interfaces) (c : AgentConfig) :
    Action σ (Started σ) := do
  Action.ofExcept c.validate
  let endpoint ← Action.ofExcept c.endpoint
  let asicType ← Action.ofExcept c.asicType
  let access := accessOf c endpoint
  let numPorts ← portCount t c access
  let numUnits := (SwitchSystem.asics asicType numPorts).length
  let (feed, w) ← startFeed t access (.initial numUnits)
  Action.ofExcept (checkInitialized feed w.replica.initialized c.initTimeoutMs)
  return {
    access, asicType, numPorts, feed
    replica := w.replica
    plugin := pluginFor t interfaces c.system.managementInterface access asicType numPorts }

end BufferTelemetry.Database
