import BufferTelemetry.Database.Agent
import BufferTelemetry.Loopback.Network

/-!
# A session with a scripted server

An application and an agent on a network inside the program: the application has
a client of its own, and the agent serves the requests of the management
interface. The application can start engines, each a feed that fills the store
of the agent. When the database plugin is started from a configuration, an agent
with that plugin takes the place of the one before it. Of the first agent the
commits that are made directly remain, and the row of the settings with them.
What has been started goes on in the background, watched or not, until it stops
by itself or on request.
-/

namespace BufferTelemetry.Loopback

open Rpc Database

/-- A feed that the application has started. -/
structure Engine where
  feed : Feed
  /-- Whether it has delivered settings. -/
  initialized : Bool
  /-- Whether it fills the store of the agent that serves the management interface. -/
  current : Bool

/-- An application and an agent on a network. -/
structure Session where
  network : Network
  /-- The application's own client. -/
  client : Option Client
  /-- The agent that the session begins with. -/
  first : Agent Network
  /-- The engine that the application watches. -/
  engine : Option Engine
  /-- The engines that it does not watch any more. -/
  idle : List Engine
  /-- The agent with the plugin that has been started from a configuration. -/
  started : Option (Agent Network)
  /-- Whether the application watches the feed of that plugin. -/
  held : Bool
  /-- The agents with the plugins that were started before. -/
  former : List (Agent Network)

namespace Session

/-- The interface that the agent of a session is given; no machine has it. -/
def interface : String := "nosuchif0"

/-- The plugin that a session begins with, for an ASIC with the given capabilities. -/
def firstPlugin (access : Access) (caps : Capabilities) : Plugin (Backend Network) :=
  pluginOf (SwitchSystem.service .none interface .trident2 caps.numPorts)
    (Backend.service Network.transport access
      [{ unit := 0, asicType := .trident2, capabilities := caps }])

/-- The start of a session. -/
def initial (network : Network) (access : Access) (numUnits : Nat) (caps : Capabilities) :
    Session where
  network := network
  client := none
  first := .initial access numUnits
    { capacity := defaultCapacity, plugins := [firstPlugin access caps] }
  engine := none
  idle := []
  started := none
  held := false
  former := []

/-- The agent that serves the management interface. -/
def agent (s : Session) : Agent Network := s.started.getD s.first

/-- The session with another state of the agent that serves the management interface. -/
def withAgent (s : Session) (a : Agent Network) : Session :=
  match s.started with
  | some _ => { s with started := some a }
  | none => { s with first := a }

/-- Runs an operation of the agent that serves the management interface. -/
def onAgent {α : Type} (f : StateM (Agent Network × Network) α) : StateM Session α :=
  fun s =>
    let (result, a, network) := f (s.agent, s.network)
    (result, { s.withAgent a with network })

/-- Runs an operation of the agent that the session began with. -/
def onFirst {α : Type} (f : StateM (Agent Network × Network) α) : StateM Session α :=
  fun s =>
    let (result, first, network) := f (s.first, s.network)
    (result, { s with first, network })

/-- Runs an operation on the network. -/
def onNetwork {α : Type} (f : StateM Network α) : StateM Session α :=
  fun s =>
    let (result, network) := f s.network
    (result, { s with network })

/-- Runs a request of the management interface. -/
def serve {α : Type} (action : Registry (Backend Network) → Action (Backend Network) α) :
    StateM Session (Except Error α) := do
  let registry := (← get).agent.registry
  onAgent (Agent.serve (action registry))

/-- Runs an operation on the store of the agent. -/
def onStore {α : Type} (f : StateM Store α) : StateM Session α :=
  onAgent fun (a, network) =>
    let (result, a) := a.withStore f
    (result, a, network)

/-- Runs a commit of the agent that the session began with. -/
def commit {α : Type} (f : Access → Option Uuid → Action Network α) :
    StateM Session (Except Error α) := do
  let first := (← get).first
  onNetwork (f first.access first.replica.settingsRow)

/-- Tells the first agent which row holds the settings. -/
def setSettingsRow (row : Uuid) : StateM Session Unit :=
  modify fun s => { s with first.replica.settingsRow := some row }

/-- Commits a threshold on the connection that is kept by the first agent. -/
def commitThreshold (c : Counter) (value : UInt64) : StateM Session (Except Error Unit) := do
  let first := (← get).first
  onFirst (Agent.serve (Backend.inOutlet (first.access.commitThreshold Network.transport c value)))

/-- Opens the application's client. -/
def connect : StateM Session (Except Error Unit) := do
  let access := (← get).first.access
  match ← onNetwork (access.connect Network.transport) with
  | .ok client =>
    modify ({ · with client := some client })
    return .ok ()
  | .error e => return .error e

/-- Closes the application's client. -/
def disconnect : StateM Session Unit := modify ({ · with client := none })

/-- Runs an operation of the application's client, if it has one. -/
def onClient {α : Type} (f : ClientAction Network α) : StateM Session (Option (Except Error α)) :=
  fun s =>
    match s.client with
    | none => (none, s)
    | some client =>
      let (result, client, network) := Client.run f client s.network
      (some result, { s with client := some client, network })

/-- Starts the database plugin from a configuration, and answers it with its place in a
registry of its own. -/
def startPlugin (config : AgentConfig) :
    StateM Session (Except Error (Plugin (Backend Network) × Except Error Nat)) := do
  match ← onNetwork (Database.start Network.transport .none config) with
  | .error e => return .error e
  | .ok p =>
    let empty := Registry.empty (Backend Network) defaultCapacity
    let (place, registry) : Except Error Nat × Registry (Backend Network) :=
      match empty.register p.plugin with
      | .ok (place, registry) => (.ok place, registry)
      | .error e => (.error e, empty)
    modify fun s => { s with
      engine := s.engine.map ({ · with current := false })
      idle := s.idle.map ({ · with current := false })
      started := some (Agent.ofStarted p registry)
      held := true
      former := s.started.toList ++ s.former }
    return .ok (p.plugin, place)

/-- Starts an engine, and watches it from now on. -/
def startEngine : StateM Session Unit := do
  let access := (← get).first.access
  let feed ← onNetwork
    (Feed.start Network.transport access.endpoint access.database access.maxLine)
  modify fun s => { s with
    engine := some { feed, initialized := false, current := true }
    idle := s.engine.toList ++ s.idle }

/-- The feed that the application watches, an engine before a plugin's, and whether it has
delivered settings. -/
def watched (s : Session) : Option (Feed × Bool) :=
  match s.engine with
  | some e => some (e.feed, e.initialized)
  | none => do
    let a ← s.started
    guard s.held
    return (← a.feed, a.replica.initialized)

/-- The state of the feed that the application watches. -/
def feedState (s : Session) : Option FeedState := s.watched.map fun (feed, _) => feed.state

/-- Whether the feed that the application watches has delivered settings. -/
def feedInitialized (s : Session) : Bool := s.watched.any Prod.snd

/-- Waits so long for settings from the feed that the application watches. -/
def waitInitialized (timeoutMs : Nat) (s : Session) : Except Error Unit :=
  match s.watched with
  | some (feed, initialized) => checkInitialized feed initialized timeoutMs
  | none => .ok ()

/-- Stops the feed that the application watches. -/
def cancelFeed (s : Session) : Session :=
  match s.engine with
  | some e => { s with engine := some { e with feed := e.feed.cancel } }
  | none => if s.held then { s with started := s.started.map Agent.cancel } else s

/-- Why the feed that the application watches has stopped. From now on it watches none. -/
def joinFeed : StateM Session (Except Error Unit) := do
  let s ← get
  set { s with
    engine := none
    idle := s.engine.toList ++ s.idle
    held := false }
  match s.watched with
  | some (.stopped result, _) => return result
  | _ => return .ok ()

/-- Lets the server act on a connection, by default the newest one, without a request. -/
def actServer (conn : Option ConnId) (actions : List ServerAction) : StateM Session Unit :=
  onNetwork fun n =>
    ((), n.act (conn.getD (n.connections.size - 1)) .null actions)

/-- The agent whose store an engine fills. A store that has been replaced is not looked at
again, so any will do for it. -/
def filled (s : Session) (e : Engine) : Agent Network := if e.current then s.agent else s.first

/-- Lets an engine deal with what has arrived. It publishes its events for the first agent,
which also learns the row of the settings. -/
def catchUpEngine (e : Engine) : StateM Session Engine :=
  fun s =>
    let replica : Replica := {
      store := (s.filled e).replica.store
      settingsRow := s.first.replica.settingsRow
      initialized := e.initialized }
    let (feed, w) := e.feed.catchUp Network.transport
      { replica, events := s.first.unread, world := s.network }
    let s := { s with
      network := w.world
      first.replica.settingsRow := w.replica.settingsRow
      first.unread := w.events }
    let s := if e.current then
        s.withAgent { s.agent with replica.store := w.replica.store }
      else s
    ({ e with feed, initialized := w.replica.initialized }, s)

/-- Lets the server and every feed deal with what has arrived. -/
def catchUp : StateM Session Unit := do
  modify fun s => { s with network := s.network.settle }
  let idle ← (← get).idle.mapM catchUpEngine
  let engine ← (← get).engine.mapM catchUpEngine
  let former ← (← get).former.mapM fun a => onNetwork (a.catchUp Network.transport)
  let started ← (← get).started.mapM fun a => onNetwork (a.catchUp Network.transport)
  modify fun s => { s with network := s.network.settle, idle, engine, former, started }

/-- The lines that the server has received since it was asked last. -/
def takeReceived : StateM Session (List (ConnId × String)) :=
  onNetwork fun n => (n.received.toList, { n with received := #[] })

end Session

end BufferTelemetry.Loopback
