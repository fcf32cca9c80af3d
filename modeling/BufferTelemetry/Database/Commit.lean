import BufferTelemetry.Counter.RowName
import BufferTelemetry.Database.Request
import BufferTelemetry.Rpc.Client

/-!
# Commits

How local changes reach the database. Thresholds are set in bursts, so they
share one connection, which is kept open, and do not wait for their replies; any
other commit opens a connection of its own and waits. The server may have closed
the connection that was kept, so a threshold that cannot be sent on it is sent
once more on a fresh one.
-/

namespace BufferTelemetry.Database

open Rpc

/-- How the database is reached. -/
structure Access where
  endpoint : Endpoint
  database : String
  /-- The time for which a reply is waited for. -/
  replyTimeoutMs : Nat
  /-- The greatest length of a line from the server. -/
  maxLine : Nat

/-- What commits change: the connection that is kept for thresholds, and the world. -/
structure Outlet (σ : Type) where
  kept : Option Client
  world : σ

namespace Access

variable {σ : Type}

/-- Opens a connection to the database. -/
def connect (a : Access) (t : Transport σ) : Action σ Client :=
  Client.connect t a.endpoint a.maxLine

/-- Runs a transaction on a connection of its own, and waits for its result. -/
def transactOnce (a : Access) (t : Transport σ) (params : Json) : Action σ Json := do
  let c ← a.connect t
  Client.runOnce (Client.transact t params a.replyTimeoutMs) c

/-- Takes in what has arrived on a connection, and sends a transaction on it. -/
def sendThreshold (t : Transport σ) (params : Json) : ClientAction σ Unit := do
  let _ ← Client.drain t
  let _ ← Client.sendTransaction t params

/-- Sends a threshold on the given connection, and keeps the connection if that worked. -/
def sendKept (t : Transport σ) (params : Json) (c : Client) : Action (Outlet σ) Unit :=
  fun o =>
    match (sendThreshold t params).run (c, o.world) with
    | (.ok (), c, s) => (.ok (), { kept := some c, world := s })
    | (.error e, _, s) => (.error e, { kept := none, world := s })

/-- Sends a threshold on a fresh connection. -/
def sendFresh (a : Access) (t : Transport σ) (params : Json) : Action (Outlet σ) Unit := do
  let c ← Action.within Outlet.world (fun o s => { o with world := s }) (a.connect t)
  sendKept t params c

/-- Sets the threshold of a counter, without waiting for the reply. -/
def commitThreshold (a : Access) (t : Transport σ) (c : Counter) (value : UInt64) :
    Action (Outlet σ) Unit := do
  let params := thresholdUpdate a.database c.rowName value
  match (← get).kept with
  | none => sendFresh a t params
  | some client => tryCatch (sendKept t params client) fun _ => sendFresh a t params

/-- Replaces the settings in the row with the given identifier, once it is known. -/
def commitSettings (a : Access) (t : Transport σ) (row : Option Uuid) (settings : Settings) :
    Action σ Unit :=
  match row with
  | none => throw (.notFound "BST configuration row")
  | some row => do
    let _ ← a.transactOnce t (settingsUpdate a.database row settings)

/-- Sends the collection of some realms without waiting for the replies. -/
def sendTracking (a : Access) (t : Transport σ) (mask : TrackingMask) :
    List Realm → ClientAction σ Unit
  | [] => return ()
  | realm :: realms => do
    let _ ← Client.sendTransaction t (trackingUpdate a.database realm (mask.isEnabled realm))
    sendTracking a t mask realms

/-- Turns the collection of every realm on or off as the mask says. All realms go out on
one connection, and only the last of them waits for its reply. -/
def commitTracking (a : Access) (t : Transport σ) (mask : TrackingMask) : Action σ Unit := do
  match Realm.all.getLast? with
  | none => return ()
  | some last =>
    let c ← a.connect t
    Client.runOnce
      (do
        sendTracking a t mask Realm.all.dropLast
        let _ ← Client.transact t (trackingUpdate a.database last (mask.isEnabled last))
          a.replyTimeoutMs)
      c

/-- Takes the thresholds of a unit back. -/
def commitClearThresholds (a : Access) (t : Transport σ) (asic : UInt32) : Action σ Unit := do
  let _ ← a.transactOnce t (clearThresholds a.database asic)

/-- Sets the statistics of a unit to zero. -/
def commitClearStats (a : Access) (t : Transport σ) (asic : UInt32) : Action σ Unit := do
  let _ ← a.transactOnce t (clearStats a.database asic)

end Access

end BufferTelemetry.Database
