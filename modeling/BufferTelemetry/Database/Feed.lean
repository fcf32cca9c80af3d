import BufferTelemetry.Database.Replica
import BufferTelemetry.Database.Request
import BufferTelemetry.Rpc.Client

/-!
# The feed

A feed keeps a replica up to date: it subscribes with a single request, and folds
the reply to it and every later update notification into the replica. It waits
for a message, deals with it, and then takes in all others that have arrived
before it deals with them in turn. An error reply to the subscription, a failure
of the connection and its end stop the feed; so does a request to stop.
-/

namespace BufferTelemetry.Database

open Rpc

/-- What a feed changes: the replica, the events published, and the world. -/
structure FeedWorld (σ : Type) where
  replica : Replica
  events : List Event
  world : σ

/-- The state of a feed. -/
inductive Feed where
  /-- Waiting for a message. -/
  | waiting (client : Client) (monitorId : Nat)
  /-- Taking in the messages that have arrived. -/
  | taking (client : Client) (monitorId : Nat) (taken : List Message)
  /-- Stopped, for a reason or on request. -/
  | stopped (result : Except Error Unit)

/-- The state of a feed, as it is shown. -/
inductive FeedState where
  | disconnected
  | streaming
  deriving DecidableEq, Repr

/-- The text of a feed's state. -/
def FeedState.text : FeedState → String
  | .disconnected => "Disconnected"
  | .streaming => "Streaming"

/-- The updates of a notification. -/
def updatesOf? (params : Json) : Option Json :=
  match params with
  | .arr [.null, updates] => some updates
  | _ => none

namespace Feed

variable {σ : Type}

/-- The state of a feed, as it is shown. -/
def state : Feed → FeedState
  | .stopped _ => .disconnected
  | _ => .streaming

/-- Opens the connection and subscribes. -/
def start (t : Transport σ) (endpoint : Endpoint) (database : String) (maxLine : Nat) :
    StateM σ Feed :=
  fun s =>
    match Client.connect t endpoint maxLine s with
    | (.error e, s) => (.stopped (.error e), s)
    | (.ok c, s) =>
      match Client.run (Client.sendRequest t "monitor" (monitorParams database)) c s with
      | (.error e, _, s) => (.stopped (.error e), s)
      | (.ok id, c, s) => (.waiting c id, s)

/-- The updates that a message delivers, or the error that ends the feed. -/
def delivery (monitorId : Nat) (m : Message) : Except Error (Option Json) :=
  match m with
  | .reply result id =>
    if id.word?.map UInt64.toNat = some monitorId then .ok (some result) else .ok none
  | .error e id =>
    if id.word?.map UInt64.toNat = some monitorId then
      .error (.failure s!"monitor request rejected: {e.compress}")
    else .ok none
  | .notify method params => if method = "update" then .ok (updatesOf? params) else .ok none
  | .request .. => .ok none

/-- Deals with a message. -/
def dispatch (monitorId : Nat) (w : FeedWorld σ) (m : Message) : Except Error (FeedWorld σ) :=
  match delivery monitorId m with
  | .error e => .error e
  | .ok none => .ok w
  | .ok (some updates) =>
    let p := w.replica.apply updates
    .ok { w with replica := p.replica, events := w.events ++ p.events }

/-- Deals with messages in turn, up to one that ends the feed. -/
def dispatchAll (c : Client) (monitorId : Nat) : List Message → StateM (FeedWorld σ) Feed
  | [] => return .waiting c monitorId
  | m :: rest => fun w =>
    match dispatch monitorId w m with
    | .ok w => dispatchAll c monitorId rest w
    | .error e => (.stopped (.error e), w)

/-- Deals with a message that was waited for. -/
def onMessage (c : Client) (monitorId : Nat) (m : Message) : StateM (FeedWorld σ) Feed :=
  fun w =>
    match dispatch monitorId w m with
    | .ok w => (.taking c monitorId [], w)
    | .error e => (.stopped (.error e), w)

/-- Looks at the connection once. -/
def lookOnce (t : Transport σ) (c : Client) :
    StateM (FeedWorld σ) (Except Error Arrival × Client) :=
  fun w =>
    let (arrival, c, s) := Client.run (Client.look t) c w.world
    ((arrival, c), { w with world := s })

/-- Lets the feed look at its connection once. -/
def step (t : Transport σ) (f : Feed) : StateM (FeedWorld σ) Feed := do
  match f with
  | .stopped result => return .stopped result
  | .waiting c id =>
    match ← lookOnce t c with
    | (.error e, _) => return .stopped (.error e)
    | (.ok .ended, c) => return .stopped (.error c.closed)
    | (.ok (.message m), c) => onMessage c id m
    | (.ok _, c) => return .waiting c id
  | .taking c id taken =>
    match ← lookOnce t c with
    | (.error e, _) => return .stopped (.error e)
    | (.ok .ended, c) => return .stopped (.error c.closed)
    | (.ok (.message m), c) => return .taking c id (taken ++ [m])
    | (.ok .handled, c) => return .taking c id taken
    | (.ok .nothing, c) => dispatchAll c id taken

/-- Lets the feed look at its connection so many times. -/
def run (t : Transport σ) : Nat → Feed → StateM (FeedWorld σ) Feed
  | 0, f => return f
  | n + 1, f => do run t n (← step t f)

/-- How often the connection of the feed can be looked at before a wait is over. -/
def patience (t : Transport σ) (s : σ) : Feed → Nat
  | .waiting c _ => t.patience c.conn s
  | .taking c _ _ => t.patience c.conn s
  | .stopped _ => 0

/-- Lets the feed deal with what has arrived. -/
def catchUp (t : Transport σ) (f : Feed) : StateM (FeedWorld σ) Feed := do
  let w ← get
  run t (f.patience t w.world) f

/-- Stops the feed on request. -/
def cancel : Feed → Feed
  | .stopped result => .stopped result
  | _ => .stopped (.ok ())

end Feed

end BufferTelemetry.Database
