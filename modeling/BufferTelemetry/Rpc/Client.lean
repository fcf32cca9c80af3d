import BufferTelemetry.Json.Reader
import BufferTelemetry.Rpc.Message
import BufferTelemetry.Rpc.Transport
import BufferTelemetry.Text.Duration

/-!
# Clients

A client numbers the requests that it sends on its connection from zero. It
answers the server's echo requests by itself, passes over lines that carry no
message, and hands on all other messages. A blocking request waits for the
reply with its own number, whatever comes before it. A wait takes in what has
arrived already, and then what the server has to say to all that was sent.
-/

namespace BufferTelemetry.Rpc

/-- One end of a connection to a server. -/
structure Client where
  endpoint : Endpoint
  conn : ConnId
  /-- The number of the next request. -/
  nextId : Nat
  deriving DecidableEq, Repr

/-- An operation of a client in a world. -/
abbrev ClientAction (σ : Type) := Action (Client × σ)

/-- What one look at a connection brings. -/
inductive Arrival where
  /-- A message for the caller. -/
  | message (m : Message)
  /-- A line that is dealt with. -/
  | handled
  /-- The end of the stream. -/
  | ended
  /-- Nothing yet. -/
  | nothing

namespace Client

variable {σ : Type}

/-- Opens a connection whose lines are bounded. -/
def connect (t : Transport σ) (endpoint : Endpoint) (limit : Nat) : Action σ Client :=
  fun s =>
    match t.connect endpoint limit s with
    | (.ok conn, s) => (.ok { endpoint, conn, nextId := 0 }, s)
    | (.error reason, s) => (.error (.transport reason), s)

/-- Runs an operation of a client, and answers the client as the operation leaves it. -/
def run {α : Type} (a : ClientAction σ α) (c : Client) (s : σ) :
    Except Error α × Client × σ :=
  a (c, s)

/-- Runs an operation of a client that is not used again. -/
def runOnce {α : Type} (a : ClientAction σ α) (c : Client) : Action σ α :=
  fun s =>
    let (result, _, s) := run a c s
    (result, s)

/-- What is reported when the server has closed the connection. -/
def closed (c : Client) : Error := .transport s!"{c.endpoint.toString} closed the connection"

/-- Writes a message. -/
def send (t : Transport σ) (m : Message) : ClientAction σ Unit :=
  fun (c, s) =>
    match t.send c.conn m.line s with
    | (.ok (), s) => (.ok (), c, s)
    | (.error reason, s) => (.error (.transport reason), c, s)

/-- Sends a request without waiting for its reply, and answers its number. -/
def sendRequest (t : Transport σ) (method : String) (params : Json) : ClientAction σ Nat := do
  let (c, _) ← get
  modify fun (c, s) => ({ c with nextId := c.nextId + 1 }, s)
  send t (.request method params (.int c.nextId))
  return c.nextId

/-- Sends a notification. -/
def notify (t : Transport σ) (method : String) (params : Json) : ClientAction σ Unit :=
  send t (.notify method params)

/-- Deals with a line. -/
def accept (t : Transport σ) (line : String) : ClientAction σ Arrival :=
  match (Json.parse? line).map Message.ofJson with
  | some (.ok (.request "echo" params id)) => do
    send t (.reply params id)
    return .handled
  | some (.ok m) => return .message m
  | _ => return .handled

/-- Looks at the connection once. -/
def look (t : Transport σ) : ClientAction σ Arrival := do
  let p ← fun (c, s) =>
    let (p, s) := t.poll c.conn s
    (.ok p, c, s)
  match p with
  | .line text => accept t text
  | .pending => return .nothing
  | .ended => return .ended
  | .failed e => throw (.transport e.message)

/-- How often the connection can be looked at before a wait is over. -/
def patience (t : Transport σ) : ClientAction σ Nat := do
  let (c, s) ← get
  return t.patience c.conn s

/-- The next message, the end of the stream, or nothing within so many looks. -/
def receiveWithin (t : Transport σ) : Nat → ClientAction σ Arrival
  | 0 => return .nothing
  | n + 1 => do
    match ← look t with
    | .handled => receiveWithin t n
    | other => return other

/-- Lets the server deal with what it has been sent. -/
def settle (t : Transport σ) : ClientAction σ Unit :=
  modify fun (c, s) => (c, t.settle s)

/-- Waits for the next message. -/
def receive (t : Transport σ) : ClientAction σ Arrival := do
  match ← receiveWithin t (← patience t) with
  | .nothing =>
    settle t
    receiveWithin t (← patience t)
  | arrival => return arrival

/-- The messages that have arrived, within so many looks. -/
def drainWithin (t : Transport σ) : Nat → ClientAction σ (List Message)
  | 0 => return []
  | n + 1 => do
    match ← look t with
    | .message m => return m :: (← drainWithin t n)
    | .handled => drainWithin t n
    | .nothing => return []
    | .ended =>
      let (c, _) ← get
      throw c.closed

/-- The messages that have arrived. If the stream has ended they are lost. -/
def drain (t : Transport σ) : ClientAction σ (List Message) := do
  drainWithin t (← patience t)

/-- Whether a message answers the request with the given number. -/
def answers (id : Nat) (m : Message) : Bool :=
  (m.replyId?.bind Json.word?).map UInt64.toNat == some id

/-- The result that a reply gives to a request. -/
def replyResult (method : String) : Message → Except Error Json
  | .error e _ => .error (.failure s!"{method} failed: {e.compress}")
  | .reply result _ => .ok result
  | _ => .ok .null

/-- The result of a request within so many looks, if its reply arrives in time. -/
def awaitReplyWithin (t : Transport σ) (method : String) (id : Nat) :
    Nat → ClientAction σ (Option Json)
  | 0 => return none
  | n + 1 => do
    match ← look t with
    | .message m =>
      if answers id m then some <$> Action.ofExcept (replyResult method m)
      else awaitReplyWithin t method id n
    | .handled => awaitReplyWithin t method id n
    | .nothing => return none
    | .ended =>
      let (c, _) ← get
      throw c.closed

/-- Waits for the result of a request. -/
def awaitReply (t : Transport σ) (method : String) (id : Nat) :
    ClientAction σ (Option Json) := do
  match ← awaitReplyWithin t method id (← patience t) with
  | some result => return some result
  | none =>
    settle t
    awaitReplyWithin t method id (← patience t)

/-- Sends a request and waits for its result, which may not arrive in time. -/
def ask (t : Transport σ) (method : String) (params : Json) : ClientAction σ (Option Json) := do
  let id ← sendRequest t method params
  awaitReply t method id

/-- What is reported when a reply does not arrive in time. -/
def late (method : String) (timeoutMs : Nat) : Error :=
  .transport s!"{method} reply timed out after {Text.durationText timeoutMs}"

/-- Sends a request and waits for its result. -/
def request (t : Transport σ) (method : String) (params : Json) (timeoutMs : Nat) :
    ClientAction σ Json := do
  match ← ask t method params with
  | some result => return result
  | none => throw (late method timeoutMs)

/-- Runs a transaction and waits for its result. -/
def transact (t : Transport σ) (params : Json) (timeoutMs : Nat) : ClientAction σ Json := do
  let result ← request t "transact" params timeoutMs
  Action.ofExcept (checkTransaction result)
  return result

/-- Sends a transaction without waiting for its result, and answers its number. -/
def sendTransaction (t : Transport σ) (params : Json) : ClientAction σ Nat :=
  sendRequest t "transact" params

end Client

end BufferTelemetry.Rpc
