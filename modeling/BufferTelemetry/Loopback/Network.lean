import BufferTelemetry.Json.Reader
import BufferTelemetry.Json.Writer
import BufferTelemetry.Loopback.Directory
import BufferTelemetry.Rpc.Transport

/-!
# A network inside the program

A server that answers from a script, and the connections to it, as a value: what
the server writes lies in a connection until the client takes it, and what is
written to the server lies on its way until somebody waits. The server numbers
its connections in the order in which they are opened and runs one list of
actions for every request that it receives on any of them. Lines that are on
their way when it closes their connection are lost.
-/

namespace BufferTelemetry.Loopback

open Rpc

/-- Something that the server does on a connection. -/
inductive ServerAction where
  /-- Replies to the request. -/
  | reply (result : Json)
  /-- Replies to the request with an error. -/
  | error (error : Json)
  /-- Writes a value as a line. -/
  | send (value : Json)
  /-- Writes a text as a line. -/
  | line (text : String)
  /-- Writes a text without the end of its line. -/
  | fragment (text : String)
  /-- Closes the connection. -/
  | close

/-- A connection, as the client's end of it has read it so far. -/
structure Connection where
  reader : LineReader
  inflow : Inflow

/-- The server and its connections. -/
structure Network where
  /-- The name of the socket on which the server listens, if it runs. -/
  socket : Option String
  /-- The actions for the requests to come. -/
  script : List (List ServerAction)
  connections : Array Connection
  /-- The lines that are on their way to the server, with their connections. -/
  underway : Array (ConnId × String)
  /-- The lines that the server has received, with their connections. -/
  received : Array (ConnId × String)

namespace Connection

/-- A connection on which nothing has been written. -/
def initial (limit : Nat) : Connection where
  reader := .initial limit
  inflow := { bytes := [], closed := false }

/-- Writes a text, unless the connection is closed. -/
def write (c : Connection) (text : String) : Connection :=
  if c.inflow.closed then c
  else { c with inflow.bytes := c.inflow.bytes ++ text.toUTF8.toList }

/-- The line with which the server replies to a request. -/
def replyLine (result error id : Json) : String :=
  (Json.obj [("result", result), ("error", error), ("id", id)]).compress ++ "\n"

/-- Lets the server act on a request with the given identifier. -/
def act (id : Json) (c : Connection) : ServerAction → Connection
  | .reply result => c.write (replyLine result .null id)
  | .error error => c.write (replyLine .null error id)
  | .send value => c.write (value.compress ++ "\n")
  | .line text => c.write (text ++ "\n")
  | .fragment text => c.write text
  | .close => { c with inflow.closed := true }

end Connection

namespace Network

/-- What the server does for a request when the script is at its end. -/
def defaultActions : List ServerAction := [.reply (.arr [.obj [("count", .int 1)]])]

/-- Lets the server act on a connection. -/
def act (n : Network) (conn : ConnId) (id : Json) (actions : List ServerAction) : Network :=
  { n with connections := n.connections.modify conn fun c => actions.foldl (·.act id) c }

/-- The actions for the next request, and the script behind them. -/
def nextActions (n : Network) : List ServerAction × List (List ServerAction) :=
  match n.script with
  | [] => (defaultActions, [])
  | actions :: rest => (actions, rest)

/-- The identifier of a request, if the line is one. -/
def requestId? (line : String) : Option Json := do
  let v ← Json.parse? line
  let _ ← v.get? "method"
  let id ← v.get? "id"
  if id.isNull then none else some id

/-- Whether the connection is open at the server's end. -/
def isOpen (n : Network) (conn : ConnId) : Bool :=
  n.connections[conn]?.any fun c => !c.inflow.closed

/-- Hands a line to the server, unless it has closed the connection. -/
def receive (n : Network) (conn : ConnId) (line : String) : Network :=
  if !n.isOpen conn then n
  else
    let n := { n with received := n.received.push (conn, line) }
    match requestId? line with
    | some id =>
      let (actions, script) := n.nextActions
      { n with script }.act conn id actions
    | none => n

/-- Lets the server receive what is on its way. -/
def settle (n : Network) : Network :=
  n.underway.foldl (fun n (conn, line) => n.receive conn line) { n with underway := #[] }

/-- The greatest number of bytes in the path of a socket. -/
def maxSocketPath : Nat := 107

/-- Whether the server listens on the endpoint. -/
def listensOn (n : Network) : Endpoint → Bool
  | .unix path =>
    path.utf8ByteSize ≤ maxSocketPath && n.socket.any fun name =>
      ({ file := some (name, []) } : Directory).reaches path
  | .tcp _ => false

/-- What the system reports when nothing listens on an endpoint. -/
def refusal : Endpoint → String
  | .unix _ => PathError.missing.message
  | .tcp _ => "Connection refused (os error 111)"

/-- What the system reports when a connection that the server has closed is written to. -/
def brokenPipe : String := "Broken pipe (os error 32)"

/-- Opens a connection, which is a wait for the server. -/
def connect (endpoint : Endpoint) (limit : Nat) (n : Network) : Except String ConnId × Network :=
  if n.listensOn endpoint then
    let n := n.settle
    (.ok n.connections.size, { n with connections := n.connections.push (.initial limit) })
  else
    (.error (refusal endpoint), n)

/-- Writes a line to a connection. -/
def send (conn : ConnId) (line : String) (n : Network) : Except String Unit × Network :=
  if n.isOpen conn then (.ok (), { n with underway := n.underway.push (conn, line) })
  else (.error brokenPipe, n)

/-- Asks a connection for the next line. -/
def poll (conn : ConnId) (n : Network) : Poll × Network :=
  match n.connections[conn]? with
  | some c =>
    let (p, reader, inflow) := c.reader.poll c.inflow
    (p, { n with connections := n.connections.setIfInBounds conn { reader, inflow } })
  | none => (.ended, n)

/-- A connection brings at most one line for each byte and a few looks without one. -/
def patience (conn : ConnId) (n : Network) : Nat :=
  match n.connections[conn]? with
  | some c => c.inflow.bytes.length + c.reader.buffer.length + 8
  | none => 8

/-- The network as a transport. -/
def transport : Transport Network where
  connect := connect
  send := send
  poll := poll
  settle := settle
  patience := patience

end Network

end BufferTelemetry.Loopback
