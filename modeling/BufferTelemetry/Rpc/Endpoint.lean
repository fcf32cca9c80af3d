import BufferTelemetry.Error
import BufferTelemetry.Text.Numeral
import BufferTelemetry.Text.Split

/-!
# Endpoints

Where a server listens: the path of a local socket, or a host and a port. A bare
absolute path is read as the path of a local socket.
-/

namespace BufferTelemetry.Rpc

/-- Where a server listens. -/
inductive Endpoint where
  /-- A local socket. -/
  | unix (path : String)
  /-- A host and a port, with a colon between them. -/
  | tcp (address : String)
  deriving DecidableEq, Repr

namespace Endpoint

open Text

/-- Whether the text is a host, a colon and a port number. -/
def isAddress (s : List Char) : Bool :=
  match cutLast? ':' s with
  | some (host, port) => !host.isEmpty && (Numeral.read? 10 UInt16.size port).isSome
  | none => false

/-- Reads an endpoint. -/
def ofString? (s : String) : Except Error Endpoint :=
  match after? "unix:".toList s.toList with
  | some path =>
    if path.isEmpty then .error (.invalidParameter "empty unix socket path")
    else .ok (.unix (String.ofList path))
  | none =>
    match after? "tcp:".toList s.toList with
    | some address =>
      if isAddress address then .ok (.tcp (String.ofList address))
      else .error (.invalidParameter s!"bad tcp endpoint {s}")
    | none =>
      if s.toList.head? = some '/' then .ok (.unix s)
      else .error (.invalidParameter s!"bad endpoint {s}")

/-- The written form of an endpoint. -/
def toString : Endpoint → String
  | .unix path => s!"unix:{path}"
  | .tcp address => s!"tcp:{address}"

end Endpoint

end BufferTelemetry.Rpc
