import BufferTelemetry.Error
import BufferTelemetry.Json.Writer

/-!
# Messages

A message is an object. One with a method is a request if it has an identifier
and a notification if it has none; one without is an error reply if it has an
error, and otherwise a reply if it has a result.
-/

namespace BufferTelemetry.Rpc

/-- A message. -/
inductive Message where
  | request (method : String) (params id : Json)
  | notify (method : String) (params : Json)
  | reply (result id : Json)
  | error (error id : Json)
  deriving Inhabited, BEq

namespace Message

/-- The message that an object stands for. -/
def ofJson (v : Json) : Except Error Message :=
  match v with
  | .obj members =>
    let id := (members.lookup "id").getD .null
    match members.lookup "method" with
    | some (.str method) =>
      let params := (members.lookup "params").getD .null
      .ok (if id.isNull then .notify method params else .request method params id)
    | some _ => .error (.invalidParameter "JSON-RPC method is not a string")
    | none =>
      match (members.lookup "error").filter (!·.isNull), members.lookup "result" with
      | some e, _ => .ok (.error e id)
      | none, some result => .ok (.reply result id)
      | none, none =>
        .error (.invalidParameter "JSON-RPC message has neither method nor result")
  | _ => .error (.invalidParameter "JSON-RPC message is not an object")

/-- The object that stands for a message. -/
def toJson : Message → Json
  | .request method params id =>
    .obj [("method", .str method), ("params", params), ("id", id)]
  | .notify method params =>
    .obj [("method", .str method), ("params", params), ("id", .null)]
  | .reply result id => .obj [("result", result), ("error", .null), ("id", id)]
  | .error e id => .obj [("result", .null), ("error", e), ("id", id)]

/-- The identifier of the request that a reply or error reply answers. -/
def replyId? : Message → Option Json
  | .reply _ id => some id
  | .error _ id => some id
  | _ => none

/-- The line that carries a message. -/
def line (m : Message) : String := m.toJson.compress

end Message

/-- Fails if an operation of a transaction reports an error. -/
def checkTransaction (result : Json) : Except Error Unit :=
  match (result.items?.getD []).find? fun op => (op.get? "error").isSome with
  | some op =>
    let error := ((op.get? "error").getD .null).compress
    let details := ((op.get? "details").bind Json.text?).getD ""
    .error (.failure s!"transaction error {error} {details}")
  | none => .ok ()

end BufferTelemetry.Rpc
