import BufferTelemetry.Asic
import BufferTelemetry.Json.Form
import BufferTelemetry.Rpc.Endpoint
import BufferTelemetry.Toml.Document

/-!
# Configuration of the agent

How the database is reached and what is known about the switch beforehand. The
configuration is a document in which every member may be missing; it is loaded
from a file, and where there is no file all members have their defaults. A
configuration that has been validated names an endpoint, an ASIC type and, if
any, a port count that is supported.
-/

namespace BufferTelemetry

open Json

/-- How the database is reached. -/
structure DatabaseConfig where
  endpoint : String
  /-- The name of the database. -/
  database : String
  /-- The bound on discovery, and on the wait for the first settings. -/
  initTimeoutSecs : UInt64
  /-- The bound on the wait for a reply. -/
  replyTimeoutSecs : UInt64
  /-- The pause between two attempts of discovery. -/
  discoveryRetryMs : UInt64
  /-- The greatest length of a line from the database. -/
  maxMessageBytes : UInt64
  deriving DecidableEq, Repr

/-- What is known about the switch. -/
structure SwitchConfig where
  /-- The interface whose addresses identify the agent. -/
  managementInterface : String
  /-- The silicon family of unit zero. -/
  asicType : String
  /-- The number of ports, if it is not to be discovered. -/
  numPorts : Option UInt64
  deriving DecidableEq, Repr

/-- The configuration of the agent. -/
structure AgentConfig where
  ovsdb : DatabaseConfig
  system : SwitchConfig
  deriving DecidableEq, Repr

/-- The greatest length of a line when none is configured. -/
def defaultMaxLine : Nat := 16 * 1024 * 1024

/-- The defaults of the members. -/
def DatabaseConfig.initial : DatabaseConfig where
  endpoint := "unix:/var/run/openvswitch/db.sock"
  database := "OpenSwitch"
  initTimeoutSecs := 40
  replyTimeoutSecs := 10
  discoveryRetryMs := 1000
  maxMessageBytes := UInt64.ofNat defaultMaxLine

/-- The members in their order. -/
def DatabaseConfig.memberNames : List String :=
  ["endpoint", "database", "init_timeout_secs", "reply_timeout_secs", "discovery_retry_ms",
    "max_message_bytes"]

/-- Reads the members that are present. -/
def DatabaseConfig.read? (surplus : Surplus) (v : Json) : Option DatabaseConfig := do
  let members ← record? memberNames v surplus
  return {
    endpoint := ← fieldOr? initial.endpoint members "endpoint"
    database := ← fieldOr? initial.database members "database"
    initTimeoutSecs := ← fieldOr? initial.initTimeoutSecs members "init_timeout_secs"
    replyTimeoutSecs := ← fieldOr? initial.replyTimeoutSecs members "reply_timeout_secs"
    discoveryRetryMs := ← fieldOr? initial.discoveryRetryMs members "discovery_retry_ms"
    maxMessageBytes := ← fieldOr? initial.maxMessageBytes members "max_message_bytes" }

/-- The defaults of the members. -/
def SwitchConfig.initial : SwitchConfig where
  managementInterface := "eth0"
  asicType := "td2"
  numPorts := none

/-- The members in their order. -/
def SwitchConfig.memberNames : List String :=
  ["management_interface", "asic_type", "num_ports"]

/-- Reads the members that are present. -/
def SwitchConfig.read? (surplus : Surplus) (v : Json) : Option SwitchConfig := do
  let members ← record? memberNames v surplus
  return {
    managementInterface := ← fieldOr? initial.managementInterface members "management_interface"
    asicType := ← fieldOr? initial.asicType members "asic_type"
    numPorts := ← fieldOr? initial.numPorts members "num_ports" }

/-- The defaults of the members. -/
def AgentConfig.initial : AgentConfig where
  ovsdb := .initial
  system := .initial

/-- The members in their order. -/
def AgentConfig.memberNames : List String := ["ovsdb", "system"]

/-- Reads the members that are present. -/
def AgentConfig.read? (surplus : Surplus) (v : Json) : Option AgentConfig := do
  let members ← record? memberNames v surplus
  let ovsdb ← match members.lookup "ovsdb" with
    | none => some DatabaseConfig.initial
    | some v => DatabaseConfig.read? surplus v
  let system ← match members.lookup "system" with
    | none => some SwitchConfig.initial
    | some v => SwitchConfig.read? surplus v
  return { ovsdb, system }

instance : JsonForm DatabaseConfig where
  toJson v := .obj [
    ("endpoint", toJson v.endpoint),
    ("database", toJson v.database),
    ("init_timeout_secs", toJson v.initTimeoutSecs),
    ("reply_timeout_secs", toJson v.replyTimeoutSecs),
    ("discovery_retry_ms", toJson v.discoveryRetryMs),
    ("max_message_bytes", toJson v.maxMessageBytes)]
  ofJson? := DatabaseConfig.read? .refused

instance : JsonForm SwitchConfig where
  toJson v := .obj [
    ("management_interface", toJson v.managementInterface),
    ("asic_type", toJson v.asicType),
    ("num_ports", toJson v.numPorts)]
  ofJson? := SwitchConfig.read? .refused

instance : JsonForm AgentConfig where
  toJson v := .obj [("ovsdb", toJson v.ovsdb), ("system", toJson v.system)]
  ofJson? := AgentConfig.read? .refused

/-- What reading a file brought. -/
inductive FileContents where
  /-- There is no such file. -/
  | missing
  /-- The file cannot be read, for a reason. -/
  | unreadable (reason : String)
  /-- The bytes of the file. -/
  | bytes (contents : List UInt8)
  deriving DecidableEq, Repr

namespace AgentConfig

/-- Reads a configuration from the text of a file. An array in it may have more items
than there are members. -/
def ofText (path text : String) : Except Error AgentConfig :=
  match (Toml.parse? text).bind (read? .ignored) with
  | some config => .ok config
  | none => .error (.invalidParameter s!"Failed to parse config file {path}")

/-- What is reported about a file that cannot be read. -/
def unreadable (path reason : String) : Error :=
  .failure s!"Failed to read config file {path}: {reason}"

/-- Reads a configuration from a file, if there is one. -/
def load (path : String) : FileContents → Except Error AgentConfig
  | .missing => .ok initial
  | .unreadable reason => .error (unreadable path reason)
  | .bytes contents =>
    match String.fromUTF8? ⟨contents.toArray⟩ with
    | some text => ofText path text
    | none => .error (unreadable path "stream did not contain valid UTF-8")

/-- The endpoint of the database. -/
def endpoint (c : AgentConfig) : Except Error Rpc.Endpoint :=
  Rpc.Endpoint.ofString? c.ovsdb.endpoint

/-- The ASIC type of unit zero. -/
def asicType (c : AgentConfig) : Except Error AsicType :=
  (AsicType.ofString? c.system.asicType).mapError ParseError.toError

/-- The bound on discovery in milliseconds. -/
def initTimeoutMs (c : AgentConfig) : Nat := c.ovsdb.initTimeoutSecs.toNat * 1000

/-- The bound on the wait for a reply in milliseconds. -/
def replyTimeoutMs (c : AgentConfig) : Nat := c.ovsdb.replyTimeoutSecs.toNat * 1000

/-- Fails unless the agent can run with the configuration. -/
def validate (c : AgentConfig) : Except Error Unit := do
  if c.ovsdb.initTimeoutSecs = 0 ∨ c.ovsdb.replyTimeoutSecs = 0 then
    throw (.invalidParameter "timeouts must be > 0")
  if c.ovsdb.maxMessageBytes = 0 then
    throw (.invalidParameter "max_message_bytes must be > 0")
  if c.ovsdb.database = "" then
    throw (.invalidParameter "database must not be empty")
  match c.system.numPorts with
  | some ports =>
    if ports = 0 ∨ maxPorts < ports.toNat then
      throw (.invalidParameter s!"num_ports must be 1-{maxPorts}")
  | none => pure ()
  let _ ← c.endpoint
  let _ ← c.asicType

end AgentConfig

end BufferTelemetry
