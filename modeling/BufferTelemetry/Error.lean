/-!
# Errors and status codes

Every operation fails with an `Error`, whose constructors are the causes and
whose `message` is the only place where their wording is fixed. Callers that
speak the numeric status of the management interface get one by `Error.status`;
text that cannot be read as a domain value is a `ParseError`, which is an invalid
parameter to everybody else.
-/

namespace BufferTelemetry

/-- The numeric status codes of the management interface. -/
inductive Status where
  | success
  | failure
  | invalidParameter
  | unsupported
  | outOfMemory
  | timeout
  | notReady
  | tableFull
  | invalidCommand
  | invalidJson
  | resourceNotAvailable
  | invalidMemory
  | outOfRange
  | initFailed
  | invalidId
  | duplicate
  deriving DecidableEq, Repr

namespace Status

/-- Every status, in the order of the codes. -/
def all : List Status :=
  [.success, .failure, .invalidParameter, .unsupported, .outOfMemory, .timeout, .notReady,
    .tableFull, .invalidCommand, .invalidJson, .resourceNotAvailable, .invalidMemory,
    .outOfRange, .initFailed, .invalidId, .duplicate]

/-- The code of a status. -/
def code : Status → Nat
  | .success => 0
  | .failure => 1
  | .invalidParameter => 2
  | .unsupported => 3
  | .outOfMemory => 4
  | .timeout => 5
  | .notReady => 6
  | .tableFull => 7
  | .invalidCommand => 8
  | .invalidJson => 9
  | .resourceNotAvailable => 10
  | .invalidMemory => 11
  | .outOfRange => 12
  | .initFailed => 13
  | .invalidId => 14
  | .duplicate => 15

/-- The status with the given code; a number that is no code is a failure. -/
def ofCode (n : Int) : Status :=
  (all.find? fun s => (s.code : Int) = n).getD .failure

/-- Whether the status reports success. -/
def isSuccess (s : Status) : Bool := s == .success

/-- The symbol of a status. -/
def text : Status → String
  | .success => "BVIEW_STATUS_SUCCESS"
  | .failure => "BVIEW_STATUS_FAILURE"
  | .invalidParameter => "BVIEW_STATUS_INVALID_PARAMETER"
  | .unsupported => "BVIEW_STATUS_UNSUPPORTED"
  | .outOfMemory => "BVIEW_STATUS_OUTOFMEMORY"
  | .timeout => "BVIEW_STATUS_TIMEOUT"
  | .notReady => "BVIEW_STATUS_NOTREADY"
  | .tableFull => "BVIEW_STATUS_TABLE_FULL"
  | .invalidCommand => "BVIEW_STATUS_INVALID_COMMAND"
  | .invalidJson => "BVIEW_STATUS_INVALID_JSON"
  | .resourceNotAvailable => "BVIEW_STATUS_RESOURCE_NOT_AVAILABLE"
  | .invalidMemory => "BVIEW_STATUS_INVALID_MEMORY"
  | .outOfRange => "BVIEW_STATUS_OUTOFRANGE"
  | .initFailed => "BVIEW_STATUS_INIT_FAILED"
  | .invalidId => "BVIEW_STATUS_INVALID_ID"
  | .duplicate => "BVIEW_STATUS_DUPLICATE"

end Status

/-- Why an operation failed. -/
inductive Error where
  /-- An argument that the operation does not accept. -/
  | invalidParameter (reason : String)
  /-- No feature, plugin, unit or row of that name. -/
  | notFound (item : String)
  /-- A computed index that exceeds the size of its array. -/
  | outOfRange (what : String) (index size : Nat)
  /-- The feature exists but does not offer the operation. -/
  | unsupported (operation : String)
  /-- A connection to the database could not be opened, written or read. -/
  | transport (reason : String)
  /-- A table of fixed size has no free place. -/
  | tableFull (table : String)
  /-- Any other failure. -/
  | failure (reason : String)
  deriving DecidableEq, Repr

namespace Error

/-- The wording of an error. -/
def message : Error → String
  | .invalidParameter reason => s!"Invalid parameter: {reason}"
  | .notFound item => s!"Not found: {item}"
  | .outOfRange what index size => s!"Index {index} out of range for {what} (size {size})"
  | .unsupported operation => s!"Unsupported operation: {operation}"
  | .transport reason => s!"Transport failure: {reason}"
  | .tableFull table => s!"Table full: {table}"
  | .failure reason => s!"Failure: {reason}"

/-- The numeric status of an error. -/
def status : Error → Status
  | .invalidParameter _ => .invalidParameter
  | .notFound _ => .failure
  | .outOfRange .. => .outOfRange
  | .unsupported _ => .unsupported
  | .transport _ => .resourceNotAvailable
  | .tableFull _ => .tableFull
  | .failure _ => .failure

/-- Whether the same call may succeed when it is made again. -/
def isRetryable : Error → Bool
  | .transport _ => true
  | _ => false

end Error

/-- Text that does not denote a value of the domain type it was read as. -/
inductive ParseError where
  | asicType (text : String)
  | feature (text : String)
  | realm (text : String)
  | trackingMode (text : String)
  | macAddress (text : String)
  deriving DecidableEq, Repr

namespace ParseError

/-- The wording of a parse error. -/
def message : ParseError → String
  | .asicType text => s!"invalid ASIC type: {text}"
  | .feature text => s!"invalid feature: {text}"
  | .realm text => s!"invalid realm: {text}"
  | .trackingMode text => s!"invalid tracking mode: {text}"
  | .macAddress text => s!"invalid MAC address format: {text}"

/-- To an operation, text that cannot be read is an invalid parameter. -/
def toError (e : ParseError) : Error := .invalidParameter e.message

end ParseError

end BufferTelemetry
