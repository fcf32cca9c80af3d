/-!
# JSON values

A value keeps the order in which the members of an object were delivered, and
tells whole numbers from all others: a number is whole only when it is written
without fraction and exponent, is not a negative zero, and fits sixty-four bits
with or without sign. Any other number keeps the text it was written in, and so
does what stands for nothing that a member can hold.
-/

namespace BufferTelemetry

/-- A JSON value. -/
inductive Json where
  /-- The literal `null`. -/
  | null
  /-- One of the two truth values. -/
  | bool (value : Bool)
  /-- A whole number. -/
  | int (value : Int)
  /-- A number that is not whole, or what no member can hold, as it was written. -/
  | raw (text : String)
  /-- A text. -/
  | str (text : String)
  /-- A sequence of values. -/
  | arr (items : List Json)
  /-- The members of an object in the order of their delivery. -/
  | obj (members : List (String × Json))
  deriving Inhabited, BEq

namespace Json

/-- The value of the first member with the given key, for an object that has one. -/
def get? (key : String) : Json → Option Json
  | .obj members => members.lookup key
  | _ => none

/-- The item at a position, counted from zero, of an array that is long enough. -/
def item? (i : Nat) : Json → Option Json
  | .arr items => items[i]?
  | _ => none

/-- The items of an array. -/
def items? : Json → Option (List Json)
  | .arr items => some items
  | _ => none

/-- The members of an object. -/
def members? : Json → Option (List (String × Json))
  | .obj members => some members
  | _ => none

/-- The characters of a text. -/
def text? : Json → Option String
  | .str text => some text
  | _ => none

/-- A truth value. -/
def flag? : Json → Option Bool
  | .bool value => some value
  | _ => none

/-- A whole number from zero up that fits sixty-four bits. -/
def word? : Json → Option UInt64
  | .int (.ofNat n) => if n < UInt64.size then some (UInt64.ofNat n) else none
  | _ => none

/-- A whole number that fits sixty-four bits with a sign. -/
def signed? : Json → Option Int
  | .int value =>
    if Int64.minValue.toInt ≤ value ∧ value ≤ Int64.maxValue.toInt then some value else none
  | _ => none

/-- Whether the value is `null`. -/
def isNull : Json → Bool
  | .null => true
  | _ => false

/-- The number with the given sixty-four bits. -/
def ofWord (n : UInt64) : Json := .int n.toNat

/-- Sets a member: a key that is present keeps its place and takes the new
value, any other key goes to the end. -/
def putMember (key : String) (value : Json) : List (String × Json) → List (String × Json)
  | [] => [(key, value)]
  | (k, v) :: rest => if k = key then (k, value) :: rest else (k, v) :: putMember key value rest

/-- The members with each key once, at its first place and with its last value. -/
def mergeMembers (members : List (String × Json)) : List (String × Json) :=
  members.foldl (fun merged (key, value) => putMember key value merged) []

end Json

end BufferTelemetry
