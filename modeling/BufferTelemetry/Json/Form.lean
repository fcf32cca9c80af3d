import BufferTelemetry.Json.Basic

/-!
# Serialized forms

`JsonForm α` says how a value of `α` is written as JSON and read back. Three
conventions cover all domain types. A *record* is an object with its members in
declaration order; it is read from an object with the members in any order and
any others beside them, or from an array of the members in order. A *label* is a
bare text, or an object that maps the text to `null`. A *case* is an object with
a single member, whose key is the label of the case.
-/

namespace BufferTelemetry

/-- A written form of the values of a type, and its reader. -/
class JsonForm (α : Type) where
  /-- The form of a value. -/
  toJson : α → Json
  /-- The value of a form. -/
  ofJson? : Json → Option α

export JsonForm (toJson ofJson?)

namespace Json

/-- How a record treats an array with more items than it has members. -/
inductive Surplus where
  /-- The array is no form of the record. -/
  | refused
  /-- The further items are ignored. -/
  | ignored
  deriving DecidableEq

/-- The members of a record that are present, under their names. A known name that is
repeated makes the form invalid. -/
def record? (names : List String) (v : Json) (surplus : Surplus := .refused) :
    Option (List (String × Json)) :=
  match v with
  | .obj members =>
    let known := members.filter fun m => names.contains m.1
    if (known.map (·.1)).Nodup then some known else none
  | .arr items =>
    if items.length ≤ names.length ∨ surplus = .ignored then some (names.zip items) else none
  | _ => none

/-- The value of a member that has to be present. -/
def field? {α : Type} [JsonForm α] (members : List (String × Json)) (name : String) : Option α :=
  (members.lookup name).bind ofJson?

/-- The value of a member that has a default. -/
def fieldOr? {α : Type} [JsonForm α] (default : α) (members : List (String × Json))
    (name : String) : Option α :=
  match members.lookup name with
  | none => some default
  | some v => ofJson? v

/-- The text of a label. -/
def label? : Json → Option String
  | .str text => some text
  | .obj [(text, .null)] => some text
  | _ => none

/-- The label and the contents of a case. -/
def case? : Json → Option (String × Json)
  | .obj [(text, contents)] => some (text, contents)
  | _ => none

/-- The form of a case. -/
def ofCase (text : String) (contents : Json) : Json := .obj [(text, contents)]

end Json

instance : JsonForm Bool where
  toJson := .bool
  ofJson? := Json.flag?

instance : JsonForm String where
  toJson := .str
  ofJson? := Json.text?

instance : JsonForm UInt64 where
  toJson := Json.ofWord
  ofJson? := Json.word?

instance : JsonForm UInt32 where
  toJson n := .int n.toNat
  ofJson?
    | .int (.ofNat n) => if n < UInt32.size then some (UInt32.ofNat n) else none
    | _ => none

instance : JsonForm Int32 where
  toJson n := .int n.toInt
  ofJson?
    | .int v =>
      if Int32.minValue.toInt ≤ v ∧ v ≤ Int32.maxValue.toInt then some (Int32.ofInt v) else none
    | _ => none

instance {α : Type} [JsonForm α] : JsonForm (Option α) where
  toJson
    | none => .null
    | some v => toJson v
  ofJson?
    | .null => some none
    | v => (ofJson? v).map some

instance {α : Type} [JsonForm α] : JsonForm (List α) where
  toJson vs := .arr (vs.map toJson)
  ofJson?
    | .arr items => items.mapM ofJson?
    | _ => none

end BufferTelemetry
