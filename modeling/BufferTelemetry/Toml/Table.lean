import BufferTelemetry.Json.Basic

/-!
# TOML tables

The tree that a document builds up. A table remembers how it came about, because
that decides who may still add to it: a table that a header has named cannot be
named again, one that a dotted key has made is open to dotted keys only, and one
that merely lies on the way to another may still be named. A dotted key may lead
through a table on the way to another, or through a sequence of tables, but the
table to which it adds its value is one that a dotted key has made.
-/

namespace BufferTelemetry.Toml

/-- How a table came about. -/
inductive Origin where
  /-- A header named a table below it. -/
  | passed
  /-- A header named it. -/
  | named
  /-- A dotted key passed through it. -/
  | dotted
  deriving DecidableEq

/-- A node of the tree. -/
inductive Node where
  /-- A value that is complete. -/
  | leaf (value : Json)
  /-- A table. -/
  | table (origin : Origin) (entries : List (String × Node))
  /-- A sequence of tables, the last one first. -/
  | tables (earlier : List (List (String × Node))) (entries : List (String × Node))

/-- The entries of a table. -/
abbrev Entries := List (String × Node)

namespace Entries

/-- Sets the entry of a key. -/
def put (key : String) (node : Node) : Entries → Entries
  | [] => [(key, node)]
  | (k, n) :: rest => if k = key then (k, node) :: rest else (k, n) :: put key node rest

/-- Adds a value under a dotted key, in a table that is being filled. -/
def insert? : List String → Json → Entries → Option Entries
  | [], _, _ => none
  | [key], value, entries =>
    match entries.lookup key with
    | none => some (put key (.leaf value) entries)
    | some _ => none
  | key :: next :: keys, value, entries =>
    match entries.lookup key with
    | none => do return put key (.table .dotted (← insert? (next :: keys) value [])) entries
    | some (.table .dotted inner) => do
      return put key (.table .dotted (← insert? (next :: keys) value inner)) entries
    | some (.table .passed inner) => do
      guard (keys ≠ [])
      return put key (.table .passed (← insert? (next :: keys) value inner)) entries
    | some (.tables earlier inner) => do
      guard (keys ≠ [])
      return put key (.tables earlier (← insert? (next :: keys) value inner)) entries
    | some _ => none

/-- Changes the table that a header names, through the tables on the way to it. -/
def within? (change : Entries → Option Entries) : List String → Entries → Option Entries
  | [], entries => change entries
  | key :: keys, entries =>
    match entries.lookup key with
    | none => do return put key (.table .passed (← within? change keys [])) entries
    | some (.table origin inner) => do
      return put key (.table origin (← within? change keys inner)) entries
    | some (.tables earlier inner) => do
      return put key (.tables earlier (← within? change keys inner)) entries
    | some (.leaf _) => none

/-- Opens the table with the given key for a header. -/
def open? (key : String) (entries : Entries) : Option Entries :=
  match entries.lookup key with
  | none => some (put key (.table .named []) entries)
  | some (.table .passed inner) => some (put key (.table .named inner) entries)
  | some _ => none

/-- Opens a further table of the sequence with the given key for a header. -/
def append? (key : String) (entries : Entries) : Option Entries :=
  match entries.lookup key with
  | none => some (put key (.tables [] []) entries)
  | some (.tables earlier inner) => some (put key (.tables (inner :: earlier) []) entries)
  | some _ => none

end Entries

mutual

/-- The value of a node. -/
def Node.toJson : Node → Json
  | .leaf value => value
  | .table _ entries => .obj (membersOf entries)
  | .tables earlier entries => .arr (tablesOf earlier [.obj (membersOf entries)])

/-- The members of a table. -/
def membersOf : List (String × Node) → List (String × Json)
  | [] => []
  | (key, node) :: rest => (key, node.toJson) :: membersOf rest

/-- The values of tables, the last one first, before other values. -/
def tablesOf : List (List (String × Node)) → List Json → List Json
  | [], after => after
  | entries :: rest, after => tablesOf rest (.obj (membersOf entries) :: after)

end

end BufferTelemetry.Toml
