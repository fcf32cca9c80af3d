import BufferTelemetry.Counter.Kind
import BufferTelemetry.Error

/-!
# Addresses of counters

A `Counter` names one counter of an ASIC by its kind, port and index. Its
`offset` is its place among the counters of its kind, in row-major order, and
its `position` the place among all counters of the ASIC. Both carry the proof
that they lie in their range; an address outside it is an error.
-/

namespace BufferTelemetry

/-- The address of a counter. Kinds without a port ignore the port, and the kind
without an index ignores the index too. -/
structure Counter where
  kind : CounterKind
  /-- Counted from one, for the kinds that have a port. -/
  port : UInt32
  /-- Counted from zero, for the kinds that have an index. -/
  index : UInt32
  deriving DecidableEq, Repr

namespace Counter

/-- An offset, if it lies among the counters of the kind. -/
def inKind (k : CounterKind) (n : Nat) : Except Error (Fin k.size) :=
  if h : n < k.size then .ok ⟨n, h⟩ else .error (.outOfRange k.name n k.size)

/-- The place of a counter among those of its kind. -/
def offset (c : Counter) : Except Error (Fin c.kind.size) :=
  match c.kind.indexing with
  | .single => inKind c.kind 0
  | .row _ => inKind c.kind c.index.toNat
  | .grid _ columns =>
    if c.port = 0 ∨ columns ≤ c.index.toNat then
      .error (.outOfRange s!"{c.kind.name} port {c.port} index {c.index}" c.index.toNat columns)
    else
      inKind c.kind ((c.port.toNat - 1) * columns + c.index.toNat)

/-- The place of a counter among all of its ASIC. -/
def position (c : Counter) : Except Error (Fin CounterKind.total) :=
  c.offset.map fun ⟨i, h⟩ =>
    ⟨c.kind.start + i, Nat.lt_of_lt_of_le (Nat.add_lt_add_left h _) c.kind.start_add_size_le_total⟩

/-- The counter with the coordinates that its kind ignores set to zero. -/
def canonical (c : Counter) : Counter :=
  match c.kind.indexing with
  | .single => { c with port := 0, index := 0 }
  | .row _ => { c with port := 0 }
  | .grid .. => c

end Counter

end BufferTelemetry
