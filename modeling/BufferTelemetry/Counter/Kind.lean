import BufferTelemetry.Realm

/-!
# Kinds of counters

One kind stands for each class of buffer resource that is counted. Its name in
the database is the name of its realm and the name of the counter in that realm;
its indexing says how many counters of the kind one ASIC has and how they are
addressed.
-/

namespace BufferTelemetry

/-- A class of buffer resource that is counted. -/
inductive CounterKind where
  | device
  | egressPool
  | egressMcastPool
  | ingressPool
  | portPool
  | priGroupShared
  | priGroupHeadroom
  | ucast
  | mcast
  | egressUcastPortShared
  | egressPortShared
  | rqeQueue
  | rqePool
  | ucastGroup
  | cpuQueue
  deriving DecidableEq, Repr

/-- How the counters of a kind are addressed. -/
inductive Indexing where
  /-- There is one counter, and no index. -/
  | single
  /-- One index, counted from zero. -/
  | row (columns : Nat)
  /-- A port, counted from one, and an index within the port, counted from zero. -/
  | grid (rows columns : Nat)
  deriving DecidableEq, Repr

namespace Indexing

/-- The number of ports that have counters of their own. -/
def rows : Indexing → Nat
  | .single => 1
  | .row _ => 1
  | .grid rows _ => rows

/-- The number of counters of one port. -/
def columns : Indexing → Nat
  | .single => 1
  | .row columns => columns
  | .grid _ columns => columns

/-- The number of counters. -/
def size (x : Indexing) : Nat := x.rows * x.columns

/-- Whether an index is needed. -/
def isIndexed : Indexing → Bool
  | .single => false
  | _ => true

/-- Whether a port is needed beside the index. -/
def isDouble : Indexing → Bool
  | .grid .. => true
  | _ => false

end Indexing

namespace CounterKind

/-- Every kind, in the order of the ids. -/
def all : List CounterKind :=
  [.device, .egressPool, .egressMcastPool, .ingressPool, .portPool, .priGroupShared,
    .priGroupHeadroom, .ucast, .mcast, .egressUcastPortShared, .egressPortShared, .rqeQueue,
    .rqePool, .ucastGroup, .cpuQueue]

/-- The id of a kind, which is its place among all kinds. -/
def id (k : CounterKind) : Nat := all.idxOf k

/-- The realm of a kind. -/
def realm : CounterKind → Realm
  | .device => .device
  | .egressPool => .egressServicePool
  | .egressMcastPool => .egressServicePool
  | .ingressPool => .ingressServicePool
  | .portPool => .ingressPortServicePool
  | .priGroupShared => .ingressPortPriorityGroup
  | .priGroupHeadroom => .ingressPortPriorityGroup
  | .ucast => .egressUcQueue
  | .mcast => .egressMcQueue
  | .egressUcastPortShared => .egressPortServicePool
  | .egressPortShared => .egressPortServicePool
  | .rqeQueue => .egressRqeQueue
  | .rqePool => .egressRqeQueue
  | .ucastGroup => .egressUcQueueGroup
  | .cpuQueue => .egressCpuQueue

/-- The name of the counter within its realm. -/
def counter : CounterKind → String
  | .device => "data"
  | .egressPool => "um-share-buffer-count"
  | .egressMcastPool => "mc-share-buffer-count"
  | .ingressPool => "um-share-buffer-count"
  | .portPool => "um-share-buffer-count"
  | .priGroupShared => "um-share-buffer-count"
  | .priGroupHeadroom => "um-headroom-buffer-count"
  | .ucast => "uc-buffer-count"
  | .mcast => "mc-buffer-count"
  | .egressUcastPortShared => "uc-share-buffer-count"
  | .egressPortShared => "um-share-buffer-count"
  | .rqeQueue => "rqe-buffer-count"
  | .rqePool => "rqe-queue-count"
  | .ucastGroup => "uc-buffer-count"
  | .cpuQueue => "cpu-buffer-count"

/-- How the counters of a kind are addressed. -/
def indexing : CounterKind → Indexing
  | .device => .single
  | .egressPool => .row 4
  | .egressMcastPool => .row 4
  | .ingressPool => .row 5
  | .portPool => .grid 130 5
  | .priGroupShared => .grid 130 8
  | .priGroupHeadroom => .grid 130 8
  | .ucast => .row 4096
  | .mcast => .row 1040
  | .egressUcastPortShared => .grid 130 4
  | .egressPortShared => .grid 130 4
  | .rqeQueue => .row 11
  | .rqePool => .row 11
  | .ucastGroup => .row 128
  | .cpuQueue => .row 8

/-- The size of a buffer cell in bytes. -/
def cellToByte : Nat := 208

/-- The number of buffer cells at which the threshold of a kind is set by default. -/
def factoryCells : CounterKind → Nat
  | .priGroupHeadroom => 0xFFF
  | .ucast => 0x3FFF
  | .egressUcastPortShared => 0x3FFF
  | .ucastGroup => 0x3FFF
  | _ => 0x1FFFF

/-- The factory threshold of a kind in bytes, which is also the greatest it can be set to. -/
def factoryThreshold (k : CounterKind) : UInt64 :=
  UInt64.ofNat (k.factoryCells * cellToByte)

/-- The name of a kind: its realm and its counter. -/
def name (k : CounterKind) : String := s!"{k.realm.name}/{k.counter}"

/-- The kind with the given realm and counter names. -/
def lookup? (realm counter : String) : Option CounterKind :=
  all.find? fun k => k.realm.name = realm ∧ k.counter = counter

/-- The number of counters of a kind. -/
def size (k : CounterKind) : Nat := k.indexing.size

/-- The number of counters of some kinds together. -/
def sizeOfAll : List CounterKind → Nat
  | [] => 0
  | k :: ks => k.size + sizeOfAll ks

/-- The position of a kind's first counter when the kinds follow each other in order. -/
def start (k : CounterKind) : Nat := sizeOfAll (all.takeWhile (· ≠ k))

/-- The number of counters of one ASIC. -/
def total : Nat := sizeOfAll all

/-- The counters of a kind end within the counters of the ASIC. -/
theorem start_add_size_le_total (k : CounterKind) : k.start + k.size ≤ total := by
  cases k <;> decide

end CounterKind

end BufferTelemetry
