import BufferTelemetry.Counter.Layout
import BufferTelemetry.Snapshot

/-!
# Surveys

A survey visits the counters of a realm in the shape of the realm's data and asks
a reader for the value of each: ports from one, indices from zero, row by row,
and the two counters of a paired cell in the order of its fields. The reader
works in any monad, so the same survey serves statistics, thresholds and factory
maxima, and it stops where the reader fails. A survey counts in thirty-two bits,
as the addresses of the counters do.
-/

namespace BufferTelemetry.Survey

variable {m : Type → Type} [Monad m]

/-- A count as a survey takes it. -/
def count (n : UInt64) : Nat := n.toUInt32.toNat

/-- Visits so many numbers in turn, from the given one on. -/
def visit {α : Type} (cell : UInt32 → m α) : Nat → Nat → m (List α)
  | _, 0 => pure []
  | first, n + 1 => do
    let value ← cell (UInt32.ofNat first)
    let values ← visit cell (first + 1) n
    return value :: values

/-- Visits the cells of a row. -/
def row {α : Type} (columns : UInt64) (cell : UInt32 → m α) : m (List α) :=
  visit cell 0 (count columns)

/-- Visits the cells of every port. -/
def grid {α : Type} (caps : Capabilities) (columns : UInt64) (cell : UInt32 → UInt32 → m α) :
    m (List (List α)) :=
  visit (fun port => row columns (cell port)) 1 (count caps.numPorts)

/-- Visits the queues of a kind. -/
def queues (read : Counter → m UInt64) (kind : CounterKind) (n : UInt64) : m (List QueueCell) :=
  row n fun q => do
    let bufferCount ← read ⟨kind, 0, q⟩
    return ⟨0, bufferCount⟩

/-- Visits the counters of one realm. -/
def realm (caps : Capabilities) (read : Counter → m UInt64) : Realm → m RealmData
  | .device => do
    return .device (← read ⟨.device, 0, 0⟩)
  | .ingressPortPriorityGroup => do
    let cells ← grid caps caps.numPriorityGroups fun port pg => do
      let umShare ← read ⟨.priGroupShared, port, pg⟩
      let umHeadroom ← read ⟨.priGroupHeadroom, port, pg⟩
      return ⟨umShare, umHeadroom⟩
    return .ingressPortPriorityGroup cells
  | .ingressPortServicePool => do
    let cells ← grid caps caps.numServicePools fun port sp => read ⟨.portPool, port, sp⟩
    return .ingressPortServicePool cells
  | .ingressServicePool => do
    let cells ← row caps.numServicePools fun sp => read ⟨.ingressPool, 0, sp⟩
    return .ingressServicePool cells
  | .egressPortServicePool => do
    let cells ← grid caps caps.numServicePools fun port sp => do
      let ucShare ← read ⟨.egressUcastPortShared, port, sp⟩
      let umShare ← read ⟨.egressPortShared, port, sp⟩
      return ⟨ucShare, umShare⟩
    return .egressPortServicePool cells
  | .egressServicePool => do
    let cells ← row caps.numServicePools fun sp => do
      let umShare ← read ⟨.egressPool, 0, sp⟩
      let mcShare ← read ⟨.egressMcastPool, 0, sp⟩
      return ⟨umShare, mcShare⟩
    return .egressServicePool cells
  | .egressUcQueue => do
    return .egressUcQueue (← queues read .ucast caps.numUnicastQueues)
  | .egressUcQueueGroup => do
    return .egressUcQueueGroup (← queues read .ucastGroup caps.numUnicastQueueGroups)
  | .egressMcQueue => do
    return .egressMcQueue (← queues read .mcast caps.numMulticastQueues)
  | .egressCpuQueue => do
    return .egressCpuQueue (← queues read .cpuQueue caps.numCpuQueues)
  | .egressRqeQueue => do
    return .egressRqeQueue (← queues read .rqeQueue caps.numRqeQueues)

/-- Visits the counters of every realm, in the order of the realms, and fills a snapshot in
with their values. -/
def snapshot (caps : Capabilities) (read : Counter → m UInt64) : m Snapshot :=
  Realm.all.foldlM (fun s r => return s.setRealm (← realm caps read r)) (.zeroed caps)

end BufferTelemetry.Survey
