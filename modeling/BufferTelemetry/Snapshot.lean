import BufferTelemetry.Asic
import BufferTelemetry.Realm

/-!
# Snapshots

The values of every counter of one ASIC, in the shapes that its capabilities
give. The same shape carries the statistics of the moment, the thresholds that
are set and the factory maxima, so that callers can compare them cell by cell.
Grids are laid out by port and then by index.
-/

namespace BufferTelemetry

/-- The counters of a priority group of an ingress port. -/
structure PriorityGroupCell where
  umShare : UInt64
  umHeadroom : UInt64
  deriving DecidableEq, Repr

/-- The counters of a service pool of an egress port. -/
structure PortPoolCell where
  ucShare : UInt64
  umShare : UInt64
  deriving DecidableEq, Repr

/-- The counters of an egress service pool. -/
structure PoolCell where
  umShare : UInt64
  mcShare : UInt64
  deriving DecidableEq, Repr

/-- The counter of a queue. -/
structure QueueCell where
  /-- The port that owns the queue, zero if none does. -/
  port : UInt32
  bufferCount : UInt64
  deriving DecidableEq, Repr

/-- The values of one realm. -/
inductive RealmData where
  | device (value : UInt64)
  | ingressPortPriorityGroup (cells : List (List PriorityGroupCell))
  | ingressPortServicePool (cells : List (List UInt64))
  | ingressServicePool (cells : List UInt64)
  | egressPortServicePool (cells : List (List PortPoolCell))
  | egressServicePool (cells : List PoolCell)
  | egressUcQueue (cells : List QueueCell)
  | egressUcQueueGroup (cells : List QueueCell)
  | egressMcQueue (cells : List QueueCell)
  | egressCpuQueue (cells : List QueueCell)
  | egressRqeQueue (cells : List QueueCell)
  deriving DecidableEq, Repr

/-- The realm to which the values belong. -/
def RealmData.realm : RealmData → Realm
  | .device _ => .device
  | .ingressPortPriorityGroup _ => .ingressPortPriorityGroup
  | .ingressPortServicePool _ => .ingressPortServicePool
  | .ingressServicePool _ => .ingressServicePool
  | .egressPortServicePool _ => .egressPortServicePool
  | .egressServicePool _ => .egressServicePool
  | .egressUcQueue _ => .egressUcQueue
  | .egressUcQueueGroup _ => .egressUcQueueGroup
  | .egressMcQueue _ => .egressMcQueue
  | .egressCpuQueue _ => .egressCpuQueue
  | .egressRqeQueue _ => .egressRqeQueue

/-- The values of every realm of one ASIC. -/
structure Snapshot where
  device : UInt64
  ingressPortPg : List (List PriorityGroupCell)
  ingressPortSp : List (List UInt64)
  ingressSp : List UInt64
  egressPortSp : List (List PortPoolCell)
  egressSp : List PoolCell
  egressUcQueue : List QueueCell
  egressUcQueueGroup : List QueueCell
  egressMcQueue : List QueueCell
  egressCpuQueue : List QueueCell
  egressRqeQueue : List QueueCell
  deriving DecidableEq, Repr

namespace Snapshot

/-- A snapshot without cells. -/
def empty : Snapshot where
  device := 0
  ingressPortPg := []
  ingressPortSp := []
  ingressSp := []
  egressPortSp := []
  egressSp := []
  egressUcQueue := []
  egressUcQueueGroup := []
  egressMcQueue := []
  egressCpuQueue := []
  egressRqeQueue := []

/-- A snapshot in the shape of an ASIC, with all counters zero. -/
def zeroed (caps : Capabilities) : Snapshot :=
  let ports := caps.numPorts.toNat
  let pools := caps.numServicePools.toNat
  let queues (n : UInt64) : List QueueCell := List.replicate n.toNat ⟨0, 0⟩
  { device := 0
    ingressPortPg :=
      List.replicate ports (List.replicate caps.numPriorityGroups.toNat ⟨0, 0⟩)
    ingressPortSp := List.replicate ports (List.replicate pools 0)
    ingressSp := List.replicate pools 0
    egressPortSp := List.replicate ports (List.replicate pools ⟨0, 0⟩)
    egressSp := List.replicate pools ⟨0, 0⟩
    egressUcQueue := queues caps.numUnicastQueues
    egressUcQueueGroup := queues caps.numUnicastQueueGroups
    egressMcQueue := queues caps.numMulticastQueues
    egressCpuQueue := queues caps.numCpuQueues
    egressRqeQueue := queues caps.numRqeQueues }

/-- Replaces the values of the realm to which the data belong. -/
def setRealm (s : Snapshot) : RealmData → Snapshot
  | .device v => { s with device := v }
  | .ingressPortPriorityGroup v => { s with ingressPortPg := v }
  | .ingressPortServicePool v => { s with ingressPortSp := v }
  | .ingressServicePool v => { s with ingressSp := v }
  | .egressPortServicePool v => { s with egressPortSp := v }
  | .egressServicePool v => { s with egressSp := v }
  | .egressUcQueue v => { s with egressUcQueue := v }
  | .egressUcQueueGroup v => { s with egressUcQueueGroup := v }
  | .egressMcQueue v => { s with egressMcQueue := v }
  | .egressCpuQueue v => { s with egressCpuQueue := v }
  | .egressRqeQueue v => { s with egressRqeQueue := v }

/-- The values of one realm. -/
def realm (s : Snapshot) : Realm → RealmData
  | .device => .device s.device
  | .ingressPortPriorityGroup => .ingressPortPriorityGroup s.ingressPortPg
  | .ingressPortServicePool => .ingressPortServicePool s.ingressPortSp
  | .ingressServicePool => .ingressServicePool s.ingressSp
  | .egressPortServicePool => .egressPortServicePool s.egressPortSp
  | .egressServicePool => .egressServicePool s.egressSp
  | .egressUcQueue => .egressUcQueue s.egressUcQueue
  | .egressUcQueueGroup => .egressUcQueueGroup s.egressUcQueueGroup
  | .egressMcQueue => .egressMcQueue s.egressMcQueue
  | .egressCpuQueue => .egressCpuQueue s.egressCpuQueue
  | .egressRqeQueue => .egressRqeQueue s.egressRqeQueue

end Snapshot

end BufferTelemetry
