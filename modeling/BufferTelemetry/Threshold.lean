import BufferTelemetry.Asic
import BufferTelemetry.Counter.Layout

/-!
# Threshold requests

A request sets the thresholds of the counters at one place of one realm; it
stands for one `ThresholdWrite` for each of them. A write is accepted when its
value lies between one and the factory threshold, its port is one of the ASIC's,
and its counter exists.
-/

namespace BufferTelemetry

/-- A request to set the thresholds at one place of a realm. Ports are counted from
one, all other indices from zero. -/
inductive ThresholdRequest where
  | device (threshold : UInt64)
  | ingressPortPriorityGroup (port pg : UInt32) (umShare umHeadroom : UInt64)
  | ingressPortServicePool (port sp : UInt32) (umShare : UInt64)
  | ingressServicePool (sp : UInt32) (umShare : UInt64)
  | egressPortServicePool (port sp : UInt32) (ucShare umShare : UInt64)
  | egressServicePool (sp : UInt32) (umShare mcShare : UInt64)
  | egressUcQueue (queue : UInt32) (ucBuffer : UInt64)
  | egressUcQueueGroup (group : UInt32) (ucBuffer : UInt64)
  | egressMcQueue (queue : UInt32) (mcBuffer : UInt64)
  | egressCpuQueue (queue : UInt32) (cpuBuffer : UInt64)
  | egressRqeQueue (queue : UInt32) (rqeBuffer : UInt64)
  deriving DecidableEq, Repr

/-- The threshold of one counter. -/
structure ThresholdWrite where
  counter : Counter
  value : UInt64
  deriving DecidableEq, Repr

namespace ThresholdRequest

/-- The realm of a request. -/
def realm : ThresholdRequest → Realm
  | .device _ => .device
  | .ingressPortPriorityGroup .. => .ingressPortPriorityGroup
  | .ingressPortServicePool .. => .ingressPortServicePool
  | .ingressServicePool .. => .ingressServicePool
  | .egressPortServicePool .. => .egressPortServicePool
  | .egressServicePool .. => .egressServicePool
  | .egressUcQueue .. => .egressUcQueue
  | .egressUcQueueGroup .. => .egressUcQueueGroup
  | .egressMcQueue .. => .egressMcQueue
  | .egressCpuQueue .. => .egressCpuQueue
  | .egressRqeQueue .. => .egressRqeQueue

/-- The writes for which a request stands. -/
def writes : ThresholdRequest → List ThresholdWrite
  | .device threshold => [⟨⟨.device, 0, 0⟩, threshold⟩]
  | .ingressPortPriorityGroup port pg umShare umHeadroom =>
    [⟨⟨.priGroupShared, port, pg⟩, umShare⟩, ⟨⟨.priGroupHeadroom, port, pg⟩, umHeadroom⟩]
  | .ingressPortServicePool port sp umShare => [⟨⟨.portPool, port, sp⟩, umShare⟩]
  | .ingressServicePool sp umShare => [⟨⟨.ingressPool, 0, sp⟩, umShare⟩]
  | .egressPortServicePool port sp ucShare umShare =>
    [⟨⟨.egressUcastPortShared, port, sp⟩, ucShare⟩, ⟨⟨.egressPortShared, port, sp⟩, umShare⟩]
  | .egressServicePool sp umShare mcShare =>
    [⟨⟨.egressPool, 0, sp⟩, umShare⟩, ⟨⟨.egressMcastPool, 0, sp⟩, mcShare⟩]
  | .egressUcQueue queue ucBuffer => [⟨⟨.ucast, 0, queue⟩, ucBuffer⟩]
  | .egressUcQueueGroup group ucBuffer => [⟨⟨.ucastGroup, 0, group⟩, ucBuffer⟩]
  | .egressMcQueue queue mcBuffer => [⟨⟨.mcast, 0, queue⟩, mcBuffer⟩]
  | .egressCpuQueue queue cpuBuffer => [⟨⟨.cpuQueue, 0, queue⟩, cpuBuffer⟩]
  | .egressRqeQueue queue rqeBuffer => [⟨⟨.rqeQueue, 0, queue⟩, rqeBuffer⟩]

end ThresholdRequest

/-- Fails unless the write can be made on an ASIC with the given capabilities. -/
def ThresholdWrite.validate (caps : Capabilities) (w : ThresholdWrite) : Except Error Unit := do
  let kind := w.counter.kind
  if w.value = 0 ∨ kind.factoryThreshold < w.value then
    throw (.invalidParameter
      s!"{kind.name} threshold {w.value} outside 1..={kind.factoryThreshold}")
  if kind.indexing.isDouble ∧ (w.counter.port = 0 ∨ caps.numPorts < w.counter.port.toUInt64) then
    throw (.invalidParameter
      s!"{kind.name} port {w.counter.port} outside 1..={caps.numPorts}")
  match w.counter.offset with
  | .ok _ => return ()
  | .error e => throw (.invalidParameter e.message)

end BufferTelemetry
