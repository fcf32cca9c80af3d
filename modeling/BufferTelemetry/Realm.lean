import BufferTelemetry.Error

/-!
# Realms

The eleven groups of buffer counters, and the set of realms whose counters are
collected. A realm's bit in a `TrackingMask` is two to the power of its id.
-/

namespace BufferTelemetry

/-- A group of buffer counters. -/
inductive Realm where
  | device
  | egressPortServicePool
  | egressServicePool
  | egressUcQueue
  | egressUcQueueGroup
  | egressMcQueue
  | egressCpuQueue
  | egressRqeQueue
  | ingressPortPriorityGroup
  | ingressPortServicePool
  | ingressServicePool
  deriving DecidableEq, Repr

namespace Realm

/-- Every realm, in the order of the ids. -/
def all : List Realm :=
  [.device, .egressPortServicePool, .egressServicePool, .egressUcQueue, .egressUcQueueGroup,
    .egressMcQueue, .egressCpuQueue, .egressRqeQueue, .ingressPortPriorityGroup,
    .ingressPortServicePool, .ingressServicePool]

/-- The id of a realm. -/
def id : Realm → Nat
  | .device => 1
  | .egressPortServicePool => 2
  | .egressServicePool => 3
  | .egressUcQueue => 4
  | .egressUcQueueGroup => 5
  | .egressMcQueue => 6
  | .egressCpuQueue => 7
  | .egressRqeQueue => 8
  | .ingressPortPriorityGroup => 9
  | .ingressPortServicePool => 10
  | .ingressServicePool => 11

/-- The realm with an id. -/
def ofId? (n : Nat) : Option Realm := all.find? (·.id = n)

/-- The name of a realm in the database. -/
def name : Realm → String
  | .device => "device"
  | .egressPortServicePool => "egress-port-service-pool"
  | .egressServicePool => "egress-service-pool"
  | .egressUcQueue => "egress-uc-queue"
  | .egressUcQueueGroup => "egress-uc-queue-group"
  | .egressMcQueue => "egress-mc-queue"
  | .egressCpuQueue => "egress-cpu-queue"
  | .egressRqeQueue => "egress-rqe-queue"
  | .ingressPortPriorityGroup => "ingress-port-priority-group"
  | .ingressPortServicePool => "ingress-port-service-pool"
  | .ingressServicePool => "ingress-service-pool"

/-- The label of a realm in serialized data. -/
def label : Realm → String
  | .device => "Device"
  | .egressPortServicePool => "EgressPortServicePool"
  | .egressServicePool => "EgressServicePool"
  | .egressUcQueue => "EgressUcQueue"
  | .egressUcQueueGroup => "EgressUcQueueGroup"
  | .egressMcQueue => "EgressMcQueue"
  | .egressCpuQueue => "EgressCpuQueue"
  | .egressRqeQueue => "EgressRqeQueue"
  | .ingressPortPriorityGroup => "IngressPortPriorityGroup"
  | .ingressPortServicePool => "IngressPortServicePool"
  | .ingressServicePool => "IngressServicePool"

/-- Reads the database name of a realm, in exactly its letter case. -/
def ofString? (s : String) : Except ParseError Realm :=
  match all.find? (·.name = s) with
  | some r => .ok r
  | none => .error (.realm s)

/-- The bit of a realm in a tracking mask. -/
def bit (r : Realm) : UInt32 := 1 <<< UInt32.ofNat r.id

end Realm

/-- A set of realms whose counters are collected. -/
structure TrackingMask where
  bits : UInt32
  deriving DecidableEq, Repr

namespace TrackingMask

/-- The set without realms. -/
def empty : TrackingMask := ⟨0⟩

/-- The set with one more realm. -/
def enable (m : TrackingMask) (r : Realm) : TrackingMask := ⟨m.bits ||| r.bit⟩

/-- The set without one realm. -/
def disable (m : TrackingMask) (r : Realm) : TrackingMask := ⟨m.bits &&& ~~~r.bit⟩

/-- The set of all realms. -/
def all : TrackingMask := Realm.all.foldl enable empty

/-- Whether a realm is in the set. -/
def isEnabled (m : TrackingMask) (r : Realm) : Bool := m.bits &&& r.bit != 0

/-- Whether no bit is set. -/
def isEmpty (m : TrackingMask) : Bool := m.bits == 0

/-- The realms of either set. -/
def union (m other : TrackingMask) : TrackingMask := ⟨m.bits ||| other.bits⟩

end TrackingMask

end BufferTelemetry
