import BufferTelemetry.Event
import BufferTelemetry.Feature
import BufferTelemetry.Json.Form
import BufferTelemetry.MacAddress
import BufferTelemetry.Settings
import BufferTelemetry.Snapshot
import BufferTelemetry.Threshold

/-!
# Serialized domain types

How the domain types are written as JSON and read back: masks as numbers, ASIC
types and hardware addresses by their own texts, enumerations as labels,
structures as records, and variants as cases.
-/

namespace BufferTelemetry

open Json

/-- Finds the member of an enumeration that has the given label. -/
def ofLabel? {α : Type} (all : List α) (label : α → String) (v : Json) : Option α :=
  v.label?.bind fun text => all.find? (label · = text)

instance : JsonForm FeatureMask where
  toJson m := toJson m.bits
  ofJson? v := (ofJson? v).map FeatureMask.mk

instance : JsonForm TrackingMask where
  toJson m := toJson m.bits
  ofJson? v := (ofJson? v).map TrackingMask.mk

instance : JsonForm AsicType where
  toJson t := .str t.toString
  ofJson? v := v.text?.bind fun text => (AsicType.ofString? text).toOption

instance : JsonForm MacAddress where
  toJson m := .str m.toString
  ofJson? v := v.text?.bind fun text => (MacAddress.ofString? text).toOption

/-- The label of a change. -/
def Change.label : Change → String
  | .feature => "feature"
  | .tracking => "tracking"

instance : JsonForm FeatureId where
  toJson v := .str v.name
  ofJson? := ofLabel? FeatureId.all fun v => v.name

instance : JsonForm TrackingMode where
  toJson v := .str v.name
  ofJson? := ofLabel? TrackingMode.all fun v => v.name

instance : JsonForm Change where
  toJson v := .str v.label
  ofJson? := ofLabel? [.feature, .tracking] fun v => v.label

instance : JsonForm Realm where
  toJson v := .str v.label
  ofJson? := ofLabel? Realm.all fun v => v.label

/-- The members of settings in their order. -/
def Settings.memberNames : List String :=
  ["enabled", "tracking_mode", "periodic_collection", "collection_interval_secs",
   "max_triggers", "send_snapshot_on_trigger", "trigger_collection_enabled", "tracking_mask",
   "track_init"]

instance : JsonForm Settings where
  toJson v := .obj [
    ("enabled", toJson v.enabled),
    ("tracking_mode", toJson v.trackingMode),
    ("periodic_collection", toJson v.periodicCollection),
    ("collection_interval_secs", toJson v.collectionIntervalSecs),
    ("max_triggers", toJson v.maxTriggers),
    ("send_snapshot_on_trigger", toJson v.sendSnapshotOnTrigger),
    ("trigger_collection_enabled", toJson v.triggerCollectionEnabled),
    ("tracking_mask", toJson v.trackingMask),
    ("track_init", toJson v.trackInit)]
  ofJson? v := do
    let members ← record? Settings.memberNames v
    return {
      enabled := ← field? members "enabled"
      trackingMode := ← field? members "tracking_mode"
      periodicCollection := ← field? members "periodic_collection"
      collectionIntervalSecs := ← field? members "collection_interval_secs"
      maxTriggers := ← field? members "max_triggers"
      sendSnapshotOnTrigger := ← field? members "send_snapshot_on_trigger"
      triggerCollectionEnabled := ← field? members "trigger_collection_enabled"
      trackingMask := ← field? members "tracking_mask"
      trackInit := ← field? members "track_init" }

/-- The members of a trigger in their order. -/
def Trigger.memberNames : List String :=
  ["realm", "counter", "port", "queue"]

instance : JsonForm Trigger where
  toJson v := .obj [
    ("realm", toJson v.realm),
    ("counter", toJson v.counter),
    ("port", toJson v.port),
    ("queue", toJson v.queue)]
  ofJson? v := do
    let members ← record? Trigger.memberNames v
    return {
      realm := ← field? members "realm"
      counter := ← field? members "counter"
      port := ← field? members "port"
      queue := ← field? members "queue" }

instance : JsonForm Event where
  toJson
    | .trigger asic info => ofCase "Trigger" (.obj [("asic", toJson asic), ("info", toJson info)])
    | .configChanged asic change =>
      ofCase "ConfigChanged" (.obj [("asic", toJson asic), ("change", toJson change)])
  ofJson? v := do
    match ← v.case? with
    | ("Trigger", contents) =>
      let members ← record? ["asic", "info"] contents
      return .trigger (← field? members "asic") (← field? members "info")
    | ("ConfigChanged", contents) =>
      let members ← record? ["asic", "change"] contents
      return .configChanged (← field? members "asic") (← field? members "change")
    | _ => none

/-- The members of the capabilities of an ASIC in their order. -/
def Capabilities.memberNames : List String :=
  ["num_ports", "num_unicast_queues", "num_unicast_queue_groups", "num_multicast_queues",
   "num_service_pools", "num_common_pools", "num_cpu_queues", "num_rqe_queues",
   "num_rqe_queue_pools", "num_priority_groups", "support_1588", "cell_to_byte"]

instance : JsonForm Capabilities where
  toJson v := .obj [
    ("num_ports", toJson v.numPorts),
    ("num_unicast_queues", toJson v.numUnicastQueues),
    ("num_unicast_queue_groups", toJson v.numUnicastQueueGroups),
    ("num_multicast_queues", toJson v.numMulticastQueues),
    ("num_service_pools", toJson v.numServicePools),
    ("num_common_pools", toJson v.numCommonPools),
    ("num_cpu_queues", toJson v.numCpuQueues),
    ("num_rqe_queues", toJson v.numRqeQueues),
    ("num_rqe_queue_pools", toJson v.numRqeQueuePools),
    ("num_priority_groups", toJson v.numPriorityGroups),
    ("support_1588", toJson v.support1588),
    ("cell_to_byte", toJson v.cellToByte)]
  ofJson? v := do
    let members ← record? Capabilities.memberNames v
    return {
      numPorts := ← field? members "num_ports"
      numUnicastQueues := ← field? members "num_unicast_queues"
      numUnicastQueueGroups := ← field? members "num_unicast_queue_groups"
      numMulticastQueues := ← field? members "num_multicast_queues"
      numServicePools := ← field? members "num_service_pools"
      numCommonPools := ← field? members "num_common_pools"
      numCpuQueues := ← field? members "num_cpu_queues"
      numRqeQueues := ← field? members "num_rqe_queues"
      numRqeQueuePools := ← field? members "num_rqe_queue_pools"
      numPriorityGroups := ← field? members "num_priority_groups"
      support1588 := ← field? members "support_1588"
      cellToByte := ← field? members "cell_to_byte" }

/-- The members of an ASIC in their order. -/
def Asic.memberNames : List String :=
  ["unit", "asic_type", "capabilities"]

instance : JsonForm Asic where
  toJson v := .obj [
    ("unit", toJson v.unit),
    ("asic_type", toJson v.asicType),
    ("capabilities", toJson v.capabilities)]
  ofJson? v := do
    let members ← record? Asic.memberNames v
    return {
      unit := ← field? members "unit"
      asicType := ← field? members "asic_type"
      capabilities := ← field? members "capabilities" }

/-- The members of a priority group in their order. -/
def PriorityGroupCell.memberNames : List String :=
  ["um_share", "um_headroom"]

instance : JsonForm PriorityGroupCell where
  toJson v := .obj [
    ("um_share", toJson v.umShare),
    ("um_headroom", toJson v.umHeadroom)]
  ofJson? v := do
    let members ← record? PriorityGroupCell.memberNames v
    return {
      umShare := ← field? members "um_share"
      umHeadroom := ← field? members "um_headroom" }

/-- The members of a service pool of a port in their order. -/
def PortPoolCell.memberNames : List String :=
  ["uc_share", "um_share"]

instance : JsonForm PortPoolCell where
  toJson v := .obj [
    ("uc_share", toJson v.ucShare),
    ("um_share", toJson v.umShare)]
  ofJson? v := do
    let members ← record? PortPoolCell.memberNames v
    return {
      ucShare := ← field? members "uc_share"
      umShare := ← field? members "um_share" }

/-- The members of a service pool in their order. -/
def PoolCell.memberNames : List String :=
  ["um_share", "mc_share"]

instance : JsonForm PoolCell where
  toJson v := .obj [
    ("um_share", toJson v.umShare),
    ("mc_share", toJson v.mcShare)]
  ofJson? v := do
    let members ← record? PoolCell.memberNames v
    return {
      umShare := ← field? members "um_share"
      mcShare := ← field? members "mc_share" }

/-- The members of a queue in their order. -/
def QueueCell.memberNames : List String :=
  ["port", "buffer_count"]

instance : JsonForm QueueCell where
  toJson v := .obj [
    ("port", toJson v.port),
    ("buffer_count", toJson v.bufferCount)]
  ofJson? v := do
    let members ← record? QueueCell.memberNames v
    return {
      port := ← field? members "port"
      bufferCount := ← field? members "buffer_count" }

/-- The contents of the case that stands for a realm's data. -/
def RealmData.contents : RealmData → Json
  | .device v => toJson v
  | .ingressPortPriorityGroup v => toJson v
  | .ingressPortServicePool v => toJson v
  | .ingressServicePool v => toJson v
  | .egressPortServicePool v => toJson v
  | .egressServicePool v => toJson v
  | .egressUcQueue v => toJson v
  | .egressUcQueueGroup v => toJson v
  | .egressMcQueue v => toJson v
  | .egressCpuQueue v => toJson v
  | .egressRqeQueue v => toJson v

/-- Reads the contents of the case that stands for a realm's data. -/
def RealmData.ofContents? (v : Json) : Realm → Option RealmData
  | .device => (ofJson? v).map .device
  | .ingressPortPriorityGroup => (ofJson? v).map .ingressPortPriorityGroup
  | .ingressPortServicePool => (ofJson? v).map .ingressPortServicePool
  | .ingressServicePool => (ofJson? v).map .ingressServicePool
  | .egressPortServicePool => (ofJson? v).map .egressPortServicePool
  | .egressServicePool => (ofJson? v).map .egressServicePool
  | .egressUcQueue => (ofJson? v).map .egressUcQueue
  | .egressUcQueueGroup => (ofJson? v).map .egressUcQueueGroup
  | .egressMcQueue => (ofJson? v).map .egressMcQueue
  | .egressCpuQueue => (ofJson? v).map .egressCpuQueue
  | .egressRqeQueue => (ofJson? v).map .egressRqeQueue

instance : JsonForm RealmData where
  toJson d := ofCase d.realm.label d.contents
  ofJson? v := do
    let (text, contents) ← v.case?
    let realm ← Realm.all.find? (·.label = text)
    RealmData.ofContents? contents realm

/-- The members of a snapshot in their order. -/
def Snapshot.memberNames : List String :=
  ["device", "ingress_port_pg", "ingress_port_sp", "ingress_sp", "egress_port_sp", "egress_sp",
   "egress_uc_queue", "egress_uc_queue_group", "egress_mc_queue", "egress_cpu_queue",
   "egress_rqe_queue"]

instance : JsonForm Snapshot where
  toJson v := .obj [
    ("device", toJson v.device),
    ("ingress_port_pg", toJson v.ingressPortPg),
    ("ingress_port_sp", toJson v.ingressPortSp),
    ("ingress_sp", toJson v.ingressSp),
    ("egress_port_sp", toJson v.egressPortSp),
    ("egress_sp", toJson v.egressSp),
    ("egress_uc_queue", toJson v.egressUcQueue),
    ("egress_uc_queue_group", toJson v.egressUcQueueGroup),
    ("egress_mc_queue", toJson v.egressMcQueue),
    ("egress_cpu_queue", toJson v.egressCpuQueue),
    ("egress_rqe_queue", toJson v.egressRqeQueue)]
  ofJson? v := do
    let members ← record? Snapshot.memberNames v
    return {
      device := ← field? members "device"
      ingressPortPg := ← field? members "ingress_port_pg"
      ingressPortSp := ← field? members "ingress_port_sp"
      ingressSp := ← field? members "ingress_sp"
      egressPortSp := ← field? members "egress_port_sp"
      egressSp := ← field? members "egress_sp"
      egressUcQueue := ← field? members "egress_uc_queue"
      egressUcQueueGroup := ← field? members "egress_uc_queue_group"
      egressMcQueue := ← field? members "egress_mc_queue"
      egressCpuQueue := ← field? members "egress_cpu_queue"
      egressRqeQueue := ← field? members "egress_rqe_queue" }

/-- The members of a threshold request of a realm, in their order. -/
def ThresholdRequest.memberNames : Realm → List String
  | .device => ["threshold"]
  | .ingressPortPriorityGroup => ["port", "pg", "um_share", "um_headroom"]
  | .ingressPortServicePool => ["port", "sp", "um_share"]
  | .ingressServicePool => ["sp", "um_share"]
  | .egressPortServicePool => ["port", "sp", "uc_share", "um_share"]
  | .egressServicePool => ["sp", "um_share", "mc_share"]
  | .egressUcQueue => ["queue", "uc_buffer"]
  | .egressUcQueueGroup => ["group", "uc_buffer"]
  | .egressMcQueue => ["queue", "mc_buffer"]
  | .egressCpuQueue => ["queue", "cpu_buffer"]
  | .egressRqeQueue => ["queue", "rqe_buffer"]

/-- The members of a threshold request. -/
def ThresholdRequest.members : ThresholdRequest → List (String × Json)
  | .device threshold => [("threshold", toJson threshold)]
  | .ingressPortPriorityGroup port pg umShare umHeadroom =>
    [("port", toJson port), ("pg", toJson pg),
      ("um_share", toJson umShare), ("um_headroom", toJson umHeadroom)]
  | .ingressPortServicePool port sp umShare =>
    [("port", toJson port), ("sp", toJson sp),
      ("um_share", toJson umShare)]
  | .ingressServicePool sp umShare => [("sp", toJson sp), ("um_share", toJson umShare)]
  | .egressPortServicePool port sp ucShare umShare =>
    [("port", toJson port), ("sp", toJson sp),
      ("uc_share", toJson ucShare), ("um_share", toJson umShare)]
  | .egressServicePool sp umShare mcShare =>
    [("sp", toJson sp), ("um_share", toJson umShare),
      ("mc_share", toJson mcShare)]
  | .egressUcQueue queue ucBuffer => [("queue", toJson queue), ("uc_buffer", toJson ucBuffer)]
  | .egressUcQueueGroup group ucBuffer =>
    [("group", toJson group),
      ("uc_buffer", toJson ucBuffer)]
  | .egressMcQueue queue mcBuffer => [("queue", toJson queue), ("mc_buffer", toJson mcBuffer)]
  | .egressCpuQueue queue cpuBuffer => [("queue", toJson queue), ("cpu_buffer", toJson cpuBuffer)]
  | .egressRqeQueue queue rqeBuffer => [("queue", toJson queue), ("rqe_buffer", toJson rqeBuffer)]

/-- Reads the members of a threshold request of a realm. -/
def ThresholdRequest.ofMembers? (members : List (String × Json)) :
    Realm → Option ThresholdRequest
  | .device => do
    return .device (← field? members "threshold")
  | .ingressPortPriorityGroup => do
    return .ingressPortPriorityGroup (← field? members "port") (← field? members "pg")
      (← field? members "um_share") (← field? members "um_headroom")
  | .ingressPortServicePool => do
    return .ingressPortServicePool (← field? members "port") (← field? members "sp")
      (← field? members "um_share")
  | .ingressServicePool => do
    return .ingressServicePool (← field? members "sp") (← field? members "um_share")
  | .egressPortServicePool => do
    return .egressPortServicePool (← field? members "port") (← field? members "sp")
      (← field? members "uc_share") (← field? members "um_share")
  | .egressServicePool => do
    return .egressServicePool (← field? members "sp") (← field? members "um_share")
      (← field? members "mc_share")
  | .egressUcQueue => do
    return .egressUcQueue (← field? members "queue") (← field? members "uc_buffer")
  | .egressUcQueueGroup => do
    return .egressUcQueueGroup (← field? members "group") (← field? members "uc_buffer")
  | .egressMcQueue => do
    return .egressMcQueue (← field? members "queue") (← field? members "mc_buffer")
  | .egressCpuQueue => do
    return .egressCpuQueue (← field? members "queue") (← field? members "cpu_buffer")
  | .egressRqeQueue => do
    return .egressRqeQueue (← field? members "queue") (← field? members "rqe_buffer")

instance : JsonForm ThresholdRequest where
  toJson t := ofCase t.realm.label (.obj t.members)
  ofJson? v := do
    let (text, contents) ← v.case?
    let realm ← Realm.all.find? (·.label = text)
    let members ← record? (ThresholdRequest.memberNames realm) contents
    ThresholdRequest.ofMembers? members realm

end BufferTelemetry
