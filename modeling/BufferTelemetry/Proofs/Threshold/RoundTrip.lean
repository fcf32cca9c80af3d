import BufferTelemetry.Proofs.Commit.Thresholds
import BufferTelemetry.Proofs.Json.Records
import BufferTelemetry.Proofs.Replica.CounterHistory
import BufferTelemetry.Proofs.Survey.Collection
import BufferTelemetry.Proofs.Threshold.Validation

/-!
# Thresholds come back

A valid threshold request is followed on its way to the database and back:

* the transactions that it commits are about different rows, whose names denote the
  counters of its writes (`Backend.sends_setThreshold`, `ThresholdRequest.nodup_rowNames`);
* an update that confirms them sets the threshold of each of these counters to the
  committed value and changes no other counter (`Confirms.threshold_eq`,
  `Confirms.get_eq`);
* the snapshot of the thresholds then shows the values of the request in the cell at its
  place, in the fields of the same names (`ThresholdRequest.shownIn_snapshot`).

The mappings that have to agree for this are the one of the fields to kinds of counters,
the names of rows, and the one of kinds to the fields of a snapshot.
-/

namespace BufferTelemetry

namespace ThresholdRequest

/-- The place that a request names lies within the dimensions of an ASIC. -/
def Inside (caps : Capabilities) : ThresholdRequest → Prop
  | .device _ => True
  | .ingressPortPriorityGroup port pg _ _ =>
    (1 ≤ port.toNat ∧ port.toNat ≤ caps.numPorts.toNat) ∧ pg.toNat < caps.numPriorityGroups.toNat
  | .ingressPortServicePool port sp _ =>
    (1 ≤ port.toNat ∧ port.toNat ≤ caps.numPorts.toNat) ∧ sp.toNat < caps.numServicePools.toNat
  | .ingressServicePool sp _ => sp.toNat < caps.numServicePools.toNat
  | .egressPortServicePool port sp _ _ =>
    (1 ≤ port.toNat ∧ port.toNat ≤ caps.numPorts.toNat) ∧ sp.toNat < caps.numServicePools.toNat
  | .egressServicePool sp _ _ => sp.toNat < caps.numServicePools.toNat
  | .egressUcQueue queue _ => queue.toNat < caps.numUnicastQueues.toNat
  | .egressUcQueueGroup group _ => group.toNat < caps.numUnicastQueueGroups.toNat
  | .egressMcQueue queue _ => queue.toNat < caps.numMulticastQueues.toNat
  | .egressCpuQueue queue _ => queue.toNat < caps.numCpuQueues.toNat
  | .egressRqeQueue queue _ => queue.toNat < caps.numRqeQueues.toNat

/-- The cell of a snapshot at the place of a request holds the values of the request. -/
def ShownIn (s : Snapshot) : ThresholdRequest → Prop
  | .device threshold => s.device = threshold
  | .ingressPortPriorityGroup port pg umShare umHeadroom =>
    (s.ingressPortPg[port.toNat - 1]?).bind (·[pg.toNat]?) = some { umShare, umHeadroom }
  | .ingressPortServicePool port sp umShare =>
    (s.ingressPortSp[port.toNat - 1]?).bind (·[sp.toNat]?) = some umShare
  | .ingressServicePool sp umShare => s.ingressSp[sp.toNat]? = some umShare
  | .egressPortServicePool port sp ucShare umShare =>
    (s.egressPortSp[port.toNat - 1]?).bind (·[sp.toNat]?) = some { ucShare, umShare }
  | .egressServicePool sp umShare mcShare => s.egressSp[sp.toNat]? = some { umShare, mcShare }
  | .egressUcQueue queue ucBuffer =>
    s.egressUcQueue[queue.toNat]? = some { port := 0, bufferCount := ucBuffer }
  | .egressUcQueueGroup group ucBuffer =>
    s.egressUcQueueGroup[group.toNat]? = some { port := 0, bufferCount := ucBuffer }
  | .egressMcQueue queue mcBuffer =>
    s.egressMcQueue[queue.toNat]? = some { port := 0, bufferCount := mcBuffer }
  | .egressCpuQueue queue cpuBuffer =>
    s.egressCpuQueue[queue.toNat]? = some { port := 0, bufferCount := cpuBuffer }
  | .egressRqeQueue queue rqeBuffer =>
    s.egressRqeQueue[queue.toNat]? = some { port := 0, bufferCount := rqeBuffer }

section Survey

open Survey

/-- **Fields.** A survey shows a request if it reads the values of its writes. -/
theorem shownIn_snapshot {request : ThresholdRequest} {numPorts : UInt64} {f : Counter → UInt64}
    (hports : numPorts ≤ 130) (hinside : request.Inside (.trident2 numPorts))
    (hf : ∀ w ∈ request.writes, f w.counter = w.value) :
    request.ShownIn (snapshot (m := Id) (.trident2 numPorts) f).run := by
  have hcount : count (Capabilities.trident2 numPorts).numPorts = numPorts.toNat := by
    have hle := UInt64.le_iff_toNat_le.1 hports
    exact count_eq (Nat.lt_of_le_of_lt hle (by decide))
  -- the realm of the request is read of the survey of that realm, cell by cell
  cases request with
  | device threshold => exact hf ⟨⟨.device, 0, 0⟩, threshold⟩ List.mem_cons_self
  | ingressPortPriorityGroup port pg umShare umHeadroom =>
    obtain ⟨⟨hle, hlt⟩, hpg⟩ := hinside
    obtain ⟨hshare, hheadroom, _⟩ := List.forall_mem_cons.1 hf |>.imp_right List.forall_mem_cons.1
    refine (grid_getElem? _ hle (hcount ▸ hlt) hpg).trans ?_
    show some (PriorityGroupCell.mk (f _) (f _)) = _
    rw [hshare, hheadroom]
  | ingressPortServicePool port sp umShare =>
    obtain ⟨⟨hle, hlt⟩, hsp⟩ := hinside
    refine (grid_getElem? _ hle (hcount ▸ hlt) hsp).trans ?_
    rw [hf ⟨⟨.portPool, port, sp⟩, umShare⟩ List.mem_cons_self]
  | ingressServicePool sp umShare =>
    have hsp : sp.toNat < count (Capabilities.trident2 numPorts).numServicePools := hinside
    refine (row_getElem? _ hsp).trans ?_
    rw [hf ⟨⟨.ingressPool, 0, sp⟩, umShare⟩ List.mem_cons_self]
  | egressPortServicePool port sp ucShare umShare =>
    obtain ⟨⟨hle, hlt⟩, hsp⟩ := hinside
    obtain ⟨huc, hum, _⟩ := List.forall_mem_cons.1 hf |>.imp_right List.forall_mem_cons.1
    refine (grid_getElem? _ hle (hcount ▸ hlt) hsp).trans ?_
    show some (PortPoolCell.mk (f _) (f _)) = _
    rw [huc, hum]
  | egressServicePool sp umShare mcShare =>
    have hsp : sp.toNat < count (Capabilities.trident2 numPorts).numServicePools := hinside
    obtain ⟨hum, hmc, _⟩ := List.forall_mem_cons.1 hf |>.imp_right List.forall_mem_cons.1
    refine (row_getElem? _ hsp).trans ?_
    show some (PoolCell.mk (f _) (f _)) = _
    rw [hum, hmc]
  | egressUcQueue queue ucBuffer =>
    have hqueue := queues_getElem? (n := (Capabilities.trident2 numPorts).numUnicastQueues) f
      .ucast hinside
    rw [hf ⟨⟨.ucast, 0, queue⟩, ucBuffer⟩ List.mem_cons_self] at hqueue
    exact hqueue
  | egressUcQueueGroup group ucBuffer =>
    have hqueue := queues_getElem? (n := (Capabilities.trident2 numPorts).numUnicastQueueGroups) f
      .ucastGroup hinside
    rw [hf ⟨⟨.ucastGroup, 0, group⟩, ucBuffer⟩ List.mem_cons_self] at hqueue
    exact hqueue
  | egressMcQueue queue mcBuffer =>
    have hqueue := queues_getElem? (n := (Capabilities.trident2 numPorts).numMulticastQueues) f
      .mcast hinside
    rw [hf ⟨⟨.mcast, 0, queue⟩, mcBuffer⟩ List.mem_cons_self] at hqueue
    exact hqueue
  | egressCpuQueue queue cpuBuffer =>
    have hqueue := queues_getElem? (n := (Capabilities.trident2 numPorts).numCpuQueues) f
      .cpuQueue hinside
    rw [hf ⟨⟨.cpuQueue, 0, queue⟩, cpuBuffer⟩ List.mem_cons_self] at hqueue
    exact hqueue
  | egressRqeQueue queue rqeBuffer =>
    have hqueue := queues_getElem? (n := (Capabilities.trident2 numPorts).numRqeQueues) f
      .rqeQueue hinside
    rw [hf ⟨⟨.rqeQueue, 0, queue⟩, rqeBuffer⟩ List.mem_cons_self] at hqueue
    exact hqueue

end Survey

end ThresholdRequest

namespace Database

open Rpc

/-- The row is about the counter of a write, in unit 0, and carries its value. -/
structure Echoes (w : ThresholdWrite) (row : Json) : Prop where
  unit_eq : column? row "hw_unit_id" = some (.int 0)
  name_eq : column? row "name" = some (.str w.counter.rowName)
  threshold_eq : column? row "trigger_threshold" = some (.ofWord w.value)

/-- The counter rows of an update are echoes of the writes of a request, and every write
has one. -/
structure Confirms (request : ThresholdRequest) (updates : Json) : Prop where
  echoes : ∀ row ∈ counterRows updates, ∃ w ∈ request.writes, Echoes w row
  complete : ∀ w ∈ request.writes, ∃ row ∈ counterRows updates, Echoes w row

/-- An update with one row for every write of a request. -/
def confirmation (request : ThresholdRequest) : Json :=
  .obj [(counterTable, .obj (request.writes.map fun w => (w.counter.rowName,
    .obj [("new", .obj [("hw_unit_id", .int 0), ("name", .str w.counter.rowName),
      ("trigger_threshold", .ofWord w.value)])])))]

theorem confirms_confirmation (request : ThresholdRequest) :
    Confirms request (confirmation request) := by
  have hrows : counterRows (confirmation request) = request.writes.map fun w =>
      .obj [("new", .obj [("hw_unit_id", .int 0), ("name", .str w.counter.rowName),
        ("trigger_threshold", .ofWord w.value)])] := by
    show (request.writes.map _).map Prod.snd ++ [] = _
    rw [List.append_nil, List.map_map]
    rfl
  constructor
  · intro row hrow
    rw [hrows] at hrow
    obtain ⟨w, hw, rfl⟩ := List.mem_map.1 hrow
    exact ⟨w, hw, rfl, rfl, rfl⟩
  · intro w hw
    rw [hrows]
    exact ⟨_, List.mem_map_of_mem hw, rfl, rfl, rfl⟩

section Echoes

variable {request : ThresholdRequest} {caps : Capabilities} {w : ThresholdWrite} {row : Json}
  {n : Nat} {unit : UInt32} {c : Counter} {e : Entry}

theorem Echoes.of_reports (h : Echoes w row)
    (hread : Counter.ofRowName w.counter.rowName = .ok w.counter)
    (hreports : Reports n row unit c e) :
    unit = 0 ∧ w.counter.canonical = c.canonical ∧ e.threshold = w.value := by
  obtain ⟨v, hv, hunit, _⟩ := hreports.unit_eq
  obtain ⟨name, d, hname, hd, hsame⟩ := hreports.counter_eq
  refine ⟨?_, ?_, ?_⟩
  · rw [h.unit_eq] at hv
    cases hv
    exact UInt32.toNat_inj.1 hunit.symm
  · rw [h.name_eq] at hname
    cases hname
    rw [hread] at hd
    cases hd
    exact hsame
  · have hvalue := hreports.threshold_eq
    rw [h.threshold_eq, Option.bind_some, Json.word?_ofWord] at hvalue
    exact hvalue

theorem Echoes.exists_reports (h : Echoes w row)
    (hread : Counter.ofRowName w.counter.rowName = .ok w.counter) (hpos : 0 < n)
    (hn : n < UInt32.size) : ∃ e, Reports n row 0 w.counter e := by
  have haccepted : Accepted n row := by
    refine ⟨⟨0, ?_, hpos⟩, _, _, h.name_eq, hread⟩
    rw [h.unit_eq]
    rfl
  obtain ⟨o, ho⟩ := Option.isSome_iff_exists.1 (Observation.accepted_iff_ofRow?.1 haccepted)
  have hreports : Reports n row o.unit o.counter o.stored :=
    (reports_iff_ofRow? hn).2 ⟨o, ho, rfl, rfl, rfl⟩
  obtain ⟨hunit, hsame, _⟩ := h.of_reports hread hreports
  exact ⟨o.stored, (reports_iff_ofRow? hn).2 ⟨o, ho, hunit, hsame.symm, rfl⟩⟩

end Echoes

section Confirms

variable {request : ThresholdRequest} {caps : Capabilities} {updates : Json} {r : Replica}

theorem follows_apply (hunits : r.store.numUnits = 1) (updates : Json) :
    Follows (counterRows updates) r.store (r.apply updates).replica.store := by
  have hsize : r.store.numUnits < UInt32.size := by
    rw [hunits]
    decide
  exact (apply_takesIn hsize updates).1

/-- **Confirmed counters.** After an update that confirms a request, the threshold of each
of its counters is the value of the write. -/
theorem Confirms.threshold_eq (h : Confirms request updates)
    (hvalid : request.writes.forM (ThresholdWrite.validate caps) = .ok ())
    (hunits : r.store.numUnits = 1) {w : ThresholdWrite} (hw : w ∈ request.writes) :
    ∃ e, (r.apply updates).replica.store.get 0 w.counter = .ok e ∧ e.threshold = w.value := by
  have hunit : (0 : UInt32).toNat < r.store.numUnits := by
    rw [hunits]
    decide
  obtain ⟨pos, hpos⟩ := Counter.exists_position (ThresholdRequest.inBounds_of_valid hvalid hw)
  obtain ⟨before, hbefore⟩ := Store.exists_cell hunit pos
  obtain ⟨e, hcell, hlast⟩ :=
    (follows_apply hunits updates).cell 0 w.counter pos before hpos hbefore
  refine ⟨e, Store.get_eq_ok_iff.2 ⟨pos, hpos, hcell⟩, ?_⟩
  rw [hunits] at hlast
  -- whichever row was the last one to report the counter, it is an echo of this write
  refine hlast.of_reports (P := fun e => e.threshold = w.value) ?_ ?_
  · intro row hrow e' hreports
    obtain ⟨w', hw', hechoes⟩ := h.echoes row hrow
    obtain ⟨_, hsame, hvalue⟩ :=
      hechoes.of_reports (ThresholdRequest.ofRowName_rowName hvalid hw') hreports
    have heq : w' = w :=
      ThresholdRequest.eq_of_kind_eq hw' hw (Counter.kind_eq_of_canonical_eq hsame)
    rw [← heq]
    exact hvalue
  · obtain ⟨row, hrow, hechoes⟩ := h.complete w hw
    exact ⟨row, hrow, hechoes.exists_reports (ThresholdRequest.ofRowName_rowName hvalid hw)
      (by decide) (by decide)⟩

/-- **Other counters.** An update that confirms a request changes no counter but those of
its writes. -/
theorem Confirms.get_eq (h : Confirms request updates)
    (hvalid : request.writes.forM (ThresholdWrite.validate caps) = .ok ())
    (hunits : r.store.numUnits = 1) {unit : UInt32} {c : Counter}
    (hother : unit ≠ 0 ∨ ∀ w ∈ request.writes, c.canonical ≠ w.counter) :
    (r.apply updates).replica.store.get unit c = r.store.get unit c := by
  refine (follows_apply hunits updates).get_eq ?_
  intro row hrow e hreports
  obtain ⟨w, hw, hechoes⟩ := h.echoes row hrow
  obtain ⟨hunit, hsame, _⟩ :=
    hechoes.of_reports (ThresholdRequest.ofRowName_rowName hvalid hw) hreports
  rcases hother with hne | hne
  · exact hne hunit
  · rw [ThresholdRequest.canonical_of_mem hw] at hsame
    exact hne w hw hsame.symm

end Confirms

namespace Backend

variable {σ : Type}

/-- **Thresholds come back.** A valid request names a different row in each of its
transactions, and the name is read back as the counter of the write. Once an update has
confirmed the request, what is read of these counters has the thresholds of the request
and all other counters are as before; and if the place of the request lies within the
dimensions of the ASIC, the thresholds of the unit show its values in their own fields. -/
theorem setThreshold_comes_back (t : Transport σ) (a : Access) (asics : List Asic) (asic : Asic)
    (hasic : findAsic asics 0 = .ok asic) (numPorts : UInt64) (hports : numPorts ≤ 130)
    (hcaps : asic.capabilities = .trident2 numPorts) (request : ThresholdRequest)
    (hvalid : request.writes.forM (ThresholdWrite.validate asic.capabilities) = .ok ())
    (r : Replica) (hunits : r.store.numUnits = 1) (updates : Json)
    (hconfirms : Confirms request updates) :
    let after := (r.apply updates).replica.store
    -- the rows that are named
    (∀ b : Backend (Recorded σ), ∃ ms : List (ConnId × Message),
      ((service t.recorded a asics).setThreshold 0 request b).2.world.written =
        b.world.written ++ lines ms ∧
      ((transactions ms).map assigned? <+:
        request.writes.map fun w => some (w.counter.rowName, .ofWord w.value)) ∧
      (((service t.recorded a asics).setThreshold 0 request b).1 = .ok () →
        (transactions ms).map assigned? =
          request.writes.map fun w => some (w.counter.rowName, .ofWord w.value))) ∧
    (request.writes.map (·.counter.rowName)).Nodup ∧
    (∀ w ∈ request.writes, Counter.ofRowName w.counter.rowName = .ok w.counter) ∧
    -- the counters that are read
    (∀ w ∈ request.writes, ∃ e, after.get 0 w.counter = .ok e ∧ e.threshold = w.value) ∧
    (∀ unit c, unit ≠ 0 ∨ (∀ w ∈ request.writes, c.canonical ≠ w.counter) →
      after.get unit c = r.store.get unit c) ∧
    -- the cells that are shown
    (request.Inside asic.capabilities → ∀ b : Backend σ, b.store = after →
      ∃ shown, (service t a asics).thresholds 0 b = (.ok shown, b) ∧ request.ShownIn shown) := by
  intro after
  have hread : ∀ w ∈ request.writes, ∃ e, after.get 0 w.counter = .ok e ∧ e.threshold = w.value :=
    fun w hw => hconfirms.threshold_eq hvalid hunits hw
  refine ⟨?_, request.nodup_rowNames, ?_, hread, ?_, ?_⟩
  · intro b
    obtain ⟨ms, hwritten, hinit, hall⟩ :=
      sends_setThreshold t.recorded_records a asics 0 request b
    refine ⟨ms, hwritten, ?_, ?_⟩
    · rw [← map_assigned?_thresholdUpdates a]
      exact hinit.map assigned?
    · intro hok
      rw [← map_assigned?_thresholdUpdates a, hall ⟨(), hok⟩]
  · intro w hw
    exact ThresholdRequest.ofRowName_rowName hvalid hw
  · intro unit c hother
    exact hconfirms.get_eq hvalid hunits hother
  · intro hinside b hstore
    have hunit : (0 : UInt32).toNat < b.store.numUnits := by
      rw [hstore, (follows_apply hunits updates).numUnits_eq, hunits]
      decide
    have hfits : Survey.Fits asic.capabilities := hcaps ▸ Survey.fits_trident2 hports
    refine ⟨_, collect_eq hasic hfits b hunit, ?_⟩
    rw [hcaps] at hinside ⊢
    refine ThresholdRequest.shownIn_snapshot hports hinside ?_
    intro w hw
    obtain ⟨e, he, hvalue⟩ := hread w hw
    rw [hstore, valueOf_eq he]
    exact hvalue

/-- A transport that takes every line and brings none. -/
def silent : Transport Unit where
  connect _ _ s := (.ok 0, s)
  send _ _ s := (.ok (), s)
  poll _ s := (.pending, s)
  settle s := s
  patience _ _ := 0

/-- Both thresholds of a service pool of a port are sent, confirmed and shown. -/
theorem setThreshold_comes_back_pool :
    let a : Access :=
      { endpoint := .unix "db.sock", database := "OpenSwitch", replyTimeoutMs := 1000
        maxLine := 4096 }
    let asic : Asic := { unit := 0, asicType := .trident2, capabilities := .trident2 4 }
    let request : ThresholdRequest := .egressPortServicePool 2 1 10 20
    let before : Backend (Recorded Unit) :=
      { store := .initial 1, settingsRow := none, kept := none, world := ⟨(), []⟩ }
    let sent := (service silent.recorded a [asic]).setThreshold 0 request before
    let b : Backend Unit :=
      { store := ((Replica.initial 1).apply (confirmation request)).replica.store
        settingsRow := none, kept := none, world := () }
    findAsic [asic] 0 = .ok asic ∧ (4 : UInt64) ≤ 130 ∧
      request.writes.forM (ThresholdWrite.validate asic.capabilities) = .ok () ∧
      (Replica.initial 1).store.numUnits = 1 ∧ Confirms request (confirmation request) ∧
      request.Inside asic.capabilities ∧
      (sent.1 = .ok () ∧ ∃ ms, sent.2.world.written = lines ms ∧
        (transactions ms).map assigned? =
          [some ("egress-port-service-pool/uc-share-buffer-count/2/1", .int 10),
            some ("egress-port-service-pool/um-share-buffer-count/2/1", .int 20)]) ∧
      ∃ shown, (service silent a [asic]).thresholds 0 b = (.ok shown, b) ∧
        (shown.egressPortSp[1]?).bind (·[1]?) = some { ucShare := 10, umShare := 20 } := by
  intro a asic request before sent b
  have hasic : findAsic [asic] 0 = .ok asic := rfl
  have hports : (4 : UInt64) ≤ 130 := by decide
  have hvalid : request.writes.forM (ThresholdWrite.validate asic.capabilities) = .ok () := by
    decide
  have hunits : (Replica.initial 1).store.numUnits = 1 := rfl
  have hconfirms : Confirms request (confirmation request) := confirms_confirmation request
  have hinside : request.Inside asic.capabilities := by
    show (1 ≤ _ ∧ _) ∧ _
    decide
  obtain ⟨hsends, -, -, -, -, hshows⟩ := setThreshold_comes_back silent a [asic] asic hasic 4 hports
    rfl request hvalid (Replica.initial 1) hunits (confirmation request) hconfirms
  obtain ⟨ms, hwritten, -, hall⟩ := hsends before
  have hsent : sent.1 = .ok () := by rfl
  exact ⟨hasic, hports, hvalid, hunits, hconfirms, hinside, ⟨hsent, ms, hwritten, hall hsent⟩,
    hshows hinside b rfl⟩

end Backend

end Database

end BufferTelemetry
