import BufferTelemetry.Proofs.Commit.Atomicity
import BufferTelemetry.Proofs.Commit.InTurn
import BufferTelemetry.Proofs.Registry.Slots
import BufferTelemetry.Proofs.Survey.Answers
import BufferTelemetry.Proofs.Threshold.RoundTrip

/-!
# Refused threshold requests

A threshold request is refused as a whole, for a unit that is not known or for any one of its
writes (`Refused`), and then nothing at all has been done (`setThreshold_refused`). Otherwise its
writes are committed in turn, and all that can fail is the transport (`setThreshold_admitted`).

The factory maxima of a unit are the bounds of its thresholds: the cells in which they are shown
are about counters that exist, and hold the factory thresholds of these (`maximum_of_cell`). So on
a Trident2, a request for a place that is shown is refused exactly if one of its values does not
lie between one and the value of the field with the same name (`refused_iff_of_compared`).
-/

namespace BufferTelemetry

/-! ## What is refused -/

/-- What is wrong with a write, on an ASIC with the given capabilities. -/
inductive ThresholdWrite.Invalid (caps : Capabilities) (w : ThresholdWrite) : Prop
  | value (h : w.value = 0 ∨ w.counter.kind.factoryThreshold < w.value)
  | port (hdouble : w.counter.kind.indexing.isDouble = true)
      (h : w.counter.port = 0 ∨ caps.numPorts < w.counter.port.toUInt64)
  | position {e : Error} (h : w.counter.offset = .error e)

/-- A write passes the check, or something is wrong with it, and then it is an invalid
parameter. -/
theorem ThresholdWrite.validate_cases (caps : Capabilities) (w : ThresholdWrite) :
    (w.validate caps = .ok () ∧ ¬ w.Invalid caps) ∨
      (w.Invalid caps ∧ ∃ message, w.validate caps = .error (.invalidParameter message)) := by
  unfold validate
  by_cases hvalue : w.value = 0 ∨ w.counter.kind.factoryThreshold < w.value
  · exact .inr ⟨.value hvalue, _, if_pos hvalue⟩
  by_cases hport : w.counter.kind.indexing.isDouble = true ∧
      (w.counter.port = 0 ∨ caps.numPorts < w.counter.port.toUInt64)
  · refine .inr ⟨.port hport.1 hport.2, ?_⟩
    dsimp only
    rw [if_neg hvalue, if_pos hport]
    exact ⟨_, rfl⟩
  dsimp only
  rw [if_neg hvalue, if_neg hport]
  cases hoffset : w.counter.offset with
  | error e => exact .inr ⟨.position hoffset, _, rfl⟩
  | ok i =>
    refine .inl ⟨rfl, ?_⟩
    rintro (h | ⟨hdouble, h⟩ | h)
    · exact hvalue h
    · exact hport ⟨hdouble, h⟩
    · rw [hoffset] at h
      cases h

/-- All writes of a request pass the check, or something is wrong with one of them, and then the
request is an invalid parameter. -/
theorem ThresholdRequest.validate_cases (caps : Capabilities) (request : ThresholdRequest) :
    (request.writes.forM (ThresholdWrite.validate caps) = .ok () ∧
      ∀ w ∈ request.writes, ¬ w.Invalid caps) ∨
    ((∃ w ∈ request.writes, w.Invalid caps) ∧ ∃ message,
      request.writes.forM (ThresholdWrite.validate caps) = .error (.invalidParameter message)) := by
  rcases Registry.forM_cases (ThresholdWrite.validate caps) request.writes with
    ⟨hok, hall⟩ | ⟨w, hw, e, hfails, herror⟩
  · refine .inl ⟨hok, ?_⟩
    intro w hw hinvalid
    rcases w.validate_cases caps with ⟨-, hvalid⟩ | ⟨-, message, hmessage⟩
    · exact hvalid hinvalid
    · rw [hall w hw] at hmessage
      cases hmessage
  · rcases w.validate_cases caps with ⟨hpasses, -⟩ | ⟨hinvalid, message, hmessage⟩
    · rw [hfails] at hpasses
      cases hpasses
    · rw [hfails] at hmessage
      cases hmessage
      exact .inr ⟨⟨w, hw, hinvalid⟩, message, herror⟩

namespace Database

open Rpc

/-- Why a request is refused: the unit is not known, or something is wrong with a write. -/
def Refused (asics : List Asic) (unit : UInt32) (request : ThresholdRequest) : Prop :=
  (¬ ∃ asic ∈ asics, asic.unit = unit) ∨
    ∃ asic, findAsic asics unit = .ok asic ∧
      ∃ w ∈ request.writes, w.Invalid asic.capabilities

section Refusing

variable {σ : Type} {a : Access} {asics : List Asic} {unit : UInt32} {request : ThresholdRequest}

theorem refused_iff {asic : Asic} (hasic : findAsic asics unit = .ok asic) :
    Refused asics unit request ↔ ∃ w ∈ request.writes, w.Invalid asic.capabilities := by
  constructor
  · rintro (hunknown | ⟨asic', hasic', h⟩)
    · exact absurd (Backend.exists_findAsic_iff.1 ⟨asic, hasic⟩) hunknown
    · rw [hasic] at hasic'
      cases hasic'
      exact h
  · intro h
    exact .inr ⟨asic, hasic, h⟩

/-- A request for a unit that is known is checked, and then its writes are committed in turn. -/
theorem setThreshold_apply (t : Transport σ) {asic : Asic} (hasic : findAsic asics unit = .ok asic)
    (b : Backend σ) : Backend.setThreshold t a asics unit request b =
      match request.writes.forM (ThresholdWrite.validate asic.capabilities) with
      | .ok _ => Backend.inOutlet
        (request.writes.forM fun w => a.commitThreshold t w.counter w.value) b
      | .error e => (.error e, b) := by
  have hcaps := Backend.capabilities_eq asics unit b
  rw [hasic] at hcaps
  unfold Backend.setThreshold
  rw [Action.bind_ok hcaps, Action.bind_apply, Action.ofExcept_apply]
  cases request.writes.forM (ThresholdWrite.validate asic.capabilities) <;> rfl

/-- A request that is refused is an invalid parameter, and nothing has been done. -/
theorem setThreshold_refused (t : Transport σ) (h : Refused asics unit request)
    (b : Backend σ) : ∃ message,
      Backend.setThreshold t a asics unit request b = (.error (.invalidParameter message), b) := by
  rcases h with hunknown | ⟨asic, hasic, w, hw, hinvalid⟩
  · have hcaps := Backend.capabilities_eq asics unit b
    unfold findAsic at hcaps
    cases hfind : asics.find? (·.unit = unit) with
    | none =>
      rw [hfind] at hcaps
      exact ⟨_, Action.bind_error hcaps _⟩
    | some asic =>
      have hasic : findAsic asics unit = .ok asic := by rw [findAsic, hfind]
      exact absurd (Backend.exists_findAsic_iff.1 ⟨asic, hasic⟩) hunknown
  · rcases request.validate_cases asic.capabilities with ⟨-, hvalid⟩ | ⟨-, message, herror⟩
    · exact absurd hinvalid (hvalid w hw)
    · exact ⟨message, by rw [setThreshold_apply t hasic, herror]⟩

/-- The writes of a request that is not refused are committed in turn. -/
theorem setThreshold_admitted (t : Transport σ) (h : ¬ Refused asics unit request)
    (b : Backend σ) : Backend.setThreshold t a asics unit request b =
      Backend.inOutlet (request.writes.forM fun w => a.commitThreshold t w.counter w.value) b := by
  obtain ⟨hknown, -⟩ := not_or.1 h
  obtain ⟨asic, hasic⟩ := Backend.exists_findAsic_iff.2 (not_not.1 hknown)
  rcases request.validate_cases asic.capabilities with ⟨hok, -⟩ | ⟨hinvalid, -⟩
  · rw [setThreshold_apply t hasic, hok]
  · exact absurd ((refused_iff hasic).2 hinvalid) h

/-- A request is an invalid parameter exactly when it is refused: what is admitted can only fail
as the transport does. -/
theorem setThreshold_invalid_iff (t : Transport σ) (b : Backend σ) :
    (∃ message, (Backend.setThreshold t a asics unit request b).1 =
      .error (.invalidParameter message)) ↔ Refused asics unit request := by
  constructor
  · rintro ⟨message, herror⟩
    by_contra hadmitted
    rw [setThreshold_admitted t hadmitted] at herror
    have hfails : (request.writes.forM fun w =>
        a.commitThreshold t w.counter w.value).FailsAsTransport :=
      .forM (fun w : ThresholdWrite =>
        Access.failsAsTransport_commitThreshold t a w.counter w.value) _
    obtain ⟨reason, hreason⟩ := Action.FailsAsTransport.within hfails b _ herror
    cases hreason
  · intro h
    obtain ⟨message, hran⟩ := setThreshold_refused (a := a) t h b
    exact ⟨message, by rw [hran]⟩

/-- What a request that is not refused does at the transport, and how it can fail. -/
theorem contacts_setThreshold (t : Transport σ) (h : ¬ Refused asics unit request)
    (b : Backend (Logged σ)) :
    let ran := Backend.setThreshold t.logged a asics unit request b
    ∃ cs, ran.2.world.log = b.world.log ++ cs.map Contact.line ∧
      GoInTurn a.database request.writes ran.1 cs := by
  intro ran
  have hran : ran = _ := setThreshold_admitted t.logged h b
  rw [hran]
  exact Access.contacts_forM t.logged_logs request.writes { kept := b.kept, world := b.world }

end Refusing

end Database

/-! ## The factory maxima as bounds -/

section Maxima

open Survey

variable {α : Type} {caps : Capabilities} {kind : CounterKind} {s : Snapshot}

/-- The cell of a grid for a port, counted from one, and an index. -/
def Snapshot.portCell? (cells : List (List α)) (port index : UInt32) : Option α :=
  if port = 0 then none else (cells[port.toNat - 1]?).bind (·[index.toNat]?)

/-- The values of a request, each with the one in the field of the same name, in the cell that is
shown at the place of the request. -/
def ThresholdRequest.compared? (s : Snapshot) : ThresholdRequest → Option (List (UInt64 × UInt64))
  | .device threshold => some [(threshold, s.device)]
  | .ingressPortPriorityGroup port pg umShare umHeadroom =>
    (Snapshot.portCell? s.ingressPortPg port pg).map fun cell =>
      [(umShare, cell.umShare), (umHeadroom, cell.umHeadroom)]
  | .ingressPortServicePool port sp umShare =>
    (Snapshot.portCell? s.ingressPortSp port sp).map fun cell => [(umShare, cell)]
  | .ingressServicePool sp umShare => s.ingressSp[sp.toNat]?.map fun cell => [(umShare, cell)]
  | .egressPortServicePool port sp ucShare umShare =>
    (Snapshot.portCell? s.egressPortSp port sp).map fun cell =>
      [(ucShare, cell.ucShare), (umShare, cell.umShare)]
  | .egressServicePool sp umShare mcShare =>
    s.egressSp[sp.toNat]?.map fun cell => [(umShare, cell.umShare), (mcShare, cell.mcShare)]
  | .egressUcQueue queue ucBuffer =>
    s.egressUcQueue[queue.toNat]?.map fun cell => [(ucBuffer, cell.bufferCount)]
  | .egressUcQueueGroup group ucBuffer =>
    s.egressUcQueueGroup[group.toNat]?.map fun cell => [(ucBuffer, cell.bufferCount)]
  | .egressMcQueue queue mcBuffer =>
    s.egressMcQueue[queue.toNat]?.map fun cell => [(mcBuffer, cell.bufferCount)]
  | .egressCpuQueue queue cpuBuffer =>
    s.egressCpuQueue[queue.toNat]?.map fun cell => [(cpuBuffer, cell.bufferCount)]
  | .egressRqeQueue queue rqeBuffer =>
    s.egressRqeQueue[queue.toNat]?.map fun cell => [(rqeBuffer, cell.bufferCount)]

/-- The factory threshold of a counter, read as its value. -/
def maximum (c : Counter) : Except Error UInt64 := .ok c.kind.factoryThreshold

/-- A cell shows the greatest threshold of a counter that a survey visits. -/
structure ShowsMaximum (caps : Capabilities) (c : Counter) (value : UInt64) : Prop where
  visited : Visited caps c
  value_eq : value = c.kind.factoryThreshold

theorem maximum_of_cell {cell? : Nat → Nat → Option UInt64} (h : Shows caps maximum kind cell?)
    {row column : Nat} {v : UInt64} (hcell : cell? row column = some v) :
    ShowsMaximum caps (address kind row column) v := by
  obtain ⟨hrow, hcolumn⟩ := (h.exists_iff row column).1 ⟨v, hcell⟩
  exact ⟨visited_address hrow hcolumn, (Except.ok.inj (h.value row column v hcell)).symm⟩

theorem maximum_of_rowCell {cells : List α} (field : α → UInt64) {i : UInt32} {cell : α}
    (h : Shows caps maximum kind (Snapshot.rowCell? cells field))
    (hkind : kind.indexing.isDouble = false) (hcell : cells[i.toNat]? = some cell) :
    ShowsMaximum caps ⟨kind, 0, i⟩ (field cell) := by
  have hshown : Snapshot.rowCell? cells field 0 i.toNat = some (field cell) := by
    rw [Snapshot.rowCell?, if_pos rfl, hcell]
    rfl
  have hmaximum := maximum_of_cell h hshown
  rwa [address, hkind, UInt32.ofNat_toNat] at hmaximum

theorem maximum_of_portCell {cells : List (List α)} (field : α → UInt64) {port i : UInt32}
    {cell : α} (h : Shows caps maximum kind (Snapshot.gridCell? cells field))
    (hkind : kind.indexing.isDouble = true)
    (hcell : Snapshot.portCell? cells port i = some cell) :
    ShowsMaximum caps ⟨kind, port, i⟩ (field cell) := by
  unfold Snapshot.portCell? at hcell
  by_cases hzero : port = 0
  · rw [if_pos hzero] at hcell
    cases hcell
  · rw [if_neg hzero] at hcell
    have hshown : Snapshot.gridCell? cells field (port.toNat - 1) i.toNat = some (field cell) := by
      rw [Snapshot.gridCell?, hcell]
      rfl
    have hport : port.toNat - 1 + 1 = port.toNat := by
      have hne : port.toNat ≠ 0 := fun h => hzero (UInt32.toNat_inj.1 h)
      omega
    have hmaximum := maximum_of_cell h hshown
    rwa [address, hkind, if_pos rfl, hport, UInt32.ofNat_toNat, UInt32.ofNat_toNat] at hmaximum

/-- The values of a request are compared with the maxima of the counters that its writes are
about. -/
theorem compared_maxima (h : ∀ kind, Shows caps maximum kind (s.cell? kind))
    {request : ThresholdRequest} {pairs : List (UInt64 × UInt64)}
    (hpairs : request.compared? s = some pairs) :
    List.Forall₂ (fun w p => w.value = p.1 ∧ ShowsMaximum caps w.counter p.2)
      request.writes pairs := by
  cases request with
  | device threshold =>
    cases hpairs
    have hcell : s.cell? .device 0 0 = some s.device := rfl
    exact .cons ⟨rfl, maximum_of_cell (h .device) hcell⟩ .nil
  | ingressPortPriorityGroup port pg umShare umHeadroom =>
    obtain ⟨cell, hcell, rfl⟩ := Option.map_eq_some_iff.1 hpairs
    exact .cons ⟨rfl, maximum_of_portCell (·.umShare) (h .priGroupShared) rfl hcell⟩
      (.cons ⟨rfl, maximum_of_portCell (·.umHeadroom) (h .priGroupHeadroom) rfl hcell⟩ .nil)
  | ingressPortServicePool port sp umShare =>
    obtain ⟨cell, hcell, rfl⟩ := Option.map_eq_some_iff.1 hpairs
    exact .cons ⟨rfl, maximum_of_portCell id (h .portPool) rfl hcell⟩ .nil
  | ingressServicePool sp umShare =>
    obtain ⟨cell, hcell, rfl⟩ := Option.map_eq_some_iff.1 hpairs
    exact .cons ⟨rfl, maximum_of_rowCell id (h .ingressPool) rfl hcell⟩ .nil
  | egressPortServicePool port sp ucShare umShare =>
    obtain ⟨cell, hcell, rfl⟩ := Option.map_eq_some_iff.1 hpairs
    exact .cons ⟨rfl, maximum_of_portCell (·.ucShare) (h .egressUcastPortShared) rfl hcell⟩
      (.cons ⟨rfl, maximum_of_portCell (·.umShare) (h .egressPortShared) rfl hcell⟩ .nil)
  | egressServicePool sp umShare mcShare =>
    obtain ⟨cell, hcell, rfl⟩ := Option.map_eq_some_iff.1 hpairs
    exact .cons ⟨rfl, maximum_of_rowCell (·.umShare) (h .egressPool) rfl hcell⟩
      (.cons ⟨rfl, maximum_of_rowCell (·.mcShare) (h .egressMcastPool) rfl hcell⟩ .nil)
  | egressUcQueue queue ucBuffer =>
    obtain ⟨cell, hcell, rfl⟩ := Option.map_eq_some_iff.1 hpairs
    exact .cons ⟨rfl, maximum_of_rowCell (·.bufferCount) (h .ucast) rfl hcell⟩ .nil
  | egressUcQueueGroup group ucBuffer =>
    obtain ⟨cell, hcell, rfl⟩ := Option.map_eq_some_iff.1 hpairs
    exact .cons ⟨rfl, maximum_of_rowCell (·.bufferCount) (h .ucastGroup) rfl hcell⟩ .nil
  | egressMcQueue queue mcBuffer =>
    obtain ⟨cell, hcell, rfl⟩ := Option.map_eq_some_iff.1 hpairs
    exact .cons ⟨rfl, maximum_of_rowCell (·.bufferCount) (h .mcast) rfl hcell⟩ .nil
  | egressCpuQueue queue cpuBuffer =>
    obtain ⟨cell, hcell, rfl⟩ := Option.map_eq_some_iff.1 hpairs
    exact .cons ⟨rfl, maximum_of_rowCell (·.bufferCount) (h .cpuQueue) rfl hcell⟩ .nil
  | egressRqeQueue queue rqeBuffer =>
    obtain ⟨cell, hcell, rfl⟩ := Option.map_eq_some_iff.1 hpairs
    exact .cons ⟨rfl, maximum_of_rowCell (·.bufferCount) (h .rqeQueue) rfl hcell⟩ .nil

/-- Of a write that is about a counter which is shown, only the value can be wrong. -/
theorem invalid_iff_of_maximum (hfits : Fits caps)
    (hports : caps.numPorts.toNat < UInt32.size) {w : ThresholdWrite} {p : UInt64 × UInt64}
    (hvalue : w.value = p.1) (h : ShowsMaximum caps w.counter p.2) :
    w.Invalid caps ↔ ¬ (1 ≤ p.1 ∧ p.1 ≤ p.2) := by
  have hbounds : (w.value = 0 ∨ w.counter.kind.factoryThreshold < w.value) ↔
      ¬ (1 ≤ p.1 ∧ p.1 ≤ p.2) := by
    rw [hvalue, h.value_eq]
    grind
  rw [← hbounds]
  refine ⟨?_, .value⟩
  rintro (hwrong | ⟨hdouble, hwrong⟩ | hwrong)
  · exact hwrong
  · -- the port is one of those that are shown
    obtain ⟨hle, hlt⟩ := h.visited.port_le hdouble
    rw [count_eq hports] at hlt
    rcases hwrong with hzero | hlarge
    · rw [hzero] at hle
      cases hle
    · have hlarge' := UInt64.lt_iff_toNat_lt.1 hlarge
      rw [UInt32.toNat_toUInt64] at hlarge'
      omega
  · obtain ⟨i, hi⟩ := Counter.exists_offset_iff.2 (hfits.inBounds h.visited)
    rw [hi] at hwrong
    cases hwrong

theorem exists_mem_iff_of_forall₂ {β : Type} {P : α → Prop} {Q : β → Prop} {l : List α}
    {l' : List β} (h : List.Forall₂ (fun x y => P x ↔ Q y) l l') :
    (∃ x ∈ l, P x) ↔ ∃ y ∈ l', Q y := by
  induction h with
  | nil => simp
  | cons hxy _ ih => rw [List.exists_mem_cons_iff, List.exists_mem_cons_iff, hxy, ih]

/-- **Maxima as bounds.** Where the factory maxima of a Trident2 are shown, a request is refused
exactly if one of its values does not lie between one and the maximum. -/
theorem refused_iff_of_compared {asics : List Asic} {unit : UInt32} {asic : Asic}
    (hasic : Database.findAsic asics unit = .ok asic) {numPorts : UInt64}
    (hcaps : asic.capabilities = .trident2 numPorts) (hports : numPorts ≤ 130) :
    ∃ shown, Database.SwitchSystem.maxBuffers asics unit = .ok shown ∧
      ∀ request pairs, request.compared? shown = some pairs →
        (Database.Refused asics unit request ↔ ∃ p ∈ pairs, ¬ (1 ≤ p.1 ∧ p.1 ≤ p.2)) := by
  have hshown : snapshot asic.capabilities maximum =
      .ok (snapshot (m := Id) asic.capabilities fun c => c.kind.factoryThreshold).run :=
    snapshot_eq_pure (m := Except Error) fun _ _ => rfl
  refine ⟨_, by rw [Database.SwitchSystem.maxBuffers, hasic]; exact hshown, ?_⟩
  intro request pairs hpairs
  have hfits : Fits asic.capabilities := hcaps ▸ fits_trident2 hports
  have hsmall : asic.capabilities.numPorts.toNat < UInt32.size := by
    rw [hcaps]
    exact Nat.lt_of_le_of_lt (UInt64.le_iff_toNat_le.1 hports) (by decide)
  rw [Database.refused_iff hasic]
  have hmaxima := compared_maxima (shows_of_realms (realm_of_snapshot hshown)) hpairs
  exact exists_mem_iff_of_forall₂ (hmaxima.imp fun w p h =>
    invalid_iff_of_maximum hfits hsmall h.1 h.2)

end Maxima

namespace Database.Backend

open Rpc

/-- **All or nothing.** A threshold request is an invalid parameter exactly when it is refused: for
a unit that is not known, or for any of its writes that has a value beyond the factory threshold,
a port that the ASIC does not have or a place where there is no counter. Then everything is as
before, the world included. A request that is not refused is committed in turn. Its writes are
sent in their order, one transaction for each, up to the first commit that the transport fails;
that a connection which was kept has failed is no failure of a commit, since this is then made
again on a fresh one. On a Trident2 with no more ports than there can be, the requests for the
places at which the factory maxima are shown are refused exactly if a value does not lie between
one and the maximum in the field of the same name. -/
theorem setThreshold_all_or_nothing {σ : Type} (t : Transport σ) (a : Access) (asics : List Asic)
    (unit : UInt32) (request : ThresholdRequest) :
    -- refused as a whole
    (∀ b : Backend σ,
      let ran := setThreshold t a asics unit request b
      ((∃ message, ran.1 = .error (.invalidParameter message)) ↔ Refused asics unit request) ∧
        (Refused asics unit request → ran.2 = b)) ∧
    -- committed in turn
    (¬ Refused asics unit request → ∀ b : Backend (Logged σ),
      let ran := setThreshold t.logged a asics unit request b
      ∃ cs, ran.2.world.log = b.world.log ++ cs.map Contact.line ∧
        GoInTurn a.database request.writes ran.1 cs) ∧
    -- the factory maxima
    ∀ asic numPorts, findAsic asics unit = .ok asic → asic.capabilities = .trident2 numPorts →
      numPorts ≤ 130 → ∃ shown, SwitchSystem.maxBuffers asics unit = .ok shown ∧
        ∀ pairs, request.compared? shown = some pairs →
          (Refused asics unit request ↔ ∃ p ∈ pairs, ¬ (1 ≤ p.1 ∧ p.1 ≤ p.2)) := by
  refine ⟨?_, fun h b => contacts_setThreshold t h b, ?_⟩
  · intro b ran
    refine ⟨setThreshold_invalid_iff t b, ?_⟩
    intro h
    obtain ⟨message, hran⟩ := setThreshold_refused (a := a) t h b
    exact congrArg Prod.snd hran
  · intro asic numPorts hasic hcaps hports
    obtain ⟨shown, hshown, hrefused⟩ := refused_iff_of_compared hasic hcaps hports
    exact ⟨shown, hshown, hrefused request⟩

/-- A priority group has two thresholds. A request that exceeds only the second is refused, though
the first could be committed. -/
theorem setThreshold_all_or_nothing_headroom :
    let a : Access :=
      { endpoint := .unix "db.sock", database := "OpenSwitch", replyTimeoutMs := 1000
        maxLine := 4096 }
    let asic : Asic := { unit := 0, asicType := .trident2, capabilities := .trident2 4 }
    let b : Backend Unit :=
      { store := .initial 1, settingsRow := none, kept := none, world := () }
    let ran := setThreshold silent a [asic] 0 (.ingressPortPriorityGroup 2 1 851760 851761) b
    (∃ message, ran.1 = .error (.invalidParameter message)) ∧ ran.2 = b ∧
      ¬ ThresholdWrite.Invalid asic.capabilities ⟨⟨.priGroupShared, 2, 1⟩, 851760⟩ := by
  intro a asic b ran
  have hexceeds : ThresholdWrite.Invalid asic.capabilities ⟨⟨.priGroupHeadroom, 2, 1⟩, 851761⟩ :=
    .value (.inr (by decide))
  have hrefused : Refused [asic] 0 (.ingressPortPriorityGroup 2 1 851760 851761) :=
    .inr ⟨asic, rfl, _, List.mem_cons_of_mem _ List.mem_cons_self, hexceeds⟩
  obtain ⟨hiff, hunchanged⟩ := (setThreshold_all_or_nothing silent a [asic] 0
    (.ingressPortPriorityGroup 2 1 851760 851761)).1 b
  refine ⟨hiff.2 hrefused, hunchanged hrefused, ?_⟩
  rcases ThresholdWrite.validate_cases asic.capabilities
    ⟨⟨.priGroupShared, 2, 1⟩, 851760⟩ with ⟨-, hvalid⟩ | ⟨-, message, hmessage⟩
  · exact hvalid
  · cases hmessage

end Database.Backend

end BufferTelemetry
