import BufferTelemetry.Proofs.Commit.Addressing
import BufferTelemetry.Proofs.Feed.Batches
import BufferTelemetry.Proofs.Startup.PortCount
import BufferTelemetry.Proofs.Store.Memory
import BufferTelemetry.Proofs.Survey.Shapes
import BufferTelemetry.Proofs.Threshold.Clearing

/-!
# A started plugin serves its unit

A plugin is started with a port count that is supported, whether it is configured or told by the
switch, and with a store of one unit. Nothing that happens to the agent afterwards changes the
number of units (`Agent.Running.numUnits_eq`), so whatever has happened, the statistics, the
thresholds and the factory maxima of unit 0 can be shown, in the shape of its capabilities
(`started_serves_unit`).
-/

namespace BufferTelemetry

open Rpc

/-- A request to a service that tracks statistics. -/
inductive BstRequest where
  | setSettings (unit : UInt32) (settings : Settings)
  | settings (unit : UInt32)
  | snapshot (unit : UInt32)
  | realmData (unit : UInt32) (realm : Realm)
  | setThreshold (unit : UInt32) (request : ThresholdRequest)
  | thresholds (unit : UInt32)
  | clearStats (unit : UInt32)
  | clearThresholds (unit : UInt32)
  | subscribe (unit : UInt32)

/-- Serves a request, whatever the answer. -/
def BstRequest.perform {ω : Type} (b : BstService ω) : BstRequest → Action ω Unit
  | .setSettings unit new => b.setSettings unit new
  | .settings unit => do let _ ← b.settings unit
  | .snapshot unit => do let _ ← b.snapshot unit
  | .realmData unit realm => do let _ ← b.realmData unit realm
  | .setThreshold unit request => b.setThreshold unit request
  | .thresholds unit => do let _ ← b.thresholds unit
  | .clearStats unit => b.clearStats unit
  | .clearThresholds unit => b.clearThresholds unit
  | .subscribe unit => b.subscribe unit

namespace Database

variable {σ : Type} {t : Transport σ}

/-! ## The number of units -/

namespace Feed

theorem numUnits_absorb (updates : List Json) {x : Replica × List Event}
    (hsize : x.1.store.numUnits < UInt32.size) :
    (absorb updates x).1.store.numUnits = x.1.store.numUnits := by
  induction updates generalizing x with
  | nil => rfl
  | cons u rest ih =>
    have hfirst : (absorbOne x u).1.store.numUnits = x.1.store.numUnits := numUnits_apply hsize
    rw [absorb_cons, ih (hfirst.symm ▸ hsize), hfirst]

theorem numUnits_onMessage (c : Client) (id : Nat) (m : Message) {w : FeedWorld σ}
    (hsize : w.replica.store.numUnits < UInt32.size) :
    (onMessage c id m w).2.replica.store.numUnits = w.replica.store.numUnits := by
  unfold onMessage dispatch
  rcases delivery id m with e | (_ | updates)
  · rfl
  · rfl
  · exact numUnits_apply hsize

/-- A step of the feed keeps the number of units. -/
theorem numUnits_step (f : Feed) {w : FeedWorld σ}
    (hsize : w.replica.store.numUnits < UInt32.size) :
    (step t f w).2.replica.store.numUnits = w.replica.store.numUnits := by
  cases f with
  | stopped result => rfl
  | waiting c id =>
    obtain ⟨l, s, hlook⟩ := Client.exists_run_look t c w.world
    rcases l with e | (m | _ | _ | _)
    · rw [step_waiting_failed hlook rfl]
      rfl
    · rw [step_waiting_message hlook]
      exact numUnits_onMessage c id m hsize
    · rw [step_waiting_handled hlook]
      rfl
    · rw [step_waiting_failed hlook rfl]
      rfl
    · rw [step_waiting_nothing hlook]
      rfl
  | taking c id taken =>
    obtain ⟨l, s, hlook⟩ := Client.exists_run_look t c w.world
    rcases l with e | (m | _ | _ | _)
    · rw [step_taking_failed hlook rfl]
      rfl
    · rw [step_taking_message hlook]
      rfl
    · rw [step_taking_handled hlook]
      rfl
    · rw [step_taking_failed hlook rfl]
      rfl
    · rw [step_taking_nothing hlook, dispatchAll_eq]
      exact numUnits_absorb _ hsize

theorem numUnits_run (n : Nat) (f : Feed) {w : FeedWorld σ}
    (hsize : w.replica.store.numUnits < UInt32.size) :
    (run t n f w).2.replica.store.numUnits = w.replica.store.numUnits := by
  induction n generalizing f w with
  | zero => rfl
  | succ n ih =>
    have hstep := numUnits_step (t := t) f hsize
    rw [run_succ, ih _ (hstep.symm ▸ hsize), hstep]

end Feed

theorem Agent.numUnits_catchUp (a : Agent σ) (s : σ)
    (hsize : a.replica.store.numUnits < UInt32.size) :
    (a.catchUp t s).1.replica.store.numUnits = a.replica.store.numUnits := by
  unfold Agent.catchUp
  cases a.feed with
  | none => rfl
  | some f => exact Feed.numUnits_run _ f hsize

/-- The action keeps the number of units, whether it succeeds or fails. -/
def KeepsUnits {α : Type} (f : Action (Backend σ) α) : Prop :=
  ∀ b, (f b).2.store.numUnits = b.store.numUnits

section Keeping

variable {α β : Type} {f : Action (Backend σ) α} {g : α → Action (Backend σ) β}

theorem KeepsUnits.bind (hf : KeepsUnits f) (hg : ∀ x, KeepsUnits (g x)) :
    KeepsUnits (f >>= g) := by
  intro b
  have hfirst := hf b
  rw [Action.bind_apply]
  rcases hb : f b with ⟨_ | x, b'⟩
  all_goals rw [hb] at hfirst
  · exact hfirst
  · exact (hg x b').trans hfirst

theorem KeepsUnits.of_eq (h : ∀ b, (f b).2 = b) : KeepsUnits f :=
  fun b => congrArg (fun b => b.store.numUnits) (h b)

theorem KeepsUnits.ignored (h : KeepsUnits f) : KeepsUnits (do let _ ← f) :=
  h.bind fun _ => .of_eq fun _ => rfl

theorem keepsUnits_inWorld (f : Action σ α) : KeepsUnits (Backend.inWorld f) := fun _ => rfl

theorem keepsUnits_inOutlet (f : Action (Outlet σ) α) : KeepsUnits (Backend.inOutlet f) :=
  fun _ => rfl

theorem keepsUnits_ofExcept (x : Except Error α) : KeepsUnits (σ := σ) (Action.ofExcept x) :=
  .of_eq fun b => by rw [Action.ofExcept_apply]

theorem keepsUnits_capabilities (asics : List Asic) (unit : UInt32) :
    KeepsUnits (σ := σ) (Backend.capabilities asics unit) :=
  .of_eq fun b => by rw [Backend.capabilities_eq]

theorem keepsUnits_collect (asics : List Asic) (unit : UInt32) (pick : Entry → UInt64) :
    KeepsUnits (σ := σ) (Backend.collect asics unit pick) :=
  .of_eq fun b => by rw [Backend.collect_apply]

theorem keepsUnits_collectRealm (asics : List Asic) (unit : UInt32) (r : Realm)
    (pick : Entry → UInt64) : KeepsUnits (σ := σ) (Backend.collectRealm asics unit r pick) :=
  .of_eq fun b => by rw [Backend.collectRealm_apply]

end Keeping

/-- The service that tracks statistics keeps the number of units. -/
theorem keepsUnits_service (t : Transport σ) (a : Access) (asics : List Asic)
    (request : BstRequest) : KeepsUnits (request.perform (Backend.service t a asics)) := by
  have hcaps := keepsUnits_capabilities (σ := σ) asics
  cases request with
  | setSettings unit new => exact fun b => (Backend.setSettings_keeps b).2
  | settings unit =>
    exact .ignored (.bind (.of_eq fun _ => rfl) fun b => keepsUnits_ofExcept _)
  | snapshot unit => exact (keepsUnits_collect asics unit _).ignored
  | realmData unit r => exact (keepsUnits_collectRealm asics unit r _).ignored
  | setThreshold unit request =>
    exact .bind (hcaps unit) fun _ => .bind (keepsUnits_ofExcept _) fun _ => keepsUnits_inOutlet _
  | thresholds unit => exact (keepsUnits_collect asics unit _).ignored
  | clearStats unit => exact .bind (hcaps unit) fun _ => keepsUnits_inWorld _
  | clearThresholds unit => exact .bind (hcaps unit) fun _ => keepsUnits_inWorld _
  | subscribe unit => exact (hcaps unit).ignored

/-! ## Running agents -/

/-- What becomes of an agent while it runs: its feed takes in what has arrived, its service
serves requests, and its store is used, in whatever order, while the world changes at will. -/
inductive Agent.Running (t : Transport σ) (service : BstService (Backend σ)) (start : Agent σ) :
    Agent σ → Prop
  | started : Running t service start start
  | catchUp {a : Agent σ} (h : Running t service start a) (s : σ) :
      Running t service start (a.catchUp t s).1
  | serve {a : Agent σ} (h : Running t service start a) (request : BstRequest) (s : σ) :
      Running t service start (Agent.serve (request.perform service) (a, s)).2.1
  | store {a : Agent σ} (h : Running t service start a) {α : Type} (call : Store.Call α) :
      Running t service start (a.withStore call.perform).2
  | takeEvents {a : Agent σ} (h : Running t service start a) :
      Running t service start a.takeEvents.2
  | cancel {a : Agent σ} (h : Running t service start a) : Running t service start a.cancel

/-- **Running.** Nothing that becomes of an agent changes the number of its units. -/
theorem Agent.Running.numUnits_eq {access : Access} {asics : List Asic} {start a : Agent σ}
    (hsize : start.replica.store.numUnits < UInt32.size)
    (h : Running t (Backend.service t access asics) start a) :
    a.replica.store.numUnits = start.replica.store.numUnits := by
  induction h with
  | started => rfl
  | catchUp _ s ih => exact (Agent.numUnits_catchUp _ s (ih.symm ▸ hsize)).trans ih
  | serve _ request s ih => exact (keepsUnits_service t access asics request _).trans ih
  | store _ call ih => exact (Store.Call.numUnits_perform call _).trans ih
  | takeEvents _ ih => exact ih
  | cancel _ ih => exact ih

/-! ## What is served -/

/-- The statistics, the thresholds and the factory maxima of a unit can be shown, and every realm
of the statistics by itself, in the given shape. -/
structure Serves {ω : Type} (bst : BstService ω) (system : SystemService) (w : ω) (unit : UInt32)
    (shape : Snapshot) : Prop where
  snapshot : ∃ s, bst.snapshot unit w = (.ok s, w) ∧ s.SameShape shape
  realmData : ∀ r, ∃ d, bst.realmData unit r w = (.ok d, w) ∧ d.SameShape (shape.realm r)
  thresholds : ∃ s, bst.thresholds unit w = (.ok s, w) ∧ s.SameShape shape
  maxBuffers : ∃ s, system.maxBuffers unit = .ok s ∧ s.SameShape shape

/-- The data of a realm of a unit are what is read of its counters. -/
theorem Backend.collectRealm_eq {asics : List Asic} {unit : UInt32} {pick : Entry → UInt64}
    {asic : Asic} (hasic : findAsic asics unit = .ok asic)
    (hfits : Survey.Fits asic.capabilities) (b : Backend σ) (hu : unit.toNat < b.store.numUnits)
    (r : Realm) :
    collectRealm asics unit r pick b =
      (.ok (Survey.realm (m := Id) asic.capabilities (valueOf b.store unit pick) r).run, b) := by
  refine Prod.ext ?_ (by rw [collectRealm_apply])
  rw [collectRealm_of_collect (congrArg Prod.fst (collect_eq hasic hfits b hu)),
    Survey.realm_snapshot]

/-- **One unit.** Whatever is in its store, a switch serves unit 0. -/
theorem serves_unit (t : Transport σ) (a : Access) (interfaces : Interfaces) (interface : String)
    (ty : AsicType) {numPorts : UInt64} (hports : numPorts.toNat ≤ maxPorts) (b : Backend σ)
    (hunit : 0 < b.store.numUnits) :
    Serves (Backend.service t a (SwitchSystem.asics ty numPorts))
      (SwitchSystem.service interfaces interface ty numPorts) b 0
      (.zeroed (.trident2 numPorts)) := by
  have hasic := Backend.findAsic_asics ty numPorts
  have hfits := Survey.fits_trident2 (UInt64.le_iff_toNat_le.2 hports)
  have hcountable : Survey.Countable (.trident2 numPorts) :=
    Survey.countable_trident2 (Nat.lt_of_le_of_lt hports (by decide))
  have hshape := Survey.sameShape_snapshot hcountable
  exact {
    snapshot := ⟨_, Backend.collect_eq hasic hfits b hunit, hshape _⟩
    realmData := fun r =>
      ⟨_, Backend.collectRealm_eq hasic hfits b hunit r, Survey.shape_realm hcountable _ r⟩
    thresholds := ⟨_, Backend.collect_eq hasic hfits b hunit, hshape _⟩
    maxBuffers := ⟨_, Backend.maxBuffers_eq ty numPorts, hshape _⟩ }

/-! ## What is started -/

section Starting

variable {interfaces : Interfaces} {c : AgentConfig} {endpoint : Endpoint} {ty : AsicType}
  {s s' : σ}

/-- A valid configuration is started with the port count that is found. -/
theorem start_eq (hvalid : c.validate = .ok ()) (hendpoint : c.endpoint = .ok endpoint)
    (hty : c.asicType = .ok ty) (t : Transport σ) (interfaces : Interfaces) (s : σ) :
    start t interfaces c s =
      match portCount t c (accessOf c endpoint) s with
      | (.error e, s) => (.error e, s)
      | (.ok numPorts, s) =>
        let access := accessOf c endpoint
        let r := startFeed t access (.initial 1) s
        match checkInitialized r.1.1 r.1.2.replica.initialized c.initTimeoutMs with
        | .error e => (.error e, r.2)
        | .ok () => (.ok {
            access, asicType := ty, numPorts, feed := r.1.1, replica := r.1.2.replica
            plugin := pluginFor t interfaces c.system.managementInterface access ty numPorts },
            r.2) := by
  rw [start, Action.bind_ok ((Action.ofExcept_apply _ _).trans (by rw [hvalid])), hendpoint,
    Action.bind_ok (Action.ofExcept_apply _ _), hty, Action.bind_ok (Action.ofExcept_apply _ _),
    Action.bind_apply]
  rcases portCount t c (accessOf c endpoint) s with ⟨e | numPorts, s'⟩
  · rfl
  · dsimp only
    rw [show (SwitchSystem.asics ty numPorts).length = 1 from rfl, Action.bind_apply,
      Action.liftM_apply]
    dsimp only
    rw [Action.bind_apply, Action.ofExcept_apply]
    cases checkInitialized (startFeed t (accessOf c endpoint) (.initial 1) s').1.1
      (startFeed t (accessOf c endpoint) (.initial 1) s').1.2.replica.initialized
      c.initTimeoutMs <;> rfl

theorem numUnits_startFeed (t : Transport σ) (a : Access) (s : σ) :
    (startFeed t a (.initial 1) s).1.2.replica.store.numUnits = 1 := by
  have hinitial : (Replica.initial 1).store.numUnits = 1 := Store.numUnits_initial 1
  exact (Feed.numUnits_run _ _ (hinitial.symm ▸ (by decide : 1 < UInt32.size))).trans hinitial

/-- A plugin that is started has the port count that was found, and a store of one unit. -/
theorem started_of_start (hvalid : c.validate = .ok ()) (hendpoint : c.endpoint = .ok endpoint)
    (hty : c.asicType = .ok ty) {started : Started σ}
    (h : start t interfaces c s = (.ok started, s')) :
    (∃ s'', portCount t c (accessOf c endpoint) s = (.ok started.numPorts, s'')) ∧
      started.plugin = pluginFor t interfaces c.system.managementInterface
        (accessOf c endpoint) ty started.numPorts ∧
      started.replica.store.numUnits = 1 := by
  rw [start_eq hvalid hendpoint hty] at h
  rcases hports : portCount t c (accessOf c endpoint) s with ⟨e | numPorts, s''⟩
  · rw [hports] at h
    cases h
  · rw [hports] at h
    dsimp only at h
    split at h
    · cases h
    · cases h
      exact ⟨⟨s'', rfl⟩, rfl, numUnits_startFeed t (accessOf c endpoint) s''⟩

theorem start_of_error (hvalid : c.validate = .ok ()) (hendpoint : c.endpoint = .ok endpoint)
    (hty : c.asicType = .ok ty) {e : Error}
    (h : portCount t c (accessOf c endpoint) s = (.error e, s')) :
    start t interfaces c s = (.error e, s') := by
  rw [start_eq hvalid hendpoint hty, h]

end Starting

/-- **A started plugin serves its unit.** A valid configuration has an endpoint and an ASIC type.
The port count is the one that is configured, or the one that the switch tells, where the first
fact called `interface_count` counts if it reads as a number above zero, and up to 130; if there
is no such fact, or it does not, then the start fails. Whatever becomes of an agent with the
plugin that was started with this count, its unit 0 is served in the shape of the capabilities
for the count. -/
theorem started_serves_unit {c : AgentConfig} (hvalid : c.validate = .ok ()) :
    ∃ endpoint ty, c.endpoint = .ok endpoint ∧ c.asicType = .ok ty ∧
      ∀ {σ : Type} (t : Transport σ) (interfaces : Interfaces) (s : σ),
        let access := accessOf c endpoint
        -- the port count
        (∀ ports, c.system.numPorts = some ports → portCount t c access s = (.ok ports, s)) ∧
        (∀ result s', Tells t c access s result s' →
          (∀ n, 0 < n → CountsInterfaces result n →
            portCount t c access s = (.ok (.ofNat (min n 130)), s')) ∧
          ((∀ n, 0 < n → ¬ CountsInterfaces result n) →
            start t interfaces c s = (.error (.notFound "Subsystem interface_count"), s'))) ∧
        (∀ e s', portCount t c access s = (.error e, s') →
          start t interfaces c s = (.error e, s')) ∧
        (∀ ports s', portCount t c access s = (.ok ports, s') →
          1 ≤ ports.toNat ∧ ports.toNat ≤ 130 ∧
          (c.system.numPorts = some ports ∨ ∃ result n, Tells t c access s result s' ∧
            CountsInterfaces result n ∧ 0 < n ∧ ports.toNat = min n 130)) ∧
        -- the plugin that is started
        ∀ started s', start t interfaces c s = (.ok started, s') →
          let bst := Backend.service t access (SwitchSystem.asics ty started.numPorts)
          let system := SwitchSystem.service interfaces c.system.managementInterface ty
            started.numPorts
          started.plugin = pluginOf system bst ∧
          (∃ s'', portCount t c access s = (.ok started.numPorts, s'')) ∧
          ∀ registry a, Agent.Running t bst (.ofStarted started registry) a → ∀ s,
            Serves bst system (a.backend s) 0 (.zeroed (.trident2 started.numPorts)) := by
  have hc := AgentConfig.validate_eq_ok_iff.1 hvalid
  obtain ⟨endpoint, hendpoint⟩ := hc.endpoint_ok
  obtain ⟨ty, hty⟩ := hc.asicType_ok
  refine ⟨endpoint, ty, hendpoint, hty, ?_⟩
  intro σ t interfaces s access
  refine ⟨fun ports => portCount_of_some, ?_, ?_, ?_, ?_⟩
  · intro result s' htells
    refine ⟨fun n hn => portCount_of_countsInterfaces htells hn, ?_⟩
    intro hcounts
    exact start_of_error hvalid hendpoint hty (portCount_of_not_countsInterfaces htells hcounts)
  · intro e s' hports
    exact start_of_error hvalid hendpoint hty hports
  · intro ports s' hports
    obtain ⟨hpos, hle⟩ := portCount_range hc hports
    refine ⟨hpos, hle, ?_⟩
    rcases portCount_eq_ok hports with ⟨hconfigured, -⟩ | htold
    · exact .inl hconfigured
    · exact .inr htold
  · intro started s' hstart bst system
    obtain ⟨⟨s'', hports⟩, hplugin, hunits⟩ := started_of_start hvalid hendpoint hty hstart
    refine ⟨hplugin, ⟨s'', hports⟩, ?_⟩
    intro registry a hrunning s
    have hstarted : (Agent.ofStarted started registry).replica.store.numUnits = 1 := hunits
    have hunit : (a.backend s).store.numUnits = 1 :=
      (hrunning.numUnits_eq (hstarted.symm ▸ (by decide : 1 < UInt32.size))).trans hstarted
    exact serves_unit t access interfaces c.system.managementInterface ty
      (portCount_range hc hports).2 (a.backend s) (hunit.symm ▸ Nat.one_pos)

/-- The answers of a switch that has applied its configuration, has two hundred interfaces and
has no settings in its row. -/
def applied : List Poll :=
  [.line "\x7b\"id\":0,\"error\":null,\"result\":[\x7b\"rows\":[\x7b\"cur_cfg\":1\x7d]\x7d]\x7d",
    .line ("\x7b\"id\":0,\"error\":null,\"result\":[\x7b\"rows\":[\x7b" ++
      "\"other_info\":[\"map\",[[\"interface_count\",\" 200 \"]]]\x7d]\x7d]\x7d"),
    .line ("\x7b\"id\":0,\"error\":null,\"result\":\x7b\"System\":\x7b\"a\":\x7b\"new\":\x7b" ++
      "\"bufmon_config\":[\"map\",[]]\x7d\x7d\x7d\x7d\x7d"),
    .pending]

/-- With its defaults the agent is started beside such a switch, and serves 130 ports. -/
theorem started_serves_unit_applied :
    AgentConfig.initial.validate = .ok () ∧ ∃ started s',
      start Feed.played .none AgentConfig.initial applied = (.ok started, s') ∧
      ∃ bst system, started.plugin = pluginOf system bst ∧
        Serves bst system
          ((Agent.ofStarted started (.empty _ defaultCapacity)).backend s') 0
          (.zeroed (.trident2 130)) := by
  have hvalid : AgentConfig.initial.validate = .ok () := rfl
  have hports : (start Feed.played .none AgentConfig.initial applied).1.toOption.map
      Started.numPorts = some 130 := by decide +kernel
  rcases hstart : start Feed.played .none AgentConfig.initial applied with ⟨e | started, s'⟩
  · rw [hstart] at hports
    cases hports
  · rw [hstart] at hports
    have hports : started.numPorts = 130 := Option.some.inj hports
    obtain ⟨endpoint, ty, -, -, h⟩ := started_serves_unit hvalid
    obtain ⟨-, -, -, -, hstarted⟩ := h Feed.played .none applied
    obtain ⟨hplugin, -, hserves⟩ := hstarted started s' hstart
    have hserves := hserves (.empty _ defaultCapacity) _ .started s'
    rw [hports] at hplugin hserves
    exact ⟨hvalid, started, s', rfl, _, _, hplugin, hserves⟩

end Database

end BufferTelemetry
