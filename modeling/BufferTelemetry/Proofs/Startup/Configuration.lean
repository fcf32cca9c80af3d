import BufferTelemetry.Database.Startup
import BufferTelemetry.Proofs.Rpc.Actions

/-!
# Configurations

What a configuration has to say for the agent to run with it (`AgentConfig.Valid`), and what
of it is found in the plugin that is started: the ASIC type and, where it is given, the number
of ports (`Database.start_eq_ok`).
-/

namespace BufferTelemetry

open Rpc

/-! ## What validation accepts -/

/-- The agent can run with the configuration. -/
structure AgentConfig.Valid (c : AgentConfig) : Prop where
  initTimeout_ne : c.ovsdb.initTimeoutSecs ≠ 0
  replyTimeout_ne : c.ovsdb.replyTimeoutSecs ≠ 0
  maxMessageBytes_ne : c.ovsdb.maxMessageBytes ≠ 0
  database_ne : c.ovsdb.database ≠ ""
  ports_range : ∀ ports, c.system.numPorts = some ports →
    1 ≤ ports.toNat ∧ ports.toNat ≤ maxPorts
  endpoint_ok : ∃ endpoint, c.endpoint = .ok endpoint
  asicType_ok : ∃ ty, c.asicType = .ok ty

/-- A check in front of a computation has to pass, and then the computation decides. -/
theorem guard_bind_eq_ok_iff {ε α : Type} {p : Prop} [Decidable p] {e : ε} {a : α}
    {next : Unit → Except ε α} :
    ((if p then (throw e : Except ε Unit) >>= next else next ()) = .ok a) ↔
      ¬ p ∧ next () = .ok a := by
  by_cases hp : p
  · rw [if_pos hp]
    constructor
    · intro h
      cases h
    · intro h
      exact absurd hp h.1
  · rw [if_neg hp]
    exact ⟨fun h => ⟨hp, h⟩, And.right⟩

theorem AgentConfig.valid_iff {c : AgentConfig} : c.Valid ↔
    (c.ovsdb.initTimeoutSecs ≠ 0 ∧ c.ovsdb.replyTimeoutSecs ≠ 0) ∧
      c.ovsdb.maxMessageBytes ≠ 0 ∧ c.ovsdb.database ≠ "" ∧
      (∀ ports, c.system.numPorts = some ports → 1 ≤ ports.toNat ∧ ports.toNat ≤ maxPorts) ∧
      (∃ endpoint, c.endpoint = .ok endpoint) ∧ ∃ ty, c.asicType = .ok ty := by
  constructor
  · rintro ⟨hinit, hreply, hmax, hdatabase, hports, hendpoint, hty⟩
    exact ⟨⟨hinit, hreply⟩, hmax, hdatabase, hports, hendpoint, hty⟩
  · rintro ⟨⟨hinit, hreply⟩, hmax, hdatabase, hports, hendpoint, hty⟩
    exact ⟨hinit, hreply, hmax, hdatabase, hports, hendpoint, hty⟩

theorem AgentConfig.validate_eq_ok_iff {c : AgentConfig} : c.validate = .ok () ↔ c.Valid := by
  have hparts : (do
      let _ ← c.endpoint
      let _ ← c.asicType
      pure ()) = Except.ok () ↔
        (∃ endpoint, c.endpoint = .ok endpoint) ∧ ∃ ty, c.asicType = .ok ty := by
    cases c.endpoint <;> cases c.asicType <;> simp [bind, Except.bind, pure, Except.pure]
  have hrange : ∀ ports : UInt64, ¬ (ports = 0 ∨ maxPorts < ports.toNat) ↔
      1 ≤ ports.toNat ∧ ports.toNat ≤ maxPorts := by
    intro ports
    rw [← UInt64.toNat_inj, UInt64.toNat_zero]
    omega
  rw [valid_iff, validate]
  cases c.system.numPorts with
  | some ports =>
    have hgiven : (∀ ports', some ports = some ports' →
        1 ≤ ports'.toNat ∧ ports'.toNat ≤ maxPorts) ↔
          1 ≤ ports.toNat ∧ ports.toNat ≤ maxPorts := by simp
    simp only [guard_bind_eq_ok_iff, hparts, hrange, hgiven, not_or]
  | none =>
    have hfree : (∀ ports : UInt64, none = some ports →
        1 ≤ ports.toNat ∧ ports.toNat ≤ maxPorts) ↔ True := by simp
    simp only [guard_bind_eq_ok_iff, hparts, hfree, not_or, true_and]

/-! ## What is started -/

namespace Database

/-- What a plugin consists of that has been started. -/
theorem start_eq_ok {σ : Type} {t : Transport σ} {interfaces : Interfaces} {c : AgentConfig}
    {endpoint : Endpoint} {ty : AsicType} (hendpoint : c.endpoint = .ok endpoint)
    (hty : c.asicType = .ok ty) {s s' : σ} {started : Started σ}
    (h : start t interfaces c s = (.ok started, s')) :
    (∀ ports, c.system.numPorts = some ports → started.numPorts = ports) ∧
      started.plugin = pluginFor t interfaces c.system.managementInterface
        (accessOf c endpoint) ty started.numPorts := by
  rw [start, Action.bind_eq_ok_iff] at h
  obtain ⟨_, _, -, h⟩ := h
  rw [hendpoint, Action.bind_ok (Action.ofExcept_apply _ _), hty,
    Action.bind_ok (Action.ofExcept_apply _ _), Action.bind_eq_ok_iff] at h
  obtain ⟨numPorts, _, hports, h⟩ := h
  rw [Action.bind_eq_ok_iff] at h
  obtain ⟨_, _, -, h⟩ := h
  rw [Action.bind_eq_ok_iff] at h
  obtain ⟨_, _, -, h⟩ := h
  cases h
  refine ⟨?_, rfl⟩
  intro ports hconfigured
  rw [portCount, hconfigured] at hports
  cases hports
  rfl

end Database

end BufferTelemetry
