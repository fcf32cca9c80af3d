import BufferTelemetry.Loopback.Network
import BufferTelemetry.Proofs.Registry.Units
import BufferTelemetry.Proofs.Startup.Configuration

/-!
# The plugin of a switch in a registry

The agent's plugin offers its System service for every silicon family, and the service that
tracks statistics for Trident2 and Tomahawk. The configuration can name other families than
these: its validation reads the ASIC type of the switch (`validate_eq_ok_iff`), and does not
compare it with the families that are served. So a registry that has taken the plugin knows
the unit and its type in any case, but finds a service that tracks it for three of the types
only (`bstService_switch`); for any other type every request for its statistics fails at the
lookup (`configured_switch`).
-/

namespace BufferTelemetry

open Rpc Database

/-! ## Families that are covered -/

/-- Trident2 and Tomahawk. -/
abbrev AsicType.tracked : AsicType := trident2.union tomahawk

/-- Of the sets of families that name any, the service that tracks statistics covers three. -/
theorem AsicType.tracked_contains_iff {ty : AsicType} (hne : ty.bits ≠ 0) :
    tracked.contains ty = true ↔ ty = trident2 ∨ ty = tomahawk ∨ ty = tracked := by
  constructor
  · intro h
    have hbits : (3 : UInt32) &&& ty.bits = ty.bits := by
      rw [contains, beq_iff_eq] at h
      exact h
    have hle : ty.bits.toNat ≤ 3 := by
      rw [← hbits, UInt32.toNat_and]
      exact Nat.and_le_left
    have hpos : ty.bits.toNat ≠ 0 := by
      rw [← UInt32.toNat_zero, Ne, UInt32.toNat_inj]
      exact hne
    have hcases : ty.bits.toNat = 1 ∨ ty.bits.toNat = 2 ∨ ty.bits.toNat = 3 := by omega
    rcases ty with ⟨bits⟩
    rcases hcases with h1 | h2 | h3
    · exact .inl (congrArg AsicType.mk (UInt32.toNat_inj.1 h1))
    · exact .inr (.inl (congrArg AsicType.mk (UInt32.toNat_inj.1 h2)))
    · exact .inr (.inr (congrArg AsicType.mk (UInt32.toNat_inj.1 h3)))
  · rintro (rfl | rfl | rfl) <;> rfl

namespace Registry

/-! ## A registry with the plugin of a switch -/

variable {ω : Type} {unit : UInt32} {ty : AsicType}

/-- A registry that has taken the plugin of a switch and no other. -/
def switch (capacity : Nat) (system : SystemService) (bst : BstService ω) : Registry ω where
  capacity := capacity
  plugins := [pluginOf system bst]

variable {capacity : Nat} {system : SystemService} {bst : BstService ω}

theorem register_pluginOf (hasics : system.asics.length ≤ maxAsics) :
    (empty ω (capacity + 1)).register (pluginOf system bst) =
      .ok (0, switch (capacity + 1) system bst) := by
  have hadmissible : Admissible (pluginOf system bst) := by
    refine ⟨(by decide : 2 ≤ maxFeaturesPerPlugin), ?_⟩
    intro o ho s hs
    rcases List.mem_cons.1 ho with rfl | ho
    · cases hs
      exact hasics
    · rw [List.mem_singleton.1 ho] at hs
      cases hs
  rcases register_cases (empty ω (capacity + 1)) (pluginOf system bst) with ⟨h, -⟩ | ⟨-, h, -⟩ |
    ⟨-, -, h⟩
  · exact absurd hadmissible h
  · exact absurd h (Nat.not_succ_le_zero capacity)
  · exact h

theorem resolve_system_switch (hne : ty.bits ≠ 0) :
    (switch capacity system bst).resolve ty .system = .ok (.system system) := by
  refine Resolves.resolve_eq (.generic ⟨.all, .system system⟩ hne ?_ ?_)
  · intro o ho h
    rcases List.mem_cons.1 ho with rfl | ho
    · exact h.not_all rfl
    · rw [List.mem_singleton.1 ho] at h
      cases h.feature_eq
  · exact ⟨⟨rfl, rfl⟩, [], _, rfl, by simp⟩

theorem unitAsicType_switch {asic : Asic} (h : system.asics.find? (·.unit = unit) = some asic) :
    (switch capacity system bst).unitAsicType unit = .ok asic.asicType := by
  have hgeneric : (switch capacity system bst).systemService .all = .ok system :=
    systemService_eq_ok_iff.2 (resolve_system_switch (by decide))
  exact unitAsicType_eq_ok_iff.2 ⟨system, asic, hgeneric, h, rfl⟩

/-- What the lookup of the service that tracks statistics answers. -/
theorem bstService_switch (ty : AsicType) :
    (switch capacity system bst).bstService ty =
      if ty.bits = 0 then .error (.invalidParameter "bst lookup with an empty ASIC type")
      else if ty = .trident2 ∨ ty = .tomahawk ∨ ty = .tracked then .ok bst
      else .error (.notFound s!"bst feature for ASIC type {ty.toString}") := by
  by_cases hne : ty.bits = 0
  · rw [if_pos hne]
    exact bstService_of_error (resolve_of_empty hne)
  by_cases hcovers : AsicType.tracked.contains ty = true
  · rw [if_neg hne, if_pos ((AsicType.tracked_contains_iff hne).1 hcovers)]
    refine bstService_eq_ok_iff.2 (Resolves.resolve_eq (.specific ⟨.tracked, .bst bst⟩ hne ?_))
    refine ⟨specific_iff.2 ⟨rfl, rfl, hcovers⟩, [⟨.all, .system system⟩], [], rfl, ?_⟩
    intro o ho h
    rw [List.mem_singleton.1 ho] at h
    cases h.feature_eq
  · rw [if_neg hne, if_neg (mt (AsicType.tracked_contains_iff hne).2 hcovers)]
    refine bstService_of_error (Resolves.resolve_eq (.missing hne ?_ ?_))
    · intro o ho h
      rcases List.mem_cons.1 ho with rfl | ho
      · cases h.feature_eq
      · rw [List.mem_singleton.1 ho] at h
        exact hcovers (specific_iff.1 h).2.2
    · intro o ho h
      rcases List.mem_cons.1 ho with rfl | ho
      · cases h.feature_eq
      · rw [List.mem_singleton.1 ho] at h
        cases h.is_all

end Registry

namespace Database

open Registry

/-- **A configured switch.** A configuration that validation accepts names an endpoint and an
ASIC type. Whatever the number of ports, the plugin with which the agent is then started is
taken by an empty registry, where unit 0 has the configured type. If the type is one of the two
families that the plugin tracks or consists of both, then the service of the plugin answers
every request for the statistics of the unit. Otherwise all of them fail: as an invalid
parameter if the type is empty, and else because no service is found. -/
theorem configured_switch {c : AgentConfig} (hvalid : c.validate = .ok ()) :
    ∃ endpoint ty, c.endpoint = .ok endpoint ∧ c.asicType = .ok ty ∧
      ∀ (σ : Type) (t : Transport σ) (interfaces : Interfaces),
        let pluginWith := pluginFor t interfaces c.system.managementInterface
          (accessOf c endpoint) ty
        -- the plugin is the one that is started
        (∀ s started s', start t interfaces c s = (.ok started, s') →
          (∀ ports, c.system.numPorts = some ports → started.numPorts = ports) ∧
          started.plugin = pluginWith started.numPorts) ∧
        ∀ (numPorts : UInt64) (capacity : Nat),
          let bst := Backend.service t (accessOf c endpoint) (SwitchSystem.asics ty numPorts)
          ∃ r, (Registry.empty (Backend σ) (capacity + 1)).register (pluginWith numPorts) =
              .ok (0, r) ∧
            r.unitAsicType 0 = .ok ty ∧
            (ty = .trident2 ∨ ty = .tomahawk ∨ ty = .tracked → Tracks r 0 bst) ∧
            (ty.bits = 0 →
              Untracked r 0 (.invalidParameter "bst lookup with an empty ASIC type")) ∧
            (ty.bits ≠ 0 → ¬ (ty = .trident2 ∨ ty = .tomahawk ∨ ty = .tracked) →
              Untracked r 0 (.notFound s!"bst feature for ASIC type {ty.toString}")) := by
  have hc := AgentConfig.validate_eq_ok_iff.1 hvalid
  obtain ⟨endpoint, hendpoint⟩ := hc.endpoint_ok
  obtain ⟨ty, hty⟩ := hc.asicType_ok
  refine ⟨endpoint, ty, hendpoint, hty, ?_⟩
  intro σ t interfaces pluginWith
  refine ⟨fun s started s' => start_eq_ok hendpoint hty, ?_⟩
  intro numPorts capacity bst
  let system := SwitchSystem.service interfaces c.system.managementInterface ty numPorts
  let r := switch (capacity + 1) system bst
  have hasic : system.asics.find? (·.unit = 0) = some ⟨0, ty, .trident2 numPorts⟩ := rfl
  have hunit : r.unitAsicType 0 = .ok ty := unitAsicType_switch hasic
  have hlookup : r.bstOfUnit 0 = _ := (bstOfUnit_eq hunit).trans (bstService_switch ty)
  refine ⟨r, register_pluginOf (Nat.le_refl 1), hunit, ?_, ?_, ?_⟩
  · intro htracked
    have hne : ty.bits ≠ 0 := by
      rcases htracked with rfl | rfl | rfl <;> decide
    rw [if_neg hne, if_pos htracked] at hlookup
    exact tracks_of_ok hlookup
  · intro hempty
    rw [if_pos hempty] at hlookup
    exact untracked_of_error hlookup
  · intro hne huntracked
    rw [if_neg hne, if_neg huntracked] at hlookup
    exact untracked_of_error hlookup

/-- The configuration is valid and gives unit 0 the type, and a registry that has taken the plugin
tracks the statistics of the unit. -/
def TracksAs (c : AgentConfig) (ty : AsicType) : Prop :=
  c.validate = .ok () ∧ c.asicType = .ok ty ∧
    ∃ access r, (Registry.empty (Backend Loopback.Network) defaultCapacity).register
        (pluginFor Loopback.Network.transport .none c.system.managementInterface access ty 32) =
          .ok (0, r) ∧
      r.unitAsicType 0 = .ok ty ∧
      Tracks r 0
        (Backend.service Loopback.Network.transport access (SwitchSystem.asics ty 32))

/-- The configuration of a switch whose ASIC type is written so. -/
def switchOf (asicType : String) : AgentConfig where
  ovsdb := .initial
  system := { managementInterface := "swp0", asicType, numPorts := some 32 }

/-- With its defaults the agent tracks the statistics of unit 0, and so it does where the type is
written with the long name of Tomahawk, or as the bits of both families. -/
theorem configured_switch_tracked :
    TracksAs .initial .trident2 ∧ TracksAs (switchOf "Tomahawk") .tomahawk ∧
      TracksAs (switchOf "0x3") .tracked := by
  have htracks : ∀ {c ty}, c.validate = .ok () → c.asicType = .ok ty →
      ty = .trident2 ∨ ty = .tomahawk ∨ ty = .tracked → TracksAs c ty := by
    intro c ty hvalid hty htracked
    obtain ⟨endpoint, ty', -, hty', h⟩ := configured_switch hvalid
    obtain rfl : ty = ty' := Except.ok.inj (hty.symm.trans hty')
    obtain ⟨r, hregister, hunit, htracks, -⟩ :=
      (h Loopback.Network Loopback.Network.transport .none).2 32 7
    exact ⟨hvalid, hty, _, r, hregister, hunit, htracks htracked⟩
  exact ⟨htracks rfl rfl (.inl rfl), htracks (by rfl) (by rfl) (.inr (.inl rfl)),
    htracks (by rfl) (by rfl) (.inr (.inr rfl))⟩

/-- The configuration of a switch of a third family. -/
def thirdFamily : AgentConfig where
  ovsdb := .initial
  system := { managementInterface := "eth0", asicType := "0x0004", numPorts := some 4 }

/-- A switch of a third family has a valid configuration, and its unit is there with its type,
but nothing tracks its statistics. -/
theorem thirdFamily_untracked :
    let access := accessOf thirdFamily (.unix "/var/run/openvswitch/db.sock")
    thirdFamily.validate = .ok () ∧ thirdFamily.endpoint = .ok access.endpoint ∧
      thirdFamily.asicType = .ok ⟨4⟩ ∧
      ∃ r, (Registry.empty (Backend Loopback.Network) defaultCapacity).register
          (pluginFor Loopback.Network.transport .none "eth0" access ⟨4⟩ 4) = .ok (0, r) ∧
        r.unitAsicType 0 = .ok ⟨4⟩ ∧
        Untracked r 0 (.notFound "bst feature for ASIC type 0x0004") := by
  intro access
  have hvalid : thirdFamily.validate = .ok () := by rfl
  have hendpoint : thirdFamily.endpoint = .ok access.endpoint := by rfl
  have hty : thirdFamily.asicType = .ok ⟨4⟩ := by rfl
  let r : Registry (Backend Loopback.Network) :=
    switch defaultCapacity (SwitchSystem.service .none "eth0" ⟨4⟩ 4)
      (Backend.service Loopback.Network.transport access (SwitchSystem.asics ⟨4⟩ 4))
  have hasic : (SwitchSystem.service .none "eth0" ⟨4⟩ 4).asics.find? (·.unit = 0) =
      some ⟨0, ⟨4⟩, .trident2 4⟩ := rfl
  have hunit : r.unitAsicType 0 = .ok ⟨4⟩ := unitAsicType_switch hasic
  have hlookup : r.bstOfUnit 0 = .error (.notFound "bst feature for ASIC type 0x0004") :=
    (bstOfUnit_eq hunit).trans (bstService_switch ⟨4⟩)
  exact ⟨hvalid, hendpoint, hty, r, register_pluginOf (Nat.le_refl 1), hunit,
    untracked_of_error hlookup⟩

end Database

end BufferTelemetry
