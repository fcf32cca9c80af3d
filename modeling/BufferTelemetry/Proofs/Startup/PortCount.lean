import BufferTelemetry.Proofs.Startup.Configuration

/-!
# The port count

The number of ports is configured, or it is discovered: when the switch has applied its
configuration, the first fact about its hardware that is called `interface_count` says how many
interfaces it has, and no more of them count than there can be ports. However it comes about, a
port count that is found is supported (`portCount_range`).
-/

namespace BufferTelemetry.Database

open Rpc Text

/-- The facts about the hardware, in the order of the rows of a result. -/
def facts (result : Json) : List (String × Json) :=
  (((((result.item? 0).bind (·.get? "rows")).bind Json.items?).getD []).filterMap
    (·.get? "other_info")).flatMap mapPairs

/-- The first fact that is called `interface_count` is a text that reads as the number, when the
blanks around it are taken away. -/
def CountsInterfaces (result : Json) (n : Nat) : Prop :=
  ∃ before text after, facts result = before ++ ("interface_count", .str text) :: after ∧
    (∀ fact ∈ before, fact.1 ≠ "interface_count") ∧
    Numeral.decimal? UInt64.size (trim text) = some n

section Facts

variable {result : Json} {n : Nat}

theorem interfaceCount?_eq (result : Json) :
    Access.interfaceCount? result = ((facts result).lookup "interface_count").bind fun value =>
      value.text?.bind fun text => Numeral.decimal? UInt64.size (trim text) := by
  unfold Access.interfaceCount? facts
  cases ((result.item? 0).bind (·.get? "rows")).bind Json.items? <;> rfl

theorem interfaceCount?_eq_some_iff :
    Access.interfaceCount? result = some n ↔ CountsInterfaces result n := by
  rw [interfaceCount?_eq, Option.bind_eq_some_iff]
  constructor
  · rintro ⟨value, hlookup, hvalue⟩
    obtain ⟨before, after, hfacts, hbefore⟩ := List.lookup_eq_some_iff.1 hlookup
    cases value with
    | str text =>
      rw [Json.text?, Option.bind_some] at hvalue
      exact ⟨before, text, after, hfacts,
        fun fact hfact => Ne.symm (bne_iff_ne.1 (hbefore fact hfact)), hvalue⟩
    | _ => cases hvalue
  · rintro ⟨before, text, after, hfacts, hbefore, hdecimal⟩
    refine ⟨.str text, List.lookup_eq_some_iff.2 ⟨before, after, hfacts,
      fun fact hfact => bne_iff_ne.2 (Ne.symm (hbefore fact hfact))⟩, ?_⟩
    rw [Json.text?, Option.bind_some, hdecimal]

end Facts

/-! ## Discovery -/

section Discovery

variable {σ : Type} {t : Transport σ} {c : AgentConfig} {a : Access} {s s' s'' : σ}
  {result : Json}

theorem discoverPorts_apply (t : Transport σ) (a : Access) (p : Patience) (s : σ) :
    a.discoverPorts t p s =
      match a.settle t p p.initMs 0 s with
      | (false, s) =>
        (.error (.failure s!"switch configuration not applied within {durationText p.initMs}"), s)
      | (true, s) =>
        match a.transactOnce t (selectSubsystemInfo a.database) s with
        | (.error e, s) => (.error e, s)
        | (.ok result, s) =>
          match Access.interfaceCount? result with
          | some (n + 1) => (.ok (min (n + 1) maxPorts), s)
          | _ => (.error (.notFound "Subsystem interface_count"), s) := by
  unfold Access.discoverPorts
  rw [Action.bind_apply, Action.liftM_apply]
  rcases a.settle t p p.initMs 0 s with ⟨_ | _, s'⟩
  · rfl
  · dsimp only
    rw [if_pos rfl, Action.bind_apply]
    rcases a.transactOnce t (selectSubsystemInfo a.database) s' with ⟨e | result, s''⟩
    · rfl
    · dsimp only
      rcases Access.interfaceCount? result with _ | _ | n <;> rfl

/-- How patiently the port count is looked for with a configuration. -/
def patienceOf (c : AgentConfig) : Patience where
  retryMs := c.ovsdb.discoveryRetryMs.toNat
  initMs := c.initTimeoutMs

/-- The switch has applied its configuration, and tells the facts about its hardware. -/
structure Tells (t : Transport σ) (c : AgentConfig) (a : Access) (s : σ) (result : Json)
    (s'' : σ) : Prop where
  not_configured : c.system.numPorts = none
  told : ∃ s', a.settle t (patienceOf c) c.initTimeoutMs 0 s = (true, s') ∧
    a.transactOnce t (selectSubsystemInfo a.database) s' = (.ok result, s'')

theorem portCount_of_some {ports : UInt64} (h : c.system.numPorts = some ports) :
    portCount t c a s = (.ok ports, s) := by
  rw [portCount, h]
  rfl

theorem portCount_of_none (h : c.system.numPorts = none) :
    portCount t c a s =
      ((a.discoverPorts t (patienceOf c) s).1.map UInt64.ofNat,
        (a.discoverPorts t (patienceOf c) s).2) := by
  rw [portCount, h]
  show (a.discoverPorts t (patienceOf c) >>= fun ports => pure (UInt64.ofNat ports)) s = _
  rw [Action.bind_apply]
  rcases a.discoverPorts t (patienceOf c) s with ⟨_ | _, _⟩ <;> rfl

/-- What a discovered port count is told by. -/
theorem portCount_of_tells (h : Tells t c a s result s'') :
    portCount t c a s =
      match Access.interfaceCount? result with
      | some (n + 1) => (.ok (.ofNat (min (n + 1) maxPorts)), s'')
      | _ => (.error (.notFound "Subsystem interface_count"), s'') := by
  obtain ⟨hports, s', hsettle, hask⟩ := h
  rw [portCount_of_none hports, discoverPorts_apply,
    show (patienceOf c).initMs = c.initTimeoutMs from rfl, hsettle]
  dsimp only
  rw [hask]
  dsimp only
  rcases Access.interfaceCount? result with _ | _ | n <;> rfl

/-- **The port count that is told.** It is what the facts count, if that is more than none and up
to as many ports as there can be; otherwise it is missing. -/
theorem portCount_of_countsInterfaces {n : Nat} (h : Tells t c a s result s'') (hn : 0 < n)
    (hcounts : CountsInterfaces result n) :
    portCount t c a s = (.ok (.ofNat (min n maxPorts)), s'') := by
  obtain ⟨n, rfl⟩ := Nat.exists_eq_add_of_lt hn
  rw [portCount_of_tells h, interfaceCount?_eq_some_iff.2 hcounts, Nat.zero_add]

theorem portCount_of_not_countsInterfaces (h : Tells t c a s result s'')
    (hcounts : ∀ n, 0 < n → ¬ CountsInterfaces result n) :
    portCount t c a s = (.error (.notFound "Subsystem interface_count"), s'') := by
  rw [portCount_of_tells h]
  split
  · rename_i n hcount
    exact absurd (interfaceCount?_eq_some_iff.1 hcount) (hcounts (n + 1) n.succ_pos)
  · rfl

/-- A port count that is found is configured or told. -/
theorem portCount_eq_ok {ports : UInt64} (h : portCount t c a s = (.ok ports, s'')) :
    (c.system.numPorts = some ports ∧ s'' = s) ∨
      ∃ result n, Tells t c a s result s'' ∧ CountsInterfaces result n ∧ 0 < n ∧
        ports.toNat = min n maxPorts := by
  cases hports : c.system.numPorts with
  | some ports' =>
    rw [portCount_of_some hports] at h
    cases h
    exact .inl ⟨rfl, rfl⟩
  | none =>
    have hdiscover := h
    rw [portCount_of_none hports, discoverPorts_apply,
      show (patienceOf c).initMs = c.initTimeoutMs from rfl] at hdiscover
    rcases hsettle : a.settle t (patienceOf c) c.initTimeoutMs 0 s with ⟨_ | _, s'⟩
    · rw [hsettle] at hdiscover
      cases hdiscover
    · rw [hsettle] at hdiscover
      dsimp only at hdiscover
      rcases hask : a.transactOnce t (selectSubsystemInfo a.database) s' with ⟨e | result, s₃⟩
      · rw [hask] at hdiscover
        cases hdiscover
      · have htells : Tells t c a s result s₃ := ⟨hports, s', hsettle, hask⟩
        rw [portCount_of_tells htells] at h
        split at h
        · rename_i n hcount
          cases h
          refine .inr ⟨result, n + 1, htells, interfaceCount?_eq_some_iff.1 hcount, n.succ_pos, ?_⟩
          exact UInt64.toNat_ofNat_of_lt' (Nat.lt_of_le_of_lt (Nat.min_le_right ..) (by decide))
        · cases h

/-- **The range of the port count.** Where the configuration is valid, a port count that is found
is supported. -/
theorem portCount_range (hc : c.Valid) {ports : UInt64}
    (h : portCount t c a s = (.ok ports, s'')) : 1 ≤ ports.toNat ∧ ports.toNat ≤ maxPorts := by
  rcases portCount_eq_ok h with ⟨hports, -⟩ | ⟨result, n, -, -, hn, hports⟩
  · exact hc.ports_range ports hports
  · rw [hports]
    exact ⟨Nat.le_min.2 ⟨hn, by decide⟩, Nat.min_le_right ..⟩

end Discovery

end BufferTelemetry.Database
