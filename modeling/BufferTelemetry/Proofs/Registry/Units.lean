import BufferTelemetry.Proofs.Registry.Resolution
import BufferTelemetry.Proofs.Registry.Slots
import BufferTelemetry.Proofs.Rpc.Actions
import BufferTelemetry.Proofs.Survey.Answers
import BufferTelemetry.Registry.Requests

/-!
# What a registry knows of a unit

A question about a unit makes two lookups: the generic System service tells the type of the
unit, and the service for this type answers. For the statistics of a unit the second one
either finds a service, which then answers every request (`Tracks`), or no request gets
further than the lookup (`Untracked`).

For the capabilities of a unit the second System service need not be the first one, and it is
asked for the unit and not for the type. No registered service reports more than one ASIC, so
what it answers are the capabilities of its only ASIC, whose type is the type of the unit
exactly if the capabilities of that type are known as well (`unitCapabilities_listed`).
-/

namespace BufferTelemetry.Registry

open Survey (bind_eq_ok_iff)

variable {ω : Type} {r : Registry ω} {unit : UInt32} {ty : AsicType}

/-! ## Services that are found -/

theorem systemService_eq_ok_iff {families : AsicType} {s : SystemService} :
    r.systemService families = .ok s ↔ r.resolve families .system = .ok (.system s) := by
  rw [systemService]
  rcases r.resolve families .system with _ | _ | _ <;> simp [bind, Except.bind, pure, Except.pure]

theorem bstService_eq_ok_iff {families : AsicType} {b : BstService ω} :
    r.bstService families = .ok b ↔ r.resolve families .bst = .ok (.bst b) := by
  rw [bstService]
  rcases r.resolve families .bst with _ | _ | _ <;> simp [bind, Except.bind, pure, Except.pure]

theorem bstService_of_error {families : AsicType} {e : Error}
    (h : r.resolve families .bst = .error e) : r.bstService families = .error e := by
  rw [bstService, h]
  rfl

/-- What is found has been offered. -/
theorem Resolves.exists_offer {offers : List (Offer ω)} {families : AsicType}
    {feature : FeatureId} {service : Service ω}
    (h : Resolves offers families feature (.ok service)) : ∃ o ∈ offers, o.service = service := by
  generalize hanswer : Except.ok service = answer at h
  cases h with
  | nobody | missing => cases hanswer
  | specific o _ hfirst | generic o _ _ hfirst =>
    obtain ⟨-, before, after, hsplit, -⟩ := hfirst
    exact ⟨o, by simp [hsplit], (Except.ok.inj hanswer).symm⟩

/-- A plugin of the registry offers the System service. -/
def Offered (r : Registry ω) (s : SystemService) : Prop :=
  ∃ p ∈ r.plugins, ∃ o ∈ p.offers, o.service = .system s

theorem offered_of_systemService {families : AsicType} {s : SystemService}
    (h : r.systemService families = .ok s) : Offered r s := by
  have hfound := resolves_resolve r families .system
  rw [systemService_eq_ok_iff.1 h] at hfound
  obtain ⟨o, ho, hs⟩ := hfound.exists_offer
  obtain ⟨p, hp, ho⟩ := List.mem_flatMap.1 ho
  exact ⟨p, hp, o, ho, hs⟩

/-- The services of a registry that has been filled by registrations report at most one ASIC
each. -/
theorem Offered.asics_le {capacity : Nat} {ps : List (Plugin ω)} {s : SystemService}
    (h : Offered (registerAll ps (.empty ω capacity)) s) : s.asics.length ≤ maxAsics := by
  obtain ⟨p, hp, o, ho, hs⟩ := h
  obtain ⟨-, hplugins, haccepted⟩ := calls_accept ps (.empty ω capacity) (Nat.zero_le _)
  rw [calls_registry, haccepted] at hplugins
  rw [hplugins] at hp
  have hadmissible : Admissible p := by simpa using (List.mem_filter.1 (List.mem_of_mem_take hp)).2
  exact hadmissible.asics_le o ho s hs

/-! ## Statistics of a unit -/

theorem bstOfUnit_eq (h : r.unitAsicType unit = .ok ty) :
    r.bstOfUnit unit = r.bstService ty := by
  rw [bstOfUnit, h]
  rfl

/-- The service tracks the unit: it is found, and answers every request for statistics. -/
structure Tracks (r : Registry ω) (unit : UInt32) (b : BstService ω) : Prop where
  lookup : r.bstOfUnit unit = .ok b
  forwards : ∀ (α : Type) (f : BstService ω → UInt32 → Action ω α), r.forward unit f = f b unit

/-- No service tracks the unit: the lookup fails, and so does every request for statistics,
without an effect. -/
structure Untracked (r : Registry ω) (unit : UInt32) (e : Error) : Prop where
  lookup : r.bstOfUnit unit = .error e
  fails : ∀ (α : Type) (f : BstService ω → UInt32 → Action ω α) (w : ω),
    r.forward unit f w = (.error e, w)

theorem tracks_of_ok {b : BstService ω} (h : r.bstOfUnit unit = .ok b) : Tracks r unit b := by
  refine ⟨h, ?_⟩
  intro α f
  funext w
  rw [forward, h, Action.bind_ok (Action.ofExcept_apply _ w)]

theorem untracked_of_error {e : Error} (h : r.bstOfUnit unit = .error e) :
    Untracked r unit e := by
  refine ⟨h, ?_⟩
  intro α f w
  rw [forward, h, Action.bind_error (Action.ofExcept_apply _ w)]

/-! ## Capabilities of a unit -/

theorem unitAsicType_eq_ok_iff : r.unitAsicType unit = .ok ty ↔
    ∃ s asic, r.systemService .all = .ok s ∧ s.asics.find? (·.unit = unit) = some asic ∧
      asic.asicType = ty := by
  rw [unitAsicType, platform, bind_eq_ok_iff]
  refine exists_congr fun s => ?_
  cases s.asics.find? (·.unit = unit) with
  | some asic => simp [pure, Except.pure]
  | none => simp [throw, throwThe, MonadExceptOf.throw]

theorem unitCapabilities_eq_ok_iff {caps : Capabilities} (hty : r.unitAsicType unit = .ok ty) :
    r.unitCapabilities unit = .ok caps ↔
      ∃ s asic, r.systemService ty = .ok s ∧ s.asics.find? (·.unit = unit) = some asic ∧
        asic.capabilities = caps := by
  rw [unitCapabilities, systemOfUnit, hty]
  show (r.systemService ty >>= _) = _ ↔ _
  rw [bind_eq_ok_iff]
  refine exists_congr fun s => ?_
  cases s.asics.find? (·.unit = unit) with
  | some asic => simp [pure, Except.pure]
  | none => simp [throw, throwThe, MonadExceptOf.throw]

theorem asicCapabilities_eq {s : SystemService} (h : r.systemService ty = .ok s) :
    r.asicCapabilities ty =
      match s.asics.find? (·.asicType = ty) with
      | some asic => .ok asic.capabilities
      | none => .error (.notFound s!"capabilities of ASIC type {ty.toString}") := by
  rw [asicCapabilities, h]
  rfl

/-- A search of a list with at most one element finds it or nothing. -/
theorem eq_singleton_of_find? {α : Type} {P : α → Bool} {l : List α} {a : α}
    (hlength : l.length ≤ 1) (h : l.find? P = some a) : l = [a] := by
  obtain ⟨b, rfl⟩ : ∃ b, l = [b] := by
    rw [← List.length_eq_one_iff]
    have hpos := List.length_pos_of_mem (List.mem_of_find?_eq_some h)
    omega
  rw [List.mem_singleton.1 (List.mem_of_find?_eq_some h)]

/-- The services that the registry offers give the unit one type. -/
def Agrees (r : Registry ω) (unit : UInt32) : Prop :=
  ∀ s s', Offered r s → Offered r s' → ∀ asic ∈ s.asics, ∀ asic' ∈ s'.asics,
    asic.unit = unit → asic'.unit = unit → asic.asicType = asic'.asicType

/-- **Capabilities.** The capabilities of a unit are those that the System service for its type
lists for its only ASIC, which has the number of the unit. Its type may be another one than
that of the unit: exactly if it is not, the capabilities of the type of the unit are known,
and are the same. So it is whenever the services agree on the type of the unit. -/
theorem unitCapabilities_listed (capacity : Nat) (ps : List (Plugin ω)) (unit : UInt32)
    (ty : AsicType) (caps : Capabilities) :
    let r := registerAll ps (.empty ω capacity)
    r.unitAsicType unit = .ok ty → r.unitCapabilities unit = .ok caps →
    ∃ s listed, Offered r s ∧ r.systemService ty = .ok s ∧ s.asics = [⟨unit, listed, caps⟩] ∧
      (listed = ty → r.asicCapabilities ty = .ok caps) ∧
      (listed ≠ ty → r.asicCapabilities ty =
        .error (.notFound s!"capabilities of ASIC type {ty.toString}")) ∧
      (Agrees r unit → listed = ty) := by
  intro r hty hcaps
  obtain ⟨generic, known, hgeneric, hknown, hknownTy⟩ := unitAsicType_eq_ok_iff.1 hty
  obtain ⟨s, asic, hs, hasic, rfl⟩ := (unitCapabilities_eq_ok_iff hty).1 hcaps
  have hoffered : Offered r s := offered_of_systemService hs
  have hunit : asic.unit = unit := by simpa using List.find?_some hasic
  have honly : s.asics = [asic] := eq_singleton_of_find? hoffered.asics_le hasic
  have hanswer := asicCapabilities_eq hs
  rw [honly] at hanswer
  refine ⟨s, asic.asicType, hoffered, hs, ?_, ?_, ?_, ?_⟩
  · rw [honly, ← hunit]
  · intro hlisted
    rw [hanswer, List.find?_cons_of_pos (by simpa using hlisted)]
  · intro hlisted
    rw [hanswer, List.find?_cons_of_neg (by simpa using hlisted), List.find?_nil]
  · intro hagrees
    rw [← hknownTy]
    exact hagrees s generic hoffered (offered_of_systemService hgeneric) asic
      (List.mem_of_find?_eq_some hasic) known (List.mem_of_find?_eq_some hknown) hunit
      (by simpa using List.find?_some hknown)

/-- A plugin that offers a System service with one ASIC. -/
def describing (name : String) (families : AsicType) (asic : Asic) : Plugin ω where
  name := name
  offers := [{ families, service := .system (.bare [asic]) }]

theorem asics_of_describing {name : String} {families : AsicType} {asic : Asic} {o : Offer ω}
    {s : SystemService} (ho : o ∈ (describing name families asic).offers)
    (hs : o.service = .system s) : s.asics = [asic] := by
  obtain rfl := List.mem_singleton.1 ho
  cases hs
  rfl

/-- A generic service and the one for Trident2 agree that unit 0 is a Trident2, and the second
lists it with more ports: it has these, by unit and by type. -/
theorem unitCapabilities_listed_agreeing :
    let generic : Asic := { unit := 0, asicType := .trident2, capabilities := .trident2 32 }
    let specific : Asic := { unit := 0, asicType := .trident2, capabilities := .trident2 64 }
    let r := registerAll [describing "platform" .all generic, describing "chip" .trident2 specific]
      (.empty Unit defaultCapacity)
    r.unitAsicType 0 = .ok .trident2 ∧ r.unitCapabilities 0 = .ok (.trident2 64) ∧
      Agrees r 0 ∧ (∃ s, Offered r s ∧ s.asics = [generic]) ∧
      (∃ s, Offered r s ∧ s.asics = [specific]) ∧
      r.asicCapabilities .trident2 = .ok (.trident2 64) := by
  intro generic specific r
  have hty : r.unitAsicType 0 = .ok .trident2 := by
    simp only [r, generic, specific]
    rfl
  have hcaps : r.unitCapabilities 0 = .ok (.trident2 64) := by
    simp only [r, generic, specific]
    rfl
  have hgeneric : describing "platform" .all generic ∈ r.plugins := List.mem_cons_self
  have hspecific : describing "chip" .trident2 specific ∈ r.plugins :=
    List.mem_cons_of_mem _ List.mem_cons_self
  have hlists : ∀ s, Offered r s → s.asics = [generic] ∨ s.asics = [specific] := by
    rintro s ⟨p, hp, o, ho, hs⟩
    rcases List.mem_cons.1 hp with rfl | hp
    · exact .inl (asics_of_describing ho hs)
    · obtain rfl := List.mem_singleton.1 hp
      exact .inr (asics_of_describing ho hs)
  have hagrees : Agrees r 0 := by
    have htype : ∀ s, Offered r s → ∀ asic ∈ s.asics, asic.asicType = .trident2 := by
      intro s hs asic hasic
      rcases hlists s hs with h | h <;> rw [h, List.mem_singleton] at hasic <;> rw [hasic]
    intro s s' hs hs' asic hasic asic' hasic' _ _
    rw [htype s hs asic hasic, htype s' hs' asic' hasic']
  obtain ⟨s, listed, -, -, -, hknown, -, hlisted⟩ := unitCapabilities_listed defaultCapacity
    [describing "platform" .all generic, describing "chip" .trident2 specific] 0 .trident2
    (.trident2 64) hty hcaps
  exact ⟨hty, hcaps, hagrees, ⟨_, ⟨_, hgeneric, _, List.mem_cons_self, rfl⟩, rfl⟩,
    ⟨_, ⟨_, hspecific, _, List.mem_cons_self, rfl⟩, rfl⟩, hknown (hlisted hagrees)⟩

/-- A generic service lists unit 0 as a Trident2, and the service for Trident2 lists it as a
Tomahawk with more ports: the unit has these ports, which no service lists for a Trident2, and
the capabilities of a Trident2 are not known. -/
theorem unitCapabilities_of_other_type :
    let r := registerAll
      [describing "platform" .all
        { unit := 0, asicType := .trident2, capabilities := .trident2 32 },
      describing "chip" .trident2
        { unit := 0, asicType := .tomahawk, capabilities := .trident2 64 }]
      (.empty Unit defaultCapacity)
    r.pluginNames = ["platform", "chip"] ∧
      r.unitAsicType 0 = .ok .trident2 ∧ r.unitCapabilities 0 = .ok (.trident2 64) ∧
      (¬ ∃ s, Offered r s ∧ ⟨0, .trident2, .trident2 64⟩ ∈ s.asics) ∧
      r.asicCapabilities .trident2 = .error (.notFound "capabilities of ASIC type td2") := by
  intro r
  refine ⟨rfl, rfl, rfl, ?_, rfl⟩
  rintro ⟨s, ⟨p, hp, o, ho, hs⟩, hasic⟩
  rcases List.mem_cons.1 hp with rfl | hp
  · rw [asics_of_describing ho hs, List.mem_singleton] at hasic
    exact absurd hasic (by decide)
  · obtain rfl := List.mem_singleton.1 hp
    rw [asics_of_describing ho hs, List.mem_singleton] at hasic
    exact absurd hasic (by decide)

end BufferTelemetry.Registry
