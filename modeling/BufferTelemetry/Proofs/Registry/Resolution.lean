import BufferTelemetry.Proofs.Registry.Registration

/-!
# What a lookup finds

A feature is looked up for a set of silicon families among the offers of all plugins.
The scan that does so is a search for the first *specific* offer, one that is made for
all families of the set, and failing that for the first *generic* one, wherever the two
stand among each other (`resolve_eq`). As registries grow at the end only, a first offer
remains the first one, and so

* a specific offer that is found is found ever after;
* a generic one is so too, unless a plugin that comes later makes a specific one;
* what is found once is never missing again (`resolve_registerAll`).
-/

namespace BufferTelemetry

/-- The element is the first one of the list with a property. -/
def IsFirst {α : Type} (P : α → Prop) (l : List α) (a : α) : Prop :=
  P a ∧ ∃ before after, l = before ++ a :: after ∧ ∀ b ∈ before, ¬ P b

theorem isFirst_iff_find? {α : Type} {P : α → Prop} [DecidablePred P] {l : List α} {a : α} :
    IsFirst P l a ↔ l.find? P = some a := by
  rw [List.find?_eq_some_iff_append, IsFirst]
  simp

theorem forall_not_iff_find? {α : Type} {P : α → Prop} [DecidablePred P] {l : List α} :
    (∀ a ∈ l, ¬ P a) ↔ l.find? P = none := by
  rw [List.find?_eq_none]
  simp

theorem IsFirst.append {α : Type} {P : α → Prop} {l : List α} {a : α} (h : IsFirst P l a)
    (more : List α) : IsFirst P (l ++ more) a := by
  obtain ⟨ha, before, after, hsplit, hbefore⟩ := h
  refine ⟨ha, before, after ++ more, ?_, hbefore⟩
  rw [hsplit, List.append_assoc, List.cons_append]

theorem AsicType.contains_iff {t families : AsicType} :
    t.contains families = true ↔
      ∀ i, families.bits.toNat.testBit i = true → t.bits.toNat.testBit i = true := by
  rw [contains, beq_iff_eq, ← UInt32.toNat_inj, UInt32.toNat_and]
  constructor
  · intro h i hi
    rw [← h, Nat.testBit_and, Bool.and_eq_true] at hi
    exact hi.1
  · intro h
    refine Nat.eq_of_testBit_eq ?_
    intro i
    rw [Nat.testBit_and]
    cases hi : families.bits.toNat.testBit i with
    | false => rw [Bool.and_false]
    | true => rw [h i hi, Bool.and_true]

namespace Registry

variable {ω : Type} {families : AsicType} {feature : FeatureId} {offers : List (Offer ω)}
  {o : Offer ω} {r : Registry ω}

/-- The offer is of the feature and made for all of the families. -/
structure Specific (families : AsicType) (feature : FeatureId) (o : Offer ω) : Prop where
  feature_eq : o.service.feature = feature
  not_all : o.families ≠ .all
  covers : ∀ i, families.bits.toNat.testBit i = true → o.families.bits.toNat.testBit i = true

/-- The offer is a generic fallback for the feature. -/
structure Generic (feature : FeatureId) (o : Offer ω) : Prop where
  feature_eq : o.service.feature = feature
  is_all : o.families = .all

/-- What a lookup among the offers has to answer. -/
inductive Resolves (offers : List (Offer ω)) (families : AsicType) (feature : FeatureId) :
    Except Error (Service ω) → Prop
  | nobody : families.bits = 0 → Resolves offers families feature
      (.error (.invalidParameter s!"{feature.name} lookup with an empty ASIC type"))
  | specific (o : Offer ω) : families.bits ≠ 0 → IsFirst (Specific families feature) offers o →
      Resolves offers families feature (.ok o.service)
  | generic (o : Offer ω) : families.bits ≠ 0 → (∀ o' ∈ offers, ¬ Specific families feature o') →
      IsFirst (Generic feature) offers o → Resolves offers families feature (.ok o.service)
  | missing : families.bits ≠ 0 → (∀ o ∈ offers, ¬ Specific families feature o) →
      (∀ o ∈ offers, ¬ Generic feature o) → Resolves offers families feature
        (.error (.notFound s!"{feature.name} feature for ASIC type {families.toString}"))

theorem specific_iff : Specific families feature o ↔ o.service.feature = feature ∧
    o.families.isAll = false ∧ o.families.contains families = true := by
  rw [AsicType.contains_iff, AsicType.isAll, beq_eq_false_iff_ne]
  exact ⟨fun h => ⟨h.feature_eq, h.not_all, h.covers⟩, fun ⟨h, h', h''⟩ => ⟨h, h', h''⟩⟩

theorem generic_iff : Generic feature o ↔
    o.service.feature = feature ∧ o.families.isAll = true := by
  rw [AsicType.isAll, beq_iff_eq]
  exact ⟨fun h => ⟨h.feature_eq, h.is_all⟩, fun ⟨h, h'⟩ => ⟨h, h'⟩⟩

instance : DecidablePred (Specific (ω := ω) families feature) := fun _ =>
  decidable_of_iff _ specific_iff.symm

instance : DecidablePred (Generic (ω := ω) feature) := fun _ =>
  decidable_of_iff _ generic_iff.symm

/-- The scan remembers the first generic offer, and stops at the first specific one. -/
theorem choose_eq (fallback : Option (Service ω)) (offers : List (Offer ω)) :
    choose families fallback (offers.filter fun o => o.service.feature = feature) =
      ((offers.find? fun o => Specific families feature o).map (·.service)).or
        (fallback.or ((offers.find? fun o => Generic feature o).map (·.service))) := by
  -- the fallback is what the scan remembers, so the induction is about all of them
  induction offers generalizing fallback with
  | nil => cases fallback <;> rfl
  | cons o rest ih =>
    by_cases hfeature : o.service.feature = feature
    · rw [List.filter_cons_of_pos (by simpa using hfeature), choose]
      cases hall : o.families.isAll with
      | true =>
        have hgeneric : Generic feature o := generic_iff.2 ⟨hfeature, hall⟩
        have hnot : ¬ Specific families feature o := by
          intro h
          rw [specific_iff, hall] at h
          cases h.2.1
        rw [if_pos rfl, ih, List.find?_cons_of_neg (by simpa using hnot),
          List.find?_cons_of_pos (by simpa using hgeneric)]
        cases fallback <;> simp
      | false =>
        have hnot : ¬ Generic feature o := by
          intro h
          rw [generic_iff, hall] at h
          cases h.2
        have hskip : (o :: rest).find? (fun o => Generic feature o) =
            rest.find? fun o => Generic feature o := List.find?_cons_of_neg (by simpa using hnot)
        rw [if_neg Bool.false_ne_true, hskip]
        cases hcontains : o.families.contains families with
        | true =>
          have hspecific : Specific families feature o := specific_iff.2 ⟨hfeature, hall, hcontains⟩
          rw [if_pos rfl, List.find?_cons_of_pos (by simpa using hspecific)]
          rfl
        | false =>
          have hnot' : ¬ Specific families feature o := by
            intro h
            rw [specific_iff, hcontains] at h
            cases h.2.2
          rw [if_neg Bool.false_ne_true, ih, List.find?_cons_of_neg (by simpa using hnot')]
    · have hspecific : ¬ Specific families feature o := fun h => hfeature h.feature_eq
      have hgeneric : ¬ Generic feature o := fun h => hfeature h.feature_eq
      rw [List.filter_cons_of_neg (by simpa using hfeature), ih,
        List.find?_cons_of_neg (by simpa using hspecific),
        List.find?_cons_of_neg (by simpa using hgeneric)]

theorem resolve_of_empty (h : families.bits = 0) :
    r.resolve families feature =
      .error (.invalidParameter s!"{feature.name} lookup with an empty ASIC type") := by
  have hempty : families.isEmpty = true := by
    rw [AsicType.isEmpty, beq_iff_eq]
    exact h
  rw [resolve, hempty, if_pos rfl]

/-- A lookup searches for a specific offer, and failing that for a generic one. -/
theorem resolve_eq (h : families.bits ≠ 0) :
    r.resolve families feature =
      match (r.offers.find? fun o => Specific families feature o).or
        (r.offers.find? fun o => Generic feature o) with
      | some o => .ok o.service
      | none =>
        .error (.notFound s!"{feature.name} feature for ASIC type {families.toString}") := by
  have hempty : families.isEmpty = false := by
    rw [AsicType.isEmpty, beq_eq_false_iff_ne]
    exact h
  rw [resolve, hempty, if_neg Bool.false_ne_true]
  dsimp only
  rw [choose_eq, Option.none_or]
  cases r.offers.find? fun o => Specific families feature o with
  | some o => rfl
  | none =>
    cases r.offers.find? fun o => Generic feature o with
    | some o => rfl
    | none => rfl

/-- A lookup answers what it has to. -/
theorem resolves_resolve (r : Registry ω) (families : AsicType) (feature : FeatureId) :
    Resolves r.offers families feature (r.resolve families feature) := by
  by_cases h : families.bits = 0
  · rw [resolve_of_empty h]
    exact .nobody h
  · rw [resolve_eq h]
    cases hspecific : r.offers.find? fun o => Specific families feature o with
    | some o => exact .specific o h (isFirst_iff_find?.2 hspecific)
    | none =>
      have hnone := forall_not_iff_find?.2 hspecific
      cases hgeneric : r.offers.find? fun o => Generic feature o with
      | some o => exact .generic o h hnone (isFirst_iff_find?.2 hgeneric)
      | none => exact .missing h hnone (forall_not_iff_find?.2 hgeneric)

theorem Resolves.resolve_eq {answer : Except Error (Service ω)}
    (h : Resolves r.offers families feature answer) : r.resolve families feature = answer := by
  cases h with
  | nobody h => exact resolve_of_empty h
  | specific o h hfirst => rw [Registry.resolve_eq h, isFirst_iff_find?.1 hfirst, Option.some_or]
  | generic o h hnone hfirst =>
    rw [Registry.resolve_eq h, forall_not_iff_find?.1 hnone, isFirst_iff_find?.1 hfirst,
      Option.none_or]
  | missing h hnone hnone' =>
    rw [Registry.resolve_eq h, forall_not_iff_find?.1 hnone, forall_not_iff_find?.1 hnone',
      Option.none_or]

/-- **Lookups.** In a registry that is reached by any registrations, a lookup for no family
fails, and any other finds the first specific offer, or else the first generic one, or else
fails. Whatever is registered then, the answer stays if it came from a specific offer; if
it came from a generic one it stays or gives way to a specific offer of a later plugin; and
a feature that is found is not missing later. -/
theorem resolve_registerAll (capacity : Nat) (ps more : List (Plugin ω)) (families : AsicType)
    (feature : FeatureId) :
    let r := registerAll ps (.empty ω capacity)
    let r' := registerAll more r
    Resolves r.offers families feature (r.resolve families feature) ∧
    ∃ later, r'.plugins = r.plugins ++ later ∧
      (∀ o, families.bits ≠ 0 → IsFirst (Specific families feature) r.offers o →
        r'.resolve families feature = .ok o.service) ∧
      (∀ o, families.bits ≠ 0 → (∀ o' ∈ r.offers, ¬ Specific families feature o') →
        IsFirst (Generic feature) r.offers o →
        r'.resolve families feature = .ok o.service ∨
        ∃ o', IsFirst (Specific families feature) (later.flatMap (·.offers)) o' ∧
          r'.resolve families feature = .ok o'.service) ∧
      (∀ s, r.resolve families feature = .ok s → ∃ s', r'.resolve families feature = .ok s') := by
  intro r r'
  refine ⟨resolves_resolve r families feature, ?_⟩
  obtain ⟨later, hlater⟩ := registerAll_plugins more r
  have hoffers : r'.offers = r.offers ++ later.flatMap (·.offers) := offers_of_plugins hlater
  have hspecific : ∀ o, families.bits ≠ 0 → IsFirst (Specific families feature) r.offers o →
      r'.resolve families feature = .ok o.service := by
    intro o h hfirst
    refine Resolves.resolve_eq (.specific o h ?_)
    rw [hoffers]
    exact hfirst.append _
  have hgeneric : ∀ o, families.bits ≠ 0 → (∀ o' ∈ r.offers, ¬ Specific families feature o') →
      IsFirst (Generic feature) r.offers o →
      r'.resolve families feature = .ok o.service ∨
      ∃ o', IsFirst (Specific families feature) (later.flatMap (·.offers)) o' ∧
        r'.resolve families feature = .ok o'.service := by
    intro o h hnone hfirst
    rw [Registry.resolve_eq h, hoffers, List.find?_append, List.find?_append,
      forall_not_iff_find?.1 hnone, isFirst_iff_find?.1 hfirst, Option.none_or]
    -- the later plugins decide whether the fallback is still needed
    cases hfind : (later.flatMap (·.offers)).find? fun o => Specific families feature o with
    | some o' => exact .inr ⟨o', isFirst_iff_find?.2 hfind, rfl⟩
    | none => exact .inl rfl
  refine ⟨later, hlater, hspecific, hgeneric, ?_⟩
  intro s hs
  have hanswer := resolves_resolve r families feature
  rw [hs] at hanswer
  cases hanswer with
  | specific o h hfirst => exact ⟨o.service, hspecific o h hfirst⟩
  | generic o h hnone hfirst =>
    rcases hgeneric o h hnone hfirst with hstays | ⟨o', _, hgives⟩
    · exact ⟨o.service, hstays⟩
    · exact ⟨o'.service, hgives⟩

end Registry

end BufferTelemetry
