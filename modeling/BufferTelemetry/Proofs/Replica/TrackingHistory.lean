import BufferTelemetry.Proofs.Replica.Listing

/-!
# The collected realms only grow

An update adds to the realms that a unit collects exactly those of which its counter rows show
that they are collected, and lists the unit if one of them is new (`tracking_apply`). A new
realm is one that was missing, and no update takes a realm away. So over a run of updates the
number of events about the collected realms of a unit and the number of its missing realms
together do not grow (`tracking_absorb`), and at most eleven such events are published, however
long the run is.
-/

namespace BufferTelemetry

namespace Database

/-- The row is accepted, and it says that some counter in a realm of the unit is collected. -/
def ShowsCollected (numUnits : Nat) (row : Json) (unit : UInt32) (realm : Realm) : Prop :=
  ∃ c e, Reports numUnits row unit c e ∧ e.enabled = true ∧ c.kind.realm = realm

/-! ## The realms that rows show -/

namespace Observation

/-- The realms of the collected counters of a unit, one for each observation of one. -/
def realmsShown (os : List Observation) (unit : UInt32) : List Realm :=
  (os.filter fun o => o.unit = unit ∧ o.enabled).map (·.counter.kind.realm)

theorem collectedRealms_eq (os : List Observation) (unit : UInt32) :
    collectedRealms os unit = (realmsShown os unit).foldl .enable .empty := by
  simp only [realmsShown, List.foldl_map, List.foldl_filter, collectedRealms, decide_eq_true_eq]

theorem mem_realmsShown {n : Nat} (hn : n < UInt32.size) {rows : List Json} {unit : UInt32}
    {realm : Realm} :
    realm ∈ realmsShown (rows.filterMap (ofRow? n)) unit ↔
      ∃ row ∈ rows, ShowsCollected n row unit realm := by
  simp only [realmsShown, List.mem_map, List.mem_filter, List.mem_filterMap, decide_eq_true_eq]
  constructor
  · rintro ⟨o, ⟨⟨row, hrow, ho⟩, hunit, henabled⟩, hrealm⟩
    have hreports : Reports n row unit o.counter o.stored :=
      (reports_iff_ofRow? hn).2 ⟨o, ho, hunit, rfl, rfl⟩
    exact ⟨row, hrow, o.counter, o.stored, hreports, henabled, hrealm⟩
  · rintro ⟨row, hrow, c, e, hreports, henabled, hrealm⟩
    obtain ⟨o, ho, hunit, hsame, rfl⟩ := (reports_iff_ofRow? hn).1 hreports
    rw [← Counter.kind_eq_of_canonical_eq hsame] at hrealm
    exact ⟨o, ⟨⟨row, hrow, ho⟩, hunit, henabled⟩, hrealm⟩

end Observation

/-! ## One update -/

theorem count_configChanged (events : List Event) (unit : UInt32) (change : Change) :
    events.count (.configChanged unit change) = (changedUnits change events).count unit := by
  rw [changedUnits, List.count_filterMap, List.count_eq_countP]
  refine List.countP_congr ?_
  intro e _
  rw [beq_iff_eq, beq_iff_eq]
  cases e with
  | trigger asic info => simp [changedUnit?]
  | configChanged asic c =>
    by_cases hc : c = change
    · simp [changedUnit?, hc]
    · simp [changedUnit?, hc]

theorem tracking_apply {r : Replica} (updates : Json) (hsize : r.store.numUnits < UInt32.size)
    {unit : UInt32} {old : Settings} (hold : r.store.settings? unit = some old) :
    ∃ (new : Settings) (realms : List Realm),
      (r.apply updates).replica.store.settings? unit = some new ∧
      new.trackingMask = realms.foldl .enable old.trackingMask ∧
      (∀ realm, realm ∈ realms ↔
        ∃ row ∈ counterRows updates, ShowsCollected r.store.numUnits row unit realm) ∧
      (unit ∈ (r.apply updates).outcome.trackingChanged ↔
        old.trackingMask < new.trackingMask) := by
  let d := Delivery.ofUpdate r.store.numUnits updates
  let realms := Observation.realmsShown d.observations unit
  have hmask : (d.revise unit old).trackingMask = realms.foldl .enable old.trackingMask := by
    rw [TrackingMask.foldl_enable, ← Observation.collectedRealms_eq]
    rfl
  refine ⟨d.revise unit old, realms, ?_, hmask, fun _ => Observation.mem_realmsShown hsize, ?_⟩
  · rw [settings?_apply hsize, hold]
    rfl
  · have hlisted : unit ∈ (r.apply updates).outcome.trackingChanged ↔
        ∃ old, r.store.settings? unit = some old ∧ d.Changes unit old .tracking :=
      mem_listed_apply hsize .tracking unit
    have hgrows : d.Changes unit old .tracking ↔
        old.trackingMask < (d.revise unit old).trackingMask :=
      TrackingMask.lt_union_iff.symm
    rw [hlisted, ← hgrows]
    simp [hold]

/-- One event is published for a unit that is listed, and none for any other. -/
theorem count_tracking_apply {r : Replica} {updates : Json}
    (hsize : r.store.numUnits < UInt32.size) (hdistinct : updates.Distinct) (unit : UInt32) :
    (r.apply updates).events.count (.configChanged unit .tracking) =
      if unit ∈ (r.apply updates).outcome.trackingChanged then 1 else 0 := by
  have hnodup : (r.apply updates).outcome.trackingChanged.Nodup := by
    refine (listed_ascending hsize hdistinct .tracking).imp ?_
    intro a b hlt
    exact UInt32.ne_of_lt hlt
  have hunits : changedUnits .tracking (r.apply updates).events =
      (r.apply updates).outcome.trackingChanged := changedUnits_apply hsize .tracking
  rw [count_configChanged, hunits, hnodup.count]

/-! ## Runs -/

/-- An update publishes an event for a unit only if fewer of its realms are missing then. -/
theorem tracking_absorbOne {x : Replica × List Event} (hsize : x.1.store.numUnits < UInt32.size)
    {updates : Json} (hdistinct : updates.Distinct) {unit : UInt32} {old : Settings}
    (hold : x.1.store.settings? unit = some old) : ∃ new,
      (absorbOne x updates).1.store.settings? unit = some new ∧
      old.trackingMask ≤ new.trackingMask ∧
      (absorbOne x updates).2.count (.configChanged unit .tracking) +
          new.trackingMask.missing.length ≤
        x.2.count (.configChanged unit .tracking) + old.trackingMask.missing.length := by
  obtain ⟨new, realms, hnew, hmask, -, hlisted⟩ := tracking_apply updates hsize hold
  have hle : old.trackingMask ≤ new.trackingMask := by
    rw [hmask]
    exact old.trackingMask.le_foldl_enable realms
  refine ⟨new, hnew, hle, ?_⟩
  have hevents : (absorbOne x updates).2.count (.configChanged unit .tracking) =
      x.2.count (.configChanged unit .tracking) +
        if unit ∈ (x.1.apply updates).outcome.trackingChanged then 1 else 0 := by
    rw [← count_tracking_apply hsize hdistinct, ← List.count_append]
    rfl
  rw [hevents]
  by_cases hmem : unit ∈ (x.1.apply updates).outcome.trackingChanged
  · have hlt : new.trackingMask.missing.length < old.trackingMask.missing.length := by
      have hgrows := hlisted.1 hmem
      rw [hmask] at hgrows ⊢
      exact TrackingMask.length_missing_lt hgrows
    rw [if_pos hmem]
    omega
  · have hfewer := (TrackingMask.missing_sublist hle).length_le
    rw [if_neg hmem]
    omega

/-- What one update does not let grow, a run of them does not either. -/
theorem tracking_absorb (run : List Json) (hdistinct : ∀ updates ∈ run, updates.Distinct)
    {x : Replica × List Event} (hsize : x.1.store.numUnits < UInt32.size) {unit : UInt32}
    {old : Settings} (hold : x.1.store.settings? unit = some old) : ∃ new,
      (absorb run x).1.store.settings? unit = some new ∧
      old.trackingMask ≤ new.trackingMask ∧
      (absorb run x).2.count (.configChanged unit .tracking) +
          new.trackingMask.missing.length ≤
        x.2.count (.configChanged unit .tracking) + old.trackingMask.missing.length := by
  induction run generalizing x old with
  | nil => exact ⟨old, hold, le_refl _, Nat.le_refl _⟩
  | cons updates rest ih =>
    obtain ⟨mid, hmid, hle, hcount⟩ :=
      tracking_absorbOne hsize (hdistinct updates List.mem_cons_self) hold
    have hsize' : (absorbOne x updates).1.store.numUnits < UInt32.size := by
      rw [absorbOne, numUnits_apply hsize]
      exact hsize
    have hrest : ∀ later ∈ rest, later.Distinct := by
      intro later hlater
      exact hdistinct later (List.mem_cons_of_mem updates hlater)
    obtain ⟨new, hnew, hle', hcount'⟩ := ih hrest hsize' hmid
    rw [Feed.absorb_cons]
    exact ⟨new, hnew, le_trans hle hle', Nat.le_trans hcount' hcount⟩

/-- **The collected realms only grow.** An update adds to the realms of a unit those of which an
accepted row of the unit says that they are collected, and no others. It lists the unit exactly
if one of them is new, in ascending order and once, and publishes one event for each unit that
it lists. So in a run of updates a unit keeps every realm, and at most eleven events about its
realms are published. -/
theorem tracking_of_updates (r : Replica) (hsize : r.store.numUnits < UInt32.size) :
    -- one update
    (∀ updates : Json, updates.Distinct →
      let after := r.apply updates
      (∀ unit old, r.store.settings? unit = some old → ∃ (new : Settings) (realms : List Realm),
        after.replica.store.settings? unit = some new ∧
        new.trackingMask = realms.foldl .enable old.trackingMask ∧
        (∀ realm, realm ∈ realms ↔
          ∃ row ∈ counterRows updates, ShowsCollected r.store.numUnits row unit realm) ∧
        (unit ∈ after.outcome.trackingChanged ↔ old.trackingMask < new.trackingMask)) ∧
      (∀ unit ∈ after.outcome.trackingChanged, unit.toNat < r.store.numUnits) ∧
      after.outcome.trackingChanged.Pairwise (· < ·) ∧
      ∀ unit, after.events.count (.configChanged unit .tracking) =
        if unit ∈ after.outcome.trackingChanged then 1 else 0) ∧
    -- a run of updates
    ∀ run : List Json, (∀ updates ∈ run, updates.Distinct) →
      ∀ unit old, r.store.settings? unit = some old → ∃ new,
        (absorb run (r, [])).1.store.settings? unit = some new ∧
        old.trackingMask ≤ new.trackingMask ∧
        (absorb run (r, [])).2.count (.configChanged unit .tracking) ≤ 11 := by
  refine ⟨?_, ?_⟩
  · intro updates hdistinct after
    refine ⟨fun unit old hold => tracking_apply updates hsize hold, ?_,
      listed_ascending hsize hdistinct .tracking, count_tracking_apply hsize hdistinct⟩
    intro unit hmem
    obtain ⟨old, hold, -⟩ := (mem_listed_apply hsize .tracking unit).1 hmem
    exact Store.lt_of_settings? hold
  · intro run hdistinct unit old hold
    obtain ⟨new, hnew, hle, hcount⟩ := tracking_absorb run hdistinct (x := (r, [])) hsize hold
    have hmissing := old.trackingMask.length_missing_le
    refine ⟨new, hnew, hle, ?_⟩
    rw [List.count_nil] at hcount
    omega

/-- Two realms of the first unit are shown to be collected. -/
def enabling : Json :=
  .obj [(counterTable, .obj [("a", queueRow "egress-uc-queue/uc-buffer-count/5/NONE" 7),
    ("b", queueRow "device/data/NONE/NONE" 1)])]

/-- The unit is listed and an event is published for it, as both realms are new. -/
theorem tracking_of_updates_enabling :
    (Replica.initial 2).store.numUnits < UInt32.size ∧ enabling.Distinct ∧
      (Replica.initial 2).store.settings? 0 = some .initial ∧
      (∃ new, ((Replica.initial 2).apply enabling).replica.store.settings? 0 = some new ∧
        Settings.initial.trackingMask < new.trackingMask) ∧
      ((Replica.initial 2).apply enabling).events.count (.configChanged 0 .tracking) = 1 ∧
      (absorb [enabling, enabling] (.initial 2, [])).2.count (.configChanged 0 .tracking) ≤ 11 := by
  have hsize : (Replica.initial 2).store.numUnits < UInt32.size := by decide
  have hdistinct : enabling.Distinct := by decide
  have hinitial : (Replica.initial 2).store.settings? 0 = some .initial := rfl
  obtain ⟨hupdate, hrun⟩ := tracking_of_updates (.initial 2) hsize
  obtain ⟨hmask, -, -, hcount⟩ := hupdate enabling hdistinct
  obtain ⟨new, -, hnew, -, -, hlisted⟩ := hmask 0 .initial hinitial
  have hmem : 0 ∈ ((Replica.initial 2).apply enabling).outcome.trackingChanged := by
    have hlist : ((Replica.initial 2).apply enabling).outcome.trackingChanged = [0] := by rfl
    rw [hlist, List.mem_singleton]
  obtain ⟨-, -, -, heleven⟩ := hrun [enabling, enabling] (by simp [hdistinct]) 0 .initial hinitial
  refine ⟨hsize, hdistinct, hinitial, ⟨new, hnew, hlisted.1 hmem⟩, ?_, heleven⟩
  rw [hcount, if_pos hmem]

end Database

end BufferTelemetry
