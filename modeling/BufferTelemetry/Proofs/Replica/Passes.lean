import BufferTelemetry.Database.Replica
import BufferTelemetry.Proofs.Settings.Pairs
import BufferTelemetry.Proofs.Store.Configurations

/-!
# Passes over the units

The settings of the units change in passes: one adds the realms that counter rows show to
be collected, another applies pairs of settings. Both visit every unit once, in ascending
order, revise its settings by a function, and list and publish the units that the function
reports. `Revises` is this common shape; each pass is shown for one unit
(`mergeTracking_revises`, `applySettingsTo_revises`) and then for all of them
(`foldl_revises`).
-/

namespace BufferTelemetry.Database

attribute [ext] Outcome Replica

/-- The units with a change of the given kind. -/
def Outcome.listed (o : Outcome) : Change → List UInt32
  | .tracking => o.trackingChanged
  | .feature => o.settingsChanged

/-- The outcome with more units listed for a change. -/
def Outcome.list (o : Outcome) : Change → List UInt32 → Outcome
  | .tracking, units => { o with trackingChanged := o.trackingChanged ++ units }
  | .feature, units => { o with settingsChanged := o.settingsChanged ++ units }

@[simp]
theorem Outcome.list_nil (o : Outcome) (change : Change) : o.list change [] = o := by
  cases change <;> simp [list]

theorem Outcome.list_append (o : Outcome) (change : Change) (units more : List UInt32) :
    o.list change (units ++ more) = (o.list change units).list change more := by
  cases change <;> simp [list]

/-- The unit of which an event publishes a change of the given kind. -/
def changedUnit? (change : Change) : Event → Option UInt32
  | .configChanged unit c => if c = change then some unit else none
  | .trigger .. => none

/-- The units of which events publish a change of the given kind. -/
def changedUnits (change : Change) (events : List Event) : List UInt32 :=
  events.filterMap (changedUnit? change)

theorem changedUnits_append (change : Change) (events more : List Event) :
    changedUnits change (events ++ more) = changedUnits change events ++ changedUnits change more :=
  List.filterMap_append

theorem changedUnits_configChanged (change c : Change) (units : List UInt32) :
    changedUnits change (units.map (.configChanged · c)) = if c = change then units else [] := by
  induction units with
  | nil => simp [changedUnits]
  | cons unit rest ih =>
    by_cases hc : c = change
    · simpa [changedUnits, changedUnit?, hc] using ih
    · simp [changedUnits, changedUnit?, hc]

/-! ## Units -/

section Units

variable {r : Replica} {unit : UInt32}

theorem toNat_lt_of_mem_units (h : unit ∈ r.units) : unit.toNat < r.store.numUnits := by
  obtain ⟨i, hi, rfl⟩ := List.mem_map.1 h
  rw [List.mem_range] at hi
  have hle : (UInt32.ofNat i).toNat ≤ i := by
    rw [UInt32.toNat_ofNat']
    exact Nat.mod_le _ _
  omega

theorem mem_units : unit ∈ r.units ↔ unit.toNat < r.store.numUnits := by
  refine ⟨toNat_lt_of_mem_units, ?_⟩
  intro h
  exact List.mem_map.2 ⟨unit.toNat, List.mem_range.2 h, UInt32.ofNat_toNat⟩

/-- The units are visited in ascending order. -/
theorem units_ascending (hsize : r.store.numUnits < UInt32.size) :
    r.units.Pairwise (· < ·) := by
  rw [Replica.units, List.pairwise_map]
  refine List.pairwise_lt_range.imp_of_mem ?_
  intro i j hi hj hlt
  have hj' : j < UInt32.size := Nat.lt_trans (List.mem_range.1 hj) hsize
  rw [UInt32.lt_iff_toNat_lt, UInt32.toNat_ofNat_of_lt' hj',
    UInt32.toNat_ofNat_of_lt' (Nat.lt_trans hlt hj')]
  exact hlt

theorem units_nodup (hsize : r.store.numUnits < UInt32.size) : r.units.Nodup :=
  (units_ascending hsize).imp fun hlt heq => by
    rw [heq] at hlt
    exact absurd hlt (UInt32.lt_irrefl _)

/-- Settings are applied to all units, unless there are too many of them to count. -/
theorem settingsUnits_eq (hsize : r.store.numUnits < UInt32.size) : r.settingsUnits = r.units := by
  rw [Replica.settingsUnits, UInt32.toNat_ofNat_of_lt' hsize, Replica.units]

end Units

namespace Progress

/-- A revision of settings, unit by unit, that reports what it has changed. -/
abbrev Revision := UInt32 → Settings → Settings × Bool

/-- The units whose settings a revision reports as changed. -/
def reported (f : Revision) (s : Store) (units : List UInt32) : List UInt32 :=
  units.filter fun unit => (s.settings? unit).any fun old => (f unit old).2

/-- The second progress comes from the first by a pass over units, which revises their
settings, and lists and publishes those that are reported as changed. -/
structure Revises (change : Change) (f : Revision) (units : List UInt32) (p q : Progress) :
    Prop where
  counters : Store.SameCounters p.replica.store q.replica.store
  settings : ∀ unit, q.replica.store.settings? unit =
    if unit ∈ units then (p.replica.store.settings? unit).map fun old => (f unit old).1
    else p.replica.store.settings? unit
  others : q = {
    replica := { p.replica with store := q.replica.store }
    outcome := p.outcome.list change (reported f p.replica.store units)
    events := p.events ++
      (reported f p.replica.store units).map (.configChanged · change) }

namespace Revises

variable {change : Change} {f : Revision} {unit : UInt32} {units : List UInt32}
  {p q q' : Progress}

theorem refl (p : Progress) : Revises change f [] p p where
  counters := .refl _
  settings unit := by simp
  others := by simp [reported]

theorem numUnits_eq (h : Revises change f units p q) :
    q.replica.store.numUnits = p.replica.store.numUnits := h.counters.1

/-- A pass goes on with units that it has not visited. -/
theorem cons (h : Revises change f [unit] p q) (h' : Revises change f units q q')
    (hnew : unit ∉ units) : Revises change f (unit :: units) p q' := by
  -- the units that follow are found with the settings that they had at first
  have hsame : ∀ v ∈ units, q.replica.store.settings? v = p.replica.store.settings? v := by
    intro v hv
    have hne : v ∉ [unit] := by
      rw [List.mem_singleton]
      rintro rfl
      exact hnew hv
    rw [h.settings, if_neg hne]
  have hreported : reported f p.replica.store (unit :: units) =
      reported f p.replica.store [unit] ++ reported f q.replica.store units := by
    have hrest : reported f q.replica.store units = reported f p.replica.store units := by
      refine List.filter_congr ?_
      intro v hv
      rw [hsame v hv]
    rw [hrest, reported, reported, reported, ← List.filter_append, List.singleton_append]
  refine ⟨⟨h'.counters.1.trans h.counters.1, ?_⟩, ?_, ?_⟩
  · intro v pos
    exact (h'.counters.2 v pos).trans (h.counters.2 v pos)
  · intro v
    rw [h'.settings]
    by_cases hv : v ∈ units
    · rw [if_pos hv, if_pos (List.mem_cons_of_mem _ hv), hsame v hv]
    · simp only [h.settings, List.mem_cons, hv, List.not_mem_nil, if_false]
  · have hp := h.others
    have hq := h'.others
    rw [hreported, Outcome.list_append, List.map_append, ← List.append_assoc]
    rw [hq]
    rw [hp]

end Revises

/-- Revising the settings of one unit that exists. -/
theorem revises_configure (change : Change) (f : Revision) {unit : UInt32} {old : Settings}
    {p : Progress} (hold : p.replica.store.settings? unit = some old) :
    Revises change f [unit] p {
      replica := { p.replica with
        store := p.replica.store.configure unit fun s => (f unit s).1 }
      outcome := p.outcome.list change (if (f unit old).2 then [unit] else [])
      events := p.events ++ if (f unit old).2 then [.configChanged unit change] else [] } := by
  have hreported : reported f p.replica.store [unit] = if (f unit old).2 then [unit] else [] := by
    simp [reported, hold, List.filter_cons]
  refine ⟨Store.configure_sameCounters, ?_, ?_⟩
  · intro v
    simp only [Store.settings?_configure, List.mem_singleton]
    split
    · rename_i hv
      rw [hv]
    · rfl
  · rw [hreported]
    split <;> simp

/-- How the realms of observations are added to the settings of a unit. -/
def mergeRealms (os : List Observation) : Revision := fun unit old =>
  let merged := old.trackingMask.union (Observation.collectedRealms os unit)
  ({ old with trackingMask := merged }, merged ≠ old.trackingMask)

theorem mergeTracking_revises (os : List Observation) {p : Progress} {unit : UInt32}
    (hu : unit.toNat < p.replica.store.numUnits) :
    Revises .tracking (mergeRealms os) [unit] p (p.mergeTracking os unit) := by
  obtain ⟨old, hold⟩ := Store.exists_settings hu
  have hrevises := revises_configure .tracking (mergeRealms os) hold
  have hmerge : p.replica.store.mergeTracking unit (Observation.collectedRealms os unit) =
      .ok ((mergeRealms os unit old).2,
        p.replica.store.configure unit fun s => (mergeRealms os unit s).1) :=
    Store.updateSettings_eq _ hold
  unfold mergeTracking
  cases hchanged : (mergeRealms os unit old).2 with
  | true =>
    simp only [hchanged, if_true] at hmerge hrevises
    rw [hmerge]
    exact hrevises
  | false =>
    -- no realm is new, so nothing is recorded, and nothing would have changed
    have hself : (mergeRealms os unit old).1 = old := by
      have hmask : old.trackingMask.union (Observation.collectedRealms os unit) =
          old.trackingMask := by simpa [mergeRealms] using hchanged
      simp [mergeRealms, hmask]
    have hstore : (p.replica.store.configure unit fun s => (mergeRealms os unit s).1) =
        p.replica.store := Store.configure_eq_self hold hself
    simp only [hchanged, hstore, Bool.false_eq_true, if_false, Outcome.list_nil,
      List.append_nil] at hmerge hrevises
    rw [hmerge]
    exact hrevises

theorem applySettingsTo_revises (pairs : List (String × String)) {p : Progress} {unit : UInt32}
    (hu : unit.toNat < p.replica.store.numUnits) :
    Revises .feature (fun _ => applyPairs pairs) [unit] p (p.applySettingsTo pairs unit) := by
  obtain ⟨old, hold⟩ := Store.exists_settings hu
  have hrevises := revises_configure .feature (fun _ => applyPairs pairs) hold
  have hupdate := Store.updateSettings_eq (applyPairs pairs) hold
  unfold applySettingsTo
  cases hchanged : (applyPairs pairs old).2 with
  | true =>
    simp only [hchanged, if_true] at hupdate hrevises
    rw [hupdate]
    exact hrevises
  | false =>
    simp only [hchanged, Bool.false_eq_true, if_false, Outcome.list_nil, List.append_nil]
      at hupdate hrevises
    rw [hupdate]
    exact hrevises

/-- **Passes.** What a step does to one unit, a pass over different units does to each. -/
theorem foldl_revises {change : Change} {f : Revision} {step : Progress → UInt32 → Progress}
    (hstep : ∀ p unit, unit.toNat < p.replica.store.numUnits →
      Revises change f [unit] p (step p unit))
    {units : List UInt32} {p : Progress} (hnodup : units.Nodup)
    (hunits : ∀ unit ∈ units, unit.toNat < p.replica.store.numUnits) :
    Revises change f units p (units.foldl step p) := by
  induction units generalizing p with
  | nil => exact .refl p
  | cons unit rest ih =>
    rw [List.nodup_cons] at hnodup
    have hfirst := hstep p unit (hunits unit List.mem_cons_self)
    refine hfirst.cons (ih hnodup.2 ?_) hnodup.1
    intro v hv
    rw [hfirst.numUnits_eq]
    exact hunits v (List.mem_cons_of_mem _ hv)

end Progress

end BufferTelemetry.Database
