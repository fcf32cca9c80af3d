import BufferTelemetry.Proofs.Replica.Addresses

/-!
# An update that comes again

An update that is applied again leaves the replica as the first application left it
(`apply_again`). Each view of the replica is idempotent for a reason of its own: of a counter
the last report counts, which is the same one the second time (`Follows.again`); of a setting
the last valid value does, and realms are only added (`Delivery.revise_again`); and of the
identifiers of rows the last one does. The outcome is the same too but for the units that are
listed as changed. No realm is new the second time, and a setting can only change for a moment,
when the update delivers two values for it.
-/

namespace BufferTelemetry.Database

/-- Rows that are taken in again change no counter. -/
theorem Follows.again {rows : List Json} {s s' s'' : Store} (h : Follows rows s s')
    (h' : Follows rows s' s'') : Store.SameCounters s' s'' := by
  refine .of_counters h.numUnits_eq (h'.numUnits_eq.trans h.numUnits_eq) ?_
  intro unit c pos e hpos hcell
  obtain ⟨e', hcell', hlast⟩ := h.cell unit c pos e hpos hcell
  obtain ⟨e'', hcell'', hlast'⟩ := h'.cell unit c pos e' hpos hcell'
  rw [h.numUnits_eq] at hlast'
  rw [hcell'', hcell', hlast.again hlast']

namespace Delivery

variable (d : Delivery) (unit : UInt32) (old : Settings)

theorem revise_again : d.revise unit (d.revise unit old) = d.revise unit old := by
  refine Settings.ext_values ?_ ?_ (by simp)
  · intro key
    rw [value_revise, value_applyPairs, value_revise, value_applyPairs]
    cases (delivered key d.pairs).getLast? <;> rfl
  · show (old.trackingMask.union _).union _ = old.trackingMask.union _
    rw [TrackingMask.union_assoc, TrackingMask.union_self]

theorem not_changes_tracking_again : ¬ d.Changes unit (d.revise unit old) .tracking := by
  refine not_not_intro ?_
  show (old.trackingMask.union _).union _ = old.trackingMask.union _
  rw [TrackingMask.union_assoc, TrackingMask.union_self]

theorem changes_feature_again_iff :
    d.Changes unit (d.revise unit old) .feature ↔
      ∃ key, ∃ v ∈ delivered key d.pairs, ∃ w ∈ delivered key d.pairs, v ≠ w := by
  show (applyPairs d.pairs (d.revise unit old)).2 = true ↔ _
  rw [changed_applyPairs_congr d.pairs (d.value_revise unit old), changed_applyPairs_again_iff]

end Delivery

section Again

variable {r : Replica} (hsize : r.store.numUnits < UInt32.size) (updates : Json)

include hsize

theorem replica_apply_again :
    ((r.apply updates).replica.apply updates).replica = (r.apply updates).replica := by
  have hunits : (r.apply updates).replica.store.numUnits = r.store.numUnits :=
    numUnits_apply hsize
  have hsize' : (r.apply updates).replica.store.numUnits < UInt32.size := hunits.symm ▸ hsize
  have hstore : ((r.apply updates).replica.apply updates).replica.store =
      (r.apply updates).replica.store := by
    have hfirst := (apply_takesIn hsize updates).1
    have hsecond := (apply_takesIn hsize' updates).1
    refine Store.ext_views hsize' (hfirst.again hsecond) ?_
    intro unit
    rw [settings?_apply hsize', settings?_apply hsize, hunits, Option.map_map]
    congr 1
    funext old
    exact Delivery.revise_again _ unit old
  have hrow : ((r.apply updates).replica.apply updates).replica.settingsRow =
      (r.apply updates).replica.settingsRow := by
    rw [settingsRow_apply_addresses, settingsRow_apply_addresses, ← Option.or_assoc,
      Option.or_self]
  have hinitialized : ((r.apply updates).replica.apply updates).replica.initialized =
      (r.apply updates).replica.initialized := by
    rw [initialized_apply hsize', initialized_apply hsize, settingsSeen_apply hsize',
      settingsSeen_apply hsize, hunits, Bool.or_assoc, Bool.or_self]
  exact Replica.ext hstore hrow hinitialized

/-- The units that are listed the second time. -/
theorem mem_listed_apply_again (change : Change) (unit : UInt32) :
    unit ∈ ((r.apply updates).replica.apply updates).outcome.listed change ↔
      ∃ old, r.store.settings? unit = some old ∧
        (Delivery.ofUpdate r.store.numUnits updates).Changes unit
          ((Delivery.ofUpdate r.store.numUnits updates).revise unit old) change := by
  have hsize' : (r.apply updates).replica.store.numUnits < UInt32.size := by
    rwa [numUnits_apply hsize]
  rw [mem_listed_apply hsize', settings?_apply hsize, numUnits_apply hsize]
  simp only [Option.map_eq_some_iff]
  constructor
  · rintro ⟨_, ⟨old, hold, rfl⟩, hchanges⟩
    exact ⟨old, hold, hchanges⟩
  · rintro ⟨old, hold, hchanges⟩
    exact ⟨_, ⟨old, hold, rfl⟩, hchanges⟩

end Again

/-- **Replay.** An update that is applied a second time leaves the replica as it is. It counts
the same rows and triggers and sees settings as before, and no realm is new. A unit is listed
with changed settings only if the update delivers two different values for one setting, and so
none is if no key of a setting is repeated. -/
theorem apply_again (r : Replica) (hsize : r.store.numUnits < UInt32.size) (updates : Json) :
    let first := r.apply updates
    let second := first.replica.apply updates
    let pairs := settingsPairs updates
    second.replica = first.replica ∧
      second.outcome.rowsApplied = first.outcome.rowsApplied ∧
      second.outcome.rowsSkipped = first.outcome.rowsSkipped ∧
      second.outcome.triggers = first.outcome.triggers ∧
      second.outcome.settingsSeen = first.outcome.settingsSeen ∧
      second.outcome.trackingChanged = [] ∧
      (second.outcome.settingsChanged = [] ↔ r.store.numUnits = 0 ∨
        ∀ key, ∀ v ∈ delivered key pairs, ∀ w ∈ delivered key pairs, v = w) ∧
      ((∀ key : SettingsKey, (pairs.map Prod.fst).count key.name ≤ 1) →
        second.outcome.settingsChanged = []) := by
  intro first second pairs
  let d := Delivery.ofUpdate r.store.numUnits updates
  have hpairs : d.pairs = pairs := pairs_ofUpdate r.store.numUnits updates
  have hunits : first.replica.store.numUnits = r.store.numUnits := numUnits_apply hsize
  have hsize' : first.replica.store.numUnits < UInt32.size := hunits.symm ▸ hsize
  obtain ⟨-, happlied, hskipped⟩ := apply_takesIn hsize updates
  obtain ⟨-, happlied', hskipped'⟩ := apply_takesIn hsize' updates
  rw [hunits] at happlied' hskipped'
  have hlisted : ∀ unit, unit ∈ second.outcome.settingsChanged ↔
      ∃ old, r.store.settings? unit = some old ∧ d.Changes unit (d.revise unit old) .feature :=
    mem_listed_apply_again hsize updates .feature
  -- a unit is listed if there is one at all and two values differ
  have hempty : second.outcome.settingsChanged = [] ↔ r.store.numUnits = 0 ∨
      ∀ key, ∀ v ∈ delivered key pairs, ∀ w ∈ delivered key pairs, v = w := by
    simp only [List.eq_nil_iff_forall_not_mem, hlisted, d.changes_feature_again_iff, hpairs]
    constructor
    · intro hnone
      by_cases hzero : r.store.numUnits = 0
      · exact .inl hzero
      · refine .inr fun key v hv w hw => Classical.byContradiction fun hne => ?_
        have hfirst : (0 : UInt32).toNat < r.store.numUnits := Nat.pos_of_ne_zero hzero
        obtain ⟨old, hold⟩ := Store.exists_settings hfirst
        exact hnone 0 ⟨old, hold, key, v, hv, w, hw, hne⟩
    · rintro (hzero | hsame) unit ⟨old, hold, key, v, hv, w, hw, hne⟩
      · have := Store.lt_of_settings? hold
        omega
      · exact hne (hsame key v hv w hw)
  refine ⟨replica_apply_again hsize updates, happlied'.trans happlied.symm,
    hskipped'.trans hskipped.symm, ?_, ?_, ?_, hempty, ?_⟩
  · show (first.replica.apply updates).outcome.triggers = (r.apply updates).outcome.triggers
    rw [triggers_apply hsize', triggers_apply hsize, hunits]
  · show (first.replica.apply updates).outcome.settingsSeen =
      (r.apply updates).outcome.settingsSeen
    rw [settingsSeen_apply hsize', settingsSeen_apply hsize, hunits]
  · rw [List.eq_nil_iff_forall_not_mem]
    intro unit hmem
    obtain ⟨old, -, hchanges⟩ := (mem_listed_apply_again hsize updates .tracking unit).1 hmem
    exact d.not_changes_tracking_again unit old hchanges
  · intro hcount
    refine hempty.2 (.inr ?_)
    intro key v hv w hw
    rw [delivered_eq_singleton (hcount key) hv, List.mem_singleton] at hw
    exact hw.symm

/-- An update that reports one counter twice, under different spellings, and delivers settings
in two rows, of which the first has an identifier. -/
def stutter : Json :=
  .obj [
    (counterTable, .obj [("a", queueRow "egress-uc-queue/uc-buffer-count/5/NONE" 7),
      ("b", queueRow "egress-uc-queue/uc-buffer-count/+05" 9)]),
    (systemTable, .obj [
      ("550e8400-e29b-41d4-a716-446655440000", .obj [("new", .obj [(settingsColumn,
        ofPairs [("enabled", .str "true"), ("unknown", .int 1)])])]),
      ("row", .obj [("new", .obj [(settingsColumn,
        ofPairs [("collection_period", .str "60"), ("unknown", .str "x")])])])])]

/-- Both rows count each time, and the second time nothing is listed. -/
theorem apply_again_stutter :
    let r := Replica.initial 1
    r.store.numUnits < UInt32.size ∧
      (∀ key : SettingsKey, ((settingsPairs stutter).map Prod.fst).count key.name ≤ 1) ∧
      ((r.apply stutter).replica.apply stutter).replica = (r.apply stutter).replica ∧
      ((r.apply stutter).replica.apply stutter).outcome.rowsApplied = 2 ∧
      ((r.apply stutter).replica.apply stutter).outcome.settingsSeen = true ∧
      ((r.apply stutter).replica.apply stutter).outcome.trackingChanged = [] ∧
      ((r.apply stutter).replica.apply stutter).outcome.settingsChanged = [] := by
  intro r
  have hsize : r.store.numUnits < UInt32.size := by decide
  have hcount : ∀ key : SettingsKey,
      ((settingsPairs stutter).map Prod.fst).count key.name ≤ 1 := by
    intro key
    cases key <;> decide
  have hrows : (counterRows stutter).countP (fun row => Accepted r.store.numUnits row) = 2 := by
    rfl
  have hseen : (Delivery.ofUpdate r.store.numUnits stutter).rows.isEmpty = false := rfl
  obtain ⟨hreplica, happlied, -, -, hagain, htracking, -, hsettings⟩ :=
    apply_again r hsize stutter
  refine ⟨hsize, hcount, hreplica, ?_, ?_, htracking, hsettings hcount⟩
  · rw [happlied, (apply_takesIn hsize stutter).2.1, hrows]
  · rw [hagain, settingsSeen_apply hsize, hseen]
    rfl

end BufferTelemetry.Database
