import BufferTelemetry.Proofs.Commit.Settings
import BufferTelemetry.Proofs.Settings.RoundTrip

/-!
# The echo of a commit

The database reports every change back, also one that the agent has committed itself. The map
of settings that a commit writes is read back as these settings (`delivered_settingsMap`), but
the store does not hold them as they were written: a limit of triggers that is not configured
has been replaced by the default. So the echo is silent exactly when a limit is configured
(`Backend.setSettings_echo`), although what is read of the settings stays the same.
-/

namespace BufferTelemetry

@[simp]
theorem Settings.trackingMask_withTriggerDefault (s : Settings) :
    s.withTriggerDefault.trackingMask = s.trackingMask := by
  unfold withTriggerDefault
  split <;> rfl

@[simp]
theorem Settings.trackInit_withTriggerDefault (s : Settings) :
    s.withTriggerDefault.trackInit = s.trackInit := by
  unfold withTriggerDefault
  split <;> rfl

theorem Settings.withTriggerDefault_again (s : Settings) :
    s.withTriggerDefault.withTriggerDefault = s.withTriggerDefault := by
  by_cases hlimit : s.maxTriggers = 0
  · simp [withTriggerDefault, hlimit, defaultMaxTriggers]
  · simp [withTriggerDefault, hlimit]

namespace Database

open Rpc

section Echo

variable {r : Replica} {unit : UInt32} {c : Settings} {updates : Json}
  (hsize : r.store.numUnits < UInt32.size)
  (hstored : r.store.settings? unit = some c.withTriggerDefault)
  (hecho : settingsMaps updates = [settingsMap c])

include hecho in
theorem settingsPairs_echo : settingsPairs updates = textPairs (settingsMap c) := by
  simp [settingsPairs, hecho]

include hsize hstored hecho

/-- The echo lists a unit that has been given the settings exactly if no limit of triggers
is configured, for then it takes the default back. -/
theorem mem_settingsChanged_echo :
    unit ∈ (r.apply updates).outcome.settingsChanged ↔ c.maxTriggers = 0 := by
  have hlisted : unit ∈ (r.apply updates).outcome.settingsChanged ↔
      ∃ key, c.value key ≠ c.withTriggerDefault.value key := by
    refine (mem_listed_apply hsize .feature unit).trans ?_
    simp [hstored, Delivery.Changes, pairs_ofUpdate, settingsPairs_echo hecho,
      changed_applyPairs_iff, delivered_settingsMap]
  rw [hlisted]
  constructor
  · rintro ⟨key, hne⟩
    refine Classical.byContradiction fun hlimit => hne ?_
    rw [Settings.withTriggerDefault, if_neg hlimit]
  · intro hlimit
    refine ⟨.triggerRateLimit, ?_⟩
    rw [Settings.withTriggerDefault, if_pos hlimit]
    show c.maxTriggers ≠ Settings.defaultMaxTriggers
    rw [hlimit]
    decide

/-- The echo alone leaves the unit with the settings as they were given. -/
theorem settings?_echo (hnone : counterRows updates = []) :
    (r.apply updates).replica.store.settings? unit = some c := by
  rw [settings?_apply hsize, hstored, Option.map_some, Option.some.injEq]
  refine Settings.ext_values ?_ ?_ ?_
  · intro key
    rw [Delivery.value_revise, value_applyPairs, pairs_ofUpdate, settingsPairs_echo hecho,
      delivered_settingsMap]
    rfl
  · have hrealms : (Delivery.ofUpdate r.store.numUnits updates).realms unit = .empty := by
      simp [Delivery.realms, Delivery.ofUpdate, hnone, Observation.collectedRealms]
    show c.withTriggerDefault.trackingMask.union _ = c.trackingMask
    rw [hrealms, TrackingMask.union_empty, Settings.trackingMask_withTriggerDefault]
  · rw [Delivery.trackInit_revise, Settings.trackInit_withTriggerDefault]

end Echo

/-- The map of settings that a transaction writes, if it writes one. -/
def committedMap? (params : Json) : Option Json := do
  let update ← params.item? 1
  (← update.get? "row").get? settingsColumn

namespace Backend

variable {σ : Type}

theorem committedMap?_settingsUpdates (a : Access) (row : Uuid) (settings : Settings) :
    (settingsUpdates a row settings).filterMap committedMap? =
      [settingsMap (committedSettings settings)] := by
  have htracking : ∀ mask realms,
      (Access.trackingUpdates a mask realms).filterMap committedMap? = [] := by
    intro mask realms
    rw [List.filterMap_eq_nil_iff]
    intro params hmem
    obtain ⟨realm, -, rfl⟩ := List.mem_map.1 hmem
    rfl
  have hfirst : committedMap? (settingsUpdate a.database row (committedSettings settings)) =
      some (settingsMap (committedSettings settings)) := rfl
  rw [settingsUpdates, List.filterMap_cons_some hfirst]
  cases settings.trackInit <;> simp [htracking]

/-- **The echo of a change of settings.** A change of the settings of the one unit that
succeeds has written one map of settings, that of the settings with the collection of triggers
turned on. When the database reports this map back, what is read of the settings stays the
same. The unit is not listed and no change is published exactly when a limit of triggers is
configured. -/
theorem setSettings_echo (t : Transport σ) (a : Access) (asics : List Asic) (c : Settings)
    (b b' : Backend (Recorded σ)) (hunits : b.store.numUnits = 1)
    (hset : (service t.recorded a asics).setSettings 0 c b = (.ok (), b')) :
    let committed := settingsMap { c with triggerCollectionEnabled := true }
    (∃ ms : List (ConnId × Message), b'.world.written = b.world.written ++ lines ms ∧
      (transactions ms).filterMap committedMap? = [committed]) ∧
    ∀ (r : Replica) (updates : Json), r.store = b'.store → settingsMaps updates = [committed] →
      let after := r.apply updates
      (after.outcome.settingsChanged = [] ↔ c.maxTriggers ≠ 0) ∧
      (changedUnits .feature after.events = [] ↔ c.maxTriggers ≠ 0) ∧
      (counterRows updates = [] → after.replica.store.settings 0 = r.store.settings 0) := by
  intro committed
  have hrun : setSettings t.recorded a asics 0 c b = (.ok (), b') := hset
  obtain ⟨⟨row, hrow⟩, hstore⟩ := of_setSettings hrun
  constructor
  · obtain ⟨ms, hwritten, -, hall⟩ := sends_setSettings t.recorded_records a asics 0 c b
    rw [hrun] at hwritten hall
    have hsent := hall ⟨(), rfl⟩
    rw [hrow, Option.elim_some] at hsent
    exact ⟨ms, hwritten, by rw [hsent, committedMap?_settingsUpdates]; rfl⟩
  · intro r updates hr hecho after
    have hfirst : (0 : UInt32).toNat < b.store.numUnits := by
      rw [hunits]
      decide
    obtain ⟨old, hold⟩ := Store.exists_settings hfirst
    rw [Store.setSettings_eq _ hold, Except.ok.injEq] at hstore
    have hone : r.store.numUnits = 1 := by
      rw [hr, ← hstore, Store.numUnits_configure, hunits]
    have hsize : r.store.numUnits < UInt32.size := by
      rw [hone]
      decide
    have hstored : r.store.settings? 0 = some (committedSettings c).withTriggerDefault := by
      rw [hr, ← hstore, Store.settings?_configure, if_pos rfl, hold]
      rfl
    have hlisted : 0 ∈ after.outcome.settingsChanged ↔ c.maxTriggers = 0 :=
      mem_settingsChanged_echo (c := committedSettings c) hsize hstored hecho
    have honly : ∀ unit ∈ after.outcome.settingsChanged, unit = 0 := by
      intro unit hunit
      obtain ⟨old, hold, -⟩ := (mem_listed_apply hsize .feature unit).1 hunit
      have hlt := Store.lt_of_settings? hold
      rw [hone] at hlt
      exact UInt32.toNat_inj.1 (Nat.lt_one_iff.1 hlt)
    have hempty : after.outcome.settingsChanged = [] ↔ c.maxTriggers ≠ 0 := by
      rw [ne_eq, ← hlisted, List.eq_nil_iff_forall_not_mem]
      constructor
      · intro hnone
        exact hnone 0
      · intro hnot unit hunit
        exact hnot (honly unit hunit ▸ hunit)
    have hevents : changedUnits .feature after.events = after.outcome.settingsChanged :=
      changedUnits_apply hsize .feature
    refine ⟨hempty, by rw [hevents, hempty], ?_⟩
    intro hnone
    rw [Store.settings_eq hstored, Store.settings_eq (settings?_echo hsize hstored hecho hnone),
      Settings.withTriggerDefault_again]

/-- A transport that answers the last request of a connection, of which it counts the lines. -/
def obliging : Transport Nat where
  connect _ _ _ := (.ok 0, 0)
  send _ _ sent := (.ok (), sent + 1)
  poll _ sent := (.line (Message.reply (.arr []) (.int (sent - 1))).line, sent)
  settle sent := sent
  patience _ _ := 1

def localAccess : Access :=
  { endpoint := .unix "db.sock", database := "OpenSwitch", replyTimeoutMs := 1000, maxLine := 4096 }

def oneAsic : List Asic := [{ unit := 0, asicType := .trident2, capabilities := .trident2 4 }]

/-- A backend that knows the row with the settings, and has written nothing. -/
def knowing : Backend (Recorded Nat) where
  store := .initial 1
  settingsRow := Uuid.ofGroups? "550e8400-e29b-41d4-a716-446655440000".toList
  kept := none
  world := ⟨0, []⟩

/-- What a change of settings answers and leaves, if all its commits are answered. -/
def changed (c : Settings) : Except Error Unit × Backend (Recorded Nat) :=
  (service obliging.recorded localAccess oneAsic).setSettings 0 c knowing

/-- A replica with the store that the change has left. -/
def replicaOf (c : Settings) : Replica where
  store := (changed c).2.store
  settingsRow := none
  initialized := true

theorem replicaOf_store (c : Settings) : (replicaOf c).store = (changed c).2.store := by
  rw [replicaOf]

/-- The update with the map that the change has committed. -/
def echo (c : Settings) : Json :=
  .obj [(systemTable, .obj [("row", .obj [("new", .obj [(settingsColumn,
    settingsMap (committedSettings c))])])])]

def unlimited : Settings := { Settings.initial with enabled := true, trackInit := true }

def limited : Settings := { unlimited with maxTriggers := 5, trackInit := false }

/-- Without a limit of triggers the echo lists the unit and publishes a change, although it
is the agent that has changed the settings. -/
theorem echo_of_unlimited_is_loud :
    knowing.store.numUnits = 1 ∧ (changed unlimited).1.toOption = some () ∧
      ((replicaOf unlimited).apply (echo unlimited)).outcome.settingsChanged = [0] ∧
      changedUnits .feature ((replicaOf unlimited).apply (echo unlimited)).events = [0] := by
  decide +kernel

/-- With a limit the echo is silent. -/
theorem setSettings_echo_limited :
    knowing.store.numUnits = 1 ∧ changed limited = (.ok (), (changed limited).2) ∧
      settingsMaps (echo limited) = [settingsMap (committedSettings limited)] ∧
      ((replicaOf limited).apply (echo limited)).outcome.settingsChanged = [] ∧
      changedUnits .feature ((replicaOf limited).apply (echo limited)).events = [] ∧
      ((replicaOf limited).apply (echo limited)).replica.store.settings 0 =
        (replicaOf limited).store.settings 0 := by
  have hunits : knowing.store.numUnits = 1 := rfl
  have hanswer : (changed limited).1.toOption = some () := by decide +kernel
  have hset : changed limited = (.ok (), (changed limited).2) := by
    generalize changed limited = run at hanswer
    obtain ⟨_ | _, b'⟩ := run
    · cases hanswer
    · rfl
  have hmap : settingsMaps (echo limited) = [settingsMap (committedSettings limited)] := rfl
  have hlimit : limited.maxTriggers ≠ 0 := by decide
  have hcommitted := setSettings_echo obliging localAccess oneAsic limited knowing
    (changed limited).2 hunits hset
  obtain ⟨hlisted, hevents, hread⟩ :=
    hcommitted.2 (replicaOf limited) (echo limited) (replicaOf_store limited) hmap
  exact ⟨hunits, hset, hmap, hlisted.2 hlimit, hevents.2 hlimit, hread rfl⟩

end Backend

end Database

end BufferTelemetry
