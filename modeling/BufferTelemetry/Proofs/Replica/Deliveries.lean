import BufferTelemetry.Proofs.Replica.CounterHistory
import BufferTelemetry.Proofs.Replica.Passes
import BufferTelemetry.Proofs.Realm.Masks

/-!
# What an update delivers

Beside the rows of counters, whose entries are followed in `Follows`, an update has effects
on settings, events and the outcome. They depend only on what it delivers: the observations
that its counter rows make, and its rows of settings. `Delivers d p q` says what becomes of
an update in progress when `d` is taken in; it composes (`Delivers.trans`), so what is shown
for a table (`applyTable_delivers`) holds for whole updates (`apply_delivers`).
-/

namespace BufferTelemetry

namespace Database

theorem Observation.collectedRealms_append (os more : List Observation) (unit : UInt32) :
    collectedRealms (os ++ more) unit =
      (collectedRealms os unit).union (collectedRealms more unit) := by
  have hfold : ∀ (l : List Observation) (m : TrackingMask),
      l.foldl (fun mask o =>
        if o.unit = unit ∧ o.enabled then mask.enable o.counter.kind.realm else mask) m =
        m.union (collectedRealms l unit) := by
    intro l
    induction l with
    | nil =>
      intro m
      exact (m.union_empty).symm
    | cons o rest ih =>
      intro m
      simp only [collectedRealms, List.foldl_cons]
      rw [ih, ih]
      split
      · rw [m.enable_eq_union, TrackingMask.union_assoc]
      · rw [TrackingMask.empty_union]
  rw [collectedRealms, List.foldl_append]
  exact hfold more _

/-! ## Deliveries -/

/-- What an update delivers, or a part of it. -/
structure Delivery where
  observations : List Observation
  rows : List SettingsRow

namespace Delivery

def nothing : Delivery := ⟨[], []⟩

instance : Append Delivery where
  append d d' := ⟨d.observations ++ d'.observations, d.rows ++ d'.rows⟩

/-- The pairs of settings that are delivered. -/
def pairs (d : Delivery) : List (String × String) := d.rows.flatMap SettingsRow.pairs

/-- The realms of which a unit is shown to collect a counter. -/
def realms (d : Delivery) (unit : UInt32) : TrackingMask :=
  Observation.collectedRealms d.observations unit

/-- What the delivery makes of the settings of a unit. -/
def revise (d : Delivery) (unit : UInt32) (old : Settings) : Settings :=
  { (applyPairs d.pairs old).1 with trackingMask := old.trackingMask.union (d.realms unit) }

/-- Whether the delivery changes the settings of a unit in this way. -/
def Changes (d : Delivery) (unit : UInt32) (old : Settings) : Change → Prop
  | .tracking => old.trackingMask.union (d.realms unit) ≠ old.trackingMask
  | .feature => (applyPairs d.pairs old).2 = true

section

variable (d d' : Delivery) (unit : UInt32) (old : Settings)

@[simp]
theorem observations_append : (d ++ d').observations = d.observations ++ d'.observations := rfl

@[simp]
theorem rows_append : (d ++ d').rows = d.rows ++ d'.rows := rfl

theorem pairs_append : (d ++ d').pairs = d.pairs ++ d'.pairs := List.flatMap_append

theorem realms_append : (d ++ d').realms unit = (d.realms unit).union (d'.realms unit) :=
  Observation.collectedRealms_append ..

theorem value_revise (key : SettingsKey) :
    (d.revise unit old).value key = (applyPairs d.pairs old).1.value key := by
  cases key <;> rfl

@[simp]
theorem trackInit_revise : (d.revise unit old).trackInit = old.trackInit :=
  (trackingMask_applyPairs d.pairs old).2

@[simp]
theorem revise_nothing : nothing.revise unit old = old := by
  refine Settings.ext_values ?_ ?_ rfl
  · intro key
    exact value_revise nothing unit old key
  · exact old.trackingMask.union_empty

theorem revise_append : (d ++ d').revise unit old = d'.revise unit (d.revise unit old) := by
  refine Settings.ext_values ?_ ?_ (by simp)
  · intro key
    rw [value_revise, value_revise, pairs_append, applyPairs_append, value_applyPairs d'.pairs,
      value_applyPairs d'.pairs, value_revise]
  · show old.trackingMask.union _ = (old.trackingMask.union _).union _
    rw [realms_append, TrackingMask.union_assoc]

theorem changes_append (change : Change) :
    (d ++ d').Changes unit old change ↔
      d.Changes unit old change ∨ d'.Changes unit (d.revise unit old) change := by
  cases change with
  | tracking =>
    show _ ≠ _ ↔ _ ≠ _ ∨ (old.trackingMask.union _).union _ ≠ old.trackingMask.union _
    rw [realms_append, ne_eq, TrackingMask.union_union_eq_iff, Classical.not_and_iff_not_or_not]
  | feature =>
    have hcongr := changed_applyPairs_congr d'.pairs (d.value_revise unit old)
    show _ = true ↔ _ = true ∨ _ = true
    rw [pairs_append, applyPairs_append, hcongr, Bool.or_eq_true, or_comm]

end

end Delivery

/-- The rows of settings in a table. -/
def tableSettings (table : String) (rows : Json) : List SettingsRow :=
  if table = systemTable then
    (rows.members?.getD []).filterMap fun (key, row) => SettingsRow.ofRow? key row
  else []

/-- What a table delivers, among the given number of units. -/
def Delivery.ofTable (numUnits : Nat) (table : String) (rows : Json) : Delivery where
  observations := (tableRows table rows).filterMap (Observation.ofRow? numUnits)
  rows := tableSettings table rows

/-- What an update delivers, among the given number of units. -/
def Delivery.ofUpdate (numUnits : Nat) (updates : Json) : Delivery where
  observations := (counterRows updates).filterMap (Observation.ofRow? numUnits)
  rows := (updates.members?.getD []).flatMap fun (table, rows) => tableSettings table rows

namespace Progress

/-- The second progress comes from the first by taking a delivery in. -/
structure Delivers (d : Delivery) (p q : Progress) : Prop where
  numUnits_eq : q.replica.store.numUnits = p.replica.store.numUnits
  settings : ∀ unit, q.replica.store.settings? unit =
    (p.replica.store.settings? unit).map (d.revise unit)
  settingsRow_eq : q.replica.settingsRow =
    d.rows.foldl (fun last row => row.identifier <|> last) p.replica.settingsRow
  initialized_eq : q.replica.initialized = p.replica.initialized
  seen_eq : q.outcome.settingsSeen = (p.outcome.settingsSeen || !d.rows.isEmpty)
  triggers_eq : q.outcome.triggers =
    p.outcome.triggers + d.observations.countP fun o => o.triggered
  listed : ∀ change, ∃ more, q.outcome.listed change = p.outcome.listed change ++ more ∧
    changedUnits change q.events = changedUnits change p.events ++ more ∧
    ∀ unit, unit ∈ more ↔
      ∃ old, p.replica.store.settings? unit = some old ∧ d.Changes unit old change

namespace Delivers

variable {d d' : Delivery} {p q q' : Progress}

theorem refl (p : Progress) : Delivers .nothing p p where
  numUnits_eq := rfl
  settings unit := by simp [funext fun old => Delivery.revise_nothing unit old]
  settingsRow_eq := rfl
  initialized_eq := rfl
  seen_eq := by simp [Delivery.nothing]
  triggers_eq := rfl
  listed change := by
    refine ⟨[], by simp, by simp, ?_⟩
    have hnone : ∀ unit old, ¬ Delivery.nothing.Changes unit old change := by
      intro unit old
      cases change with
      | tracking => exact not_not_intro old.trackingMask.union_empty
      | feature => exact Bool.false_ne_true
    simp [hnone]

theorem trans (h : Delivers d p q) (h' : Delivers d' q q') : Delivers (d ++ d') p q' where
  numUnits_eq := h'.numUnits_eq.trans h.numUnits_eq
  settings unit := by
    rw [h'.settings, h.settings, Option.map_map]
    congr 1
    funext old
    exact (d.revise_append d' unit old).symm
  settingsRow_eq := by
    rw [h'.settingsRow_eq, h.settingsRow_eq, Delivery.rows_append, List.foldl_append]
  initialized_eq := h'.initialized_eq.trans h.initialized_eq
  seen_eq := by
    rw [h'.seen_eq, h.seen_eq, Delivery.rows_append]
    cases d.rows <;> simp
  triggers_eq := by
    rw [h'.triggers_eq, h.triggers_eq, Delivery.observations_append, List.countP_append,
      Nat.add_assoc]
  listed change := by
    obtain ⟨first, hlist, hevents, hmem⟩ := h.listed change
    obtain ⟨second, hlist', hevents', hmem'⟩ := h'.listed change
    refine ⟨first ++ second, by rw [hlist', hlist, List.append_assoc],
      by rw [hevents', hevents, List.append_assoc], ?_⟩
    intro unit
    -- the second part meets the settings that the first one has left
    simp only [List.mem_append, hmem, hmem', h.settings, Option.map_eq_some_iff,
      Delivery.changes_append]
    constructor
    · rintro (⟨old, hold, hc⟩ | ⟨_, ⟨old, hold, rfl⟩, hc⟩)
      · exact ⟨old, hold, .inl hc⟩
      · exact ⟨old, hold, .inr hc⟩
    · rintro ⟨old, hold, hc | hc⟩
      · exact .inl ⟨old, hold, hc⟩
      · exact .inr ⟨_, ⟨old, hold, rfl⟩, hc⟩

end Delivers

/-! ## Rows -/

/-- Rows have been recorded, of which the observations were made: settings and events of
settings are as before. -/
structure Records (os : List Observation) (p q : Progress) : Prop where
  numUnits_eq : q.replica.store.numUnits = p.replica.store.numUnits
  settings : ∀ unit, q.replica.store.settings? unit = p.replica.store.settings? unit
  replica_eq : q.replica = { p.replica with store := q.replica.store }
  outcome_eq : q.outcome = { p.outcome with
    rowsApplied := q.outcome.rowsApplied
    rowsSkipped := q.outcome.rowsSkipped
    triggers := p.outcome.triggers + os.countP fun o => o.triggered }
  events : ∀ change, changedUnits change q.events = changedUnits change p.events

theorem Records.trans {os more : List Observation} {p q q' : Progress} (h : Records os p q)
    (h' : Records more q q') : Records (os ++ more) p q' where
  numUnits_eq := h'.numUnits_eq.trans h.numUnits_eq
  settings unit := (h'.settings unit).trans (h.settings unit)
  replica_eq := by rw [h'.replica_eq, h.replica_eq]
  outcome_eq := by
    rw [h'.outcome_eq, h.outcome_eq, List.countP_append, Nat.add_assoc]
  events change := (h'.events change).trans (h.events change)

theorem recordRow_records (p : Progress) (row : Json) :
    Records (Observation.ofRow? p.replica.store.numUnits row).toList p (p.recordRow row) := by
  cases ho : Observation.ofRow? p.replica.store.numUnits row with
  | none =>
    have hrow : p.recordRow row =
        { p with outcome.rowsSkipped := p.outcome.rowsSkipped + 1 } := by rw [recordRow, ho]
    rw [hrow]
    exact ⟨rfl, fun _ => rfl, rfl, rfl, fun _ => rfl⟩
  | some o =>
    obtain ⟨pos, _, hrow⟩ := recordRow_eq ho
    rw [hrow]
    refine ⟨Store.numUnits_write .., Store.settings?_write _ _ _ _, rfl, ?_, ?_⟩
    · simp [List.countP_cons]
    · intro change
      cases o.triggered <;> simp [changedUnits, changedUnit?, Observation.event]

theorem foldl_recordRow_records (rows : List (String × Json)) (p : Progress) :
    Records (rows.filterMap fun (_, row) => Observation.ofRow? p.replica.store.numUnits row) p
      (rows.foldl (fun p (_, row) => p.recordRow row) p) := by
  induction rows generalizing p with
  | nil => exact ⟨rfl, fun _ => rfl, rfl, rfl, fun _ => rfl⟩
  | cons row rest ih =>
    have hfirst := recordRow_records p row.2
    have hall := hfirst.trans (ih (p.recordRow row.2))
    rw [hfirst.numUnits_eq] at hall
    rw [List.filterMap_cons, List.foldl_cons]
    cases ho : Observation.ofRow? p.replica.store.numUnits row.2 with
    | none => simpa [ho] using hall
    | some o => simpa [ho] using hall

/-! ## Tables -/

/-- A pass over all units lists and publishes those that it changes. -/
theorem Revises.listed {change : Change} {f : Revision} {p q : Progress}
    (h : Revises change f p.replica.units p q) :
    q.outcome.listed change = p.outcome.listed change ++
        reported f p.replica.store p.replica.units ∧
      changedUnits change q.events = changedUnits change p.events ++
        reported f p.replica.store p.replica.units ∧
      (∀ unit, unit ∈ reported f p.replica.store p.replica.units ↔
        ∃ old, p.replica.store.settings? unit = some old ∧ (f unit old).2 = true) ∧
      ∀ other, other ≠ change → q.outcome.listed other = p.outcome.listed other ∧
        changedUnits other q.events = changedUnits other p.events := by
  refine ⟨?_, ?_, ?_, ?_⟩
  · rw [h.others]
    cases change <;> rfl
  · rw [h.others, changedUnits_append, changedUnits_configChanged, if_pos rfl]
  · intro unit
    simp only [reported, List.mem_filter, Option.any_eq_true_iff_get, mem_units]
    constructor
    · rintro ⟨_, hsome, hchanged⟩
      exact ⟨_, (Option.some_get hsome).symm, hchanged⟩
    · rintro ⟨old, hold, hchanged⟩
      refine ⟨Store.lt_of_settings? hold, by simp [hold], ?_⟩
      simpa [hold] using hchanged
  · intro other hne
    have hne' : ¬ change = other := fun h => hne h.symm
    rw [h.others]
    refine ⟨?_, ?_⟩
    · cases change <;> cases other <;> simp_all [Outcome.listed, Outcome.list]
    · rw [changedUnits_append, changedUnits_configChanged, if_neg hne', List.append_nil]

theorem Revises.settings_all {change : Change} {f : Revision} {p q : Progress}
    (h : Revises change f p.replica.units p q) (unit : UInt32) :
    q.replica.store.settings? unit =
      (p.replica.store.settings? unit).map fun old => (f unit old).1 := by
  rw [h.settings]
  split
  · rfl
  · rename_i hmem
    have hnone : p.replica.store.settings? unit = none := by
      rw [Store.settings?_eq_none_iff]
      rw [mem_units] at hmem
      omega
    rw [hnone]
    rfl

/-- Rows are recorded, and then the realms of their observations are merged. -/
theorem Records.delivers {os : List Observation} {p recorded q : Progress}
    (hrecords : Records os p recorded)
    (hpass : Revises .tracking (mergeRealms os) recorded.replica.units recorded q) :
    Delivers ⟨os, []⟩ p q := by
  obtain ⟨hlist, hevents, hmem, hothers⟩ := hpass.listed
  refine ⟨hpass.numUnits_eq.trans hrecords.numUnits_eq, ?_, ?_, ?_, ?_, ?_, ?_⟩
  · intro unit
    rw [hpass.settings_all, hrecords.settings]
    rfl
  · rw [hpass.others, hrecords.replica_eq]
    rfl
  · rw [hpass.others, hrecords.replica_eq]
  · rw [hpass.others, hrecords.outcome_eq]
    simp [Outcome.list]
  · rw [hpass.others, hrecords.outcome_eq]
    rfl
  · intro change
    cases change with
    | tracking =>
      refine ⟨_, ?_, hevents.trans (by rw [hrecords.events]), ?_⟩
      · rw [hlist, hrecords.outcome_eq]
        rfl
      · intro unit
        rw [hmem]
        simp only [hrecords.settings, mergeRealms, ne_eq, decide_eq_true_eq]
        rfl
    | feature =>
      obtain ⟨hlist', hevents'⟩ := hothers .feature (by simp)
      have hempty : ∀ unit old, ¬ Delivery.Changes ⟨os, []⟩ unit old .feature :=
        fun _ _ => Bool.false_ne_true
      refine ⟨[], ?_, ?_, by simp [hempty]⟩
      · rw [hlist', hrecords.outcome_eq, List.append_nil]
        rfl
      · rw [hevents', hrecords.events, List.append_nil]

/-- A table of counters records its rows, and then merges the realms of their observations. -/
theorem applyCounters_pass {p : Progress} (hsize : p.replica.store.numUnits < UInt32.size)
    (rows : List (String × Json)) : ∃ os recorded,
      os = rows.filterMap (fun (_, row) => Observation.ofRow? p.replica.store.numUnits row) ∧
      recorded = rows.foldl (fun p (_, row) => p.recordRow row) p ∧
      Records os p recorded ∧
      Revises .tracking (mergeRealms os) recorded.replica.units recorded
        (p.applyCounters rows) := by
  have hrecords := foldl_recordRow_records rows p
  refine ⟨_, _, rfl, rfl, hrecords, ?_⟩
  rw [Replica.units, hrecords.numUnits_eq]
  refine foldl_revises (fun _ _ hu => mergeTracking_revises _ hu) (units_nodup hsize) ?_
  intro unit hmem
  rw [hrecords.numUnits_eq]
  exact toNat_lt_of_mem_units hmem

/-- Rows of settings have been seen, and none of their pairs is applied yet. -/
def seeing (p : Progress) (rows : List SettingsRow) : Progress :=
  { p with
    replica.settingsRow :=
      rows.foldl (fun last row => row.identifier <|> last) p.replica.settingsRow
    outcome.settingsSeen := p.outcome.settingsSeen || !rows.isEmpty }

/-- Rows of settings are seen, and then their pairs are applied. -/
theorem Revises.delivers {rows : List SettingsRow} {p q : Progress}
    (hpass : Revises .feature (fun _ => applyPairs (rows.flatMap SettingsRow.pairs))
      (p.seeing rows).replica.units (p.seeing rows) q) : Delivers ⟨[], rows⟩ p q := by
  obtain ⟨hlist, hevents, hmem, hothers⟩ := hpass.listed
  refine ⟨hpass.numUnits_eq, ?_, ?_, ?_, ?_, ?_, ?_⟩
  · intro unit
    rw [hpass.settings_all]
    congr 1
    funext old
    -- without observations no realm is added
    obtain ⟨hmask, hinit⟩ := trackingMask_applyPairs (rows.flatMap SettingsRow.pairs) old
    refine Settings.ext_values (fun key => ?_) ?_ rfl
    · rw [Delivery.value_revise]
      rfl
    · exact hmask.trans old.trackingMask.union_empty.symm
  · rw [hpass.others]
    rfl
  · rw [hpass.others]
    rfl
  · rw [hpass.others]
    rfl
  · rw [hpass.others]
    rfl
  · intro change
    cases change with
    | feature => exact ⟨_, hlist, hevents, hmem⟩
    | tracking =>
      obtain ⟨hlist', hevents'⟩ := hothers .tracking (by simp)
      have hempty : ∀ unit old, ¬ Delivery.Changes ⟨[], rows⟩ unit old .tracking :=
        fun _ old hne => hne old.trackingMask.union_empty
      refine ⟨[], ?_, ?_, by simp [hempty]⟩
      · rw [hlist', List.append_nil]
        rfl
      · rw [hevents', List.append_nil]
        rfl

/-- A table of settings sees its rows, and then applies their pairs. -/
theorem applySettings_pass {p : Progress} (hsize : p.replica.store.numUnits < UInt32.size)
    (rows : List (String × Json)) : ∃ seen,
      seen = rows.filterMap (fun (key, row) => SettingsRow.ofRow? key row) ∧
      Revises .feature (fun _ => applyPairs (seen.flatMap SettingsRow.pairs))
        (p.seeing seen).replica.units (p.seeing seen) (p.applySettings rows) := by
  refine ⟨_, rfl, ?_⟩
  have hunits : (p.seeing (rows.filterMap fun (key, row) =>
      SettingsRow.ofRow? key row)).replica.settingsUnits = _ := settingsUnits_eq hsize
  rw [← hunits]
  exact foldl_revises (fun _ _ hu => applySettingsTo_revises _ hu)
    (hunits.symm ▸ units_nodup hsize) fun _ hu => toNat_lt_of_mem_units (hunits ▸ hu)

theorem applyTable_delivers {p : Progress} (hsize : p.replica.store.numUnits < UInt32.size)
    (table : String) (rows : Json) :
    Delivers (.ofTable p.replica.store.numUnits table rows) p (p.applyTable table rows) := by
  unfold applyTable
  cases rows with
  | obj rows =>
    dsimp only
    split
    · rename_i htable
      obtain ⟨os, recorded, rfl, -, hrecords, hpass⟩ := applyCounters_pass hsize rows
      have hcounters := hrecords.delivers hpass
      have hother : counterTable ≠ systemTable := by decide
      simpa [Delivery.ofTable, tableRows, tableSettings, htable, hother, Json.members?,
        List.filterMap_map, Function.comp_def] using hcounters
    · rename_i hne
      split
      · rename_i htable
        obtain ⟨seen, rfl, hpass⟩ := applySettings_pass hsize rows
        have hsettings := hpass.delivers
        have hother : systemTable ≠ counterTable := by decide
        simpa [Delivery.ofTable, tableRows, tableSettings, htable, hother, Json.members?]
          using hsettings
      · rename_i hne'
        simpa [Delivery.ofTable, tableRows, tableSettings, hne, hne', Delivery.nothing]
          using Delivers.refl p
  | _ =>
    simpa [Delivery.ofTable, tableRows, tableSettings, Json.members?, Delivery.nothing]
      using Delivers.refl p

theorem foldl_applyTable_delivers (tables : List (String × Json)) {p : Progress}
    (hsize : p.replica.store.numUnits < UInt32.size) :
    Delivers (.ofUpdate p.replica.store.numUnits (.obj tables)) p
      (tables.foldl (fun p (table, rows) => p.applyTable table rows) p) := by
  induction tables generalizing p with
  | nil => exact .refl p
  | cons table rest ih =>
    have hfirst := applyTable_delivers hsize table.1 table.2
    have hrest := ih (p := p.applyTable table.1 table.2) (hfirst.numUnits_eq ▸ hsize)
    rw [hfirst.numUnits_eq] at hrest
    have hall := hfirst.trans hrest
    have hsplit : Delivery.ofUpdate p.replica.store.numUnits (.obj (table :: rest)) =
        .ofTable p.replica.store.numUnits table.1 table.2 ++
          .ofUpdate p.replica.store.numUnits (.obj rest) := by
      simp only [Delivery.ofUpdate, Delivery.ofTable, counterRows, Json.members?,
        Option.getD_some, List.flatMap_cons, List.filterMap_append]
      rfl
    rw [hsplit]
    exact hall

end Progress

/-! ## Updates -/

/-- **Deliveries.** What an update does beside the entries of counters. -/
theorem apply_delivers {r : Replica} (hsize : r.store.numUnits < UInt32.size) (updates : Json) :
    ∃ p, Progress.Delivers (.ofUpdate r.store.numUnits updates)
        { replica := r, outcome := .nothing, events := [] } p ∧
      r.apply updates =
        { p with replica.initialized := r.initialized || p.outcome.settingsSeen } := by
  cases updates with
  | obj tables =>
    let start : Progress := { replica := r, outcome := .nothing, events := [] }
    have h := Progress.foldl_applyTable_delivers tables (p := start) hsize
    refine ⟨_, h, ?_⟩
    have hinitialized := h.initialized_eq
    rw [Replica.apply, hinitialized]
  | _ =>
    refine ⟨_, .refl _, ?_⟩
    simp [Replica.apply, Outcome.nothing]

section Apply

variable {r : Replica} {updates : Json}

@[simp]
theorem numUnits_apply (hsize : r.store.numUnits < UInt32.size) :
    (r.apply updates).replica.store.numUnits = r.store.numUnits := by
  obtain ⟨p, h, heq⟩ := apply_delivers hsize updates
  rw [heq]
  exact h.numUnits_eq

/-- The settings of a unit after an update. -/
theorem settings?_apply (hsize : r.store.numUnits < UInt32.size) (unit : UInt32) :
    (r.apply updates).replica.store.settings? unit =
      (r.store.settings? unit).map ((Delivery.ofUpdate r.store.numUnits updates).revise unit) := by
  obtain ⟨p, h, heq⟩ := apply_delivers hsize updates
  rw [heq]
  exact h.settings unit

/-- The row with the settings is the last one that delivered some and has an identifier. -/
theorem settingsRow_apply (hsize : r.store.numUnits < UInt32.size) :
    (r.apply updates).replica.settingsRow =
      (Delivery.ofUpdate r.store.numUnits updates).rows.foldl
        (fun last row => row.identifier <|> last) r.settingsRow := by
  obtain ⟨p, h, heq⟩ := apply_delivers hsize updates
  rw [heq]
  exact h.settingsRow_eq

theorem settingsSeen_apply (hsize : r.store.numUnits < UInt32.size) :
    (r.apply updates).outcome.settingsSeen =
      !(Delivery.ofUpdate r.store.numUnits updates).rows.isEmpty := by
  obtain ⟨p, h, heq⟩ := apply_delivers hsize updates
  rw [heq]
  exact h.seen_eq

theorem initialized_apply (hsize : r.store.numUnits < UInt32.size) :
    (r.apply updates).replica.initialized =
      (r.initialized || (r.apply updates).outcome.settingsSeen) := by
  obtain ⟨p, h, heq⟩ := apply_delivers hsize updates
  rw [heq]

theorem triggers_apply (hsize : r.store.numUnits < UInt32.size) :
    (r.apply updates).outcome.triggers =
      (Delivery.ofUpdate r.store.numUnits updates).observations.countP fun o => o.triggered := by
  obtain ⟨p, h, heq⟩ := apply_delivers hsize updates
  rw [heq]
  exact h.triggers_eq.trans (Nat.zero_add _)

/-- The units that an update lists for a change are those whose settings it changes so. -/
theorem mem_listed_apply (hsize : r.store.numUnits < UInt32.size) (change : Change)
    (unit : UInt32) :
    unit ∈ (r.apply updates).outcome.listed change ↔
      ∃ old, r.store.settings? unit = some old ∧
        (Delivery.ofUpdate r.store.numUnits updates).Changes unit old change := by
  obtain ⟨p, h, heq⟩ := apply_delivers hsize updates
  obtain ⟨more, hlist, -, hmem⟩ := h.listed change
  have hlisted : (r.apply updates).outcome.listed change = more := by
    rw [heq]
    refine hlist.trans ?_
    cases change <;> rfl
  rw [hlisted]
  exact hmem unit

/-- An update publishes one event for each unit that it lists for a change. -/
theorem changedUnits_apply (hsize : r.store.numUnits < UInt32.size) (change : Change) :
    changedUnits change (r.apply updates).events = (r.apply updates).outcome.listed change := by
  obtain ⟨p, h, heq⟩ := apply_delivers hsize updates
  obtain ⟨more, hlist, hevents, -⟩ := h.listed change
  rw [heq]
  refine hevents.trans (Eq.trans ?_ hlist.symm)
  cases change <;> rfl

end Apply

end Database

end BufferTelemetry
