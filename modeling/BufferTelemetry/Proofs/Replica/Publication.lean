import BufferTelemetry.Proofs.Replica.SettingsHistory
import Mathlib.Data.List.Basic

/-!
# What an update publishes, and what it counts

An update publishes its events table by table (`events_apply`): a table of counters gives rise
to one trigger for each accepted row that has crossed its threshold, in the order of the rows,
and after these to one event for each unit that collects more than before; the table of settings
gives rise to one event for each unit with a changed setting. The order of the tables is that of
their delivery, and each of them comes once, as no object in an update that a line delivers has
a key twice (`distinct_of_delivery`).

The argument follows the fold over the tables. What one table adds to the events and to the
lists of units is `applyTable_publishes`; tables with different names list units for different
changes, so what each of them adds can be read off the lists in the end
(`foldl_applyTable_events`). For the triggers alone no condition on the tables is needed
(`filter_isTrigger_events`), as every step of an update raises those of the rows that it records
and no others (`raises_stepwise`).
-/

namespace BufferTelemetry

namespace Database

/-! ## Rows of a table -/

/-- The rows that an update delivers for a table, with their keys. -/
def rowsOf (updates : Json) (table : String) : List (String × Json) :=
  ((updates.get? table).bind Json.members?).getD []

/-- Of tables with different names at most one has a given name. -/
theorem flatMap_of_name {β : Type} {tables : List (String × Json)}
    (hnodup : (tables.map Prod.fst).Nodup) (name : String) (f : Json → List β) :
    (tables.flatMap fun (table, rows) => if table = name then f rows else []) =
      ((tables.lookup name).map f).getD [] := by
  induction tables with
  | nil => rfl
  | cons table rest ih =>
    rw [List.map_cons, List.nodup_cons] at hnodup
    obtain ⟨key, rows⟩ := table
    by_cases hname : key = name
    · subst hname
      -- none of the tables behind this one has its name
      have hrest : (rest.flatMap fun (table, rows) => if table = key then f rows else []) = [] := by
        rw [List.flatMap_eq_nil_iff]
        rintro ⟨other, rows'⟩ hmem
        refine if_neg ?_
        rintro rfl
        exact hnodup.1 (List.mem_map.2 ⟨_, hmem, rfl⟩)
      simp [hrest]
    · have hne : ¬ name = key := fun h => hname h.symm
      simp [hname, ih hnodup.2, List.lookup_cons, beq_eq_false_iff_ne.2 hne]

section RowsOf

variable {updates : Json}

theorem flatMap_table_eq {β : Type} (hdistinct : updates.Distinct) (name : String)
    (f : List (String × Json) → List β) (hf : f [] = []) :
    ((updates.members?.getD []).flatMap fun (table, rows) =>
      if table = name then f (rows.members?.getD []) else []) = f (rowsOf updates name) := by
  cases updates with
  | obj tables =>
    have hnodup := (Json.distinct_obj_iff.1 hdistinct).1
    have hflat := flatMap_of_name hnodup name fun rows => f (rows.members?.getD [])
    simp only [Json.members?, Option.getD_some, rowsOf, Json.get?] at hflat ⊢
    rw [hflat]
    cases tables.lookup name with
    | none => exact hf.symm
    | some rows => rfl
  | _ => exact hf.symm

theorem counterRows_eq (hdistinct : updates.Distinct) :
    counterRows updates = (rowsOf updates counterTable).map Prod.snd :=
  flatMap_table_eq hdistinct counterTable (List.map Prod.snd) rfl

theorem rows_ofUpdate (n : Nat) (hdistinct : updates.Distinct) :
    (Delivery.ofUpdate n updates).rows =
      (rowsOf updates systemTable).filterMap fun (key, row) => SettingsRow.ofRow? key row :=
  flatMap_table_eq hdistinct systemTable
    (List.filterMap fun (key, row) => SettingsRow.ofRow? key row) rfl

end RowsOf

theorem isSome_settingsRow (key : String) (row : Json) :
    (SettingsRow.ofRow? key row).isSome = (settingsMap? row).isSome := by
  have h := congrArg Option.isSome (settingsRow_pairs_eq key row)
  simpa using h

/-! ## Triggers -/

/-- The row says that its counter has crossed its threshold. -/
def Crossed (row : Json) : Prop := column? row "status" = some (.str triggeredStatus)

/-- The event of a counter row that is accepted and says that its threshold is crossed. -/
def trigger? (numUnits : Nat) (row : Json) : Option Event :=
  ((Observation.ofRow? numUnits row).filter (·.triggered)).map Observation.event

def isTrigger : Event → Bool
  | .trigger .. => true
  | .configChanged .. => false

theorem Observation.triggered_iff {n : Nat} {row : Json} {o : Observation}
    (h : ofRow? n row = some o) : o.triggered = true ↔ Crossed row := by
  obtain ⟨_, _, _, _, _, _, _, rfl⟩ := ofRow?_eq_some_iff.1 h
  rw [Crossed, ← text?_eq_some_iff]
  exact beq_iff_eq

theorem isSome_trigger?_iff {n : Nat} {row : Json} :
    (trigger? n row).isSome ↔ Accepted n row ∧ Crossed row := by
  rw [Observation.accepted_iff_ofRow?, trigger?]
  cases ho : Observation.ofRow? n row with
  | none => simp
  | some o => simp [← Observation.triggered_iff ho]

theorem isTrigger_of_trigger? {n : Nat} {row : Json} {e : Event} (h : trigger? n row = some e) :
    isTrigger e = true := by
  obtain ⟨o, -, rfl⟩ := Option.map_eq_some_iff.1 h
  rfl

/-- The events with which a table is published, if these units are listed for the changes. -/
def published (numUnits : Nat) (listed : Change → List UInt32) (table : String) (rows : Json) :
    List Event :=
  if table = counterTable then
    (tableRows table rows).filterMap (trigger? numUnits) ++
      (listed .tracking).map (.configChanged · .tracking)
  else if table = systemTable then
    (listed .feature).map (.configChanged · .feature)
  else []

namespace Progress

theorem published_congr {n : Nat} {listed listed' : Change → List UInt32} {table : String}
    {rows : Json} (h : ∀ change, table = tableOf change → listed change = listed' change) :
    published n listed table rows = published n listed' table rows := by
  unfold published
  split
  · rename_i htable
    rw [h .tracking htable]
  · split
    · rename_i htable
      rw [h .feature htable]
    · rfl

theorem recordRow_events (p : Progress) (row : Json) :
    (p.recordRow row).events = p.events ++ (trigger? p.replica.store.numUnits row).toList := by
  cases ho : Observation.ofRow? p.replica.store.numUnits row with
  | none => simp [recordRow, trigger?, ho]
  | some o =>
    obtain ⟨_, _, hrow⟩ := recordRow_eq ho
    rw [hrow, trigger?, ho]
    cases ht : o.triggered <;> simp [Option.filter, ht]

theorem foldl_recordRow_events (rows : List (String × Json)) (p : Progress) :
    (rows.foldl (fun p (_, row) => p.recordRow row) p).events =
      p.events ++ (rows.map Prod.snd).filterMap (trigger? p.replica.store.numUnits) := by
  induction rows generalizing p with
  | nil => simp
  | cons row rest ih =>
    have hfirst := (recordRow_records p row.2).numUnits_eq
    rw [List.foldl_cons, ih, recordRow_events, hfirst, List.map_cons, List.filterMap_cons,
      List.append_assoc]
    cases trigger? p.replica.store.numUnits row.2 <;> rfl

/-- The second progress comes from the first by taking in a table, which lists units for its own
change only, and publishes what it gives rise to behind the events that are there. -/
def Publishes (table : String) (rows : Json) (p q : Progress) : Prop :=
  ∃ news : Change → List UInt32,
    (∀ change, q.outcome.listed change = p.outcome.listed change ++ news change) ∧
    (∀ change, table ≠ tableOf change → news change = []) ∧
    q.events = p.events ++ published p.replica.store.numUnits news table rows

theorem Publishes.quiet {p : Progress} {table : String} {rows : Json}
    (hnone : published p.replica.store.numUnits (fun _ => []) table rows = []) :
    Publishes table rows p p := by
  refine ⟨fun _ => [], ?_, fun _ _ => rfl, ?_⟩
  · intro change
    exact (List.append_nil _).symm
  · rw [hnone, List.append_nil]

/-- A table that ends in a pass over the units publishes what the pass reports. -/
theorem Publishes.of_pass {change : Change} {f : Revision} {table : String} {rows : Json}
    {p start q : Progress} (hpass : Revises change f start.replica.units start q)
    (htable : table = tableOf change)
    (hstart : ∀ other, start.outcome.listed other = p.outcome.listed other)
    (hevents : ∀ news : Change → List UInt32,
      start.events ++ (news change).map (.configChanged · change) =
        p.events ++ published p.replica.store.numUnits news table rows) :
    Publishes table rows p q := by
  obtain ⟨hlist, -, -, hothers⟩ := hpass.listed
  let news : Change → List UInt32 := fun other =>
    if other = change then reported f start.replica.store start.replica.units else []
  have hnews : news change = reported f start.replica.store start.replica.units := if_pos rfl
  have hnone : ∀ other, other ≠ change → news other = [] := fun _ hne => if_neg hne
  refine ⟨news, ?_, ?_, ?_⟩
  · intro other
    by_cases hother : other = change
    · rw [hother, hlist, hnews, hstart]
    · rw [(hothers other hother).1, hnone other hother, List.append_nil, hstart]
  · intro other hne
    refine hnone other ?_
    rintro rfl
    exact hne htable
  · rw [← hevents news, hnews, hpass.others]

theorem applyTable_publishes {p : Progress} (hsize : p.replica.store.numUnits < UInt32.size)
    (table : String) (rows : Json) : Publishes table rows p (p.applyTable table rows) := by
  cases rows with
  | obj rows =>
    by_cases hcounters : table = counterTable
    · subst hcounters
      obtain ⟨os, recorded, -, rfl, hrecords, hpass⟩ := applyCounters_pass hsize rows
      refine .of_pass hpass rfl ?_ ?_
      · intro change
        rw [hrecords.outcome_eq]
        cases change <;> rfl
      · intro news
        rw [foldl_recordRow_events rows, List.append_assoc, published, if_pos rfl]
        rfl
    · by_cases hsystem : table = systemTable
      · subst hsystem
        obtain ⟨seen, -, hpass⟩ := applySettings_pass hsize rows
        refine .of_pass hpass rfl ?_ ?_
        · intro change
          cases change <;> rfl
        · intro news
          rw [published, if_neg hcounters, if_pos rfl]
          rfl
      · have hsame : p.applyTable table (.obj rows) = p := by
          simp [applyTable, hcounters, hsystem]
        rw [hsame]
        refine .quiet ?_
        rw [published, if_neg hcounters, if_neg hsystem]
  | _ =>
    refine .quiet ?_
    simp [published, tableRows, Json.members?]

/-- **Table by table.** Tables with different names add their events one after the other. -/
theorem foldl_applyTable_events {tables : List (String × Json)}
    (hnodup : (tables.map Prod.fst).Nodup) {p : Progress}
    (hsize : p.replica.store.numUnits < UInt32.size) : ∃ news : Change → List UInt32,
      let q := tables.foldl (fun p (table, rows) => p.applyTable table rows) p
      (∀ change, q.outcome.listed change = p.outcome.listed change ++ news change) ∧
      q.events = p.events ++ tables.flatMap fun (table, rows) =>
        published p.replica.store.numUnits news table rows := by
  induction tables generalizing p with
  | nil => exact ⟨fun _ => [], fun _ => (List.append_nil _).symm, (List.append_nil _).symm⟩
  | cons table rest ih =>
    rw [List.map_cons, List.nodup_cons] at hnodup
    have hunits := (applyTable_delivers hsize table.1 table.2).numUnits_eq
    have hsize' : (p.applyTable table.1 table.2).replica.store.numUnits < UInt32.size :=
      hunits ▸ hsize
    obtain ⟨first, hlisted, hnone, hevents⟩ := applyTable_publishes hsize table.1 table.2
    obtain ⟨more, hlisted', hevents'⟩ := ih hnodup.2 hsize'
    rw [hunits] at hevents'
    refine ⟨fun change => first change ++ more change, ?_, ?_⟩
    · intro change
      rw [List.foldl_cons, hlisted', hlisted, List.append_assoc]
    · have hhead : published p.replica.store.numUnits first table.1 table.2 =
          published p.replica.store.numUnits (fun change => first change ++ more change)
            table.1 table.2 := by
        refine published_congr ?_
        intro change htable
        -- the tables that follow have other names, and so list no unit for this change
        have hquiet := foldl_applyTable_listed_eq rest hsize' (htable ▸ hnodup.1)
        rw [hlisted', List.append_right_eq_self] at hquiet
        rw [hquiet, List.append_nil]
      have htail : ∀ other ∈ rest,
          published p.replica.store.numUnits more other.1 other.2 =
            published p.replica.store.numUnits (fun change => first change ++ more change)
              other.1 other.2 := by
        intro other hmem
        refine published_congr ?_
        intro change hother
        rw [hnone change, List.nil_append]
        rintro htable
        exact hnodup.1 (List.mem_map.2 ⟨other, hmem, hother.trans htable.symm⟩)
      rw [List.foldl_cons, hevents', hevents, List.append_assoc, hhead, List.flatMap_congr htail]
      rfl

/-- The second progress comes from the first by taking the rows in: it raises their triggers, in
the order of the rows, behind those that are there. -/
structure Raises (rows : List Json) (p q : Progress) : Prop where
  numUnits_eq : q.replica.store.numUnits = p.replica.store.numUnits
  triggers_eq : q.events.filter isTrigger =
    p.events.filter isTrigger ++ rows.filterMap (trigger? p.replica.store.numUnits)

/-- A step that publishes nothing raises no trigger. -/
theorem Raises.quiet {p q : Progress}
    (hunits : q.replica.store.numUnits = p.replica.store.numUnits)
    (hevents : q.events = p.events) : Raises [] p q := by
  refine ⟨hunits, ?_⟩
  rw [hevents, List.filterMap_nil, List.append_nil]

theorem Raises.refl (p : Progress) : Raises [] p p := .quiet rfl rfl

theorem Raises.trans {rows more : List Json} {p q q' : Progress} (h : Raises rows p q)
    (h' : Raises more q q') : Raises (rows ++ more) p q' := by
  refine ⟨h'.numUnits_eq.trans h.numUnits_eq, ?_⟩
  rw [h'.triggers_eq, h.triggers_eq, h.numUnits_eq, List.filterMap_append, List.append_assoc]

/-- A change of the configuration of a unit raises no trigger. -/
theorem Raises.of_configChanged {p q : Progress} {unit : UInt32} {change : Change}
    (hstore : Store.SameCounters p.replica.store q.replica.store)
    (hevents : q.events = p.events ++ [.configChanged unit change]) : Raises [] p q := by
  refine ⟨hstore.1, ?_⟩
  rw [hevents, List.filter_append]
  rfl

theorem recordRow_raises (p : Progress) (row : Json) : Raises [row] p (p.recordRow row) := by
  refine ⟨(recordRow_records p row).numUnits_eq, ?_⟩
  rw [recordRow_events, List.filter_append]
  cases htrigger : trigger? p.replica.store.numUnits row with
  | none => simp [htrigger]
  | some e => simp [htrigger, isTrigger_of_trigger? htrigger]

theorem mergeTracking_raises (os : List Observation) (p : Progress) (unit : UInt32) :
    Raises [] p (p.mergeTracking os unit) := by
  unfold mergeTracking
  split
  · rename_i store hmerge
    exact .of_configChanged (Store.mergeTracking_sameCounters hmerge) rfl
  · exact .refl p

theorem applySettingsTo_raises (pairs : List (String × String)) (p : Progress) (unit : UInt32) :
    Raises [] p (p.applySettingsTo pairs unit) := by
  unfold applySettingsTo
  split
  · rename_i store hupdate
    exact .of_configChanged (Store.updateSettings_sameCounters hupdate) rfl
  · rename_i store hupdate
    exact .quiet (Store.updateSettings_sameCounters hupdate).1 rfl
  · exact .refl p

/-- Every step raises the triggers of the counter rows that it records. -/
theorem raises_stepwise : Stepwise Raises where
  refl := .refl
  trans h h' := h.trans h'
  recordRow := recordRow_raises
  mergeTracking := mergeTracking_raises
  seeing _ _ _ := .quiet rfl rfl
  applySettingsTo := applySettingsTo_raises
  initialized _ _ := .quiet rfl rfl

end Progress

/-! ## Updates -/

section Apply

variable {r : Replica} {updates : Json}

/-- The events of an update, table by table. -/
theorem events_apply (hsize : r.store.numUnits < UInt32.size) (hdistinct : updates.Distinct) :
    (r.apply updates).events = (updates.members?.getD []).flatMap fun (table, rows) =>
      published r.store.numUnits (r.apply updates).outcome.listed table rows := by
  cases updates with
  | obj tables =>
    have hnodup := (Json.distinct_obj_iff.1 hdistinct).1
    let start : Progress := { replica := r, outcome := .nothing, events := [] }
    obtain ⟨news, hlisted, hevents⟩ := Progress.foldl_applyTable_events hnodup (p := start) hsize
    have hnews : (r.apply (.obj tables)).outcome.listed = news := by
      funext change
      refine (hlisted change).trans ?_
      cases change <;> rfl
    rw [hnews]
    exact hevents
  | _ => rfl

/-- The triggers of an update are those of its counter rows, in their order. -/
theorem filter_isTrigger_events (r : Replica) (updates : Json) :
    (r.apply updates).events.filter isTrigger =
      (counterRows updates).filterMap (trigger? r.store.numUnits) :=
  (Progress.raises_stepwise.apply r updates).triggers_eq

theorem triggers_eq_countP (hsize : r.store.numUnits < UInt32.size) :
    (r.apply updates).outcome.triggers = (r.apply updates).events.countP isTrigger := by
  let os := (counterRows updates).filterMap (Observation.ofRow? r.store.numUnits)
  have hrows : (counterRows updates).filterMap (trigger? r.store.numUnits) =
      (os.filter (·.triggered)).map Observation.event := by
    rw [List.filter_filterMap, List.map_filterMap]
    rfl
  rw [List.countP_eq_length_filter, filter_isTrigger_events, hrows,
    List.length_map, ← List.countP_eq_length_filter]
  exact triggers_apply hsize

theorem triggers_le_rowsApplied (hsize : r.store.numUnits < UInt32.size) :
    (r.apply updates).outcome.triggers ≤ (r.apply updates).outcome.rowsApplied := by
  -- one row is recorded for each observation
  have happlied : (r.apply updates).outcome.rowsApplied =
      ((counterRows updates).filterMap (Observation.ofRow? r.store.numUnits)).length := by
    rw [(apply_takesIn hsize updates).2.1, List.length_filterMap_eq_countP]
    congr 1
    funext row
    rw [Bool.eq_iff_iff, decide_eq_true_iff]
    exact Observation.accepted_iff_ofRow?
  rw [triggers_apply hsize, happlied]
  exact List.countP_le_length

theorem rowsApplied_add_rowsSkipped (hsize : r.store.numUnits < UInt32.size) :
    (r.apply updates).outcome.rowsApplied + (r.apply updates).outcome.rowsSkipped =
      (counterRows updates).length := by
  obtain ⟨-, happlied, hskipped⟩ := apply_takesIn hsize updates
  rw [happlied, hskipped,
    List.length_eq_countP_add_countP fun row => decide (Accepted r.store.numUnits row)]
  simp

theorem settingsSeen_apply_iff (hsize : r.store.numUnits < UInt32.size)
    (hdistinct : updates.Distinct) : (r.apply updates).outcome.settingsSeen = true ↔
      ∃ row ∈ rowsOf updates systemTable, (settingsMap? row.2).isSome := by
  rw [settingsSeen_apply hsize, rows_ofUpdate _ hdistinct, Bool.not_eq_true',
    List.isEmpty_eq_false_iff_exists_mem]
  simp only [List.mem_filterMap]
  constructor
  · rintro ⟨seen, ⟨key, row⟩, hmem, hrow⟩
    refine ⟨(key, row), hmem, ?_⟩
    rw [← isSome_settingsRow key row, hrow, Option.isSome_some]
  · rintro ⟨⟨key, row⟩, hmem, hmap⟩
    rw [← isSome_settingsRow key row] at hmap
    obtain ⟨seen, hseen⟩ := Option.isSome_iff_exists.1 hmap
    exact ⟨seen, (key, row), hmem, hseen⟩

end Apply

/-- **Publication.** The events of an update are those of its tables in the order of their
delivery: for the counters one trigger for each row that is accepted and has crossed its
threshold, in the order of the rows, and then one event for each unit that is listed as
collecting more; for the settings one event for each unit that is listed with a changed setting.
The lists are ascending. The outcome accounts for every row of the counters and for every
trigger, it has seen settings exactly if some row of the settings delivers a map of them, and
the replica is initialized once that has happened. -/
theorem events_of_update (r : Replica) (hsize : r.store.numUnits < UInt32.size) (updates : Json)
    (hdistinct : updates.Distinct) :
    let after := r.apply updates
    -- the events
    (after.events = (updates.members?.getD []).flatMap fun (table, rows) =>
      if table = counterTable then
        ((rows.members?.getD []).filterMap fun (_, row) => trigger? r.store.numUnits row) ++
          after.outcome.trackingChanged.map (.configChanged · .tracking)
      else if table = systemTable then
        after.outcome.settingsChanged.map (.configChanged · .feature)
      else []) ∧
    (∀ row, (trigger? r.store.numUnits row).isSome ↔
      Accepted r.store.numUnits row ∧ Crossed row) ∧
    (∀ row e, trigger? r.store.numUnits row = some e → isTrigger e) ∧
    after.outcome.trackingChanged.Pairwise (· < ·) ∧
    after.outcome.settingsChanged.Pairwise (· < ·) ∧
    -- the accounts
    after.outcome.rowsApplied + after.outcome.rowsSkipped =
      (rowsOf updates counterTable).length ∧
    after.outcome.triggers = after.events.countP isTrigger ∧
    after.outcome.triggers ≤ after.outcome.rowsApplied ∧
    (after.outcome.settingsSeen = true ↔
      ∃ row ∈ rowsOf updates systemTable, (settingsMap? row.2).isSome) ∧
    after.replica.initialized = (r.initialized || after.outcome.settingsSeen) := by
  intro after
  refine ⟨?_, fun _ => isSome_trigger?_iff, fun _ _ => isTrigger_of_trigger?,
    listed_ascending hsize hdistinct .tracking, listed_ascending hsize hdistinct .feature, ?_,
    triggers_eq_countP hsize, triggers_le_rowsApplied hsize,
    settingsSeen_apply_iff hsize hdistinct, initialized_apply hsize⟩
  · rw [events_apply hsize hdistinct]
    congr 1
    funext entry
    obtain ⟨table, rows⟩ := entry
    simp only [published]
    split
    · rename_i htable
      rw [tableRows, if_pos htable, List.filterMap_map]
      rfl
    · rfl
  · rw [rowsApplied_add_rowsSkipped hsize, counterRows_eq hdistinct, List.length_map]

/-- The settings come before the counters. The unit of the second row does not exist. -/
def alarm : Json :=
  .obj [
    (systemTable, .obj [("row", .obj [("new", .obj [(settingsColumn,
      ofPairs [("enabled", .str "true")])])])]),
    (counterTable, .obj [
      ("z", .obj [
        ("new", .obj [("hw_unit_id", .int 0), ("enabled", .bool true),
          ("status", .str triggeredStatus)]),
        ("old", .obj [("name", .str "egress-uc-queue/uc-buffer-count/7/NONE")])]),
      ("y", .obj [("new", .obj [("hw_unit_id", .int 2), ("name", .str "device/data/NONE/NONE"),
        ("status", .str triggeredStatus)])]),
      ("x", .obj [("new", .obj [("hw_unit_id", .int 0), ("name", .str "device/data/NONE/NONE"),
        ("status", .str triggeredStatus)])])])]

theorem events_of_update_alarm :
    (Replica.initial 1).store.numUnits < UInt32.size ∧ alarm.Distinct ∧
      ((Replica.initial 1).apply alarm).events = [
        .configChanged 0 .feature,
        .trigger 0 ⟨.egressUcQueue, "uc-buffer-count", 0, 6⟩,
        .trigger 0 ⟨.device, "data", 0, -1⟩,
        .configChanged 0 .tracking] ∧
      ((Replica.initial 1).apply alarm).outcome.rowsApplied +
        ((Replica.initial 1).apply alarm).outcome.rowsSkipped = 3 ∧
      ((Replica.initial 1).apply alarm).outcome.triggers = 2 ∧
      ((Replica.initial 1).apply alarm).replica.initialized = true := by
  have hsize : (Replica.initial 1).store.numUnits < UInt32.size := by decide
  have hdistinct : alarm.Distinct := by decide
  obtain ⟨hevents, -, -, -, -, hrows, htriggers, -, hseen, hinitialized⟩ :=
    events_of_update (Replica.initial 1) hsize alarm hdistinct
  have hsettings : ((Replica.initial 1).apply alarm).outcome.settingsChanged = [0] := by rfl
  have htracking : ((Replica.initial 1).apply alarm).outcome.trackingChanged = [0] := by rfl
  have hlist : ((Replica.initial 1).apply alarm).events = [
      .configChanged 0 .feature,
      .trigger 0 ⟨.egressUcQueue, "uc-buffer-count", 0, 6⟩,
      .trigger 0 ⟨.device, "data", 0, -1⟩,
      .configChanged 0 .tracking] := by
    rw [hevents, hsettings, htracking]
    rfl
  refine ⟨hsize, hdistinct, hlist, hrows, ?_, ?_⟩
  · rw [htriggers, hlist]
    rfl
  · have hsome : ∃ row ∈ rowsOf alarm systemTable, (settingsMap? row.2).isSome :=
      ⟨_, List.mem_cons_self, rfl⟩
    rw [hinitialized, hseen.2 hsome, Bool.or_true]

end Database

end BufferTelemetry
