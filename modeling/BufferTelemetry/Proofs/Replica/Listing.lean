import BufferTelemetry.Proofs.Replica.Deliveries
import BufferTelemetry.Proofs.Feed.Deliveries
import BufferTelemetry.Proofs.Json.DistinctKeys

/-!
# The order in which changes are listed

An update lists the units with a change in passes over the units, one for each table. As a
table gives rise to one kind of change only, an update that has each of its tables once makes
one pass for each kind, and lists the units in ascending order (`listed_ascending`). Every
update that a line delivers is of this kind (`distinct_of_delivery`).
-/

namespace BufferTelemetry.Database

namespace Progress

/-- The table whose rows give rise to a change. -/
def tableOf : Change → String
  | .tracking => counterTable
  | .feature => systemTable

theorem Delivers.listed_eq {d : Delivery} {p q : Progress} (h : Delivers d p q) {change : Change}
    (hnone : ∀ unit old, ¬ d.Changes unit old change) :
    q.outcome.listed change = p.outcome.listed change := by
  obtain ⟨more, hlist, _, hmem⟩ := h.listed change
  have hmore : more = [] := by
    refine List.eq_nil_iff_forall_not_mem.2 ?_
    intro unit hunit
    obtain ⟨old, _, hc⟩ := (hmem unit).1 hunit
    exact hnone unit old hc
  rw [hlist, hmore, List.append_nil]

/-- Tables that are not about a change list no unit for it. -/
theorem foldl_applyTable_listed_eq (tables : List (String × Json)) {p : Progress}
    {change : Change} (hsize : p.replica.store.numUnits < UInt32.size)
    (hnot : tableOf change ∉ tables.map Prod.fst) :
    (tables.foldl (fun p (table, rows) => p.applyTable table rows) p).outcome.listed change =
      p.outcome.listed change := by
  refine (foldl_applyTable_delivers tables hsize).listed_eq ?_
  intro unit old hc
  have hne : ∀ table ∈ tables, table.1 ≠ tableOf change := by
    rintro table htable heq
    exact hnot (List.mem_map.2 ⟨table, htable, heq⟩)
  cases change with
  | tracking =>
    have hrows : counterRows (.obj tables) = [] := by
      simp only [counterRows, Json.members?, Option.getD_some, List.flatMap_eq_nil_iff]
      intro table htable
      exact if_neg (hne table htable)
    refine hc ?_
    rw [Delivery.realms, Delivery.ofUpdate, hrows]
    exact old.trackingMask.union_empty
  | feature =>
    have hrows : (Delivery.ofUpdate p.replica.store.numUnits (.obj tables)).rows = [] := by
      simp only [Delivery.ofUpdate, Json.members?, Option.getD_some, List.flatMap_eq_nil_iff]
      intro table htable
      exact if_neg (hne table htable)
    rw [Delivery.Changes, Delivery.pairs, hrows] at hc
    exact Bool.false_ne_true hc

/-- One table lists units in the order in which they are visited. -/
theorem applyTable_listed {p : Progress} (hsize : p.replica.store.numUnits < UInt32.size)
    (table : String) (rows : Json) (change : Change) : ∃ more, more.Sublist p.replica.units ∧
      (p.applyTable table rows).outcome.listed change = p.outcome.listed change ++ more := by
  have hquiet : ∃ more, more.Sublist p.replica.units ∧
      p.outcome.listed change = p.outcome.listed change ++ more :=
    ⟨[], List.nil_sublist _, (List.append_nil _).symm⟩
  unfold applyTable
  cases rows with
  | obj rows =>
    dsimp only
    split
    · obtain ⟨os, recorded, -, -, hrecords, hpass⟩ := applyCounters_pass hsize rows
      have hunits : recorded.replica.units = p.replica.units := by
        rw [Replica.units, hrecords.numUnits_eq, Replica.units]
      have hsame : recorded.outcome.listed change = p.outcome.listed change := by
        rw [hrecords.outcome_eq]
        cases change <;> rfl
      obtain ⟨hlist, -, -, hothers⟩ := hpass.listed
      cases change with
      | tracking =>
        refine ⟨_, ?_, hlist.trans (by rw [hsame])⟩
        rw [← hunits]
        exact List.filter_sublist
      | feature => rwa [(hothers .feature (by simp)).1, hsame]
    · split
      · obtain ⟨seen, -, hpass⟩ := applySettings_pass hsize rows
        have hsame : (p.seeing seen).outcome.listed change = p.outcome.listed change := by
          cases change <;> rfl
        obtain ⟨hlist, -, -, hothers⟩ := hpass.listed
        cases change with
        | tracking => rwa [(hothers .tracking (by simp)).1, hsame]
        | feature => exact ⟨_, List.filter_sublist, hlist⟩
      · exact hquiet
  | _ => exact hquiet

theorem foldl_applyTable_listed {tables : List (String × Json)}
    (hdistinct : (tables.map Prod.fst).Nodup) {p : Progress}
    (hsize : p.replica.store.numUnits < UInt32.size) (change : Change) :
    ∃ more, more.Sublist p.replica.units ∧
      (tables.foldl (fun p (table, rows) => p.applyTable table rows) p).outcome.listed change =
        p.outcome.listed change ++ more := by
  induction tables generalizing p with
  | nil => exact ⟨[], List.nil_sublist _, (List.append_nil _).symm⟩
  | cons table rest ih =>
    rw [List.map_cons, List.nodup_cons] at hdistinct
    have hfirst := applyTable_delivers hsize table.1 table.2
    have hsize' : (p.applyTable table.1 table.2).replica.store.numUnits < UInt32.size :=
      hfirst.numUnits_eq ▸ hsize
    have hunits : (p.applyTable table.1 table.2).replica.units = p.replica.units := by
      rw [Replica.units, hfirst.numUnits_eq, Replica.units]
    rw [List.foldl_cons]
    by_cases htable : table.1 = tableOf change
    · -- this table lists units, and none of the others does
      rw [htable] at hdistinct
      rw [foldl_applyTable_listed_eq rest hsize' hdistinct.1]
      exact applyTable_listed hsize table.1 table.2 change
    · have hsame : (p.applyTable table.1 table.2).outcome.listed change =
          p.outcome.listed change := by
        refine foldl_applyTable_listed_eq [table] hsize ?_
        simpa using fun h => htable h.symm
      obtain ⟨more, hsub, hlist⟩ := ih hdistinct.2 hsize'
      exact ⟨more, hunits ▸ hsub, hsame ▸ hlist⟩

end Progress

/-- The units that an update lists for a change are in ascending order, each of them once. -/
theorem listed_ascending {r : Replica} (hsize : r.store.numUnits < UInt32.size) {updates : Json}
    (hdistinct : updates.Distinct) (change : Change) :
    ((r.apply updates).outcome.listed change).Pairwise (· < ·) := by
  have hnone : (Outcome.nothing.listed change).Pairwise (· < ·) := by
    cases change <;> exact List.Pairwise.nil
  cases updates with
  | obj tables =>
    have hnodup : (tables.map Prod.fst).Nodup := (Json.distinct_obj_iff.1 hdistinct).1
    let start : Progress := { replica := r, outcome := .nothing, events := [] }
    obtain ⟨more, hsub, hlist⟩ :=
      Progress.foldl_applyTable_listed hnodup (p := start) hsize change
    have hempty : start.outcome.listed change = [] := by
      cases change <;> rfl
    rw [hempty, List.nil_append] at hlist
    have hlisted : (r.apply (.obj tables)).outcome.listed change = more := hlist
    rw [hlisted]
    exact (units_ascending hsize).sublist hsub
  | _ => exact hnone

/-- No object in an update that a feed takes from a line has a key twice. -/
theorem distinct_of_delivery {line : String} {m : Rpc.Message} {id : Nat} {updates : Json}
    (hline : Rpc.Client.lineMessage? line = some m)
    (hdelivery : Feed.delivery id m = .ok (some updates)) : updates.Distinct := by
  have hpayload := Rpc.Message.distinct_of_line hline
  unfold Feed.delivery at hdelivery
  split at hdelivery
  · split at hdelivery
    · cases hdelivery
      exact hpayload
    · cases hdelivery
  · split at hdelivery <;> cases hdelivery
  · split at hdelivery
    · -- the updates are the second of the parameters
      rw [Except.ok.injEq] at hdelivery
      unfold updatesOf? at hdelivery
      split at hdelivery
      · cases hdelivery
        cases hpayload with
        | arr _ hitems => exact hitems _ (by simp)
      · cases hdelivery
    · cases hdelivery
  · cases hdelivery

end BufferTelemetry.Database
