import BufferTelemetry.Proofs.Json.Records
import BufferTelemetry.Proofs.Replica.Publication
import Mathlib.Data.List.Sort

/-!
# The order of delivery

An update is the same in another order of its tables, and in another order of its counter rows
as long as rows about one counter stay in their order (`Reordered`): the replica and the outcome
are equal, and the same events are published, though not in the same order (`apply_reordered`).

Two things in an update can depend on an order at all. Of the rows about a counter the last one
counts, and it stays the last one (`LastReport.reordered`). Of the settings the last valid value
counts, and the rows of settings stay where they are in their table. Everything else is a union
of realms, a count of rows, or a list of units in ascending order.
-/

namespace BufferTelemetry

namespace Database

/-! ## Rows -/

/-- The rows report the same counter of the same unit. -/
def SameCounter (numUnits : Nat) (row row' : Json) : Prop :=
  ∃ unit c e e', Reports numUnits row unit c e ∧ Reports numUnits row' unit c e'

theorem sameCounter_iff_ofRow? {n : Nat} (hn : n < UInt32.size) {row row' : Json} :
    SameCounter n row row' ↔
      ∃ o ∈ Observation.ofRow? n row, ∃ o' ∈ Observation.ofRow? n row',
        o.unit = o'.unit ∧ o.counter.canonical = o'.counter.canonical := by
  constructor
  · rintro ⟨unit, c, e, e', h, h'⟩
    obtain ⟨o, ho, hunit, hsame, -⟩ := (reports_iff_ofRow? hn).1 h
    obtain ⟨o', ho', hunit', hsame', -⟩ := (reports_iff_ofRow? hn).1 h'
    exact ⟨o, ho, o', ho', hunit.trans hunit'.symm, hsame.trans hsame'.symm⟩
  · rintro ⟨o, ho, o', ho', hunit, hsame⟩
    refine ⟨o.unit, o.counter, o.stored, o'.stored, (reports_iff_ofRow? hn).2 ?_,
      (reports_iff_ofRow? hn).2 ?_⟩
    · exact ⟨o, ho, rfl, rfl, rfl⟩
    · exact ⟨o', ho', hunit.symm, hsame.symm, rfl⟩

/-- The same rows, in an order in which those about one counter stand as they stood before. -/
structure RowsReordered (numUnits : Nat) (rows rows' : List (String × Json)) : Prop where
  perm : rows.Perm rows'
  inOrder : rows'.Pairwise fun a b => SameCounter numUnits a.2 b.2 → [a, b].Sublist rows

theorem RowsReordered.refl (n : Nat) (rows : List (String × Json)) : RowsReordered n rows rows := by
  refine ⟨.refl rows, List.pairwise_iff_forall_sublist.2 ?_⟩
  intro a b hsub _
  exact hsub

theorem nodup_rowsOf {updates : Json} (hdistinct : updates.Distinct) (table : String) :
    (rowsOf updates table).Nodup := by
  cases updates with
  | obj tables =>
    cases hlookup : tables.lookup table with
    | none => simp [rowsOf, Json.get?, hlookup]
    | some rows =>
      have hrows := hdistinct.lookup hlookup
      cases rows with
      | obj rows =>
        have hnodup : rows.Nodup :=
          List.Nodup.of_map Prod.fst (Json.distinct_obj_iff.1 hrows).1
        simpa [rowsOf, Json.get?, hlookup, Json.members?] using hnodup
      | _ => simp [rowsOf, Json.get?, hlookup, Json.members?]
  | _ => exact List.nodup_nil

theorem mem_of_pair_sublist {α : Type} {a b : α} {before after : List α}
    (hnodup : (before ++ a :: after).Nodup) (h : [a, b].Sublist (before ++ a :: after)) :
    b ∈ after := by
  obtain ⟨l, l', hsplit, hbefore, hafter⟩ := List.sublist_append_iff.1 h
  cases l with
  | nil =>
    rw [List.nil_append] at hsplit
    rw [← hsplit, List.cons_sublist_cons, List.singleton_sublist] at hafter
    exact hafter
  | cons x l =>
    -- the first of the pair would stand in front of its own place
    rw [List.cons_append, List.cons.injEq] at hsplit
    have hmem : a ∈ before := by
      rw [hsplit.1]
      exact hbefore.mem List.mem_cons_self
    exact absurd rfl ((List.nodup_append.1 hnodup).2.2 a hmem a List.mem_cons_self)

/-- The last report of a counter is the last one in the other order too. -/
theorem LastReport.reordered {n : Nat} {rows rows' : List (String × Json)} {unit : UInt32}
    {c : Counter} {base e e' : Entry} (hnodup : rows.Nodup) (h : RowsReordered n rows rows')
    (hlast : LastReport n (rows.map Prod.snd) unit c base e)
    (hlast' : LastReport n (rows'.map Prod.snd) unit c base e') : e' = e := by
  have hmem : ∀ row, row ∈ rows.map Prod.snd ↔ row ∈ rows'.map Prod.snd := by
    intro row
    exact (h.perm.map Prod.snd).mem_iff
  cases hlast with
  | unreported hnone =>
    refine hlast'.eq_base ?_
    intro row hrow
    exact hnone row ((hmem row).2 hrow)
  | reported before row after _ hsplit hrow hafter =>
    cases hlast' with
    | unreported hnone =>
      have hrows : row ∈ rows.map Prod.snd := by
        rw [hsplit]
        exact List.mem_append_right _ List.mem_cons_self
      exact absurd hrow (hnone row ((hmem row).1 hrows) e)
    | reported before' row' after' _ hsplit' hrow' hafter' =>
      obtain ⟨first, rest, rfl, rfl, hrest⟩ := List.map_eq_append_iff.1 hsplit
      obtain ⟨last, later, rfl, rfl, rfl⟩ := List.map_eq_cons_iff.1 hrest
      obtain ⟨first', rest', rfl, rfl, hrest'⟩ := List.map_eq_append_iff.1 hsplit'
      obtain ⟨last', later', rfl, rfl, rfl⟩ := List.map_eq_cons_iff.1 hrest'
      by_cases hsame : last' = last
      · rw [hsame] at hrow'
        exact hrow'.unique hrow
      · -- the other row is not behind its last report, and so stands in front of it
        have hfront : last ∈ first' := by
          have hin : last ∈ first' ++ last' :: later' :=
            h.perm.mem_iff.1 (List.mem_append_right _ List.mem_cons_self)
          rcases List.mem_append.1 hin with hfront | hback
          · exact hfront
          · rcases List.mem_cons.1 hback with heq | hbehind
            · exact absurd heq.symm hsame
            · exact absurd hrow (hafter' _ (List.mem_map_of_mem hbehind) e)
        have hsub := (List.pairwise_append.1 h.inOrder).2.2 last hfront last' List.mem_cons_self
          ⟨unit, c, e, e', hrow, hrow'⟩
        have hbehind : last' ∈ later := mem_of_pair_sublist hnodup hsub
        exact absurd hrow' (hafter _ (List.mem_map_of_mem hbehind) e')

theorem Follows.reordered {rows rows' : List (String × Json)} {s s' s'' : Store}
    (hnodup : rows.Nodup) (hrows : RowsReordered s.numUnits rows rows')
    (h : Follows (rows.map Prod.snd) s s') (h' : Follows (rows'.map Prod.snd) s s'') :
    Store.SameCounters s' s'' := by
  refine .of_counters h.numUnits_eq h'.numUnits_eq ?_
  intro unit c pos e hpos hcell
  obtain ⟨e', hcell', hlast⟩ := h.cell unit c pos e hpos hcell
  obtain ⟨e'', hcell'', hlast'⟩ := h'.cell unit c pos e hpos hcell
  rw [hcell'', hcell', hlast.reordered hnodup hrows hlast']

theorem Observation.collectedRealms_perm {os os' : List Observation} (h : os.Perm os')
    (unit : UInt32) : collectedRealms os unit = collectedRealms os' unit := by
  refine h.foldl_eq' ?_ TrackingMask.empty
  intro o _ o' _ mask
  by_cases ho : o.unit = unit ∧ o.enabled
  · by_cases ho' : o'.unit = unit ∧ o'.enabled
    · rw [if_pos ho, if_pos ho', if_pos ho', if_pos ho, TrackingMask.enable_right_comm]
    · rw [if_pos ho, if_neg ho', if_neg ho', if_pos ho]
  · rw [if_neg ho, if_neg ho]

/-! ## Updates that deliver the same -/

/-- The updates deliver the same rows of settings, and their counter rows and what they publish
differ in the order only. -/
structure SameButOrder (numUnits : Nat) (updates updates' : Json) : Prop where
  distinct : updates'.Distinct
  settings : rowsOf updates' systemTable = rowsOf updates systemTable
  counters : RowsReordered numUnits (rowsOf updates counterTable) (rowsOf updates' counterTable)
  events : ∀ listed : Change → List UInt32,
    ((updates.members?.getD []).flatMap fun (table, rows) =>
        published numUnits listed table rows).Perm
      ((updates'.members?.getD []).flatMap fun (table, rows) =>
        published numUnits listed table rows)

namespace SameButOrder

section Deliveries

variable {n : Nat} {updates updates' : Json} (h : SameButOrder n updates updates')
  (hdistinct : updates.Distinct)

include h hdistinct

theorem counterRows_perm : (counterRows updates).Perm (counterRows updates') := by
  rw [counterRows_eq hdistinct, counterRows_eq h.distinct]
  exact h.counters.perm.map Prod.snd

theorem rows_eq : (Delivery.ofUpdate n updates').rows = (Delivery.ofUpdate n updates).rows := by
  rw [rows_ofUpdate n hdistinct, rows_ofUpdate n h.distinct, h.settings]

theorem observations_perm :
    (Delivery.ofUpdate n updates).observations.Perm (Delivery.ofUpdate n updates').observations :=
  (h.counterRows_perm hdistinct).filterMap _

theorem realms_eq (unit : UInt32) :
    (Delivery.ofUpdate n updates').realms unit = (Delivery.ofUpdate n updates).realms unit :=
  (Observation.collectedRealms_perm (h.observations_perm hdistinct) unit).symm

theorem pairs_eq : (Delivery.ofUpdate n updates').pairs = (Delivery.ofUpdate n updates).pairs := by
  rw [Delivery.pairs, h.rows_eq hdistinct, Delivery.pairs]

theorem revise_eq (unit : UInt32) (old : Settings) :
    (Delivery.ofUpdate n updates').revise unit old =
      (Delivery.ofUpdate n updates).revise unit old := by
  rw [Delivery.revise, h.pairs_eq hdistinct, h.realms_eq hdistinct, Delivery.revise]

theorem changes_iff (unit : UInt32) (old : Settings) (change : Change) :
    (Delivery.ofUpdate n updates').Changes unit old change ↔
      (Delivery.ofUpdate n updates).Changes unit old change := by
  cases change with
  | tracking => rw [Delivery.Changes, h.realms_eq hdistinct, Delivery.Changes]
  | feature => rw [Delivery.Changes, h.pairs_eq hdistinct, Delivery.Changes]

end Deliveries

section Apply

variable {r : Replica} {updates updates' : Json}
  (h : SameButOrder r.store.numUnits updates updates')
  (hsize : r.store.numUnits < UInt32.size) (hdistinct : updates.Distinct)

include h hsize hdistinct

theorem listed_eq (change : Change) :
    (r.apply updates').outcome.listed change = (r.apply updates).outcome.listed change := by
  refine (listed_ascending hsize h.distinct change).eq_of_mem_iff
    (listed_ascending hsize hdistinct change) ?_
  intro unit
  simp only [mem_listed_apply hsize, h.changes_iff hdistinct]

theorem outcome_eq : (r.apply updates').outcome = (r.apply updates).outcome := by
  obtain ⟨-, happlied, hskipped⟩ := apply_takesIn hsize updates
  obtain ⟨-, happlied', hskipped'⟩ := apply_takesIn hsize updates'
  have hrows := h.counterRows_perm hdistinct
  have htriggers := (h.observations_perm hdistinct).countP_eq fun o => o.triggered
  ext1
  · rw [happlied, happlied', hrows.countP_eq]
  · rw [hskipped, hskipped', hrows.countP_eq]
  · rw [triggers_apply hsize, triggers_apply hsize, htriggers]
  · exact h.listed_eq hsize hdistinct .tracking
  · exact h.listed_eq hsize hdistinct .feature
  · rw [settingsSeen_apply hsize, settingsSeen_apply hsize, h.rows_eq hdistinct]

theorem store_eq : (r.apply updates').replica.store = (r.apply updates).replica.store := by
  have hunits : (r.apply updates).replica.store.numUnits = r.store.numUnits := numUnits_apply hsize
  have hfollows := (apply_takesIn hsize updates).1
  have hfollows' := (apply_takesIn hsize updates').1
  rw [counterRows_eq hdistinct] at hfollows
  rw [counterRows_eq h.distinct] at hfollows'
  have hcounters := hfollows.reordered (nodup_rowsOf hdistinct counterTable) h.counters hfollows'
  refine Store.ext_views (hunits.symm ▸ hsize) hcounters ?_
  intro unit
  rw [settings?_apply hsize, settings?_apply hsize]
  congr 1
  funext old
  exact h.revise_eq hdistinct unit old

theorem replica_eq : (r.apply updates').replica = (r.apply updates).replica := by
  have hstore := h.store_eq hsize hdistinct
  have hrow : (r.apply updates').replica.settingsRow = (r.apply updates).replica.settingsRow := by
    rw [settingsRow_apply hsize, settingsRow_apply hsize, h.rows_eq hdistinct]
  have hinitialized : (r.apply updates').replica.initialized =
      (r.apply updates).replica.initialized := by
    rw [initialized_apply hsize, initialized_apply hsize, h.outcome_eq hsize hdistinct]
  exact Replica.ext hstore hrow hinitialized

theorem events_perm : (r.apply updates).events.Perm (r.apply updates').events := by
  rw [events_apply hsize hdistinct, events_apply hsize h.distinct, h.outcome_eq hsize hdistinct]
  exact h.events _

theorem apply : (r.apply updates').replica = (r.apply updates).replica ∧
    (r.apply updates').outcome = (r.apply updates).outcome ∧
    (r.apply updates').events.Perm (r.apply updates).events :=
  ⟨h.replica_eq hsize hdistinct, h.outcome_eq hsize hdistinct,
    (h.events_perm hsize hdistinct).symm⟩

end Apply

end SameButOrder

/-! ## Reordering -/

/-- The same update, with its tables in another order, or its counter rows in one that keeps
the rows about each counter in theirs. -/
inductive Reordered (numUnits : Nat) : Json → Json → Prop
  | tables {tables tables' : List (String × Json)} :
    tables.Perm tables' → Reordered numUnits (.obj tables) (.obj tables')
  | rows {before after rows rows' : List (String × Json)} :
    RowsReordered numUnits rows rows' →
    Reordered numUnits (.obj (before ++ (counterTable, .obj rows) :: after))
      (.obj (before ++ (counterTable, .obj rows') :: after))
  | trans {updates between updates' : Json} :
    Reordered numUnits updates between → Reordered numUnits between updates' →
    Reordered numUnits updates updates'

theorem distinct_obj_perm {members members' : List (String × Json)}
    (hperm : members.Perm members') (h : (Json.obj members).Distinct) :
    (Json.obj members').Distinct := by
  obtain ⟨hnodup, hvalues⟩ := Json.distinct_obj_iff.1 h
  refine Json.distinct_obj_iff.2 ⟨(hperm.map Prod.fst).nodup_iff.1 hnodup, ?_⟩
  intro m hm
  exact hvalues m (hperm.mem_iff.2 hm)

theorem sameButOrder_tables (n : Nat) {tables tables' : List (String × Json)}
    (hperm : tables.Perm tables') (hdistinct : (Json.obj tables).Distinct) :
    SameButOrder n (.obj tables) (.obj tables') := by
  have hrows : ∀ name, rowsOf (.obj tables') name = rowsOf (.obj tables) name := by
    intro name
    simp only [rowsOf, Json.get?, lookup_perm hperm (Json.distinct_obj_iff.1 hdistinct).1]
  refine ⟨distinct_obj_perm hperm hdistinct, hrows systemTable, ?_, ?_⟩
  · rw [hrows]
    exact .refl n _
  · intro listed
    exact hperm.flatMap_right _

theorem published_perm {n : Nat} {rows rows' : List (String × Json)} (hperm : rows.Perm rows')
    (listed : Change → List UInt32) :
    (published n listed counterTable (.obj rows)).Perm
      (published n listed counterTable (.obj rows')) :=
  ((hperm.map Prod.snd).filterMap (trigger? n)).append_right _

theorem sameButOrder_rows {n : Nat} {before after rows rows' : List (String × Json)}
    (h : RowsReordered n rows rows')
    (hdistinct : (Json.obj (before ++ (counterTable, .obj rows) :: after)).Distinct) :
    SameButOrder n (.obj (before ++ (counterTable, .obj rows) :: after))
      (.obj (before ++ (counterTable, .obj rows') :: after)) := by
  obtain ⟨hnodup, hvalues⟩ := Json.distinct_obj_iff.1 hdistinct
  have hnodup' : ((before ++ (counterTable, Json.obj rows') :: after).map Prod.fst).Nodup := by
    simpa using hnodup
  have hcounters : ∀ {rows : List (String × Json)},
      ((before ++ (counterTable, Json.obj rows) :: after).map Prod.fst).Nodup →
      rowsOf (.obj (before ++ (counterTable, .obj rows) :: after)) counterTable = rows := by
    intro rows hnodup
    have hmem : (counterTable, Json.obj rows) ∈ before ++ (counterTable, .obj rows) :: after :=
      List.mem_append_right _ List.mem_cons_self
    rw [rowsOf, Json.get?, (lookup_eq_some_iff_mem hnodup).2 hmem]
    rfl
  refine ⟨?_, ?_, ?_, ?_⟩
  · refine Json.distinct_obj_iff.2 ⟨hnodup', ?_⟩
    intro m hm
    rcases List.mem_append.1 hm with hbefore | hrest
    · exact hvalues m (List.mem_append_left _ hbefore)
    · rcases List.mem_cons.1 hrest with rfl | hafter
      · have hrows : (Json.obj rows).Distinct :=
          hvalues (counterTable, .obj rows) (List.mem_append_right _ List.mem_cons_self)
        exact distinct_obj_perm h.perm hrows
      · exact hvalues m (List.mem_append_right _ (List.mem_cons_of_mem _ hafter))
  · have hne : (systemTable == counterTable) = false := by decide
    simp only [rowsOf, Json.get?, List.lookup_append, List.lookup_cons, hne]
  · rw [hcounters hnodup, hcounters hnodup']
    exact h
  · intro listed
    simp only [Json.members?, Option.getD_some, List.flatMap_append, List.flatMap_cons]
    exact ((published_perm h.perm listed).append_right _).append_left _

theorem Reordered.distinct {n : Nat} {updates updates' : Json} (h : Reordered n updates updates')
    (hdistinct : updates.Distinct) : updates'.Distinct := by
  induction h with
  | tables hperm => exact distinct_obj_perm hperm hdistinct
  | rows hrows => exact (sameButOrder_rows hrows hdistinct).distinct
  | trans _ _ ih ih' => exact ih' (ih hdistinct)

/-- **The order of delivery.** An update and the same update in another order, in which the rows
about each counter of each unit stand as they stood before, leave the same replica with the same
outcome, and publish the same events up to their order. -/
theorem apply_reordered (r : Replica) (hsize : r.store.numUnits < UInt32.size)
    {updates updates' : Json} (hdistinct : updates.Distinct)
    (h : Reordered r.store.numUnits updates updates') :
    (r.apply updates').replica = (r.apply updates).replica ∧
      (r.apply updates').outcome = (r.apply updates).outcome ∧
      (r.apply updates').events.Perm (r.apply updates).events := by
  induction h with
  | tables hperm => exact (sameButOrder_tables _ hperm hdistinct).apply hsize hdistinct
  | rows hrows => exact (sameButOrder_rows hrows hdistinct).apply hsize hdistinct
  | trans hfirst _ ih ih' =>
    obtain ⟨hreplica, houtcome, hevents⟩ := ih hdistinct
    obtain ⟨hreplica', houtcome', hevents'⟩ := ih' (hfirst.distinct hdistinct)
    exact ⟨hreplica'.trans hreplica, houtcome'.trans houtcome, hevents'.trans hevents⟩

/-- An update with three reports of the first unit, of which the first and the last are of one
queue, under different names. -/
def orderly : Json :=
  .obj [
    (counterTable, .obj [("a", queueRow "egress-uc-queue/uc-buffer-count/5/NONE" 7),
      ("b", queueRow "device/data/NONE/NONE" 1),
      ("c", queueRow "egress-uc-queue/uc-buffer-count/+05" 9)]),
    (systemTable, .obj [])]

/-- The same update with the tables exchanged, and the report of the device in front. -/
def disorderly : Json :=
  .obj [
    (systemTable, .obj []),
    (counterTable, .obj [("b", queueRow "device/data/NONE/NONE" 1),
      ("a", queueRow "egress-uc-queue/uc-buffer-count/5/NONE" 7),
      ("c", queueRow "egress-uc-queue/uc-buffer-count/+05" 9)])]

theorem apply_reordered_disorderly :
    (Replica.initial 1).store.numUnits < UInt32.size ∧ orderly.Distinct ∧
      Reordered (Replica.initial 1).store.numUnits orderly disorderly ∧
      ((Replica.initial 1).apply disorderly).replica =
        ((Replica.initial 1).apply orderly).replica ∧
      ((Replica.initial 1).apply disorderly).outcome.rowsApplied = 3 := by
  have hsize : (Replica.initial 1).store.numUnits < UInt32.size := by decide
  have hdistinct : orderly.Distinct := by decide
  have hother : ¬ SameCounter 1 (queueRow "device/data/NONE/NONE" 1)
      (queueRow "egress-uc-queue/uc-buffer-count/5/NONE" 7) := by
    rw [sameCounter_iff_ofRow? (by decide : 1 < UInt32.size)]
    decide
  have hrows : RowsReordered (Replica.initial 1).store.numUnits
      [("a", queueRow "egress-uc-queue/uc-buffer-count/5/NONE" 7),
        ("b", queueRow "device/data/NONE/NONE" 1),
        ("c", queueRow "egress-uc-queue/uc-buffer-count/+05" 9)]
      [("b", queueRow "device/data/NONE/NONE" 1),
        ("a", queueRow "egress-uc-queue/uc-buffer-count/5/NONE" 7),
        ("c", queueRow "egress-uc-queue/uc-buffer-count/+05" 9)] := by
    refine ⟨.swap .., ?_⟩
    simp only [List.pairwise_cons, List.mem_cons, List.not_mem_nil, or_false, forall_eq_or_imp,
      forall_eq]
    refine ⟨⟨fun h => absurd h hother, fun _ => ?_⟩, fun _ => ?_, ?_⟩
    · exact .cons _ (.refl _)
    · exact .cons_cons _ (.cons _ (.refl _))
    · simp
  have hreordered : Reordered (Replica.initial 1).store.numUnits orderly disorderly :=
    .trans (.tables (.swap ..)) (@Reordered.rows _ [(systemTable, .obj [])] [] _ _ hrows)
  obtain ⟨hreplica, houtcome, -⟩ := apply_reordered (.initial 1) hsize hdistinct hreordered
  refine ⟨hsize, hdistinct, hreordered, hreplica, ?_⟩
  rw [houtcome]
  rfl

end Database

end BufferTelemetry
