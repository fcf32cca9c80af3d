import BufferTelemetry.Proofs.Commit.Settings
import BufferTelemetry.Proofs.Replica.TrackingHistory
import Mathlib.Data.List.Forall2

/-!
# Rows whose realm is collected

The collection of the realms goes out as one update for each realm, which chooses the counter
rows by the realm in their map of facts, and it comes back with the rows, whose names say which
realm they are in. Where a server carries the updates out as they are meant
(`CarriesOutUpdates`) on rows whose facts agree with their names (`CounterRow`), both sides agree:
each row is reached by one of the updates (`tracked_of_updates`), and the rows that are
delivered then show the enabled realms of which there is a counter (`exists_showsCollected_iff`).
-/

namespace BufferTelemetry.Database

open Rpc

/-! ## Rows at the server -/

/-- The columns of a row of the table of counters. -/
abbrev TableRow := List (String × Json)

/-- The column with the facts about a counter. -/
def factsColumn : String := "counter_vendor_specific_info"

/-- The column that the server itself changes with every change of a row. -/
def versionColumn : String := "_version"

/-- The map of facts of a row has the pair. -/
def HasFact (row : TableRow) (key : String) (value : Json) : Prop :=
  ∃ facts, row.lookup factsColumn = some facts ∧ (key, value) ∈ mapPairs facts

/-- A counter row of the first unit, whose facts and whose name put it into the realm. -/
structure CounterRow (row : TableRow) (realm : Realm) : Prop where
  unit : row.lookup "hw_unit_id" = some (.int 0)
  name : ∃ name, row.lookup "name" = some (.str name) ∧
    (Text.pieces '/' name).head? = some realm.name
  fact : ∀ value, HasFact row "realm" value ↔ value = .str realm.name

/-- What an update makes of a row: the column of a chosen row has the value, and every other
column is as it was, but for the version. -/
structure Updated (column : String) (value : Json) (Chosen : Prop) (row row' : TableRow) :
    Prop where
  chosen : Chosen → row'.lookup column = some value
  spared : ¬ Chosen → row'.lookup column = row.lookup column
  others : ∀ name, name ≠ column → name ≠ versionColumn → row'.lookup name = row.lookup name

/-- An update of the counter rows chosen by a pair in their map of facts. -/
def updateByFact (database column : String) (value : Json) (key fact : String) : Json :=
  update database counterTable column value
    (.arr [.str factsColumn, .str "includes", ofPairs [(key, .str fact)]])

/-- A server carries out such updates on the rows of the table of counters: it sets the column of
exactly the rows whose map of facts includes the pair. -/
def CarriesOutUpdates (execute : Json → List TableRow → List TableRow) : Prop :=
  ∀ database column value key fact rows,
    List.Forall₂ (fun row row' => Updated column value (HasFact row key (.str fact)) row row') rows
      (execute (updateByFact database column value key fact) rows)

section Rows

variable {row row' row'' : TableRow} {realm realm' : Realm} {rows rows' : List TableRow}
  {m : TrackingMask}

/-- What the updates of some realms have made of a row. -/
structure Tracked (m : TrackingMask) (realms : List Realm) (row row' : TableRow) : Prop where
  updated : ∀ realm ∈ realms, CounterRow row realm →
    row'.lookup "enabled" = some (if m.isEnabled realm then .bool true else emptySet)
  spared : ∀ realm, realm ∉ realms → CounterRow row realm →
    row'.lookup "enabled" = row.lookup "enabled"
  others : ∀ name, name ≠ "enabled" → name ≠ versionColumn → row'.lookup name = row.lookup name

/-- What is in other columns puts the row into its realm. -/
theorem CounterRow.of_others (h : CounterRow row realm)
    (hothers : ∀ name, name ≠ "enabled" → name ≠ versionColumn →
      row'.lookup name = row.lookup name) : CounterRow row' realm where
  unit := (hothers _ (by decide) (by decide)).trans h.unit
  name := by
    rw [hothers _ (by decide) (by decide)]
    exact h.name
  fact := by
    unfold HasFact
    rw [hothers factsColumn (by decide) (by decide)]
    exact h.fact

/-- The update of a realm chooses its rows and no others. -/
theorem CounterRow.hasFact_iff (h : CounterRow row realm) :
    HasFact row "realm" (.str realm'.name) ↔ realm' = realm := by
  rw [h.fact, Json.str.injEq]
  exact ⟨fun heq => Realm.name_injective heq, fun heq => congrArg Realm.name heq⟩

theorem Tracked.cons {realms : List Realm} (h : Tracked m realms row' row'')
    (hnew : realm ∉ realms)
    (hfirst : Updated "enabled" (if m.isEnabled realm then .bool true else emptySet)
      (HasFact row "realm" (.str realm.name)) row row') :
    Tracked m (realm :: realms) row row'' where
  updated other hmem hrow := by
    have hrow' := hrow.of_others hfirst.others
    rcases List.mem_cons.1 hmem with rfl | hmem
    · rw [h.spared other hnew hrow', hfirst.chosen (hrow.hasFact_iff.2 rfl)]
    · exact h.updated other hmem hrow'
  spared other hmem hrow := by
    rw [List.mem_cons, not_or] at hmem
    rw [h.spared other hmem.2 (hrow.of_others hfirst.others)]
    exact hfirst.spared fun hfact => hmem.1 (hrow.hasFact_iff.1 hfact).symm
  others name hname hversion :=
    (h.others name hname hversion).trans (hfirst.others name hname hversion)

theorem forall₂_trans {α : Type} {R S T : α → α → Prop}
    (htrans : ∀ a b c, R a b → S b c → T a c) {as bs cs : List α} (h : List.Forall₂ R as bs)
    (h' : List.Forall₂ S bs cs) : List.Forall₂ T as cs := by
  induction h generalizing cs with
  | nil =>
    cases h'
    exact .nil
  | cons hab _ ih =>
    cases h' with
    | cons hbc hrest => exact .cons (htrans _ _ _ hab hbc) (ih hrest)

/-- **The updates of some realms**, carried out one after the other, reach each row once. -/
theorem tracked_of_updates {execute : Json → List TableRow → List TableRow}
    (hexecute : CarriesOutUpdates execute) (a : Access) (m : TrackingMask) {realms : List Realm}
    (hnodup : realms.Nodup) (rows : List TableRow) :
    List.Forall₂ (Tracked m realms) rows
      ((a.trackingUpdates m realms).foldl (fun rows params => execute params rows) rows) := by
  induction realms generalizing rows with
  | nil =>
    refine List.forall₂_same.2 fun row _ => ⟨nofun, fun _ _ _ => rfl, fun _ _ _ => rfl⟩
  | cons realm rest ih =>
    obtain ⟨hnew, hnodup⟩ := List.nodup_cons.1 hnodup
    have hfirst := hexecute a.database "enabled"
      (if m.isEnabled realm then .bool true else emptySet) "realm" realm.name rows
    refine forall₂_trans ?_ hfirst (ih hnodup _)
    intro row row' row'' hupdated htracked
    exact htracked.cons hnew hupdated

end Rows

/-! ## What comes back -/

/-- The update delivers the rows, each with its columns after the change. -/
def DeliversRows (updates : Json) (rows : List TableRow) : Prop :=
  List.Forall₂ (fun row columns => row.get? "new" = some (.obj columns)) (counterRows updates) rows

/-- The name of the row is read as that of a counter. -/
def Decodes (row : TableRow) : Prop :=
  ∃ name c, row.lookup "name" = some (.str name) ∧ Counter.ofRowName name = .ok c

section Delivered

variable {row row' : TableRow} {realm : Realm} {rows rows' : List TableRow} {m : TrackingMask}
  {delivered : Json}

theorem column?_of_new {columns : TableRow} (h : delivered.get? "new" = some (.obj columns))
    {name : String} {value : Json} (hvalue : columns.lookup name = some value) :
    column? delivered name = some value := by
  unfold column?
  rw [h, Option.bind_some, show (Json.obj columns).get? name = some value from hvalue]
  rfl

/-- A row that has been updated shows that its realm is collected exactly if the realm is enabled
and the row is that of a counter. -/
theorem showsCollected_iff (hrow : CounterRow row realm) (htracked : Tracked m Realm.all row row')
    (hdelivered : delivered.get? "new" = some (.obj row')) (other : Realm) :
    ShowsCollected 1 delivered 0 other ↔
      other = realm ∧ m.isEnabled realm = true ∧ Decodes row := by
  have hrow' := hrow.of_others htracked.others
  have henabled := column?_of_new hdelivered (htracked.updated realm realm.mem_all hrow)
  obtain ⟨name, hname, hrealm⟩ := hrow.name
  have hname' := hname
  rw [← htracked.others "name" (by decide) (by decide)] at hname'
  have hcolumn := column?_of_new hdelivered hname'
  constructor
  · rintro ⟨c, e, hreports, he, rfl⟩
    obtain ⟨name', d, hname'', hd, hsame⟩ := hreports.counter_eq
    rw [hcolumn] at hname''
    cases hname''
    have hhead := Counter.realm_of_ofRowName hd
    rw [hrealm, Counter.kind_eq_of_canonical_eq hsame] at hhead
    have hflag := hreports.enabled_iff.1 he
    rw [henabled] at hflag
    refine ⟨(Realm.name_injective (Option.some.inj hhead)).symm, ?_, name, d, hname, hd⟩
    by_cases h : m.isEnabled realm = true
    · exact h
    · rw [if_neg h] at hflag
      cases hflag
  · rintro ⟨rfl, hmask, name', c, hname'', hc⟩
    rw [hname] at hname''
    cases hname''
    have hhead := Counter.realm_of_ofRowName hc
    rw [hrealm] at hhead
    refine ⟨c, ⟨_, _, true⟩, ⟨⟨0, ?_, rfl, Nat.one_pos⟩, ⟨name, c, hcolumn, hc, rfl⟩, rfl, rfl, ?_⟩,
      rfl, (Realm.name_injective (Option.some.inj hhead)).symm⟩
    · rw [column?_of_new hdelivered hrow'.unit]
      rfl
    · rw [henabled, if_pos hmask]
      exact iff_of_true rfl rfl

theorem forall₂_mem_left {α β : Type} {R : α → β → Prop} {as : List α} {bs : List β}
    (h : List.Forall₂ R as bs) {x : α} (hx : x ∈ as) : ∃ y ∈ bs, R x y := by
  induction h with
  | nil => cases hx
  | cons hab _ ih =>
    rcases List.mem_cons.1 hx with rfl | hx
    · exact ⟨_, List.mem_cons_self, hab⟩
    · obtain ⟨y, hy, hxy⟩ := ih hx
      exact ⟨y, List.mem_cons_of_mem _ hy, hxy⟩

/-- Rows that have been updated and are delivered show the enabled realms of their counters. -/
theorem exists_showsCollected_iff {updates : Json}
    (hrows : ∀ row ∈ rows, ∃ realm, CounterRow row realm)
    (htracked : List.Forall₂ (Tracked m Realm.all) rows rows') (h : DeliversRows updates rows') :
    (∃ row ∈ counterRows updates, ShowsCollected 1 row 0 realm) ↔
      m.isEnabled realm = true ∧ ∃ row ∈ rows, CounterRow row realm ∧ Decodes row := by
  constructor
  · rintro ⟨delivered, hmem, hshows⟩
    obtain ⟨row', hmem', hnew⟩ := forall₂_mem_left h hmem
    obtain ⟨row, hrow, hupdated⟩ := forall₂_mem_left htracked.flip hmem'
    obtain ⟨own, hown⟩ := hrows row hrow
    obtain ⟨rfl, henabled, hdecodes⟩ := (showsCollected_iff hown hupdated hnew realm).1 hshows
    exact ⟨henabled, row, hrow, hown, hdecodes⟩
  · rintro ⟨henabled, row, hrow, hown, hdecodes⟩
    obtain ⟨row', hmem', hupdated⟩ := forall₂_mem_left htracked hrow
    obtain ⟨delivered, hmem, hnew⟩ := forall₂_mem_left h.flip hmem'
    exact ⟨delivered, hmem,
      (showsCollected_iff hown hupdated hnew realm).2 ⟨rfl, henabled, hdecodes⟩⟩

/-- No event about the realms is published if the only unit does not get a new one. -/
theorem no_tracking_event {r : Replica} (hone : r.store.numUnits = 1) {updates : Json}
    (hunlisted : 0 ∉ (r.apply updates).outcome.trackingChanged) (unit : UInt32) :
    .configChanged unit .tracking ∉ (r.apply updates).events := by
  have hsize : r.store.numUnits < UInt32.size := by
    rw [hone]
    decide
  intro hevent
  have hlisted : unit ∈ (r.apply updates).outcome.listed .tracking := by
    rw [← changedUnits_apply hsize]
    exact List.mem_filterMap.2 ⟨_, hevent, rfl⟩
  obtain ⟨old, hold, -⟩ := (mem_listed_apply hsize .tracking unit).1 hlisted
  have hlt := Store.lt_of_settings? hold
  rw [hone] at hlt
  have hzero : unit = 0 := UInt32.toNat_inj.1 (by rw [Nat.lt_one_iff.1 hlt]; rfl)
  rw [hzero] at hlisted
  exact hunlisted hlisted

end Delivered

end BufferTelemetry.Database
