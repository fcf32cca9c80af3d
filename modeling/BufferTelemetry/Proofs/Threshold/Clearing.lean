import BufferTelemetry.Database.Request
import BufferTelemetry.Proofs.Replica.CounterHistory
import BufferTelemetry.Proofs.Survey.Answers
import BufferTelemetry.Proofs.Threshold.RoundTrip

/-!
# Cleared thresholds

Two ways lead to the factory maxima of a switch. The System service asks for the factory
threshold of the kind of every counter. Where thresholds have been cleared, the database
delivers rows whose threshold is the empty set; the replica takes it for no threshold and
records the factory threshold instead, and the snapshot of the thresholds reads the store.

What a counter holds after an update is decided by the last row that reports it
(`LastCarries`, `threshold_of_last`). So if these rows carry the value with which thresholds
are cleared, both ways show the same; and a cell whose last row carries a number shows it
(`thresholds_of_update`).
-/

namespace BufferTelemetry

namespace Survey

/-- The counters that are shown by cells. -/
def shownCounters (caps : Capabilities) : List Counter :=
  CounterKind.all.flatMap fun kind =>
    (List.range (height caps kind)).flatMap fun row =>
      (List.range (width caps kind)).map fun column => address kind row column

theorem mem_shownCounters {caps : Capabilities} {kind : CounterKind} {row column : Nat}
    (hrow : row < height caps kind) (hcolumn : column < width caps kind) :
    address kind row column ∈ shownCounters caps := by
  have hkind : kind ∈ CounterKind.all := by cases kind <;> decide
  refine List.mem_flatMap.2 ⟨kind, hkind, ?_⟩
  refine List.mem_flatMap.2 ⟨row, List.mem_range.2 hrow, ?_⟩
  exact List.mem_map_of_mem (List.mem_range.2 hcolumn)

end Survey

namespace Database

open Rpc Survey

/-- The value that an update of the database assigns to a column. -/
def assignedColumn? (params : Json) (column : String) : Option Json := do
  (← (← params.item? 1).get? "row").get? column

/-! ## The last row about a counter -/

/-- If rows with a property exist, then one of them is the last. -/
theorem exists_last {α : Type} {P : α → Prop} {l : List α} (h : ∃ x ∈ l, P x) :
    ∃ before x after, l = before ++ x :: after ∧ P x ∧ ∀ y ∈ after, ¬ P y := by
  induction l with
  | nil => simp at h
  | cons x rest ih =>
    by_cases hrest : ∃ y ∈ rest, P y
    · obtain ⟨before, y, after, hsplit, hy, hafter⟩ := ih hrest
      exact ⟨x :: before, y, after, by rw [hsplit, List.cons_append], hy, hafter⟩
    · obtain ⟨y, hy, hP⟩ := h
      rcases List.mem_cons.1 hy with rfl | hy
      · exact ⟨[], y, rest, rfl, hP, fun z hz hz' => hrest ⟨z, hz, hz'⟩⟩
      · exact absurd ⟨y, hy, hP⟩ hrest

/-- The last row that reports the counter carries the value as its threshold. -/
def LastCarries (numUnits : Nat) (rows : List Json) (unit : UInt32) (c : Counter)
    (value : Json) : Prop :=
  ∃ before row after, rows = before ++ row :: after ∧
    (∃ e, Reports numUnits row unit c e) ∧ column? row "trigger_threshold" = some value ∧
    ∀ later ∈ after, ∀ e, ¬ Reports numUnits later unit c e

section LastCarries

variable {n : Nat} {rows : List Json} {unit : UInt32} {c : Counter} {value : Json}

theorem LastCarries.unit_lt (h : LastCarries n rows unit c value) : unit.toNat < n := by
  obtain ⟨_, _, _, -, ⟨_, hreports⟩, -, -⟩ := h
  obtain ⟨w, -, hunit, hlt⟩ := hreports.unit_eq
  omega

/-- The last row about a counter decides its threshold: a number that it carries, and
otherwise the factory threshold of the counter. -/
theorem threshold_of_last {s s' : Store} (hfollows : Follows rows s s')
    (hlast : LastCarries s.numUnits rows unit c value) {e : Entry}
    (hget : s'.get unit c = .ok e) :
    e.threshold = value.word?.getD c.kind.factoryThreshold := by
  obtain ⟨pos, hpos, hcell⟩ := Store.get_eq_ok_iff.1 hget
  obtain ⟨base, hbase⟩ := Store.exists_cell hlast.unit_lt pos
  obtain ⟨e', hcell', hreport⟩ := hfollows.cell unit c pos base hpos hbase
  rw [hcell] at hcell'
  cases hcell'
  obtain ⟨before, row, after, hsplit, ⟨reported, hrow⟩, hcarries, hafter⟩ := hlast
  -- the row would be the last report again if the rows were taken in again
  have hagain : LastReport s.numUnits rows unit c e reported :=
    .reported before row after reported hsplit hrow hafter
  have hsame : reported = e := hreport.again hagain
  have hthreshold := hrow.threshold_eq
  rw [hcarries, Option.bind_some] at hthreshold
  rw [← hsame]
  exact hthreshold

end LastCarries

/-! ## An update about every cell -/

/-- A row of unit 0 about a counter with the given threshold. -/
def thresholdRow (value : Json) (c : Counter) : Json :=
  .obj [("new", .obj [("hw_unit_id", .int 0), ("name", .str c.rowName),
    ("trigger_threshold", value)])]

/-- An update with a row about the counter of every cell, all with the same threshold. -/
def thresholdUpdateOfAll (caps : Capabilities) (value : Json) : Json :=
  .obj [(counterTable, .obj ((shownCounters caps).map fun c =>
    (c.rowName, thresholdRow value c)))]

theorem counterRows_thresholdUpdateOfAll (caps : Capabilities) (value : Json) :
    counterRows (thresholdUpdateOfAll caps value) =
      (shownCounters caps).map (thresholdRow value) := by
  have hrows : counterRows (thresholdUpdateOfAll caps value) = ((shownCounters caps).map fun c =>
      (c.rowName, thresholdRow value c)).map Prod.snd ++ [] := rfl
  rw [hrows, List.append_nil, List.map_map]
  rfl

theorem exists_reports_thresholdRow (value : Json) {c : Counter} {p : Fin CounterKind.total}
    (hp : c.position = .ok p) : ∃ e, Reports 1 (thresholdRow value c) 0 c e := by
  have hcanonical : c.canonical.canonical = c.canonical :=
    Counter.canonical_eq_of_position_eq ((Counter.position_canonical c).trans hp) hp
  have henabled : column? (thresholdRow value c) "enabled" = none := rfl
  refine ⟨⟨0, value.word?.getD c.kind.factoryThreshold, false⟩, ⟨0, rfl, rfl, Nat.one_pos⟩,
    ⟨c.rowName, c.canonical, rfl, Counter.ofRowName_rowName hp, hcanonical⟩, rfl, rfl, ?_⟩
  rw [henabled]
  simp

theorem lastCarries_thresholdUpdateOfAll {caps : Capabilities} (hfits : Fits caps) (value : Json)
    {kind : CounterKind} {row column : Nat} (hrow : row < height caps kind)
    (hcolumn : column < width caps kind) :
    LastCarries 1 (counterRows (thresholdUpdateOfAll caps value)) 0 (address kind row column)
      value := by
  obtain ⟨p, hp⟩ := Counter.exists_position (hfits.inBounds (visited_address hrow hcolumn))
  rw [counterRows_thresholdUpdateOfAll]
  obtain ⟨before, last, after, hsplit, hreports, hafter⟩ :=
    exists_last (P := fun r => ∃ e, Reports 1 r 0 (address kind row column) e)
      ⟨_, List.mem_map_of_mem (mem_shownCounters hrow hcolumn),
        exists_reports_thresholdRow value hp⟩
  have hmem : last ∈ (shownCounters caps).map (thresholdRow value) := by simp [hsplit]
  obtain ⟨c, -, rfl⟩ := List.mem_map.1 hmem
  refine ⟨before, _, after, hsplit, hreports, rfl, ?_⟩
  intro later hlater e hlater'
  exact hafter later hlater ⟨e, hlater'⟩

/-! ## What is shown after an update -/

namespace Backend

variable {σ : Type}

theorem findAsic_asics (ty : AsicType) (numPorts : UInt64) :
    findAsic (SwitchSystem.asics ty numPorts) 0 =
      .ok { unit := 0, asicType := ty, capabilities := .trident2 numPorts } := rfl

/-- The factory maxima of a switch are those of the counters that a survey visits. -/
theorem maxBuffers_eq (ty : AsicType) (numPorts : UInt64) :
    SwitchSystem.maxBuffers (SwitchSystem.asics ty numPorts) 0 =
      .ok (snapshot (m := Id) (.trident2 numPorts) fun c => c.kind.factoryThreshold).run := by
  rw [SwitchSystem.maxBuffers, findAsic_asics]
  exact snapshot_eq_pure (m := Except Error) fun _ _ => rfl

theorem thresholds_eq (t : Transport σ) (a : Access) (ty : AsicType) {numPorts : UInt64}
    (hports : numPorts ≤ 130) (b : Backend σ) (hunit : 0 < b.store.numUnits) :
    (service t a (SwitchSystem.asics ty numPorts)).thresholds 0 b =
      (.ok (snapshot (m := Id) (.trident2 numPorts) (valueOf b.store 0 Entry.threshold)).run, b) :=
  collect_eq (findAsic_asics ty numPorts) (fits_trident2 hports) b hunit

theorem valueOf_of_last {s s' : Store} {rows : List Json} {c : Counter} {value : Json}
    (hfollows : Follows rows s s') (hlast : LastCarries s.numUnits rows 0 c value)
    (hin : c.InBounds) :
    valueOf s' 0 Entry.threshold c = value.word?.getD c.kind.factoryThreshold := by
  have hunit : (0 : UInt32).toNat < s'.numUnits := hfollows.numUnits_eq ▸ hlast.unit_lt
  obtain ⟨pos, hpos⟩ := Counter.exists_position hin
  obtain ⟨e, he⟩ := Store.exists_cell hunit pos
  have hget : s'.get 0 c = .ok e := Store.get_eq_ok_iff.2 ⟨pos, hpos, he⟩
  rw [valueOf_eq hget, threshold_of_last hfollows hlast hget]

/-- **Thresholds after an update.** If the last row about the counter of every cell carries the
value with which thresholds are cleared, then the thresholds of the unit are its factory maxima.
If it carries a number, then the cell shows the number. -/
theorem thresholds_of_update (t : Transport σ) (a : Access) (interfaces : Interfaces)
    (interface : String) (ty : AsicType) (numPorts : UInt64) (hports : numPorts ≤ 130)
    (r : Replica) (hunits : r.store.numUnits < UInt32.size) (updates : Json) (b : Backend σ) :
    let caps := Capabilities.trident2 numPorts
    let bst := service t a (SwitchSystem.asics ty numPorts)
    let system := SwitchSystem.service interfaces interface ty numPorts
    let after : Backend σ := { b with store := (r.apply updates).replica.store }
    -- thresholds that are cleared
    (∀ database value,
      assignedColumn? (clearThresholds database 0) "trigger_threshold" = some value →
      (∀ kind row column, row < height caps kind → column < width caps kind →
        LastCarries r.store.numUnits (counterRows updates) 0 (address kind row column) value) →
      ∃ shown, bst.thresholds 0 after = (.ok shown, after) ∧ system.maxBuffers 0 = .ok shown) ∧
    -- thresholds that are set
    (∀ kind row column v, row < height caps kind → column < width caps kind →
      LastCarries r.store.numUnits (counterRows updates) 0 (address kind row column)
        (.ofWord v) →
      ∃ shown, bst.thresholds 0 after = (.ok shown, after) ∧
        shown.cell? kind row column = some v) := by
  intro caps bst system after
  have hfollows : Follows (counterRows updates) r.store after.store :=
    (apply_takesIn hunits updates).1
  refine ⟨?_, ?_⟩
  · intro database value hvalue hlast
    have hword : value.word? = none := by
      cases hvalue
      rfl
    have hunit : 0 < after.store.numUnits := by
      rw [hfollows.numUnits_eq]
      exact (hlast .device 0 0 Nat.one_pos Nat.one_pos).unit_lt
    refine ⟨_, thresholds_eq t a ty hports after hunit, ?_⟩
    -- both surveys read the same of every counter that they visit
    have hsame : ∀ c, Visited caps c →
        valueOf after.store 0 Entry.threshold c = c.kind.factoryThreshold := by
      intro c hc
      obtain ⟨row, column, hrow, hcolumn, hcell⟩ := hc.exists_address
      have hlast := hlast c.kind row column hrow hcolumn
      rw [← hcell] at hlast
      rw [valueOf_of_last hfollows hlast ((fits_trident2 hports).inBounds hc), hword,
        Option.getD_none]
    have hsurvey : snapshot (m := Id) caps (valueOf after.store 0 Entry.threshold) =
        pure (snapshot (m := Id) caps fun c => c.kind.factoryThreshold).run :=
      snapshot_eq_pure (m := Id) hsame
    rw [hsurvey]
    exact maxBuffers_eq ty numPorts
  · intro kind row column v hrow hcolumn hlast
    have hunit : 0 < after.store.numUnits := by
      rw [hfollows.numUnits_eq]
      exact hlast.unit_lt
    have hthresholds := thresholds_eq t a ty hports after hunit
    obtain ⟨asic, hasic, hcells, hvalues⟩ := cells_of_collect (congrArg Prod.fst hthresholds)
    cases (findAsic_asics ty numPorts).symm.trans hasic
    obtain ⟨shown, hshown⟩ := (hcells kind row column).2 ⟨hrow, hcolumn⟩
    obtain ⟨e, hget, hthreshold⟩ := hvalues kind row column shown hshown
    have hword := threshold_of_last hfollows hlast hget
    rw [Json.word?_ofWord, Option.getD_some] at hword
    refine ⟨_, hthresholds, ?_⟩
    rw [hshown, ← hthreshold, hword]

/-- After the thresholds of a switch with four ports have been cleared in every row, its
thresholds are the factory maxima. -/
theorem thresholds_of_update_cleared :
    let a : Access :=
      { endpoint := .unix "db.sock", database := "OpenSwitch", replyTimeoutMs := 1000
        maxLine := 4096 }
    let r := Replica.initial 1
    let updates := thresholdUpdateOfAll (.trident2 4) emptySet
    let b : Backend Unit :=
      { store := (r.apply updates).replica.store, settingsRow := none, kept := none, world := () }
    (4 : UInt64) ≤ 130 ∧ r.store.numUnits < UInt32.size ∧
      assignedColumn? (clearThresholds "OpenSwitch" 0) "trigger_threshold" = some emptySet ∧
      ∃ shown, (service silent a (SwitchSystem.asics .trident2 4)).thresholds 0 b =
          (.ok shown, b) ∧
        (SwitchSystem.service .none "eth0" .trident2 4).maxBuffers 0 = .ok shown := by
  intro a r updates b
  have hports : (4 : UInt64) ≤ 130 := by decide
  have hunits : r.store.numUnits < UInt32.size := (by decide : 1 < UInt32.size)
  have hassigned : assignedColumn? (clearThresholds "OpenSwitch" 0) "trigger_threshold" =
      some emptySet := rfl
  have h := thresholds_of_update silent a .none "eth0" .trident2 4 hports r hunits updates b
  refine ⟨hports, hunits, hassigned, h.1 "OpenSwitch" emptySet hassigned ?_⟩
  intro kind row column hrow hcolumn
  exact lastCarries_thresholdUpdateOfAll (fits_trident2 hports) emptySet hrow hcolumn

end Backend

end Database

end BufferTelemetry
