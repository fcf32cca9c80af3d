import BufferTelemetry.Proofs.Counter.RowLanguage
import BufferTelemetry.Proofs.Realm.Masks
import BufferTelemetry.Proofs.Replica.Publication

/-!
# Triggers identify counters

A trigger does not carry the kind of its counter, and it tells the index as the number of a queue,
which is one less and has a sign. Nothing is lost by that: the names of the realm and of the
counter determine the kind, and the index of a counter that exists is so small that neither taking
one away nor adding it again leaves the thirty-two bits of the number (`index_lt`). So a trigger
identifies one counter (`Identifies.counter_eq`), and a counter is identified by one trigger
(`Identifies.trigger_eq`).

The trigger of a row identifies the counter that the row names (`Trips.identifies`), under
whatever spelling, since what a row names has no coordinates that its kind ignores. It is also the
counter that is updated when the row is recorded (`recordRow_of_trips`).
-/

namespace BufferTelemetry

/-- The index of a counter does not need the highest bit. -/
theorem Counter.index_lt {c : Counter} (hin : c.InBounds) (hc : c.canonical = c) :
    2 * c.index.toNat < UInt32.size := by
  have hcolumns := c.kind.columns_le
  cases hx : c.kind.indexing with
  | single =>
    have hindex : c.index = 0 := by rw [← hc, canonical_of_single hx]
    rw [hindex]
    decide
  | row columns =>
    simp only [InBounds, hx] at hin
    simp only [hx, Indexing.columns] at hcolumns
    omega
  | grid rows columns =>
    simp only [InBounds, hx] at hin
    simp only [hx, Indexing.columns] at hcolumns
    omega

/-- Taking one away from a number without its highest bit does not wrap around. -/
theorem toInt_toInt32_sub_one {n : UInt32} (hn : 2 * n.toNat < UInt32.size) :
    (n.toInt32 - 1).toInt = n.toNat - 1 := by
  have htoInt : n.toInt32.toInt = n.toNat := BitVec.toInt_eq_toNat_of_lt (x := n.toBitVec) hn
  have hone : (1 : Int32).toInt = 1 := rfl
  rw [UInt32.size] at hn
  rw [Int32.toInt_sub, htoInt, hone]
  exact Int.bmod_eq_of_le (by omega) (by omega)

/-! ## What a trigger identifies -/

/-- The trigger tells which counter it comes from. -/
structure Trigger.Identifies (t : Trigger) (c : Counter) : Prop where
  kind_eq : CounterKind.lookup? t.realm.name t.counter = some c.kind
  port_eq : t.port = c.port
  index_eq : t.queue.toInt + 1 = c.index.toNat

namespace Trigger.Identifies

variable {t u : Trigger} {c d : Counter}

/-- A trigger identifies one counter. -/
theorem counter_eq (h : t.Identifies c) (h' : t.Identifies d) : c = d := by
  have hkind : c.kind = d.kind := Option.some.inj (h.kind_eq.symm.trans h'.kind_eq)
  have hport : c.port = d.port := h.port_eq.symm.trans h'.port_eq
  have hindex : c.index.toNat = d.index.toNat :=
    Int.ofNat.inj (h.index_eq.symm.trans h'.index_eq)
  obtain ⟨kind, port, index⟩ := c
  rw [Counter.mk.injEq]
  exact ⟨hkind, hport, UInt32.toNat_inj.1 hindex⟩

/-- A counter is identified by one trigger. -/
theorem trigger_eq (h : t.Identifies c) (h' : u.Identifies c) : t = u := by
  obtain ⟨hrealm, hcounter⟩ := CounterKind.names_of_lookup? h.kind_eq
  obtain ⟨hrealm', hcounter'⟩ := CounterKind.names_of_lookup? h'.kind_eq
  have hqueue : t.queue.toInt = u.queue.toInt := by
    have := h.index_eq.trans h'.index_eq.symm
    omega
  obtain ⟨realm, counter, port, queue⟩ := t
  rw [Trigger.mk.injEq]
  exact ⟨Realm.name_injective (hrealm.symm.trans hrealm'), hcounter.symm.trans hcounter',
    h.port_eq.trans h'.port_eq.symm, Int32.toInt_inj.1 hqueue⟩

theorem eq_iff (h : t.Identifies c) (h' : u.Identifies d) : t = u ↔ c = d := by
  constructor
  · rintro rfl
    exact h.counter_eq h'
  · rintro rfl
    exact h.trigger_eq h'

/-- The index of an identified counter is the number of the queue plus one, without wrapping
around. -/
theorem toInt_add_one (h : t.Identifies c) (hc : 2 * c.index.toNat < UInt32.size) :
    (t.queue + 1).toInt = t.queue.toInt + 1 := by
  have hindex := h.index_eq
  have hone : (1 : Int32).toInt = 1 := rfl
  rw [UInt32.size] at hc
  rw [Int32.toInt_add, hone]
  exact Int.bmod_eq_of_le (by omega) (by omega)

end Trigger.Identifies

namespace Database

/-! ## Triggers of rows -/

/-- The row is one about the counter of the unit, and says that its threshold is crossed. -/
structure Trips (numUnits : Nat) (row : Json) (unit : UInt32) (c : Counter) : Prop where
  unit_eq : ∃ w, (column? row "hw_unit_id").bind Json.word? = some w ∧
    w.toUInt32 = unit ∧ w.toNat < numUnits
  counter_eq : ∃ name, column? row "name" = some (.str name) ∧ Counter.ofRowName name = .ok c
  crossed : Crossed row

/-- The trigger of a counter. -/
def triggerOf (c : Counter) : Trigger where
  realm := c.kind.realm
  counter := c.kind.counter
  port := c.port
  queue := c.index.toInt32 - 1

/-- The trigger of a counter has its coordinates. -/
theorem address_triggerOf (c : Counter) :
    ⟨c.kind, (triggerOf c).port, ((triggerOf c).queue + 1).toUInt32⟩ = c := by
  show Counter.mk c.kind c.port (c.index.toInt32 - 1 + 1).toUInt32 = c
  rw [Int32.sub_add_cancel, UInt32.toUInt32_toInt32]

section Row

variable {n : Nat} {row : Json} {unit : UInt32} {c : Counter}

theorem trips_iff_ofRow? : Trips n row unit c ↔ ∃ o, Observation.ofRow? n row = some o ∧
    o.triggered = true ∧ o.unit = unit ∧ o.counter = c := by
  constructor
  · intro h
    obtain ⟨w, hw, hunit, hlt⟩ := h.unit_eq
    obtain ⟨name, hname, hc⟩ := h.counter_eq
    have ho := Observation.ofRow?_eq_some_iff.2
      ⟨w, name, c, hw, text?_eq_some_iff.2 hname, hlt, hc, rfl⟩
    exact ⟨_, ho, (Observation.triggered_iff ho).2 h.crossed, hunit, rfl⟩
  · rintro ⟨o, ho, htriggered, rfl, rfl⟩
    have hcrossed := (Observation.triggered_iff ho).1 htriggered
    obtain ⟨w, name, c, hw, hname, hlt, hc, rfl⟩ := Observation.ofRow?_eq_some_iff.1 ho
    exact ⟨⟨w, hw, rfl, hlt⟩, ⟨name, text?_eq_some_iff.1 hname, hc⟩, hcrossed⟩

/-- A row has a trigger exactly if it trips, and then it is that of the counter it names. -/
theorem trigger?_eq_some_iff {e : Event} : trigger? n row = some e ↔
    ∃ unit c, Trips n row unit c ∧ e = .trigger unit (triggerOf c) := by
  rw [trigger?, Option.map_eq_some_iff]
  constructor
  · rintro ⟨o, ho, rfl⟩
    obtain ⟨ho, htriggered⟩ := Option.filter_eq_some_iff.1 ho
    exact ⟨o.unit, o.counter, trips_iff_ofRow?.2 ⟨o, ho, htriggered, rfl, rfl⟩, rfl⟩
  · rintro ⟨unit, c, htrips, rfl⟩
    obtain ⟨o, ho, htriggered, rfl, rfl⟩ := trips_iff_ofRow?.1 htrips
    exact ⟨o, Option.filter_eq_some_iff.2 ⟨ho, htriggered⟩, rfl⟩

theorem trigger?_of_trips (h : Trips n row unit c) :
    trigger? n row = some (.trigger unit (triggerOf c)) :=
  trigger?_eq_some_iff.2 ⟨unit, c, h, rfl⟩

namespace Trips

theorem unit_lt (h : Trips n row unit c) : unit.toNat < n := by
  obtain ⟨o, ho, -, rfl, -⟩ := trips_iff_ofRow?.1 h
  exact Observation.unit_lt_of_ofRow? ho

theorem index_lt (h : Trips n row unit c) : 2 * c.index.toNat < UInt32.size := by
  obtain ⟨name, -, hc⟩ := h.counter_eq
  obtain ⟨pos, hpos⟩ := Counter.exists_position_of_ofRowName hc
  exact Counter.index_lt (Counter.position_eq_ok_iff.1 hpos).1
    (Counter.canonical_eq_of_ofRowName hc)

/-- The trigger of a counter that a row names identifies it. -/
theorem identifies (h : Trips n row unit c) : (triggerOf c).Identifies c := by
  refine ⟨c.kind.lookup?_names, rfl, ?_⟩
  have hqueue : (triggerOf c).queue.toInt = c.index.toNat - 1 := toInt_toInt32_sub_one h.index_lt
  omega

/-- Counters that rows name are the same if they have the same position, for both are named
without coordinates that their kind ignores. -/
theorem position_eq_iff {row' : Json} {unit' : UInt32} {d : Counter} (h : Trips n row unit c)
    (h' : Trips n row' unit' d) : c.position = d.position ↔ c = d := by
  obtain ⟨name, -, hc⟩ := h.counter_eq
  obtain ⟨name', -, hd⟩ := h'.counter_eq
  obtain ⟨pos, hpos⟩ := Counter.exists_position_of_ofRowName hc
  constructor
  · intro heq
    rw [← Counter.canonical_eq_of_ofRowName hc, ← Counter.canonical_eq_of_ofRowName hd]
    exact Counter.canonical_eq_of_position_eq hpos (heq ▸ hpos)
  · rintro rfl
    rfl

end Trips

/-- To record a row that trips is to write the entry of the counter that it names. -/
theorem recordRow_of_trips (h : Trips n row unit c) : ∃ pos, c.position = .ok pos ∧
    ∀ p : Progress, p.replica.store.numUnits = n → ∃ e,
      (p.recordRow row).replica.store = p.replica.store.write unit pos e := by
  obtain ⟨o, ho, -, rfl, rfl⟩ := trips_iff_ofRow?.1 h
  obtain ⟨pos, hpos⟩ := Observation.exists_position_of_ofRow? ho
  refine ⟨pos, hpos, ?_⟩
  rintro p rfl
  obtain ⟨pos', hpos', hrow⟩ := Progress.recordRow_eq ho
  obtain rfl : pos = pos' := Except.ok.inj (hpos.symm.trans hpos')
  exact ⟨o.stored, by rw [hrow]⟩

end Row

/-- **Triggers identify counters.** The triggers of an update are those of its counter rows, in
their order. The trigger of a row is of a unit that exists, and it identifies the counter that the
row names: the names of realm and counter are those of its kind, and the number of the queue plus
one, which wraps around in neither direction, is its index. With the kind, the port and this index
comes the position of the entry that is written when the row is recorded. So triggers of one unit
are equal exactly if their rows name the same counter. -/
theorem triggers_identify_counters (r : Replica) (updates : Json) :
    let n := r.store.numUnits
    -- where the triggers come from
    (r.apply updates).events.filter isTrigger = (counterRows updates).filterMap (trigger? n) ∧
    -- what a trigger tells
    (∀ row asic info, trigger? n row = some (.trigger asic info) →
      asic.toNat < n ∧ ∃ c pos, Trips n row asic c ∧ info.Identifies c ∧
        (info.queue + 1).toInt = info.queue.toInt + 1 ∧
        Counter.position ⟨c.kind, info.port, (info.queue + 1).toUInt32⟩ = .ok pos ∧
        ∀ p : Progress, p.replica.store.numUnits = n → ∃ e,
          (p.recordRow row).replica.store = p.replica.store.write asic pos e) ∧
    -- what two triggers tell
    (∀ row row' asic info info' c c', trigger? n row = some (.trigger asic info) →
      trigger? n row' = some (.trigger asic info') → Trips n row asic c → Trips n row' asic c' →
      (info = info' ↔ c.position = c'.position)) := by
  intro n
  refine ⟨filter_isTrigger_events r updates, ?_, ?_⟩
  · intro row asic info htrigger
    obtain ⟨unit, c, htrips, heq⟩ := trigger?_eq_some_iff.1 htrigger
    cases heq
    obtain ⟨pos, hpos, hwrite⟩ := recordRow_of_trips htrips
    refine ⟨htrips.unit_lt, c, pos, htrips, htrips.identifies,
      htrips.identifies.toInt_add_one htrips.index_lt, ?_, hwrite⟩
    rw [address_triggerOf]
    exact hpos
  · intro row row' asic info info' c c' htrigger htrigger' htrips htrips'
    rw [trigger?_of_trips htrips] at htrigger
    rw [trigger?_of_trips htrips'] at htrigger'
    cases htrigger
    cases htrigger'
    rw [htrips.position_eq_iff htrips', htrips.identifies.eq_iff htrips'.identifies]

-- a name with a sign and a leading zero, and without its unused slot
example :
    trigger? 1 (.obj [("new", .obj [("hw_unit_id", .int 0), ("status", .str triggeredStatus),
        ("name", .str "egress-uc-queue/uc-buffer-count/+07")])]) =
      some (.trigger 0 ⟨.egressUcQueue, "uc-buffer-count", 0, 6⟩) := by
  rfl

end Database

end BufferTelemetry
