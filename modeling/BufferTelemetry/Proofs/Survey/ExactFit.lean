import BufferTelemetry.Proofs.Store.Entries
import BufferTelemetry.Proofs.Survey.Calls

/-!
# Which capabilities fit

A survey of a unit can fail only because the capabilities count more than there are counters of.
As a survey makes its calls in turn, it succeeds if and only if each counter for which it calls
can be read (`exists_snapshot_iff`). These are, for each kind, a rectangle of cells that starts at
the first (`forall_mem_counters`), so that only its sides decide whether it lies within the
indexing of the kind (`inBounds_iff_accommodates`). Over all realms this leaves a bound for each
number that is counted, with the exceptions for rectangles without cells (`Accommodated`,
`snapshot_fits_exactly`).
-/

namespace BufferTelemetry

/-! ## Reading a unit -/

namespace UnitState

/-- A counter of a unit can be read exactly when it is in bounds. -/
theorem exists_get_iff {u : UnitState} {c : Counter} : (∃ e, u.get c = .ok e) ↔ c.InBounds := by
  constructor
  · rintro ⟨e, h⟩
    cases hp : c.position with
    | ok p => exact (Counter.position_eq_ok_iff.1 hp).1
    | error err =>
      rw [get, Counter.place_of_error hp] at h
      cases h
  · intro hin
    obtain ⟨p, hp⟩ := Counter.exists_position hin
    refine ⟨u.entries[p], ?_⟩
    rw [get, Counter.place_of_ok hp]
    rfl

theorem error_of_get {u : UnitState} {c : Counter} {e : Error} (h : u.get c = .error e) :
    ∃ message, e = .invalidParameter message := by
  cases hp : c.position with
  | ok p =>
    rw [get, Counter.place_of_ok hp] at h
    cases h
  | error err =>
    rw [get, Counter.place_of_error hp] at h
    cases h
    exact ⟨err.message, rfl⟩

end UnitState

/-- So many rows and columns of cells, if any, lie within the indexing. -/
def Indexing.Accommodates (rows columns : Nat) : Indexing → Prop
  | .single => True
  | .row n => rows = 0 ∨ columns ≤ n
  | .grid m n => rows = 0 ∨ columns = 0 ∨ rows ≤ m ∧ columns ≤ n

namespace Survey

/-! ## Calls that succeed -/

section Calls

variable {α β : Type} {caps : Capabilities} {read : Counter → Except Error UInt64}

theorem exists_mapM_iff {f : α → Except Error β} {l : List α} :
    (∃ ys, l.mapM f = .ok ys) ↔ ∀ x ∈ l, ∃ y, f x = .ok y := by
  induction l with
  | nil => simp [pure, Except.pure]
  | cons x rest ih =>
    rw [List.mapM_cons, List.forall_mem_cons, ← ih]
    constructor
    · rintro ⟨ys, h⟩
      obtain ⟨y, hy, h⟩ := bind_eq_ok_iff.1 h
      obtain ⟨rest', hrest, -⟩ := bind_eq_ok_iff.1 h
      exact ⟨⟨y, hy⟩, rest', hrest⟩
    · rintro ⟨⟨y, hy⟩, ys, hys⟩
      exact ⟨y :: ys, by rw [hy, hys]; rfl⟩

theorem error_of_mapM {f : α → Except Error β} {l : List α} {e : Error}
    (h : l.mapM f = .error e) : ∃ x ∈ l, f x = .error e := by
  induction l with
  | nil => cases h
  | cons x rest ih =>
    rw [List.mapM_cons] at h
    cases hx : f x with
    | error err =>
      rw [hx] at h
      cases h
      exact ⟨x, List.mem_cons_self, hx⟩
    | ok y =>
      cases hrest : rest.mapM f with
      | error err =>
        rw [hx, hrest] at h
        cases h
        obtain ⟨x', hmem, hx'⟩ := ih hrest
        exact ⟨x', List.mem_cons_of_mem x hmem, hx'⟩
      | ok ys =>
        rw [hx, hrest] at h
        cases h

/-- A survey succeeds exactly when each of its calls does. -/
theorem exists_snapshot_iff (hcaps : Countable caps) :
    (∃ s, snapshot caps read = .ok s) ↔ ∀ r, ∀ c ∈ counters caps r, ∃ v, read c = .ok v := by
  have hall : (∀ c ∈ Realm.all.flatMap (counters caps), ∃ v, read c = .ok v) ↔
      ∀ r, ∀ c ∈ counters caps r, ∃ v, read c = .ok v := by
    constructor
    · intro h r c hc
      exact h c (List.mem_flatMap.2 ⟨r, by cases r <;> decide, hc⟩)
    · intro h c hc
      obtain ⟨r, -, hc⟩ := List.mem_flatMap.1 hc
      exact h r c hc
  rw [← hall, ← exists_mapM_iff, ← values_snapshot hcaps]
  cases snapshot caps read <;> simp [Functor.map, Except.map]

/-- The error of a survey is that of a call. -/
theorem error_of_snapshot (hcaps : Countable caps) {e : Error}
    (h : snapshot caps read = .error e) : ∃ c, read c = .error e := by
  have hvalues := values_snapshot hcaps read
  rw [h] at hvalues
  obtain ⟨c, -, hc⟩ := error_of_mapM hvalues.symm
  exact ⟨c, hc⟩

/-- What a survey answers has the shape of the snapshot that is all zero. -/
theorem sameShape_of_snapshot (hcaps : Countable caps) {s : Snapshot}
    (h : snapshot caps read = .ok s) : s.SameShape (.zeroed caps) := by
  intro r
  have hzeroed := zeroed_realm hcaps read r
  rw [realm_of_snapshot h] at hzeroed
  have hrealm : (s.realm r).zeroed = (Snapshot.zeroed caps).realm r := Except.ok.inj hzeroed
  rw [← hrealm]
  -- what is set to zero keeps its shape
  cases s.realm r <;>
    simp [RealmData.SameShape, RealmData.zeroed, RealmData.realm, RealmData.shape,
      Function.comp_def]

end Calls

/-! ## Rectangles -/

section Rectangles

variable {caps : Capabilities} {r : Realm} {kind : CounterKind} {rows columns : Nat}

/-- The counters of a realm are a rectangle for each kind. -/
theorem forall_mem_counters {P : Counter → Prop} :
    (∀ c ∈ counters caps r, P c) ↔ ∀ kind ∈ cellKinds r, ∀ row < (dimensions caps r).1,
      ∀ column < (dimensions caps r).2, P (address kind row column) := by
  simp only [counters, List.mem_flatMap, List.mem_map, List.mem_range]
  constructor
  · intro h kind hkind row hrow column hcolumn
    exact h _ ⟨row, hrow, column, hcolumn, kind, hkind, rfl⟩
  · rintro h c ⟨row, hrow, column, hcolumn, kind, hkind, rfl⟩
    exact h kind hkind row hrow column hcolumn

theorem index_address (kind : CounterKind) {column : Nat} (h : column < UInt32.size) (row : Nat) :
    (address kind row column).index.toNat = column :=
  UInt32.toNat_ofNat_of_lt' h

theorem port_address {row : Nat} (hkind : kind.indexing.isDouble = true)
    (h : row + 1 < UInt32.size) (column : Nat) :
    (address kind row column).port.toNat = row + 1 := by
  rw [address, if_pos hkind]
  exact UInt32.toNat_ofNat_of_lt' h

/-- A rectangle that starts at the first cell is in bounds exactly when its sides are. -/
theorem inBounds_iff_accommodates (hrows : rows < UInt32.size) (hcolumns : columns < UInt32.size) :
    (∀ row < rows, ∀ column < columns, (address kind row column).InBounds) ↔
      kind.indexing.Accommodates rows columns := by
  cases hx : kind.indexing with
  | single =>
    have hin : ∀ row column, (address kind row column).InBounds := by
      intro row column
      simp [Counter.InBounds, address, hx]
    exact ⟨fun _ => trivial, fun _ row _ column _ => hin row column⟩
  | row n =>
    have hin : ∀ row, ∀ column < columns, (address kind row column).InBounds ↔ column < n := by
      intro row column hcolumn
      have hindex := index_address kind (by omega : column < UInt32.size) row
      simp only [address] at hindex
      simp only [Counter.InBounds, address, hx, hindex]
    simp only [Indexing.Accommodates]
    constructor
    · intro h
      by_cases hempty : rows = 0 ∨ columns = 0
      · omega
      · have hlast := (hin 0 (columns - 1) (by omega)).1 (h 0 (by omega) _ (by omega))
        omega
    · intro h row hrow column hcolumn
      exact (hin row column hcolumn).2 (by omega)
  | grid m n =>
    have hin : ∀ row < rows, ∀ column < columns,
        (address kind row column).InBounds ↔ row < m ∧ column < n := by
      intro row hrow column hcolumn
      have hindex := index_address kind (by omega : column < UInt32.size) row
      have hport := port_address (by rw [hx]; rfl : kind.indexing.isDouble = true)
        (by omega : row + 1 < UInt32.size) column
      have hkind : (address kind row column).kind = kind := rfl
      simp only [Counter.InBounds, hkind, hx, hindex, hport]
      omega
    simp only [Indexing.Accommodates]
    constructor
    · intro h
      by_cases hempty : rows = 0 ∨ columns = 0
      · omega
      · -- the last cell decides
        have hlast := (hin (rows - 1) (by omega) (columns - 1) (by omega)).1
          (h _ (by omega) _ (by omega))
        omega
    · intro h row hrow column hcolumn
      exact (hin row hrow column hcolumn).2 (by omega)

end Rectangles

/-! ## The fit -/

section Fit

variable {caps : Capabilities}

/-- Of all that the capabilities count there are counters. The kinds with a port have none if
there are no ports, or nothing to be counted of each port. -/
structure Accommodated (caps : Capabilities) : Prop where
  servicePools : caps.numServicePools.toNat ≤ 4
  priorityGroups : caps.numPorts.toNat = 0 ∨ caps.numPriorityGroups.toNat ≤ 8
  ports : caps.numPorts.toNat ≤ 130 ∨
    caps.numPriorityGroups.toNat = 0 ∧ caps.numServicePools.toNat = 0
  unicastQueues : caps.numUnicastQueues.toNat ≤ 4096
  unicastQueueGroups : caps.numUnicastQueueGroups.toNat ≤ 128
  multicastQueues : caps.numMulticastQueues.toNat ≤ 1040
  cpuQueues : caps.numCpuQueues.toNat ≤ 8
  rqeQueues : caps.numRqeQueues.toNat ≤ 11

/-- The capabilities are accommodated exactly when the rectangles of all realms are. -/
theorem accommodated_iff : Accommodated caps ↔ ∀ r, ∀ kind ∈ cellKinds r,
    kind.indexing.Accommodates (dimensions caps r).1 (dimensions caps r).2 := by
  constructor
  · rintro ⟨hpools, hgroups, hports, hucast, hucastGroup, hmcast, hcpu, hrqe⟩ r kind hkind
    cases r <;>
      · simp only [cellKinds, List.mem_cons, List.not_mem_nil, or_false] at hkind
        rcases hkind with rfl | rfl <;>
          simp only [CounterKind.indexing, Indexing.Accommodates, dimensions] <;> omega
  · intro h
    have hgroups := h .ingressPortPriorityGroup .priGroupShared (by decide)
    have hportPools := h .egressPortServicePool .egressPortShared (by decide)
    have hpools := h .egressServicePool .egressPool (by decide)
    have hucast := h .egressUcQueue .ucast (by decide)
    have hucastGroup := h .egressUcQueueGroup .ucastGroup (by decide)
    have hmcast := h .egressMcQueue .mcast (by decide)
    have hcpu := h .egressCpuQueue .cpuQueue (by decide)
    have hrqe := h .egressRqeQueue .rqeQueue (by decide)
    simp only [CounterKind.indexing, Indexing.Accommodates, dimensions] at *
    constructor <;> omega

theorem dimensions_lt (hcaps : Countable caps) (r : Realm) :
    (dimensions caps r).1 < UInt32.size ∧ (dimensions caps r).2 < UInt32.size := by
  obtain ⟨hports, hgroups, hpools, hucast, hucastGroup, hmcast, hcpu, hrqe⟩ := hcaps
  have hone : 1 < UInt32.size := by decide
  cases r <;> exact ⟨by assumption, by assumption⟩

/-- **The exact fit.** A survey of a unit succeeds if and only if all that the capabilities count
is accommodated. If so, it has the shape of the snapshot that is all zero, and if not, it reports
an invalid parameter. -/
theorem snapshot_fits_exactly (hcaps : Countable caps) (u : UnitState) (pick : Entry → UInt64) :
    let surveyed := snapshot caps fun c => (u.get c).map pick
    ((∃ s, surveyed = .ok s) ↔ Accommodated caps) ∧
      (∀ s, surveyed = .ok s → s.SameShape (.zeroed caps)) ∧
      ∀ e, surveyed = .error e → ∃ message, e = .invalidParameter message := by
  have hread : ∀ c, (∃ v, (u.get c).map pick = .ok v) ↔ c.InBounds := by
    intro c
    rw [← UnitState.exists_get_iff (u := u)]
    cases u.get c <;> simp [Except.map]
  refine ⟨?_, fun s h => sameShape_of_snapshot hcaps h, ?_⟩
  · rw [exists_snapshot_iff hcaps, accommodated_iff]
    refine forall_congr' fun r => ?_
    simp only [hread, forall_mem_counters]
    obtain ⟨hrows, hcolumns⟩ := dimensions_lt hcaps r
    exact forall₂_congr fun kind _ => inBounds_iff_accommodates hrows hcolumns
  · intro e h
    obtain ⟨c, hc⟩ := error_of_snapshot hcaps h
    cases hget : u.get c with
    | ok entry =>
      rw [hget] at hc
      cases hc
    | error err =>
      rw [hget] at hc
      cases hc
      exact UnitState.error_of_get hget

/-- Of a Trident2, as many ports as there can be fit, and not one more. -/
theorem snapshot_fits_exactly_trident2 :
    (Countable (.trident2 130) ∧
      ∃ s, snapshot (.trident2 130) (fun c => (UnitState.initial.get c).map Entry.stat) = .ok s) ∧
    (Countable (.trident2 131) ∧
      ∃ message, snapshot (.trident2 131) (fun c => (UnitState.initial.get c).map Entry.stat) =
        .error (.invalidParameter message)) := by
  have hfits : Countable (.trident2 130) := countable_trident2 (by decide)
  have hexceeds : Countable (.trident2 131) := countable_trident2 (by decide)
  have haccommodated : Accommodated (.trident2 130) := by
    constructor <;> decide
  have hnot : ¬ Accommodated (.trident2 131) := by
    intro h
    exact absurd h.ports (by decide)
  obtain ⟨hiff, -, -⟩ := snapshot_fits_exactly hfits .initial Entry.stat
  obtain ⟨hiff', -, herror⟩ := snapshot_fits_exactly hexceeds .initial Entry.stat
  refine ⟨⟨hfits, hiff.2 haccommodated⟩, hexceeds, ?_⟩
  cases h : snapshot (.trident2 131) fun c => (UnitState.initial.get c).map Entry.stat with
  | ok s => exact absurd (hiff'.1 ⟨s, h⟩) hnot
  | error e =>
    obtain ⟨message, rfl⟩ := herror e h
    exact ⟨message, rfl⟩

end Fit

end Survey

end BufferTelemetry
