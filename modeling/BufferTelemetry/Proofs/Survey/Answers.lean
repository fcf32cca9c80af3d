import BufferTelemetry.Proofs.Counter.Layout
import BufferTelemetry.Proofs.Survey.Collection
import BufferTelemetry.Proofs.Survey.Realms

/-!
# What a snapshot answers

A survey may fail, as its reader may, but what it answers is right: the data of every realm
in a snapshot are the answer of the survey of that realm (`realm_of_snapshot`), and every cell
holds what the reader answers for the counter that the cell shows (`shows_of_realms`). Which
counter that is depends on the kind and the place of the cell only (`address`), and different
cells show different counters (`eq_of_address_canonical_eq`). For the store this means that a
snapshot agrees with it cell by cell (`Backend.snapshot_agrees_with_store`).
-/

namespace BufferTelemetry

/-! ## Places of cells -/

namespace Snapshot

/-- The cells of a row, which is the only one. -/
def rowCell? {α : Type} (cells : List α) (field : α → UInt64) (row column : Nat) :
    Option UInt64 :=
  if row = 0 then cells[column]?.map field else none

/-- The cells of a grid, which has a row for every port. -/
def gridCell? {α : Type} (cells : List (List α)) (field : α → UInt64) (row column : Nat) :
    Option UInt64 :=
  (cells[row]?.bind (·[column]?)).map field

/-- The cell that shows a counter of the given kind, at a row and a column. -/
def cell? (s : Snapshot) : CounterKind → Nat → Nat → Option UInt64
  | .device => rowCell? [s.device] id
  | .egressPool => rowCell? s.egressSp (·.umShare)
  | .egressMcastPool => rowCell? s.egressSp (·.mcShare)
  | .ingressPool => rowCell? s.ingressSp id
  | .portPool => gridCell? s.ingressPortSp id
  | .priGroupShared => gridCell? s.ingressPortPg (·.umShare)
  | .priGroupHeadroom => gridCell? s.ingressPortPg (·.umHeadroom)
  | .ucast => rowCell? s.egressUcQueue (·.bufferCount)
  | .mcast => rowCell? s.egressMcQueue (·.bufferCount)
  | .egressUcastPortShared => gridCell? s.egressPortSp (·.ucShare)
  | .egressPortShared => gridCell? s.egressPortSp (·.umShare)
  | .rqeQueue => rowCell? s.egressRqeQueue (·.bufferCount)
  | .rqePool => fun _ _ => none
  | .ucastGroup => rowCell? s.egressUcQueueGroup (·.bufferCount)
  | .cpuQueue => rowCell? s.egressCpuQueue (·.bufferCount)

end Snapshot

namespace Survey

/-- The number of rows in which the counters of a kind are shown. -/
def height (caps : Capabilities) (kind : CounterKind) : Nat :=
  if kind.indexing.isDouble then count caps.numPorts else 1

/-- The counter that is shown at a row and a column: ports are counted from one, and
indices from zero. -/
def address (kind : CounterKind) (row column : Nat) : Counter where
  kind := kind
  port := if kind.indexing.isDouble then .ofNat (row + 1) else 0
  index := .ofNat column

section Answers

variable {caps : Capabilities} {read : Counter → Except Error UInt64} {α : Type}

/-! ## Surveys that succeed -/

theorem bind_eq_ok_iff {ε α β : Type} {x : Except ε α} {f : α → Except ε β} {y : β} :
    (x >>= f) = .ok y ↔ ∃ a, x = .ok a ∧ f a = .ok y := by
  cases x <;> simp [bind, Except.bind]

theorem of_visit {cell : UInt32 → Except Error α} {first n : Nat} {l : List α}
    (h : visit cell first n = .ok l) :
    l.length = n ∧ ∀ i x, l[i]? = some x → cell (.ofNat (first + i)) = .ok x := by
  induction n generalizing first l with
  | zero =>
    cases h
    simp
  | succ n ih =>
    obtain ⟨x, hx, h⟩ := bind_eq_ok_iff.1 h
    obtain ⟨rest, hrest, h⟩ := bind_eq_ok_iff.1 h
    cases h
    obtain ⟨hlength, hcells⟩ := ih hrest
    refine ⟨by rw [List.length_cons, hlength], ?_⟩
    intro i y hy
    cases i with
    | zero =>
      cases hy
      exact hx
    | succ i =>
      have hcell := hcells i y hy
      rwa [Nat.add_right_comm, Nat.add_assoc] at hcell

theorem of_row {columns : UInt64} {cell : UInt32 → Except Error α} {l : List α}
    (h : row columns cell = .ok l) :
    l.length = count columns ∧ ∀ i x, l[i]? = some x → cell (.ofNat i) = .ok x := by
  obtain ⟨hlength, hcells⟩ := of_visit h
  refine ⟨hlength, ?_⟩
  intro i x hx
  have hcell := hcells i x hx
  rwa [Nat.zero_add] at hcell

theorem exists_field_iff {l : List α} {field : α → UInt64} {i : Nat} :
    (∃ v, l[i]?.map field = some v) ↔ i < l.length := by
  rw [← Option.isSome_iff_exists]
  simp

/-- Cells show the counters of a kind: there is one for every row and column, and it holds
what the reader answers. -/
structure Shows (caps : Capabilities) (read : Counter → Except Error UInt64)
    (kind : CounterKind) (cell? : Nat → Nat → Option UInt64) : Prop where
  exists_iff : ∀ row column, (∃ v, cell? row column = some v) ↔
    row < height caps kind ∧ column < width caps kind
  value : ∀ row column v, cell? row column = some v → read (address kind row column) = .ok v

theorem shows_row {kind : CounterKind} {n : UInt64} {cell : UInt32 → Except Error α}
    {l : List α} {field : α → UInt64} (hsingle : kind.indexing.isDouble = false)
    (hwidth : width caps kind = count n) (hl : row n cell = .ok l)
    (hfield : ∀ i x, cell i = .ok x → read ⟨kind, 0, i⟩ = .ok (field x)) :
    Shows caps read kind (Snapshot.rowCell? l field) := by
  obtain ⟨hlength, hcells⟩ := of_row hl
  have hheight : height caps kind = 1 := by simp [height, hsingle]
  constructor
  · intro row column
    rw [hheight, hwidth, ← hlength, Nat.lt_one_iff]
    by_cases hrow : row = 0
    · rw [Snapshot.rowCell?, if_pos hrow, exists_field_iff]
      simp [hrow]
    · simp [Snapshot.rowCell?, hrow]
  · intro row column v hv
    by_cases hrow : row = 0
    · rw [Snapshot.rowCell?, if_pos hrow] at hv
      obtain ⟨x, hx, rfl⟩ := Option.map_eq_some_iff.1 hv
      have hread := hfield (.ofNat column) x (hcells column x hx)
      simpa [address, hsingle] using hread
    · simp [Snapshot.rowCell?, hrow] at hv

theorem shows_grid {kind : CounterKind} {columns : UInt64}
    {cell : UInt32 → UInt32 → Except Error α} {g : List (List α)} {field : α → UInt64}
    (hdouble : kind.indexing.isDouble = true) (hwidth : width caps kind = count columns)
    (hg : grid caps columns cell = .ok g)
    (hfield : ∀ port i x, cell port i = .ok x → read ⟨kind, port, i⟩ = .ok (field x)) :
    Shows caps read kind (Snapshot.gridCell? g field) := by
  obtain ⟨hports, hrows⟩ := of_visit hg
  have hheight : height caps kind = count caps.numPorts := by simp [height, hdouble]
  constructor
  · intro row column
    rw [hheight, hwidth, ← hports]
    cases hrow : g[row]? with
    | none =>
      have hge := List.getElem?_eq_none_iff.1 hrow
      simp [Snapshot.gridCell?, hrow]
      omega
    | some l =>
      obtain ⟨hlt, -⟩ := List.getElem?_eq_some_iff.1 hrow
      have hlength := (of_row (hrows row l hrow)).1
      rw [← hlength, Snapshot.gridCell?, hrow, Option.bind_some, exists_field_iff]
      simp [hlt]
  · intro row column v hv
    obtain ⟨x, hx, rfl⟩ := Option.map_eq_some_iff.1 hv
    obtain ⟨l, hl, hx⟩ := Option.bind_eq_some_iff.1 hx
    have hcell := (of_row (hrows row l hl)).2 column x hx
    have hread := hfield _ _ x hcell
    rw [Nat.add_comm] at hread
    simpa [address, hdouble] using hread

/-! ## Realms of a snapshot -/

theorem realm_of_realm {r : Realm} {d : RealmData} (h : realm caps read r = .ok d) :
    d.realm = r := by
  cases r <;>
    · obtain ⟨_, -, h⟩ := bind_eq_ok_iff.1 h
      cases h
      rfl

/-- A part of a survey over different realms: the realms that it visits have the data of
their own surveys, and the others are left alone. -/
theorem realm_of_foldlM {rs : List Realm} {s s' : Snapshot} (hnodup : rs.Nodup)
    (h : rs.foldlM (fun s r => return s.setRealm (← realm caps read r)) s = .ok s') :
    (∀ r ∈ rs, realm caps read r = .ok (s'.realm r)) ∧ ∀ r ∉ rs, s'.realm r = s.realm r := by
  induction rs generalizing s with
  | nil =>
    cases h
    simp
  | cons r rest ih =>
    rw [List.nodup_cons] at hnodup
    rw [List.foldlM_cons] at h
    obtain ⟨next, hnext, hrest⟩ := bind_eq_ok_iff.1 h
    obtain ⟨d, hd, hnext⟩ := bind_eq_ok_iff.1 hnext
    cases hnext
    obtain ⟨hvisited, hothers⟩ := ih hnodup.2 hrest
    have hrealm : d.realm = r := realm_of_realm hd
    constructor
    · rw [List.forall_mem_cons]
      refine ⟨?_, hvisited⟩
      rw [hothers r hnodup.1, Snapshot.realm_setRealm, if_pos hrealm, hd]
    · intro other hother
      rw [List.mem_cons, not_or] at hother
      rw [hothers other hother.2, Snapshot.realm_setRealm, hrealm, if_neg (Ne.symm hother.1)]

/-- **Realm by realm.** The data of a realm in a snapshot are the answer of its own survey. -/
theorem realm_of_snapshot {s : Snapshot} (h : snapshot caps read = .ok s) (r : Realm) :
    realm caps read r = .ok (s.realm r) := by
  have hnodup : Realm.all.Nodup := by decide
  have hall : r ∈ Realm.all := by
    cases r <;> decide
  exact (realm_of_foldlM hnodup h).1 r hall

theorem exists_snapshot (h : ∀ r, ∃ d, realm caps read r = .ok d) :
    ∃ s, snapshot caps read = .ok s := by
  have hfold : ∀ (rs : List Realm) (s : Snapshot), ∃ s',
      rs.foldlM (fun s r => return s.setRealm (← realm caps read r)) s = .ok s' := by
    intro rs
    induction rs with
    | nil => exact fun s => ⟨s, rfl⟩
    | cons r rest ih =>
      intro s
      obtain ⟨d, hd⟩ := h r
      obtain ⟨s', hs'⟩ := ih (s.setRealm d)
      refine ⟨s', ?_⟩
      rw [List.foldlM_cons, hd]
      exact hs'
  exact hfold Realm.all (.zeroed caps)

/-! ## Cells of a snapshot -/

theorem of_pair {mk : UInt64 → UInt64 → α} {x y : Except Error UInt64} {cell : α}
    (h : (do let a ← x; let b ← y; return mk a b) = .ok cell) :
    ∃ a b, x = .ok a ∧ y = .ok b ∧ mk a b = cell := by
  obtain ⟨a, ha, h⟩ := bind_eq_ok_iff.1 h
  obtain ⟨b, hb, h⟩ := bind_eq_ok_iff.1 h
  cases h
  exact ⟨a, b, ha, hb, rfl⟩

section Pairs

variable {k l : CounterKind} {columns : UInt64} {mk : UInt64 → UInt64 → α}
  (first second : α → UInt64) (hfirst : ∀ a b, first (mk a b) = a)
  (hsecond : ∀ a b, second (mk a b) = b)

include hfirst hsecond

/-- A row of pairs shows two kinds, each with a field of its own. -/
theorem shows_rowPairs {cells : List α}
    (hk : k.indexing.isDouble = false) (hkwidth : width caps k = count columns)
    (hl : l.indexing.isDouble = false) (hlwidth : width caps l = count columns)
    (hcells : row columns (fun i => do
      let a ← read ⟨k, 0, i⟩
      let b ← read ⟨l, 0, i⟩
      return mk a b) = .ok cells) :
    Shows caps read k (Snapshot.rowCell? cells first) ∧
      Shows caps read l (Snapshot.rowCell? cells second) := by
  refine ⟨shows_row hk hkwidth hcells ?_, shows_row hl hlwidth hcells ?_⟩
  all_goals
    intro i cell hcell
    obtain ⟨a, b, ha, hb, rfl⟩ := of_pair hcell
  · rw [hfirst, ha]
  · rw [hsecond, hb]

/-- A grid of pairs shows two kinds, each with a field of its own. -/
theorem shows_gridPairs {cells : List (List α)}
    (hk : k.indexing.isDouble = true) (hkwidth : width caps k = count columns)
    (hl : l.indexing.isDouble = true) (hlwidth : width caps l = count columns)
    (hcells : grid caps columns (fun port i => do
      let a ← read ⟨k, port, i⟩
      let b ← read ⟨l, port, i⟩
      return mk a b) = .ok cells) :
    Shows caps read k (Snapshot.gridCell? cells first) ∧
      Shows caps read l (Snapshot.gridCell? cells second) := by
  refine ⟨shows_grid hk hkwidth hcells ?_, shows_grid hl hlwidth hcells ?_⟩
  all_goals
    intro port i cell hcell
    obtain ⟨a, b, ha, hb, rfl⟩ := of_pair hcell
  · rw [hfirst, ha]
  · rw [hsecond, hb]

end Pairs

theorem shows_queues {kind : CounterKind} {n : UInt64} {l : List QueueCell}
    (hsingle : kind.indexing.isDouble = false) (hwidth : width caps kind = count n)
    (hl : queues read kind n = .ok l) :
    Shows caps read kind (Snapshot.rowCell? l (·.bufferCount)) := by
  refine shows_row hsingle hwidth hl ?_
  intro q cell hcell
  obtain ⟨v, hv, hcell⟩ := bind_eq_ok_iff.1 hcell
  cases hcell
  exact hv

theorem shows_device {v : UInt64} (h : read ⟨.device, 0, 0⟩ = .ok v) :
    Shows caps read .device (Snapshot.rowCell? [v] id) := by
  -- as a row with one cell
  have hrow : row 1 (fun i => read ⟨.device, 0, i⟩) = .ok [v] := by
    show (read ⟨.device, 0, 0⟩ >>= fun value => pure [value]) = .ok [v]
    rw [h]
    rfl
  exact shows_row rfl rfl hrow fun _ _ hcell => hcell

/-- **Cell by cell.** A snapshot whose realms are the answers of their surveys shows every
counter that a survey visits. -/
theorem shows_of_realms {s : Snapshot} (h : ∀ r, realm caps read r = .ok (s.realm r))
    (kind : CounterKind) : Shows caps read kind (s.cell? kind) := by
  have hrealm := h kind.realm
  cases kind
  case rqePool => exact ⟨by simp [Snapshot.cell?, width], by simp [Snapshot.cell?]⟩
  -- the cells of every other kind are the answer of the survey of its realm
  all_goals
    obtain ⟨cells, hcells, heq⟩ := bind_eq_ok_iff.1 hrealm
    cases heq
  case device => exact shows_device hcells
  case egressPool =>
    exact (shows_rowPairs PoolCell.umShare PoolCell.mcShare (fun _ _ => rfl) (fun _ _ => rfl)
      rfl rfl rfl rfl hcells).1
  case egressMcastPool =>
    exact (shows_rowPairs PoolCell.umShare PoolCell.mcShare (fun _ _ => rfl) (fun _ _ => rfl)
      rfl rfl rfl rfl hcells).2
  case ingressPool => exact shows_row rfl rfl hcells fun _ _ hcell => hcell
  case portPool => exact shows_grid rfl rfl hcells fun _ _ _ hcell => hcell
  case priGroupShared =>
    exact (shows_gridPairs PriorityGroupCell.umShare PriorityGroupCell.umHeadroom
      (fun _ _ => rfl) (fun _ _ => rfl) rfl rfl rfl rfl hcells).1
  case priGroupHeadroom =>
    exact (shows_gridPairs PriorityGroupCell.umShare PriorityGroupCell.umHeadroom
      (fun _ _ => rfl) (fun _ _ => rfl) rfl rfl rfl rfl hcells).2
  case egressUcastPortShared =>
    exact (shows_gridPairs PortPoolCell.ucShare PortPoolCell.umShare
      (fun _ _ => rfl) (fun _ _ => rfl) rfl rfl rfl rfl hcells).1
  case egressPortShared =>
    exact (shows_gridPairs PortPoolCell.ucShare PortPoolCell.umShare
      (fun _ _ => rfl) (fun _ _ => rfl) rfl rfl rfl rfl hcells).2
  case ucast => exact shows_queues rfl rfl hcells
  case mcast => exact shows_queues rfl rfl hcells
  case rqeQueue => exact shows_queues rfl rfl hcells
  case ucastGroup => exact shows_queues rfl rfl hcells
  case cpuQueue => exact shows_queues rfl rfl hcells

/-! ## Cells and the counters that they show -/

theorem width_lt (caps : Capabilities) (kind : CounterKind) : width caps kind < UInt32.size := by
  have hone : 1 < UInt32.size := by decide
  have hzero : 0 < UInt32.size := by decide
  cases kind <;> first | exact count_lt _ | exact hone | exact hzero

/-- A counter that a survey visits is shown by a cell. -/
theorem Visited.exists_address {c : Counter} (h : Visited caps c) :
    ∃ row column, row < height caps c.kind ∧ column < width caps c.kind ∧
      c = address c.kind row column := by
  obtain ⟨kind, port, index⟩ := c
  have hindex : UInt32.ofNat index.toNat = index := UInt32.ofNat_toNat
  cases hdouble : kind.indexing.isDouble with
  | true =>
    obtain ⟨hle, hlt⟩ : 1 ≤ port.toNat ∧ port.toNat ≤ count caps.numPorts :=
      h.port_le hdouble
    have hport : UInt32.ofNat (port.toNat - 1 + 1) = port := by
      rw [Nat.sub_add_cancel hle, UInt32.ofNat_toNat]
    refine ⟨port.toNat - 1, index.toNat, ?_, h.index_lt, ?_⟩
    · simp only [height, hdouble, if_true]
      omega
    · simp [address, hdouble, hport, hindex]
  | false =>
    have hport : port = 0 := h.port_eq hdouble
    refine ⟨0, index.toNat, ?_, h.index_lt, ?_⟩
    · simp [height, hdouble]
    · simp [address, hdouble, hport, hindex]

/-- Every cell shows a counter that a survey visits. -/
theorem visited_address {kind : CounterKind} {row column : Nat}
    (hrow : row < height caps kind) (hcolumn : column < width caps kind) :
    Visited caps (address kind row column) := by
  have hwidth := width_lt caps kind
  have hindex : (UInt32.ofNat column).toNat = column := UInt32.toNat_ofNat_of_lt' (by omega)
  refine ⟨?_, ?_, ?_⟩
  · show (UInt32.ofNat column).toNat < width caps kind
    rw [hindex]
    exact hcolumn
  · intro hdouble
    have hdouble : kind.indexing.isDouble = true := hdouble
    have hports := count_lt caps.numPorts
    simp only [height, hdouble, if_true] at hrow
    have hport : (UInt32.ofNat (row + 1)).toNat = row + 1 := UInt32.toNat_ofNat_of_lt' (by omega)
    simp only [address, hdouble, if_true, hport]
    omega
  · intro hdouble
    have hdouble : kind.indexing.isDouble = false := hdouble
    simp [address, hdouble]

/-- Cells that show the same counter are the same cell. -/
theorem eq_of_address_canonical_eq {k l : CounterKind} {row row' column column' : Nat}
    (hk : row < height caps k ∧ column < width caps k)
    (hl : row' < height caps l ∧ column' < width caps l)
    (h : (address k row column).canonical = (address l row' column').canonical) :
    k = l ∧ row = row' ∧ column = column' := by
  have hkind : k = l := Counter.kind_eq_of_canonical_eq h
  subst hkind
  have hwidth := width_lt caps k
  have hcolumn : (UInt32.ofNat column).toNat = column := UInt32.toNat_ofNat_of_lt' (by omega)
  have hcolumn' : (UInt32.ofNat column').toNat = column' := UInt32.toNat_ofNat_of_lt' (by omega)
  refine ⟨rfl, ?_⟩
  cases hx : k.indexing with
  | single =>
    have hdevice : k = .device := by
      revert hx
      cases k <;> simp [CounterKind.indexing]
    subst hdevice
    simp only [height, hx, Indexing.isDouble, width, Bool.false_eq_true, if_false] at hk hl
    omega
  | row columns =>
    have hindex : UInt32.ofNat column = .ofNat column' := by
      rw [Counter.canonical_of_row hx, Counter.canonical_of_row hx] at h
      exact congrArg Counter.index h
    simp only [height, hx, Indexing.isDouble, Bool.false_eq_true, if_false] at hk hl
    rw [← UInt32.toNat_inj, hcolumn, hcolumn'] at hindex
    omega
  | grid rows columns =>
    have hdouble : k.indexing.isDouble = true := by rw [hx]; rfl
    rw [Counter.canonical_of_grid hx, Counter.canonical_of_grid hx] at h
    have hindex : UInt32.ofNat column = .ofNat column' := congrArg Counter.index h
    have hport : UInt32.ofNat (row + 1) = .ofNat (row' + 1) := by
      have hports := congrArg Counter.port h
      simpa [address, hdouble] using hports
    have hcount := count_lt caps.numPorts
    simp only [height, hdouble, if_true] at hk hl
    have hrow : (UInt32.ofNat (row + 1)).toNat = row + 1 := UInt32.toNat_ofNat_of_lt' (by omega)
    have hrow' : (UInt32.ofNat (row' + 1)).toNat = row' + 1 :=
      UInt32.toNat_ofNat_of_lt' (by omega)
    rw [← UInt32.toNat_inj, hcolumn, hcolumn'] at hindex
    rw [← UInt32.toNat_inj, hrow, hrow'] at hport
    omega

end Answers

end Survey

/-! ## Snapshots of the store -/

namespace Database.Backend

open Rpc

variable {σ : Type} {asics : List Asic} {unit : UInt32} {pick : Entry → UInt64}

/-- What a survey of a unit in the store reads of a counter. -/
theorem reader_eq_ok_iff {s : Store} {read : Counter → Except Error UInt64}
    (h : reader s unit pick = .ok read) {c : Counter} {v : UInt64} :
    read c = .ok v ↔ ∃ e, s.get unit c = .ok e ∧ pick e = v := by
  obtain ⟨u, hu, h⟩ := Survey.bind_eq_ok_iff.1 h
  cases h
  have hget : s.get unit c = u.get c := by
    rw [Store.get, hu]
    rfl
  rw [hget]
  show (u.get c).map pick = .ok v ↔ _
  cases u.get c <;> simp [Except.map]

/-- The realms of a snapshot are what is answered for them one by one. -/
theorem collectRealm_of_collect {b : Backend σ} {s : Snapshot}
    (h : (collect asics unit pick b).1 = .ok s) (r : Realm) :
    (collectRealm asics unit r pick b).1 = .ok (s.realm r) := by
  rw [collect_apply] at h
  obtain ⟨⟨caps, read⟩, hsurvey, hs⟩ := Survey.bind_eq_ok_iff.1 h
  rw [collectRealm_apply, hsurvey]
  exact Survey.realm_of_snapshot hs r

/-- A snapshot fails exactly when the answer for some realm does. -/
theorem collect_fails_iff (b : Backend σ) :
    (∃ e, (collect asics unit pick b).1 = .error e) ↔
      ∃ r e, (collectRealm asics unit r pick b).1 = .error e := by
  simp only [collect_apply, collectRealm_apply]
  cases surveyed asics b.store unit pick with
  | error e => exact ⟨fun _ => ⟨.device, e, rfl⟩, fun _ => ⟨e, rfl⟩⟩
  | ok found =>
    obtain ⟨caps, read⟩ := found
    show (∃ e, Survey.snapshot caps read = .error e) ↔ ∃ r e, Survey.realm caps read r = .error e
    constructor
    · rintro ⟨e, he⟩
      refine Classical.byContradiction fun hnone => ?_
      have hall : ∀ r, ∃ d, Survey.realm caps read r = .ok d := by
        intro r
        cases hr : Survey.realm caps read r with
        | ok d => exact ⟨d, rfl⟩
        | error e => exact absurd ⟨r, e, hr⟩ hnone
      obtain ⟨s, hs⟩ := Survey.exists_snapshot hall
      rw [hs] at he
      cases he
    · rintro ⟨r, e, he⟩
      cases hs : Survey.snapshot caps read with
      | error e => exact ⟨e, rfl⟩
      | ok s =>
        rw [Survey.realm_of_snapshot hs r] at he
        cases he

/-- The cells of a snapshot are those of the dimensions of the ASIC, and hold what is read of
the counters that they show. -/
theorem cells_of_collect {b : Backend σ} {s : Snapshot}
    (h : (collect asics unit pick b).1 = .ok s) :
    ∃ asic, findAsic asics unit = .ok asic ∧
      (∀ kind row column, (∃ v, s.cell? kind row column = some v) ↔
        row < Survey.height asic.capabilities kind ∧
          column < Survey.width asic.capabilities kind) ∧
      ∀ kind row column v, s.cell? kind row column = some v →
        ∃ e, b.store.get unit (Survey.address kind row column) = .ok e ∧ pick e = v := by
  rw [collect_apply] at h
  obtain ⟨⟨caps, read⟩, hsurvey, hs⟩ := Survey.bind_eq_ok_iff.1 h
  obtain ⟨asic, hasic, hsurvey⟩ := Survey.bind_eq_ok_iff.1 hsurvey
  obtain ⟨_, hread, hsurvey⟩ := Survey.bind_eq_ok_iff.1 hsurvey
  cases hsurvey
  have hshows := Survey.shows_of_realms (Survey.realm_of_snapshot hs)
  refine ⟨asic, hasic, fun kind => (hshows kind).exists_iff, ?_⟩
  intro kind row column v hv
  exact (reader_eq_ok_iff hread).1 ((hshows kind).value row column v hv)

/-- **A snapshot agrees with the store.** The data of a realm in a snapshot are what is
answered for the realm alone, and a snapshot fails exactly when the answer for some realm
does. Every cell of a snapshot holds the statistic, and every cell of the thresholds the
threshold, that is read of the counter at the cell's place, with ports counted from one and
indices from zero; and the cells are those of the dimensions of the ASIC. Different cells of a
snapshot show counters at different positions. There are a snapshot and thresholds of every
unit whose ASIC has no more counters than there can be. -/
theorem snapshot_agrees_with_store (t : Transport σ) (a : Access) (asics : List Asic)
    (unit : UInt32) (b : Backend σ) :
    let bst := service t a asics
    -- realms
    (∀ s, (bst.snapshot unit b).1 = .ok s →
      ∀ r, (bst.realmData unit r b).1 = .ok (s.realm r)) ∧
    ((∃ e, (bst.snapshot unit b).1 = .error e) ↔
      ∃ r e, (bst.realmData unit r b).1 = .error e) ∧
    -- values
    (∀ s, (bst.snapshot unit b).1 = .ok s →
      ∀ kind row column v, s.cell? kind row column = some v →
        ∃ e, b.store.get unit (Survey.address kind row column) = .ok e ∧ e.stat = v) ∧
    (∀ s, (bst.thresholds unit b).1 = .ok s →
      ∀ kind row column v, s.cell? kind row column = some v →
        ∃ e, b.store.get unit (Survey.address kind row column) = .ok e ∧ e.threshold = v) ∧
    -- places
    (∀ s, (bst.snapshot unit b).1 = .ok s ∨ (bst.thresholds unit b).1 = .ok s →
      ∃ asic, findAsic asics unit = .ok asic ∧
        (∀ kind row column, (∃ v, s.cell? kind row column = some v) ↔
          row < Survey.height asic.capabilities kind ∧
            column < Survey.width asic.capabilities kind) ∧
        ∀ k l row column row' column' v v' p,
          s.cell? k row column = some v → s.cell? l row' column' = some v' →
          (Survey.address k row column).position = .ok p →
          (Survey.address l row' column').position = .ok p →
          k = l ∧ row = row' ∧ column = column') ∧
    -- answers
    (∀ asic, findAsic asics unit = .ok asic → Survey.Fits asic.capabilities →
      unit.toNat < b.store.numUnits →
      (∃ s, (bst.snapshot unit b).1 = .ok s) ∧ ∃ s, (bst.thresholds unit b).1 = .ok s) := by
  intro bst
  refine ⟨fun s hs r => collectRealm_of_collect hs r, collect_fails_iff b, ?_, ?_, ?_, ?_⟩
  · intro s hs
    obtain ⟨_, -, -, hvalues⟩ := cells_of_collect hs
    exact hvalues
  · intro s hs
    obtain ⟨_, -, -, hvalues⟩ := cells_of_collect hs
    exact hvalues
  · intro s hs
    have hplaces : ∃ asic, findAsic asics unit = .ok asic ∧
        ∀ kind row column, (∃ v, s.cell? kind row column = some v) ↔
          row < Survey.height asic.capabilities kind ∧
            column < Survey.width asic.capabilities kind := by
      rcases hs with hs | hs
      all_goals
        obtain ⟨asic, hasic, hexists, -⟩ := cells_of_collect hs
        exact ⟨asic, hasic, hexists⟩
    obtain ⟨asic, hasic, hexists⟩ := hplaces
    refine ⟨asic, hasic, hexists, ?_⟩
    intro k l row column row' column' v v' p hv hv' hp hp'
    exact Survey.eq_of_address_canonical_eq ((hexists k row column).1 ⟨v, hv⟩)
      ((hexists l row' column').1 ⟨v', hv'⟩) (Counter.canonical_eq_of_position_eq hp hp')
  · intro asic hasic hfits hu
    have hanswers : ∀ pick, ∃ s, (collect asics unit pick b).1 = .ok s := by
      intro pick
      rw [collect_eq hasic hfits b hu]
      exact ⟨_, rfl⟩
    exact ⟨hanswers _, hanswers _⟩

end Database.Backend

end BufferTelemetry
