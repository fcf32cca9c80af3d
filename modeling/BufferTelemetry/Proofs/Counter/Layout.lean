import BufferTelemetry.Counter.Layout

/-!
# The flat layout does not alias

A counter has a position exactly when its coordinates are in bounds, and the
position is then its place in the row-major order of its kind behind the first
counter of the kind (`position_eq_ok_iff`). Two counters share a position exactly
when they are the same counter, that is, when they differ only in coordinates
that their kind ignores (`position_eq_iff`). The argument has two halves:

* within a kind, row-major order is injective on the coordinates that the kind
  uses (`canonical_eq_of_logical_eq`);
* the ranges of different kinds are disjoint (`CounterKind.ranges_disjoint`).

Nor has the layout any gaps: every position is that of some counter (`exists_counter_at`). So it is
a bijection between the positions and the counters that exist (`layout_bijective`).
-/

namespace BufferTelemetry

namespace CounterKind

/-- The ranges of two kinds follow each other. -/
theorem ranges_disjoint {k l : CounterKind} (hne : k ≠ l) :
    k.start + k.size ≤ l.start ∨ l.start + l.size ≤ k.start := by
  revert hne
  cases k <;> cases l <;> decide

theorem eq_of_start_add_eq {k l : CounterKind} {i j : Nat} (hi : i < k.size) (hj : j < l.size)
    (h : k.start + i = l.start + j) : k = l := by
  by_cases hkl : k = l
  · exact hkl
  · rcases ranges_disjoint hkl with hle | hle <;> omega

/-- A place among the counters of some kinds lies among those of one of them. -/
theorem exists_split (ks : List CounterKind) {i : Nat} (hi : i < sizeOfAll ks) :
    ∃ pre k post, ks = pre ++ k :: post ∧ sizeOfAll pre ≤ i ∧ i < sizeOfAll pre + k.size := by
  induction ks generalizing i with
  | nil => simp [sizeOfAll] at hi
  | cons k rest ih =>
    by_cases hk : i < k.size
    · exact ⟨[], k, rest, rfl, Nat.zero_le i, by simpa [sizeOfAll] using hk⟩
    · have hrest : i - k.size < sizeOfAll rest := by
        simp only [sizeOfAll] at hi
        omega
      obtain ⟨pre, l, post, hsplit, hge, hlt⟩ := ih hrest
      refine ⟨k :: pre, l, post, by rw [hsplit, List.cons_append], ?_, ?_⟩
      · simp only [sizeOfAll]
        omega
      · simp only [sizeOfAll]
        omega

/-- The range of a kind starts where those of the kinds before it end. -/
theorem start_eq {k : CounterKind} {pre post : List CounterKind} (h : all = pre ++ k :: post) :
    k.start = sizeOfAll pre := by
  have hnodup : all.Nodup := by decide
  -- no kind comes twice, so those before the first `k` are those before this one
  have hpre : ∀ l ∈ pre, decide (l ≠ k) = true := by
    rw [h, List.nodup_append] at hnodup
    intro l hl
    exact decide_eq_true (hnodup.2.2 l hl k List.mem_cons_self)
  rw [start, h, List.takeWhile_append_of_pos hpre, List.takeWhile_cons_of_neg (by simp),
    List.append_nil]

/-- Every position lies in the range of some kind. -/
theorem exists_range (p : Fin total) : ∃ k : CounterKind, k.start ≤ p ∧ p < k.start + k.size := by
  obtain ⟨pre, k, post, hsplit, hge, hlt⟩ := exists_split all p.isLt
  have hstart : k.start = sizeOfAll pre := start_eq hsplit
  exact ⟨k, hstart ▸ hge, hstart ▸ hlt⟩

/-- The columns of every kind can be numbered without the highest bit. -/
theorem columns_le (k : CounterKind) : 2 * k.indexing.columns ≤ UInt32.size := by
  cases k <;> decide

end CounterKind

namespace Counter

/-- The coordinates of a counter lie within the indexing of its kind. -/
def InBounds (c : Counter) : Prop :=
  match c.kind.indexing with
  | .single => True
  | .row columns => c.index.toNat < columns
  | .grid rows columns => 1 ≤ c.port.toNat ∧ c.port.toNat ≤ rows ∧ c.index.toNat < columns

instance (c : Counter) : Decidable c.InBounds :=
  match h : c.kind.indexing with
  | .single => isTrue (by simp [InBounds, h])
  | .row columns => decidable_of_iff (c.index.toNat < columns) (by simp [InBounds, h])
  | .grid rows columns =>
    decidable_of_iff (1 ≤ c.port.toNat ∧ c.port.toNat ≤ rows ∧ c.index.toNat < columns)
      (by simp [InBounds, h])

/-- The place of a counter in the row-major order of its kind. -/
def logical (c : Counter) : Nat :=
  match c.kind.indexing with
  | .single => 0
  | .row _ => c.index.toNat
  | .grid _ columns => (c.port.toNat - 1) * columns + c.index.toNat

theorem inKind_eq_ok_iff {k : CounterKind} {n : Nat} {i : Fin k.size} :
    inKind k n = .ok i ↔ i.val = n := by
  unfold inKind
  split
  · rw [Except.ok.injEq, Fin.ext_iff, eq_comm]
  · rename_i hn
    simp only [reduceCtorEq, false_iff]
    intro heq
    exact hn (heq ▸ i.isLt)

/-- In row-major order a place is within the grid exactly when its row is. -/
theorem grid_lt_iff {port index rows columns : Nat} (hport : 1 ≤ port) (hindex : index < columns) :
    (port - 1) * columns + index < rows * columns ↔ port ≤ rows := by
  constructor
  · intro hlt
    have hrow : (port - 1) * columns < rows * columns := by omega
    have := Nat.lt_of_mul_lt_mul_right hrow
    omega
  · intro hle
    calc (port - 1) * columns + index < (port - 1) * columns + columns := by omega
      _ = port * columns := by rw [← Nat.succ_mul]; congr 1; omega
      _ ≤ rows * columns := Nat.mul_le_mul_right _ hle

/-- Counters have an offset exactly when they are in bounds, and then it is their place in
row-major order. -/
theorem offset_eq_ok_iff {c : Counter} {i : Fin c.kind.size} :
    c.offset = .ok i ↔ c.InBounds ∧ i.val = c.logical := by
  have hsize : c.kind.size = c.kind.indexing.size := rfl
  have hi := i.isLt
  cases hx : c.kind.indexing with
  | single => simp only [offset, InBounds, logical, hx, inKind_eq_ok_iff, true_and]
  | row columns =>
    simp only [offset, InBounds, logical, hx, inKind_eq_ok_iff]
    simp only [hx, Indexing.size, Indexing.rows, Indexing.columns, Nat.one_mul] at hsize
    omega
  | grid rows columns =>
    simp only [hx, Indexing.size, Indexing.rows, Indexing.columns] at hsize
    simp only [offset, InBounds, logical, hx]
    split
    · -- a port of zero or a column too far, for which no place is computed
      rename_i hbad
      simp only [reduceCtorEq, false_iff]
      rintro ⟨⟨hport, -, hindex⟩, -⟩
      rcases hbad with hzero | hlarge
      · simp [hzero] at hport
      · omega
    · rename_i hgood
      obtain ⟨hport, hindex⟩ := not_or.1 hgood
      have hport : 1 ≤ c.port.toNat := by
        have : c.port.toNat ≠ 0 := fun h => hport (UInt32.toNat_inj.1 h)
        omega
      have hindex : c.index.toNat < columns := by omega
      have hgrid : (c.port.toNat - 1) * columns + c.index.toNat < rows * columns ↔
          c.port.toNat ≤ rows := grid_lt_iff hport hindex
      rw [inKind_eq_ok_iff]
      omega

theorem logical_lt_size {c : Counter} (hin : c.InBounds) : c.logical < c.kind.size := by
  have hsize : c.kind.size = c.kind.indexing.size := rfl
  cases hx : c.kind.indexing with
  | single =>
    simp [hsize, hx, logical, Indexing.size, Indexing.rows, Indexing.columns]
  | row columns =>
    simpa [hsize, hx, logical, InBounds, Indexing.size, Indexing.rows, Indexing.columns] using hin
  | grid rows columns =>
    simp only [InBounds, hx] at hin
    obtain ⟨hport, hrow, hindex⟩ := hin
    simp only [hsize, hx, logical, Indexing.size, Indexing.rows, Indexing.columns]
    exact (grid_lt_iff hport hindex).2 hrow

/-- **Positions.** A counter has a position exactly when it is in bounds, and then it is
its row-major place behind the first counter of its kind. -/
theorem position_eq_ok_iff {c : Counter} {p : Fin CounterKind.total} :
    c.position = .ok p ↔ c.InBounds ∧ p.val = c.kind.start + c.logical := by
  unfold position
  constructor
  · intro h
    cases ho : c.offset with
    | error e => rw [ho] at h; cases h
    | ok i =>
      obtain ⟨hin, hval⟩ := offset_eq_ok_iff.1 ho
      rw [ho] at h
      cases h
      exact ⟨hin, by rw [← hval]⟩
  · rintro ⟨hin, hval⟩
    have ho : c.offset = .ok ⟨c.logical, logical_lt_size hin⟩ := offset_eq_ok_iff.2 ⟨hin, rfl⟩
    rw [ho]
    simp only [Except.map, Except.ok.injEq, Fin.ext_iff]
    exact hval.symm

theorem exists_position {c : Counter} (hin : c.InBounds) : ∃ p, c.position = .ok p := by
  have hlt : c.kind.start + c.logical < CounterKind.total :=
    Nat.lt_of_lt_of_le (Nat.add_lt_add_left (logical_lt_size hin) _)
      c.kind.start_add_size_le_total
  exact ⟨⟨_, hlt⟩, position_eq_ok_iff.2 ⟨hin, rfl⟩⟩

/-! ## Canonical coordinates -/

@[simp]
theorem canonical_kind (c : Counter) : c.canonical.kind = c.kind := by
  unfold canonical
  split <;> rfl

theorem kind_eq_of_canonical_eq {c d : Counter} (h : c.canonical = d.canonical) :
    c.kind = d.kind := by
  rw [← canonical_kind c, h, canonical_kind]

theorem canonical_of_single {c : Counter} (hx : c.kind.indexing = .single) :
    c.canonical = ⟨c.kind, 0, 0⟩ := by
  simp only [canonical, hx]

theorem canonical_of_row {c : Counter} {columns : Nat} (hx : c.kind.indexing = .row columns) :
    c.canonical = ⟨c.kind, 0, c.index⟩ := by
  simp only [canonical, hx]

theorem canonical_of_grid {c : Counter} {rows columns : Nat}
    (hx : c.kind.indexing = .grid rows columns) : c.canonical = c := by
  simp only [canonical, hx]

/-- The ignored coordinates decide neither whether a counter exists nor where it lies. -/
@[simp]
theorem position_canonical (c : Counter) : c.canonical.position = c.position := by
  obtain ⟨kind, port, index⟩ := c
  cases kind <;> rfl

/-- Within a kind, the place in row-major order determines the coordinates that count. -/
theorem canonical_eq_of_logical_eq {c d : Counter} (hkind : c.kind = d.kind)
    (hc : c.InBounds) (hd : d.InBounds) (h : c.logical = d.logical) :
    c.canonical = d.canonical := by
  cases hx : c.kind.indexing with
  | single => rw [canonical_of_single hx, canonical_of_single (hkind ▸ hx), hkind]
  | row columns =>
    simp only [logical, hx, hkind ▸ hx] at h
    rw [canonical_of_row hx, canonical_of_row (hkind ▸ hx), hkind, UInt32.toNat_inj.1 h]
  | grid rows columns =>
    have hx' : d.kind.indexing = .grid rows columns := hkind ▸ hx
    simp only [InBounds, hx] at hc
    simp only [InBounds, hx'] at hd
    simp only [logical, hx, hx'] at h
    obtain ⟨hcport, -, hcindex⟩ := hc
    obtain ⟨hdport, -, hdindex⟩ := hd
    -- quotient and remainder by the number of columns are the two coordinates
    have hcol : 0 < columns := by omega
    have hquot := congrArg (· / columns) h
    have hrem := congrArg (· % columns) h
    simp only [Nat.mul_comm _ columns, Nat.mul_add_div hcol, Nat.mul_add_mod,
      Nat.div_eq_of_lt hcindex, Nat.div_eq_of_lt hdindex, Nat.mod_eq_of_lt hcindex,
      Nat.mod_eq_of_lt hdindex] at hquot hrem
    have hport : c.port.toNat = d.port.toNat := by omega
    rw [canonical_of_grid hx, canonical_of_grid hx']
    obtain ⟨ck, cp, ci⟩ := c
    obtain ⟨dk, dp, di⟩ := d
    simp only [Counter.mk.injEq]
    exact ⟨hkind, UInt32.toNat_inj.1 hport, UInt32.toNat_inj.1 hrem⟩

/-- **No aliasing.** Counters at one position are the same counter. -/
theorem canonical_eq_of_position_eq {c d : Counter} {p : Fin CounterKind.total}
    (hc : c.position = .ok p) (hd : d.position = .ok p) : c.canonical = d.canonical := by
  obtain ⟨hcin, hcval⟩ := position_eq_ok_iff.1 hc
  obtain ⟨hdin, hdval⟩ := position_eq_ok_iff.1 hd
  have hsum : c.kind.start + c.logical = d.kind.start + d.logical := by omega
  have hkind : c.kind = d.kind :=
    CounterKind.eq_of_start_add_eq (logical_lt_size hcin) (logical_lt_size hdin) hsum
  refine canonical_eq_of_logical_eq hkind hcin hdin ?_
  rw [hkind] at hsum
  omega

/-- Counters share a position exactly when they are the same counter. -/
theorem position_eq_iff {c d : Counter} {p q : Fin CounterKind.total}
    (hc : c.position = .ok p) (hd : d.position = .ok q) :
    p = q ↔ c.canonical = d.canonical := by
  constructor
  · rintro rfl
    exact canonical_eq_of_position_eq hc hd
  · intro h
    rw [← position_canonical, h, position_canonical, hd] at hc
    exact (Except.ok.inj hc).symm

/-! ## Every position is taken -/

/-- Every place among the counters of a kind is that of one of them. -/
theorem exists_logical_eq (k : CounterKind) {i : Nat} (hi : i < k.size) :
    ∃ c : Counter, c.kind = k ∧ c.InBounds ∧ c.logical = i := by
  have htotal : CounterKind.total < UInt32.size := by decide
  have hsmall : i + 1 < UInt32.size := by
    have := k.start_add_size_le_total
    omega
  have hsize : k.size = k.indexing.size := rfl
  cases hx : k.indexing with
  | single =>
    simp only [hsize, hx, Indexing.size, Indexing.rows, Indexing.columns] at hi
    refine ⟨⟨k, 0, 0⟩, rfl, by simp [InBounds, hx], ?_⟩
    simp only [logical, hx]
    omega
  | row columns =>
    simp only [hsize, hx, Indexing.size, Indexing.rows, Indexing.columns, Nat.one_mul] at hi
    have hindex : (UInt32.ofNat i).toNat = i := UInt32.toNat_ofNat_of_lt' (by omega)
    refine ⟨⟨k, 0, .ofNat i⟩, rfl, ?_, ?_⟩
    · simpa [InBounds, hx, hindex] using hi
    · simp [logical, hx, hindex]
  | grid rows columns =>
    simp only [hsize, hx, Indexing.size, Indexing.rows, Indexing.columns] at hi
    -- the port is the quotient, counted from one, and the index the remainder
    have hcol : 0 < columns := Nat.pos_of_ne_zero (by rintro rfl; simp at hi)
    have hrow : i / columns < rows := Nat.div_lt_of_lt_mul (by rwa [Nat.mul_comm])
    have hmod : i % columns < columns := Nat.mod_lt i hcol
    have hle : i / columns ≤ i := Nat.div_le_self i columns
    have hport : (UInt32.ofNat (i / columns + 1)).toNat = i / columns + 1 :=
      UInt32.toNat_ofNat_of_lt' (by omega)
    have hindex : (UInt32.ofNat (i % columns)).toNat = i % columns :=
      UInt32.toNat_ofNat_of_lt' (Nat.lt_of_le_of_lt (Nat.mod_le i columns) (by omega))
    refine ⟨⟨k, .ofNat (i / columns + 1), .ofNat (i % columns)⟩, rfl, ?_, ?_⟩
    · simp only [InBounds, hx]
      rw [hport, hindex]
      exact ⟨Nat.le_add_left 1 _, hrow, hmod⟩
    · simp only [logical, hx, hport, hindex, Nat.add_sub_cancel]
      rw [Nat.mul_comm]
      exact Nat.div_add_mod i columns

/-- **No gaps.** Every position is that of a counter. -/
theorem exists_counter_at (p : Fin CounterKind.total) : ∃ c : Counter, c.position = .ok p := by
  obtain ⟨k, hge, hlt⟩ := CounterKind.exists_range p
  obtain ⟨c, hkind, hin, hlogical⟩ := exists_logical_eq k (i := p - k.start) (by omega)
  refine ⟨c, position_eq_ok_iff.2 ⟨hin, ?_⟩⟩
  rw [hkind, hlogical]
  omega

/-! ## The layout as a whole -/

/-- A place in row-major order is computed within sixty-four bits, even for a port and an index
that no counter has. -/
theorem place_lt (c : Counter) :
    (c.port.toNat - 1) * c.kind.indexing.columns + c.index.toNat < UInt64.size := by
  have hport : c.port.toNat - 1 ≤ UInt32.size :=
    Nat.le_trans (Nat.sub_le c.port.toNat 1) (Nat.le_of_lt c.port.toNat_lt)
  have hindex : c.index.toNat ≤ UInt32.size := Nat.le_of_lt c.index.toNat_lt
  have hcolumns : c.kind.indexing.columns ≤ UInt32.size / 2 := by
    have := c.kind.columns_le
    omega
  calc (c.port.toNat - 1) * c.kind.indexing.columns + c.index.toNat
      ≤ UInt32.size * (UInt32.size / 2) + UInt32.size :=
        Nat.add_le_add (Nat.mul_le_mul hport hcolumns) hindex
    _ < UInt64.size := by decide

theorem position_mem_range {c : Counter} {p : Fin CounterKind.total} (h : c.position = .ok p) :
    c.kind.start ≤ p ∧ p < c.kind.start + c.kind.size := by
  obtain ⟨hin, hval⟩ := position_eq_ok_iff.1 h
  have hlt : c.logical < c.kind.size := logical_lt_size hin
  omega

/-- **A bijection.** Exactly the counters in bounds have an offset, which is their place in
row-major order and is computed without overflow whatever the port and the index. Their positions
lie in the range of their kind, which lies within the positions of the ASIC. Two of them share a
position exactly when they are of one kind and have the same coordinates, apart from those that the
kind ignores, and every position is that of a counter. -/
theorem layout_bijective :
    (∀ (c : Counter) (i : Fin c.kind.size), c.offset = .ok i ↔ c.InBounds ∧ i.val = c.logical) ∧
    (∀ c : Counter,
      (c.port.toNat - 1) * c.kind.indexing.columns + c.index.toNat < UInt64.size) ∧
    (∀ c : Counter, c.InBounds ↔ ∃ p, c.position = .ok p) ∧
    (∀ (c : Counter) (p : Fin CounterKind.total), c.position = .ok p →
      c.kind.start ≤ p ∧ p < c.kind.start + c.kind.size ∧
        c.kind.start + c.kind.size ≤ CounterKind.total) ∧
    (∀ (c d : Counter) (p q : Fin CounterKind.total), c.position = .ok p → d.position = .ok q →
      (p = q ↔ c.canonical = d.canonical)) ∧
    ∀ p : Fin CounterKind.total, ∃ c : Counter, c.position = .ok p := by
  refine ⟨fun c i => offset_eq_ok_iff, place_lt, ?_, ?_, fun c d p q => position_eq_iff,
    exists_counter_at⟩
  · intro c
    constructor
    · exact exists_position
    · rintro ⟨p, hp⟩
      exact (position_eq_ok_iff.1 hp).1
  · intro c p hp
    obtain ⟨hge, hlt⟩ := position_mem_range hp
    exact ⟨hge, hlt, c.kind.start_add_size_le_total⟩

/-- The kind without an index has one position, and its port and index may be anything. -/
theorem layout_bijective_device :
    position ⟨.device, 0xFFFFFFFF, 0xFFFFFFFF⟩ = .ok ⟨0, by decide⟩ ∧
      position ⟨.device, 0, 0⟩ = .ok ⟨0, by decide⟩ ∧
      canonical ⟨.device, 0xFFFFFFFF, 0xFFFFFFFF⟩ = canonical ⟨.device, 0, 0⟩ := by
  have hlast : position ⟨.device, 0xFFFFFFFF, 0xFFFFFFFF⟩ = .ok ⟨0, by decide⟩ := rfl
  have hfirst : position ⟨.device, 0, 0⟩ = .ok ⟨0, by decide⟩ := rfl
  exact ⟨hlast, hfirst, (layout_bijective.2.2.2.2.1 _ _ _ _ hlast hfirst).1 rfl⟩

-- the last port and index of a grid have a place, and the next ones have none
example : (offset ⟨.portPool, 130, 4⟩).toOption.map Fin.val = some 649 ∧
    (offset ⟨.portPool, 130, 5⟩).toOption = none ∧
    (offset ⟨.portPool, 131, 0⟩).toOption = none ∧ (offset ⟨.portPool, 0, 4⟩).toOption = none :=
  ⟨rfl, rfl, rfl, rfl⟩

end Counter

end BufferTelemetry
