import BufferTelemetry.Survey

/-!
# The cells of a survey

A survey whose reader succeeds on every counter that it visits does not fail, and its
cells hold what the reader answers (`snapshot_eq_pure`): it is the survey in the identity
monad, in which a row is a plain list. There the cell at a port and an index is the one
that was read at these coordinates (`grid_getElem?`, `row_getElem?`), and the data of a
realm in a snapshot are the survey of the realm (`realm_snapshot`).
-/

namespace BufferTelemetry.Survey

/-- The number of counters of a kind that a survey visits at one port, or in all if the
kind has no ports. -/
def width (caps : Capabilities) : CounterKind → Nat
  | .device => 1
  | .egressPool => count caps.numServicePools
  | .egressMcastPool => count caps.numServicePools
  | .ingressPool => count caps.numServicePools
  | .portPool => count caps.numServicePools
  | .priGroupShared => count caps.numPriorityGroups
  | .priGroupHeadroom => count caps.numPriorityGroups
  | .ucast => count caps.numUnicastQueues
  | .mcast => count caps.numMulticastQueues
  | .egressUcastPortShared => count caps.numServicePools
  | .egressPortShared => count caps.numServicePools
  | .rqeQueue => count caps.numRqeQueues
  | .rqePool => 0
  | .ucastGroup => count caps.numUnicastQueueGroups
  | .cpuQueue => count caps.numCpuQueues

/-- The counter is one of those that a survey visits. -/
structure Visited (caps : Capabilities) (c : Counter) : Prop where
  index_lt : c.index.toNat < width caps c.kind
  port_le : c.kind.indexing.isDouble = true →
    1 ≤ c.port.toNat ∧ c.port.toNat ≤ count caps.numPorts
  port_eq : c.kind.indexing.isDouble = false → c.port = 0

theorem count_lt (n : UInt64) : count n < UInt32.size := n.toUInt32.toNat_lt

/-! ## Surveys that do not fail -/

section Pure

variable {m : Type → Type} [Monad m] [LawfulMonad m] {α : Type} {caps : Capabilities}
  {read : Counter → m UInt64} {f : Counter → UInt64}

theorem visit_eq_pure {cell : UInt32 → m α} {g : UInt32 → α} {first n : Nat}
    (h : ∀ i, first ≤ i → i < first + n → cell (.ofNat i) = pure (g (.ofNat i))) :
    visit cell first n = pure (visit (m := Id) g first n).run := by
  induction n generalizing first with
  | zero => rfl
  | succ n ih =>
    have hrest : visit cell (first + 1) n = pure (visit (m := Id) g (first + 1) n).run := by
      refine ih ?_
      intro i hle hlt
      exact h i (by omega) (by omega)
    rw [visit, h first (by omega) (by omega), pure_bind, hrest, pure_bind]
    rfl

theorem row_eq_pure {cell : UInt32 → m α} {g : UInt32 → α} {columns : UInt64}
    (h : ∀ i : UInt32, i.toNat < count columns → cell i = pure (g i)) :
    row columns cell = pure (row (m := Id) columns g).run := by
  refine visit_eq_pure ?_
  intro i _ hlt
  refine h _ ?_
  have hsmall : i < UInt32.size := by
    have := count_lt columns
    omega
  rw [UInt32.toNat_ofNat_of_lt' hsmall]
  omega

theorem grid_eq_pure {cell : UInt32 → UInt32 → m α} {g : UInt32 → UInt32 → α} {columns : UInt64}
    (h : ∀ port i : UInt32, 1 ≤ port.toNat → port.toNat ≤ count caps.numPorts →
      i.toNat < count columns → cell port i = pure (g port i)) :
    grid caps columns cell = pure (grid (m := Id) caps columns g).run := by
  refine visit_eq_pure ?_
  intro port hle hlt
  have hsmall : port < UInt32.size := by
    have := count_lt caps.numPorts
    omega
  have hport : (UInt32.ofNat port).toNat = port := UInt32.toNat_ofNat_of_lt' hsmall
  refine row_eq_pure ?_
  intro i hi
  exact h _ i (by omega) (by omega) hi

theorem queues_eq_pure {kind : CounterKind} {n : UInt64}
    (h : ∀ i : UInt32, i.toNat < count n → read ⟨kind, 0, i⟩ = pure (f ⟨kind, 0, i⟩)) :
    queues read kind n = pure (queues (m := Id) f kind n).run := by
  refine row_eq_pure ?_
  intro i hi
  rw [h i hi, pure_bind]
  rfl

/-- A survey of a realm answers what its reader does. -/
theorem realm_eq_pure {r : Realm}
    (h : ∀ c, Visited caps c → c.kind.realm = r → read c = pure (f c)) :
    realm caps read r = pure (realm (m := Id) caps f r).run := by
  -- a counter of a grid, and one of a row
  have hgrid : ∀ (kind : CounterKind) (port i : UInt32), kind.indexing.isDouble = true →
      kind.realm = r → 1 ≤ port.toNat → port.toNat ≤ count caps.numPorts →
      i.toNat < width caps kind → read ⟨kind, port, i⟩ = pure (f ⟨kind, port, i⟩) := by
    intro kind port i hdouble hr hle hlt hi
    refine h _ ⟨hi, fun _ => ⟨hle, hlt⟩, ?_⟩ hr
    intro hnot
    rw [hdouble] at hnot
    cases hnot
  have hrow : ∀ (kind : CounterKind) (i : UInt32), kind.indexing.isDouble = false →
      kind.realm = r → i.toNat < width caps kind → read ⟨kind, 0, i⟩ = pure (f ⟨kind, 0, i⟩) := by
    intro kind i hdouble hr hi
    refine h _ ⟨hi, ?_, fun _ => rfl⟩ hr
    intro hnot
    rw [hdouble] at hnot
    cases hnot
  cases r with
  | device =>
    rw [realm, hrow .device 0 rfl rfl Nat.one_pos, pure_bind]
    rfl
  | ingressPortPriorityGroup =>
    rw [realm, grid_eq_pure, pure_bind]
    · rfl
    · intro port i hle hlt hi
      rw [hgrid .priGroupShared port i rfl rfl hle hlt hi, pure_bind,
        hgrid .priGroupHeadroom port i rfl rfl hle hlt hi, pure_bind]
      rfl
  | ingressPortServicePool =>
    rw [realm, grid_eq_pure, pure_bind]
    · rfl
    · intro port i hle hlt hi
      exact hgrid .portPool port i rfl rfl hle hlt hi
  | ingressServicePool =>
    rw [realm, row_eq_pure, pure_bind]
    · rfl
    · intro i hi
      exact hrow .ingressPool i rfl rfl hi
  | egressPortServicePool =>
    rw [realm, grid_eq_pure, pure_bind]
    · rfl
    · intro port i hle hlt hi
      rw [hgrid .egressUcastPortShared port i rfl rfl hle hlt hi, pure_bind,
        hgrid .egressPortShared port i rfl rfl hle hlt hi, pure_bind]
      rfl
  | egressServicePool =>
    rw [realm, row_eq_pure, pure_bind]
    · rfl
    · intro i hi
      rw [hrow .egressPool i rfl rfl hi, pure_bind, hrow .egressMcastPool i rfl rfl hi, pure_bind]
      rfl
  | egressUcQueue =>
    rw [realm, queues_eq_pure fun i hi => hrow .ucast i rfl rfl hi, pure_bind]
    rfl
  | egressUcQueueGroup =>
    rw [realm, queues_eq_pure fun i hi => hrow .ucastGroup i rfl rfl hi, pure_bind]
    rfl
  | egressMcQueue =>
    rw [realm, queues_eq_pure fun i hi => hrow .mcast i rfl rfl hi, pure_bind]
    rfl
  | egressCpuQueue =>
    rw [realm, queues_eq_pure fun i hi => hrow .cpuQueue i rfl rfl hi, pure_bind]
    rfl
  | egressRqeQueue =>
    rw [realm, queues_eq_pure fun i hi => hrow .rqeQueue i rfl rfl hi, pure_bind]
    rfl

/-- **Surveys that do not fail.** A survey answers what its reader does. -/
theorem snapshot_eq_pure (h : ∀ c, Visited caps c → read c = pure (f c)) :
    snapshot caps read = pure (snapshot (m := Id) caps f).run := by
  have hrealms : ∀ (rs : List Realm) (s : Snapshot),
      rs.foldlM (fun s r => return s.setRealm (← realm caps read r)) s =
        pure (Id.run (rs.foldlM (m := Id)
          (fun s r => return s.setRealm (← realm (m := Id) caps f r)) s)) := by
    intro rs
    induction rs with
    | nil =>
      intro s
      rfl
    | cons r rest ih =>
      intro s
      rw [List.foldlM_cons, realm_eq_pure fun c hc _ => h c hc, pure_bind, pure_bind, ih]
      rfl
  exact hrealms Realm.all (.zeroed caps)

end Pure

/-! ## Cells -/

section Cells

variable {α : Type} {caps : Capabilities} {columns : UInt64}

theorem visit_getElem? (cell : UInt32 → α) (first n i : Nat) :
    (visit (m := Id) cell first n).run[i]? =
      if i < n then some (cell (.ofNat (first + i))) else none := by
  induction n generalizing first i with
  | zero => rfl
  | succ n ih =>
    show (cell (.ofNat first) :: (visit (m := Id) cell (first + 1) n).run)[i]? = _
    cases i with
    | zero => simp
    | succ i =>
      rw [List.getElem?_cons_succ, ih, Nat.add_right_comm, Nat.add_assoc]
      simp only [Nat.succ_lt_succ_iff]

theorem row_getElem? (cell : UInt32 → α) {i : UInt32} (hi : i.toNat < count columns) :
    (row (m := Id) columns cell).run[i.toNat]? = some (cell i) := by
  rw [row, visit_getElem?, if_pos hi, Nat.zero_add, UInt32.ofNat_toNat]

/-- The cell of a queue, which no port owns. -/
theorem queues_getElem? {n : UInt64} (f : Counter → UInt64) (kind : CounterKind) {q : UInt32}
    (hq : q.toNat < count n) :
    (queues (m := Id) f kind n).run[q.toNat]? = some ⟨0, f ⟨kind, 0, q⟩⟩ :=
  row_getElem? _ hq

theorem grid_getElem? (cell : UInt32 → UInt32 → α) {port i : UInt32} (hle : 1 ≤ port.toNat)
    (hlt : port.toNat ≤ count caps.numPorts) (hi : i.toNat < count columns) :
    ((grid (m := Id) caps columns cell).run[port.toNat - 1]?).bind (·[i.toNat]?) =
      some (cell port i) := by
  have hport : port.toNat - 1 < count caps.numPorts := by omega
  have hnum : 1 + (port.toNat - 1) = port.toNat := by omega
  rw [grid, visit_getElem?, if_pos hport, hnum, UInt32.ofNat_toNat, Option.bind_some]
  exact row_getElem? _ hi

/-- The data of a realm in a snapshot are the survey of the realm. -/
theorem realm_snapshot (caps : Capabilities) (f : Counter → UInt64) (r : Realm) :
    (snapshot (m := Id) caps f).run.realm r = (realm (m := Id) caps f r).run := by
  cases r <;> rfl

end Cells

end BufferTelemetry.Survey
