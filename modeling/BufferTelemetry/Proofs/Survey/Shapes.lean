import BufferTelemetry.Proofs.Survey.Collection

/-!
# The shapes of surveys

Realm data have the lengths of their rows as their shape. Where the capabilities of an ASIC can
be counted in thirty-two bits, a survey has the shape of the snapshot that is all zero, whatever
is read (`sameShape_snapshot`, `shape_realm`).
-/

namespace BufferTelemetry

/-- The lengths of the rows, port by port where there are ports. -/
def RealmData.shape : RealmData → List Nat
  | .device _ => []
  | .ingressPortPriorityGroup cells => cells.map List.length
  | .ingressPortServicePool cells => cells.map List.length
  | .ingressServicePool cells => [cells.length]
  | .egressPortServicePool cells => cells.map List.length
  | .egressServicePool cells => [cells.length]
  | .egressUcQueue cells => [cells.length]
  | .egressUcQueueGroup cells => [cells.length]
  | .egressMcQueue cells => [cells.length]
  | .egressCpuQueue cells => [cells.length]
  | .egressRqeQueue cells => [cells.length]

/-- The data belong to the same realm and have the same shape. -/
def RealmData.SameShape (d d' : RealmData) : Prop := d.realm = d'.realm ∧ d.shape = d'.shape

/-- Every realm has the same shape in both snapshots. -/
def Snapshot.SameShape (s s' : Snapshot) : Prop := ∀ r, (s.realm r).SameShape (s'.realm r)

namespace Survey

/-- What the capabilities count can be counted in thirty-two bits. -/
structure Countable (caps : Capabilities) : Prop where
  ports : caps.numPorts.toNat < UInt32.size
  priorityGroups : caps.numPriorityGroups.toNat < UInt32.size
  servicePools : caps.numServicePools.toNat < UInt32.size
  unicastQueues : caps.numUnicastQueues.toNat < UInt32.size
  unicastQueueGroups : caps.numUnicastQueueGroups.toNat < UInt32.size
  multicastQueues : caps.numMulticastQueues.toNat < UInt32.size
  cpuQueues : caps.numCpuQueues.toNat < UInt32.size
  rqeQueues : caps.numRqeQueues.toNat < UInt32.size

theorem countable_trident2 {numPorts : UInt64} (h : numPorts.toNat < UInt32.size) :
    Countable (.trident2 numPorts) where
  ports := h
  priorityGroups := (by decide : (8 : UInt64).toNat < UInt32.size)
  servicePools := (by decide : (4 : UInt64).toNat < UInt32.size)
  unicastQueues := (by decide : (2960 : UInt64).toNat < UInt32.size)
  unicastQueueGroups := (by decide : (128 : UInt64).toNat < UInt32.size)
  multicastQueues := (by decide : (1040 : UInt64).toNat < UInt32.size)
  cpuQueues := (by decide : (8 : UInt64).toNat < UInt32.size)
  rqeQueues := (by decide : (11 : UInt64).toNat < UInt32.size)

section Shapes

variable {α : Type} {caps : Capabilities} {columns : UInt64}

theorem length_visit (cell : UInt32 → α) (first n : Nat) :
    (visit (m := Id) cell first n).run.length = n := by
  induction n generalizing first with
  | zero => rfl
  | succ n ih => exact congrArg (· + 1) (ih (first + 1))

theorem length_row (cell : UInt32 → α) :
    (row (m := Id) columns cell).run.length = count columns :=
  length_visit cell 0 (count columns)

/-- Every port has a row of its own, and all rows are of the same length. -/
theorem lengths_grid (cell : UInt32 → UInt32 → α) :
    (grid (m := Id) caps columns cell).run.map List.length =
      List.replicate (count caps.numPorts) (count columns) := by
  rw [List.eq_replicate_iff, List.length_map]
  refine ⟨length_visit _ 1 (count caps.numPorts), ?_⟩
  intro n hn
  obtain ⟨cells, hcells, rfl⟩ := List.mem_map.1 hn
  obtain ⟨i, hi⟩ := List.mem_iff_getElem?.1 hcells
  rw [grid, visit_getElem?] at hi
  by_cases hlt : i < count caps.numPorts
  · rw [if_pos hlt] at hi
    cases hi
    exact length_row _
  · rw [if_neg hlt] at hi
    cases hi

/-- **Shapes.** A survey of a realm has the shape of the realm when it is all zero. -/
theorem shape_realm (hcaps : Countable caps) (f : Counter → UInt64) (r : Realm) :
    (realm (m := Id) caps f r).run.SameShape ((Snapshot.zeroed caps).realm r) := by
  have hreplicate : ∀ {β : Type} (rows columns : Nat) (x : β),
      (List.replicate rows (List.replicate columns x)).map List.length =
        List.replicate rows columns := by
    intro β rows columns x
    rw [List.map_replicate, List.length_replicate]
  have hgrid : ∀ {β γ : Type} (n : UInt64) (cell : UInt32 → UInt32 → β) (x : γ),
      n.toNat < UInt32.size → (grid (m := Id) caps n cell).run.map List.length =
        (List.replicate caps.numPorts.toNat (List.replicate n.toNat x)).map List.length := by
    intro β γ n cell x hn
    rw [lengths_grid, hreplicate, count_eq hcaps.ports, count_eq hn]
  have hrow : ∀ {β γ : Type} (n : UInt64) (cell : UInt32 → β) (x : γ), n.toNat < UInt32.size →
      [(row (m := Id) n cell).run.length] = [(List.replicate n.toNat x).length] := by
    intro β γ n cell x hn
    rw [length_row, List.length_replicate, count_eq hn]
  cases r with
  | device => exact ⟨rfl, rfl⟩
  | ingressPortPriorityGroup => exact ⟨rfl, hgrid _ _ _ hcaps.priorityGroups⟩
  | ingressPortServicePool => exact ⟨rfl, hgrid _ _ _ hcaps.servicePools⟩
  | ingressServicePool => exact ⟨rfl, hrow _ _ _ hcaps.servicePools⟩
  | egressPortServicePool => exact ⟨rfl, hgrid _ _ _ hcaps.servicePools⟩
  | egressServicePool => exact ⟨rfl, hrow _ _ _ hcaps.servicePools⟩
  | egressUcQueue => exact ⟨rfl, hrow _ _ _ hcaps.unicastQueues⟩
  | egressUcQueueGroup => exact ⟨rfl, hrow _ _ _ hcaps.unicastQueueGroups⟩
  | egressMcQueue => exact ⟨rfl, hrow _ _ _ hcaps.multicastQueues⟩
  | egressCpuQueue => exact ⟨rfl, hrow _ _ _ hcaps.cpuQueues⟩
  | egressRqeQueue => exact ⟨rfl, hrow _ _ _ hcaps.rqeQueues⟩

theorem sameShape_snapshot (hcaps : Countable caps) (f : Counter → UInt64) :
    (snapshot (m := Id) caps f).run.SameShape (.zeroed caps) := by
  intro r
  rw [realm_snapshot]
  exact shape_realm hcaps f r

end Shapes

end Survey

end BufferTelemetry
