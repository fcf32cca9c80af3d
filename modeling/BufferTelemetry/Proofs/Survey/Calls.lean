import BufferTelemetry.Proofs.Rpc.Emission
import BufferTelemetry.Proofs.Survey.Answers
import BufferTelemetry.Proofs.Survey.Shapes

/-!
# The calls of a survey

A survey calls its reader for the counters of a realm in row-major order, and for each cell in the
order of its fields (`counters`). In any monad, the values of its answer are what these calls in
turn answer (`values_realm`), and all that is not such a value is as in the snapshot that is all
zero (`zeroed_realm`); the realms of a snapshot are what their surveys in turn answer
(`realms_snapshot`). So if the reader has a world of its own and can fail, then no call is made
behind the first that fails, and its error is the answer (`surveys_call_in_turn`).
-/

namespace BufferTelemetry

/-! ## Values -/

/-- The values of the counters, row by row, and of a cell in the order of its fields. -/
def RealmData.values : RealmData → List UInt64
  | .device value => [value]
  | .ingressPortPriorityGroup cells =>
    cells.flatMap (·.flatMap fun cell => [cell.umShare, cell.umHeadroom])
  | .ingressPortServicePool cells => cells.flatMap (·.flatMap ([·]))
  | .ingressServicePool cells => cells.flatMap ([·])
  | .egressPortServicePool cells =>
    cells.flatMap (·.flatMap fun cell => [cell.ucShare, cell.umShare])
  | .egressServicePool cells => cells.flatMap fun cell => [cell.umShare, cell.mcShare]
  | .egressUcQueue cells => cells.flatMap ([·.bufferCount])
  | .egressUcQueueGroup cells => cells.flatMap ([·.bufferCount])
  | .egressMcQueue cells => cells.flatMap ([·.bufferCount])
  | .egressCpuQueue cells => cells.flatMap ([·.bufferCount])
  | .egressRqeQueue cells => cells.flatMap ([·.bufferCount])

/-- The data with all values set to zero. -/
def RealmData.zeroed : RealmData → RealmData
  | .device _ => .device 0
  | .ingressPortPriorityGroup cells => .ingressPortPriorityGroup (cells.map (·.map fun _ => ⟨0, 0⟩))
  | .ingressPortServicePool cells => .ingressPortServicePool (cells.map (·.map fun _ => 0))
  | .ingressServicePool cells => .ingressServicePool (cells.map fun _ => 0)
  | .egressPortServicePool cells => .egressPortServicePool (cells.map (·.map fun _ => ⟨0, 0⟩))
  | .egressServicePool cells => .egressServicePool (cells.map fun _ => ⟨0, 0⟩)
  | .egressUcQueue cells => .egressUcQueue (cells.map ({ · with bufferCount := 0 }))
  | .egressUcQueueGroup cells => .egressUcQueueGroup (cells.map ({ · with bufferCount := 0 }))
  | .egressMcQueue cells => .egressMcQueue (cells.map ({ · with bufferCount := 0 }))
  | .egressCpuQueue cells => .egressCpuQueue (cells.map ({ · with bufferCount := 0 }))
  | .egressRqeQueue cells => .egressRqeQueue (cells.map ({ · with bufferCount := 0 }))

/-- The values of all realms, in the order of the realms. -/
def Snapshot.values (s : Snapshot) : List UInt64 := Realm.all.flatMap fun r => (s.realm r).values

namespace Survey

/-! ## Counters -/

/-- The kinds of the counters in a cell of a realm, in the order of its fields. -/
def cellKinds : Realm → List CounterKind
  | .device => [.device]
  | .ingressPortPriorityGroup => [.priGroupShared, .priGroupHeadroom]
  | .ingressPortServicePool => [.portPool]
  | .ingressServicePool => [.ingressPool]
  | .egressPortServicePool => [.egressUcastPortShared, .egressPortShared]
  | .egressServicePool => [.egressPool, .egressMcastPool]
  | .egressUcQueue => [.ucast]
  | .egressUcQueueGroup => [.ucastGroup]
  | .egressMcQueue => [.mcast]
  | .egressCpuQueue => [.cpuQueue]
  | .egressRqeQueue => [.rqeQueue]

/-- The numbers of rows and of columns in which the cells of a realm lie. -/
def dimensions (caps : Capabilities) : Realm → Nat × Nat
  | .device => (1, 1)
  | .ingressPortPriorityGroup => (caps.numPorts.toNat, caps.numPriorityGroups.toNat)
  | .ingressPortServicePool => (caps.numPorts.toNat, caps.numServicePools.toNat)
  | .ingressServicePool => (1, caps.numServicePools.toNat)
  | .egressPortServicePool => (caps.numPorts.toNat, caps.numServicePools.toNat)
  | .egressServicePool => (1, caps.numServicePools.toNat)
  | .egressUcQueue => (1, caps.numUnicastQueues.toNat)
  | .egressUcQueueGroup => (1, caps.numUnicastQueueGroups.toNat)
  | .egressMcQueue => (1, caps.numMulticastQueues.toNat)
  | .egressCpuQueue => (1, caps.numCpuQueues.toNat)
  | .egressRqeQueue => (1, caps.numRqeQueues.toNat)

/-- The counters of a realm in row-major order, with those of a cell in the order of its
fields. -/
def counters (caps : Capabilities) (r : Realm) : List Counter :=
  (List.range (dimensions caps r).1).flatMap fun row =>
    (List.range (dimensions caps r).2).flatMap fun column =>
      (cellKinds r).map fun kind => address kind row column

section Lawful

variable {m : Type → Type} [Monad m] [LawfulMonad m] {α β : Type} {caps : Capabilities}
  {read : Counter → m UInt64} {values : α → List UInt64}

/-! ## What the calls answer -/

/-- If the values of every cell are what some calls answer, then those of all cells are what all
these calls answer. -/
theorem values_visit {cell : UInt32 → m α} {counters : Nat → List Counter} {first : Nat}
    (h : ∀ i, values <$> cell (.ofNat (first + i)) = (counters i).mapM read) (n : Nat) :
    (·.flatMap values) <$> visit cell first n = ((List.range n).flatMap counters).mapM read := by
  induction n generalizing first counters with
  | zero => simp [visit]
  | succ n ih =>
    have hrest : (·.flatMap values) <$> visit cell (first + 1) n =
        ((List.range n).flatMap fun i => counters (i + 1)).mapM read := by
      refine ih ?_
      intro i
      rw [← h, Nat.add_right_comm, Nat.add_assoc]
    rw [List.range_succ_eq_map, List.flatMap_cons, List.flatMap_map, List.mapM_append, ← hrest,
      ← h 0]
    simp [visit]

theorem values_row {cell : UInt32 → m α} {counters : Nat → List Counter} (n : UInt64)
    (h : ∀ i, values <$> cell (.ofNat i) = (counters i).mapM read) :
    (·.flatMap values) <$> row n cell = ((List.range (count n)).flatMap counters).mapM read := by
  refine values_visit ?_ (count n)
  intro i
  rw [Nat.zero_add, h]

theorem values_grid {cell : UInt32 → UInt32 → m α} {counters : Nat → Nat → List Counter}
    (n : UInt64)
    (h : ∀ row i, values <$> cell (.ofNat (row + 1)) (.ofNat i) = (counters row i).mapM read) :
    (·.flatMap (·.flatMap values)) <$> grid caps n cell =
      ((List.range (count caps.numPorts)).flatMap fun row =>
        (List.range (count n)).flatMap (counters row)).mapM read := by
  refine values_visit ?_ (count caps.numPorts)
  intro row
  rw [Nat.add_comm]
  exact values_row n (h row)

/-- The values of a cell that is read as a single counter, and of one that is read as a pair. -/
theorem values_single (c : Counter) : ([·]) <$> read c = [c].mapM read := by
  simp

theorem values_pair {mk : UInt64 → UInt64 → α} {first second : α → UInt64}
    (hfirst : ∀ a b, first (mk a b) = a) (hsecond : ∀ a b, second (mk a b) = b) (c d : Counter) :
    (fun cell => [first cell, second cell]) <$> (do
      let a ← read c
      let b ← read d
      return mk a b) = [c, d].mapM read := by
  simp [hfirst, hsecond]

/-- A realm without ports has a single row. -/
theorem counters_row {n : UInt64} (hn : n.toNat < UInt32.size) (kinds : List CounterKind) :
    (List.range 1).flatMap (fun row => (List.range n.toNat).flatMap fun column =>
        kinds.map fun kind => address kind row column) =
      (List.range (count n)).flatMap fun column => kinds.map fun kind => address kind 0 column := by
  rw [count_eq hn]
  exact List.append_nil _

theorem map_return {γ : Type} {f : β → γ} {g : α → β} (a : m α) :
    f <$> (do return g (← a)) = (fun x => f (g x)) <$> a := by
  simp

theorem values_queues {kind : CounterKind} {n : UInt64} (hkind : kind.indexing.isDouble = false) :
    (·.flatMap ([·.bufferCount])) <$> queues read kind n =
      ((List.range (count n)).flatMap fun i => [kind].map fun kind => address kind 0 i).mapM
        read := by
  refine values_row n ?_
  intro i
  have haddress : address kind 0 i = ⟨kind, 0, .ofNat i⟩ := by simp [address, hkind]
  rw [map_return, List.map_singleton, haddress]
  exact values_single _

/-- **Calls in turn.** The values of a realm are what the calls for its counters in turn answer. -/
theorem values_realm (hcaps : Countable caps) (read : Counter → m UInt64) (r : Realm) :
    RealmData.values <$> realm caps read r = (counters caps r).mapM read := by
  have hports := count_eq hcaps.ports
  have hpools := count_eq hcaps.servicePools
  cases r
  all_goals
    refine (map_return _).trans ?_
    rw [counters, dimensions]
  case device => exact values_single _
  case ingressPortPriorityGroup =>
    rw [← hports, ← count_eq hcaps.priorityGroups]
    exact values_grid _ fun row i => values_pair (fun _ _ => rfl) (fun _ _ => rfl) _ _
  case ingressPortServicePool =>
    rw [← hports, ← hpools]
    exact values_grid _ fun row i => values_single _
  case ingressServicePool =>
    rw [counters_row hcaps.servicePools]
    exact values_row _ fun i => values_single _
  case egressPortServicePool =>
    rw [← hports, ← hpools]
    exact values_grid _ fun row i => values_pair (fun _ _ => rfl) (fun _ _ => rfl) _ _
  case egressServicePool =>
    rw [counters_row hcaps.servicePools]
    exact values_row _ fun i => values_pair (fun _ _ => rfl) (fun _ _ => rfl) _ _
  case egressUcQueue =>
    rw [counters_row hcaps.unicastQueues]
    exact values_queues rfl
  case egressUcQueueGroup =>
    rw [counters_row hcaps.unicastQueueGroups]
    exact values_queues rfl
  case egressMcQueue =>
    rw [counters_row hcaps.multicastQueues]
    exact values_queues rfl
  case egressCpuQueue =>
    rw [counters_row hcaps.cpuQueues]
    exact values_queues rfl
  case egressRqeQueue =>
    rw [counters_row hcaps.rqeQueues]
    exact values_queues rfl

/-! ## What the calls do not answer -/

/-- If a function is constant on every cell, then it is on all cells, and there are so many. -/
theorem constant_visit {cell : UInt32 → m α} {f : α → β} {z : β}
    (h : ∀ i, f <$> cell i = (fun _ => z) <$> cell i) (first n : Nat) :
    List.map f <$> visit cell first n =
      (fun _ => List.replicate n z) <$> visit cell first n := by
  induction n generalizing first with
  | zero => simp [visit]
  | succ n ih =>
    have hleft : List.map f <$> visit cell first (n + 1) = (do
        let y ← f <$> cell (.ofNat first)
        let ys ← List.map f <$> visit cell (first + 1) n
        return y :: ys) := by
      simp [visit]
    rw [hleft, h, ih]
    simp [visit, List.replicate_succ]

theorem constant_row {cell : UInt32 → m α} {f : α → β} {z : β} {n : UInt64}
    (hn : n.toNat < UInt32.size) (h : ∀ i, f <$> cell i = (fun _ => z) <$> cell i) :
    List.map f <$> row n cell = (fun _ => List.replicate n.toNat z) <$> row n cell := by
  rw [← count_eq hn]
  exact constant_visit h 0 (count n)

theorem constant_grid {cell : UInt32 → UInt32 → m α} {f : α → β} {z : β} {n : UInt64}
    (hcaps : Countable caps) (hn : n.toNat < UInt32.size)
    (h : ∀ port i, f <$> cell port i = (fun _ => z) <$> cell port i) :
    List.map (List.map f) <$> grid caps n cell =
      (fun _ => List.replicate caps.numPorts.toNat (List.replicate n.toNat z)) <$>
        grid caps n cell := by
  rw [← count_eq hcaps.ports]
  exact constant_visit (fun port => constant_row hn (h port)) 1 (count caps.numPorts)

theorem constant_return {f : α → α} {g : β → β} {mk : α → β} {z : α} {a : m α}
    (hmk : ∀ x, g (mk x) = mk (f x)) (h : f <$> a = (fun _ => z) <$> a) :
    g <$> (do return mk (← a)) = (fun _ => mk z) <$> (do return mk (← a)) := by
  have hmap : (fun x => g (mk x)) <$> a = mk <$> (f <$> a) := by
    simp [hmk]
  rw [map_return, map_return, hmap, h]
  simp

/-- No port owns the queues that are visited. -/
theorem constant_queues {kind : CounterKind} {n : UInt64} (hn : n.toNat < UInt32.size) :
    List.map (fun cell : QueueCell => { cell with bufferCount := 0 }) <$> queues read kind n =
      (fun _ => List.replicate n.toNat ⟨0, 0⟩) <$> queues read kind n := by
  refine constant_row hn ?_
  intro i
  rw [map_return, map_return]

/-- **All else.** But for its values, a realm is as in the snapshot that is all zero. -/
theorem zeroed_realm (hcaps : Countable caps) (read : Counter → m UInt64) (r : Realm) :
    RealmData.zeroed <$> realm caps read r =
      (fun _ => (Snapshot.zeroed caps).realm r) <$> realm caps read r := by
  cases r with
  | device => exact constant_return (f := fun _ => 0) (fun _ => rfl) rfl
  | ingressPortPriorityGroup =>
    exact constant_return (fun _ => rfl)
      (constant_grid hcaps hcaps.priorityGroups fun _ _ => rfl)
  | ingressPortServicePool =>
    exact constant_return (fun _ => rfl) (constant_grid hcaps hcaps.servicePools fun _ _ => rfl)
  | ingressServicePool =>
    exact constant_return (fun _ => rfl) (constant_row hcaps.servicePools fun _ => rfl)
  | egressPortServicePool =>
    exact constant_return (fun _ => rfl) (constant_grid hcaps hcaps.servicePools fun _ _ => rfl)
  | egressServicePool =>
    exact constant_return (fun _ => rfl) (constant_row hcaps.servicePools fun _ => rfl)
  | egressUcQueue => exact constant_return (fun _ => rfl) (constant_queues hcaps.unicastQueues)
  | egressUcQueueGroup =>
    exact constant_return (fun _ => rfl) (constant_queues hcaps.unicastQueueGroups)
  | egressMcQueue => exact constant_return (fun _ => rfl) (constant_queues hcaps.multicastQueues)
  | egressCpuQueue => exact constant_return (fun _ => rfl) (constant_queues hcaps.cpuQueues)
  | egressRqeQueue => exact constant_return (fun _ => rfl) (constant_queues hcaps.rqeQueues)

/-! ## All realms -/

/-- **Realms in turn.** The realms of a snapshot are what their surveys in turn answer. -/
theorem realms_snapshot (caps : Capabilities) (read : Counter → m UInt64) :
    (fun s => Realm.all.map s.realm) <$> snapshot caps read = Realm.all.mapM (realm caps read) := by
  simp only [snapshot, Realm.all, List.foldlM_cons, List.foldlM_nil, List.mapM_cons, List.mapM_nil,
    realm, bind_assoc, pure_bind, map_bind, map_pure]
  rfl

theorem values_realms (hcaps : Countable caps) (read : Counter → m UInt64) (rs : List Realm) :
    (·.flatMap RealmData.values) <$> rs.mapM (realm caps read) =
      (rs.flatMap (counters caps)).mapM read := by
  induction rs with
  | nil => simp
  | cons r rest ih =>
    rw [List.flatMap_cons, List.mapM_append, ← values_realm hcaps, ← ih]
    simp

/-- The values of a snapshot are what the calls for the counters of all realms in turn answer. -/
theorem values_snapshot (hcaps : Countable caps) (read : Counter → m UInt64) :
    Snapshot.values <$> snapshot caps read = (Realm.all.flatMap (counters caps)).mapM read := by
  rw [← values_realms hcaps, ← realms_snapshot]
  simp only [Functor.map_map, List.flatMap_map]
  rfl

end Lawful

/-! ## Readers with a world of their own -/

/-- A world in which the calls of a reader are noted, each with what it answered. -/
structure Noted (σ : Type) where
  world : σ
  calls : List (Counter × Except Error UInt64)

section Readers

variable {σ α β : Type} {caps : Capabilities} {read : Counter → Action σ UInt64}

/-- The reader that notes its calls. -/
def noting (read : Counter → Action σ UInt64) (c : Counter) : Action (Noted σ) UInt64 :=
  fun w =>
    let (answer, s) := read c w.world
    (answer, ⟨s, w.calls ++ [(c, answer)]⟩)

/-- Calls are made for counters in turn. If the values are answered, each call has answered its
own; and if there is an error, it is that of the last call, the ones before have answered values,
and none is made behind it. -/
def InTurn (counters : List Counter) (calls : List (Counter × Except Error UInt64)) :
    Except Error (List UInt64) → Prop
  | .ok values => calls.map Prod.fst = counters ∧ calls.map Prod.snd = values.map .ok
  | .error e => ∃ (before after : List Counter) (c : Counter) (values : List UInt64),
      counters = before ++ c :: after ∧ calls.map Prod.fst = before ++ [c] ∧
        calls.map Prod.snd = values.map .ok ++ [.error e]

theorem InTurn.cons {c : Counter} {cs : List Counter} {v : UInt64}
    {calls : List (Counter × Except Error UInt64)} {result : Except Error (List UInt64)}
    (h : InTurn cs calls result) :
    InTurn (c :: cs) ((c, .ok v) :: calls) (result.map (v :: ·)) := by
  cases result with
  | ok values =>
    obtain ⟨hcounters, hanswers⟩ := h
    exact ⟨by rw [List.map_cons, hcounters], by rw [List.map_cons, hanswers]; rfl⟩
  | error e =>
    obtain ⟨before, after, c', values, rfl, hcounters, hanswers⟩ := h
    refine ⟨c :: before, after, c', v :: values, rfl, ?_, ?_⟩
    · rw [List.map_cons, hcounters]
      rfl
    · rw [List.map_cons, hanswers]
      rfl

/-- Reading counters one after the other makes calls in turn. -/
theorem calls_mapM (read : Counter → Action σ UInt64) (cs : List Counter) :
    Action.Emits Noted.calls id (cs.mapM (noting read)) fun _ result _ calls =>
      InTurn cs calls result := by
  induction cs with
  | nil =>
    rw [List.mapM_nil]
    exact .pure fun _ => ⟨rfl, rfl⟩
  | cons c cs ih =>
    have hcall : Action.Emits Noted.calls id (noting read c) fun _ result _ calls =>
        calls = [(c, result)] := by
      intro w
      exact ⟨[(c, (read c w.world).1)], rfl, rfl⟩
    rw [List.mapM_cons]
    refine hcall.bind (R := fun v _ result _ calls => ∃ rest, result = rest.map (v :: ·) ∧
      InTurn cs calls rest) ?_ ?_ ?_
    · intro v
      refine ih.bind_pure ?_ ?_
      · intro w e w' calls h
        exact ⟨.error e, rfl, h⟩
      · intro w values w' calls h
        exact ⟨.ok values, rfl, h⟩
    · rintro w e w' calls rfl
      exact ⟨[], cs, c, [], rfl, rfl, rfl⟩
    · rintro w v w' calls result w'' more rfl ⟨rest, rfl, h⟩
      exact h.cons

/-! ### Noting changes nothing -/

/-- An action in a world with notes does what another does without them. -/
def Forgets (a' : Action (Noted σ) α) (a : Action σ α) : Prop :=
  ∀ w, a w.world = ((a' w).1, (a' w).2.world)

theorem Forgets.pure (x : α) : Forgets (Pure.pure x : Action (Noted σ) α) (Pure.pure x) :=
  fun _ => rfl

theorem Forgets.bind {a' : Action (Noted σ) α} {a : Action σ α} {f' : α → Action (Noted σ) β}
    {f : α → Action σ β} (h : Forgets a' a) (hf : ∀ x, Forgets (f' x) (f x)) :
    Forgets (a' >>= f') (a >>= f) := by
  intro w
  have hw := h w
  rw [Action.bind_apply, Action.bind_apply, hw]
  rcases a' w with ⟨e | x, w'⟩
  · rfl
  · exact hf x w'

theorem forgets_noting (read : Counter → Action σ UInt64) (c : Counter) :
    Forgets (noting read c) (read c) :=
  fun _ => rfl

theorem forgets_visit {cell' : UInt32 → Action (Noted σ) α} {cell : UInt32 → Action σ α}
    (h : ∀ i, Forgets (cell' i) (cell i)) (first n : Nat) :
    Forgets (visit cell' first n) (visit cell first n) := by
  induction n generalizing first with
  | zero => exact .pure []
  | succ n ih => exact (h _).bind fun _ => (ih (first + 1)).bind fun _ => .pure _

theorem forgets_grid {cell' : UInt32 → UInt32 → Action (Noted σ) α}
    {cell : UInt32 → UInt32 → Action σ α} {n : UInt64}
    (h : ∀ port i, Forgets (cell' port i) (cell port i)) :
    Forgets (grid caps n cell') (grid caps n cell) :=
  forgets_visit (fun port => forgets_visit (h port) 0 (count n)) 1 (count caps.numPorts)

theorem forgets_queues {kind : CounterKind} {n : UInt64} :
    Forgets (queues (noting read) kind n) (queues read kind n) :=
  forgets_visit (fun _ => (forgets_noting read _).bind fun _ => .pure _) 0 (count n)

theorem forgets_realm (caps : Capabilities) (read : Counter → Action σ UInt64) (r : Realm) :
    Forgets (realm caps (noting read) r) (realm caps read r) := by
  have hread := forgets_noting read
  have hpair : ∀ {γ : Type} (c d : Counter) (mk : UInt64 → UInt64 → γ),
      Forgets (do let a ← noting read c; let b ← noting read d; return mk a b)
        (do let a ← read c; let b ← read d; return mk a b) :=
    fun c d mk => (hread c).bind fun _ => (hread d).bind fun _ => .pure _
  cases r with
  | device => exact (hread _).bind fun _ => .pure _
  | ingressPortPriorityGroup =>
    exact (forgets_grid fun _ _ => hpair _ _ _).bind fun _ => .pure _
  | ingressPortServicePool => exact (forgets_grid fun _ _ => hread _).bind fun _ => .pure _
  | ingressServicePool => exact (forgets_visit (fun _ => hread _) 0 _).bind fun _ => .pure _
  | egressPortServicePool =>
    exact (forgets_grid fun _ _ => hpair _ _ _).bind fun _ => .pure _
  | egressServicePool =>
    exact (forgets_visit (fun _ => hpair _ _ _) 0 _).bind fun _ => .pure _
  | egressUcQueue => exact forgets_queues.bind fun _ => .pure _
  | egressUcQueueGroup => exact forgets_queues.bind fun _ => .pure _
  | egressMcQueue => exact forgets_queues.bind fun _ => .pure _
  | egressCpuQueue => exact forgets_queues.bind fun _ => .pure _
  | egressRqeQueue => exact forgets_queues.bind fun _ => .pure _

theorem forgets_snapshot (caps : Capabilities) (read : Counter → Action σ UInt64) :
    Forgets (snapshot caps (noting read)) (snapshot caps read) := by
  have hfold : ∀ (rs : List Realm) (s : Snapshot),
      Forgets (rs.foldlM (fun s r => return s.setRealm (← realm caps (noting read) r)) s)
        (rs.foldlM (fun s r => return s.setRealm (← realm caps read r)) s) := by
    intro rs
    induction rs with
    | nil => exact fun s => .pure s
    | cons r rest ih =>
      intro s
      rw [List.foldlM_cons, List.foldlM_cons]
      exact ((forgets_realm caps read r).bind fun _ => .pure _).bind ih
  exact hfold Realm.all (.zeroed caps)

/-! ### The calls of a survey -/

/-- **The calls of a survey.** Whatever the reader does, a survey of a realm calls it for the
counters of the realm in row-major order, and for those of a cell in the order of its fields. If
all calls answer, the realm holds the answers in this order, in the shape of the snapshot that is
all zero; and the first call that fails is the last that is made, and its error is the answer. A
survey of all realms does so for the counters of one realm after the other, and each realm of the
snapshot is what its own survey has answered. -/
theorem surveys_call_in_turn (hcaps : Countable caps) (read : Counter → Action σ UInt64) :
    -- one realm
    (∀ r (w : Noted σ), ∃ calls,
      let ran := realm caps (noting read) r w
      realm caps read r w.world = (ran.1, ran.2.world) ∧ ran.2.calls = w.calls ++ calls ∧
        InTurn (counters caps r) calls (ran.1.map RealmData.values) ∧
        ∀ d, ran.1 = .ok d → d.zeroed = (Snapshot.zeroed caps).realm r) ∧
    -- all realms
    (∀ w : Noted σ, ∃ calls,
      let ran := snapshot caps (noting read) w
      snapshot caps read w.world = (ran.1, ran.2.world) ∧ ran.2.calls = w.calls ++ calls ∧
        InTurn (Realm.all.flatMap (counters caps)) calls (ran.1.map Snapshot.values)) ∧
    ∀ s snap s', snapshot caps read s = (.ok snap, s') →
      Realm.all.mapM (realm caps read) s = (.ok (Realm.all.map snap.realm), s') := by
  refine ⟨?_, ?_, ?_⟩
  · intro r w
    obtain ⟨calls, hcalls, hturn⟩ := calls_mapM read (counters caps r) w
    rw [← values_realm hcaps (noting read) r, Action.map_apply] at hcalls hturn
    rw [List.map_id] at hcalls
    refine ⟨calls, forgets_realm caps read r w, hcalls, hturn, ?_⟩
    intro d hd
    have hzeroed := congrArg (fun a => (a w).1) (zeroed_realm hcaps (noting read) r)
    simp only [Action.map_apply, hd] at hzeroed
    exact Except.ok.inj hzeroed
  · intro w
    obtain ⟨calls, hcalls, hturn⟩ := calls_mapM read (Realm.all.flatMap (counters caps)) w
    rw [← values_snapshot hcaps (noting read), Action.map_apply] at hcalls hturn
    rw [List.map_id] at hcalls
    exact ⟨calls, forgets_snapshot caps read w, hcalls, hturn⟩
  · intro s snap s' h
    rw [← realms_snapshot, Action.map_apply, h]
    rfl

end Readers

/-- The reader that answers how often it has been called before, and fails at its sixth call. -/
def sixthFails (_ : Counter) : Action Nat UInt64 :=
  fun n => (if n = 5 then .error (.failure "read") else .ok (.ofNat n), n + 1)

/-- The survey of the queues of the CPU, of which a Trident2 has eight, ends with its sixth
call. -/
theorem surveys_call_in_turn_sixthFails :
    Countable (.trident2 2) ∧
      ∃ calls, InTurn (counters (.trident2 2) .egressCpuQueue) calls (.error (.failure "read")) ∧
        calls.length = 6 := by
  have hcaps : Countable (.trident2 2) := countable_trident2 (by decide)
  have hran : (realm (.trident2 2) (noting sixthFails) .egressCpuQueue ⟨0, []⟩).1 =
      .error (.failure "read") := rfl
  have hlength : (realm (.trident2 2) (noting sixthFails) .egressCpuQueue ⟨0, []⟩).2.calls.length =
      6 := rfl
  obtain ⟨calls, -, hcalls, hturn, -⟩ :=
    (surveys_call_in_turn hcaps sixthFails).1 .egressCpuQueue ⟨0, []⟩
  rw [hran] at hturn
  rw [hcalls] at hlength
  exact ⟨hcaps, calls, hturn, hlength⟩

end Survey

end BufferTelemetry
