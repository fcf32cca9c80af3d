import BufferTelemetry.Snapshot

/-!
# A snapshot as a record of realms

A snapshot is nothing but the data of its realms, and the data of a realm are nothing to those of
another, though five realms of queues have data of one shape:

* what is set is read, and only there (`Snapshot.realm_setRealm`);
* setting what is there already changes nothing (`Snapshot.setRealm_realm`);
* snapshots with the same data in every realm are the same (`Snapshot.ext_realms`).

The first is the step of a run of sets. After the run a realm holds the last data that were set for
it, or else what it held before (`Snapshot.realm_setRealms`), so two runs end in the same snapshot
if they end so for each realm (`Snapshot.setRealms_congr`), whatever the order in which they take
the realms.
-/

namespace BufferTelemetry.Snapshot

/-- The last data in the list that belong to the realm. -/
def lastOf? (ds : List RealmData) (r : Realm) : Option RealmData :=
  (ds.filter (·.realm = r)).getLast?

/-- Sets data one after another. -/
def setRealms (s : Snapshot) (ds : List RealmData) : Snapshot := ds.foldl setRealm s

theorem setRealms_cons (s : Snapshot) (d : RealmData) (ds : List RealmData) :
    s.setRealms (d :: ds) = (s.setRealm d).setRealms ds := rfl

/-! ## One set -/

theorem realm_setRealm (s : Snapshot) (d : RealmData) (r : Realm) :
    (s.setRealm d).realm r = if d.realm = r then d else s.realm r := by
  cases d <;> cases r <;> rfl

theorem setRealm_realm (s : Snapshot) (r : Realm) : s.setRealm (s.realm r) = s := by
  cases r <;> rfl

/-- A snapshot is determined by the data of its realms. -/
theorem ext_realms {s t : Snapshot} (h : ∀ r, s.realm r = t.realm r) : s = t := by
  cases s
  cases t
  rw [Snapshot.mk.injEq]
  exact ⟨RealmData.device.inj (h .device),
    RealmData.ingressPortPriorityGroup.inj (h .ingressPortPriorityGroup),
    RealmData.ingressPortServicePool.inj (h .ingressPortServicePool),
    RealmData.ingressServicePool.inj (h .ingressServicePool),
    RealmData.egressPortServicePool.inj (h .egressPortServicePool),
    RealmData.egressServicePool.inj (h .egressServicePool),
    RealmData.egressUcQueue.inj (h .egressUcQueue),
    RealmData.egressUcQueueGroup.inj (h .egressUcQueueGroup),
    RealmData.egressMcQueue.inj (h .egressMcQueue),
    RealmData.egressCpuQueue.inj (h .egressCpuQueue),
    RealmData.egressRqeQueue.inj (h .egressRqeQueue)⟩

/-! ## Runs of sets -/

theorem lastOf?_cons_self (d : RealmData) (ds : List RealmData) :
    lastOf? (d :: ds) d.realm = some ((lastOf? ds d.realm).getD d) := by
  rw [lastOf?, List.filter_cons_of_pos (by simp), List.getLast?_cons]
  rfl

theorem lastOf?_cons_of_ne {d : RealmData} {r : Realm} (ds : List RealmData) (h : d.realm ≠ r) :
    lastOf? (d :: ds) r = lastOf? ds r := by
  rw [lastOf?, List.filter_cons_of_neg (by simpa using h)]
  rfl

/-- **Last write.** After a run of sets a realm holds the last data that were set for it. -/
theorem realm_setRealms (s : Snapshot) (ds : List RealmData) (r : Realm) :
    (s.setRealms ds).realm r = (lastOf? ds r).getD (s.realm r) := by
  induction ds generalizing s with
  | nil => rfl
  | cons d rest ih =>
    rw [setRealms_cons, ih, realm_setRealm]
    by_cases hr : d.realm = r
    · rw [if_pos hr, ← hr, lastOf?_cons_self, Option.getD_some]
    · rw [if_neg hr, lastOf?_cons_of_ne rest hr]

theorem setRealms_congr (s : Snapshot) {ds es : List RealmData}
    (h : ∀ r, lastOf? ds r = lastOf? es r) : s.setRealms ds = s.setRealms es := by
  refine ext_realms fun r => ?_
  rw [realm_setRealms, realm_setRealms, h]

/-- **Independent realms.** What is set for a realm is read from it, and all other realms are as
they were. Setting what a realm holds changes nothing, and two snapshots are the same exactly if
their realms are. After any run of sets each realm holds the last data that were set for it, and
two runs that agree on these end in the same snapshot, in whatever order they set different
realms. -/
theorem realms_are_independent :
    (∀ (s : Snapshot) (d : RealmData) (r : Realm),
      (s.setRealm d).realm r = if d.realm = r then d else s.realm r) ∧
    (∀ (s : Snapshot) (r : Realm), s.setRealm (s.realm r) = s) ∧
    (∀ s t : Snapshot, s = t ↔ ∀ r, s.realm r = t.realm r) ∧
    (∀ (s : Snapshot) (ds : List RealmData) (r : Realm),
      (s.setRealms ds).realm r = (lastOf? ds r).getD (s.realm r)) ∧
    ∀ (s : Snapshot) (ds es : List RealmData), (∀ r, lastOf? ds r = lastOf? es r) →
      s.setRealms ds = s.setRealms es := by
  refine ⟨realm_setRealm, setRealm_realm, ?_, realm_setRealms, ?_⟩
  · intro s t
    constructor
    · rintro rfl r
      rfl
    · exact ext_realms
  · intro s ds es h
    exact s.setRealms_congr h

/-- A value that is set again counts once, whether the other realm is set before it or after. -/
theorem realms_are_independent_again :
    (∀ r, lastOf? [.device 1, .egressUcQueue [⟨1, 5⟩], .device 2] r =
      lastOf? [.device 2, .egressUcQueue [⟨1, 5⟩]] r) ∧
    setRealms .empty [.device 1, .egressUcQueue [⟨1, 5⟩], .device 2] =
      setRealms .empty [.device 2, .egressUcQueue [⟨1, 5⟩]] := by
  have hlast : ∀ r, lastOf? [.device 1, .egressUcQueue [⟨1, 5⟩], .device 2] r =
      lastOf? [.device 2, .egressUcQueue [⟨1, 5⟩]] r := by
    intro r
    cases r <;> rfl
  exact ⟨hlast, realms_are_independent.2.2.2.2 _ _ _ hlast⟩

end BufferTelemetry.Snapshot
