import BufferTelemetry.Proofs.Commit.Acknowledgements

/-!
# A change of settings is atomic on the store

A change of settings commits first and records last, so whatever goes wrong with a commit, the
store is as it was, and the record itself fails only for a unit that the store does not have
(`setSettings_apply`). The commits are at most two conversations, and the second is begun only
when the first has been acknowledged (`turns_commitChange`). Together that is
`setSettings_atomic`, for every way in which the server and the connections may behave.
-/

namespace BufferTelemetry.Database.Backend

open Rpc

variable {σ : Type} {t : Transport σ} {trace : σ → List Crossing} {a : Access}
  {asics : List Asic} {unit : UInt32} {c : Settings}

/-! ## The order of the commits -/

/-- The commits of a change of settings, in turn: the settings, and the collection of the
realms only if that has not been done before and the settings have been acknowledged. -/
structure ChangeTurns (a : Access) (row : Uuid) (c : Settings) (conn conn' : ConnId)
    (first second : List Turn) : Prop where
  settings : Conversation conn 0 [settingsUpdate a.database row (committedSettings c)] first
  tracking : Conversation conn' 0 (Access.trackingUpdates a c.trackingMask Realm.all) second
  order : second ≠ [] → c.trackInit = false ∧
    Acknowledged conn 0 [settingsUpdate a.database row (committedSettings c)] first

/-- All commits that a change of settings needs have been acknowledged. -/
def ChangeAcknowledged (a : Access) (row : Uuid) (c : Settings) (conn conn' : ConnId)
    (first second : List Turn) : Prop :=
  Acknowledged conn 0 [settingsUpdate a.database row (committedSettings c)] first ∧
    (c.trackInit = true ∨
      Acknowledged conn' 0 (Access.trackingUpdates a c.trackingMask Realm.all) second)

theorem turns_commitChange (ht : t.Traces trace) (row : Uuid) :
    Action.Emits trace Turn.crossing (commitChange t a (some row) c) fun _ result _ turns =>
      ∃ first second conn conn', turns = first ++ second ∧
        ChangeTurns a row c conn conn' first second ∧
        ((∃ x, result = .ok x) ↔ ChangeAcknowledged a row c conn conn' first second) := by
  unfold commitChange
  refine (Access.turns_commitSettings ht row (committedSettings c)).bind
    (R := fun _ _ result _ turns =>
      (c.trackInit = true ∧ result = .ok () ∧ turns = []) ∨
      (c.trackInit = false ∧
        Access.Separate (Access.trackingUpdates a c.trackingMask Realm.all) result turns)) ?_ ?_ ?_
  · intro _
    cases c.trackInit with
    | true => exact .pure fun _ => .inl ⟨rfl, rfl, rfl⟩
    | false =>
      refine (Access.turns_commitTracking ht c.trackingMask).imp ?_
      intro s result s' turns h
      exact .inr ⟨rfl, h⟩
  · rintro s e s' turns ⟨conn, h⟩
    refine ⟨turns, [], conn, 0, (List.append_nil turns).symm, ⟨h.conversation, ?_, ?_⟩, ?_⟩
    · exact .inl List.nil_prefix
    · intro hne
      exact absurd rfl hne
    · refine iff_of_false nofun ?_
      rintro ⟨hack, -⟩
      obtain ⟨_, hok⟩ := h.ok_iff.2 hack
      cases hok
  · rintro s _ s' turns result s'' more ⟨conn, h⟩ hmore
    have hack := h.ok_iff.1 ⟨_, rfl⟩
    rcases hmore with ⟨hinit, rfl, rfl⟩ | ⟨hinit, conn', hmore⟩
    · refine ⟨turns, [], conn, 0, rfl, ⟨h.conversation, .inl List.nil_prefix, ?_⟩, ?_⟩
      · intro hne
        exact absurd rfl hne
      · exact iff_of_true ⟨(), rfl⟩ ⟨hack, .inl hinit⟩
    · refine ⟨turns, more, conn, conn', rfl,
        ⟨h.conversation, hmore.conversation, fun _ => ⟨hinit, hack⟩⟩, ?_⟩
      rw [hmore.ok_iff]
      constructor
      · intro hack'
        exact ⟨hack, .inr hack'⟩
      · rintro ⟨-, hinit' | hack'⟩
        · rw [hinit] at hinit'
          cases hinit'
        · exact hack'

/-! ## What is left behind -/

/-- A change of settings changes the world by its commits, and then the store. -/
theorem setSettings_apply {asic : Asic} (hasic : findAsic asics unit = .ok asic)
    {b : Backend σ} {row : Option Uuid} (hrow : b.settingsRow = row) :
    setSettings t a asics unit c b =
      match commitChange t a row c b.world with
      | (.error e, world) => (.error e, { b with world })
      | (.ok _, world) =>
        match b.store.setSettings unit (committedSettings c) with
        | .ok store => (.ok (), { b with store, world })
        | .error e => (.error e, { b with world }) := by
  subst hrow
  rw [setSettings_eq, hasic]
  dsimp only
  rw [Action.bind_apply]
  unfold inWorld Action.within
  rcases commitChange t a b.settingsRow c b.world with ⟨e | _, world⟩
  · rfl
  · exact recordChange_apply { b with world }

theorem exists_findAsic_iff :
    (∃ asic, findAsic asics unit = .ok asic) ↔ ∃ asic ∈ asics, asic.unit = unit := by
  unfold findAsic
  cases hfind : asics.find? (·.unit = unit) with
  | none =>
    refine iff_of_false nofun ?_
    rintro ⟨asic, hmem, hunit⟩
    have := List.find?_eq_none.1 hfind asic hmem
    simp [hunit] at this
  | some asic =>
    refine iff_of_true ⟨asic, rfl⟩ ⟨asic, List.mem_of_find?_eq_some hfind, ?_⟩
    simpa using List.find?_some hfind

/-- Nothing is done for a unit that is not listed, nor while the row is not known. -/
theorem setSettings_of_missing {b : Backend σ}
    (h : (¬ ∃ asic ∈ asics, asic.unit = unit) ∨ b.settingsRow = none) :
    ∃ e, setSettings t a asics unit c b = (.error e, b) := by
  cases hasic : findAsic asics unit with
  | error e => exact ⟨e, by rw [setSettings_eq, hasic]⟩
  | ok asic =>
    rcases h with hunlisted | hrow
    · exact absurd (exists_findAsic_iff.1 ⟨asic, hasic⟩) hunlisted
    · refine ⟨.notFound "BST configuration row", ?_⟩
      rw [setSettings_apply hasic hrow]
      rfl

/-- The settings are recorded for one unit, and nothing else has changed. -/
structure Records (unit : UInt32) (c : Settings) (s s' : Store) : Prop where
  settings : s'.settings? unit = some (committedSettings c).withTriggerDefault
  counters : Store.SameCounters s s'
  other_units : ∀ i : Nat, i ≠ unit.toNat → s'.units[i]? = s.units[i]?

theorem records_of_setSettings {s s' : Store}
    (h : s.setSettings unit (committedSettings c) = .ok s') : Records unit c s s' := by
  rcases Nat.lt_or_ge unit.toNat s.numUnits with hlt | hge
  · obtain ⟨old, hold⟩ := Store.exists_settings hlt
    rw [Store.setSettings_eq _ hold] at h
    cases h
    refine ⟨?_, Store.configure_sameCounters, fun i => Store.units_configure_of_ne⟩
    rw [Store.settings?_configure, if_pos rfl, hold]
    rfl
  · rw [Store.setSettings_error _ hge] at h
    cases h

theorem exists_setSettings_iff {s : Store} :
    (∃ s', s.setSettings unit (committedSettings c) = .ok s') ↔ unit.toNat < s.numUnits := by
  rcases Nat.lt_or_ge unit.toNat s.numUnits with hlt | hge
  · obtain ⟨old, hold⟩ := Store.exists_settings hlt
    exact iff_of_true ⟨_, Store.setSettings_eq _ hold⟩ hlt
  · refine iff_of_false ?_ (Nat.not_lt.2 hge)
    rintro ⟨s', hs'⟩
    rw [Store.setSettings_error _ hge] at hs'
    cases hs'

/-- The store changes with the success of the change, and with nothing else. -/
structure Atomic (unit : UInt32) (c : Settings) (b : Backend σ) (result : Except Error Unit)
    (b' : Backend σ) : Prop where
  error : ∀ e, result = .error e → b' = { b with world := b'.world }
  ok : result = .ok () → ∃ store, b' = { b with store, world := b'.world } ∧
    Records unit c b.store store

/-- A change for a listed unit, where the row is known, succeeds exactly if its commits are
acknowledged and the store has the unit. -/
theorem setSettings_of_known (ht : t.Traces trace) {asic : Asic}
    (hasic : findAsic asics unit = .ok asic) {b : Backend σ} {row : Uuid}
    (hrow : b.settingsRow = some row) :
    ∃ result b', setSettings t a asics unit c b = (result, b') ∧ Atomic unit c b result b' ∧
      ∃ first second conn conn',
        trace b'.world = trace b.world ++ (first ++ second).map Turn.crossing ∧
        ChangeTurns a row c conn conn' first second ∧
        (result = .ok () ↔ unit.toNat < b.store.numUnits ∧
          ChangeAcknowledged a row c conn conn' first second) := by
  obtain ⟨turns, hturns, first, second, conn, conn', rfl, hchange, hok⟩ :=
    turns_commitChange (a := a) (c := c) ht row b.world
  rw [setSettings_apply hasic hrow]
  rcases hcommit : commitChange t a (some row) c b.world with ⟨e | _, world⟩
  · rw [hcommit] at hturns hok
    refine ⟨_, _, rfl, ⟨fun _ _ => rfl, nofun⟩, first, second, conn, conn', hturns, hchange, ?_⟩
    refine iff_of_false nofun ?_
    rintro ⟨-, hack⟩
    obtain ⟨_, h⟩ := hok.2 hack
    cases h
  · rw [hcommit] at hturns hok
    have hack := hok.1 ⟨_, rfl⟩
    cases hset : b.store.setSettings unit (committedSettings c) with
    | error e =>
      refine ⟨_, _, rfl, ⟨fun _ _ => rfl, nofun⟩, first, second, conn, conn', hturns, hchange, ?_⟩
      refine iff_of_false nofun ?_
      rintro ⟨hunit, -⟩
      obtain ⟨store, hstore⟩ := exists_setSettings_iff.2 hunit
      rw [hset] at hstore
      cases hstore
    | ok store =>
      refine ⟨_, _, rfl, ⟨nofun, fun _ => ⟨store, rfl, records_of_setSettings hset⟩⟩, first,
        second, conn, conn', hturns, hchange, ?_⟩
      exact iff_of_true rfl ⟨exists_setSettings_iff.1 ⟨store, hset⟩, hack⟩

/-- **A change of settings is atomic on the store**: it is as it was if the change fails, and
otherwise the settings of the unit are those that have been committed. It succeeds exactly if
the unit is listed and stored and all its commits have been acknowledged. -/
theorem setSettings_atomic (t : Transport σ) (a : Access) (asics : List Asic) (unit : UInt32)
    (c : Settings) (b : Backend (Traced σ)) :
    ∃ result b', (service t.traced a asics).setSettings unit c b = (result, b') ∧
      Atomic unit c b result b' ∧
      ∃ first second conn conn',
        b'.world.trace = b.world.trace ++ (first ++ second).map Turn.crossing ∧
        ((¬ ∃ asic ∈ asics, asic.unit = unit) ∨ b.settingsRow = none → first ++ second = []) ∧
        (∀ row, b.settingsRow = some row → ChangeTurns a row c conn conn' first second) ∧
        (result = .ok () ↔ (∃ asic ∈ asics, asic.unit = unit) ∧ unit.toNat < b.store.numUnits ∧
          ∃ row, b.settingsRow = some row ∧
            ChangeAcknowledged a row c conn conn' first second) := by
  by_cases hmissing : (¬ ∃ asic ∈ asics, asic.unit = unit) ∨ b.settingsRow = none
  · obtain ⟨e, he⟩ := setSettings_of_missing (t := t.traced) (a := a) (c := c) hmissing
    refine ⟨_, _, he, ⟨fun _ _ => rfl, nofun⟩, [], [], 0, 0, (List.append_nil _).symm,
      fun _ => rfl, ?_, ?_⟩
    · intro row _
      exact ⟨.inl List.nil_prefix, .inl List.nil_prefix, fun hne => absurd rfl hne⟩
    · refine iff_of_false nofun ?_
      rintro ⟨hlisted, -, row, hrow, -⟩
      rcases hmissing with hunlisted | hnone
      · exact hunlisted hlisted
      · rw [hrow] at hnone
        cases hnone
  · obtain ⟨hlisted, hknown⟩ := not_or.1 hmissing
    have hlisted := Classical.not_not.1 hlisted
    obtain ⟨asic, hasic⟩ := exists_findAsic_iff.2 hlisted
    obtain ⟨row, hrow⟩ := Option.ne_none_iff_exists'.1 hknown
    obtain ⟨result, b', hrun, hatomic, first, second, conn, conn', htrace, hchange, hok⟩ :=
      setSettings_of_known (a := a) (c := c) t.traced_traces hasic hrow
    refine ⟨result, b', hrun, hatomic, first, second, conn, conn', htrace,
      fun h => absurd h hmissing, ?_, ?_⟩
    · intro row' hrow'
      rw [hrow] at hrow'
      cases hrow'
      exact hchange
    · rw [hok]
      constructor
      · rintro ⟨hunit, hack⟩
        exact ⟨hlisted, hunit, row, hrow, hack⟩
      · rintro ⟨-, hunit, row', hrow', hack⟩
        rw [hrow] at hrow'
        cases hrow'
        exact ⟨hunit, hack⟩

/-- Results for the transaction with the settings and for the last of those that turn the
collection of the realms on. -/
def acknowledging : List String :=
  ["\x7b\"result\":[\x7b\"count\":1\x7d],\"error\":null,\"id\":0\x7d",
    "\x7b\"result\":[\x7b\"count\":1\x7d],\"error\":null,\"id\":10\x7d"]

/-- Settings without a limit of triggers are committed, with the collection of the device, and
recorded with the limit that there is by default. -/
theorem setSettings_atomic_acknowledged :
    let a : Access :=
      { endpoint := .unix "db.sock", database := "OpenSwitch", replyTimeoutMs := 1000
        maxLine := 4096 }
    let asic : Asic := { unit := 0, asicType := .trident2, capabilities := .trident2 4 }
    let c : Settings :=
      { Settings.initial with
        enabled := true
        collectionIntervalSecs := 7
        trackingMask := TrackingMask.empty.enable .device }
    let row : Uuid := ⟨.replicate 32 10⟩
    let b : Backend (Traced (List String)) :=
      { store := .initial 1, settingsRow := some row, kept := none, world := ⟨acknowledging, []⟩ }
    let r := (service Access.arriving.traced a [asic]).setSettings 0 c b
    r.1 = .ok () ∧
      r.2.store.settings? 0 =
        some { c with triggerCollectionEnabled := true, maxTriggers := 60 } ∧
      ∃ conn conn' rest rest', r.2.world.trace =
        (requests conn 0 [settingsUpdate "OpenSwitch" row (committedSettings c)] ++ rest ++
          (requests conn' 0 (Access.trackingUpdates a c.trackingMask Realm.all) ++ rest')).map
            Turn.crossing := by
  intro a asic c row b r
  obtain ⟨result, b', hrun, hatomic, first, second, conn, conn', htrace, -, -, hok⟩ :=
    setSettings_atomic Access.arriving a [asic] 0 c b
  have hresult : result = .ok () := by
    have h : r.1.toOption = some () := by decide +kernel
    rw [show r = (result, b') from hrun] at h
    cases result with
    | ok u => rfl
    | error e => cases h
  obtain ⟨store, hb', hrecords⟩ := hatomic.ok hresult
  obtain ⟨-, -, row', hrow', ⟨rest, answer, hfirst, -⟩, hsecond⟩ := hok.1 hresult
  rcases hsecond with hinit | ⟨rest', answer', hsecond, -⟩
  · cases hinit
  cases hrow'
  rw [show r = (result, b') from hrun]
  refine ⟨hresult, ?_, conn, conn', rest, rest', ?_⟩
  · rw [hb', hrecords.settings]
    rfl
  · rw [htrace, hfirst, hsecond]
    rfl

end BufferTelemetry.Database.Backend
