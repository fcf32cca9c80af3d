import BufferTelemetry.Proofs.Commit.Acknowledgements
import BufferTelemetry.Proofs.Commit.TrackedRows
import BufferTelemetry.Proofs.Json.Records
import BufferTelemetry.Proofs.Rpc.Acceptance
import BufferTelemetry.Proofs.Settings.RoundTrip

/-!
# The collected realms come back

Nothing goes out for the collection of the realms but one update for each of them, and all of
these if the server takes what is written, whatever it says (`commitTracking_accepted`). Where it
carries them out, a unit that has the mask keeps it when the rows are delivered, without an event,
and a unit without realms gets those of the mask of which there is a counter
(`commitTracking_round_trip`).
-/

namespace BufferTelemetry.Database

open Rpc

/-! ## What goes out -/

section Sent

variable {σ : Type} {t : Transport σ} {trace : σ → List Crossing}

theorem turns_sendTracking_accepted (ht : t.Traces trace) (ha : Accepting t) (a : Access)
    (m : TrackingMask) (realms : List Realm) :
    Client.Turns trace (a.sendTracking t m realms) fun w result w' turns =>
      result = .ok () ∧ w'.1 = { w.1 with nextId := w.1.nextId + realms.length } ∧
        turns = requests w.1.conn w.1.nextId (a.trackingUpdates m realms) := by
  have hok : ∀ (realms : List Realm) w, (a.sendTracking t m realms w).1 = .ok () := by
    intro realms
    induction realms with
    | nil => exact fun _ => rfl
    | cons realm rest ih =>
      intro w
      obtain ⟨-, -, hsent, -⟩ := Client.turns_sendRequest_accepted ht ha "transact"
        (trackingUpdate a.database realm (m.isEnabled realm)) w
      unfold Access.sendTracking Client.sendTransaction
      rw [Action.bind_ok (Prod.ext hsent rfl)]
      exact ih _
  intro w
  obtain ⟨turns, hturns, ⟨⟨e, he⟩, -⟩ | hsent⟩ := Access.turns_sendTracking (a := a) ht m realms w
  · rw [hok realms w] at he
    cases he
  · exact ⟨turns, hturns, hsent⟩

/-- **The updates that go out** are all sent if the server takes them, whatever it says. -/
theorem commitTracking_accepted (ht : t.Traces trace) (ha : Accepting t) (a : Access)
    (m : TrackingMask) (s : σ) :
    ∃ conn rest, trace (a.commitTracking t m s).2 =
        trace s ++ (requests conn 0 (a.trackingUpdates m Realm.all) ++ rest).map Turn.crossing ∧
      Idle conn rest := by
  obtain ⟨conn, s', hconnect⟩ := ha.connect a.endpoint a.maxLine s
  have hkeeps := ht.connect a.endpoint a.maxLine s
  have hclient : a.connect t s = (.ok { endpoint := a.endpoint, conn, nextId := 0 }, s') := by
    unfold Access.connect Client.connect
    rw [hconnect]
  rw [hconnect] at hkeeps
  obtain ⟨last, hlast⟩ : ∃ last, Realm.all.getLast? = some last := ⟨_, rfl⟩
  unfold Access.commitTracking
  rw [hlast]
  dsimp only
  rw [Action.bind_ok hclient, Access.trackingUpdates_of_getLast? a m hlast]
  have hturns : Client.Turns trace
      (do
        a.sendTracking t m Realm.all.dropLast
        let _ ← Client.transact t (trackingUpdate a.database last (m.isEnabled last))
          a.replyTimeoutMs)
      fun w _ _ turns => ∃ rest, turns = requests w.1.conn w.1.nextId
          (a.trackingUpdates m Realm.all.dropLast ++
            [trackingUpdate a.database last (m.isEnabled last)]) ++ rest ∧
        Idle w.1.conn rest := by
    have htransact := (Client.turns_transact_accepted ht ha
      (trackingUpdate a.database last (m.isEnabled last)) a.replyTimeoutMs).bind_pure
      (S := fun w (_ : Except Error Unit) _ turns => ∃ rest, turns = requests w.1.conn w.1.nextId
        [trackingUpdate a.database last (m.isEnabled last)] ++ rest ∧ Idle w.1.conn rest)
      (g := fun _ => ()) (fun _ _ _ _ h => h) fun _ _ _ _ h => h
    refine (turns_sendTracking_accepted ht ha a m Realm.all.dropLast).bind
      (fun _ => htransact) ?_ ?_
    · rintro w e w' turns ⟨he, -⟩
      cases he
    · rintro w _ w' turns result w'' more ⟨-, hclient, rfl⟩ ⟨rest, rfl, hidle⟩
      rw [hclient] at hidle
      refine ⟨rest, ?_, hidle⟩
      rw [hclient, requests_append, Access.trackingUpdates, List.length_map, List.append_assoc]
  obtain ⟨turns, hgrows, rest, rfl, hidle⟩ :=
    hturns ({ endpoint := a.endpoint, conn, nextId := 0 }, s')
  refine ⟨conn, rest, ?_, hidle⟩
  rw [← hkeeps]
  exact hgrows

end Sent

/-! ## There and back -/

section RoundTrip

variable {σ : Type} {execute : Json → List TableRow → List TableRow} {rows : List TableRow}

/-- **The collected realms come back.** The collection goes out in one update for each realm:
none but these are sent, all if the commit succeeds, and all if the server takes them. Carried
out in turn, they leave a row collected exactly if its realm is enabled in the mask. When the rows
are delivered, the only unit of a replica keeps the mask if it has it, and no event about the
realms is published; and if it has no realms, it gets those of the mask of which there is a row
with the name of a counter. -/
theorem commitTracking_round_trip (t : Transport σ) (a : Access) (m : TrackingMask) (s : Traced σ)
    (hexecute : CarriesOutUpdates execute) (hrows : ∀ row ∈ rows, ∃ realm, CounterRow row realm) :
    let updates := Realm.all.map fun realm =>
      trackingUpdate a.database realm (m.isEnabled realm)
    let run := a.commitTracking t.traced m s
    let rows' := updates.foldl (fun rows params => execute params rows) rows
    (Realm.all.Nodup ∧ ∀ realm : Realm, realm ∈ Realm.all) ∧
    (∃ conn turns, run.2.trace = s.trace ++ turns.map Turn.crossing ∧
      Conversation conn 0 updates turns ∧
      (run.1 = .ok () → ∃ rest, turns = requests conn 0 updates ++ rest)) ∧
    (Accepting t → ∃ conn rest, run.2.trace =
        s.trace ++ (requests conn 0 updates ++ rest).map Turn.crossing ∧ Idle conn rest) ∧
    List.Forall₂ (fun row row' =>
      (∀ realm, CounterRow row realm →
        (row'.lookup "enabled" = some (.bool true) ↔ m.isEnabled realm = true)) ∧
      ∀ name, name ≠ "enabled" → name ≠ versionColumn → row'.lookup name = row.lookup name)
      rows rows' ∧
    ∀ delivered, DeliversRows delivered rows' → ∀ (r : Replica) (old : Settings),
      r.store.numUnits = 1 → r.store.settings? 0 = some old →
      let after := r.apply delivered
      (old.trackingMask = m →
        (∃ new, after.replica.store.settings? 0 = some new ∧ new.trackingMask = m) ∧
        ∀ unit, .configChanged unit .tracking ∉ after.events) ∧
      (old.trackingMask = .empty → ∃ (new : Settings) (realms : List Realm),
        after.replica.store.settings? 0 = some new ∧
        new.trackingMask = realms.foldl .enable .empty ∧
        ∀ realm, realm ∈ realms ↔
          m.isEnabled realm = true ∧ ∃ row ∈ rows, CounterRow row realm ∧ Decodes row) := by
  intro updates run rows'
  have htracked : List.Forall₂ (Tracked m Realm.all) rows rows' :=
    tracked_of_updates hexecute a m Realm.nodup_all rows
  refine ⟨⟨Realm.nodup_all, Realm.mem_all⟩, ?_, ?_, ?_, ?_⟩
  · obtain ⟨turns, hturns, conn, htransacted⟩ := Access.turns_commitTracking t.traced_traces m s
    refine ⟨conn, turns, hturns, htransacted.conversation, fun hok => ?_⟩
    obtain ⟨rest, -, hrest, -⟩ := htransacted.ok_iff.1 ⟨(), hok⟩
    exact ⟨rest, hrest⟩
  · intro haccepting
    exact commitTracking_accepted t.traced_traces haccepting.traced a m s
  · refine htracked.imp fun row row' hrow => ⟨fun realm hrealm => ?_, hrow.others⟩
    rw [hrow.updated realm realm.mem_all hrealm]
    cases m.isEnabled realm with
    | true => exact iff_of_true rfl rfl
    | false => exact iff_of_false nofun nofun
  · intro delivered hdelivers r old hone hold after
    have hsize : r.store.numUnits < UInt32.size := by
      rw [hone]
      decide
    obtain ⟨new, realms, hnew, hmask, hmem, hlisted⟩ := tracking_apply delivered hsize hold
    rw [hone] at hmem
    have hrealms : ∀ realm, realm ∈ realms ↔
        m.isEnabled realm = true ∧ ∃ row ∈ rows, CounterRow row realm ∧ Decodes row := by
      intro realm
      rw [hmem]
      exact exists_showsCollected_iff hrows htracked hdelivers
    constructor
    · intro hhas
      -- every realm that is shown is one of the mask
      have hkept : new.trackingMask = m := by
        rw [hmask, hhas]
        exact TrackingMask.foldl_enable_eq_self fun realm hrealm =>
          TrackingMask.isEnabled_iff.1 ((hrealms realm).1 hrealm).1
      refine ⟨⟨new, hnew, hkept⟩, no_tracking_event hone ?_⟩
      rw [hlisted, hkept, hhas]
      exact lt_irrefl m
    · intro hempty
      rw [hempty] at hmask
      exact ⟨new, realms, hnew, hmask, hrealms⟩

/-! ### A server -/

/-- Whether the map of facts of a row has the pair. -/
def hasText (row : TableRow) (key : String) (fact : Json) : Bool :=
  ((row.lookup factsColumn).map mapPairs).any fun facts =>
    facts.any fun (k, value) => k = key ∧ value.text? = fact.text?

/-- A server that does nothing but to carry out updates by facts. -/
def tableServer : Json → List TableRow → List TableRow
  | .arr [_, .obj [_, _, (_, .obj [(column, value)]), (_, .arr [.arr [_, _, facts]])]], rows =>
    rows.map fun row =>
      if (mapPairs facts).all fun (key, fact) => hasText row key fact then
        (column, value) :: row.filter fun (name, _) => name ≠ column
      else row
  | _, rows => rows

theorem hasText_iff {row : TableRow} {key fact : String} :
    hasText row key (.str fact) = true ↔ HasFact row key (.str fact) := by
  have htext : ∀ value : Json, value.text? = some fact ↔ value = .str fact := by
    intro value
    cases value <;> simp [Json.text?]
  unfold hasText HasFact
  simp only [Option.any_map, Option.any_eq_true, List.any_eq_true, decide_eq_true_eq,
    Prod.exists]
  constructor
  · rintro ⟨facts, hfacts, k, value, hmem, rfl, hvalue⟩
    rw [← (htext value).1 hvalue]
    exact ⟨facts, hfacts, hmem⟩
  · rintro ⟨facts, hfacts, hmem⟩
    exact ⟨facts, hfacts, key, _, hmem, rfl, rfl⟩

theorem tableServer_carriesOutUpdates : CarriesOutUpdates tableServer := by
  intro database column value key fact rows
  have hserver : tableServer (updateByFact database column value key fact) rows =
      rows.map fun row =>
        if hasText row key (.str fact) then
          (column, value) :: row.filter fun (name, _) => name ≠ column
        else row := by
    show (rows.map fun row =>
      if (mapPairs (ofPairs [(key, .str fact)])).all fun (key, fact) => hasText row key fact then
        (column, value) :: row.filter fun (name, _) => name ≠ column
      else row) = _
    rw [mapPairs_ofPairs]
    simp only [List.all_cons, List.all_nil, Bool.and_true]
  rw [hserver, List.forall₂_map_right_iff, List.forall₂_same]
  intro row _
  by_cases hfact : hasText row key (.str fact) = true
  · rw [if_pos hfact]
    refine ⟨fun _ => ?_, fun hspared => absurd (hasText_iff.1 hfact) hspared,
      fun name hname _ => ?_⟩
    · rw [List.lookup_cons, beq_self_eq_true]
    · rw [List.lookup_cons, beq_false_of_ne hname]
      exact lookup_filter (· ≠ column) (decide_eq_true hname)
  · rw [if_neg hfact]
    exact ⟨fun hchosen => absurd (hasText_iff.2 hchosen) hfact, fun _ => rfl, fun _ _ _ => rfl⟩

/-- A counter row of the first unit with the name. -/
def counterRow (realm : Realm) (name : String) : TableRow :=
  [("hw_unit_id", .int 0), ("name", .str name),
    (factsColumn, ofPairs [("realm", .str realm.name)])]

theorem counterRow_of_name {realm : Realm} {name : String}
    (h : (Text.pieces '/' name).head? = some realm.name) :
    CounterRow (counterRow realm name) realm where
  unit := rfl
  name := ⟨name, rfl, h⟩
  fact value := by
    have hfact : HasFact (counterRow realm name) "realm" value ↔
        ("realm", value) ∈ mapPairs (ofPairs [("realm", .str realm.name)]) := by
      constructor
      · rintro ⟨facts, hfacts, hmem⟩
        cases hfacts
        exact hmem
      · exact fun hmem => ⟨_, rfl, hmem⟩
    rw [hfact, mapPairs_ofPairs, List.mem_singleton, Prod.mk.injEq]
    exact ⟨And.right, fun h => ⟨rfl, h⟩⟩

/-- The update that delivers rows as they are. -/
def delivery (rows : List TableRow) : Json :=
  .obj [(counterTable, .obj (rows.zipIdx.map fun (row, i) =>
    (toString i, .obj [("new", .obj row)])))]

theorem delivery_deliversRows (rows : List TableRow) : DeliversRows (delivery rows) rows := by
  have hrows : counterRows (delivery rows) = rows.map fun row => .obj [("new", .obj row)] := by
    show ((rows.zipIdx.map fun (row, i) =>
      (toString i, Json.obj [("new", .obj row)])).map Prod.snd) ++ [] = _
    rw [List.append_nil, List.map_map]
    show rows.zipIdx.map ((fun row => Json.obj [("new", .obj row)]) ∘ Prod.fst) = _
    rw [← List.map_map, List.zipIdx_map_fst]
  unfold DeliversRows
  rw [hrows, List.forall₂_map_left_iff, List.forall₂_same]
  exact fun _ _ => rfl

/-- Of two counters, the one of the only enabled realm comes back; the mask has a bit of no
realm, too. -/
theorem commitTracking_round_trip_device :
    let a : Access :=
      { endpoint := .unix "db.sock", database := "OpenSwitch", replyTimeoutMs := 1000
        maxLine := 4096 }
    let m : TrackingMask := ⟨3⟩
    let rows := [counterRow .device "device/data/NONE/NONE",
      counterRow .egressUcQueue "egress-uc-queue/uc-buffer-count/5/NONE"]
    let rows' := (Realm.all.map fun realm =>
      trackingUpdate a.database realm (m.isEnabled realm)).foldl
        (fun rows params => tableServer params rows) rows
    CarriesOutUpdates tableServer ∧ (∀ row ∈ rows, ∃ realm, CounterRow row realm) ∧
    ∃ (new : Settings) (realms : List Realm),
      ((Replica.initial 1).apply (delivery rows')).replica.store.settings? 0 = some new ∧
      new.trackingMask = realms.foldl .enable .empty ∧
      .device ∈ realms ∧ .egressUcQueue ∉ realms := by
  intro a m rows rows'
  have hrows : ∀ row ∈ rows, ∃ realm, CounterRow row realm := by
    intro row hrow
    rcases List.mem_cons.1 hrow with rfl | hrow
    · exact ⟨.device, counterRow_of_name (by decide)⟩
    · rw [List.mem_singleton.1 hrow]
      exact ⟨.egressUcQueue, counterRow_of_name (by decide)⟩
  obtain ⟨-, -, -, -, hback⟩ := commitTracking_round_trip Access.arriving a m ⟨[], []⟩
    tableServer_carriesOutUpdates hrows
  obtain ⟨-, hempty⟩ := hback (delivery rows') (delivery_deliversRows rows') (.initial 1) .initial
    rfl rfl
  obtain ⟨new, realms, hnew, hmask, hrealms⟩ := hempty rfl
  refine ⟨tableServer_carriesOutUpdates, hrows, new, realms, hnew, hmask, ?_, ?_⟩
  · refine (hrealms .device).2 ⟨by decide, _, List.mem_cons_self,
      counterRow_of_name (by decide), "device/data/NONE/NONE", ⟨.device, 0, 0⟩, rfl, by decide⟩
  · intro hmem
    exact absurd ((hrealms .egressUcQueue).1 hmem).1 (by decide)

end RoundTrip

end BufferTelemetry.Database
