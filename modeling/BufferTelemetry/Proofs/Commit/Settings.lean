import BufferTelemetry.Proofs.Commit.Thresholds
import BufferTelemetry.Proofs.Store.Configurations

/-!
# What a change of settings sends

Settings are committed in one transaction, with the collection of triggers turned on, and
behind it the collection of the realms goes out in one transaction each, unless that has been
done before. Each of them waits for its reply or fails, so these transactions are sent in turn
(`Backend.sends_setSettings`): all of them if the change succeeds, and the first ones
otherwise. A change that succeeds has recorded what it has committed
(`Backend.of_setSettings`).
-/

namespace BufferTelemetry.Database

open Rpc

namespace Access

section CommitsInTurn

variable {ω α β : Type} {written : ω → Record} {a : Action ω α} {f : α → Action ω β}
  {committed more : List Json}

theorem CommitsInTurn.of_quiet {result : Except Error α} {ms : List (ConnId × Message)}
    (h : Quiet result ms) : CommitsInTurn [] result ms := by
  have hnone := transactions_of_quiet h
  exact ⟨hnone ▸ List.prefix_rfl, fun _ => hnone⟩

theorem CommitsInTurn.error {e : Error} :
    CommitsInTurn committed (.error e : Except Error α) [] := by
  refine ⟨List.nil_prefix, ?_⟩
  rintro ⟨_, hok⟩
  cases hok

/-- Parts that commit in turn do so one after the other. -/
theorem sends_bind (h : Sends written a (CommitsInTurn committed))
    (hf : ∀ x, Sends written (f x) (CommitsInTurn more)) :
    Sends written (a >>= f) (CommitsInTurn (committed ++ more)) := by
  refine h.bind hf ?_ ?_
  · rintro e ms ⟨hfirst, -⟩
    refine ⟨hfirst.trans (List.prefix_append ..), ?_⟩
    rintro ⟨_, hok⟩
    cases hok
  · rintro x ms result rest ⟨-, hall⟩ ⟨hfirst, hrest⟩
    have happend : transactions (ms ++ rest) = committed ++ transactions rest := by
      rw [transactions_append, hall ⟨x, rfl⟩]
    refine ⟨?_, ?_⟩
    · rw [happend]
      exact (List.prefix_append_right_inj committed).2 hfirst
    · intro hok
      rw [happend, hrest hok]

/-- What comes behind the commits and sends none does not count. -/
theorem sends_bind_quiet (h : Sends written a (CommitsInTurn committed))
    (hf : ∀ x, Sends written (f x) (CommitsInTurn [])) :
    Sends written (a >>= f) (CommitsInTurn committed) := by
  have hbind := sends_bind h hf
  rwa [List.append_nil] at hbind

end CommitsInTurn

variable {σ : Type} {t : Transport σ} {written : σ → Record} {a : Access}

theorem sends_sendTransaction (ht : t.Records written) (params : Json) :
    Sends (Client.writtenOf written) (Client.sendTransaction t params)
      (CommitsInTurn [params]) := by
  refine (Client.sends_sendRequest ht "transact" params).imp ?_
  rintro (e | id) ms hms
  · rw [show ms = [] from hms]
    exact .error
  · obtain ⟨conn, rfl⟩ := hms
    exact ⟨List.prefix_rfl, fun _ => rfl⟩

/-- A transaction is sent before its result is waited for, and nothing else is. -/
theorem sends_transact (ht : t.Records written) (params : Json) (timeoutMs : Nat) :
    Sends (Client.writtenOf written) (Client.transact t params timeoutMs)
      (CommitsInTurn [params]) := by
  have hquiet : ∀ {α : Type} {b : ClientAction σ α}, Sends (Client.writtenOf written) b Quiet →
      Sends (Client.writtenOf written) b (CommitsInTurn []) :=
    fun h => h.imp fun _ _ => .of_quiet
  have hask : Sends (Client.writtenOf written) (Client.ask t "transact" params)
      (CommitsInTurn [params]) :=
    sends_bind_quiet (sends_sendTransaction ht params) fun id =>
      hquiet (Client.sends_awaitReply ht "transact" id)
  have hrequest : Sends (Client.writtenOf written)
      (Client.request t "transact" params timeoutMs) (CommitsInTurn [params]) := by
    refine sends_bind_quiet hask ?_
    intro result
    cases result with
    | some result => exact hquiet (.pure .nil)
    | none => exact .throw .error
  refine sends_bind_quiet hrequest ?_
  intro result
  refine .bind_silent (fun _ => by cases checkTransaction result <;> rfl) (fun _ => .error) ?_
  intro _
  exact hquiet (.pure .nil)

/-- Commits that are made on a fresh connection, which is not used again. -/
theorem sends_connected (ht : t.Records written) {α : Type} {b : ClientAction σ α}
    {committed : List Json} (h : Sends (Client.writtenOf written) b (CommitsInTurn committed)) :
    Sends written (a.connect t >>= Client.runOnce b) (CommitsInTurn committed) := by
  have hconnect : Sends written (a.connect t) (CommitsInTurn []) := by
    refine (sends_connect ht).imp ?_
    intro result ms hms
    exact ⟨hms ▸ List.prefix_rfl, fun _ => hms⟩
  exact sends_bind hconnect fun c s => h (c, s)

theorem sends_commitSettings (ht : t.Records written) (row : Uuid) (settings : Settings) :
    Sends written (a.commitSettings t (some row) settings)
      (CommitsInTurn [settingsUpdate a.database row settings]) := by
  refine sends_bind_quiet (sends_connected ht (sends_transact ht _ _)) ?_
  intro _
  exact .pure ⟨List.prefix_rfl, fun _ => rfl⟩

/-- The transactions that turn the collection of some realms on or off. -/
def trackingUpdates (a : Access) (mask : TrackingMask) (realms : List Realm) : List Json :=
  realms.map fun realm => trackingUpdate a.database realm (mask.isEnabled realm)

/-- The last transaction comes behind those of the other realms. -/
theorem trackingUpdates_of_getLast? (a : Access) (mask : TrackingMask) {realms : List Realm}
    {last : Realm} (hlast : realms.getLast? = some last) :
    trackingUpdates a mask realms = trackingUpdates a mask realms.dropLast ++
      [trackingUpdate a.database last (mask.isEnabled last)] := by
  obtain ⟨init, rfl⟩ := List.getLast?_eq_some_iff.1 hlast
  rw [List.dropLast_concat, trackingUpdates, List.map_append]
  rfl

theorem sends_sendTracking (ht : t.Records written) (mask : TrackingMask) (realms : List Realm) :
    Sends (Client.writtenOf written) (a.sendTracking t mask realms)
      (CommitsInTurn (trackingUpdates a mask realms)) := by
  induction realms with
  | nil => exact .pure ⟨List.prefix_rfl, fun _ => rfl⟩
  | cons realm rest ih => exact sends_bind (sends_sendTransaction ht _) fun _ => ih

theorem sends_commitTracking (ht : t.Records written) (mask : TrackingMask) :
    Sends written (a.commitTracking t mask)
      (CommitsInTurn (trackingUpdates a mask Realm.all)) := by
  unfold commitTracking
  split
  · rename_i hnone
    rw [List.getLast?_eq_none_iff.1 hnone]
    exact .pure ⟨List.prefix_rfl, fun _ => rfl⟩
  · rename_i last hlast
    rw [trackingUpdates_of_getLast? a mask hlast]
    refine sends_connected ht (sends_bind (sends_sendTracking ht mask _) fun _ => ?_)
    refine sends_bind_quiet (sends_transact ht _ _) ?_
    intro _
    exact .pure ⟨List.prefix_rfl, fun _ => rfl⟩

end Access

namespace Backend

variable {σ : Type} {t : Transport σ} {written : σ → Record} {a : Access} {asics : List Asic}
  {unit : UInt32} {settings : Settings}

/-- The settings that a change of settings commits and records. -/
def committedSettings (settings : Settings) : Settings :=
  { settings with triggerCollectionEnabled := true }

/-- The commits of a change of settings. -/
def commitChange (t : Transport σ) (a : Access) (row : Option Uuid) (settings : Settings) :
    Action σ Unit := do
  a.commitSettings t row (committedSettings settings)
  if settings.trackInit then return ()
  else a.commitTracking t settings.trackingMask

/-- The record of a change of settings in the store. -/
def recordChange (unit : UInt32) (settings : Settings) : Action (Backend σ) Unit := do
  let b ← get
  let store ← Action.ofExcept (b.store.setSettings unit (committedSettings settings))
  set { b with store }

theorem recordChange_apply (b : Backend σ) :
    recordChange unit settings b =
      match b.store.setSettings unit (committedSettings settings) with
      | .ok store => (.ok (), { b with store })
      | .error e => (.error e, b) := by
  rw [recordChange, Action.bind_ok (Action.get_apply b), Action.bind_apply, Action.ofExcept_apply]
  cases b.store.setSettings unit (committedSettings settings) <;> rfl

theorem inWorld_bind {α β : Type} (x : Action σ α) (f : α → Action σ β) :
    inWorld (x >>= f) = inWorld x >>= fun y => inWorld (f y) := by
  funext b
  have hboth := Action.bind_apply x f b.world
  rw [Action.bind_apply]
  unfold inWorld Action.within
  rw [hboth]
  rcases x b.world with ⟨_ | y, s⟩ <;> rfl

/-- A change of settings commits, and then records. -/
theorem setSettings_eq (b : Backend σ) :
    setSettings t a asics unit settings b =
      match findAsic asics unit with
      | .error e => (.error e, b)
      | .ok _ => (inWorld (commitChange t a b.settingsRow settings) >>= fun _ =>
          recordChange unit settings) b := by
  have hcaps := capabilities_eq asics unit b
  cases hasic : findAsic asics unit with
  | error e =>
    rw [hasic] at hcaps
    exact Action.bind_error hcaps _
  | ok asic =>
    rw [hasic] at hcaps
    refine (Action.bind_ok hcaps _).trans ?_
    refine (Action.bind_ok (Action.get_apply b) _).trans ?_
    dsimp only
    rw [commitChange, inWorld_bind, bind_assoc]
    refine congrFun (congrArg _ (funext fun _ => ?_)) b
    obtain ⟨_, _, _, _, _, _, _, _, trackInit⟩ := settings
    cases trackInit <;> rfl

/-- A change of settings that succeeds knows the row, and has recorded the settings that it
has committed. -/
theorem of_setSettings {b b' : Backend σ}
    (h : setSettings t a asics unit settings b = (.ok (), b')) :
    (∃ row, b.settingsRow = some row) ∧
      b.store.setSettings unit (committedSettings settings) = .ok b'.store := by
  rw [setSettings_eq] at h
  cases hasic : findAsic asics unit with
  | error e =>
    rw [hasic] at h
    cases h
  | ok asic =>
    rw [hasic] at h
    obtain ⟨_, b₁, hcommit, hrecord⟩ := Action.bind_eq_ok_iff.1 h
    constructor
    · cases hrow : b.settingsRow with
      | none =>
        rw [hrow] at hcommit
        cases hcommit
      | some row => exact ⟨row, rfl⟩
    · -- commits change the world alone
      have hstore : b₁.store = b.store := (congrArg (·.2.store) hcommit).symm
      rw [recordChange_apply, hstore] at hrecord
      cases hset : b.store.setSettings unit (committedSettings settings) with
      | error e =>
        rw [hset] at hrecord
        cases hrecord
      | ok store =>
        rw [hset] at hrecord
        cases hrecord
        rfl

/-! ## What is sent -/

/-- The transactions that a change of settings sends. -/
def settingsUpdates (a : Access) (row : Uuid) (settings : Settings) : List Json :=
  settingsUpdate a.database row (committedSettings settings) ::
    if settings.trackInit then [] else Access.trackingUpdates a settings.trackingMask Realm.all

theorem sends_commitChange (ht : t.Records written) (row : Uuid) :
    Sends written (commitChange t a (some row) settings)
      (Access.CommitsInTurn (settingsUpdates a row settings)) := by
  refine Access.sends_bind (Access.sends_commitSettings ht row (committedSettings settings)) ?_
  intro _
  cases settings.trackInit with
  | true => exact .pure ⟨List.prefix_rfl, fun _ => rfl⟩
  | false => exact Access.sends_commitTracking ht settings.trackingMask

/-- **A change of settings** sends its transactions in turn, and none if the row with the
settings is not known. -/
theorem sends_setSettings (ht : t.Records written) (a : Access) (asics : List Asic)
    (unit : UInt32) (settings : Settings) (b : Backend σ) :
    ∃ ms, written (setSettings t a asics unit settings b).2.world = written b.world ++ lines ms ∧
      Access.CommitsInTurn (b.settingsRow.elim [] fun row => settingsUpdates a row settings)
        (setSettings t a asics unit settings b).1 ms := by
  rw [setSettings_eq]
  cases findAsic asics unit with
  | error e => exact ⟨[], by simp [lines], .error⟩
  | ok asic =>
    have hcommit : Sends written (commitChange t a b.settingsRow settings)
        (Access.CommitsInTurn (b.settingsRow.elim [] fun row => settingsUpdates a row settings)) := by
      cases b.settingsRow with
      | none => exact .of_written_eq (fun _ => rfl) fun _ => .error
      | some row => exact sends_commitChange ht row
    have hrecord : Sends (writtenOf written) (recordChange unit settings)
        (Access.CommitsInTurn []) := by
      refine .of_written_eq ?_ fun _ => ⟨List.prefix_rfl, fun _ => rfl⟩
      intro b
      rw [recordChange_apply]
      cases b.store.setSettings unit (committedSettings settings) <;> rfl
    exact Access.sends_bind_quiet (hcommit.within (fun _ => rfl) fun _ _ => rfl)
      (fun _ => hrecord) b

end Backend

end BufferTelemetry.Database
