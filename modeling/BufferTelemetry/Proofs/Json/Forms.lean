import BufferTelemetry.AgentConfig
import BufferTelemetry.Forms
import BufferTelemetry.Proofs.Json.Records
import BufferTelemetry.Proofs.Text.Families
import BufferTelemetry.Proofs.Text.Hardware

/-!
# Forms of the domain types

Every value of a domain type is read back from the form it is written in
(`domain_forms_lawful`). Masks are read as the numbers they are, ASIC types and hardware
addresses from their texts, and enumerations by their labels. Records are lawful records, so
they are also read from their members in any order, among others, or as an array; and so are
the contents of the variants that have members, events and threshold requests.
-/

namespace BufferTelemetry

open Json

/-! ## Masks, texts and labels -/

instance : LawfulForm FeatureMask where
  ofJson?_toJson m := congrArg (Option.map FeatureMask.mk) (LawfulForm.ofJson?_toJson m.bits)

instance : LawfulForm TrackingMask where
  ofJson?_toJson m := congrArg (Option.map TrackingMask.mk) (LawfulForm.ofJson?_toJson m.bits)

instance : LawfulForm AsicType where
  ofJson?_toJson t := by
    show (AsicType.ofString? t.toString).toOption = some t
    rw [AsicType.ofString?_toString]
    rfl

instance : LawfulForm MacAddress where
  ofJson?_toJson m := by
    show (MacAddress.ofString? m.toString).toOption = some m
    rw [MacAddress.ofString?_toString]
    rfl

instance : LawfulForm FeatureId where
  ofJson?_toJson v := by cases v <;> rfl

instance : LawfulForm TrackingMode where
  ofJson?_toJson v := by cases v <;> rfl

instance : LawfulForm Change where
  ofJson?_toJson v := by cases v <;> rfl

instance : LawfulForm Realm where
  ofJson?_toJson v := by cases v <;> rfl

/-! ## Records -/

instance : LawfulRecord Settings Settings.memberNames :=
  .of_members (fun _ => rfl) (fun ms ms' h => by simp only [field?, h]) (by decide)
    (fun _ => rfl) (fun _ => rfl) (fun v => by simp)

instance : LawfulRecord Trigger Trigger.memberNames :=
  .of_members (fun _ => rfl) (fun ms ms' h => by simp only [field?, h]) (by decide)
    (fun _ => rfl) (fun _ => rfl) (fun v => by simp)

instance : LawfulRecord Capabilities Capabilities.memberNames :=
  .of_members (fun _ => rfl) (fun ms ms' h => by simp only [field?, h]) (by decide)
    (fun _ => rfl) (fun _ => rfl) (fun v => by simp)

instance : LawfulRecord Asic Asic.memberNames :=
  .of_members (fun _ => rfl) (fun ms ms' h => by simp only [field?, h]) (by decide)
    (fun _ => rfl) (fun _ => rfl) (fun v => by simp)

instance : LawfulRecord PriorityGroupCell PriorityGroupCell.memberNames :=
  .of_members (fun _ => rfl) (fun ms ms' h => by simp only [field?, h]) (by decide)
    (fun _ => rfl) (fun _ => rfl) (fun v => by simp)

instance : LawfulRecord PortPoolCell PortPoolCell.memberNames :=
  .of_members (fun _ => rfl) (fun ms ms' h => by simp only [field?, h]) (by decide)
    (fun _ => rfl) (fun _ => rfl) (fun v => by simp)

instance : LawfulRecord PoolCell PoolCell.memberNames :=
  .of_members (fun _ => rfl) (fun ms ms' h => by simp only [field?, h]) (by decide)
    (fun _ => rfl) (fun _ => rfl) (fun v => by simp)

instance : LawfulRecord QueueCell QueueCell.memberNames :=
  .of_members (fun _ => rfl) (fun ms ms' h => by simp only [field?, h]) (by decide)
    (fun _ => rfl) (fun _ => rfl) (fun v => by simp)

instance : LawfulRecord Snapshot Snapshot.memberNames :=
  .of_members (fun _ => rfl) (fun ms ms' h => by simp only [field?, h]) (by decide)
    (fun _ => rfl) (fun _ => rfl) (fun v => by simp)

instance : LawfulRecord DatabaseConfig DatabaseConfig.memberNames :=
  .of_members (fun _ => rfl) (fun ms ms' h => by simp only [fieldOr?, h]) (by decide)
    (fun _ => rfl) (fun _ => rfl) (fun v => by simp)

instance : LawfulRecord SwitchConfig SwitchConfig.memberNames :=
  .of_members (fun _ => rfl) (fun ms ms' h => by simp only [fieldOr?, h]) (by decide)
    (fun _ => rfl) (fun _ => rfl) (fun v => by simp)

/-- The two parts are read like members that have defaults. -/
theorem AgentConfig.ofJson?_eq (v : Json) :
    (ofJson? v : Option AgentConfig) = (record? memberNames v).bind fun members => do
      return {
        ovsdb := ← fieldOr? .initial members "ovsdb"
        system := ← fieldOr? .initial members "system" } := by
  show AgentConfig.read? .refused v = _
  unfold AgentConfig.read?
  refine Option.bind_congr fun members _ => ?_
  unfold fieldOr?
  cases members.lookup "ovsdb" <;> cases members.lookup "system" <;> rfl

instance : LawfulRecord AgentConfig AgentConfig.memberNames :=
  .of_members AgentConfig.ofJson?_eq (fun ms ms' h => by simp only [fieldOr?, h]) (by decide)
    (fun _ => rfl) (fun _ => rfl) (fun v => by simp)

/-! ## Variants -/

namespace Event

theorem ofJson?_trigger (contents : Json) :
    (ofJson? (ofCase "Trigger" contents) : Option Event) =
      (record? ["asic", "info"] contents).bind fun members => do
        return .trigger (← field? members "asic") (← field? members "info") :=
  rfl

theorem ofJson?_configChanged (contents : Json) :
    (ofJson? (ofCase "ConfigChanged" contents) : Option Event) =
      (record? ["asic", "change"] contents).bind fun members => do
        return .configChanged (← field? members "asic") (← field? members "change") :=
  rfl

theorem readsRecord_trigger :
    ReadsRecord ["asic", "info"] fun v => (ofJson? (ofCase "Trigger" v) : Option Event) := by
  simp only [ofJson?_trigger]
  exact readsRecord_of_lookup (by decide) fun ms ms' h => by simp only [field?, h]

theorem readsRecord_configChanged :
    ReadsRecord ["asic", "change"]
      fun v => (ofJson? (ofCase "ConfigChanged" v) : Option Event) := by
  simp only [ofJson?_configChanged]
  exact readsRecord_of_lookup (by decide) fun ms ms' h => by simp only [field?, h]

instance : LawfulForm Event where
  ofJson?_toJson v := by
    cases v with
    | trigger asic info =>
      refine (ofJson?_trigger _).trans ?_
      refine (bind_record?_obj (by rfl) (by decide)).trans ?_
      simp
    | configChanged asic change =>
      refine (ofJson?_configChanged _).trans ?_
      refine (bind_record?_obj (by rfl) (by decide)).trans ?_
      simp

end Event

theorem Realm.find?_label (r : Realm) : Realm.all.find? (·.label = r.label) = some r := by
  cases r <;> rfl

instance : LawfulForm RealmData where
  ofJson?_toJson d := by
    have hcase : (ofJson? (toJson d) : Option RealmData) =
        (Realm.all.find? (·.label = d.realm.label)).bind (RealmData.ofContents? d.contents) := rfl
    rw [hcase, Realm.find?_label, Option.bind_some]
    cases d <;> simp [RealmData.ofContents?, RealmData.contents, RealmData.realm]

namespace ThresholdRequest

theorem ofJson?_ofCase (r : Realm) (contents : Json) :
    (ofJson? (ofCase r.label contents) : Option ThresholdRequest) =
      (record? (memberNames r) contents).bind (ofMembers? · r) := by
  have hcase : (ofJson? (ofCase r.label contents) : Option ThresholdRequest) =
      (Realm.all.find? (·.label = r.label)).bind fun realm =>
        (record? (memberNames realm) contents).bind (ofMembers? · realm) := rfl
  rw [hcase, Realm.find?_label, Option.bind_some]

theorem nodup_memberNames (r : Realm) : (memberNames r).Nodup := by
  cases r <;> decide

theorem map_members (t : ThresholdRequest) : t.members.map Prod.fst = memberNames t.realm := by
  cases t <;> rfl

theorem ofMembers?_members (t : ThresholdRequest) : ofMembers? t.members t.realm = some t := by
  cases t <;> simp [ofMembers?, members, realm]

theorem readsRecord (r : Realm) :
    ReadsRecord (memberNames r)
      fun v => (ofJson? (ofCase r.label v) : Option ThresholdRequest) := by
  simp only [ofJson?_ofCase]
  refine readsRecord_of_lookup (nodup_memberNames r) fun ms ms' h => ?_
  cases r <;> simp only [ofMembers?, field?, h]

instance : LawfulForm ThresholdRequest where
  ofJson?_toJson t := by
    show ofJson? (ofCase t.realm.label (.obj t.members)) = some t
    rw [ofJson?_ofCase, bind_record?_obj t.map_members (nodup_memberNames _),
      ofMembers?_members]

end ThresholdRequest

/-! ## All of them -/

/-- **Domain types survive serialization.** Of each domain type, every value is read back from
what it is written as. The records among them are written as the object of their members in
their order. Whatever an object is read as, it is read as the same when its members stand in
another order and members that the record does not know stand among them, and so is the array
of the values in their order. This also holds of the contents of events and of threshold
requests, which have members like records. -/
theorem domain_forms_lawful :
    (LawfulForm AsicType ∧ LawfulForm MacAddress ∧ LawfulForm Realm ∧ LawfulForm TrackingMask ∧
      LawfulForm TrackingMode ∧ LawfulForm FeatureId ∧ LawfulForm FeatureMask ∧
      LawfulForm Change ∧ LawfulForm Event ∧ LawfulForm RealmData ∧
      LawfulForm ThresholdRequest) ∧
    (LawfulRecord Settings Settings.memberNames ∧
      LawfulRecord Trigger Trigger.memberNames ∧
      LawfulRecord Capabilities Capabilities.memberNames ∧
      LawfulRecord Asic Asic.memberNames ∧
      LawfulRecord Snapshot Snapshot.memberNames ∧
      LawfulRecord PriorityGroupCell PriorityGroupCell.memberNames ∧
      LawfulRecord PortPoolCell PortPoolCell.memberNames ∧
      LawfulRecord PoolCell PoolCell.memberNames ∧
      LawfulRecord QueueCell QueueCell.memberNames ∧
      LawfulRecord DatabaseConfig DatabaseConfig.memberNames ∧
      LawfulRecord SwitchConfig SwitchConfig.memberNames ∧
      LawfulRecord AgentConfig AgentConfig.memberNames) ∧
    ReadsRecord ["asic", "info"] (fun v => (ofJson? (ofCase "Trigger" v) : Option Event)) ∧
    ReadsRecord ["asic", "change"]
      (fun v => (ofJson? (ofCase "ConfigChanged" v) : Option Event)) ∧
    ∀ r : Realm, ReadsRecord (ThresholdRequest.memberNames r)
      fun v => (ofJson? (ofCase r.label v) : Option ThresholdRequest) := by
  refine ⟨?_, ?_, Event.readsRecord_trigger, Event.readsRecord_configChanged,
    ThresholdRequest.readsRecord⟩
  · and_intros <;> infer_instance
  · and_intros <;> infer_instance

example : (ofJson? (.obj [("um_headroom", .int 2), ("note", .null), ("um_share", .int 1)]) :
    Option PriorityGroupCell) = ofJson? (.arr [.int 1, .int 2]) := by
  decide

end BufferTelemetry
