import BufferTelemetry.Json.Form
import Mathlib.Data.List.Perm.Basic

/-!
# Records in any order

A record is read through its lookups, and a lookup does not see the order of members whose
names are different (`lookup_perm`). So a reader that does nothing with the members of a record
but look up their names reads the same from the members in every order, with any others beside
them, and from the array of their values (`readsRecord_of_lookup`).

A form is lawful when what it writes is read back (`LawfulForm`). A record is lawful when it
writes its members under their names, each of which is read back from among the others
(`LawfulRecord.of_members`).
-/

namespace BufferTelemetry

/-! ## Lookups -/

theorem lookup_eq_some_iff_mem {members : List (String × Json)}
    (hnodup : (members.map Prod.fst).Nodup) {name : String} {v : Json} :
    members.lookup name = some v ↔ (name, v) ∈ members := by
  rw [List.lookup_eq_some_iff]
  constructor
  · rintro ⟨before, after, rfl, -⟩
    exact List.mem_append_right _ List.mem_cons_self
  · intro hmem
    obtain ⟨before, after, rfl⟩ := List.append_of_mem hmem
    refine ⟨before, after, rfl, ?_⟩
    intro other hother
    rw [List.map_append, List.map_cons] at hnodup
    rw [bne_iff_ne, ne_comm]
    exact (List.nodup_append.1 hnodup).2.2 _ (List.mem_map_of_mem hother) _ List.mem_cons_self

theorem lookup_perm {members members' : List (String × Json)} (hperm : members.Perm members')
    (hnodup : (members.map Prod.fst).Nodup) (name : String) :
    members'.lookup name = members.lookup name := by
  have hnodup' : (members'.map Prod.fst).Nodup := (hperm.map Prod.fst).nodup_iff.1 hnodup
  refine Option.ext fun v => ?_
  rw [lookup_eq_some_iff_mem hnodup', lookup_eq_some_iff_mem hnodup, hperm.mem_iff]

/-- What is looked up is found as before when other members are taken out. -/
theorem lookup_filter (keep : String → Bool) {members : List (String × Json)} {name : String}
    (hname : keep name = true) :
    (members.filter fun member => keep member.1).lookup name = members.lookup name := by
  induction members with
  | nil => rfl
  | cons member rest ih =>
    obtain ⟨key, value⟩ := member
    rw [List.filter_cons, List.lookup_cons]
    by_cases hkey : keep key = true
    · rw [if_pos hkey, List.lookup_cons, ih]
    · have hne : name ≠ key := fun h => hkey (h ▸ hname)
      rw [if_neg hkey, ih, beq_false_of_ne hne]

/-! ## Lawful forms -/

/-- What is written is read back as what it was written for. -/
class LawfulForm (α : Type) [JsonForm α] : Prop where
  ofJson?_toJson (v : α) : ofJson? (toJson v) = some v

attribute [simp] LawfulForm.ofJson?_toJson

namespace Json

theorem word?_ofWord (v : UInt64) : (ofWord v).word? = some v := by
  show (if v.toNat < UInt64.size then some (UInt64.ofNat v.toNat) else none) = some v
  rw [if_pos v.toNat_lt, UInt64.ofNat_toNat]

end Json

instance : LawfulForm Bool := ⟨fun _ => rfl⟩

instance : LawfulForm String := ⟨fun _ => rfl⟩

instance : LawfulForm UInt64 := ⟨Json.word?_ofWord⟩

instance : LawfulForm UInt32 where
  ofJson?_toJson v := by
    show (if v.toNat < UInt32.size then some (UInt32.ofNat v.toNat) else none) = some v
    rw [if_pos v.toNat_lt, UInt32.ofNat_toNat]

instance : LawfulForm Int32 where
  ofJson?_toJson v := by
    show (if Int32.minValue.toInt ≤ v.toInt ∧ v.toInt ≤ Int32.maxValue.toInt then
      some (Int32.ofInt v.toInt) else none) = some v
    rw [if_pos ⟨v.minValue_le_toInt, v.toInt_le⟩, Int32.ofInt_toInt]

instance : LawfulForm (Option UInt64) where
  ofJson?_toJson v := by
    cases v with
    | none => rfl
    | some n => exact congrArg (Option.map some) (Json.word?_ofWord n)

instance {α : Type} [JsonForm α] [LawfulForm α] : LawfulForm (List α) where
  ofJson?_toJson vs := by
    have hback : ofJson? ∘ toJson = fun v : α => pure v := funext LawfulForm.ofJson?_toJson
    show (vs.map toJson).mapM ofJson? = some vs
    rw [List.mapM_map, hback, List.mapM_pure, List.map_id']
    rfl

namespace Json

variable {α : Type} {names : List String}

/-! ## Members of a record -/

section Fields

variable [JsonForm α] {name other : String} {members : List (String × Json)}

@[simp]
theorem field?_cons_self [LawfulForm α] (v : α) :
    field? ((name, toJson v) :: members) name = some v := by
  rw [field?, List.lookup_cons_self, Option.bind_some, LawfulForm.ofJson?_toJson]

@[simp]
theorem field?_cons_of_ne (h : name ≠ other) (v : Json) :
    (field? ((other, v) :: members) name : Option α) = field? members name := by
  rw [field?, field?, List.lookup_cons, beq_false_of_ne h]

@[simp]
theorem fieldOr?_cons_self [LawfulForm α] (default v : α) :
    fieldOr? default ((name, toJson v) :: members) name = some v := by
  simp only [fieldOr?, List.lookup_cons_self, LawfulForm.ofJson?_toJson]

@[simp]
theorem fieldOr?_cons_of_ne (h : name ≠ other) (default : α) (v : Json) :
    fieldOr? default ((other, v) :: members) name = fieldOr? default members name := by
  simp only [fieldOr?, List.lookup_cons, beq_false_of_ne h]

end Fields

theorem record?_obj {members : List (String × Json)} (hnames : members.map Prod.fst = names)
    (hnodup : names.Nodup) : record? names (.obj members) = some members := by
  have hknown : members.filter (fun m => names.contains m.1) = members := by
    refine List.filter_eq_self.2 ?_
    intro m hm
    rw [List.contains_iff_mem, ← hnames]
    exact List.mem_map_of_mem hm
  simp only [record?, hknown]
  exact if_pos (hnames ▸ hnodup)

theorem bind_record?_obj {f : List (String × Json) → Option α} {members : List (String × Json)}
    (hnames : members.map Prod.fst = names) (hnodup : names.Nodup) :
    (record? names (.obj members)).bind f = f members := by
  rw [record?_obj hnames hnodup, Option.bind_some]

theorem record?_arr {items : List Json} (hlength : items.length = names.length)
    (hnodup : names.Nodup) :
    record? names (.arr items) = record? names (.obj (names.zip items)) := by
  rw [record?_obj (List.map_fst_zip (Nat.le_of_eq hlength.symm)) hnodup]
  exact if_pos (.inl (Nat.le_of_eq hlength))

theorem record?_append {members others : List (String × Json)}
    (hothers : ∀ m ∈ others, m.1 ∉ names) :
    record? names (.obj (members ++ others)) = record? names (.obj members) := by
  have hnone : others.filter (fun m => names.contains m.1) = [] := by
    refine List.filter_eq_nil_iff.2 ?_
    intro m hm
    rw [List.contains_iff_mem]
    exact hothers m hm
  simp only [record?, List.filter_append, hnone, List.append_nil]

/-! ## Readers of records -/

/-- The reader of a record finds its members in any order and scattered among others that it
does not know, and takes an array for the values of the members in their order. -/
structure ReadsRecord (names : List String) (read : Json → Option α) : Prop where
  scattered {members others members' : List (String × Json)} :
    (∀ m ∈ others, m.1 ∉ names) → members'.Perm (members ++ others) →
      read (.obj members') = read (.obj members)
  listed {items : List Json} :
    items.length = names.length → read (.arr items) = read (.obj (names.zip items))

/-- A function of the members of a record that looks them up by their names. -/
def LooksUp (f : List (String × Json) → Option α) : Prop :=
  ∀ members members', (∀ name, members.lookup name = members'.lookup name) →
    f members = f members'

theorem LooksUp.record?_perm {f : List (String × Json) → Option α} (hf : LooksUp f)
    {members members' : List (String × Json)} (hperm : members.Perm members') :
    (record? names (.obj members)).bind f = (record? names (.obj members')).bind f := by
  have hknown := hperm.filter fun m => names.contains m.1
  have hdistinct := (hknown.map Prod.fst).nodup_iff
  simp only [record?]
  by_cases h : ((members.filter fun m => names.contains m.1).map Prod.fst).Nodup
  · rw [if_pos h, if_pos (hdistinct.1 h)]
    exact hf _ _ fun name => (lookup_perm hknown h name).symm
  · rw [if_neg h, if_neg (hdistinct.not.1 h)]

theorem readsRecord_of_lookup {f : List (String × Json) → Option α} (hnodup : names.Nodup)
    (hf : LooksUp f) : ReadsRecord names fun v => (record? names v).bind f where
  scattered hothers hperm := by rw [hf.record?_perm hperm, record?_append hothers]
  listed hlength := by rw [record?_arr hlength hnodup]

end Json

/-! ## Lawful records -/

open Json

/-- A record is read back, it is written as the object of its members in their order, and it is
read whatever their order. -/
class LawfulRecord (α : Type) [JsonForm α] (names : outParam (List String)) : Prop
    extends LawfulForm α where
  written (v : α) : ∃ members, toJson v = .obj members ∧ members.map Prod.fst = names
  reads : ReadsRecord names (ofJson? : Json → Option α)

/-- A record whose reader looks up the members, and finds the value in those that are
written. -/
theorem LawfulRecord.of_members {α : Type} [JsonForm α] {names : List String}
    {f : List (String × Json) → Option α} {members : α → List (String × Json)}
    (hread : ∀ v, ofJson? v = (record? names v).bind f) (hf : LooksUp f)
    (hnodup : names.Nodup) (hwrite : ∀ v, toJson v = .obj (members v))
    (hnames : ∀ v, (members v).map Prod.fst = names) (hback : ∀ v, f (members v) = some v) :
    LawfulRecord α names where
  ofJson?_toJson v := by
    rw [hwrite, hread, bind_record?_obj (hnames v) hnodup, hback]
  written v := ⟨members v, hwrite v, hnames v⟩
  reads := by
    rw [show (ofJson? : Json → Option α) = _ from funext hread]
    exact readsRecord_of_lookup hnodup hf

end BufferTelemetry
