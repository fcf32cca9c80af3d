import BufferTelemetry.Rpc.Message

/-!
# Messages and the objects that stand for them

Four kinds of messages share one syntax: which kind an object stands for is decided by the
members that it has, and a member that is null does not always count as one that is missing
(`StandsFor`, `ofJson_eq_ok_iff`). The object of a message has all members of its kind, with
nulls where there is nothing to say, and each null is read as what it was written for. Two
messages cannot be told from another in this way: a request whose identifier is null, which is
a notification, and an error reply whose error is null, which is a reply (`Legible`).
-/

namespace BufferTelemetry.Rpc.Message

/-- The value of a member, where one that is missing counts as null. -/
def part (members : List (String × Json)) (key : String) : Json :=
  (members.lookup key).getD .null

/-- The message that an object with the given members stands for. -/
inductive StandsFor (members : List (String × Json)) : Message → Prop
  | request {method : String} (hmethod : members.lookup "method" = some (.str method))
      (hid : part members "id" ≠ .null) :
      StandsFor members (.request method (part members "params") (part members "id"))
  | notify {method : String} (hmethod : members.lookup "method" = some (.str method))
      (hid : part members "id" = .null) :
      StandsFor members (.notify method (part members "params"))
  /-- An error that is not null is what counts, whether or not there is a result. -/
  | error {e : Json} (hmethod : members.lookup "method" = none)
      (herror : members.lookup "error" = some e) (hne : e ≠ .null) :
      StandsFor members (.error e (part members "id"))
  /-- Without an error, a result of null is a result. -/
  | reply {result : Json} (hmethod : members.lookup "method" = none)
      (herror : part members "error" = .null) (hresult : members.lookup "result" = some result) :
      StandsFor members (.reply result (part members "id"))

section Reading

variable {members : List (String × Json)} {m : Message} {v : Json}

theorem isNull_iff : v.isNull = true ↔ v = .null := by
  cases v <;> simp [Json.isNull]

/-- The error of an answer, unless it is null or missing. -/
theorem filter_error_eq_none_iff :
    (members.lookup "error").filter (!·.isNull) = none ↔ part members "error" = .null := by
  unfold part
  cases members.lookup "error" with
  | none => simp
  | some e => simp [Option.filter_some, isNull_iff]

theorem filter_error_eq_some_iff {e : Json} :
    (members.lookup "error").filter (!·.isNull) = some e ↔
      members.lookup "error" = some e ∧ e ≠ .null := by
  rw [Option.filter_eq_some_iff, Bool.not_eq_true', ← Bool.not_eq_true, isNull_iff]

/-- A message that is read stands behind the object, and no other does. -/
theorem ofJson_obj_eq_ok_iff : ofJson (.obj members) = .ok m ↔ StandsFor members m := by
  constructor
  · intro h
    unfold ofJson at h
    dsimp only at h
    split at h
    · rename_i method hmethod
      by_cases hid : part members "id" = .null
      · rw [show (members.lookup "id").getD .null = .null from hid] at h
        cases h
        exact .notify hmethod hid
      · have hnot : ¬ ((members.lookup "id").getD .null).isNull = true := mt isNull_iff.1 hid
        rw [if_neg hnot] at h
        cases h
        exact .request hmethod hid
    · cases h
    · rename_i hmethod
      split at h
      · rename_i e _ herror
        obtain ⟨herror, hne⟩ := filter_error_eq_some_iff.1 herror
        cases h
        exact .error hmethod herror hne
      · rename_i result herror hresult
        cases h
        exact .reply hmethod (filter_error_eq_none_iff.1 herror) hresult
      · cases h
  · intro h
    unfold ofJson
    cases h with
    | request hmethod hid =>
      have hnot : ¬ ((members.lookup "id").getD .null).isNull = true := mt isNull_iff.1 hid
      simp only [hmethod, if_neg hnot]
      rfl
    | notify hmethod hid =>
      have hnull : ((members.lookup "id").getD .null).isNull = true := isNull_iff.2 hid
      simp only [hmethod, if_pos hnull]
      rfl
    | error hmethod herror hne =>
      simp only [hmethod, filter_error_eq_some_iff.2 ⟨herror, hne⟩]
      rfl
    | reply hmethod herror hresult =>
      simp only [hmethod, filter_error_eq_none_iff.2 herror, hresult]
      rfl

/-- **Reading.** What is read is an object, and the message that it stands for. -/
theorem ofJson_eq_ok_iff :
    ofJson v = .ok m ↔ ∃ members, v = .obj members ∧ StandsFor members m := by
  cases v with
  | obj members =>
    rw [ofJson_obj_eq_ok_iff]
    constructor
    · intro h
      exact ⟨members, rfl, h⟩
    · rintro ⟨_, heq, h⟩
      cases heq
      exact h
  | _ =>
    constructor
    · intro h
      cases h
    · rintro ⟨_, heq, -⟩
      cases heq

theorem exists_standsFor_iff : (∃ m, StandsFor members m) ↔
    (∃ method, members.lookup "method" = some (.str method)) ∨
      members.lookup "method" = none ∧
        ((∃ e, members.lookup "error" = some e ∧ e ≠ .null) ∨
          ∃ result, members.lookup "result" = some result) := by
  constructor
  · rintro ⟨m, h⟩
    cases h with
    | request hmethod _ => exact .inl ⟨_, hmethod⟩
    | notify hmethod _ => exact .inl ⟨_, hmethod⟩
    | error hmethod herror hne => exact .inr ⟨hmethod, .inl ⟨_, herror, hne⟩⟩
    | reply hmethod _ hresult => exact .inr ⟨hmethod, .inr ⟨_, hresult⟩⟩
  · rintro (⟨method, hmethod⟩ | ⟨hmethod, ⟨e, herror, hne⟩ | ⟨result, hresult⟩⟩)
    · by_cases hid : part members "id" = .null
      · exact ⟨_, .notify hmethod hid⟩
      · exact ⟨_, .request hmethod hid⟩
    · exact ⟨_, .error hmethod herror hne⟩
    · cases herror : (members.lookup "error").filter (!·.isNull) with
      | none => exact ⟨_, .reply hmethod (filter_error_eq_none_iff.1 herror) hresult⟩
      | some e =>
        obtain ⟨herror, hne⟩ := filter_error_eq_some_iff.1 herror
        exact ⟨_, .error hmethod herror hne⟩

end Reading

/-! ## Writing and reading -/

/-- The message is not one of the two that are taken for a message of another kind. -/
structure Legible (m : Message) : Prop where
  id_ne : ∀ method params, m ≠ .request method params .null
  error_ne : ∀ id, m ≠ .error .null id

theorem StandsFor.legible {members : List (String × Json)} {m : Message}
    (h : StandsFor members m) : m.Legible := by
  cases h with
  | request _ hid =>
    refine ⟨?_, nofun⟩
    intro method params heq
    injection heq with _ _ hnull
    exact hid hnull
  | notify => exact ⟨nofun, nofun⟩
  | error _ _ hne =>
    refine ⟨nofun, ?_⟩
    intro id heq
    cases heq
    exact hne rfl
  | reply => exact ⟨nofun, nofun⟩

/-- A message is read back from its object if it is not taken for another. -/
theorem ofJson_toJson_eq_ok_iff (m : Message) : ofJson m.toJson = .ok m ↔ m.Legible := by
  constructor
  · intro h
    obtain ⟨_, -, hstands⟩ := ofJson_eq_ok_iff.1 h
    exact hstands.legible
  · rintro ⟨hid, herror⟩
    cases m with
    | request method params id =>
      refine ofJson_obj_eq_ok_iff.2 (.request rfl ?_)
      intro hnull
      exact hid method params (congrArg (Message.request method params) hnull)
    | notify method params => exact ofJson_obj_eq_ok_iff.2 (.notify rfl rfl)
    | reply result id => exact ofJson_obj_eq_ok_iff.2 (.reply rfl rfl rfl)
    | error e id =>
      refine ofJson_obj_eq_ok_iff.2 (.error rfl rfl ?_)
      intro hnull
      exact herror id (congrArg (Message.error · id) hnull)

/-- **Messages.** A message that is read from some value is read again from its own object, and
every message is but a request whose identifier is null and an error reply whose error is null.
An object is accepted if it has a method that is a text, or if it has no method, but an error that
is not null or a result of whatever value; the message is then the one that its members stand for,
in which an error has precedence over a result. What is no object is not accepted. -/
theorem read_back_iff_legible :
    (∀ v m, ofJson v = .ok m → ofJson m.toJson = .ok m) ∧
    (∀ m, ofJson m.toJson = .ok m ↔
      ¬ ((∃ method params, m = .request method params .null) ∨ ∃ id, m = .error .null id)) ∧
    (∀ members, (∃ m, ofJson (.obj members) = .ok m) ↔
      (∃ method, members.lookup "method" = some (.str method)) ∨
        members.lookup "method" = none ∧
          ((∃ e, members.lookup "error" = some e ∧ e ≠ .null) ∨
            ∃ result, members.lookup "result" = some result)) ∧
    ∀ v m, ofJson v = .ok m ↔ ∃ members, v = .obj members ∧ StandsFor members m := by
  refine ⟨?_, ?_, ?_, fun v m => ofJson_eq_ok_iff⟩
  · intro v m h
    obtain ⟨_, -, hstands⟩ := ofJson_eq_ok_iff.1 h
    exact (ofJson_toJson_eq_ok_iff m).2 hstands.legible
  · intro m
    rw [ofJson_toJson_eq_ok_iff]
    constructor
    · rintro ⟨hid, herror⟩ (⟨method, params, heq⟩ | ⟨id, heq⟩)
      · exact hid method params heq
      · exact herror id heq
    · intro h
      exact ⟨fun method params heq => h (.inl ⟨method, params, heq⟩),
        fun id heq => h (.inr ⟨id, heq⟩)⟩
  · intro members
    simp only [ofJson_obj_eq_ok_iff]
    exact exists_standsFor_iff

end BufferTelemetry.Rpc.Message
