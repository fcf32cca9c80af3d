import BufferTelemetry.Json.Reader
import BufferTelemetry.Proofs.Rpc.Looks

/-!
# Keys of objects

No object in a value that is read in a line has a key twice (`Json.distinct_of_parse?`), and so
none in a message (`Rpc.Message.distinct_of_line`). The readers of text are two machines, and
each has its invariant: the tokens that have been scanned hold no containers (`Token.Plain`),
and the contents of the containers that are still open are values whose objects have different
keys (`Builder.Sound`).
-/

namespace BufferTelemetry

namespace Json

/-- In no object of the value two members have the same key. -/
inductive Distinct : Json → Prop
  | null : Distinct .null
  | bool (value : Bool) : Distinct (.bool value)
  | int (value : Int) : Distinct (.int value)
  | raw (text : String) : Distinct (.raw text)
  | str (text : String) : Distinct (.str text)
  | arr (items : List Json) : (∀ v ∈ items, Distinct v) → Distinct (.arr items)
  | obj (members : List (String × Json)) : (members.map Prod.fst).Nodup →
      (∀ m ∈ members, Distinct m.2) → Distinct (.obj members)

theorem distinct_obj_iff {members : List (String × Json)} :
    Distinct (.obj members) ↔
      (members.map Prod.fst).Nodup ∧ ∀ m ∈ members, Distinct m.2 := by
  constructor
  · intro h
    cases h with
    | obj _ hnodup hvalues => exact ⟨hnodup, hvalues⟩
  · rintro ⟨hnodup, hvalues⟩
    exact .obj members hnodup hvalues

theorem Distinct.lookup {members : List (String × Json)} (h : Distinct (.obj members))
    {key : String} {v : Json} (hv : members.lookup key = some v) : v.Distinct := by
  obtain ⟨before, after, hsplit, -⟩ := List.lookup_eq_some_iff.1 hv
  exact (distinct_obj_iff.1 h).2 (key, v) (by simp [hsplit])

/-- A member that is left out counts as one that is null. -/
theorem Distinct.lookup_getD {members : List (String × Json)} (h : Distinct (.obj members))
    (key : String) : ((members.lookup key).getD .null).Distinct := by
  cases hv : members.lookup key with
  | none => exact .null
  | some v => exact h.lookup hv

/-! ## Deciding it -/

mutual

def hasDistinctKeys : Json → Bool
  | .arr items => itemsDistinct items
  | .obj members => decide (members.map Prod.fst).Nodup && membersDistinct members
  | _ => true

def itemsDistinct : List Json → Bool
  | [] => true
  | v :: rest => hasDistinctKeys v && itemsDistinct rest

def membersDistinct : List (String × Json) → Bool
  | [] => true
  | m :: rest => memberDistinct m && membersDistinct rest

def memberDistinct : String × Json → Bool
  | (_, v) => hasDistinctKeys v

end

mutual

theorem hasDistinctKeys_iff {v : Json} : hasDistinctKeys v = true ↔ v.Distinct := by
  cases v with
  | arr items =>
    rw [hasDistinctKeys, itemsDistinct_iff]
    constructor
    · exact .arr items
    · intro h
      cases h with
      | arr _ hitems => exact hitems
  | obj members =>
    rw [hasDistinctKeys, Bool.and_eq_true, decide_eq_true_eq, membersDistinct_iff]
    exact distinct_obj_iff.symm
  | _ => exact iff_of_true rfl (by constructor)

theorem itemsDistinct_iff {items : List Json} :
    itemsDistinct items = true ↔ ∀ v ∈ items, v.Distinct := by
  cases items with
  | nil => simp [itemsDistinct]
  | cons v rest =>
    rw [itemsDistinct, Bool.and_eq_true, hasDistinctKeys_iff, itemsDistinct_iff,
      List.forall_mem_cons]

theorem membersDistinct_iff {members : List (String × Json)} :
    membersDistinct members = true ↔ ∀ m ∈ members, m.2.Distinct := by
  cases members with
  | nil => simp [membersDistinct]
  | cons m rest =>
    obtain ⟨key, v⟩ := m
    rw [membersDistinct, Bool.and_eq_true, memberDistinct, hasDistinctKeys_iff,
      membersDistinct_iff, List.forall_mem_cons]

end

instance : DecidablePred Distinct := fun _ => decidable_of_iff _ hasDistinctKeys_iff

/-! ## Merged members -/

theorem keys_putMember (key : String) (value : Json) (members : List (String × Json)) :
    (putMember key value members).map Prod.fst =
      if key ∈ members.map Prod.fst then members.map Prod.fst
      else members.map Prod.fst ++ [key] := by
  induction members with
  | nil => rfl
  | cons m rest ih =>
    unfold putMember
    by_cases hkey : m.1 = key
    · simp [hkey]
    · have hne : ¬ key = m.1 := fun h => hkey h.symm
      simp only [if_neg hkey, List.map_cons, ih, List.mem_cons, hne, false_or]
      split <;> rfl

theorem mem_putMember {key : String} {value : Json} {members : List (String × Json)}
    {m : String × Json} (h : m ∈ putMember key value members) : m.2 = value ∨ m ∈ members := by
  induction members with
  | nil =>
    rw [putMember, List.mem_singleton] at h
    rw [h]
    exact .inl rfl
  | cons head rest ih =>
    unfold putMember at h
    split at h
    · rcases List.mem_cons.1 h with rfl | h
      · exact .inl rfl
      · exact .inr (List.mem_cons_of_mem _ h)
    · rcases List.mem_cons.1 h with rfl | h
      · exact .inr List.mem_cons_self
      · exact (ih h).imp_right (List.mem_cons_of_mem _)

theorem distinct_putMember {members : List (String × Json)} (h : Distinct (.obj members))
    {value : Json} (hvalue : value.Distinct) (key : String) :
    Distinct (.obj (putMember key value members)) := by
  obtain ⟨hnodup, hvalues⟩ := distinct_obj_iff.1 h
  refine .obj _ ?_ ?_
  · rw [keys_putMember]
    split
    · exact hnodup
    · rename_i habsent
      rw [List.nodup_append]
      refine ⟨hnodup, by simp, ?_⟩
      intro old hold new hnew heq
      rw [List.mem_singleton] at hnew
      rw [heq, hnew] at hold
      exact habsent hold
  · intro m hm
    rcases mem_putMember hm with hnew | hold
    · rw [hnew]
      exact hvalue
    · exact hvalues m hold

/-- Merged members have different keys, and values that were there before. -/
theorem distinct_mergeMembers {members : List (String × Json)}
    (h : ∀ m ∈ members, Distinct m.2) : Distinct (.obj (mergeMembers members)) := by
  have hfold : ∀ merged, Distinct (.obj merged) →
      Distinct (.obj (members.foldl (fun merged m => putMember m.1 m.2 merged) merged)) := by
    induction members with
    | nil => exact fun merged hmerged => hmerged
    | cons m rest ih =>
      intro merged hmerged
      rw [List.forall_mem_cons] at h
      exact ih h.2 _ (distinct_putMember hmerged h.1 m.1)
  exact hfold [] (.obj [] (by simp) (by simp))

/-! ## Machines -/

/-- What every step of a machine keeps holds at the end of its run. -/
theorem of_foldlM {α β : Type} {f : β → α → Option β} {P : β → Prop} {xs : List α}
    (hstep : ∀ s x s', x ∈ xs → P s → f s x = some s' → P s') {s s' : β} (hs : P s)
    (h : xs.foldlM f s = some s') : P s' := by
  induction xs generalizing s with
  | nil =>
    cases h
    exact hs
  | cons x rest ih =>
    rw [List.foldlM_cons] at h
    obtain ⟨next, hnext, h⟩ := Option.bind_eq_some_iff.1 h
    refine ih ?_ (hstep s x next List.mem_cons_self hs hnext) h
    intro s x s' hx
    exact hstep s x s' (List.mem_cons_of_mem _ hx)

/-! ## Tokens -/

/-- A value that is scanned as one token is no container. -/
def Token.Plain (t : Token) : Prop := ∀ v, t = .scalar v → Distinct v

theorem distinct_of_ofWord? {lenient : Bool} {word : List Char} {v : Json}
    (h : ofWord? lenient word = some v) : Distinct v := by
  unfold ofWord? at h
  by_cases hnull : word = "null".toList
  · rw [if_pos hnull] at h
    cases h
    exact .null
  rw [if_neg hnull] at h
  by_cases htrue : word = "true".toList
  · rw [if_pos htrue] at h
    cases h
    exact .bool true
  rw [if_neg htrue] at h
  by_cases hfalse : word = "false".toList
  · rw [if_pos hfalse] at h
    cases h
    exact .bool false
  rw [if_neg hfalse] at h
  obtain ⟨x, -, h⟩ := Option.bind_eq_some_iff.1 h
  cases hn : x.integer? with
  | some n =>
    rw [hn] at h
    cases h
    exact .int n
  | none =>
    rw [hn] at h
    obtain ⟨_, -, h⟩ := Option.bind_eq_some_iff.1 h
    cases h
    exact .raw _

namespace Token

variable {lenient : Bool} {tokens : List Token} {c : Char} {s s' : Scan}

theorem plain_token (d : Draft) : d.token.Plain := by
  intro v hv
  unfold Draft.token at hv
  dsimp only at hv
  split at hv
  · cases hv
  · cases hv
    exact .str _

theorem plain_begin (htokens : ∀ t ∈ tokens, t.Plain) (h : begin tokens c = some s) :
    ∀ t ∈ s.done, t.Plain := by
  have hmark : ∀ mark : Token, (∀ v, mark ≠ .scalar v) → ∀ t ∈ mark :: tokens, t.Plain := by
    intro mark hmark
    rw [List.forall_mem_cons]
    exact ⟨fun v hv => absurd hv (hmark v), htokens⟩
  unfold begin at h
  repeat' split at h
  all_goals cases h <;> first | exact htokens | exact hmark _ fun _ => Token.noConfusion

theorem plain_stepText {draft : Draft} (htokens : ∀ t ∈ tokens, t.Plain)
    (h : stepText tokens draft c = some s) : ∀ t ∈ s.done, t.Plain := by
  unfold stepText at h
  repeat' split at h
  all_goals cases h <;>
    first | exact htokens | exact List.forall_mem_cons.2 ⟨plain_token draft, htokens⟩

theorem plain_stepEscape {draft : Draft} (htokens : ∀ t ∈ tokens, t.Plain)
    (h : stepEscape tokens draft c = some s) : ∀ t ∈ s.done, t.Plain := by
  unfold stepEscape at h
  split at h
  · cases h
    exact htokens
  · obtain ⟨_, -, rfl⟩ := Option.map_eq_some_iff.1 h
    exact htokens

theorem plain_step (hs : ∀ t ∈ s.done, t.Plain) (h : step lenient s c = some s') :
    ∀ t ∈ s'.done, t.Plain := by
  unfold step at h
  split at h
  · exact plain_begin hs h
  · split at h
    · cases h
      exact hs
    · obtain ⟨v, hv, h⟩ := Option.bind_eq_some_iff.1 h
      refine plain_begin ?_ h
      rw [List.forall_mem_cons]
      refine ⟨?_, hs⟩
      rintro _ ⟨rfl⟩
      exact distinct_of_ofWord? hv
  · exact plain_stepText hs h
  · exact plain_stepEscape hs h
  · obtain ⟨_, -, h⟩ := Option.bind_eq_some_iff.1 h
    split at h
    · obtain ⟨_, -, h⟩ := Option.bind_eq_some_iff.1 h
      cases h
      exact hs
    · cases h
      exact hs
  · split at h
    · cases h
      exact hs
    · obtain ⟨_, -, h⟩ := Option.bind_eq_some_iff.1 h
      exact plain_stepText hs h
  · split at h
    · cases h
      exact hs
    · obtain ⟨_, -, h⟩ := Option.bind_eq_some_iff.1 h
      exact plain_stepEscape hs h

theorem plain_of_scan? {text : String} (h : scan? lenient text = some tokens) :
    ∀ t ∈ tokens, t.Plain := by
  obtain ⟨s, hs, h⟩ := Option.bind_eq_some_iff.1 h
  have hdone : ∀ t ∈ s.done, t.Plain :=
    of_foldlM (fun _ _ _ _ hs hstep => plain_step hs hstep) (by simp) hs
  unfold finish? at h
  split at h
  · cases h
    simpa using hdone
  · obtain ⟨v, hv, h⟩ := Option.bind_eq_some_iff.1 h
    cases h
    intro t ht
    rcases List.mem_cons.1 (List.mem_reverse.1 ht) with rfl | ht
    · rintro _ ⟨rfl⟩
      exact distinct_of_ofWord? hv
    · exact hdone t ht
  · cases h

end Token

/-! ## Values -/

/-- The contents of an open container are values with different keys. -/
def Frame.Sound : Frame → Prop
  | .arr items => ∀ v ∈ items, Distinct v
  | .obj members _ => ∀ m ∈ members.taken, Distinct m.2

/-- So are the members of an object that is being read, and a value that is complete. -/
def Expect.Sound : Expect → Prop
  | .key members => ∀ m ∈ members.taken, Distinct m.2
  | .colon members _ => ∀ m ∈ members.taken, Distinct m.2
  | .moreMembers members => ∀ m ∈ members.taken, Distinct m.2
  | .nothing v => Distinct v
  | _ => True

structure Builder.Sound (b : Builder) : Prop where
  stack : ∀ f ∈ b.stack, f.Sound
  expect : b.expect.Sound

theorem Members.distinct_value {members : Members} (h : ∀ m ∈ members.taken, Distinct m.2) :
    Distinct (members.value .message) := by
  unfold Members.value
  dsimp only
  split
  · exact .raw _
  · refine distinct_mergeMembers ?_
    simpa using h

namespace Builder

variable {b b' : Builder} {stack : List Frame} {t : Token}

/-- A complete value is put where it belongs. -/
theorem sound_place {v : Json} (hv : Distinct v) (hstack : ∀ f ∈ stack, f.Sound) :
    (place v stack).Sound := by
  match stack with
  | [] => exact ⟨hstack, hv⟩
  | .arr items :: rest =>
    rw [List.forall_mem_cons] at hstack
    refine ⟨?_, trivial⟩
    rw [place, List.forall_mem_cons]
    exact ⟨List.forall_mem_cons.2 ⟨hv, hstack.1⟩, hstack.2⟩
  | .obj members key :: rest =>
    rw [List.forall_mem_cons] at hstack
    exact ⟨hstack.2, List.forall_mem_cons.2 ⟨hv, hstack.1⟩⟩

theorem sound_beginValue (ht : t.Plain) (hstack : ∀ f ∈ stack, f.Sound)
    (h : beginValue .message stack t = some b) : b.Sound := by
  unfold beginValue at h
  split at h
  · cases h
    exact sound_place (ht _ rfl) hstack
  · cases h
    exact sound_place (.raw _) hstack
  · split at h
    · cases h
      exact ⟨List.forall_mem_cons.2 ⟨by simp [Frame.Sound], hstack⟩, trivial⟩
    · cases h
  · split at h
    · cases h
      exact ⟨hstack, trivial⟩
    · cases h
  · cases h

theorem sound_closeArray (hstack : ∀ f ∈ stack, f.Sound) (h : closeArray stack = some b) :
    b.Sound := by
  unfold closeArray at h
  split at h
  · cases h
    rw [List.forall_mem_cons] at hstack
    refine sound_place (.arr _ ?_) hstack.2
    simpa [Frame.Sound] using hstack.1
  · cases h

theorem sound_beginMember {members : Members} (hmembers : ∀ m ∈ members.taken, Distinct m.2)
    (hstack : ∀ f ∈ stack, f.Sound) (h : beginMember stack members t = some b) : b.Sound := by
  unfold beginMember at h
  split at h
  all_goals cases h <;> exact ⟨hstack, hmembers⟩

/-- **One token** keeps the contents of the open containers sound. -/
theorem sound_step (hb : b.Sound) (ht : t.Plain) (h : step .message b t = some b') :
    b'.Sound := by
  obtain ⟨stack, expect⟩ := b
  obtain ⟨hstack, hexpect⟩ := hb
  have hempty : ∀ m ∈ Members.empty.taken, Distinct m.2 := by simp [Members.empty]
  unfold step at h
  dsimp only at h hstack hexpect
  split at h
  · exact sound_beginValue ht hstack h
  · exact sound_closeArray hstack h
  · exact sound_beginValue ht hstack h
  · cases h
    exact ⟨hstack, trivial⟩
  · exact sound_closeArray hstack h
  · cases h
    exact sound_place (Members.distinct_value hempty) hstack
  · exact sound_beginMember hempty hstack h
  · exact sound_beginMember hexpect hstack h
  · cases h
    exact ⟨List.forall_mem_cons.2 ⟨hexpect, hstack⟩, trivial⟩
  · cases h
    exact ⟨hstack, hexpect⟩
  · cases h
    exact sound_place (Members.distinct_value hexpect) hstack
  · cases h

end Builder

/-- **Different keys.** No object in a value that a message carries has a key twice. -/
theorem distinct_of_parse? {text : String} {v : Json} (h : parse? text = some v) :
    Distinct v := by
  obtain ⟨tokens, htokens, h⟩ := Option.bind_eq_some_iff.1 h
  obtain ⟨b, hb, h⟩ := Option.bind_eq_some_iff.1 h
  have hplain := Token.plain_of_scan? htokens
  have hsound : b.Sound := by
    refine of_foldlM ?_ (⟨by simp, trivial⟩ : Builder.Sound ⟨[], .value⟩) hb
    intro b t b' ht hbSound hstep
    exact Builder.sound_step hbSound (hplain t ht) hstep
  unfold Builder.result? at h
  split at h
  · rename_i v hexpect
    cases h
    have hv := hsound.expect
    rwa [hexpect] at hv
  · cases h

end Json

/-! ## Messages -/

namespace Rpc.Message

/-- What a message carries besides its method and its identifier. -/
def payload : Message → Json
  | .request _ params _ => params
  | .notify _ params => params
  | .reply result _ => result
  | .error e _ => e

theorem distinct_payload {v : Json} {m : Message} (hv : v.Distinct) (h : ofJson v = .ok m) :
    m.payload.Distinct := by
  unfold ofJson at h
  split at h
  · rename_i members
    dsimp only at h
    split at h
    · rw [Except.ok.injEq] at h
      split at h <;> rw [← h] <;> exact hv.lookup_getD "params"
    · cases h
    · split at h
      · rename_i e _ he
        cases h
        exact hv.lookup (Option.filter_eq_some_iff.1 he).1
      · rename_i result _ hresult
        cases h
        exact hv.lookup hresult
      · cases h
  · cases h

/-- No object in the payload of a message that came in a line has a key twice. -/
theorem distinct_of_line {line : String} {m : Message}
    (h : Client.lineMessage? line = some m) : m.payload.Distinct := by
  obtain ⟨v, hparse, hmessage⟩ := Option.bind_eq_some_iff.1 h
  cases hof : ofJson v with
  | error e =>
    rw [hof] at hmessage
    cases hmessage
  | ok _ =>
    rw [hof] at hmessage
    cases hmessage
    exact distinct_payload (Json.distinct_of_parse? hparse) hof

end Rpc.Message

end BufferTelemetry
