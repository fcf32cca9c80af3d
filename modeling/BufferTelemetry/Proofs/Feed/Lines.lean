import BufferTelemetry.Proofs.Feed.Batches
import BufferTelemetry.Proofs.Rpc.Replies

/-!
# What lines mean to a feed

The subscription of a feed is the first request on its connection, so it has the number zero. Of
the lines that are taken in, two kinds count: those that bring an update, as the reply to the
subscription or as an update notification, and those that reject the subscription. The others are
noise, whatever they are: lines that carry no message, requests, other notifications and replies
to other requests. They can be left out or put in anywhere (`updatesIn_filter`,
`rejectionIn_filter`), and dealing with the messages of lines is folding the updates in
(`payloads_handed`, `rejection?_handed`).
-/

namespace BufferTelemetry.Database.Feed

open Rpc Rpc.Client

/-- The update that a message brings: the result of a reply to the subscription, or the second
of two items of which the first is nothing, in an update notification. -/
def updateBy? : Message → Option Json
  | .reply result (.int 0) => some result
  | .notify "update" (.arr [.null, updates]) => some updates
  | _ => none

/-- What a message says that rejects the subscription. -/
def rejectionBy? : Message → Option Json
  | .error e (.int 0) => some e
  | _ => none

def updateOf? (line : String) : Option Json := (lineMessage? line).bind updateBy?

def rejectionOf? (line : String) : Option Json := (lineMessage? line).bind rejectionBy?

/-- The line brings an update or rejects the subscription. -/
def counts (line : String) : Bool := (updateOf? line).isSome || (rejectionOf? line).isSome

/-- The updates that lines bring, up to the first line that rejects the subscription. -/
def updatesIn (lines : List String) : List Json :=
  (lines.takeWhile fun line => (rejectionOf? line).isNone).filterMap updateOf?

/-- What the first line says that rejects the subscription. -/
def rejectionIn (lines : List String) : Option Json := lines.findSome? rejectionOf?

/-- Why a feed stops whose subscription is rejected. -/
def rejected (e : Json) : Error := .failure s!"monitor request rejected: {e.compress}"

section Noise

variable {line : String} {lines : List String}

theorem updatesIn_cons (line : String) (rest : List String) :
    updatesIn (line :: rest) =
      if (rejectionOf? line).isSome then [] else (updateOf? line).toList ++ updatesIn rest := by
  unfold updatesIn
  rw [List.takeWhile_cons]
  cases rejectionOf? line with
  | some e => rfl
  | none => cases hupdate : updateOf? line <;> simp [hupdate]

theorem updatesIn_append (lines more : List String) :
    updatesIn (lines ++ more) =
      updatesIn lines ++ if (rejectionIn lines).isSome then [] else updatesIn more := by
  induction lines with
  | nil => rfl
  | cons line rest ih =>
    rw [List.cons_append, updatesIn_cons, updatesIn_cons, rejectionIn, List.findSome?_cons]
    cases hline : rejectionOf? line with
    | some e => rfl
    | none =>
      rw [Option.isSome_none, if_neg Bool.false_ne_true, if_neg Bool.false_ne_true, ih,
        List.append_assoc]
      rfl

theorem rejectionIn_append (lines more : List String) :
    rejectionIn (lines ++ more) = (rejectionIn lines).or (rejectionIn more) :=
  List.findSome?_append

theorem of_counts_eq_false (h : counts line = false) :
    updateOf? line = none ∧ rejectionOf? line = none := by
  rw [counts, Bool.or_eq_false_iff] at h
  exact ⟨Option.isSome_eq_false_iff.1 h.1 |> Option.isNone_iff_eq_none.1,
    Option.isSome_eq_false_iff.1 h.2 |> Option.isNone_iff_eq_none.1⟩

/-- Only the lines that count bring updates. -/
theorem updatesIn_filter (lines : List String) :
    updatesIn (lines.filter counts) = updatesIn lines := by
  induction lines with
  | nil => rfl
  | cons line rest ih =>
    cases hcounts : counts line with
    | true => rw [List.filter_cons_of_pos hcounts, updatesIn_cons, updatesIn_cons, ih]
    | false =>
      obtain ⟨hupdate, hrejection⟩ := of_counts_eq_false hcounts
      rw [List.filter_cons_of_neg (by rw [hcounts]; exact Bool.false_ne_true), ih,
        updatesIn_cons, hupdate, hrejection]
      rfl

theorem rejectionIn_filter (lines : List String) :
    rejectionIn (lines.filter counts) = rejectionIn lines := by
  induction lines with
  | nil => rfl
  | cons line rest ih =>
    unfold rejectionIn at ih ⊢
    cases hcounts : counts line with
    | true => rw [List.filter_cons_of_pos hcounts, List.findSome?_cons, List.findSome?_cons, ih]
    | false =>
      rw [List.filter_cons_of_neg (by rw [hcounts]; exact Bool.false_ne_true), ih,
        List.findSome?_cons, (of_counts_eq_false hcounts).2]

end Noise

/-! ## Messages that are handed on -/

section Handed

variable {line : String}

/-- Another request is answered. -/
theorem updateBy?_reply_of_ne {result id : Json} (h : id ≠ .int 0) :
    updateBy? (.reply result id) = none := by
  unfold updateBy?
  split
  · rename_i heq
    cases heq
    exact absurd rfl h
  · rename_i heq
    cases heq
  · rfl

theorem rejectionBy?_error_of_ne {e id : Json} (h : id ≠ .int 0) :
    rejectionBy? (.error e id) = none := by
  unfold rejectionBy?
  split
  · rename_i heq
    cases heq
    exact absurd rfl h
  · rfl

theorem updateBy?_notify (method : String) (params : Json) :
    updateBy? (.notify method params) = if method = "update" then updatesOf? params else none := by
  unfold updateBy? updatesOf?
  split
  · rename_i heq
    cases heq
  · rename_i heq
    cases heq
    rfl
  · rename_i hreply hnotify
    split
    · rename_i hmethod
      subst hmethod
      split
      · rename_i updates
        exact absurd rfl (hnotify updates)
      · rfl
    · rfl

/-- What a message delivers is its update, unless it rejects the subscription. -/
theorem delivery_eq (m : Message) :
    delivery 0 m =
      match rejectionBy? m with
      | some e => .error (rejected e)
      | none => .ok (updateBy? m) := by
  have hzero : ∀ rid : Json, rid.word?.map UInt64.toNat = some 0 ↔ rid = .int 0 := by
    intro rid
    rw [word?_toNat_eq_some_iff]
    exact ⟨And.right, fun h => ⟨by decide, h⟩⟩
  cases m with
  | request method params id => rfl
  | notify method params =>
    show (if method = "update" then .ok (updatesOf? params) else .ok none) =
      (Except.ok (updateBy? (.notify method params)) : Except Error (Option Json))
    rw [updateBy?_notify]
    split <;> rfl
  | reply result id =>
    show (if id.word?.map UInt64.toNat = some 0 then .ok (some result) else .ok none) =
      (Except.ok (updateBy? (.reply result id)) : Except Error (Option Json))
    split
    · rename_i hid
      rw [(hzero id).1 hid]
      rfl
    · rename_i hid
      rw [updateBy?_reply_of_ne (mt (hzero id).2 hid)]
  | error e id =>
    show (if id.word?.map UInt64.toNat = some 0 then .error (rejected e) else .ok none :
      Except Error (Option Json)) = _
    split
    · rename_i hid
      rw [(hzero id).1 hid]
      rfl
    · rename_i hid
      rw [rejectionBy?_error_of_ne (mt (hzero id).2 hid)]
      rfl

/-- An echo request is noise. -/
theorem counts_of_unhanded (h : handed? line = none) : counts line = false := by
  unfold counts updateOf? rejectionOf?
  cases hline : lineMessage? line with
  | none => rfl
  | some m =>
    obtain ⟨reply, hreply⟩ := handed?_eq_none_iff.1 h m hline
    unfold echoReply? at hreply
    split at hreply
    · rfl
    · cases hreply

/-- Dealing with messages that are handed on is dealing with their lines. -/
theorem handed_eq (lines : List String) :
    rejection? 0 (lines.filterMap handed?) = (rejectionIn lines).map rejected ∧
      payloads 0 (lines.filterMap handed?) = updatesIn lines := by
  induction lines with
  | nil => exact ⟨rfl, rfl⟩
  | cons line rest ih =>
    obtain ⟨ihrejection, ihpayloads⟩ := ih
    rw [updatesIn_cons, rejectionIn, List.findSome?_cons]
    cases hhanded : handed? line with
    | none =>
      obtain ⟨hupdate, hrejection⟩ := of_counts_eq_false (counts_of_unhanded hhanded)
      rw [List.filterMap_cons_none hhanded, hupdate, hrejection]
      exact ⟨ihrejection, ihpayloads⟩
    | some m =>
      have hline := (handed?_eq_some_iff.1 hhanded).1
      have hdelivery := delivery_eq m
      rw [List.filterMap_cons_some hhanded, updateOf?, rejectionOf?, hline, Option.bind_some,
        Option.bind_some]
      cases hrejection : rejectionBy? m with
      | some e =>
        rw [hrejection] at hdelivery
        exact ⟨rejection?_cons_error hdelivery, payloads_cons_error hdelivery⟩
      | none =>
        rw [hrejection] at hdelivery
        refine ⟨(rejection?_cons_ok hdelivery).trans ihrejection, ?_⟩
        cases hupdate : updateBy? m with
        | none =>
          rw [hupdate] at hdelivery
          exact (payloads_cons_none hdelivery).trans ihpayloads
        | some u =>
          rw [hupdate] at hdelivery
          rw [payloads_cons_some hdelivery, ihpayloads]
          rfl

theorem rejection?_handed (lines : List String) :
    rejection? 0 (lines.filterMap handed?) = (rejectionIn lines).map rejected := (handed_eq lines).1

theorem payloads_handed (lines : List String) :
    payloads 0 (lines.filterMap handed?) = updatesIn lines := (handed_eq lines).2

end Handed

end BufferTelemetry.Database.Feed
