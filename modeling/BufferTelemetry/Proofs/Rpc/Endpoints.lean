import BufferTelemetry.Proofs.Text.Decimal
import BufferTelemetry.Rpc.Endpoint

/-!
# Texts of endpoints

Which texts are read as an endpoint, and as which one, is a relation beside the reader
(`Endpoint.Spells`), with a constructor for each of the three forms:

* a path behind `unix:`, which is kept as it stands;
* a host and a port behind `tcp:`, with the last colon between them;
* a path that starts at the root, by itself.

The reader accepts exactly these (`Endpoint.ofString?_eq_ok_iff`). What it accepted is read again
from its written form, which is the text itself for the first two forms, and for a bare path the
text behind `unix:` (`Endpoint.endpoint_texts`).
-/

namespace BufferTelemetry.Rpc.Endpoint

open Text

/-- The text stands for the endpoint. -/
inductive Spells : String → Endpoint → Prop
  /-- What is behind `unix:` is a path, whatever it looks like. -/
  | path {p : String} : p ≠ "" → Spells ("unix:" ++ p) (.unix p)
  /-- The port is a decimal numeral of sixteen bits, and the host may have colons of its own. -/
  | address {host port : String} {n : Nat} : host ≠ "" → ':' ∉ port.toList →
      Numeral.Denotes port n → n < UInt16.size →
      Spells ("tcp:" ++ (host ++ ":" ++ port)) (.tcp (host ++ ":" ++ port))
  /-- A path from the root needs nothing in front. -/
  | bare {p : String} : Spells ("/" ++ p) (.unix ("/" ++ p))

/-! ## Hosts and ports -/

theorem isAddress_iff {s : List Char} :
    isAddress s = true ↔ ∃ host port : String, ∃ n, host ≠ "" ∧ ':' ∉ port.toList ∧
      Numeral.Denotes port n ∧ n < UInt16.size ∧ s = (host ++ ":" ++ port).toList := by
  have hport : ∀ back : List Char, (Numeral.read? 10 UInt16.size back).isSome = true ↔
      ∃ n, Numeral.Denotes (String.ofList back) n ∧ n < UInt16.size := by
    intro back
    rw [Option.isSome_iff_exists]
    refine exists_congr fun n => ?_
    rw [← Numeral.decimal?_eq_some_iff, Numeral.decimal?, String.toList_ofList]
  unfold isAddress
  constructor
  · intro h
    split at h
    · rename_i front back hcut
      obtain ⟨hsplit, hback⟩ := cutLast?_eq_some_iff.1 hcut
      rw [Bool.and_eq_true] at h
      obtain ⟨n, hn, hlt⟩ := (hport back).1 h.2
      refine ⟨String.ofList front, String.ofList back, n, ?_, by simpa using hback, hn, hlt, ?_⟩
      · rintro hnil
        have hfront : front = [] := by simpa using hnil
        rw [hfront] at h
        simp at h
      · simp [hsplit]
    · cases h
  · rintro ⟨host, port, n, hhost, hcolon, hn, hlt, rfl⟩
    have hcut : cutLast? ':' (host ++ ":" ++ port).toList = some (host.toList, port.toList) := by
      rw [cutLast?_eq_some_iff]
      exact ⟨by simp, hcolon⟩
    rw [hcut]
    simp only [Bool.and_eq_true]
    refine ⟨by simpa using hhost, (hport port.toList).2 ⟨n, ?_, hlt⟩⟩
    rwa [String.ofList_toList]

/-! ## Reading -/

theorem after?_toList_iff {start s : String} {rest : List Char} :
    after? start.toList s.toList = some rest ↔ s = start ++ String.ofList rest := by
  rw [after?_eq_some_iff, ← String.toList_inj, String.toList_append, String.toList_ofList]

theorem head?_bare (p : String) : ("/" ++ p).toList.head? = some '/' := by
  rw [String.toList_append]
  rfl

theorem spells_of_ofString? {s : String} {e : Endpoint} (h : ofString? s = .ok e) :
    Spells s e := by
  unfold ofString? at h
  split at h
  · rename_i path hpath
    rw [after?_toList_iff] at hpath
    split at h
    · cases h
    · rename_i hne
      cases h
      rw [hpath]
      refine .path fun hempty => hne ?_
      have hnil : path = [] := by simpa using hempty
      rw [hnil]
      rfl
  · split at h
    · rename_i address haddress
      rw [after?_toList_iff] at haddress
      split at h
      · rename_i hport
        cases h
        obtain ⟨host, port, n, hhost, hcolon, hn, hlt, rfl⟩ := isAddress_iff.1 hport
        rw [haddress, String.ofList_toList]
        exact .address hhost hcolon hn hlt
      · cases h
    · split at h
      · rename_i hroot
        cases h
        obtain ⟨rest, hrest⟩ := List.head?_eq_some_iff.1 hroot
        have hs : s = "/" ++ String.ofList rest := by
          rw [← String.toList_inj, hrest]
          simp
        rw [hs]
        exact .bare
      · cases h

theorem ofString?_of_spells {s : String} {e : Endpoint} (h : Spells s e) : ofString? s = .ok e := by
  unfold ofString?
  cases h with
  | @path p hne =>
    have hpath : after? "unix:".toList ("unix:" ++ p).toList = some p.toList := by
      rw [after?_toList_iff, String.ofList_toList]
    rw [hpath]
    simp [hne]
  | @address host port n hhost hcolon hn hlt =>
    have hunix : after? "unix:".toList ("tcp:" ++ (host ++ ":" ++ port)).toList = none := by
      rw [String.toList_append]
      rfl
    have htcp : after? "tcp:".toList ("tcp:" ++ (host ++ ":" ++ port)).toList =
        some (host ++ ":" ++ port).toList := by
      rw [after?_toList_iff, String.ofList_toList]
    have haddress : isAddress (host ++ ":" ++ port).toList = true :=
      isAddress_iff.2 ⟨host, port, n, hhost, hcolon, hn, hlt, rfl⟩
    rw [hunix, htcp]
    simp only [haddress, if_true, String.ofList_toList]
  | @bare p =>
    have hunix : after? "unix:".toList ("/" ++ p).toList = none := by
      rw [String.toList_append]
      rfl
    have htcp : after? "tcp:".toList ("/" ++ p).toList = none := by
      rw [String.toList_append]
      rfl
    rw [hunix, htcp]
    simp only [head?_bare, if_true]

/-- **Texts.** A text is read as an endpoint exactly if it spells it. -/
theorem ofString?_eq_ok_iff {s : String} {e : Endpoint} : ofString? s = .ok e ↔ Spells s e :=
  ⟨spells_of_ofString?, ofString?_of_spells⟩

theorem ofString?_cases (s : String) : (∃ e, ofString? s = .ok e) ∨
    ∃ message, ofString? s = .error (.invalidParameter message) := by
  unfold ofString?
  split
  · split
    · exact .inr ⟨_, rfl⟩
    · exact .inl ⟨_, rfl⟩
  · split
    · split
      · exact .inl ⟨_, rfl⟩
      · exact .inr ⟨_, rfl⟩
    · split
      · exact .inl ⟨_, rfl⟩
      · exact .inr ⟨_, rfl⟩

/-! ## Written forms -/

theorem toString_unix (p : String) : (unix p).toString = "unix:" ++ p := rfl

theorem toString_tcp (a : String) : (tcp a).toString = "tcp:" ++ a := rfl

/-- An endpoint that is read is spelled by its written form, if by another rule for a bare path. -/
theorem Spells.written {s : String} {e : Endpoint} (h : Spells s e) : Spells e.toString e := by
  cases h with
  | path hne =>
    rw [toString_unix]
    exact .path hne
  | address hhost hcolon hn hlt =>
    rw [toString_tcp]
    exact .address hhost hcolon hn hlt
  | bare =>
    rw [toString_unix]
    exact .path (by simp)

/-- The written form differs from the text only for a bare path. -/
theorem Spells.toString_eq {s : String} {e : Endpoint} (h : Spells s e) :
    e.toString = if s.toList.head? = some '/' then "unix:" ++ s else s := by
  cases h with
  | path =>
    rw [toString_unix, String.toList_append]
    exact (if_neg (by simp)).symm
  | address =>
    rw [toString_tcp, String.toList_append]
    exact (if_neg (by simp)).symm
  | @bare p => rw [toString_unix, if_pos (head?_bare p)]

/-- **Endpoints.** A text is read as an endpoint exactly if it is `unix:` and a path that is not
empty, `tcp:` and a host that is not empty, a colon, which is the last one, and a numeral of
sixteen bits, or a path from the root; any other is an invalid parameter. What was read is read
again from its written form, which is the text itself or, for a path from the root, `unix:` and
the text. -/
theorem endpoint_texts (s : String) :
    (∀ e, ofString? s = .ok e ↔ Spells s e) ∧
    ((∃ message, ofString? s = .error (.invalidParameter message)) ↔ ∀ e, ¬ Spells s e) ∧
    ∀ e, ofString? s = .ok e → ofString? e.toString = .ok e ∧
      e.toString = if s.toList.head? = some '/' then "unix:" ++ s else s := by
  refine ⟨fun e => ofString?_eq_ok_iff, ?_, ?_⟩
  · constructor
    · rintro ⟨message, herror⟩ e hspells
      rw [ofString?_of_spells hspells] at herror
      cases herror
    · intro hnone
      rcases ofString?_cases s with ⟨e, he⟩ | herror
      · exact absurd (spells_of_ofString? he) (hnone e)
      · exact herror
  · intro e he
    have hspells : Spells s e := spells_of_ofString? he
    exact ⟨ofString?_of_spells hspells.written, hspells.toString_eq⟩

/-- A bare path gets `unix:` in front, and is then read by the rule for paths behind it. -/
theorem endpoint_texts_bare :
    ofString? "/var/run/db.sock" = .ok (.unix "/var/run/db.sock") ∧
      ofString? "unix:/var/run/db.sock" = .ok (.unix "/var/run/db.sock") := by
  have hread : ofString? "/var/run/db.sock" = .ok (.unix "/var/run/db.sock") := rfl
  obtain ⟨hagain, -⟩ := (endpoint_texts "/var/run/db.sock").2.2 _ hread
  exact ⟨hread, hagain⟩

-- a host may have colons, and a port a sign and zeros, but the last colon decides
example : ofString? "tcp:[::1]:+06640" = .ok (.tcp "[::1]:+06640") ∧
    ofString? "tcp::6640" = .error (.invalidParameter "bad tcp endpoint tcp::6640") ∧
    ofString? "tcp:host:65536" = .error (.invalidParameter "bad tcp endpoint tcp:host:65536") :=
  ⟨rfl, rfl, rfl⟩

end BufferTelemetry.Rpc.Endpoint
