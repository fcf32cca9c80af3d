import BufferTelemetry.Proofs.Rpc.Emission
import BufferTelemetry.Proofs.Rpc.Looks

/-!
# Turns of a client

A transport `Traces` if its world keeps what passes between the agent and the server in the
order in which it happens: the lines that are written and the lines that are taken in. Every
transport can be made to do so (`Transport.traced`). What a client does is then a list of
turns, and each of its operations says which turns it takes. A look takes at most one line in,
and where the line is an echo request, its reply is written before anything else happens
(`turns_look`); so the turns of many looks are `exchanges`.
-/

namespace BufferTelemetry.Rpc

/-- A line that passes between the agent and the server. -/
inductive Crossing where
  | written (conn : ConnId) (line : String)
  | taken (conn : ConnId) (line : String)
  deriving DecidableEq, Repr

/-- The trace in a transport's world grows by the lines that pass, and only by them. -/
structure Transport.Traces {σ : Type} (t : Transport σ) (trace : σ → List Crossing) : Prop where
  connect : ∀ endpoint limit s, trace (t.connect endpoint limit s).2 = trace s
  send : ∀ conn line s, trace (t.send conn line s).2 = trace s ++
    match (t.send conn line s).1 with
    | .ok () => [.written conn line]
    | .error _ => []
  poll : ∀ conn s, trace (t.poll conn s).2 = trace s ++
    match (t.poll conn s).1 with
    | .line text => [.taken conn text]
    | _ => []
  settle : ∀ s, trace (t.settle s) = trace s

structure Traced (σ : Type) where
  world : σ
  trace : List Crossing

/-- The transport with a trace of what passes. -/
def Transport.traced {σ : Type} (t : Transport σ) : Transport (Traced σ) where
  connect endpoint limit w :=
    ((t.connect endpoint limit w.world).1, ⟨(t.connect endpoint limit w.world).2, w.trace⟩)
  send conn line w :=
    match t.send conn line w.world with
    | (.ok (), s) => (.ok (), ⟨s, w.trace ++ [.written conn line]⟩)
    | (.error e, s) => (.error e, ⟨s, w.trace⟩)
  poll conn w :=
    match t.poll conn w.world with
    | (.line text, s) => (.line text, ⟨s, w.trace ++ [.taken conn text]⟩)
    | (p, s) => (p, ⟨s, w.trace⟩)
  settle w := ⟨t.settle w.world, w.trace⟩
  patience conn w := t.patience conn w.world

theorem Transport.traced_traces {σ : Type} (t : Transport σ) : t.traced.Traces Traced.trace where
  connect _ _ _ := rfl
  send conn line w := by
    rcases hsend : t.send conn line w.world with ⟨_ | _, s⟩
    · simp only [traced, hsend, List.append_nil]
    · simp only [traced, hsend]
  poll conn w := by
    rcases hpoll : t.poll conn w.world with ⟨_ | _ | _ | _, s⟩
    · simp only [traced, hpoll]
    · simp only [traced, hpoll, List.append_nil]
    · simp only [traced, hpoll, List.append_nil]
    · simp only [traced, hpoll, List.append_nil]
  settle _ := rfl

/-- A turn of the agent: it writes a message, or takes a line in. -/
inductive Turn where
  | wrote (conn : ConnId) (m : Message)
  | took (conn : ConnId) (line : String)

/-- The line that passes in a turn. -/
def Turn.crossing : Turn → Crossing
  | .wrote conn m => .written conn m.line
  | .took conn line => .taken conn line

/-! ## What is heard -/

/-- The messages that are taken in. -/
def heard (turns : List Turn) : List Message :=
  turns.filterMap fun
    | .wrote .. => none
    | .took _ line => Client.lineMessage? line

theorem heard_append (turns more : List Turn) : heard (turns ++ more) = heard turns ++ heard more :=
  List.filterMap_append

/-- On a connection lines are taken in, and nothing but replies is written. -/
def Idle (conn : ConnId) (turns : List Turn) : Prop :=
  ∀ x ∈ turns, (∃ line, x = .took conn line) ∨ ∃ result id, x = .wrote conn (.reply result id)

theorem Idle.append {conn : ConnId} {turns more : List Turn} (h : Idle conn turns)
    (hmore : Idle conn more) : Idle conn (turns ++ more) := by
  intro x hx
  rcases List.mem_append.1 hx with hx | hx
  · exact h x hx
  · exact hmore x hx

theorem Idle.nil {conn : ConnId} : Idle conn [] := nofun

namespace Client

variable {σ : Type} {t : Transport σ} {trace : σ → List Crossing}

/-- What is echoed is a request, and the echo is a reply. -/
theorem of_echoReply? {m reply : Message} (h : echoReply? m = some reply) :
    m.replyId? = none ∧ ∃ result id, reply = .reply result id := by
  unfold echoReply? at h
  split at h
  · rename_i params id
    cases h
    exact ⟨rfl, params, id, rfl⟩
  · cases h

def traceOf (trace : σ → List Crossing) (w : Client × σ) : List Crossing := trace w.2

/-- The turns of an operation of a client. -/
abbrev Turns {α : Type} (trace : σ → List Crossing) (a : ClientAction σ α)
    (Q : Client × σ → Except Error α → Client × σ → List Turn → Prop) : Prop :=
  Action.Emits (traceOf trace) Turn.crossing a Q

/-- The message that a line brings to the caller: one that is no echo request. -/
def handed? (line : String) : Option Message :=
  (lineMessage? line).filter fun m => (echoReply? m).isNone

/-- The reply to a line, if it is an echo request. -/
def echoed? (line : String) : Option Message := (lineMessage? line).bind echoReply?

/-- The turns in which a line is taken in and, if it is an echo request, answered. -/
def exchange (conn : ConnId) (line : String) : List Turn :=
  .took conn line :: ((echoed? line).map (Turn.wrote conn)).toList

/-- The turns in which lines are taken in, each of them answered before the next. -/
def exchanges (conn : ConnId) (lines : List String) : List Turn := lines.flatMap (exchange conn)

section Exchanges

variable {conn : ConnId} {line : String}

theorem exchanges_append (conn : ConnId) (lines more : List String) :
    exchanges conn (lines ++ more) = exchanges conn lines ++ exchanges conn more :=
  List.flatMap_append

theorem heard_exchange (conn : ConnId) (line : String) :
    heard (exchange conn line) = (lineMessage? line).toList := by
  unfold exchange
  cases hline : lineMessage? line <;> cases echoed? line <;> simp [heard, hline]

theorem heard_exchanges (conn : ConnId) (lines : List String) :
    heard (exchanges conn lines) = lines.filterMap lineMessage? := by
  induction lines with
  | nil => rfl
  | cons line rest ih =>
    rw [← List.singleton_append, exchanges_append, heard_append, ih, List.filterMap_append]
    congr 1
    rw [exchanges, List.flatMap_singleton, heard_exchange]
    cases hline : lineMessage? line <;> simp [hline]

theorem of_echoed? {reply : Message} (h : echoed? line = some reply) :
    ∃ m, lineMessage? line = some m ∧ m.replyId? = none ∧
      ∃ result id, reply = .reply result id := by
  obtain ⟨m, hm, hecho⟩ := Option.bind_eq_some_iff.1 h
  exact ⟨m, hm, of_echoReply? hecho⟩

theorem idle_exchange (conn : ConnId) (line : String) : Idle conn (exchange conn line) := by
  intro x hx
  rcases List.mem_cons.1 hx with rfl | hx
  · exact .inl ⟨line, rfl⟩
  · obtain ⟨reply, hreply, rfl⟩ := Option.map_eq_some_iff.1 (Option.mem_toList.1 hx)
    obtain ⟨-, -, -, result, id, rfl⟩ := of_echoed? hreply
    exact .inr ⟨result, id, rfl⟩

theorem idle_exchanges (conn : ConnId) (lines : List String) :
    Idle conn (exchanges conn lines) := by
  intro x hx
  obtain ⟨line, -, hx⟩ := List.mem_flatMap.1 hx
  exact idle_exchange conn line x hx

/-- A line that brings its message to the caller asks for no reply. -/
theorem handed?_eq_some_iff {m : Message} :
    handed? line = some m ↔ lineMessage? line = some m ∧ echoReply? m = none := by
  rw [handed?, Option.filter_eq_some_iff, Option.isNone_iff_eq_none]

theorem handed?_eq_none_iff :
    handed? line = none ↔ ∀ m, lineMessage? line = some m → ∃ reply, echoReply? m = some reply := by
  rw [handed?, Option.filter_eq_none_iff]
  constructor
  · intro h m hm
    exact Option.ne_none_iff_exists'.1 fun hnone => h m hm (by rw [hnone]; rfl)
  · intro h m hm hnone
    obtain ⟨reply, hreply⟩ := h m hm
    rw [hreply] at hnone
    cases hnone

/-- What the client makes of a line. -/
def arrivalOf (line : String) : Arrival :=
  match handed? line with
  | some m => .message m
  | none => .handled

theorem arrivalOf_of_handed? {m : Message} (h : handed? line = some m) :
    arrivalOf line = .message m := by
  rw [arrivalOf, h]

theorem arrivalOf_of_unhanded (h : handed? line = none) : arrivalOf line = .handled := by
  rw [arrivalOf, h]

/-- An echo request is not handed on. -/
theorem handed?_eq_none_of_echoed? {reply : Message} (h : echoed? line = some reply) :
    handed? line = none := by
  rw [handed?_eq_none_iff]
  intro m hm
  rw [echoed?, hm, Option.bind_some] at h
  exact ⟨reply, h⟩

/-- A line is handed on or passed over, behind the reply if it is an echo request. -/
theorem run_accept_eq {σ : Type} (t : Transport σ) (line : String) (c : Client) (s : σ) :
    run (accept t line) c s =
      match echoed? line with
      | none => (.ok (arrivalOf line), c, s)
      | some reply =>
        match t.send c.conn reply.line s with
        | (.ok (), s) => (.ok (arrivalOf line), c, s)
        | (.error reason, s) => (.error (.transport reason), c, s) := by
  rw [run_accept]
  cases hecho : echoed? line with
  | some reply =>
    rw [arrivalOf_of_unhanded (handed?_eq_none_of_echoed? hecho)]
    obtain ⟨m, hm, hreply⟩ := Option.bind_eq_some_iff.1 hecho
    rcases hsend : t.send c.conn reply.line s with ⟨_ | _, s'⟩ <;> simp only [hm, hreply, hsend]
  | none =>
    cases hline : lineMessage? line with
    | none =>
      rw [arrivalOf, handed?, hline]
      rfl
    | some m =>
      have hreply : echoReply? m = none := by
        rw [← hecho, echoed?, hline, Option.bind_some]
      rw [arrivalOf_of_handed? (handed?_eq_some_iff.2 ⟨hline, hreply⟩)]
      simp only [hreply]

end Exchanges

/-- Lines are taken in and answered in turn; only the reply to the last of them can be missing. -/
def Exchanged (conn : ConnId) (lines : List String) (turns : List Turn) : Prop :=
  turns = exchanges conn lines ∨ ∃ reply, turns ++ [.wrote conn reply] = exchanges conn lines

namespace Exchanged

variable {conn : ConnId} {lines more : List String} {turns rest : List Turn}

/-- Lines that have been answered come before others. -/
theorem prepend (lines : List String) (h : Exchanged conn more rest) :
    Exchanged conn (lines ++ more) (exchanges conn lines ++ rest) := by
  rcases h with rfl | ⟨reply, h⟩
  · exact .inl (exchanges_append ..).symm
  · exact .inr ⟨reply, by rw [List.append_assoc, h, exchanges_append]⟩

theorem heard_eq (h : Exchanged conn lines turns) : heard turns = lines.filterMap lineMessage? := by
  rcases h with rfl | ⟨reply, h⟩
  · exact heard_exchanges conn lines
  · have hall := heard_exchanges conn lines
    rw [← h, heard_append] at hall
    rw [← hall]
    exact (List.append_nil _).symm

theorem idle (h : Exchanged conn lines turns) : Idle conn turns := by
  rcases h with rfl | ⟨reply, h⟩
  · exact idle_exchanges conn lines
  · intro x hx
    refine idle_exchanges conn lines x ?_
    rw [← h]
    exact List.mem_append_left _ hx

end Exchanged

/-! ## Looks -/

/-- What a look brings, with the line that it takes in and the turns that it takes. The
connection can fail before there is a line, or when a line is answered. -/
inductive Brings (conn : ConnId) : Look → List String → List Turn → Prop
  | message {line : String} {m : Message} : handed? line = some m →
      Brings conn (.ok (.message m)) [line] (exchanges conn [line])
  | handled {line : String} : handed? line = none →
      Brings conn (.ok .handled) [line] (exchanges conn [line])
  | nothing : Brings conn (.ok .nothing) [] []
  | ended : Brings conn (.ok .ended) [] []
  | failed (reason : String) : Brings conn (.error (.transport reason)) [] []
  | unanswered {line : String} {reply : Message} (reason : String) : echoed? line = some reply →
      Brings conn (.error (.transport reason)) [line] [.took conn line]

section Brings

variable {conn : ConnId} {look : Look} {lines : List String} {turns : List Turn}

theorem Brings.arrival (conn : ConnId) (line : String) :
    Brings conn (.ok (arrivalOf line)) [line] (exchanges conn [line]) := by
  cases hhanded : handed? line with
  | some m =>
    rw [arrivalOf_of_handed? hhanded]
    exact .message hhanded
  | none =>
    rw [arrivalOf_of_unhanded hhanded]
    exact .handled hhanded

theorem Brings.exchanged (h : Brings conn look lines turns) : Exchanged conn lines turns := by
  cases h with
  | message | handled | nothing | ended | failed => exact .inl rfl
  | @unanswered line reply reason hecho =>
    refine .inr ⟨reply, ?_⟩
    simp only [exchanges, List.flatMap_singleton, exchange, hecho, Option.map_some,
      Option.toList_some, List.singleton_append]

/-- Only a look that fails can leave a line without its reply. -/
theorem Brings.eq_exchanges {arrival : Arrival} (h : Brings conn (.ok arrival) lines turns) :
    turns = exchanges conn lines := by
  cases h <;> rfl

end Brings

/-- The turns in which a line is dealt with, behind the one in which it is taken in. -/
theorem turns_accept (ht : t.Traces trace) (line : String) :
    Turns trace (accept t line) fun w result w' turns =>
      w'.1 = w.1 ∧ Brings w.1.conn result [line] (.took w.1.conn line :: turns) := by
  intro (c, s)
  have haccept := run_accept_eq t line c s
  unfold run at haccept
  rw [haccept]
  have hbrings := Brings.arrival c.conn line
  rw [exchanges, List.flatMap_singleton, exchange] at hbrings
  cases hecho : echoed? line with
  | none =>
    rw [hecho] at hbrings
    exact ⟨[], (List.append_nil _).symm, rfl, hbrings⟩
  | some reply =>
    rw [hecho] at hbrings
    have hgrows := ht.send c.conn reply.line s
    dsimp only
    rcases heq : t.send c.conn reply.line s with ⟨reason | _, s'⟩
    · rw [heq] at hgrows
      exact ⟨[], hgrows, rfl, .unanswered reason hecho⟩
    · rw [heq] at hgrows
      exact ⟨[.wrote c.conn reply], hgrows, rfl, hbrings⟩

/-- **A look** takes at most one line in, and may write the reply to it. -/
theorem turns_look (ht : t.Traces trace) :
    Turns trace (look t) fun w result w' turns =>
      w'.1 = w.1 ∧ ∃ lines, Brings w.1.conn result lines turns := by
  intro (c, s)
  have hpoll := ht.poll c.conn s
  have hlook := run_look t c s
  unfold run at hlook
  rw [hlook]
  rcases heq : t.poll c.conn s with ⟨text | _ | _ | e, s'⟩
  · rw [heq] at hpoll
    obtain ⟨turns, hturns, hclient, hbrings⟩ := turns_accept ht text (c, s')
    refine ⟨.took c.conn text :: turns, ?_, hclient, _, hbrings⟩
    show trace (accept t text (c, s')).2.2 = _
    have hbefore : trace s' = trace s ++ [.taken c.conn text] := hpoll
    have hafter : trace (accept t text (c, s')).2.2 = trace s' ++ turns.map Turn.crossing :=
      hturns
    rw [hafter, hbefore, List.append_assoc]
    rfl
  · rw [heq] at hpoll
    exact ⟨[], hpoll, rfl, [], .nothing⟩
  · rw [heq] at hpoll
    exact ⟨[], hpoll, rfl, [], .ended⟩
  · rw [heq] at hpoll
    exact ⟨[], hpoll, rfl, [], .failed e.message⟩

end Client

end BufferTelemetry.Rpc
