import Courier.Proofs.Envelope.Inbound
import Courier.Proofs.Session.Records
import Mathlib.Data.List.Basic

/-! What becomes of the texts that a session hears. Each is answered on the connection that it came from,
before the next one, and passed on to subscribers if its type is one of those that they see. A text
that arrives while no connection is open leads to nothing, and a connection is not read any more once
the next attempt has begun. -/

namespace Courier.Session

/-- What a text is answered with: an acknowledgement if it carries an identifier, then a pong if it is a
ping. -/
def repliesTo (env : Surroundings) (payload : String) : List Outbound :=
  match Inbound.parse? payload with
  | none => []
  | some inbound =>
    (inbound.messageId.map (Outbound.ack env.moment.wall env.seed)).toList ++
      if inbound.kind = "ping" then [.pong env.moment.wall (env.seed + 1)] else []

def messageIn? (payload : String) : Option Message := do
  let inbound ← Inbound.parse? payload
  let kind ← MessageKind.ofName? inbound.kind
  return ⟨kind, inbound.data.getD .null, inbound.messageId⟩

structure Acknowledges (id : String) (o : Outbound) : Prop where
  kind : o.kind = "ack"
  data : o.data = .object [("message_id", .string id)]

/-- Whether messages are what a text ought to be answered with, in order. -/
inductive Answers (payload : String) : List Outbound → Prop where
  | unread : Inbound.parse? payload = none → Answers payload []
  | read {inbound acks pongs} : Inbound.parse? payload = some inbound →
      List.Forall₂ Acknowledges inbound.messageId.toList acks →
      pongs.map Outbound.kind = (if inbound.kind = "ping" then ["pong"] else []) → Answers payload (acks ++ pongs)

def seenTypes : List (String × MessageKind) :=
  [("order_status", .orderStatus), ("rider_location", .riderLocation), ("notification", .notification),
    ("chat_message", .chatMessage), ("subscribed", .subscribed), ("unsubscribed", .unsubscribed),
    ("pong", .pong), ("error", .error)]

def Event.message? : Event → Option Message
  | message m => some m
  | _ => none

def messages (effects : List Effect) : List Message := (emitted effects).filterMap Event.message?

def Input.text? : Input → Option String
  | received (.text payload) => some payload
  | _ => none

def State.reads? (s : State) : Option Nat :=
  match s.mode with
  | .ready => s.socket
  | .draining socket _ _ => some socket
  | .stopped => none

/-- The text that a step hears, and the open connection that it came from. -/
def Record.heard? (r : Record) : Option (Nat × String) := do
  let k ← r.state.connection?
  let payload ← r.input.text?
  return (k, payload)

def Record.repliesOn (k : Nat) (r : Record) : List Frame :=
  match r.heard? with
  | some (j, payload) => if j = k then (repliesTo r.env payload).flatMap (handed r.env) else []
  | none => []

def Record.isText (r : Record) : Bool := r.input.text?.isSome

structure Dispatches (cfg : Config) (run : List (Surroundings × Input)) : Prop where
  /-- A text that is an object is read by its members. -/
  reads : ∀ {payload ts ms}, Json.Tree.parse payload = some (.object ts) →
    Json.membersToValues? 126 ts = some ms →
    (∀ name ∈ ["type", "data", "message_id"], Json.StandsOnce ms name) →
    ∀ inbound, Inbound.parse? payload = some inbound ↔ inbound.Says ms
  answers : ∀ env payload, Answers payload (repliesTo env payload)
  seen : ∀ payload m, messageIn? payload = some m ↔ ∃ inbound, Inbound.parse? payload = some inbound ∧
    (inbound.kind, m.kind) ∈ seenTypes ∧ m.data = inbound.data.getD .null ∧ m.messageId = inbound.messageId
  /-- The frames that texts lead to are the replies to those heard on the same connection, in order. -/
  replies (k : Nat) :
    framesTo k (((State.initial.records cfg run).filter (·.isText)).flatMap (·.effects)) =
      (State.initial.records cfg run).flatMap (·.repliesOn k)
  messages : messages (State.initial.trace cfg run) =
    (State.initial.records cfg run).filterMap fun r => r.heard?.bind fun heard => messageIn? heard.2
  /-- A text that arrives while no connection is open has no effect. -/
  unheard : ∀ r ∈ State.initial.records cfg run, r.isText = true → r.heard? = none → r.effects = []
  /-- From the next attempt on nothing is read from a connection, or written to it. -/
  superseded (past : List (Surroundings × Input)) (i : Surroundings × Input)
      (rest : List (Surroundings × Input)) (k : Nat) (url : String) (attempt : Nat) :
    run = past ++ i :: rest → .dial k url ∈ State.initial.trace cfg past →
    .emit (.connecting attempt) ∈ ((State.initial.after cfg past).step cfg i.1 i.2).effects →
    ∀ r ∈ (State.initial.after cfg (past ++ [i])).records cfg rest,
      r.state.reads? ≠ some k ∧ framesTo k r.effects = []

variable {cfg : Config} {env : Surroundings} {s s' : State} {input : Input} {es : List Effect}
  {payload : String} {k : Nat}

theorem ofName?_eq_some {name : String} {kind : MessageKind} :
    MessageKind.ofName? name = some kind ↔ (name, kind) ∈ seenTypes := by
  have hname : MessageKind.ofName? name = some kind ↔ name = kind.wireName := by
    constructor
    · intro h
      unfold MessageKind.ofName? at h
      have hfound := List.find?_some h
      exact (beq_iff_eq.mp hfound).symm
    · rintro rfl
      exact MessageKind.ofName?_wireName kind
  rw [hname]
  cases kind <;> simp [seenTypes, MessageKind.wireName]

/-- Subscribers see a text if its type is one of those. -/
theorem messageIn?_eq_some {m : Message} :
    messageIn? payload = some m ↔ ∃ inbound, Inbound.parse? payload = some inbound ∧
      (inbound.kind, m.kind) ∈ seenTypes ∧ m.data = inbound.data.getD .null ∧ m.messageId = inbound.messageId := by
  simp only [messageIn?, Option.bind_eq_bind, Option.bind_eq_some_iff, Option.pure_def, Option.some.injEq]
  constructor
  · rintro ⟨inbound, hparse, kind, hkind, rfl⟩
    exact ⟨inbound, hparse, ofName?_eq_some.mp hkind, rfl, rfl⟩
  · rintro ⟨inbound, hparse, hkind, hdata, hid⟩
    refine ⟨inbound, hparse, m.kind, ofName?_eq_some.mpr hkind, ?_⟩
    rw [← hdata, ← hid]

theorem answers_repliesTo (env : Surroundings) (payload : String) : Answers payload (repliesTo env payload) := by
  unfold repliesTo
  cases hparse : Inbound.parse? payload with
  | none => exact .unread hparse
  | some inbound =>
    refine .read hparse ?_ ?_
    · rw [Option.toList_map, List.forall₂_map_right_iff, List.forall₂_same]
      intro id _
      exact ⟨rfl, rfl⟩
    · split <;> rfl

/-- A text leads to its replies, and then to what subscribers see of it. Of a ping that is nothing. -/
theorem dispatched_eq (env : Surroundings) (socket : Option Nat) (payload : String) :
    dispatched env socket payload = (repliesTo env payload).flatMap (written env socket) ++
      (messageIn? payload).toList.map fun m => .emit (.message m) := by
  unfold dispatched repliesTo messageIn?
  cases Inbound.parse? payload with
  | none => rfl
  | some inbound =>
    obtain ⟨kind, data, messageId⟩ := inbound
    have hping : MessageKind.ofName? "ping" = none := by decide
    by_cases hkind : kind = "ping"
    · cases messageId <;> simp [hkind, hping]
    · cases hname : MessageKind.ofName? kind <;> cases messageId <;> simp [hkind, hname]

theorem framesTo_flatMap {α : Type} (k : Nat) (l : List α) (f : α → List Effect) :
    framesTo k (l.flatMap f) = l.flatMap fun a => framesTo k (f a) := List.filterMap_flatMap

theorem framesTo_dispatched (k : Nat) (env : Surroundings) (socket : Option Nat) (payload : String) :
    framesTo k (dispatched env socket payload) =
      if socket = some k then (repliesTo env payload).flatMap (handed env) else [] := by
  have hseen : framesTo k ((messageIn? payload).toList.map fun m => .emit (.message m)) = [] := by
    cases messageIn? payload <;> rfl
  rw [dispatched_eq, framesTo_append, framesTo_flatMap, hseen, List.append_nil]
  by_cases hk : socket = some k <;> simp [hk]

@[simp] theorem messages_append (a b : List Effect) : messages (a ++ b) = messages a ++ messages b := by
  simp [messages]

@[simp] theorem messages_nil : messages [] = [] := rfl

@[simp] theorem messages_cons (e : Effect) (es : List Effect) :
    messages (e :: es) = (e.event?.bind Event.message?).toList ++ messages es := by
  rw [messages, emitted_cons, List.filterMap_append, ← messages]
  cases e with
  | emit event => cases event <;> rfl
  | _ => rfl

theorem messages_of_silent (h : emitted es = []) : messages es = [] := by
  rw [messages, h]
  rfl

theorem messages_dispatched (env : Surroundings) (socket : Option Nat) (payload : String) :
    messages (dispatched env socket payload) = (messageIn? payload).toList := by
  have hsilent : emitted ((repliesTo env payload).flatMap (written env socket)) = [] := by
    rw [emitted, List.filterMap_flatMap, List.flatMap_eq_nil_iff]
    intro o _
    apply emitted_written
  rw [dispatched_eq, messages_append, messages_of_silent hsilent]
  cases messageIn? payload <;> rfl

theorem Begun.messages {result : Outcome Unit} (h : Begun cfg env s result s' es) :
    Session.messages es = [] := by
  cases h <;> rfl

theorem Lost.messages {code : Option Nat} {reason : String} (h : Lost cfg env code reason s s' es) :
    Session.messages es = [] := by
  cases h <;> rfl

@[simp] theorem messages_farewell (wasActive : Bool) : messages (farewell wasActive) = [] := by
  cases wasActive <;> rfl

/-- Subscribers see messages of texts only. -/
theorem Move.messages (h : Move cfg env s input s' es) (hno : input.text? = none) :
    Session.messages es = [] := by
  cases h with
  | text _ _ | drainText _ => cases hno
  | connect _ _ _ hb | reconnect _ _ _ _ _ hb | reopen _ _ hb =>
    simp [hb.messages, messages_of_silent, Event.message?]
  | refused _ _ hl | lost _ _ hl | failed _ _ hl => simp [hl.messages, Event.message?]
  | close _ _ | settle _ _ => simp [messages_of_silent]
  | opened _ _ _ => simp [Event.message?]
  | _ => exact messages_of_silent (by simp)

theorem State.connection?_eq_some :
    s.connection? = some k ↔ s.mode = .ready ∧ s.phase = .open ∧ s.socket = some k := by
  unfold State.connection?
  cases s.mode <;> simp

theorem Sound.connection? (hs : Sound s) (hm : s.mode = .ready) : s.connection? = s.socket := by
  simp only [Sound, hm] at hs
  unfold State.connection?
  simp only [hm]
  by_cases hopen : s.phase = .open
  · simp [hopen]
  · have hsocket : s.socket = none := by simpa [hopen] using hs.open_iff
    simp [hopen, hsocket]

/-- A text has an effect only where a connection is open. -/
theorem Move.of_text (h : Move cfg env s (.received (.text payload)) s' es) (hs : Sound s) :
    (∃ k, s.connection? = some k ∧ es = dispatched env (some k) payload) ∨
      s.connection? = none ∧ es = [] := by
  cases h with
  | text hm hk => exact .inl ⟨_, by rw [hs.connection? hm, hk], rfl⟩
  | drainText hm => exact .inr ⟨by simp [State.connection?, hm], rfl⟩
  | reopen _ hend _ | settle _ hend | shutDown _ hend => cases hend
  | skip hno =>
    refine .inr ⟨?_, rfl⟩
    rw [Option.eq_none_iff_forall_ne_some]
    intro k hk
    obtain ⟨hm, -, hsocket⟩ := State.connection?_eq_some.mp hk
    apply hno
    simp [State.Accepts, hm, hsocket]

theorem Input.text?_eq_some : input.text? = some payload ↔ input = .received (.text payload) := by
  cases input with
  | received e => cases e <;> simp [Input.text?]
  | _ => simp [Input.text?]

variable {r : Record} {run : List (Surroundings × Input)}

theorem framesTo_of_text (hr : r ∈ State.initial.records cfg run) (htext : r.isText = true) (k : Nat) :
    framesTo k r.effects = r.repliesOn k := by
  obtain ⟨hs, s', hmove⟩ := records_move hr
  obtain ⟨payload, hpayload⟩ := Option.isSome_iff_exists.mp htext
  have hinput := Input.text?_eq_some.mp hpayload
  rw [hinput] at hmove
  rcases hmove.of_text hs with ⟨j, hj, heq⟩ | ⟨hj, heq⟩
  · simp [Record.repliesOn, Record.heard?, hj, hpayload, heq, framesTo_dispatched]
  · simp [Record.repliesOn, Record.heard?, hj, heq]

theorem repliesOn_of_no_text (htext : r.isText = false) (k : Nat) : r.repliesOn k = [] := by
  have hpayload : r.input.text? = none := by simpa [Record.isText] using htext
  simp [Record.repliesOn, Record.heard?, hpayload]

theorem messages_record (hr : r ∈ State.initial.records cfg run) :
    messages r.effects = (r.heard?.bind fun heard => messageIn? heard.2).toList := by
  obtain ⟨hs, s', hmove⟩ := records_move hr
  cases hpayload : r.input.text? with
  | none => simp [hmove.messages hpayload, Record.heard?, hpayload]
  | some payload =>
    rw [Input.text?_eq_some.mp hpayload] at hmove
    rcases hmove.of_text hs with ⟨j, hj, heq⟩ | ⟨hj, heq⟩
    · simp [Record.heard?, hj, hpayload, heq, messages_dispatched]
    · simp [Record.heard?, hj, heq]

theorem Alternates.newest {es : List Effect} {out : List Nat} {n k : Nat} (h : Alternates es out n)
    (hk : k ∈ out) : k + 1 = n := by
  cases h with
  | nil | release _ => cases hk
  | dial _ _ => rw [List.mem_singleton.mp hk]

theorem State.mem_held (h : s.reads? = some k) : k ∈ s.held := by
  unfold State.reads? at h
  unfold State.held
  cases hm : s.mode <;> simp_all [Mode.drained]

/-- A session writes only to the socket that it holds. -/
theorem Move.framesTo_eq_nil (h : Move cfg env s input s' es) (hno : s.socket ≠ some k) :
    framesTo k es = [] := by
  cases h with
  | connect _ _ _ hb | reconnect _ _ _ _ _ hb | reopen _ _ hb => simp [hb.framesTo, Effect.frameTo?]
  | refused _ _ hl | lost _ _ hl | failed _ _ hl => simp [hl.framesTo, Effect.frameTo?]
  | replace _ _ hk | closeDrain _ hk | reconnectDrain _ _ _ _ hk | leaveDrain _ hk =>
    rw [hk] at hno
    simp_all [Effect.frameTo?]
  | send _ _ hk | text _ hk =>
    rw [hk] at hno
    simp [framesTo_dispatched, hno]
  | ping _ _ _ _ => simp [hno]
  | _ => simp [Effect.frameTo?]

theorem Begun.connecting {attempt : Nat} {result : Outcome Unit} (h : Begun cfg env s result s' es)
    (hc : .connecting attempt ∈ emitted es) : s'.dialed = s.dialed + 1 := by
  cases h with
  | failed _ => simp at hc
  | dialing _ => rfl

/-- An attempt that is reported has a number of its own. -/
theorem Move.connecting {attempt : Nat} (h : Move cfg env s input s' es)
    (hc : .connecting attempt ∈ emitted es) : s'.dialed = s.dialed + 1 := by
  cases h with
  | connect _ _ _ hb | reconnect _ _ _ _ _ hb | reopen _ _ hb =>
    apply hb.connecting
    simpa using hc
  | text _ _ =>
    obtain ⟨m, hm⟩ := message_of_mem_dispatched hc
    cases hm
  | refused _ _ hl | lost _ _ hl | failed _ _ hl => cases hl <;> simp at hc
  | close _ _ | settle _ _ => simp [not_mem_emitted_farewell] at hc
  | _ => simp at hc

theorem dialed_le_after (cfg : Config) (s : State) (run : List (Surroundings × Input)) :
    s.dialed ≤ (s.after cfg run).dialed := by
  induction run generalizing s with
  | nil => exact Nat.le_refl _
  | cons i run ih =>
    have hfirst := (s.step_move cfg i.1 i.2).kept.1
    apply Nat.le_trans hfirst
    apply ih

theorem dial_lt {url : String} (h : .dial k url ∈ State.initial.trace cfg run) :
    k < (State.initial.after cfg run).dialed := by
  have hrange := (alternates_after cfg run).dialed
  have hk : k ∈ (transfers (State.initial.trace cfg run)).filterMap Effect.dialed? :=
    List.mem_filterMap.mpr ⟨_, mem_transfers.mpr ⟨h, rfl⟩, rfl⟩
  rw [hrange] at hk
  exact List.mem_range.mp hk

/-- Once the next attempt is reported, a socket that was dialed before is not out any more. -/
theorem not_held_after {past rest : List (Surroundings × Input)} {i : Surroundings × Input} {url : String}
    {attempt : Nat} (hdial : .dial k url ∈ State.initial.trace cfg past)
    (hconn : .emit (.connecting attempt) ∈ ((State.initial.after cfg past).step cfg i.1 i.2).effects) :
    k ∉ (State.initial.after cfg (past ++ i :: rest)).held := by
  intro hheld
  have hlast := (alternates_after cfg (past ++ i :: rest)).newest hheld
  have hmove := (State.initial.after cfg past).step_move cfg i.1 i.2
  have hnext : .connecting attempt ∈ emitted ((State.initial.after cfg past).step cfg i.1 i.2).shown := by
    rw [Turn.shown, emitted_visible]
    exact List.mem_filterMap.mpr ⟨_, hconn, rfl⟩
  have hdialed := hmove.connecting hnext
  have hlt := dial_lt hdial
  have hmono := dialed_le_after cfg ((State.initial.after cfg past).step cfg i.1 i.2).state rest
  rw [State.after_append, State.after_cons] at hlast
  omega

theorem flatMap_filter {α β : Type} {p : α → Bool} {f g : α → List β} (l : List α)
    (hp : ∀ a ∈ l, p a = true → f a = g a) (hno : ∀ a ∈ l, p a = false → g a = []) :
    (l.filter p).flatMap f = l.flatMap g := by
  induction l with
  | nil => rfl
  | cons a l ih =>
    have hrest := ih (fun b hb => hp b (by simp [hb])) (fun b hb => hno b (by simp [hb]))
    cases ha : p a with
    | true => simp [ha, hrest, hp a (by simp) ha]
    | false => simp [ha, hrest, hno a (by simp) ha]

/-- In every run the texts that are heard on a connection are answered there and passed on, one after the
other, and those of a connection that was replaced are not. -/
theorem texts_are_dispatched (cfg : Config) (run : List (Surroundings × Input)) : Dispatches cfg run := by
  refine ⟨?_, answers_repliesTo, fun payload m => messageIn?_eq_some, ?_, ?_, ?_, ?_⟩
  · intro payload ts ms htree hmembers honce inbound
    exact Inbound.parse?_eq_some htree hmembers honce
  · intro k
    rw [framesTo_flatMap]
    apply flatMap_filter
    · intro r hr htext
      exact framesTo_of_text hr htext k
    · intro r _ htext
      exact repliesOn_of_no_text htext k
  · have hseen : messages (State.initial.trace cfg run) =
        messages ((State.initial.records cfg run).flatMap (·.effects)) := by
      rw [flatMap_effects, messages, messages, emitted_visible]
    rw [hseen, messages, emitted, List.filterMap_flatMap, List.filterMap_flatMap,
      List.filterMap_eq_flatMap_toList]
    apply List.flatMap_congr
    intro r hr
    exact messages_record hr
  · intro r hr htext hnone
    obtain ⟨hs, s', hmove⟩ := records_move hr
    obtain ⟨payload, hpayload⟩ := Option.isSome_iff_exists.mp htext
    rw [Input.text?_eq_some.mp hpayload] at hmove
    rcases hmove.of_text hs with ⟨j, hj, -⟩ | ⟨-, heq⟩
    · simp [Record.heard?, hj, hpayload] at hnone
    · exact heq
  · intro past i rest k url attempt hrun hdial hconn r hr
    obtain ⟨between, later, rfl, hstate, heffects⟩ := mem_records hr
    have hout : k ∉ r.state.held := by
      rw [hstate, ← State.after_append, List.append_assoc]
      exact not_held_after hdial hconn
    constructor
    · intro hreads
      exact hout (State.mem_held hreads)
    · rw [heffects, ← hstate]
      apply (r.state.step_move cfg r.env r.input).framesTo_eq_nil
      intro hsocket
      apply hout
      simp [State.held, hsocket]

/-- What is heard on a connection that takes the place of a lost one. -/
def heardAnew : List (Surroundings × Input) :=
  [(calmAt 3020, .dialed (.ok ())),
    (calmAt 3030, .received (.text "\x7b\"type\":\"ping\",\"message_id\":\"m\"\x7d")),
    (calmAt 3040, .received (.text "\x7b\"type\":\"order_status\",\"data\":null,\"message_id\":\"n\"\x7d")),
    (calmAt 3050, .received (.text "\x7b\"type\":\"other\",\"message_id\":\"o\"\x7d"))]

def talkRun : List (Surroundings × Input) := lostRun ++ (calmAt 3015, .reconnectDue) :: heardAnew

def Frame.kind : Frame → String
  | message o => o.kind
  | close => "close"

def Frame.acknowledged : Frame → Option String
  | message o => (o.data.get? "message_id").bind (·.asString?)
  | close => none

theorem texts_are_dispatched_talkRun :
    (framesTo 1 (((State.initial.records plain talkRun).filter (·.isText)).flatMap (·.effects))).map
      (fun frame => (frame.kind, frame.acknowledged)) =
        [("ack", some "m"), ("pong", none), ("ack", some "n"), ("ack", some "o")] ∧
    (messages (State.initial.trace plain talkRun)).map (fun m => (m.kind, m.data.isNull, m.messageId)) =
      [(.orderStatus, true, some "n")] ∧
    .dial 0 "ws://h/v1/ws?token=t" ∈ State.initial.trace plain lostRun ∧
    ∀ r ∈ (State.initial.after plain (lostRun ++ [(calmAt 3015, .reconnectDue)])).records plain heardAnew,
      r.state.reads? ≠ some 0 ∧ framesTo 0 r.effects = [] := by
  have h := texts_are_dispatched plain talkRun
  have hdial : .dial 0 "ws://h/v1/ws?token=t" ∈ State.initial.trace plain lostRun :=
    List.mem_of_getElem? (i := 1) rfl
  have hconn : .emit (.connecting 1) ∈
      ((State.initial.after plain lostRun).step plain (calmAt 3015) .reconnectDue).effects :=
    List.mem_of_getElem? (i := 4) rfl
  refine ⟨?_, ?_, hdial, h.superseded lostRun (calmAt 3015, .reconnectDue) heardAnew 0 _ 1 rfl hdial hconn⟩
  · rw [h.replies 1]
    decide +kernel
  · rw [h.messages]
    decide +kernel

end Courier.Session
