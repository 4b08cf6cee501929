import Courier.Proofs.Session.Frames
import Courier.Proofs.Socket.Reading
import Courier.Proofs.Socket.Writing
import Courier.Socket.Attached

/-! A session and its connection together. The session holds the connection until it lets go of the
socket, and it does so as soon as it is told of the end of the conversation. So it receives what it is
to be told, in order, and nothing more. -/

namespace Courier.Session

variable {cfg : Config} {env : Surroundings} {s s' : State} {input : Input} {es past : List Effect} {k : Nat}

theorem release_mem_shown {t : Turn} : .release k ∈ t.shown ↔ .release k ∈ t.effects := by
  simp [Turn.shown, visible, Effect.isLog]

theorem mem_account {out : List Nat} (hno : ∀ url, .dial k url ∉ es) :
    k ∈ es.foldl account out ↔ k ∈ out ∧ .release k ∉ es := by
  induction es generalizing out with
  | nil => simp
  | cons e es ih =>
    have hrest : ∀ url, .dial k url ∉ es := fun url h => hno url (List.mem_cons_of_mem _ h)
    rw [List.foldl_cons, ih hrest]
    cases e with
    | dial j url =>
      have hj : k ≠ j := fun h => hno url (h ▸ List.mem_cons_self)
      simp [account, hj]
    | release j =>
      by_cases hj : j = k
      · simp [account, hj]
      · simp [account, Ne.symm hj]
    | _ => simp [account]

/-- No socket is dialed a second time. -/
theorem Move.not_redialed (h : Move cfg env s input s' es) (hs : Sound s)
    (ha : Alternates past s.held s.dialed) (hk : k < s.dialed) (url : String) : .dial k url ∉ es := by
  intro hmem
  have hdials := (h.alternates hs ha).dialed
  rw [List.filterMap_append, ha.dialed] at hdials
  have hagain : k ∈ (transfers es).filterMap Effect.dialed? :=
    List.mem_filterMap.mpr ⟨_, mem_transfers.mpr ⟨hmem, rfl⟩, rfl⟩
  have hdistinct : (List.range s.dialed ++ (transfers es).filterMap Effect.dialed?).Nodup :=
    hdials ▸ List.nodup_range
  exact (List.nodup_append.mp hdistinct).2.2 k (List.mem_range.mpr hk) k hagain rfl

/-- A move keeps what it does not let go of. -/
theorem Move.mem_held_iff (h : Move cfg env s input s' es) (hs : Sound s)
    (ha : Alternates past s.held s.dialed) (hk : k < s.dialed) :
    k ∈ s'.held ↔ k ∈ s.held ∧ .release k ∉ es := by
  rw [← (h.alternates hs ha).live, live, List.foldl_append]
  change k ∈ (transfers es).foldl account (live past) ↔ _
  have hno (url : String) : .dial k url ∉ transfers es := fun hmem =>
    h.not_redialed hs ha hk url (mem_transfers.mp hmem).1
  rw [mem_account hno, ha.live]
  simp [mem_transfers, Effect.isTransfer]

/-- A session lets go of a socket that it reads exactly when that has delivered its last event. -/
theorem Move.release_iff {event : SocketEvent} (h : Move cfg env s (.received event) s' es)
    (hreads : s.reads? = some k) : .release k ∈ es ↔ event.isTerminal = true := by
  unfold State.reads? at hreads
  cases h with
  | skip hno =>
    refine absurd ?_ hno
    cases hm : s.mode <;> simp_all [State.Accepts]
  | text _ _ =>
    refine iff_of_false (fun hmem => ?_) Bool.false_ne_true
    rcases of_mem_dispatched hmem with ⟨_, _, heq⟩ | ⟨_, heq⟩ <;> cases heq
  | drainText _ => simp [SocketEvent.isTerminal]
  | lost hm hsocket _ | failed hm hsocket _ =>
    obtain rfl : _ = k := by simpa [hm, hsocket] using hreads
    exact iff_of_true List.mem_cons_self rfl
  | reopen hm hend _ | settle hm hend | shutDown hm hend =>
    obtain rfl : _ = k := by simpa [hm] using hreads
    exact iff_of_true (by simp) hend

end Courier.Session

namespace Courier.Socket

open Session (Alternates Config Effect Input Sound State Surroundings SocketEvent)
open Connection (Happening Heard)

def Connection.Happening.IsAction : Happening → Prop
  | send _ | release => True
  | _ => False

namespace Attached

variable {cfg : Config} {a : Attached} {c : Connection} {s : State} {k : Nat} {hs acts : List Happening}
  {es : List Effect}

theorem isAction_of_mem (k : Nat) (es : List Effect) : ∀ h ∈ es.filterMap (happening? k), h.IsAction := by
  intro h hmem
  obtain ⟨e, -, heq⟩ := List.mem_filterMap.mp hmem
  cases e with
  | write j frame =>
    obtain ⟨-, rfl⟩ : j = k ∧ .send frame = h := by simpa [happening?] using heq
    trivial
  | release j =>
    obtain ⟨-, rfl⟩ : j = k ∧ .release = h := by simpa [happening?] using heq
    trivial
  | _ => cases heq

theorem held_after_actions (k : Nat) (es : List Effect) (c : Connection) :
    (c.after (es.filterMap (happening? k))).held = true ↔ c.held = true ∧ .release k ∉ es := by
  induction es generalizing c with
  | nil => simp [Connection.after]
  | cons e es ih =>
    cases e with
    | write j frame =>
      by_cases hj : j = k
      · have hkept : (c.step (.send frame)).held = c.held := by
          simp only [Connection.step]
          split_ifs <;> rfl
        have hrest := ih (c.step (.send frame))
        rw [hkept] at hrest
        simpa [happening?, hj, Connection.after] using hrest
      · simpa [happening?, hj] using ih c
    | release j =>
      by_cases hj : j = k
      · have hrest := ih (c.step .release)
        simpa [happening?, hj, Connection.after, Connection.step] using hrest
      · simpa [happening?, hj, Ne.symm hj] using ih c
    | _ => simpa [happening?, List.filterMap_cons] using ih c

theorem items_actions (hacts : ∀ h ∈ acts, h.IsAction) :
    Connection.items (hs ++ acts) = Connection.items hs := by
  have hnone : Connection.items acts = [] := by
    refine List.filterMap_eq_nil_iff.mpr fun h hmem => ?_
    cases h with
    | work w => exact (hacts _ hmem).elim
    | _ => rfl
  rw [Connection.items, List.filterMap_append]
  exact (congrArg _ hnone).trans (List.append_nil _)

theorem events_actions (hacts : ∀ h ∈ acts, h.IsAction) :
    Connection.events (hs ++ acts) = Connection.events hs := by
  have hnothing : (Connection.after {} hs).collect Connection.received acts = [] := by
    refine Connection.collect_eq_nil (I := fun _ => True) (fun c h hmem _ => ⟨?_, trivial⟩) trivial
    cases h with
    | receive => exact (hacts _ hmem).elim
    | _ => rfl
  rw [Connection.events, Connection.collect_append, hnothing, List.append_nil]
  rfl

theorem heard_actions {items : List Item} {events : List SocketEvent} (hh : Heard items events c)
    (hacts : ∀ h ∈ acts, h.IsAction) : Heard items events (c.after acts) := by
  induction acts generalizing c with
  | nil => exact hh
  | cons h acts ih =>
    have hact := hacts h List.mem_cons_self
    have hnone : items ++ h.item?.toList = items := by
      cases h with
      | work w => exact hact.elim
      | _ => exact List.append_nil _
    have hstep := hh.step (h := h) fun heq => by rw [heq] at hact; exact hact
    rw [hnone] at hstep
    exact ih hstep fun h hmem => hacts h (List.mem_cons_of_mem _ hmem)

/-- The session holds the connection as long as its number is one that it has out. -/
structure Owns (k : Nat) (s : State) (c : Connection) : Prop where
  sound : Sound s
  alternates : ∃ past, Alternates past s.held s.dialed
  dialed : k < s.dialed
  held : c.held = true ↔ k ∈ s.held

theorem Owns.step (ho : Owns k s c) (cfg : Config) (env : Surroundings) (input : Input) :
    let t := s.step cfg env input
    Owns k t.state (c.after (t.effects.filterMap (happening? k))) := by
  intro t
  have hmove := s.step_move cfg env input
  obtain ⟨past, ha⟩ := ho.alternates
  have hnext := hmove.alternates ho.sound ha
  refine ⟨hmove.sound ho.sound, ⟨_, hnext⟩, Nat.lt_of_lt_of_le ho.dialed hmove.kept.1, ?_⟩
  rw [held_after_actions, ho.held, hmove.mem_held_iff ho.sound ha ho.dialed]
  exact and_congr_right' (not_congr Session.release_mem_shown.symm)

theorem Owns.congr (ho : Owns k s c) {c' : Connection} (hheld : c'.held = c.held) : Owns k s c' :=
  ⟨ho.sound, ho.alternates, ho.dialed, by rw [hheld, ho.held]⟩

structure Tied (hs : List Happening) (a : Attached) : Prop where
  connection : a.connection = Connection.after {} hs
  owns : Owns a.socket a.session a.connection
  heard : Heard (Connection.items hs) (Connection.events hs) a.connection
  /-- The session lets go at the first event that ends the conversation. -/
  quiet : a.connection.held = true → ∀ event ∈ Connection.events hs, event.isTerminal = false

def delivered (a : Attached) : Occurrence → Option SocketEvent
  | .receive _ => a.event?
  | _ => none

theorem event?_eq_some {event : SocketEvent} : a.event? = some event ↔
    a.session.reads? = some a.socket ∧ a.connection.held = true ∧ a.connection.next? = some event := by
  have hlistens : a.listens = true ↔ a.session.reads? = some a.socket := by
    unfold listens State.reads?
    cases a.session.mode <;> simp
  simp [event?, Connection.received, hlistens]

/-- Before the session acts, it is told at most of one event more. -/
theorem Tied.told (ht : Tied hs a) (o : Occurrence) :
    (a.connection.after (a.own o)).held = a.connection.held ∧
    Connection.events (hs ++ a.own o) = Connection.events hs ++ (a.delivered o).toList ∧
    Heard (Connection.items (hs ++ a.own o)) (Connection.events (hs ++ a.own o))
      (a.connection.after (a.own o)) := by
  cases o with
  | handle env input => simpa [own, delivered, Connection.after] using ht.heard
  | work w =>
    have hheard := ht.heard.step (h := .work w) (by simp)
    refine ⟨Connection.held_work _ w, ?_, ?_⟩
    · rw [own, Connection.events_concat]
      rfl
    · rw [own, Connection.items_concat, Connection.events_concat]
      exact (List.append_nil (Connection.events hs)).symm ▸ hheard
  | receive env =>
    cases hevent : a.event? with
    | none => simpa [own, delivered, hevent, Connection.after] using ht.heard
    | some event =>
      obtain ⟨-, hheld, hnext⟩ := event?_eq_some.mp hevent
      have hheard := ht.heard.receive hheld (ht.quiet hheld) hnext
      have hreceived : (Connection.after {} hs).received .receive = some event := by
        rw [← ht.connection, Connection.received, if_pos hheld, hnext]
      have hown : a.own (.receive env) = [.receive] := by simp [own, hevent]
      have hevents : Connection.events (hs ++ [.receive]) = Connection.events hs ++ [event] := by
        rw [Connection.events_concat, hreceived, Option.toList_some]
      rw [hown, hevents, Connection.items_concat]
      refine ⟨rfl, by simp [delivered, hevent], ?_⟩
      exact (List.append_nil (Connection.items hs)).symm ▸ hheard

/-- The session lets go when it is told of the end. -/
theorem releases_of_isTerminal (cfg : Config) {o : Occurrence} {event : SocketEvent}
    (hdelivered : a.delivered o = some event) (hlast : event.isTerminal = true) :
    .release a.socket ∈ (a.turn cfg o).effects := by
  cases o with
  | handle _ _ | work _ => cases hdelivered
  | receive env =>
    have hevent : a.event? = some event := hdelivered
    obtain ⟨hreads, -, -⟩ := event?_eq_some.mp hevent
    have hmove := a.session.step_move cfg (a.view env) (.received event)
    have hturn : a.turn cfg (.receive env) = a.session.step cfg (a.view env) (.received event) := by
      simp [turn, input?, hevent]
    rw [hturn]
    exact Session.release_mem_shown.mp ((hmove.release_iff hreads).mpr hlast)

theorem Tied.step (ht : Tied hs a) (cfg : Config) (o : Occurrence) :
    Tied (hs ++ a.happenings cfg o) (a.step cfg o) := by
  obtain ⟨hheld, hevents, hheard⟩ := ht.told o
  have hacts := isAction_of_mem a.socket (a.turn cfg o).effects
  have hafter : (a.step cfg o).connection = (a.connection.after (a.own o)).after
      ((a.turn cfg o).effects.filterMap (happening? a.socket)) := List.foldl_append
  have hall : hs ++ a.happenings cfg o =
      hs ++ a.own o ++ (a.turn cfg o).effects.filterMap (happening? a.socket) := (List.append_assoc ..).symm
  have howns : Owns a.socket (a.step cfg o).session (a.step cfg o).connection := by
    have hown := ht.owns.congr hheld
    rw [hafter]
    cases hinput : a.input? o with
    | none => simpa [Attached.step, turn, hinput, Connection.after] using hown
    | some i => simpa [Attached.step, turn, hinput] using hown.step cfg (a.view i.1) i.2
  rw [hall]
  refine ⟨?_, howns, ?_, fun hkept event hmem => ?_⟩
  · rw [hafter, ht.connection]
    simp [Connection.after]
  · rw [items_actions hacts, events_actions hacts, hafter]
    exact heard_actions hheard hacts
  · rw [hafter, held_after_actions, hheld] at hkept
    obtain ⟨hheldBefore, hstays⟩ := hkept
    rw [events_actions hacts, hevents, List.mem_append, Option.mem_toList] at hmem
    rcases hmem with hmem | hdelivered
    · exact ht.quiet hheldBefore event hmem
    · by_contra hlast
      exact hstays (releases_of_isTerminal cfg hdelivered (by simpa using hlast))

theorem Tied.after (ht : Tied hs a) (cfg : Config) (os : List Occurrence) :
    Tied (hs ++ a.history cfg os) (a.after cfg os) := by
  induction os generalizing hs a with
  | nil => simpa [history, Attached.after] using ht
  | cons o os ih =>
    rw [history, ← List.append_assoc]
    exact ih (ht.step cfg o)

theorem socket_after (cfg : Config) (a : Attached) (os : List Occurrence) :
    (a.after cfg os).socket = a.socket := by
  induction os generalizing a with
  | nil => rfl
  | cons o os ih => exact ih (a.step cfg o)

/-- A connection that is made while the session waits for it. -/
theorem tied_of_pending (cfg : Config) (run : List (Surroundings × Input))
    (hpending : (State.initial.after cfg run).pending = some k) :
    Tied [] { socket := k, session := State.initial.after cfg run } := by
  have halternates := Session.alternates_after cfg run
  have hout : k ∈ (State.initial.after cfg run).held := by simp [State.held, hpending]
  refine ⟨rfl, ⟨Session.sound_after cfg run, ⟨_, halternates⟩, halternates.lt hout, ?_⟩, ?_, ?_⟩
  · exact iff_of_true rfl hout
  · exact .held rfl rfl (iff_of_true rfl rfl)
  · intro _ event hmem
    cases hmem

theorem events_of_released (hgone : (Connection.after {} hs).held = false) (more : List Happening) :
    Connection.events (hs ++ more) = Connection.events hs := by
  have hnothing : (Connection.after {} hs).collect Connection.received more = [] := by
    refine Connection.collect_eq_nil (I := (·.held = false)) (fun c h _ hheld => ?_) hgone
    exact ⟨by cases h <;> simp [Connection.received, hheld], Connection.held_step hheld h⟩
  rw [Connection.events, Connection.collect_append, hnothing, List.append_nil]
  rfl

/-- What a session hears of a connection from the time when it waits for it. -/
structure Hears (cfg : Config) (start : Attached) (os : List Occurrence) : Prop where
  connection : (start.after cfg os).connection = Connection.after {} (start.history cfg os)
  holds : (start.after cfg os).connection.held = true ↔ start.socket ∈ (start.after cfg os).session.held
  ordered : Connection.events (start.history cfg os) <+: told (Connection.items (start.history cfg os))
  /-- While the session keeps the connection, the next event is the next one that it is to be told. -/
  next : (start.after cfg os).connection.held = true →
    (start.after cfg os).connection.next? =
      (told (Connection.items (start.history cfg os)))[(Connection.events (start.history cfg os)).length]?
  /-- The event that ends the conversation is the last, and the session lets go. -/
  ended : (∃ event ∈ Connection.events (start.history cfg os), event.isTerminal = true) →
    Connection.events (start.history cfg os) = told (Connection.items (start.history cfg os)) ∧
      (start.after cfg os).connection.held = false
  final : (start.after cfg os).connection.held = false → ∀ more,
    Connection.events (start.history cfg os ++ more) = Connection.events (start.history cfg os)

/-- Whatever happens to a session and to the connection that it has dialed, the session receives the texts
before the first item that ends the conversation, in order, and then one event that tells of that item.
Whatever it queues is written in order up to the first request to close, and nothing after that; the
writing side stops earlier only when a frame cannot be written, or when the session has let go and
nothing is left. Each side alone tells and writes all of it. -/
theorem relays_both_ways (cfg : Config) (run : List (Surroundings × Input)) {k : Nat}
    (hpending : (State.initial.after cfg run).pending = some k) (os : List Occurrence) :
    Hears cfg { socket := k, session := State.initial.after cfg run } os ∧
    (∀ hs, Connection.Writes hs) ∧
    (∀ items, (Reader.reading.readAll items).2 = told items) ∧
    ∀ frames released, (Writer.writing.writeAll (frames.map (Writer.Input.frame · true) ++
      if released then [.released] else [])).2 = due released frames := by
  refine ⟨?_, Connection.writes, Reader.readAll_reading, Writer.writeAll_writing⟩
  have ht := (tied_of_pending cfg run hpending).after cfg os
  rw [List.nil_append] at ht
  refine ⟨ht.connection, ?_, ht.heard.ordered, fun hheld => ht.heard.next hheld (ht.quiet hheld), ?_, ?_⟩
  · have howned := ht.owns.held
    rwa [socket_after] at howned
  · rintro ⟨event, hmem, hlast⟩
    refine ⟨eq_told ht.heard.ordered ⟨event, hmem, hlast⟩, ?_⟩
    by_contra hheld
    have hquiet := ht.quiet (by simpa using hheld) event hmem
    simp [hlast] at hquiet
  · intro hgone
    rw [ht.connection] at hgone
    exact events_of_released hgone

def waiting : Attached := { socket := 0, session := State.initial.after Session.plain [(Session.calmAt 0, .connect 0)] }

/-- The connection opens, a text is answered, and the other end closes; a text comes too late. -/
def visit : List Occurrence :=
  [.handle (Session.calmAt 5) (.dialed (.ok ())),
    .work (.read (.text "\x7b\"type\":\"ping\",\"message_id\":\"m\"\x7d")), .work (.read .ping),
    .receive (Session.calmAt 6), .work (.write true), .work (.read (.close (some ⟨1001, "away"⟩))),
    .work (.read (.text "late")), .receive (Session.calmAt 7), .receive (Session.calmAt 8),
    .work (.write true), .work (.write true), .work (.write true)]

/-- Two requests to close are queued after a message, and a message between them. -/
def parting : List Happening :=
  [.send (.message (Session.note "last")), .send .close, .send (.message (Session.note "unwritten")), .send .close,
    .work (.write true), .work (.write true), .work (.write true)]

def kindOf : Written → String
  | .message o => o.kind
  | .close none => "close"
  | .close (some closing) => closing.reason

theorem relays_both_ways_visit :
    let hs := waiting.history Session.plain visit
    waiting.session.pending = some 0 ∧ Hears Session.plain waiting visit ∧ Connection.Writes hs ∧
    Connection.Writes parting ∧
    Connection.events hs =
      [.text "\x7b\"type\":\"ping\",\"message_id\":\"m\"\x7d", .closed (some 1001) "away"] ∧
    told (Connection.items hs) = Connection.events hs ∧
    (Connection.messages hs).map kindOf = ["ack", "pong", "close"] ∧
    (Connection.messages parting).map kindOf = ["last", "client closing"] := by
  intro hs
  have hpending : waiting.session.pending = some 0 := rfl
  obtain ⟨hhears, hwrites, -, -⟩ := relays_both_ways Session.plain [(Session.calmAt 0, .connect 0)] hpending visit
  exact ⟨hpending, hhears, hwrites hs, hwrites parting, by decide +kernel, by decide +kernel, by decide +kernel,
    by decide +kernel⟩

end Attached
end Courier.Socket
