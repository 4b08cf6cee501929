import Courier.Proofs.Session.Dispatch
import Courier.Proofs.Session.Queue
import Mathlib.Data.List.Flatten

/-! What travels on a connection whose other end stays until the session lets go of it: messages, and after
them at most one request to close. Besides replies and pings the messages are those that users sent and
that the session took up while the connection was open, each once and in the order in which they were
sent. -/

namespace Courier.Session

def State.beats (env : Surroundings) (s : State) : Bool :=
  s.heartbeat.any fun t => t.due ≤ env.moment.ticks && (t.advance? env.moment.ticks).isSome

/-- What a step ought to send on a connection: a user's message, replies to a text, or a ping. -/
def Record.messagesOn (k : Nat) (r : Record) : List Outbound :=
  if r.state.connection? = some k then
    match r.input with
    | .send o => [o]
    | .received (.text payload) => repliesTo r.env payload
    | .heartbeatDue => if r.state.beats r.env then [.ping r.env.moment.wall r.env.seed] else []
    | _ => []
  else []

def Link.records (l : Link) (acts : List Act) : List Record :=
  l.machine.records l.config (l.inputs acts)

/-- Whether the other end of a connection is there as long as the session holds it. -/
def KeepsItsEnd (k : Nat) (records : List Record) : Prop :=
  ∀ r ∈ records, r.state.socket = some k → r.env.reachable = true

def Record.ownOn (k : Nat) (r : Record) : List Outbound :=
  if r.input.command?.isSome then r.messagesOn k else []

/-- What the other end of a connection gets to see in the life of a session. -/
structure Delivers (cfg : Config) (acts : List Act) (k : Nat) : Prop where
  frames : let records := (Link.ofConfig cfg).records acts
    ∃ farewell, framesTo k (records.flatMap (·.effects)) =
      (records.flatMap (·.messagesOn k)).map .message ++ farewell ∧ (farewell = [] ∨ farewell = [.close])
  /-- The session takes up commands in the order in which they are issued, each once. -/
  handled : ((Link.ofConfig cfg).records acts).filterMap (·.input.command?) <+:
    acts.filterMap Act.issued?
  /-- What it has not taken up waits, until it stops for good. -/
  waiting : ((Link.ofConfig cfg).after acts).isStopped = false →
    ((Link.ofConfig cfg).records acts).filterMap (·.input.command?) ++
      ((Link.ofConfig cfg).after acts).commands = acts.filterMap Act.issued?
  own : List.Sublist ((((Link.ofConfig cfg).records acts).flatMap (·.ownOn k)).map Command.send)
    (acts.filterMap Act.issued?)
  automatic : ∀ r ∈ (Link.ofConfig cfg).records acts, r.input.command? = none →
    ∀ o ∈ r.messagesOn k, o.kind = "ack" ∨ o.kind = "pong" ∨ o.kind = "ping"
  /-- What is taken up while no connection is open goes nowhere. -/
  dropped : ∀ r ∈ (Link.ofConfig cfg).records acts, ∀ o, r.input = .send o →
    r.state.connection? = none → r.effects = []

variable {cfg : Config} {env : Surroundings} {s s' : State} {input : Input} {es : List Effect}
  {k : Nat} {r : Record}

theorem records_command? (s : State) (run : List (Surroundings × Input)) :
    (s.records cfg run).filterMap (·.input.command?) = run.filterMap (·.2.command?) := by
  induction run generalizing s with
  | nil => rfl
  | cons i run ih => simp [State.records, List.filterMap_cons, ih]

theorem mem_framesTo {frame : Frame} : frame ∈ framesTo k es ↔ .write k frame ∈ es := by
  constructor
  · intro h
    obtain ⟨e, he, hframe⟩ := List.mem_filterMap.mp h
    cases e with
    | write j f =>
      simp only [Effect.frameTo?, Option.ite_none_right_eq_some, Option.some.injEq] at hframe
      obtain ⟨rfl, rfl⟩ := hframe
      exact he
    | _ => cases hframe
  · intro h
    exact List.mem_filterMap.mpr ⟨_, h, if_pos rfl⟩

theorem messagesOn_eq_nil (hno : r.state.socket ≠ some k) : r.messagesOn k = [] := by
  apply if_neg
  intro hopen
  apply hno
  exact (State.connection?_eq_some.mp hopen).2.2

theorem Sound.ready_of_socket (hs : Sound s) (hsocket : s.socket = some k) : s.mode = .ready := by
  cases hm : s.mode with
  | ready => rfl
  | draining _ _ _ =>
    simp only [Sound, hm] at hs
    simp [hs.1.socket] at hsocket
  | stopped =>
    simp only [Sound, hm] at hs
    simp [hs.1] at hsocket

theorem flatMap_handed (hreach : env.reachable = true) (os : List Outbound) :
    os.flatMap (handed env) = os.map .message := by
  induction os with
  | nil => rfl
  | cons o os ih => simp [handed, hreach, ih]

theorem beats_of_some {ticker : Time.Ticker} (ht : s.heartbeat = some ticker) :
    s.beats env =
      (decide (ticker.due ≤ env.moment.ticks) && (ticker.advance? env.moment.ticks).isSome) := by
  rw [State.beats, ht, Option.any_some]

theorem beats_iff : s.beats env = true ↔ ∃ ticker next, s.heartbeat = some ticker ∧
    ticker.due ≤ env.moment.ticks ∧ ticker.advance? env.moment.ticks = some next := by
  cases ht : s.heartbeat with
  | none => simp [State.beats, ht]
  | some ticker => simp [beats_of_some ht, Option.isSome_iff_exists]

theorem not_beats_of_skip (hm : s.mode = .ready) (hno : ¬ s.Accepts env .heartbeatDue) :
    s.beats env = false := by
  rw [Bool.eq_false_iff]
  intro hbeats
  obtain ⟨ticker, next, ht, hdue, -⟩ := beats_iff.mp hbeats
  apply hno
  simp only [State.Accepts, hm]
  exact ⟨ticker, ht, hdue⟩

theorem not_beats_of_crash {ticker : Time.Ticker} (ht : s.heartbeat = some ticker)
    (hnext : ticker.advance? env.moment.ticks = none) : s.beats env = false := by
  rw [beats_of_some ht, hnext]
  simp

/-- A move hands messages to the held socket, or it asks it to close. -/
theorem Move.hands (h : Move cfg env s input s' es) (hs : Sound s) (hsocket : s.socket = some k) :
    ∃ farewell, framesTo k es = ((Record.mk s env input es).messagesOn k).flatMap (handed env) ++ farewell ∧
      (farewell = [] ∨ farewell = [.close]) := by
  have hm := hs.ready_of_socket hsocket
  have hconn : s.connection? = some k := (hs.connection? hm).trans hsocket
  have hopen := (State.connection?_eq_some.mp hconn).2.1
  unfold Record.messagesOn
  simp only [hconn, if_true]
  cases h with
  | replace _ _ hk | closeDrain _ hk | reconnectDrain _ _ _ _ hk | leaveDrain _ hk =>
    rw [hsocket, Option.some.injEq] at hk
    exact ⟨[.close], by simp [Effect.frameTo?, hk], .inr rfl⟩
  | send _ _ hk => exact ⟨[], by simp [← hk, hsocket], .inl rfl⟩
  | text _ hk => exact ⟨[], by simp [framesTo_dispatched, ← hk, hsocket], .inl rfl⟩
  | ping _ ht hdue hnext =>
    have hbeats : s.beats env = true := beats_iff.mpr ⟨_, _, ht, hdue, hnext⟩
    exact ⟨[], by simp [hbeats, hsocket], .inl rfl⟩
  | pingCrash _ ht _ hnext =>
    have hquiet := not_beats_of_crash ht hnext
    exact ⟨[], by simp [hquiet, hsocket, Effect.frameTo?], .inl rfl⟩
  | skip hno =>
    refine ⟨[], ?_, .inl rfl⟩
    cases input with
    | send o => exact absurd (by simp [State.Accepts, hm]) hno
    | received e => exact absurd (by simp [State.Accepts, hm, hsocket]) hno
    | heartbeatDue =>
      have hquiet := not_beats_of_skip hm hno
      simp [hquiet]
    | _ => rfl
  | connect _ _ hk _ | close _ hk | leave _ hk | reconnect _ _ _ _ hk _ => simp [hsocket] at hk
  | dropSend _ hk => simp [hk hopen] at hsocket
  | ignore _ hp => simp [hopen] at hp
  | reopen hd _ _ | settle hd _ | shutDown hd _ | drainText hd => simp [hm] at hd
  | refused _ _ hl | lost _ _ hl | failed _ _ hl =>
    exact ⟨[], by simp [hl.framesTo, Effect.frameTo?], .inl rfl⟩
  | _ => exact ⟨[], by simp [Effect.frameTo?], .inl rfl⟩

theorem Move.delivers (h : Move cfg env s input s' es) (hs : Sound s) (hsocket : s.socket = some k)
    (hreach : env.reachable = true) :
    ∃ farewell, framesTo k es = ((Record.mk s env input es).messagesOn k).map .message ++ farewell ∧
      (farewell = [] ∨ farewell = [.close]) := by
  obtain ⟨farewell, hframes, hfarewell⟩ := h.hands hs hsocket
  rw [flatMap_handed hreach] at hframes
  exact ⟨farewell, hframes, hfarewell⟩

/-- On every connection that keeps its other end messages are followed by at most one request to close. -/
theorem framesTo_records (cfg : Config) (run : List (Surroundings × Input))
    (hkept : KeepsItsEnd k (State.initial.records cfg run)) :
    ∃ farewell, framesTo k ((State.initial.records cfg run).flatMap (·.effects)) =
      ((State.initial.records cfg run).flatMap (·.messagesOn k)).map .message ++ farewell ∧
      (farewell = [] ∨ farewell = [.close]) := by
  induction run using List.reverseRecOn with
  | nil => exact ⟨[], rfl, .inl rfl⟩
  | append_singleton run i ih =>
    rw [records_append] at hkept ⊢
    have hpast : KeepsItsEnd k (State.initial.records cfg run) := by
      intro r hr
      exact hkept r (List.mem_append_left _ hr)
    obtain ⟨farewell, hframes, hfarewell⟩ := ih hpast
    have hmove := (State.initial.after cfg run).step_move cfg i.1 i.2
    have hlast : (State.initial.after cfg run).records cfg [i] =
        [⟨State.initial.after cfg run, i.1, i.2, ((State.initial.after cfg run).step cfg i.1 i.2).shown⟩] := rfl
    rw [hlast] at hkept ⊢
    rw [List.flatMap_append, List.flatMap_append, framesTo_append, hframes, List.map_append]
    simp only [List.flatMap_singleton]
    by_cases hsocket : (State.initial.after cfg run).socket = some k
    · -- a socket that is held has not been asked to close
      have hnone : farewell = [] := by
        rcases hfarewell with hnone | hclose
        · exact hnone
        exfalso
        have hasked : .write k .close ∈ State.initial.trace cfg run := by
          have hframe : .close ∈ framesTo k ((State.initial.records cfg run).flatMap (·.effects)) := by
            simp [hframes, hclose]
          rw [flatMap_effects] at hframe
          exact (List.mem_filter.mp (mem_framesTo.mp hframe)).1
        obtain ⟨-, hgone⟩ := parted_after cfg run k hasked
        apply hgone
        simp [State.kept, hsocket]
      obtain ⟨farewell', hframes', hfarewell'⟩ := hmove.delivers (sound_after cfg run) hsocket
        (hkept _ (List.mem_append_right _ (List.mem_singleton.mpr rfl)) hsocket)
      exact ⟨farewell', by simp [hframes', hnone], hfarewell'⟩
    · refine ⟨farewell, ?_, hfarewell⟩
      rw [hmove.framesTo_eq_nil hsocket, messagesOn_eq_nil hsocket]
      simp

theorem kind_of_mem_repliesTo {payload : String} {o : Outbound} (h : o ∈ repliesTo env payload) :
    o.kind = "ack" ∨ o.kind = "pong" := by
  unfold repliesTo at h
  cases hparse : Inbound.parse? payload with
  | none => simp [hparse] at h
  | some inbound =>
    simp only [hparse] at h
    rcases List.mem_append.mp h with h | h
    · obtain ⟨id, -, rfl⟩ := Option.map_eq_some_iff.mp (Option.mem_toList.mp h)
      exact .inl rfl
    · split at h
      · rw [List.mem_singleton.mp h]
        exact .inr rfl
      · cases h

theorem kind_of_automatic (hinput : r.input.command? = none) {o : Outbound} (h : o ∈ r.messagesOn k) :
    o.kind = "ack" ∨ o.kind = "pong" ∨ o.kind = "ping" := by
  unfold Record.messagesOn at h
  split at h
  · split at h
    · rename_i hsend
      simp [hsend, Input.command?] at hinput
    · exact (kind_of_mem_repliesTo h).imp_right .inl
    · split at h
      · rw [List.mem_singleton.mp h]
        exact .inr (.inr rfl)
      · cases h
    · cases h
  · cases h

/-- What a step sends for a user is the command that it takes up. -/
theorem ownOn_sublist (k : Nat) (r : Record) :
    List.Sublist ((r.ownOn k).map Command.send) r.input.command?.toList := by
  unfold Record.ownOn Record.messagesOn
  cases hinput : r.input with
  | send o =>
    by_cases hopen : r.state.connection? = some k <;> simp [Input.command?, hopen]
  | _ => simp [Input.command?]

theorem own_sublist (k : Nat) (records : List Record) :
    List.Sublist ((records.flatMap (·.ownOn k)).map Command.send)
      (records.filterMap (·.input.command?)) := by
  rw [List.filterMap_eq_flatMap_toList, List.map_flatMap]
  exact List.Sublist.flatMap_right records fun r _ => ownOn_sublist k r

/-- Whatever happens to a session, a connection whose other end stays carries what users sent while it was
open, as they sent it, among replies and pings, and nothing after the request to close. -/
theorem delivered_as_sent (cfg : Config) (acts : List Act) (k : Nat)
    (hkept : KeepsItsEnd k ((Link.ofConfig cfg).records acts)) : Delivers cfg acts k := by
  have hcommands : ((Link.ofConfig cfg).records acts).filterMap (·.input.command?) =
      (Link.ofConfig cfg).handled acts := records_command? ..
  have hhandled := (Link.ofConfig cfg).handled_of_issued acts
  refine ⟨framesTo_records cfg _ hkept, ?_, ?_, ?_, ?_, ?_⟩
  · rw [hcommands]
    exact hhandled
  · intro hruns
    obtain ⟨dropped, hall, hnone⟩ := (Link.ofConfig cfg).handled_append_commands acts
    rw [hnone hruns, List.append_nil] at hall
    rw [hcommands]
    exact hall
  · apply (own_sublist k _).trans
    rw [hcommands]
    exact hhandled.sublist
  · intro r _ hinput o ho
    exact kind_of_automatic hinput ho
  · intro r hr o hinput hnone
    obtain ⟨hs, s', hmove⟩ := records_move hr
    rw [hinput] at hmove
    generalize r.state = s at hs hnone hmove
    generalize r.effects = es at hmove ⊢
    cases hmove with
    | skip _ | dropSend _ _ => rfl
    | send hm _ hk =>
      rw [hs.connection? hm, hk] at hnone
      cases hnone
    | reopen _ hend _ | settle _ hend | shutDown _ hend => cases hend

def note (kind : String) : Outbound :=
  { kind := kind, channel := Outbound.defaultChannel, data := .null, timestamp := "", messageId := "" }

/-- Notes are sent before, on, between and after two connections, the second of which replaces the first. -/
def notes : List Act :=
  [.issue (.connect 0), .issue (.send (note "early")), .take (calmAt 0), .take (calmAt 0),
    .meet (calmAt 5) (.dialed (.ok ())), .issue (.send (note "first")), .take (calmAt 6),
    .issue (.connect 1), .issue (.send (note "between")), .take (calmAt 7), .take (calmAt 8),
    .meet (calmAt 9) (.received (.closed none "")), .take (calmAt 9),
    .meet (calmAt 12) (.dialed (.ok ())), .issue (.send (note "second")), .take (calmAt 13)]

theorem delivered_as_sent_notes :
    let records := (Link.ofConfig plain).records notes
    KeepsItsEnd 0 records ∧ Delivers plain notes 0 ∧
    (framesTo 0 (records.flatMap (·.effects))).map Frame.kind = ["first", "close"] ∧
    (framesTo 1 (records.flatMap (·.effects))).map Frame.kind = ["second"] := by
  intro records
  have hkept : KeepsItsEnd 0 records := by
    unfold KeepsItsEnd
    decide +kernel
  exact ⟨hkept, delivered_as_sent plain notes 0 hkept, by decide +kernel, by decide +kernel⟩

end Courier.Session
