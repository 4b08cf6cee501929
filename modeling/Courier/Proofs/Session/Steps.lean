import Courier.Proofs.Session.Moves

/-! `step_move`: every step of the machine is one of the moves. First come the state and the visible
effects of each operation on turns, then one lemma for each handler. -/

namespace Courier.Session

open Time (Ticker)

namespace Turn

def shown (t : Turn) : List Effect := visible t.effects

@[simp] theorem shown_start (s : State) : shown { state := s } = [] := rfl

@[simp] theorem shown_mk (s : State) (t : Turn) : shown ⟨s, t.effects⟩ = t.shown := rfl

@[simp] theorem state_act (t : Turn) (e : Effect) : (t.act e).state = t.state := rfl

@[simp] theorem shown_act (t : Turn) (e : Effect) :
    (t.act e).shown = t.shown ++ if e.isLog then [] else [e] := by
  cases h : e.isLog <;> simp [shown, act, visible, h]

@[simp] theorem state_log (t : Turn) (l : LogLine) : (t.log l).state = t.state := rfl

@[simp] theorem shown_log (t : Turn) (l : LogLine) : (t.log l).shown = t.shown := by
  simp [log, Effect.isLog]

@[simp] theorem state_emit (t : Turn) (e : Event) : (t.emit e).state = t.state := rfl

@[simp] theorem shown_emit (t : Turn) (e : Event) : (t.emit e).shown = t.shown ++ [.emit e] := by
  simp [emit, Effect.isLog]

@[simp] theorem state_publish (t : Turn) : t.publish.state = t.state := rfl

@[simp] theorem shown_publish (t : Turn) :
    t.publish.shown = t.shown ++ [.publish ⟨t.state.phase, t.state.attempts⟩] := by
  simp [publish, Effect.isLog]

@[simp] theorem state_enter (t : Turn) (p : Phase) :
    (t.enter p).state = { t.state with phase := p } := by
  simp only [enter]; split <;> rfl

@[simp] theorem shown_enter (t : Turn) (p : Phase) :
    (t.enter p).shown = t.shown ++ [.publish ⟨p, t.state.attempts⟩] := by
  simp only [enter, shown_publish, shown_mk]; split <;> simp

@[simp] theorem state_stopOpenTimers (t : Turn) : t.stopOpenTimers.state = t.state.calmed := rfl

@[simp] theorem shown_stopOpenTimers (t : Turn) : t.stopOpenTimers.shown = t.shown := rfl

@[simp] theorem state_transmit (env : Surroundings) (t : Turn) (o : Outbound) :
    (t.transmit env o).state = t.state := by
  unfold transmit; split
  · rfl
  · split <;> rfl

@[simp] theorem shown_transmit (env : Surroundings) (t : Turn) (o : Outbound) :
    (t.transmit env o).shown = t.shown ++ written env t.state.socket o := by
  cases h : t.state.socket with
  | none => simp [transmit, written, h]
  | some socket => cases hr : env.reachable <;> simp [transmit, written, h, hr, Effect.isLog]

@[simp] theorem state_dropPending (t : Turn) :
    t.dropPending.state = { t.state with pending := none } := by
  unfold dropPending; split
  case h_1 h => rw [← h]
  case h_2 => rfl

@[simp] theorem shown_dropPending (t : Turn) :
    t.dropPending.shown = t.shown ++ t.state.pending.toList.map .release := by
  cases h : t.state.pending <;> simp [dropPending, h, Effect.isLog]

@[simp] theorem state_dropSocket (t : Turn) :
    t.dropSocket.state = { t.state with socket := none } := by
  unfold dropSocket; split
  case h_1 h => rw [← h]
  case h_2 => rfl

@[simp] theorem shown_dropSocket (t : Turn) :
    t.dropSocket.shown = t.shown ++ t.state.socket.toList.map .release := by
  cases h : t.state.socket <;> simp [dropSocket, h, Effect.isLog]

theorem begin_begun (cfg : Config) (env : Surroundings) (t : Turn) :
    ∃ es, Begun cfg env t.state (t.begin cfg env).2 (t.begin cfg env).1.state es ∧
      (t.begin cfg env).1.shown = t.shown ++ es := by
  unfold begin
  split
  case h_1 e h =>
    refine ⟨[.publish ⟨.closed, t.state.attempts⟩, .emit (.error e)], ?_, by simp⟩
    simpa using Begun.failed h
  case h_2 url h =>
    refine ⟨[.dial t.state.dialed url, .publish ⟨.connecting, t.state.attempts⟩,
      .emit (.connecting t.state.attempts)], ?_, by simp [Effect.isLog]⟩
    simpa using Begun.dialing h

@[simp] theorem state_report (caller : Option Nat) (p : Turn × Outcome Unit) :
    (report caller p).state = p.1.state := by
  obtain ⟨t, _ | _⟩ := p <;> cases caller <;> simp [report]

@[simp] theorem shown_report (caller : Option Nat) (p : Turn × Outcome Unit) :
    (report caller p).shown = p.1.shown ++ answer p.2 caller := by
  obtain ⟨t, _ | _⟩ := p <;> cases caller <;> simp [report, answer, Effect.isLog]

@[simp] theorem state_drain (cfg : Config) (env : Surroundings) (t : Turn) (socket : Nat)
    (next : AfterDrain) :
    (t.drain cfg env socket next).state = t.state.draining cfg env socket next := by
  simp [drain, State.draining]

@[simp] theorem shown_drain (cfg : Config) (env : Surroundings) (t : Turn) (socket : Nat)
    (next : AfterDrain) :
    (t.drain cfg env socket next).shown =
      t.shown ++ [.publish ⟨.closing, t.state.attempts⟩, .write socket .close] := by
  simp [drain, Effect.isLog]

@[simp] theorem state_settle (caller : Nat) (wasActive : Bool) (t : Turn) :
    (t.settle caller wasActive).state = { t.state with phase := .closed } := by
  cases wasActive <;> simp [settle]

@[simp] theorem shown_settle (caller : Nat) (wasActive : Bool) (t : Turn) :
    (t.settle caller wasActive).shown =
      t.shown ++ [.publish ⟨.closed, t.state.attempts⟩] ++ farewell wasActive ++
        [.reply caller (.ok ())] := by
  cases wasActive <;> simp [settle, farewell, Effect.isLog]

@[simp] theorem state_shutDown (t : Turn) :
    t.shutDown.state = { t.state with phase := .closed, mode := .stopped } := by
  simp [shutDown]

@[simp] theorem shown_shutDown (t : Turn) :
    t.shutDown.shown = t.shown ++ [.publish ⟨.closed, t.state.attempts⟩, .stop] := by
  simp [shutDown, Effect.isLog]

theorem disconnected_lost (cfg : Config) (env : Surroundings) (code : Option Nat) (reason : String)
    (t : Turn) :
    ∃ es, Lost cfg env code reason t.state (t.disconnected cfg env code reason).state es ∧
      (t.disconnected cfg env code reason).shown = t.shown ++ es := by
  cases hm : t.state.manualClose with
  | true =>
    have hs : (t.disconnected cfg env code reason).state = { t.state.calmed with phase := .closed } := by
      simp [disconnected, State.calmed, hm]
    exact ⟨_, by rw [hs]; exact .manual hm, by simp [disconnected, State.calmed, hm]⟩
  | false =>
    rcases Nat.lt_or_ge t.state.attempts cfg.maxAttempts with hb | hb
    · have hn := Nat.not_le.mpr hb
      have hs : (t.disconnected cfg env code reason).state =
          { t.state.calmed with
            phase := .closed
            attempts := t.state.attempts + 1
            reconnect := some
              (Time.deadline env.moment.ticks (cfg.reconnect.times (t.state.attempts + 1))) } := by
        simp [disconnected, State.calmed, hm, scheduleReconnect, hn]
      exact ⟨_, by rw [hs]; exact .scheduled hm hb,
        by simp [disconnected, State.calmed, hm, scheduleReconnect, hn]⟩
    · have hs : (t.disconnected cfg env code reason).state =
          { t.state.calmed with phase := .closed } := by
        simp [disconnected, State.calmed, hm, scheduleReconnect, hb]
      exact ⟨_, by rw [hs]; exact .exhausted hm hb,
        by simp [disconnected, State.calmed, hm, scheduleReconnect, hb]⟩

@[simp] theorem state_dispatch (env : Surroundings) (payload : String) (t : Turn) :
    (t.dispatch env payload).state = t.state := by
  unfold dispatch
  split
  · simp
  · dsimp only
    split
    · split <;> simp
    · split <;> split <;> simp

@[simp] theorem shown_dispatch (env : Surroundings) (payload : String) (t : Turn) :
    (t.dispatch env payload).shown = t.shown ++ dispatched env t.state.socket payload := by
  unfold dispatch dispatched
  cases Inbound.parse? payload with
  | none => simp
  | some inbound =>
    dsimp only
    by_cases hp : inbound.kind = "ping"
    · cases inbound.messageId <;> simp [hp]
    · cases MessageKind.ofName? inbound.kind <;> cases inbound.messageId <;> simp [hp]

end Turn

namespace State

variable {cfg : Config} {env : Surroundings} {s : State}

def Does (cfg : Config) (env : Surroundings) (s : State) (input : Input) (t : Turn) : Prop :=
  Move cfg env s input t.state t.shown

/-- An attempt that comes after whatever socket is held has been drained. -/
theorem reopen_move {base : State} {input : Input} {caller : Option Nat}
    (hdrain : ∀ socket, base.socket = some socket →
      Move cfg env s input (base.calmed.draining cfg env socket (.reopen caller))
        [.publish ⟨.closing, base.attempts⟩, .write socket .close])
    (hbegin : ∀ result s' es, base.socket = none → Begun cfg env base result s' es →
      Move cfg env s input s' (es ++ answer result caller)) :
    s.Does cfg env input (Turn.reopen cfg env caller { state := base }) := by
  unfold Does Turn.reopen
  cases hs : base.socket with
  | some socket => simpa using hdrain socket hs
  | none =>
    obtain ⟨es, hb, he⟩ := Turn.begin_begun cfg env { state := base }
    simpa [he] using hbegin _ _ es hs hb

theorem connect_move (hm : s.mode = .ready) (caller : Nat) :
    s.Does cfg env (.connect caller) (Turn.connect cfg env caller { state := s }) := by
  by_cases hp : s.phase = .connecting
  · have hmove : Move cfg env s (.connect caller) _ _ := .ignore hm hp
    simpa [Does, Turn.connect, hp, Effect.isLog] using hmove
  · have heq : Turn.connect cfg env caller { state := s } =
        Turn.reopen cfg env (some caller) { state := s.renewed cfg } := if_neg hp
    rw [heq]
    exact reopen_move (fun _ hs => .replace hm hp hs) fun _ _ _ hs hb => .connect hm hp hs hb

theorem close_move (hm : s.mode = .ready) (caller : Nat) :
    s.Does cfg env (.close caller) (Turn.close cfg env caller { state := s }) := by
  unfold Does Turn.close Turn.releaseAll
  cases hs : s.socket with
  | some socket =>
    have hmove : Move cfg env s (.close caller) _ _ := .closeDrain hm hs
    cases hp : s.pending <;> simpa [hp, hs, calmed, forsaken, isActive] using hmove
  | none =>
    have hmove : Move cfg env s (.close caller) _ _ := .close hm hs
    cases hp : s.pending <;> simpa [hp, hs, calmed, forsaken, isActive] using hmove

theorem dialed_move (hm : s.mode = .ready) {socket : Nat} (hp : s.pending = some socket)
    (result : Outcome Unit) :
    s.Does cfg env (.dialed result) (match result with
      | .ok () => Turn.opened cfg env socket { state := s }
      | .error e => Turn.refused cfg env e { state := s }) := by
  unfold Does
  match result with
  | .ok () =>
    unfold Turn.opened
    cases ht : Time.Ticker.startLater? env.moment.ticks cfg.heartbeat with
    | none => simpa [ht, Effect.isLog] using Move.openCrash hm hp ht
    | some ticker => simpa [ht, Effect.isLog] using Move.opened hm hp ht
  | .error e =>
    obtain ⟨es, hl, he⟩ := Turn.disconnected_lost cfg env none "connection attempt failed"
      ((({ state := s } : Turn).dropPending.log
        (.warn ("Connection attempt failed: " ++ e.message))).emit (.error e))
    have hmove : Move cfg env s (.dialed (.error e)) _ _ := .refused hm hp (by simpa using hl)
    simpa [Turn.refused, he, hp] using hmove

theorem received_move (hm : s.mode = .ready) {socket : Nat} (hs : s.socket = some socket)
    (event : SocketEvent) :
    s.Does cfg env (.received event) (Turn.received cfg env event { state := s }) := by
  unfold Does Turn.received
  cases event with
  | text payload =>
    have hmove : Move cfg env s (.received (.text payload)) _ _ := .text hm hs
    simpa [hs] using hmove
  | closed code reason =>
    obtain ⟨es, hl, he⟩ := Turn.disconnected_lost cfg env code reason
      (({ state := s } : Turn).dropSocket.log (.info
        ("Socket closed (code=" ++ Turn.codeText code ++ ", reason=" ++ Text.quoted reason ++ ")")))
    have hmove := Move.lost hm hs (by simpa using hl)
    simpa [he, hs] using hmove
  | error detail =>
    obtain ⟨es, hl, he⟩ := Turn.disconnected_lost cfg env none detail
      ((({ state := s } : Turn).dropSocket.log (.warn ("Socket error: " ++ detail))).emit
        (.error (.connection detail)))
    have hmove := Move.failed hm hs (by simpa using hl)
    simpa [he, hs] using hmove

theorem heartbeat_move (hm : s.mode = .ready) {ticker : Ticker} (ht : s.heartbeat = some ticker)
    (hdue : ticker.due ≤ env.moment.ticks) :
    s.Does cfg env .heartbeatDue (Turn.heartbeat env ticker { state := s }) := by
  unfold Does Turn.heartbeat
  cases ha : ticker.advance? env.moment.ticks with
  | none =>
    have hmove : Move cfg env s .heartbeatDue _ _ := .pingCrash hm ht hdue ha
    simpa [Effect.isLog] using hmove
  | some next =>
    have hmove : Move cfg env s .heartbeatDue _ _ := .ping hm ht hdue ha
    simpa using hmove

theorem stable_move (hm : s.mode = .ready) {due : Nat} (ht : s.stability = some due)
    (hdue : due ≤ env.moment.ticks) :
    s.Does cfg env .stabilityDue (Turn.stable cfg { state := s }) := by
  unfold Does Turn.stable
  have hmove : Move cfg env s .stabilityDue _ _ := .stable hm ht hdue
  by_cases ha : 0 < s.attempts <;> simpa [ha] using hmove

theorem reconnect_move (hm : s.mode = .ready) {due : Nat} (ht : s.reconnect = some due)
    (hdue : due ≤ env.moment.ticks) :
    s.Does cfg env .reconnectDue (Turn.reconnect cfg env { state := s }) := by
  cases hc : s.manualClose with
  | true =>
    have hmove : Move cfg env s .reconnectDue _ _ := .disarm hm ht hdue hc
    simpa [Does, Turn.reconnect, hc] using hmove
  | false =>
    have heq : Turn.reconnect cfg env { state := s } =
        Turn.reopen cfg env none { state := { s with reconnect := none } } := by
      simp [Turn.reconnect, hc]
    rw [heq]
    refine reopen_move (fun _ hs => .reconnectDrain hm ht hdue hc hs) fun _ _ es hs hb => ?_
    simpa [answer] using Move.reconnect hm ht hdue hc hs hb

theorem abandoned_move (hm : s.mode = .ready) (line : LogLine) :
    s.Does cfg env .abandoned (Turn.releaseAll cfg env .shutDown Turn.shutDown
      { ({ state := s } : Turn).log line with state := { s with manualClose := true } }) := by
  unfold Does Turn.releaseAll
  cases hs : s.socket with
  | some socket =>
    have hmove : Move cfg env s .abandoned _ _ := .leaveDrain hm hs
    simpa [hs, calmed, forsaken] using hmove
  | none =>
    have hmove : Move cfg env s .abandoned _ _ := .leave hm hs
    simpa [hs, calmed, forsaken] using hmove

theorem drained_move {socket deadline : Nat} {next : AfterDrain} {input : Input} {t : Turn}
    (hm : s.mode = .draining socket deadline next) (hend : EndsDrain env deadline input)
    (ht : t.state = s) (hshown : t.shown = []) :
    s.Does cfg env input (t.drained cfg env socket next) := by
  subst ht
  unfold Does Turn.drained
  cases next with
  | reopen caller =>
    obtain ⟨es, hb, he⟩ := Turn.begin_begun cfg env
      (({ t with state := { t.state with mode := .ready } }.act (.release socket)).emit
        (.closed none "replaced" true))
    have hmove := Move.reopen hm hend (by simpa using hb)
    simpa [he, hshown, Effect.isLog] using hmove
  | settle caller wasActive =>
    have hmove : Move cfg env t.state input _ _ := .settle hm hend
    simpa [hshown, Effect.isLog] using hmove
  | shutDown =>
    have hmove : Move cfg env t.state input _ _ := .shutDown hm hend
    simpa [hshown, Effect.isLog] using hmove

theorem handle_move (hm : s.mode = .ready) (input : Input) :
    s.Does cfg env input (s.handle cfg env input) := by
  have hskip : ¬ s.Accepts env input → s.Does cfg env input { state := s } := .skip
  unfold handle
  cases input with
  | connect caller => exact connect_move hm caller
  | close caller => exact close_move hm caller
  | send o =>
    by_cases hs : s.phase = .open ∧ s.socket.isSome
    · obtain ⟨socket, hsocket⟩ := Option.isSome_iff_exists.mp hs.2
      have hmove : Move cfg env s (.send o) _ _ := .send hm hs.1 hsocket
      simpa [Does, hs.1, hsocket] using hmove
    · have hmove : Move cfg env s (.send o) _ _ := .dropSend hm (by simpa using hs)
      simpa [Does, hs] using hmove
  | dialed result =>
    cases hp : s.pending with
    | none => exact hskip (by simp [Accepts, hm, hp])
    | some socket => cases result <;> exact dialed_move hm hp _
  | received event =>
    cases hs : s.socket with
    | none => exact hskip (by simp [Accepts, hm, hs])
    | some socket => exact received_move hm hs event
  | heartbeatDue =>
    cases ht : s.heartbeat with
    | none => exact hskip (by simp [Accepts, hm, ht])
    | some ticker =>
      by_cases hdue : ticker.due ≤ env.moment.ticks
      · simpa [hdue] using heartbeat_move hm ht hdue
      · simpa [hdue] using hskip (by simpa [Accepts, hm, ht] using hdue)
  | stabilityDue =>
    cases ht : s.stability with
    | none => exact hskip (by simp [Accepts, hm, ht])
    | some due =>
      by_cases hdue : due ≤ env.moment.ticks
      · simpa [hdue] using stable_move hm ht hdue
      · simpa [hdue] using hskip (by simpa [Accepts, hm, ht] using hdue)
  | reconnectDue =>
    cases ht : s.reconnect with
    | none => exact hskip (by simp [Accepts, hm, ht])
    | some due =>
      by_cases hdue : due ≤ env.moment.ticks
      · simpa [hdue] using reconnect_move hm ht hdue
      · simpa [hdue] using hskip (by simpa [Accepts, hm, ht] using hdue)
  | drainOver => exact hskip (by simp [Accepts, hm])
  | abandoned => exact abandoned_move hm _

/-- Every step of a session is one of the moves. -/
theorem step_move (cfg : Config) (env : Surroundings) (s : State) (input : Input) :
    s.Does cfg env input (s.step cfg env input) := by
  have hskip : ¬ s.Accepts env input → s.Does cfg env input { state := s } := .skip
  unfold step
  cases hm : s.mode with
  | ready => exact handle_move hm input
  | stopped => exact hskip (by simp [Accepts, hm])
  | draining socket deadline next =>
    cases input with
    | received event =>
      cases event with
      | text payload => exact Move.drainText hm
      | closed code reason => exact drained_move hm rfl rfl rfl
      | error detail => exact drained_move hm rfl rfl rfl
    | drainOver =>
      by_cases hdue : deadline ≤ env.moment.ticks
      · have hend : EndsDrain env deadline .drainOver := hdue
        simpa [hdue] using drained_move hm hend rfl (by simp)
      · simpa [hdue] using hskip (by simpa [Accepts, hm] using hdue)
    | _ => exact hskip (by simp [Accepts, hm])

end State
end Courier.Session
