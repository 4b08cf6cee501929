import Courier.Session.Machine

/-! Everything that one step of a session can do. `Move` lists it: what an input finds, the state that
it leaves and its effects in order, log lines apart. `step_move` shows that the machine does nothing
else, so that a fact about every step is a case analysis over the moves. -/

namespace Courier.Session

open Time (Ticker)

def Effect.isLog : Effect → Bool
  | log _ => true
  | _ => false

def visible (effects : List Effect) : List Effect := effects.filter (!·.isLog)

@[simp] theorem visible_nil : visible [] = [] := rfl

@[simp] theorem visible_append (a b : List Effect) : visible (a ++ b) = visible a ++ visible b :=
  List.filter_append ..

namespace State

/-- What a command to connect makes of the state before anything else. -/
def renewed (cfg : Config) (s : State) : State :=
  { s with
    attempts := if s.manualClose || cfg.maxAttempts ≤ s.attempts then 0 else s.attempts
    manualClose := false
    reconnect := none }

def calmed (s : State) : State := { s with heartbeat := none, stability := none }

@[simp] theorem calmed_attempts (s : State) : s.calmed.attempts = s.attempts := rfl

/-- All but the socket has been let go of, for good. -/
def forsaken (s : State) : State :=
  { s with
    manualClose := true, pending := none, heartbeat := none, stability := none, reconnect := none }

def draining (cfg : Config) (env : Surroundings) (socket : Nat) (next : AfterDrain) (s : State) :
    State :=
  { s with
    socket := none
    phase := .closing
    mode := .draining socket (Time.limit env.moment.ticks cfg.closeTimeout) next }

def isActive (s : State) : Bool := s.phase = .connecting || s.phase = .open

/-- Whether an input can arrive in a state. While a socket is drained that is so only for what it
delivers and for the end of the drain. -/
def Accepts (env : Surroundings) (s : State) (input : Input) : Prop :=
  match s.mode, input with
  | .ready, .connect _ | .ready, .close _ | .ready, .send _ | .ready, .abandoned => True
  | .ready, .dialed _ => s.pending.isSome
  | .ready, .received _ => s.socket.isSome
  | .ready, .heartbeatDue => ∃ ticker, s.heartbeat = some ticker ∧ ticker.due ≤ env.moment.ticks
  | .ready, .stabilityDue => ∃ due, s.stability = some due ∧ due ≤ env.moment.ticks
  | .ready, .reconnectDue => ∃ due, s.reconnect = some due ∧ due ≤ env.moment.ticks
  | .draining _ _ _, .received _ => True
  | .draining _ deadline _, .drainOver => deadline ≤ env.moment.ticks
  | _, _ => False

end State

def answer (result : Outcome Unit) : Option Nat → List Effect
  | some caller => [.reply caller result]
  | none => []

/-- A message on the held socket, if its other end is still there. -/
def written (env : Surroundings) (socket : Option Nat) (o : Outbound) : List Effect :=
  match socket with
  | some socket => if env.reachable then [.write socket (.message o)] else []
  | none => []

def farewell (wasActive : Bool) : List Effect :=
  if wasActive then [.emit (.closed none "closed by client" true)] else []

def dispatched (env : Surroundings) (socket : Option Nat) (payload : String) : List Effect :=
  match Inbound.parse? payload with
  | none => []
  | some inbound =>
    (match inbound.messageId with
      | none => []
      | some id => written env socket (.ack env.moment.wall env.seed id)) ++
    if inbound.kind = "ping" then written env socket (.pong env.moment.wall (env.seed + 1))
    else
      match MessageKind.ofName? inbound.kind with
      | some kind => [.emit (.message ⟨kind, inbound.data.getD .null, inbound.messageId⟩)]
      | none => []

inductive Begun (cfg : Config) (env : Surroundings) (s : State) :
    Outcome Unit → State → List Effect → Prop where
  | failed {e} : Turn.address cfg env = .error e →
      Begun cfg env s (.error e) { s with phase := .closed }
        [.publish ⟨.closed, s.attempts⟩, .emit (.error e)]
  | dialing {url} : Turn.address cfg env = .ok url →
      Begun cfg env s (.ok ())
        { s with pending := some s.dialed, dialed := s.dialed + 1, phase := .connecting }
        [.dial s.dialed url, .publish ⟨.connecting, s.attempts⟩, .emit (.connecting s.attempts)]

inductive Lost (cfg : Config) (env : Surroundings) (code : Option Nat) (reason : String) (s : State) :
    State → List Effect → Prop where
  | manual : s.manualClose = true →
      Lost cfg env code reason s { s.calmed with phase := .closed }
        [.publish ⟨.closed, s.attempts⟩, .emit (.closed code reason false)]
  | exhausted : s.manualClose = false → cfg.maxAttempts ≤ s.attempts →
      Lost cfg env code reason s { s.calmed with phase := .closed }
        [.publish ⟨.closed, s.attempts⟩, .emit (.closed code reason false),
          .emit (.exhausted s.attempts), .emit (.error (.connection
            ("reconnect attempts exhausted after " ++ toString s.attempts ++ " attempts")))]
  | scheduled : s.manualClose = false → s.attempts < cfg.maxAttempts →
      Lost cfg env code reason s
        { s.calmed with
          phase := .closed
          attempts := s.attempts + 1
          reconnect := some
            (Time.deadline env.moment.ticks (cfg.reconnect.times (s.attempts + 1))) }
        [.publish ⟨.closed, s.attempts⟩, .emit (.closed code reason false),
          .publish ⟨.closed, s.attempts + 1⟩,
          .emit (.reconnecting (s.attempts + 1) (cfg.reconnect.times (s.attempts + 1)))]

/-- Whether an input ends a drain: the socket confirms or fails, or the time is up. -/
def EndsDrain (env : Surroundings) (deadline : Nat) : Input → Prop
  | .received event => event.isTerminal = true
  | .drainOver => deadline ≤ env.moment.ticks
  | _ => False

theorem EndsDrain.accepts {env : Surroundings} {s : State} {input : Input} {socket deadline : Nat}
    {next : AfterDrain} (h : EndsDrain env deadline input) (hm : s.mode = .draining socket deadline next) :
    s.Accepts env input := by
  cases input with
  | received _ => simp [State.Accepts, hm]
  | drainOver =>
    simp only [State.Accepts, hm]
    exact h
  | _ => exact h.elim

/-- What one step can do: the input, the state that it leaves and its effects. -/
inductive Move (cfg : Config) (env : Surroundings) (s : State) :
    Input → State → List Effect → Prop where
  | skip {input} : ¬ s.Accepts env input → Move cfg env s input s []
  -- commands
  | ignore {caller} : s.mode = .ready → s.phase = .connecting →
      Move cfg env s (.connect caller) s [.reply caller (.ok ())]
  | replace {caller socket} : s.mode = .ready → s.phase ≠ .connecting → s.socket = some socket →
      Move cfg env s (.connect caller)
        ((s.renewed cfg).calmed.draining cfg env socket (.reopen (some caller)))
        [.publish ⟨.closing, (s.renewed cfg).attempts⟩, .write socket .close]
  | connect {caller result s' es} : s.mode = .ready → s.phase ≠ .connecting → s.socket = none →
      Begun cfg env (s.renewed cfg) result s' es →
      Move cfg env s (.connect caller) s' (es ++ [.reply caller result])
  | closeDrain {caller socket} : s.mode = .ready → s.socket = some socket →
      Move cfg env s (.close caller)
        (s.forsaken.draining cfg env socket (.settle caller s.isActive))
        (s.pending.toList.map .release ++
          [.publish ⟨.closing, s.attempts⟩, .write socket .close])
  | close {caller} : s.mode = .ready → s.socket = none →
      Move cfg env s (.close caller) { s.forsaken with phase := .closed }
        (s.pending.toList.map .release ++ [.publish ⟨.closed, s.attempts⟩] ++
          farewell s.isActive ++ [.reply caller (.ok ())])
  | send {o socket} : s.mode = .ready → s.phase = .open → s.socket = some socket →
      Move cfg env s (.send o) s (written env (some socket) o)
  | dropSend {o} : s.mode = .ready → (s.phase = .open → s.socket = none) →
      Move cfg env s (.send o) s []
  -- the attempt in flight
  | opened {socket ticker} : s.mode = .ready → s.pending = some socket →
      Ticker.startLater? env.moment.ticks cfg.heartbeat = some ticker →
      Move cfg env s (.dialed (.ok ()))
        { s with
          pending := none
          socket := some socket
          phase := .open
          heartbeat := some ticker
          stability := some (Time.deadline env.moment.ticks cfg.stability) }
        [.publish ⟨.open, s.attempts⟩, .emit .opened]
  | openCrash {socket} : s.mode = .ready → s.pending = some socket →
      Ticker.startLater? env.moment.ticks cfg.heartbeat = none →
      Move cfg env s (.dialed (.ok ()))
        { s with pending := none, socket := none, phase := .open, mode := .stopped }
        [.publish ⟨.open, s.attempts⟩, .release socket, .stop]
  | refused {socket e s' es} : s.mode = .ready → s.pending = some socket →
      Lost cfg env none "connection attempt failed" { s with pending := none } s' es →
      Move cfg env s (.dialed (.error e)) s' (.release socket :: .emit (.error e) :: es)
  -- the held socket
  | text {socket payload} : s.mode = .ready → s.socket = some socket →
      Move cfg env s (.received (.text payload)) s (dispatched env (some socket) payload)
  | lost {socket code reason s' es} : s.mode = .ready → s.socket = some socket →
      Lost cfg env code reason { s with socket := none } s' es →
      Move cfg env s (.received (.closed code reason)) s' (.release socket :: es)
  | failed {socket detail s' es} : s.mode = .ready → s.socket = some socket →
      Lost cfg env none detail { s with socket := none } s' es →
      Move cfg env s (.received (.error detail)) s'
        (.release socket :: .emit (.error (.connection detail)) :: es)
  -- timers
  | ping {ticker next} : s.mode = .ready → s.heartbeat = some ticker →
      ticker.due ≤ env.moment.ticks → ticker.advance? env.moment.ticks = some next →
      Move cfg env s .heartbeatDue { s with heartbeat := some next }
        (written env s.socket (.ping env.moment.wall env.seed))
  | pingCrash {ticker} : s.mode = .ready → s.heartbeat = some ticker →
      ticker.due ≤ env.moment.ticks → ticker.advance? env.moment.ticks = none →
      Move cfg env s .heartbeatDue { s with socket := none, mode := .stopped }
        (s.socket.toList.map .release ++ [.stop])
  | stable {due} : s.mode = .ready → s.stability = some due → due ≤ env.moment.ticks →
      Move cfg env s .stabilityDue { s with stability := none, attempts := 0 }
        [.publish ⟨s.phase, 0⟩]
  | disarm {due} : s.mode = .ready → s.reconnect = some due → due ≤ env.moment.ticks →
      s.manualClose = true → Move cfg env s .reconnectDue { s with reconnect := none } []
  | reconnectDrain {due socket} : s.mode = .ready → s.reconnect = some due →
      due ≤ env.moment.ticks → s.manualClose = false → s.socket = some socket →
      Move cfg env s .reconnectDue
        ({ s with reconnect := none }.calmed.draining cfg env socket (.reopen none))
        [.publish ⟨.closing, s.attempts⟩, .write socket .close]
  | reconnect {due result s' es} : s.mode = .ready → s.reconnect = some due →
      due ≤ env.moment.ticks → s.manualClose = false → s.socket = none →
      Begun cfg env { s with reconnect := none } result s' es →
      Move cfg env s .reconnectDue s' es
  -- the last handle is gone
  | leaveDrain {socket} : s.mode = .ready → s.socket = some socket →
      Move cfg env s .abandoned (s.forsaken.draining cfg env socket .shutDown)
        (s.pending.toList.map .release ++
          [.publish ⟨.closing, s.attempts⟩, .write socket .close])
  | leave : s.mode = .ready → s.socket = none →
      Move cfg env s .abandoned { s.forsaken with phase := .closed, mode := .stopped }
        (s.pending.toList.map .release ++ [.publish ⟨.closed, s.attempts⟩, .stop])
  -- a drain
  | drainText {socket deadline next payload} : s.mode = .draining socket deadline next →
      Move cfg env s (.received (.text payload)) s []
  | reopen {socket deadline caller input result s' es} :
      s.mode = .draining socket deadline (.reopen caller) → EndsDrain env deadline input →
      Begun cfg env { s with mode := .ready } result s' es →
      Move cfg env s input s'
        ([.release socket, .emit (.closed none "replaced" true)] ++ es ++ answer result caller)
  | settle {socket deadline caller wasActive input} :
      s.mode = .draining socket deadline (.settle caller wasActive) → EndsDrain env deadline input →
      Move cfg env s input { s with mode := .ready, phase := .closed }
        ([.release socket, .publish ⟨.closed, s.attempts⟩] ++ farewell wasActive ++
          [.reply caller (.ok ())])
  | shutDown {socket deadline input} :
      s.mode = .draining socket deadline .shutDown → EndsDrain env deadline input →
      Move cfg env s input { s with mode := .stopped, phase := .closed }
        [.release socket, .publish ⟨.closed, s.attempts⟩, .stop]

end Courier.Session
