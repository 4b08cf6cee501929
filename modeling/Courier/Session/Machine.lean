import Courier.Log
import Courier.Redaction
import Courier.Session.Config
import Courier.Session.Endpoint
import Courier.Session.Event
import Courier.Session.Status
import Courier.Time.Clock

/-!
The state machine of a session. It owns the one socket of the session and its timers, and handles
its inputs one at a time: commands of the handles, the result of an attempt to connect, events of
the socket, and timers. A step answers with the effects that the input has, in their order.

While a socket is drained, only its events and the end of the drain are handled; all other inputs
wait. Sockets are numbered in the order in which they are dialed.
-/

namespace Courier.Session

open Time (Moment Ticker)

/-- What follows when a socket has been drained. -/
inductive AfterDrain where
  /-- A new attempt, for a caller of connect or for the reconnect timer. -/
  | reopen (caller : Option Nat)
  /-- The end of a close command; `wasActive` when the session was connecting or open. -/
  | settle (caller : Nat) (wasActive : Bool)
  /-- The end of the session. -/
  | shutDown

inductive Mode where
  | ready
  | draining (socket deadline : Nat) (next : AfterDrain)
  | stopped

structure State where
  phase : Phase := .idle
  attempts : Nat := 0
  manualClose : Bool := false
  socket : Option Nat := none
  pending : Option Nat := none
  heartbeat : Option Ticker := none
  /-- The tick at which the connection counts as stable. -/
  stability : Option Nat := none
  /-- The tick of the next automatic attempt. -/
  reconnect : Option Nat := none
  mode : Mode := .ready
  /-- How many sockets have been dialed. -/
  dialed : Nat := 0

inductive Input where
  | connect (caller : Nat)
  | close (caller : Nat)
  | send (message : Outbound)
  /-- The attempt in flight has succeeded or failed. -/
  | dialed (result : Outcome Unit)
  /-- The socket, held or being drained, delivered something. -/
  | received (event : SocketEvent)
  | heartbeatDue
  | stabilityDue
  | reconnectDue
  /-- The time for draining is up. -/
  | drainOver
  /-- The last handle is gone, and no command is left. -/
  | abandoned

inductive Effect where
  | log (line : LogLine)
  | emit (event : Event)
  | publish (status : Status)
  /-- Starts an attempt to connect. -/
  | dial (socket : Nat) (url : String)
  | write (socket : Nat) (frame : Frame)
  /-- Lets go of a socket, or of the attempt to connect it. -/
  | release (socket : Nat)
  | reply (caller : Nat) (result : Outcome Unit)
  /-- Nothing will be handled any more. -/
  | stop

structure Surroundings where
  moment : Moment
  /-- Identifiers of messages are drawn from this. -/
  seed : UInt64
  /-- The stored access token. -/
  token : Option String
  /-- Whether the other end of the held socket is still there. -/
  reachable : Bool

structure Turn where
  state : State
  effects : List Effect := []

namespace Turn

def act (t : Turn) (e : Effect) : Turn := { t with effects := t.effects ++ [e] }

def log (t : Turn) (line : LogLine) : Turn := t.act (.log line)

def emit (t : Turn) (e : Event) : Turn := t.act (.emit e)

def publish (t : Turn) : Turn := t.act (.publish ⟨t.state.phase, t.state.attempts⟩)

/-- Enters a phase. It is published also when it is the old one. -/
def enter (t : Turn) (p : Phase) : Turn :=
  let t := if t.state.phase = p then t
    else t.log (.debug ("Session state " ++ t.state.phase.text ++ " -> " ++ p.text))
  { t with state := { t.state with phase := p } }.publish

def stopOpenTimers (t : Turn) : Turn :=
  { t with state := { t.state with heartbeat := none, stability := none } }

def transmit (env : Surroundings) (t : Turn) (o : Outbound) : Turn :=
  match t.state.socket with
  | none => t.log (.warn ("No socket; dropping outbound '" ++ o.kind ++ "' message"))
  | some socket =>
    if env.reachable then t.act (.write socket (.message o))
    else t.log (.debug ("Socket gone; '" ++ o.kind ++ "' message not sent"))

/-- Lets go of the attempt in flight, if there is one. -/
def dropPending (t : Turn) : Turn :=
  match t.state.pending with
  | none => t
  | some socket => { t with state := { t.state with pending := none } }.act (.release socket)

/-- Lets go of the held socket, if there is one. -/
def dropSocket (t : Turn) : Turn :=
  match t.state.socket with
  | none => t
  | some socket => { t with state := { t.state with socket := none } }.act (.release socket)

def address (cfg : Config) (env : Surroundings) : Outcome String :=
  match env.token with
  | none => .error (.auth "no access token available; log in before connecting")
  | some token => endpoint cfg.baseUrl token

/-- Starts an attempt to connect, and says why if none can begin. -/
def begin (cfg : Config) (env : Surroundings) (t : Turn) : Turn × Outcome Unit :=
  match address cfg env with
  | .error e => ((t.enter .closed).emit (.error e), .error e)
  | .ok url =>
    let socket := t.state.dialed
    let t := t.log (.info ("Connecting to " ++ Redaction.url url))
    let t := { t with state := { t.state with pending := some socket, dialed := socket + 1 } }
    let t := (t.act (.dial socket url)).enter .connecting
    (t.emit (.connecting t.state.attempts), .ok ())

def report (caller : Option Nat) (result : Turn × Outcome Unit) : Turn :=
  match caller, result with
  | some caller, (t, outcome) => t.act (.reply caller outcome)
  | none, (t, .ok ()) => t
  | none, (t, .error e) => t.log (.error ("Reconnect aborted: " ++ e.message))

/-- Asks a socket to close, and waits for it to confirm. -/
def drain (cfg : Config) (env : Surroundings) (t : Turn) (socket : Nat) (next : AfterDrain) :
    Turn :=
  let t := { t with state := { t.state with socket := none } }
  let t := (t.enter .closing).act (.write socket .close)
  let deadline := Time.limit env.moment.ticks cfg.closeTimeout
  { t with state := { t.state with mode := .draining socket deadline next } }

/-- Drains the held socket if there is one, then starts an attempt. -/
def reopen (cfg : Config) (env : Surroundings) (caller : Option Nat) (t : Turn) : Turn :=
  match t.state.socket with
  | some socket => t.stopOpenTimers.drain cfg env socket (.reopen caller)
  | none => report caller (t.begin cfg env)

def settle (caller : Nat) (wasActive : Bool) (t : Turn) : Turn :=
  let t := t.enter .closed
  let t := if wasActive then
      (t.log (.info "Session closed by client")).emit (.closed none "closed by client" true)
    else t
  t.act (.reply caller (.ok ()))

def shutDown (t : Turn) : Turn :=
  let t := t.enter .closed
  { t with state := { t.state with mode := .stopped } }.act .stop

def releaseAll (cfg : Config) (env : Surroundings) (next : AfterDrain) (done : Turn → Turn)
    (t : Turn) : Turn :=
  let t := t.dropPending
  let t := { t with state := { t.state with reconnect := none } }.stopOpenTimers
  match t.state.socket with
  | some socket => t.drain cfg env socket next
  | none => done t

def connect (cfg : Config) (env : Surroundings) (caller : Nat) (t : Turn) : Turn :=
  if t.state.phase = .connecting then
    (t.log (.debug "Connect ignored: a connection attempt is already in progress")).act
      (.reply caller (.ok ()))
  else
    let attempts :=
      if t.state.manualClose || cfg.maxAttempts ≤ t.state.attempts then 0 else t.state.attempts
    let state := { t.state with attempts := attempts, manualClose := false, reconnect := none }
    { t with state := state }.reopen cfg env (some caller)

def close (cfg : Config) (env : Surroundings) (caller : Nat) (t : Turn) : Turn :=
  let t := { t with state := { t.state with manualClose := true, reconnect := none } }
  let t := match t.state.pending with
    | none => t
    | some _ => t.dropPending.log (.debug "Abandoned in-flight connection attempt")
  let wasActive := t.state.phase = .connecting || t.state.phase = .open
  t.releaseAll cfg env (.settle caller wasActive) (settle caller wasActive)

/-- Schedules the next attempt: the n-th in a row waits n times the unit of the backoff. -/
def scheduleReconnect (cfg : Config) (env : Surroundings) (t : Turn) : Turn :=
  let attempts := t.state.attempts
  let ofBudget (n : Nat) : String := toString n ++ "/" ++ toString cfg.maxAttempts
  if cfg.maxAttempts ≤ attempts then
    let t := t.log (.error ("Reconnect attempts exhausted (" ++ ofBudget attempts ++ ")"))
    (t.emit (.exhausted attempts)).emit (.error (.connection
      ("reconnect attempts exhausted after " ++ toString attempts ++ " attempts")))
  else
    let attempt := attempts + 1
    let delay := cfg.reconnect.times attempt
    let t := t.log (.info
      ("Reconnecting in " ++ delay.text ++ " (attempt " ++ ofBudget attempt ++ ")"))
    let due := Time.deadline env.moment.ticks delay
    let t := { t with state := { t.state with attempts := attempt, reconnect := some due } }
    t.publish.emit (.reconnecting attempt delay)

def disconnected (cfg : Config) (env : Surroundings) (code : Option Nat) (reason : String)
    (t : Turn) : Turn :=
  let t := (t.stopOpenTimers.enter .closed).emit (.closed code reason false)
  if t.state.manualClose then t else t.scheduleReconnect cfg env

/-- The attempt in flight has succeeded. The session stops where the heartbeat cannot start. -/
def opened (cfg : Config) (env : Surroundings) (socket : Nat) (t : Turn) : Turn :=
  let t := { t with state := { t.state with pending := none, socket := some socket } }
  let t := t.enter .open
  match Ticker.startLater? env.moment.ticks cfg.heartbeat with
  | none =>
    let t := t.dropSocket
    { t with state := { t.state with mode := .stopped } }.act .stop
  | some ticker =>
    let stable := Time.deadline env.moment.ticks cfg.stability
    let t := { t with state := { t.state with heartbeat := some ticker, stability := some stable } }
    (t.log (.info "Session open")).emit .opened

def refused (cfg : Config) (env : Surroundings) (e : Error) (t : Turn) : Turn :=
  let t := t.dropPending.log (.warn ("Connection attempt failed: " ++ e.message))
  (t.emit (.error e)).disconnected cfg env none "connection attempt failed"

def dispatch (env : Surroundings) (payload : String) (t : Turn) : Turn :=
  match Inbound.parse? payload with
  | none => t.log (.warn "Dropping message: protocol error: unparsable inbound payload")
  | some inbound =>
    let t := match inbound.messageId with
      | none => t
      | some id => t.transmit env (.ack env.moment.wall env.seed id)
    if inbound.kind = "ping" then t.transmit env (.pong env.moment.wall (env.seed + 1))
    else
      match MessageKind.ofName? inbound.kind with
      | some kind =>
        (t.log (.debug ("Dispatching '" ++ kind.wireName ++ "' message"))).emit
          (.message ⟨kind, inbound.data.getD .null, inbound.messageId⟩)
      | none => t.log (.info ("Ignoring message of unrecognized type '" ++ inbound.kind ++ "'"))

def codeText : Option Nat → String
  | none => "None"
  | some code => "Some(" ++ toString code ++ ")"

def received (cfg : Config) (env : Surroundings) (event : SocketEvent) (t : Turn) : Turn :=
  match event with
  | .text payload => t.dispatch env payload
  | .closed code reason =>
    let t := t.dropSocket.log (.info
      ("Socket closed (code=" ++ codeText code ++ ", reason=" ++ Text.quoted reason ++ ")"))
    t.disconnected cfg env code reason
  | .error detail =>
    let t := t.dropSocket.log (.warn ("Socket error: " ++ detail))
    (t.emit (.error (.connection detail))).disconnected cfg env none detail

def stable (cfg : Config) (t : Turn) : Turn :=
  let t := { t with state := { t.state with stability := none } }
  let t := if 0 < t.state.attempts then
      t.log (.info
        ("Connection stable for " ++ cfg.stability.text ++ "; resetting reconnect attempts"))
    else t
  { t with state := { t.state with attempts := 0 } }.publish

def drained (cfg : Config) (env : Surroundings) (socket : Nat) (next : AfterDrain) (t : Turn) :
    Turn :=
  let t := { t with state := { t.state with mode := .ready } }.act (.release socket)
  match next with
  | .reopen caller =>
    report caller ((t.emit (.closed none "replaced" true)).begin cfg env)
  | .settle caller wasActive => t.settle caller wasActive
  | .shutDown => t.shutDown

def heartbeat (env : Surroundings) (ticker : Ticker) (t : Turn) : Turn :=
  match ticker.advance? env.moment.ticks with
  | none =>
    let t := t.dropSocket
    { t with state := { t.state with mode := .stopped } }.act .stop
  | some ticker =>
    { t with state := { t.state with heartbeat := some ticker } }.transmit env
      (.ping env.moment.wall env.seed)

def reconnect (cfg : Config) (env : Surroundings) (t : Turn) : Turn :=
  let t := { t with state := { t.state with reconnect := none } }
  if t.state.manualClose then t else t.reopen cfg env none

end Turn

def State.handle (cfg : Config) (env : Surroundings) (s : State) (input : Input) : Turn :=
  let t : Turn := { state := s }
  match input with
  | .connect caller => t.connect cfg env caller
  | .close caller => t.close cfg env caller
  | .send o =>
    if s.phase = .open && s.socket.isSome then t.transmit env o
    else t.log (.warn
      ("Not connected (" ++ s.phase.text ++ "); dropping outbound '" ++ o.kind ++ "' message"))
  | .dialed result =>
    match s.pending, result with
    | none, _ => t
    | some socket, .ok () => t.opened cfg env socket
    | some _, .error e => t.refused cfg env e
  | .received event => if s.socket.isSome then t.received cfg env event else t
  | .heartbeatDue =>
    match s.heartbeat with
    | none => t
    | some ticker => if ticker.due ≤ env.moment.ticks then t.heartbeat env ticker else t
  | .stabilityDue =>
    match s.stability with
    | none => t
    | some due => if due ≤ env.moment.ticks then t.stable cfg else t
  | .reconnectDue =>
    match s.reconnect with
    | none => t
    | some due => if due ≤ env.moment.ticks then t.reconnect cfg env else t
  | .drainOver => t
  | .abandoned =>
    let t := t.log (.debug "All session handles dropped; shutting down")
    let t := { t with state := { t.state with manualClose := true } }
    t.releaseAll cfg env .shutDown Turn.shutDown

/-- One step of a session: the state after an input, and what the input leads to. An input that
cannot arrive in a state has no effect. -/
def State.step (cfg : Config) (env : Surroundings) (s : State) (input : Input) : Turn :=
  match s.mode with
  | .ready => s.handle cfg env input
  | .stopped => { state := s }
  | .draining socket deadline next =>
    let t : Turn := { state := s }
    match input with
    | .received event => if event.isTerminal then t.drained cfg env socket next else t
    | .drainOver =>
      if deadline ≤ env.moment.ticks then
        (t.log (.warn ("Socket did not confirm close within " ++ cfg.closeTimeout.text
          ++ "; releasing it"))).drained cfg env socket next
      else t
    | _ => t

def State.nextDue? (s : State) : Option Nat :=
  match s.mode with
  | .ready => ((s.heartbeat.map Ticker.due).toList ++ s.stability.toList ++ s.reconnect.toList).min?
  | .draining _ deadline _ => some deadline
  | .stopped => none

def State.initial : State := {}

end Courier.Session
