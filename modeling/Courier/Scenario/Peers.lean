import Courier.Scenario.World

/-!
The peers of sockets and the session between them. A peer does one thing after the other: it
finishes what it has begun, reads what the session wrote, notices that the session let go, and takes
up what it was told to do.
-/

namespace Courier.Scenario

open Session (SocketEvent Frame)

def PeerMove.delivered? : PeerMove → Option SocketEvent
  | .text s => some (.text s)
  | .close code reason => some (.closed code reason)
  | .fail detail => some (.error detail)
  | .drop => none

def act (k : Nat) (a : PeerAction) : Play Unit := do
  match a.move.delivered? with
  | some e => modifyPeer k fun p => { p with outbox := p.outbox ++ [e] }
  | none => modifyPeer k fun p => { p with ended := true }
  modifyPeer k fun p => { p with current := p.current.drop 1, wake := none }
  wake .session

def seeFrame (k : Nat) (frame : Option Frame) : Play Unit :=
  modify fun w => { w with frames := w.frames.push ⟨w.now, k, frame⟩ }

/-- One move of a peer; false when it has to wait. -/
def peerStep (k : Nat) : Play Bool := do
  let w ← get
  match w.peers[k]? with
  | none => return false
  | some p =>
    if p.ended then return false
    match p.current, p.inbox with
    | a :: _, _ =>
      match p.wake, a.delay with
      | some due, _ =>
        if due ≤ w.now then act k a; return true
        else return false
      | none, none => act k a; return true
      | none, some d =>
        let due := Time.deadline w.now d
        modifyPeer k fun p => { p with wake := some due }
        return true
    | [], frame :: rest =>
      modifyPeer k fun p => { p with inbox := rest }
      seeFrame k (some frame)
      match frame with
      | .close => modifyPeer k fun p => { p with current := p.onClose }
      | .message _ => pure ()
      return true
    | [], [] =>
      if p.released then
        seeFrame k none
        modifyPeer k fun p => { p with ended := true }
        return false
      match p.queued with
      | [] => return false
      | a :: rest =>
        modifyPeer k fun p => { p with current := [a], queued := rest }
        return true

def isReading (w : World) (c : Running) : Bool :=
  match c.stage, c.order.bind (w.tracked[·]?) with
  | .tracking, some t => t.order.mode == .pushes || t.order.mode == .either
  | _, _ => false

def isWatching (c : Running) : Bool :=
  match c.stage with
  | .watching _ => true
  | _ => false

def newPeer (w : World) : Peer :=
  let entry := (scripted? w.setup.connector w.peers.size).getD {}
  { ready := match entry.delay with | none => w.now | some d => Time.deadline w.now d
    refusal := entry.refusal
    onClose := entry.onClose }

def answerCaller (caller : Nat) (result : Outcome Unit) : Play Unit := do
  modifyCall caller fun c => { c with answer := some result }
  wake (.call caller)

/-- Carries out an effect of the session, whose published side is taken care of. -/
def perform (e : Session.Effect) : Play Unit := do
  match e with
  | .log line => log line
  | .emit _ =>
    let w ← get
    wakeCalls (isReading w)
  | .publish _ => wakeCalls isWatching
  | .dial socket url =>
    modify fun w => { w with dials := w.dials.push ⟨w.now, url⟩, peers := w.peers.push (newPeer w) }
    wake (.peer socket)
  | .write socket frame =>
    modifyPeer socket fun p => if p.ended then p else { p with inbox := p.inbox ++ [frame] }
    wake (.peer socket)
  | .release socket =>
    modifyPeer socket fun p => { p with released := true }
    wake (.peer socket)
  | .reply caller result => answerCaller caller result
  | .stop =>
    let commands := (← get).link.commands
    modify fun w => { w with link := { w.link with commands := [] } }
    for c in commands do
      match c.unhandled? with
      | some (caller, result) => answerCaller caller result
      | none => pure ()
    wakeCalls isWatching

def handle (input : Session.Input) : Play Unit := do
  let seed ← draw
  let w ← get
  let reachable := match w.link.machine.socket.bind (w.peers[·]?) with
    | some p => !p.ended
    | none => false
  let env : Session.Surroundings :=
    { moment := w.moment
      seed := seed
      token := w.coordinator.accessToken?
      reachable := reachable }
  let (link, effects) := w.link.step env input
  set { w with link := link }
  effects.forM perform

/-- What a socket delivers next, if it does. -/
def takeEvent (socket : Nat) : Play (Option SocketEvent) := do
  match (← get).peers[socket]? with
  | none => return none
  | some p =>
    match p.outbox with
    | e :: rest =>
      modifyPeer socket fun p => { p with outbox := rest }
      return some e
    | [] => return if p.ended then some .dropped else none

def takeCommand : Play (Option Session.Command) := do
  let w ← get
  match w.link.commands with
  | [] => return none
  | c :: rest =>
    set { w with link := { w.link with commands := rest } }
    return some c

/-- The result of the attempt in flight, if it has one. -/
def dialResult? (w : World) : Option (Outcome Unit) := do
  let p ← w.peers[← w.link.machine.pending]?
  if p.ready ≤ w.now then
    match p.refusal with
    | none => some (.ok ())
    | some detail => some (.error (.connection detail))
  else none

def timerInput? (w : World) : Option Session.Input :=
  let m := w.link.machine
  let isDue (due : Option Nat) : Bool := match due with | some t => t ≤ w.now | none => false
  if isDue (m.heartbeat.map Time.Ticker.due) then some .heartbeatDue
  else if isDue m.stability then some .stabilityDue
  else if isDue m.reconnect then some .reconnectDue
  else none

/-- Takes the next input of the session: commands come first, then the result of an attempt, then
the socket, then timers. -/
def nextInput : Play (Option Session.Input) := do
  match (← get).link.machine.mode with
  | .stopped => return none
  | .draining socket deadline _ =>
    match ← takeEvent socket with
    | some e => return some (.received e)
    | none => return if deadline ≤ (← get).now then some .drainOver else none
  | .ready =>
    match ← takeCommand with
    | some c => return some c.input
    | none =>
      let w ← get
      if !w.hasHandles then return some .abandoned
      match dialResult? w with
      | some result => return some (.dialed result)
      | none =>
        let event ← match w.link.machine.socket with
          | some socket => takeEvent socket
          | none => pure none
        match event with
        | some e => return some (.received e)
        | none => return timerInput? w

/-- One move of the session; false when it has to wait. -/
def sessionStep : Play Bool := do
  match ← nextInput with
  | some input => handle input; return true
  | none => return false

end Courier.Scenario
