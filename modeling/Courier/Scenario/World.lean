import Courier.Coordinator.Exchange
import Courier.Coordinator.Machine
import Courier.Http.Gate
import Courier.Http.Traffic
import Courier.Scenario.Script
import Courier.Session.Link
import Courier.Tracking.Order

/-!
The state of a scenario while it is played: the session, the coordinator and the tracked orders, the
peers of the sockets, the calls under way, and what has been seen since the last step.

Everything that can act is an actor. Actors that have something to do stand in a queue; each acts
until it has to wait. Time moves on only when the queue is empty.
-/

namespace Courier.Scenario

open Time (Span Instant)

inductive Actor where
  | session
  | peer (attempt : Nat)
  /-- The chain of a ticket. -/
  | chain (ticket : Nat)
  /-- Watches the time and the grace period of a ticket. -/
  | keeper (ticket : Nat)
  | call (index : Nat)
deriving DecidableEq

structure Peer where
  /-- The tick at which the attempt to connect has a result. -/
  ready : Nat
  refusal : Option String
  onClose : List PeerAction
  /-- What the session has not read yet. -/
  outbox : List Session.SocketEvent := []
  /-- What the session has written and the peer has not seen yet. -/
  inbox : List Session.Frame := []
  /-- Whether the session let go of the socket. -/
  released : Bool := false
  /-- Actions that have not begun. -/
  queued : List PeerAction := []
  /-- Actions under way, one after the other. -/
  current : List PeerAction := []
  /-- The tick at which the first of them is done. -/
  wake : Option Nat := none
  ended : Bool := false

/-- What a wait ends with. -/
inductive Arrival where
  | reply (request : Http.Request) (logged : Bool) (r : Http.Reply)
  /-- A request that could not even be made. -/
  | refusal (e : Error)
  | code (c : LoginCode)

structure Wait where
  owner : Actor
  due : Nat
  arrival : Arrival

/-- What a decoded payload is. -/
inductive Shape where
  | value
  | location

/-- What a call does once its check of the credentials has settled. -/
inductive AfterCheck where
  | report
  | readToken
  | connect
  | headers (headers : List Http.Header)
  | request (r : Http.Request)

/-- Where a call stands. -/
inductive Stage where
  | fresh
  | checking (ticket : Nat) (next : AfterCheck)
  | fetching
  | commanded
  | watching (phase : Session.Phase)
  /-- Waits until no other call asks the same order. -/
  | queued
  | tracking
  | over

/-- What a step or a call comes to. -/
inductive Answer where
  | value (v : Json.Value)
  | failed (e : Error)
  | events (es : List Session.Event)
  | pending
  | spawned
  | panicked
  | noPeer
  | peerGone
  | noOrder
  | noSession
  | noListener
  | several (answers : List Answer)

/-- The place of a step: its index, and its place in a batch. -/
structure Place where
  step : Nat
  position : Option Nat

structure Running where
  place : Place
  call : Call
  background : Bool
  stage : Stage := .fresh
  shape : Shape := .value
  /-- The tracked order that is asked, by its number. -/
  order : Option Nat := none
  holdsSession : Bool
  /-- What the session has answered. -/
  answer : Option (Outcome Unit) := none
  /-- What the coordinator has said. -/
  verdict : Option Coordinator.Verdict := none
  result : Option Answer := none

structure Tracked where
  order : Tracking.Order
  /-- Whether it is still held under its name. -/
  held : Bool := true
  /-- Whether it is gone, and its channel has been left. -/
  gone : Bool := false
  /-- The call that asks it. -/
  asker : Option Nat := none

structure SeenFrame where
  tick : Nat
  peer : Nat
  /-- A frame, or none when the session let go of the socket. -/
  frame : Option Session.Frame

structure SeenDial where
  tick : Nat
  url : String

structure SeenRequest where
  tick : Nat
  request : Http.Request

structure Finished where
  place : Place
  tick : Nat
  answer : Answer

structure World where
  setup : Setup
  now : Nat := 0
  /-- How many identifiers have been drawn. -/
  drawn : Nat := 0
  agenda : List Actor := []
  link : Session.Link
  coordinator : Coordinator.State
  peers : Array Peer := #[]
  waits : List Wait := []
  calls : Array Running := #[]
  tracked : Array Tracked := #[]
  listeners : List (String × Nat) := []
  /-- The position of the scenario's own subscription. -/
  position : Nat := 0
  /-- What is left of the turn of the streams that are read in this step. -/
  streamTurn : Nat := 0
  hasSession : Bool := true
  refreshes : Nat := 0
  logins : Nat := 0
  locations : Nat := 0
  others : Nat := 0
  /-- Calls of the scripted login. -/
  codes : Nat := 0
  logs : Array LogLine := #[]
  frames : Array SeenFrame := #[]
  dials : Array SeenDial := #[]
  requests : Array SeenRequest := #[]
  finished : Array Finished := #[]

def origin : Int := 1700000000

/-- The time of day so many milliseconds after the start, the start itself beyond the range of
instants. -/
def wallAt (tick : Nat) : Instant :=
  (Instant.ofMillis? (origin * 1000 + tick)).getD (.ofSeconds origin (by decide) (by decide))

abbrev Play := StateM World

namespace World

def moment (w : World) : Time.Moment := ⟨w.now, wallAt w.now⟩

def hasHandles (w : World) : Bool :=
  w.hasSession || w.tracked.any (fun t => !t.gone) ||
    w.calls.any fun c => c.holdsSession && c.result.isNone

end World

/-- Lets an actor act, unless it stands in the queue already. -/
def wake (a : Actor) : Play Unit :=
  modify fun w => if w.agenda.contains a then w else { w with agenda := w.agenda ++ [a] }

def log (line : LogLine) : Play Unit :=
  modify fun w => { w with logs := w.logs.push line }

def logAll (lines : List LogLine) : Play Unit :=
  lines.forM log

def draw : Play UInt64 := do
  let w ← get
  set { w with drawn := w.drawn + 2 }
  return UInt64.ofNat w.drawn

def modifyPeer (k : Nat) (f : Peer → Peer) : Play Unit :=
  modify fun w => { w with peers := w.peers.modify k f }

def modifyCall (k : Nat) (f : Running → Running) : Play Unit :=
  modify fun w => { w with calls := w.calls.modify k f }

def wakeCalls (p : Running → Bool) : Play Unit := do
  for k in List.range (← get).calls.size do
    match (← get).calls[k]? with
    | some c => if c.result.isNone && p c then wake (.call k)
    | none => pure ()

def command (c : Session.Command) : Play Unit := do
  modify fun w => { w with link := w.link.enqueue c }
  wake .session

def sendMessage (o : Outbound) : Play Unit := do
  if (← get).link.isStopped then log (.warn "Session driver stopped; outbound message dropped")
  else command (.send o)

def subscribeTo (channels : List String) : Play Unit := do
  let seed ← draw
  sendMessage (.subscribe (← get).moment.wall seed channels)

def unsubscribeFrom (channels : List String) : Play Unit := do
  let seed ← draw
  sendMessage (.unsubscribe (← get).moment.wall seed channels)

/-- Lets go of a tracked order that nobody holds or asks any more: it leaves its channel. -/
def dropTracked (k : Nat) : Play Unit := do
  match (← get).tracked[k]? with
  | none => pure ()
  | some t =>
    let busy := (← get).calls.any fun c => c.order == some k && c.result.isNone
    if !t.held && !t.gone && !busy then
      unsubscribeFrom [Tracking.channel t.order.id]
      modify fun w => { w with tracked := w.tracked.modify k fun t => { t with gone := true } }
      wake .session

end Courier.Scenario
