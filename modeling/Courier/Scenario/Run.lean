import Courier.Scenario.Calls

/-!
Playing a scenario: actors act until none has anything left to do, time jumps from timer to timer,
and steps are taken one after the other.
-/

namespace Courier.Scenario

/-- How many moves an actor may make before it counts as stuck. -/
def moveLimit : Nat := 1000000

/-- One move of an actor; false when it has to wait. -/
def actorStep : Actor → Play Bool
  | .session => sessionStep
  | .peer k => peerStep k
  | .chain ticket => chainStep ticket
  | .keeper ticket => keeperStep ticket
  | .call k => callStep k

def runActor : Nat → Actor → Play Unit
  | 0, _ => pure ()
  | moves + 1, a => do
    if ← actorStep a then runActor moves a

/-- Lets all actors act until none has anything left to do at this instant. -/
def settle : Nat → Play Unit
  | 0 => pure ()
  | turns + 1 => do
    match (← get).agenda with
    | [] => pure ()
    | a :: rest =>
      modify fun w => { w with agenda := rest }
      runActor moveLimit a
      settle turns

def World.timers (w : World) : List (Actor × Nat) :=
  let session := w.link.machine.nextDue?.toList.map (Actor.session, ·)
  let dialed := w.link.machine.pending.bind (w.peers[·]?)
  let dial := dialed.toList.map fun p => (Actor.session, p.ready)
  let peers := (w.peers.toList.zipIdx.filterMap fun (p, k) =>
    if p.ended then none else p.wake.map (Actor.peer k, ·))
  let tickets := w.coordinator.tickets.reverse.filterMap fun t =>
    if t.outcome.isNone then some (Actor.keeper t.id, t.deadline)
    else if w.coordinator.slot == some t.id then t.graceEnd.map (Actor.keeper t.id, ·)
    else none
  let waits := w.waits.map fun wait => (wait.owner, wait.due)
  let polls := w.calls.toList.zipIdx.filterMap fun (c, k) =>
    match c.stage, c.order.bind (w.tracked[·]?) with
    | .tracking, some t =>
      if t.order.mode == .either then some (Actor.call k, t.order.poll.due) else none
    | _, _ => none
  session ++ dial ++ peers ++ waits ++ tickets ++ polls

def World.nextDue? (w : World) : Option Nat :=
  (w.timers.filterMap fun t => if w.now < t.2 then some t.2 else none).min?

/-- Moves time on, and lets everyone act whose timer is due. -/
def jump (tick : Nat) : Play Unit := do
  modify fun w => { w with now := tick }
  for (a, due) in (← get).timers do
    if due ≤ tick then wake a

/-- Lets time pass up to `target`, or until `done` holds; tells whether it does. -/
def pass (done : World → Bool) (target : Nat) : Nat → Play Bool
  | 0 => return false
  | jumps + 1 => do
    settle moveLimit
    let w ← get
    if done w then return true
    match w.nextDue? with
    | some due =>
      if due ≤ target then
        jump due
        pass done target jumps
      else
        modify fun w => { w with now := max w.now target }
        return false
    | none =>
      modify fun w => { w with now := max w.now target }
      return false

/-- The credentials that a script writes, if they are any. -/
def Grantee.credentials? (g : Grantee) (tick : Nat) : Option Credentials := do
  let expiry ← Time.Instant.ofMillis? (origin * 1000 + tick + g.expiresInMillis)
  match AccessToken.make g.accessToken with
  | .ok token => some ⟨token, expiry, g.refreshToken⟩
  | .error _ => none

def World.heldOrder? (w : World) (order : String) : Option Nat :=
  w.tracked.toList.zipIdx.findSome? fun (t, i) =>
    if t.held && t.order.id == order then some i else none

def World.obstacle? (w : World) : Call → Option Answer
  | .next order => if (w.heldOrder? order).isNone then some .noOrder else none
  | .connect | .close | .waitState _ => if w.hasSession then none else some .noSession
  | .login | .logout | .accessToken | .location _ =>
    if w.setup.facade && !w.hasSession then some .noSession else none
  | _ => none

/-- Whether a call keeps a handle of the session while it runs. -/
def World.holdsSession (w : World) : Call → Bool
  | .connect | .close | .waitState _ => true
  | .next _ => false
  | _ => w.setup.facade

def addCall (place : Place) (c : Call) (background : Bool) : Play Nat := do
  let w ← get
  let order := match c with
    | .next order => w.heldOrder? order
    | _ => none
  let running : Running :=
    { place := place, call := c, background := background, order := order
      holdsSession := w.holdsSession c }
  set { w with calls := w.calls.push running }
  return w.calls.size

def World.result? (w : World) (k : Nat) : Option Answer := (w.calls[k]?).bind (·.result)

/-- Makes a call and waits for it, for at most so many milliseconds. -/
def awaitCall (place : Place) (c : Call) (within : Nat) : Play Answer := do
  let k ← addCall place c false
  runActor moveLimit (.call k)
  let w ← get
  let done (w : World) : Bool := (w.result? k).isSome
  let isDone ← if within = 0 then pure (done w) else pass done (w.now + within) moveLimit
  unless isDone do endCall k .pending
  return ((← get).result? k).getD .pending

/-- Reads events of a subscription from a position on, at most `max` of them: the events and the
position after them. The first argument bounds the steps. -/
def readEvents : Nat → Nat → Nat → Play (List Session.Event × Nat)
  | 0, _, position => return ([], position)
  | _, 0, position => return ([], position)
  | steps + 1, max + 1, position => do
    match (← get).link.hub.next? position with
    | none => return ([], position)
    | some (skipped, e, position) =>
      logAll (Tracking.lagLines skipped)
      let (es, position) ← readEvents steps max position
      return (e :: es, position)

/-- How much a stream hands out before it lets others act: events, and reports of skipped ones. -/
def streamTurn : Nat := 128

/-- Reads a stream from a position on while its turn lasts: the events, and what is left of the
turn. -/
def readStream : Nat → Nat → Play (List Session.Event × Nat)
  | 0, _ => return ([], 0)
  | turn + 1, position => do
    match (← get).link.hub.next? position with
    | none => return ([], turn + 1)
    | some (0, e, position) =>
      let (es, left) ← readStream turn position
      return (e :: es, left)
    | some (skipped, e, position) =>
      logAll (Tracking.lagLines skipped)
      match turn with
      | 0 => return ([], 0)
      | turn + 1 =>
        let (es, left) ← readStream turn position
        return (e :: es, left)

def dropOrders : Play Unit := do
  for k in List.range (← get).tracked.size do
    dropTracked k

/-- Begins to track an order; an order of the same name is let go of. -/
def trackOrder (order : String) : Play Answer := do
  if !(← get).hasSession then return .noSession
  let position := (← get).link.hub.tail
  subscribeTo [Tracking.channel order]
  let w ← get
  match Tracking.Order.start? order position w.now w.setup.poll with
  | none => return .panicked
  | some o =>
    let tracked := w.tracked.map fun t => { t with held := t.held && t.order.id != order }
    set { w with tracked := tracked.push { order := o } }
    dropOrders
    return .value (.string order)

/-- The longest time that one step may let pass, thirty years. -/
def longestAdvance : Nat := Time.farFuture / 1000000

/-- What the scripted peer of an attempt is told to do. -/
def instruct (attempt : Option Nat) (actions : List PeerAction) : Play Answer := do
  let w ← get
  let k := attempt.getD (w.peers.size - 1)
  match w.peers[k]? with
  | none => return .noPeer
  | some p =>
    if p.ended && !actions.isEmpty then return .peerGone
    modifyPeer k fun p => { p with queued := p.queued ++ actions }
    wake (.peer k)
    return .value .null

/-- Does something with the session if the scenario still has it. -/
def withSession (act : Play Unit) : Play Answer := do
  if (← get).hasSession then
    act
    return .value .null
  else return .noSession

/-- Reads a subscription of the scenario; one that is read as a stream ends. -/
def readListener (name : String) (max : Option Nat) (stream : Bool) : Play Answer := do
  let w ← get
  match w.listeners.lookup name with
  | none => return .noListener
  | some position =>
    let others := w.listeners.filter (·.1 != name)
    if stream then
      let (es, left) ← readStream w.streamTurn position
      modify fun w => { w with listeners := others, streamTurn := left }
      return .events es
    else
      let size := w.link.hub.tail
      let (es, position) ← readEvents size (max.getD size) position
      modify fun w => { w with listeners := (name, position) :: others }
      return .events es

def World.describe (w : World) : Json.Value :=
  .array [.string (w.coordinator.describe w.setup.coordinator),
    if w.hasSession then .string w.link.status.describe else .null]

mutual

/-- Takes a step. In a batch calls are left running. -/
def takeStep (inBatch : Bool) (place : Place) (s : Step) : Play Answer := do
  match s with
  | .call c background within =>
    match (← get).obstacle? c with
    | some answer => return answer
    | none =>
      if background || inBatch then
        let k ← addCall place c true
        wake (.call k)
        return .spawned
      else awaitCall place c within
  | .send kind data channel =>
    withSession do
      let seed ← draw
      sendMessage (.make (← get).moment.wall seed kind data channel)
  | .subscribe channels => withSession (subscribeTo channels)
  | .unsubscribe channels => withSession (unsubscribeFrom channels)
  | .peer attempt actions => instruct attempt actions
  | .track order => trackOrder order
  | .untrack order =>
    match (← get).heldOrder? order with
    | none => return .noOrder
    | some i =>
      modify fun w => { w with tracked := w.tracked.modify i fun t => { t with held := false } }
      dropTracked i
      return .value .null
  | .setCredentials c =>
    coordinate (.overwrite (c.bind (·.credentials? (← get).now)))
    return .value .null
  | .credentials =>
    return .value (match (← get).coordinator.store with
      | none => .null
      | some c => .object c.members)
  | .debug => return .value (← get).describe
  | .listen name =>
    withSession (modify fun w =>
      { w with listeners := (name, w.link.hub.tail) :: w.listeners.filter (·.1 != name) })
  | .read name max stream => readListener name max stream
  | .dropSession =>
    modify fun w =>
      { w with hasSession := false, tracked := w.tracked.map fun t => { t with held := false } }
    dropOrders
    wake .session
    return .value .null
  | .advance ms =>
    let target := (← get).now + min ms longestAdvance
    let _ ← pass (fun _ => false) target moveLimit
    return .value .null
  | .batch steps => return .several (← takeSteps place.step 0 steps)

def takeSteps (step position : Nat) : List Step → Play (List Answer)
  | [] => return []
  | s :: rest => do
    let answer ← takeStep true ⟨step, some position⟩ s
    let answers ← takeSteps step (position + 1) rest
    return answer :: answers

end

structure Report where
  tick : Nat
  answer : Answer
  /-- The status of the session while the scenario has it. -/
  status : Option Session.Status
  accessToken : Option String
  isRefreshing : Bool
  latched : Bool
  events : List Session.Event
  eventsEnded : Bool
  frames : List SeenFrame
  dials : List SeenDial
  requests : List SeenRequest
  finished : List Finished
  codes : Nat
  logs : List LogLine

def Place.before (a b : Place) : Bool :=
  a.step < b.step || (a.step == b.step && a.position.getD 0 ≤ b.position.getD 0)

def playStep (index : Nat) (s : Step) : Play Report := do
  modify fun w => { w with streamTurn := streamTurn }
  let answer ← takeStep false ⟨index, none⟩ s
  settle moveLimit
  let size := (← get).link.hub.tail
  let (events, position) ← readEvents size size (← get).position
  let w ← get
  let report : Report :=
    { tick := w.now
      answer := answer
      status := if w.hasSession then some w.link.status else none
      accessToken := w.coordinator.accessToken?
      isRefreshing := w.coordinator.slot.isSome
      latched := w.coordinator.latched
      events := events
      eventsEnded := w.link.isStopped && !w.hasHandles
      frames := w.frames.toList
      dials := w.dials.toList
      requests := w.requests.toList
      finished := w.finished.toList.mergeSort fun a b => a.place.before b.place
      codes := w.codes
      logs := w.logs.toList }
  set { w with
    position := position
    frames := #[]
    dials := #[]
    requests := #[]
    finished := #[]
    logs := #[] }
  return report

def playFrom (index : Nat) : List Step → Play (List Report)
  | [] => return []
  | s :: rest => do
    let report ← playStep index s
    let reports ← playFrom (index + 1) rest
    return report :: reports

def World.start (setup : Setup) : World :=
  { setup := setup
    link := .ofConfig setup.session
    coordinator := { store := setup.credentials.bind (·.credentials? 0) } }

def play (setup : Setup) (steps : List Step) : List Report :=
  ((playFrom 0 steps).run (.start setup)).1

end Courier.Scenario
