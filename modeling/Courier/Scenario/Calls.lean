import Courier.Scenario.Peers
import Courier.Scenario.Requests

/-!
Calls: what takes time until it has a result. A call moves from one stage to the next, and waits in
between for the coordinator, the backend, the session or the events of a tracked order.
-/

namespace Courier.Scenario

open Http (Request Header)

def Answer.ofOutcome : Outcome Unit → Answer
  | .ok () => .value .null
  | .error e => .failed e

def enterStage (k : Nat) (stage : Stage) : Play Unit :=
  modifyCall k fun c => { c with stage := stage }

/-- Whether a call waits for its turn to ask a tracked order. -/
def isQueuedFor (i : Nat) (c : Running) : Bool :=
  match c.stage with
  | .queued => c.order == some i
  | _ => false

/-- The order is free for the next call, if it was this one that asked it. -/
def Tracked.letGo (t : Tracked) (k : Nat) (isOpen : Bool) (ticks : Nat) : Tracked :=
  if t.asker == some k then
    { t with asker := none, order := (t.order.step isOpen ticks .dropped).1 }
  else t

/-- Ends a call. A tracked order that it asked is free again, and goes if nobody holds it. -/
def endCall (k : Nat) (a : Answer) : Play Unit := do
  match (← get).calls[k]? with
  | none => pure ()
  | some c =>
    modifyCall k fun c => { c with stage := .over, result := some a }
    modify fun w => { w with waits := w.waits.filter (·.owner != .call k) }
    if c.background then
      modify fun w => { w with finished := w.finished.push ⟨c.place, w.now, a⟩ }
    match c.order with
    | none => pure ()
    | some i =>
      modify fun w => { w with tracked := w.tracked.modify i (·.letGo k w.link.isOpen w.now) }
      wakeCalls (isQueuedFor i)
      dropTracked i
    if c.holdsSession then wake .session

/-- The payload of a reply in the shape that a call wants. -/
def decode (shape : Shape) (url : String) (reply : Http.Reply) : Outcome Json.Value := do
  let v ← reply.payload url
  match shape with
  | .value => return v
  | .location =>
    match Location.ofValue v with
    | .ok l => return .object l.members
    | .error m => .error (.httpDecode m.message)

def decodeLocation (url : String) (reply : Http.Reply) : Outcome Location := do
  let v ← reply.payload url
  match Location.ofValue v with
  | .ok l => return l
  | .error m => .error (.httpDecode m.message)

def headerValue (h : Header) : Json.Value :=
  let value := if Http.isVisible h.value then h.value else "?"
  .array [.string h.name, .string value, .bool h.sensitive]

def afterCheck (k : Nat) (next : AfterCheck) (checked : Outcome Unit) : Play Unit := do
  let token := (← get).coordinator.accessToken?
  match next with
  | .report => endCall k (.ofOutcome checked)
  | .readToken =>
    match (← get).coordinator.readToken checked with
    | .ok token => endCall k (.value (.string token))
    | .error e => endCall k (.failed e)
  | .connect =>
    match checked with
    | .error e => endCall k (.failed e)
    | .ok () => askSession k (.connect k)
  | .headers headers =>
    let (headers, lines) := Http.Gate.pass checked token headers
    logAll lines
    endCall k (.value (.array (headers.map headerValue)))
  | .request r =>
    let (headers, lines) := Http.Gate.pass checked token r.headers
    logAll lines
    enterStage k .fetching
    sendRequest (.call k) true { r with headers := headers }
where
  /-- Sends a command to the session, and waits for its answer. -/
  askSession (k : Nat) (c : Session.Command) : Play Unit := do
    enterStage k .commanded
    if (← get).link.isStopped then
      match c.unhandled? with
      | some (_, result) => modifyCall k fun call => { call with answer := some result }
      | none => pure ()
    else command c

def afterVerdict (k : Nat) (next : AfterCheck) : Play Unit := do
  match ((← get).calls[k]?).bind (·.verdict) with
  | some (.now checked) => afterCheck k next checked
  | some (.wait ticket) => enterStage k (.checking ticket next)
  | none => pure ()

def check (k : Nat) (force : Bool) (next : AfterCheck) : Play Unit := do
  coordinate (.ensureValid k force)
  afterVerdict k next

/-- Sends a request of the API, through the gate if there is one. -/
def fetch (k : Nat) (request : Outcome Request) : Play Unit := do
  match request with
  | .error e =>
    enterStage k .fetching
    await (.call k) (← get).now (.refusal e)
  | .ok r =>
    if (← get).setup.gated then check k false (.request r)
    else
      enterStage k .fetching
      sendRequest (.call k) false r

def locationRequest (base order : String) : Outcome Request :=
  Request.get base ("/v1/orders/" ++ Text.Percent.encode order ++ "/rider-location") []

/-- Carries out an effect of the order that a call asks. -/
def performTracking (k : Nat) (order : String) (e : Tracking.Effect) : Play Unit := do
  match e with
  | .log line => log line
  | .subscribe channel => subscribeTo [channel]
  | .poll => fetch k (locationRequest (← get).setup.apiBase order)
  | .found l => endCall k (.value (.object l.members))
  | .crash => endCall k .panicked

/-- Lets the order that a call asks handle an input. -/
def track (k i : Nat) (input : Tracking.Input) : Play Unit := do
  let w ← get
  match w.tracked[i]? with
  | none => pure ()
  | some t =>
    let (order, effects) := t.order.step w.link.isOpen w.now input
    set { w with tracked := w.tracked.modify i fun t => { t with order := order } }
    enterStage k .tracking
    effects.forM (performTracking k order.id)

/-- One move of a call that asks a tracked order. -/
def trackingStep (k i : Nat) : Play Bool := do
  let w ← get
  match w.tracked[i]? with
  | none => return false
  | some t =>
    let event := w.link.hub.next? t.order.position
    let isDue := t.order.mode == .either && t.order.poll.due ≤ w.now
    match event, isDue with
    | _, true => track k i .tick; return true
    | some (skipped, e, position), false => track k i (.event skipped e position); return true
    | none, false => return false

def arrived (k : Nat) (c : Running) (a : Arrival) : Play Unit := do
  match a with
  | .code _ => pure ()
  | .refusal e =>
    match c.order with
    | some i => track k i (.polled (.error e))
    | none => endCall k (.failed e)
  | .reply r logged reply =>
    if logged then log (replyLine (← get).setup.verbose r reply)
    match c.order with
    | some i => track k i (.polled (decodeLocation r.address reply))
    | none =>
      match decode c.shape r.address reply with
      | .ok v => endCall k (.value v)
      | .error e => endCall k (.failed e)

def beginCall (k : Nat) (c : Running) : Play Unit := do
  let setup := (← get).setup
  match c.call with
  | .connect =>
    if setup.facade then check k false .connect else afterCheck.askSession k (.connect k)
  | .close => afterCheck.askSession k (.close k)
  | .ensureValid force => check k force .report
  | .accessToken => check k false .readToken
  | .login =>
    coordinate (.login k)
    afterVerdict k .report
  | .logout =>
    if setup.facade then afterCheck.askSession k (.close k)
    else
      coordinate .logout
      endCall k (.value .null)
  | .location order =>
    modifyCall k fun c => { c with shape := .location }
    fetch k (locationRequest setup.apiBase order)
  | .get path query => fetch k (Request.get setup.apiBase path query)
  | .post path body => fetch k (Request.post setup.apiBase path body)
  | .waitState phase => enterStage k (.watching phase)
  | .next _ => enterStage k .queued
  | .gateHeaders headers =>
    let headers := headers.foldl (fun hs h =>
      Http.Headers.append hs ⟨h.1.map Char.toLower, h.2, false⟩) []
    check k false (.headers headers)

def commanded (k : Nat) (c : Running) (result : Outcome Unit) : Play Unit := do
  match c.call with
  | .logout =>
    coordinate .logout
    endCall k (.value .null)
  | _ => endCall k (.ofOutcome result)

/-- One move of a call; false when it has to wait. -/
def callStep (k : Nat) : Play Bool := do
  let w ← get
  match w.calls[k]? with
  | none => return false
  | some c =>
    match c.stage with
    | .over => return false
    | .fresh => beginCall k c; return true
    | .checking ticket next =>
      match w.coordinator.outcome? ticket with
      | some checked => afterCheck k next checked; return true
      | none => return false
    | .fetching =>
      match ← takeArrival (.call k) with
      | some a => arrived k c a; return true
      | none => return false
    | .commanded =>
      match c.answer with
      | some result => commanded k c result; return true
      | none => return false
    | .watching phase =>
      if w.link.status.phase = phase then endCall k (.value .null); return true
      else if w.link.isStopped then endCall k (.failed Session.stoppedError); return true
      else return false
    | .queued =>
      match c.order.bind fun i => (w.tracked[i]?).map (i, ·) with
      | some (i, t) =>
        if t.asker.isNone then
          let tracked := w.tracked.modify i fun t => { t with asker := some k }
          set { w with tracked := tracked }
          track k i .asked
          return true
        else return false
      | none => return false
    | .tracking =>
      match c.order with
      | some i => trackingStep k i
      | none => return false

end Courier.Scenario
