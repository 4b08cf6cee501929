import Courier.Scenario.World

/-!
Requests to the scripted backend, and the chains of the coordinator that send some of them.
-/

namespace Courier.Scenario

open Http (Request Reply)

def await (owner : Actor) (due : Nat) (arrival : Arrival) : Play Unit :=
  modify fun w => { w with waits := w.waits ++ [⟨owner, due, arrival⟩] }

/-- Takes what an owner has been waiting for, if it is there. -/
def takeArrival (owner : Actor) : Play (Option Arrival) := do
  let w ← get
  match w.waits.find? (·.owner == owner) with
  | none => return none
  | some wait =>
    if wait.due ≤ w.now then
      set { w with waits := w.waits.filter (·.owner != owner) }
      return some wait.arrival
    else return none

def dueAfter (delay : Option Time.Span) : Play Nat := do
  let w ← get
  return match delay with
    | none => w.now
    | some d => Time.deadline w.now d

def takeService (path : String) : Play Service := do
  let w ← get
  let missing : Service := { status := 404 }
  let backend := w.setup.backend
  let ends (tail : String) : Bool := tail.toList.isSuffixOf path.toList
  if ends Exchange.refreshPath then
    set { w with refreshes := w.refreshes + 1 }
    return (scripted? backend.refresh w.refreshes).getD missing
  else if ends Exchange.loginPath then
    set { w with logins := w.logins + 1 }
    return (scripted? backend.login w.logins).getD missing
  else if ends "/rider-location" then
    set { w with locations := w.locations + 1 }
    return (scripted? backend.location w.locations).getD missing
  else
    set { w with others := w.others + 1 }
    return (scripted? backend.other w.others).getD missing

def sendRequest (owner : Actor) (logged : Bool) (r : Request) : Play Unit := do
  let setup := (← get).setup
  if logged then log (Http.Traffic.requestLine setup.verbose r.method r.address)
  if setup.facade then
    await owner (← get).now (.reply r logged (.fault (.unsent r.address)))
  else
    modify fun w => { w with requests := w.requests.push ⟨w.now, r⟩ }
    let service ← takeService r.url.pathText
    let due ← dueAfter service.delay
    let reply : Reply :=
      if service.fail then .fault .unbuildable else .answer service.status service.body
    await owner due (.reply r logged reply)

/-- Sends a request unless it cannot be made. -/
def sendOutcome (owner : Actor) (logged : Bool) : Outcome Request → Play Unit
  | .ok r => sendRequest owner logged r
  | .error e => do await owner (← get).now (.refusal e)

def replyLine (verbose : Bool) (r : Request) : Reply → LogLine
  | .answer status _ => Http.Traffic.answerLine verbose status
  | .fault f => Http.Traffic.failureLine r.method r.address f

def isChecking (ticket : Nat) (c : Running) : Bool :=
  match c.stage with
  | .checking t _ => t == ticket
  | _ => false

def askLogin (owner : Actor) : Play Unit := do
  let w ← get
  match w.setup.login with
  | .fixed code =>
    let result := match fixedLogin code with
      | .ok code => LoginCode.code code
      | .error e => .failed e
    await owner w.now (.code result)
  | .calls script =>
    set { w with codes := w.codes + 1 }
    match scripted? script w.codes with
    | none => await owner w.now (.code (.failed (.auth "native login unavailable")))
    | some call => await owner (← dueAfter call.delay) (.code call.result)

def performCredential (e : Coordinator.Effect) : Play Unit := do
  let setup := (← get).setup
  match e with
  | .log line => log line
  | .tell caller verdict => modifyCall caller fun c => { c with verdict := some verdict }
  | .created ticket => wake (.keeper ticket); wake (.chain ticket)
  | .settled ticket _ => wakeCalls (isChecking ticket); wake (.keeper ticket)
  | .askCode ticket => askLogin (.chain ticket)
  | .sendRefresh ticket _ | .sendLogin ticket _ =>
    (e.request? setup.apiBase setup.device).forM (sendOutcome (.chain ticket) true)

def coordinate (input : Coordinator.Input) : Play Unit := do
  let w ← get
  let turn := w.coordinator.step w.setup.coordinator w.moment input
  set { w with coordinator := turn.state }
  turn.effects.forM performCredential

def chainArrival (ticket : Nat) : Arrival → Play Unit
  | .code c => coordinate (.coded ticket c)
  | .refusal e => coordinate (.exchanged ticket (.error e))
  | .reply r _ reply => do
    log (replyLine (← get).setup.verbose r reply)
    let (result, lines) := Exchange.grant r.address reply
    logAll lines
    coordinate (.exchanged ticket result)

def pollEnded (ticket : Nat) : Play Unit := do
  if ((← get).coordinator.reported? ticket).isSome then coordinate (.poll ticket)

/-- One move of a chain; false when it has to wait. Its ticket is polled as soon as it has ended. -/
def chainStep (ticket : Nat) : Play Bool := do
  match (← get).coordinator.stage? ticket with
  | none => return false
  | some .starting => coordinate (.begin ticket); return true
  | some _ =>
    match ← takeArrival (.chain ticket) with
    | none => return false
    | some arrival =>
      chainArrival ticket arrival
      pollEnded ticket
      return true

/-- One move of the keeper of a ticket; false when it has to wait. -/
def keeperStep (id : Nat) : Play Bool := do
  let w ← get
  match w.coordinator.ticket? id with
  | none => return false
  | some ticket =>
    match ticket.outcome, ticket.graceEnd with
    | none, _ =>
      if ticket.reported.isSome || ticket.deadline ≤ w.now then coordinate (.poll id); return true
      else return false
    | some _, some due =>
      if due ≤ w.now && w.coordinator.slot == some id then coordinate (.graceOver id); return true
      else return false
    | some _, none => return false

end Courier.Scenario
