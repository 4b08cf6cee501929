import Courier.Coordinator.Config
import Courier.Coordinator.Login
import Courier.Credential.Grant
import Courier.Error
import Courier.Log
import Courier.Time.Clock

/-!
The state machine that keeps the stored credentials valid.

A refresh is represented by a ticket. While a ticket is in the slot, everyone who asks for valid
credentials joins it. A ticket starts one chain: the exchange of the stored refresh token and, if
there is none or it fails, the native login and the exchange of its code. When the chain ends, what it
has come to waits with the ticket: the ticket settles as soon as it is polled again. If its time is up
before that, it settles without its chain; the chain then goes on alone, and what it obtains or clears
still counts. A settled ticket stays in the slot for a grace period.

When both ways have failed the credentials are cleared and a latch is set; until a login, nobody
but those who join a ticket gets past it.
-/

namespace Courier.Coordinator

open Time (Moment)

/-- What a chain has come to. -/
inductive Report where
  | ended (result : Outcome Unit)
  | crashed (detail : Option String)

namespace Report

def crashText (detail : Option String) : String :=
  "refresh task failed" ++ (detail.map (": " ++ ·)).getD ""

def outcome : Report → Outcome Unit
  | ended result => result
  | crashed detail => .error (.auth (crashText detail))

end Report

structure Ticket where
  id : Nat
  /-- The tick at which its time is up. -/
  deadline : Nat
  reported : Option Report := none
  outcome : Option (Outcome Unit) := none
  /-- The tick at which its grace period is over; it starts when the ticket settles. -/
  graceEnd : Option Nat := none

/-- What a chain is waiting for. -/
inductive Stage where
  /-- Its turn to begin. -/
  | starting
  /-- The exchange of a refresh token. -/
  | refreshing (token : String)
  /-- A code of the native login. -/
  | askingCode
  /-- The exchange of a login code. -/
  | loggingIn

structure Chain where
  /-- The ticket that started it. -/
  ticket : Nat
  stage : Stage

structure State where
  store : Option Credentials := none
  /-- Set when a chain has failed for good. -/
  latched : Bool := false
  /-- The ticket that callers join. -/
  slot : Option Nat := none
  /-- Every ticket so far, the latest first. -/
  tickets : List Ticket := []
  /-- The chains that have not ended. -/
  chains : List Chain := []

inductive Input where
  /-- A caller wants valid credentials; `force` asks for a refresh in any case. -/
  | ensureValid (caller : Nat) (force : Bool)
  | login (caller : Nat)
  | logout
  /-- A chain begins. -/
  | begin (ticket : Nat)
  /-- The exchange that a chain is waiting for has ended. -/
  | exchanged (ticket : Nat) (result : Outcome Grant)
  /-- The native login has answered a chain. -/
  | coded (ticket : Nat) (result : LoginCode)
  /-- A ticket is polled: its chain has ended, or its time is up. -/
  | poll (ticket : Nat)
  /-- The grace period of a ticket is over. -/
  | graceOver (ticket : Nat)
  /-- The host changes the stored credentials. -/
  | overwrite (credentials : Option Credentials)

/-- What a caller is told. -/
inductive Verdict where
  | now (result : Outcome Unit)
  /-- The caller gets the outcome of this ticket when it settles. -/
  | wait (ticket : Nat)

inductive Effect where
  | log (line : LogLine)
  | tell (caller : Nat) (verdict : Verdict)
  /-- A ticket was created. -/
  | created (ticket : Nat)
  /-- A ticket settled. -/
  | settled (ticket : Nat) (result : Outcome Unit)
  /-- A chain sends the exchange of a refresh token. -/
  | sendRefresh (ticket : Nat) (token : String)
  /-- A chain asks the native login. -/
  | askCode (ticket : Nat)
  /-- A chain sends the exchange of a login code. -/
  | sendLogin (ticket : Nat) (code : String)

def State.ticket? (s : State) (id : Nat) : Option Ticket := s.tickets.find? (·.id == id)

/-- The stage of the chain that a ticket started, while it runs. -/
def State.stage? (s : State) (ticket : Nat) : Option Stage :=
  (s.chains.find? (·.ticket == ticket)).map (·.stage)

/-- The outcome of a ticket, once it has settled. -/
def State.outcome? (s : State) (ticket : Nat) : Option (Outcome Unit) :=
  (s.ticket? ticket).bind (·.outcome)

/-- What the chain of a ticket has come to, once it has ended. -/
def State.reported? (s : State) (ticket : Nat) : Option Report :=
  (s.ticket? ticket).bind (·.reported)

def State.needsRefresh (cfg : Config) (now : Moment) (s : State) : Bool :=
  match s.store with
  | some c => c.isExpiring now.wall cfg.refreshBuffer
  | none => true

/-- When a token expires for which the backend names no usable expiry. -/
def defaultExpiry (cfg : Config) (now : Moment) : Time.Instant :=
  (now.wall.plus? cfg.defaultTtl).getD now.wall

/-- The credentials that a grant stands for; `previous` is kept when it names no refresh token. -/
def credentialsOf (cfg : Config) (now : Moment) (g : Grant) (previous : Option String) :
    Outcome Credentials :=
  match AccessToken.make g.accessToken with
  | .error fault => .error (.invalidAccessToken fault.message)
  | .ok token =>
    let expiry := (g.expiry.bind Expiry.toInstant?).getD (defaultExpiry cfg now)
    .ok ⟨token, expiry, match g.refreshToken with | some t => some t | none => previous⟩

/-- A state and the effects on the way to it. -/
structure Turn where
  state : State
  effects : List Effect := []

namespace Turn

def act (t : Turn) (e : Effect) : Turn := { t with effects := t.effects ++ [e] }

def log (t : Turn) (line : LogLine) : Turn := t.act (.log line)

/-- Settles a ticket that has not settled yet, and starts its grace period. -/
def settle (cfg : Config) (now : Moment) (id : Nat) (result : Outcome Unit) (t : Turn) : Turn :=
  let graceEnd := Time.deadline now.ticks cfg.ticketGrace
  let tickets := t.state.tickets.map fun ticket =>
    if ticket.id = id then { ticket with outcome := some result, graceEnd := some graceEnd }
    else ticket
  { t with state := { t.state with tickets := tickets } }.act (.settled id result)

def expire (cfg : Config) (now : Moment) (id : Nat) (t : Turn) : Turn :=
  let t := t.log (.warn ("Credential refresh timed out after " ++ cfg.refreshTimeout.text))
  t.settle cfg now id
    (.error (.timeout ("credential refresh exceeded " ++ cfg.refreshTimeout.text)))

def hear (cfg : Config) (now : Moment) (id : Nat) (report : Report) (t : Turn) : Turn :=
  let t := match report with
    | .ended _ => t
    | .crashed detail => t.log (.error ("Credential " ++ Report.crashText detail))
  t.settle cfg now id report.outcome

/-- Creates a ticket and its chain. A ticket that gets no time settles at once. -/
def create (cfg : Config) (now : Moment) (caller : Nat) (force : Bool) (t : Turn) : Turn :=
  let id := t.state.tickets.length + 1
  let ticket : Ticket := { id := id, deadline := Time.limit now.ticks cfg.refreshTimeout }
  let state := { t.state with
    slot := some id
    tickets := ticket :: t.state.tickets
    chains := t.state.chains ++ [⟨id, .starting⟩] }
  let t := { t with state := state }.log (.debug ("Created refresh ticket #" ++ toString id
    ++ " (force=" ++ (if force then "true" else "false") ++ ")"))
  let t := (t.act (.created id)).act (.tell caller (.wait id))
  if ticket.deadline ≤ now.ticks then t.expire cfg now id else t

/-- Joins the ticket in the slot, or decides whether a new one is needed. -/
def ensureValid (cfg : Config) (now : Moment) (caller : Nat) (force : Bool) (t : Turn) : Turn :=
  match t.state.slot with
  | some id =>
    (t.log (.debug ("Joining refresh ticket #" ++ toString id))).act (.tell caller (.wait id))
  | none =>
    if t.state.latched then
      t.act (.tell caller
        (.now (.error (.auth "credentials exhausted; explicit login required"))))
    else if force || t.state.needsRefresh cfg now then t.create cfg now caller force
    else t.act (.tell caller (.now (.ok ())))

/-- Lifts the latch and forces a refresh; a ticket that has settled is not joined. -/
def login (cfg : Config) (now : Moment) (caller : Nat) (t : Turn) : Turn :=
  let slot := t.state.slot.filter fun id => (t.state.outcome? id).isNone
  let state := { t.state with slot := slot, latched := false }
  { t with state := state }.ensureValid cfg now caller true

def enter (ticket : Nat) (stage : Stage) (t : Turn) : Turn :=
  let chains := t.state.chains.map fun c =>
    if c.ticket = ticket then { c with stage := stage } else c
  { t with state := { t.state with chains := chains } }

/-- Ends a chain, and leaves with its ticket what it has come to. -/
def finish (id : Nat) (report : Report) (t : Turn) : Turn :=
  let chains := t.state.chains.filter (·.ticket != id)
  let tickets := t.state.tickets.map fun ticket =>
    if ticket.id = id then { ticket with reported := some report } else ticket
  { t with state := { t.state with chains := chains, tickets := tickets } }

/-- Stores the credentials that a grant stands for, and lifts the latch. -/
def keep (credentials : Credentials) (t : Turn) : Turn :=
  { t with state := { t.state with store := some credentials, latched := false } }

def reauthenticate (ticket : Nat) (t : Turn) : Turn :=
  (t.enter ticket .askingCode).act (.askCode ticket)

def giveUp (ticket : Nat) (e : Error) (t : Turn) : Turn :=
  let t := t.log (.error ("Re-authentication failed, clearing credentials: " ++ e.message))
  { t with state := { t.state with store := none, latched := true } }.finish ticket
    (.ended (.error (.auth ("refresh and re-authentication failed: " ++ e.message))))

def refreshed (cfg : Config) (now : Moment) (ticket : Nat) (token : String)
    (result : Outcome Grant) (t : Turn) : Turn :=
  match result.bind fun g => credentialsOf cfg now g (some token) with
  | .ok c =>
    let t := (t.keep c).log (.info "Access token refreshed with refresh token")
    t.finish ticket (.ended (.ok ()))
  | .error e =>
    (t.log (.warn ("Refresh-token exchange failed, falling back to re-authentication: "
      ++ e.message))).reauthenticate ticket

def loggedIn (cfg : Config) (now : Moment) (ticket : Nat) (result : Outcome Grant) (t : Turn) :
    Turn :=
  match result.bind fun g => credentialsOf cfg now g none with
  | .ok c =>
    let t := (t.keep c).log (.info "Re-authenticated with native login")
    t.finish ticket (.ended (.ok ()))
  | .error e => t.giveUp ticket e

end Turn

/-- One step of the coordinator: the state after an input, and what the input leads to. An input
that cannot arrive in a state has no effect. -/
def State.step (cfg : Config) (now : Moment) (s : State) (input : Input) : Turn :=
  let t : Turn := { state := s }
  match input with
  | .ensureValid caller force => t.ensureValid cfg now caller force
  | .login caller => t.login cfg now caller
  | .logout =>
    { t with state := { s with store := none } }.log (.info "Clearing stored credentials on logout")
  | .begin ticket =>
    match s.stage? ticket with
    | some .starting =>
      match s.store.bind (·.refreshToken) with
      | some token => (t.enter ticket (.refreshing token)).act (.sendRefresh ticket token)
      | none => t.reauthenticate ticket
    | _ => t
  | .exchanged ticket result =>
    match s.stage? ticket with
    | some (.refreshing token) => t.refreshed cfg now ticket token result
    | some .loggingIn => t.loggedIn cfg now ticket result
    | _ => t
  | .coded ticket result =>
    match s.stage? ticket, result with
    | some .askingCode, .code code => (t.enter ticket .loggingIn).act (.sendLogin ticket code)
    | some .askingCode, .failed e => t.giveUp ticket e
    | some .askingCode, .crashed detail => t.finish ticket (.crashed detail)
    | _, _ => t
  | .poll id =>
    match s.ticket? id with
    | some ticket =>
      match ticket.outcome, ticket.reported with
      | some _, _ => t
      | none, some report => t.hear cfg now id report
      | none, none => if ticket.deadline ≤ now.ticks then t.expire cfg now id else t
    | none => t
  | .graceOver id =>
    match (s.ticket? id).bind (·.graceEnd) with
    | some due =>
      if due ≤ now.ticks && s.slot = some id then
        { t with state := { s with slot := none } }.log
          (.debug ("Released refresh ticket #" ++ toString id))
      else t
    | none => t
  | .overwrite credentials => { t with state := { s with store := credentials } }

def State.accessToken? (s : State) : Option String := s.store.map (·.accessToken.text)

/-- What a caller gets who wants the access token, once the credentials have been checked. -/
def State.readToken (s : State) (checked : Outcome Unit) : Outcome String :=
  match checked, s.accessToken? with
  | .error e, _ => .error e
  | .ok (), some token => .ok token
  | .ok (), none => .error (.auth "no access token stored")

def State.describe (cfg : Config) (s : State) : String :=
  let flag (b : Bool) := if b then "true" else "false"
  Text.describedInPart "CredentialCoordinator" [
    ("config", cfg.describe),
    ("refresh_pending", flag s.slot.isSome),
    ("auth_failed", flag s.latched)]

end Courier.Coordinator
