import Courier.Coordinator.Machine

/-! Everything that one step of a coordinator can do, log lines apart. Three kinds of moves have
parts of their own: a ticket is created, a chain goes on to its next stage, or it ends. The end of a chain
settles no ticket: that is a move of its own, and others may come in between. -/

namespace Courier.Coordinator

open Time (Moment)

def Effect.isLog : Effect → Bool
  | log _ => true
  | _ => false

def visible (effects : List Effect) : List Effect := effects.filter (!·.isLog)

@[simp] theorem visible_nil : visible [] = [] := rfl

@[simp] theorem visible_append (a b : List Effect) : visible (a ++ b) = visible a ++ visible b :=
  List.filter_append ..

def overtime (cfg : Config) : Outcome Unit :=
  .error (.timeout ("credential refresh exceeded " ++ cfg.refreshTimeout.text))

inductive Ending where
  | stored (credentials : Credentials)
  | gaveUp (error : Error)
  | crashed (detail : Option String)

def Ending.report : Ending → Report
  | stored _ => .ended (.ok ())
  | gaveUp e => .ended (.error (.auth ("refresh and re-authentication failed: " ++ e.message)))
  | crashed detail => .crashed detail

/-- What the ticket of a chain settles with, unless its time is up before that. -/
def Ending.result (ending : Ending) : Outcome Unit := ending.report.outcome

namespace State

def settled (cfg : Config) (now : Moment) (id : Nat) (result : Outcome Unit) (s : State) : State :=
  { s with
    tickets := s.tickets.map fun ticket =>
      if ticket.id = id then
        { ticket with
          outcome := some result
          graceEnd := some (Time.deadline now.ticks cfg.ticketGrace) }
      else ticket }

def opened (cfg : Config) (now : Moment) (s : State) : State :=
  { s with
    slot := some (s.tickets.length + 1)
    tickets :=
      { id := s.tickets.length + 1, deadline := Time.limit now.ticks cfg.refreshTimeout } ::
        s.tickets
    chains := s.chains ++ [⟨s.tickets.length + 1, .starting⟩] }

def entered (id : Nat) (stage : Stage) (s : State) : State :=
  { s with chains := s.chains.map fun c => if c.ticket = id then { c with stage := stage } else c }

def dropped (id : Nat) (s : State) : State :=
  { s with chains := s.chains.filter (·.ticket != id) }

/-- What the end of a chain makes of the credentials and the latch. -/
def marked (s : State) : Ending → State
  | .stored c => { s with store := some c, latched := false }
  | .gaveUp _ => { s with store := none, latched := true }
  | .crashed _ => s

/-- A chain is gone, and its ticket knows what it has come to. -/
def ended (id : Nat) (report : Report) (s : State) : State :=
  { s.dropped id with
    tickets := s.tickets.map fun ticket =>
      if ticket.id = id then { ticket with reported := some report } else ticket }

def Accepts (now : Moment) (s : State) : Input → Prop
  | .begin id => s.stage? id = some .starting
  | .exchanged id _ => s.stage? id = some .loggingIn ∨ ∃ token, s.stage? id = some (.refreshing token)
  | .coded id _ => s.stage? id = some .askingCode
  | .poll id =>
    ∃ ticket, s.ticket? id = some ticket ∧ ticket.outcome = none ∧
      (ticket.reported.isSome ∨ ticket.deadline ≤ now.ticks)
  | .graceOver id =>
    s.slot = some id ∧ ∃ due, (s.ticket? id).bind (·.graceEnd) = some due ∧ due ≤ now.ticks
  | _ => True

end State

/-- The creation of a ticket. One that gets no time settles at once. -/
inductive Created (cfg : Config) (now : Moment) (caller : Nat) (s : State) :
    State → List Effect → Prop where
  | waiting : now.ticks < Time.limit now.ticks cfg.refreshTimeout →
      Created cfg now caller s (s.opened cfg now)
        [.created (s.tickets.length + 1), .tell caller (.wait (s.tickets.length + 1))]
  | expired : Time.limit now.ticks cfg.refreshTimeout ≤ now.ticks →
      Created cfg now caller s
        ((s.opened cfg now).settled cfg now (s.tickets.length + 1) (overtime cfg))
        [.created (s.tickets.length + 1), .tell caller (.wait (s.tickets.length + 1)),
          .settled (s.tickets.length + 1) (overtime cfg)]

/-- A chain goes on: the input, the stage that it enters and what it sends. -/
inductive Advances (cfg : Config) (now : Moment) (s : State) :
    Input → Nat → Stage → Effect → Prop where
  | refresh {id token} : s.stage? id = some .starting → s.store.bind (·.refreshToken) = some token →
      Advances cfg now s (.begin id) id (.refreshing token) (.sendRefresh id token)
  | ask {id} : s.stage? id = some .starting → s.store.bind (·.refreshToken) = none →
      Advances cfg now s (.begin id) id .askingCode (.askCode id)
  | fallBack {id token result e} : s.stage? id = some (.refreshing token) →
      (result.bind fun g => credentialsOf cfg now g (some token)) = .error e →
      Advances cfg now s (.exchanged id result) id .askingCode (.askCode id)
  | logIn {id code} : s.stage? id = some .askingCode →
      Advances cfg now s (.coded id (.code code)) id .loggingIn (.sendLogin id code)

inductive Ends (cfg : Config) (now : Moment) (s : State) : Input → Nat → Ending → Prop where
  | refreshed {id token result c} : s.stage? id = some (.refreshing token) →
      (result.bind fun g => credentialsOf cfg now g (some token)) = .ok c →
      Ends cfg now s (.exchanged id result) id (.stored c)
  | loggedIn {id result c} : s.stage? id = some .loggingIn →
      (result.bind fun g => credentialsOf cfg now g none) = .ok c →
      Ends cfg now s (.exchanged id result) id (.stored c)
  | refused {id result e} : s.stage? id = some .loggingIn →
      (result.bind fun g => credentialsOf cfg now g none) = .error e →
      Ends cfg now s (.exchanged id result) id (.gaveUp e)
  | noCode {id e} : s.stage? id = some .askingCode →
      Ends cfg now s (.coded id (.failed e)) id (.gaveUp e)
  | crashed {id detail} : s.stage? id = some .askingCode →
      Ends cfg now s (.coded id (.crashed detail)) id (.crashed detail)

/-- What one step can do: the input, the state that it leaves and its effects. -/
inductive Move (cfg : Config) (now : Moment) (s : State) :
    Input → State → List Effect → Prop where
  | skip {input} : ¬ s.Accepts now input → Move cfg now s input s []
  -- callers
  | join {caller force id} : s.slot = some id →
      Move cfg now s (.ensureValid caller force) s [.tell caller (.wait id)]
  | refuse {caller force} : s.slot = none → s.latched = true →
      Move cfg now s (.ensureValid caller force) s
        [.tell caller (.now (.error (.auth "credentials exhausted; explicit login required")))]
  | valid {caller force} : s.slot = none → s.latched = false →
      (force || s.needsRefresh cfg now) = false →
      Move cfg now s (.ensureValid caller force) s [.tell caller (.now (.ok ()))]
  | create {caller force s' es} : s.slot = none → s.latched = false →
      (force || s.needsRefresh cfg now) = true → Created cfg now caller s s' es →
      Move cfg now s (.ensureValid caller force) s' es
  | loginJoin {caller id} : s.slot = some id → s.outcome? id = none →
      Move cfg now s (.login caller) { s with latched := false } [.tell caller (.wait id)]
  | loginCreate {caller s' es} : (∀ id, s.slot = some id → (s.outcome? id).isSome) →
      Created cfg now caller { s with slot := none, latched := false } s' es →
      Move cfg now s (.login caller) s' es
  | logout : Move cfg now s .logout { s with store := none } []
  | overwrite {credentials} :
      Move cfg now s (.overwrite credentials) { s with store := credentials } []
  -- chains
  | advance {input id stage e} : Advances cfg now s input id stage e →
      Move cfg now s input (s.entered id stage) [e]
  | finish {input id ending} : Ends cfg now s input id ending →
      Move cfg now s input ((s.marked ending).ended id ending.report) []
  -- tickets
  | hear {id ticket report} : s.ticket? id = some ticket → ticket.outcome = none →
      ticket.reported = some report →
      Move cfg now s (.poll id) (s.settled cfg now id report.outcome) [.settled id report.outcome]
  | expire {id ticket} : s.ticket? id = some ticket → ticket.outcome = none →
      ticket.reported = none → ticket.deadline ≤ now.ticks →
      Move cfg now s (.poll id) (s.settled cfg now id (overtime cfg)) [.settled id (overtime cfg)]
  | release {id due} : s.slot = some id → (s.ticket? id).bind (·.graceEnd) = some due →
      due ≤ now.ticks → Move cfg now s (.graceOver id) { s with slot := none } []

end Courier.Coordinator
