import Courier.Session.Hub
import Courier.Session.Machine

/-!
A session as its handles see it: they queue commands, read the published status and subscribe to the
stream of events.
-/

namespace Courier.Session

/-- What a handle asks for. Callers are numbered; they get an answer. -/
inductive Command where
  | connect (caller : Nat)
  | close (caller : Nat)
  | send (message : Outbound)

def Command.input : Command → Input
  | connect caller => .connect caller
  | close caller => .close caller
  | send message => .send message

/-- What callers of a session are told that handles nothing any more. -/
def stoppedError : Error := .connection "session driver has stopped"

/-- What a caller of a command is told that will never be handled. -/
def Command.unhandled? : Command → Option (Nat × Outcome Unit)
  | connect caller => some (caller, .error stoppedError)
  | close caller => some (caller, .ok ())
  | send _ => none

structure Link where
  config : Config
  machine : State := {}
  /-- Commands that have not been handled, the oldest first. -/
  commands : List Command := []
  status : Status := .initial
  hub : Hub Event

namespace Link

def ofConfig (config : Config) : Link :=
  { config := config, hub := .ofCapacity config.eventCapacity }

def isStopped (l : Link) : Bool :=
  match l.machine.mode with
  | .stopped => true
  | _ => false

def isOpen (l : Link) : Bool := l.status.phase = .open

/-- Queues a command, unless the session has stopped. -/
def enqueue (l : Link) (c : Command) : Link :=
  if l.isStopped then l else { l with commands := l.commands ++ [c] }

def observe (l : Link) : Effect → Link
  | .emit e => { l with hub := l.hub.push e }
  | .publish s => { l with status := s }
  | _ => l

def step (l : Link) (env : Surroundings) (input : Input) : Link × List Effect :=
  let turn := l.machine.step l.config env input
  (turn.effects.foldl observe { l with machine := turn.state }, turn.effects)

end Link
end Courier.Session
