import Courier.Session.Machine
import Courier.Socket.Connection

/-!
A session together with the connection that it has dialed as one of its sockets. The session hears of
the connection only by the events that it receives, and acts on it by its effects.
-/

namespace Courier.Socket

open Session (Effect Input State Surroundings SocketEvent)
open Connection (Happening Work)

structure Attached where
  socket : Nat
  session : State
  connection : Connection := {}

namespace Attached

inductive Occurrence where
  /-- The session handles an input. Events of the connection come by `receive` alone. -/
  | handle (env : Surroundings) (input : Input)
  /-- The session handles the next event of the connection. -/
  | receive (env : Surroundings)
  | work (w : Work)

def happening? (socket : Nat) : Effect → Option Happening
  | .write k frame => if k = socket then some (.send frame) else none
  | .release k => if k = socket then some .release else none
  | _ => none

def listens (a : Attached) : Bool :=
  match a.session.mode with
  | .ready => a.session.socket = some a.socket
  | .draining socket _ _ => socket = a.socket
  | .stopped => false

def event? (a : Attached) : Option SocketEvent :=
  if a.listens then a.connection.received .receive else none

/-- The input that the session handles, if it handles one. -/
def input? (a : Attached) : Occurrence → Option (Surroundings × Input)
  | .handle env (.received event) => if a.listens then none else some (env, .received event)
  | .handle env input => some (env, input)
  | .receive env => a.event?.map fun event => (env, .received event)
  | .work _ => none

def view (a : Attached) (env : Surroundings) : Surroundings :=
  if a.listens then { env with reachable := a.connection.accepts } else env

def turn (cfg : Session.Config) (a : Attached) (o : Occurrence) : Session.Turn :=
  match a.input? o with
  | some (env, input) => a.session.step cfg (a.view env) input
  | none => { state := a.session }

/-- What an occurrence is for the connection before the session acts. -/
def own (a : Attached) : Occurrence → List Happening
  | .handle _ _ => []
  | .receive _ => if a.event?.isSome then [.receive] else []
  | .work w => [.work w]

def happenings (cfg : Session.Config) (a : Attached) (o : Occurrence) : List Happening :=
  a.own o ++ (a.turn cfg o).effects.filterMap (happening? a.socket)

def step (cfg : Session.Config) (a : Attached) (o : Occurrence) : Attached :=
  { a with
    session := (a.turn cfg o).state
    connection := a.connection.after (a.happenings cfg o) }

def after (cfg : Session.Config) (a : Attached) (os : List Occurrence) : Attached :=
  os.foldl (step cfg) a

def history (cfg : Session.Config) : Attached → List Occurrence → List Happening
  | _, [] => []
  | a, o :: os => a.happenings cfg o ++ (a.step cfg o).history cfg os

end Attached
end Courier.Socket
