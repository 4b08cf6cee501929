import Courier.Scenario.Run
import Courier.Socket.Reader
import Courier.Socket.Wire
import Courier.Socket.Writer

/-!
Scenarios with one WebSocket and a scripted server at its other end. Time stands still in them, but
for an opening handshake that is never answered.
-/

namespace Courier.Scenario.WebSocket

open Socket (Closing Item Reader Stream Writer Written)

/-- What the server does about the opening handshake. -/
inductive Handshake where
  | accept
  /-- Answers with an HTTP status. -/
  | reject
  /-- Is not there. -/
  | refuse
  /-- Never answers. -/
  | silent
  /-- Answers something else, or drops the connection. -/
  | breakOff
deriving DecidableEq

def Handshake.isSeen : Handshake → Bool
  | .accept | .reject => true
  | _ => false

def Handshake.dial (timeout : Time.Span) : Handshake → Dial
  | .accept => { onClose := [⟨none, .close (some Closing.client.code) Closing.client.reason⟩] }
  | .silent =>
    { delay := some timeout
      refusal := some ("WebSocket handshake timed out after " ++ timeout.text) }
  | _ => { refusal := some "WebSocket connect failed" }

inductive ServerMove where
  | message (i : Item)
  /-- Writes bytes under the WebSocket. -/
  | raw (bytes : List UInt8)
  | drop
  | close (closing : Option Closing)

inductive Deed where
  | server (m : ServerMove)
  | send (kind : String) (data : Json.Value) (channel : Option String)
  | close
  /-- The client lets go of its session. -/
  | dropSession

/-- The two sides of the socket as the script sees them. -/
structure Line where
  stream : Stream := {}
  reader : Reader := .reading
  writer : Writer := .writing
  /-- Whether the server still takes what is written. -/
  isListening : Bool := true

def ServerMove.items (s : Stream) : ServerMove → Stream × List Item
  | .message i => (s, [i])
  | .raw bytes => s.feed bytes
  | .drop => (s, [.error Socket.Fault.protocol.message])
  | .close closing => (s, [.close (closing.map Closing.effective)])

/-- What the peer of the session does for an event that is read. -/
def moveOf : Session.SocketEvent → PeerAction
  | .text s => ⟨none, .text s⟩
  | .closed code reason => ⟨none, .close code reason⟩
  | .error detail => ⟨none, .fail detail⟩

/-- The server makes a move: the step that it is for the session, and what the server gets back. A
close frame is answered with the same code and reason. -/
def Line.serve (l : Line) (m : ServerMove) : Line × Step × List Written :=
  let (stream, items) := m.items l.stream
  let (reader, events) := l.reader.readAll items
  let isClosing := reader = .lingering && l.reader = .reading
  let echo := if l.isListening && isClosing then
      items.filterMap fun i => match i with | .close closing => some (.close closing) | _ => none
    else []
  let gone := match m with | .drop => true | _ => isClosing
  ({ l with stream := stream, reader := reader, isListening := l.isListening && !gone },
    .peer none (events.map moveOf), echo)

def Line.write (l : Line) (frames : List SeenFrame) : Line × List Written :=
  let inputs := frames.map fun f =>
    match f.frame with
    | some frame => Writer.Input.frame frame true
    | none => .released
  let (writer, written) := l.writer.writeAll inputs
  ({ l with writer := writer }, if l.isListening then written else [])

/-- The part of an address that a server sees: what follows the host. -/
def target (address : String) : String :=
  let afterScheme := match Text.cutFirst '/' address.toList with
    | some (_, rest) => rest.drop 1
    | none => []
  String.ofList (afterScheme.dropWhile fun c => c != '/' && c != '?')

structure Report where
  answer : Answer
  received : List Written
  events : List Session.Event
  status : Option Session.Status
  /-- What the server was asked for, if it got to see a request. -/
  target : Option String := none

/-- Takes a step and reports what came of it; `echo` is what the server has got already. -/
def takeReport (l : Line) (index : Nat) (s : Step) (echo : List Written) :
    Play (Line × Report) := do
  let r ← playStep index s
  let (l, written) := l.write r.frames
  return (l, ⟨r.answer, echo ++ written, r.events, r.status, r.dials.head?.map (target ·.url)⟩)

/-- The step that a deed is for the session, and what the server gets for it at once. -/
def Line.stepOf (l : Line) : Deed → Line × Step × List Written
  | .server m => l.serve m
  | .send kind data channel => (l, .send kind data channel, [])
  | .close => (l, .call .close false patience, [])
  | .dropSession => (l, .dropSession, [])

def playDeeds (index : Nat) (l : Line) : List Deed → Play (List Report)
  | [] => return []
  | d :: rest => do
    let (l, step, echo) := l.stepOf d
    let (l, report) ← takeReport l index step echo
    let answer := match d with | .server _ => .value .null | _ => report.answer
    let reports ← playDeeds (index + 1) l rest
    return { report with answer := answer } :: reports

/-- Connects, and waits for a handshake that is never answered. -/
def connect (timeout : Time.Span) (handshake : Handshake) : Play (Line × Report) := do
  let (l, first) ← takeReport { isListening := false } 0 (.call .connect false patience) []
  let l := { l with isListening := first.status.any (·.phase = .open) }
  let first := if handshake.isSeen then first else { first with target := none }
  if handshake = .silent then
    let (l, later) ← takeReport l 1 (.advance timeout.millisUp) []
    return (l, { first with events := first.events ++ later.events, status := later.status })
  else return (l, first)

/-- Plays a scenario: the report on connecting, then one for each deed. -/
def play (setup : Setup) (timeout : Time.Span) (handshake : Handshake) (deeds : List Deed) :
    List Report :=
  let run : Play (List Report) := do
    let (l, first) ← connect timeout handshake
    let reports ← playDeeds 2 l deeds
    return first :: reports
  (run.run (.start { setup with connector := [handshake.dial timeout] })).1

end Courier.Scenario.WebSocket
