import Courier.Socket.Reader
import Courier.Socket.Writer

/-!
An established connection: the two sides of a WebSocket, and what is on the way between them and the
session. Each side works at its own pace. The session queues frames and waits for events, until it
lets go of its end.
-/

namespace Courier.Socket

open Session (Frame SocketEvent)

structure Connection where
  reader : Reader := .reading
  writer : Writer := .writing
  /-- Events that the session has not received. -/
  inbox : List SocketEvent := []
  /-- Frames that the writing side has not taken. -/
  outbox : List Frame := []
  /-- Whether the session has not let go of its end. -/
  held : Bool := true

namespace Connection

/-- What the two sides do by themselves. -/
inductive Work where
  | read (i : Item)
  /-- The reading side finds that the session has let go. -/
  | notice
  /-- The closing handshake has taken too long. -/
  | giveUp
  /-- The writing side takes what comes next; `writable` says whether a frame can be written. -/
  | write (writable : Bool)

inductive Happening where
  | work (w : Work)
  | send (f : Frame)
  /-- The session takes the next event. -/
  | receive
  | release

def accepts (c : Connection) : Bool := c.held && c.writer = .writing

/-- The next event for the session, if it need not wait. Once the reading side is gone and its last
event is taken, the connection reads as closed. -/
def next? (c : Connection) : Option SocketEvent :=
  match c.inbox with
  | event :: _ => some event
  | [] => if c.reader = .stopped then some .dropped else none

/-- An item is read. An event that cannot be handed on ends the reading. -/
def read (c : Connection) (i : Item) : Connection :=
  match c.held, c.reader.step (.item i) with
  | true, (reader, event) => { c with reader := reader, inbox := c.inbox ++ event.toList }
  | false, (reader, none) => { c with reader := reader }
  | false, (reader, some _) => { c with reader := (reader.step .released).1 }

/-- A turn of the writing side: what it leaves, and what is written. It waits for a frame as long as
one can come. -/
def write (c : Connection) (writable : Bool) : Connection × Option Written :=
  match c.outbox with
  | f :: frames =>
    let (writer, written) := c.writer.step (.frame f writable)
    ({ c with writer := writer, outbox := frames }, written)
  | [] =>
    if c.held then (c, none)
    else
      let (writer, written) := c.writer.step .released
      ({ c with writer := writer }, written)

def step (c : Connection) : Happening → Connection
  | .work (.read i) => c.read i
  | .work .notice => if c.held then c else { c with reader := (c.reader.step .released).1 }
  | .work .giveUp => { c with reader := (c.reader.step .lingerOver).1 }
  | .work (.write writable) => (c.write writable).1
  | .send f => if c.accepts then { c with outbox := c.outbox ++ [f] } else c
  | .receive => { c with inbox := c.inbox.tail }
  | .release => { c with held := false, inbox := [] }

def queued (c : Connection) : Happening → Option Frame
  | .send f => if c.accepts then some f else none
  | _ => none

def received (c : Connection) : Happening → Option SocketEvent
  | .receive => if c.held then c.next? else none
  | _ => none

def written (c : Connection) : Happening → Option Written
  | .work (.write writable) => (c.write writable).2
  | _ => none

def after (c : Connection) (hs : List Happening) : Connection := hs.foldl step c

def collect {α : Type} (f : Connection → Happening → Option α) : Connection → List Happening → List α
  | _, [] => []
  | c, h :: hs => (f c h).toList ++ collect f (c.step h) hs

end Connection
end Courier.Socket
