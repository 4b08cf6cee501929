import Courier.Socket.Item

/-!
The reading side of a WebSocket. It hands texts to the session in their order, and then one event
that says how the connection ended. Control frames and binary messages are skipped. After a close
frame it goes on reading, so that the closing handshake can finish, but hands on nothing more.
-/

namespace Courier.Socket

open Session (SocketEvent)

inductive Reader where
  | reading
  /-- A close frame has been read. -/
  | lingering
  | stopped
deriving DecidableEq

namespace Reader

/-- How long the closing handshake may take after a close frame. -/
def lingerTime : Time.Span := .ofSeconds 5

inductive Input where
  | item (i : Item)
  /-- The session let go of the socket. -/
  | released
  /-- The closing handshake has taken too long. -/
  | lingerOver

def closedBy : Option Closing → SocketEvent
  | some c => .closed (some c.code) c.reason
  | none => .closed none ""

/-- The state after an item, and the event that the item becomes, if it becomes one. -/
def read : Reader → Item → Reader × Option SocketEvent
  | reading, .text s => (reading, some (.text s))
  | reading, .close closing => (lingering, some (closedBy closing))
  | reading, .error detail => (stopped, some (.error detail))
  | reading, .ended => (stopped, some (.closed none "stream ended"))
  | lingering, .error _ | lingering, .ended => (stopped, none)
  | r, _ => (r, none)

def step (r : Reader) : Input → Reader × Option SocketEvent
  | .item i => r.read i
  | .released => (if r = reading then stopped else r, none)
  | .lingerOver => (if r = lingering then stopped else r, none)

/-- The events that items become one after the other, and the state after them. -/
def readAll (r : Reader) : List Item → Reader × List SocketEvent
  | [] => (r, [])
  | i :: items =>
    let (r, event) := r.read i
    let (r, events) := r.readAll items
    (r, event.toList ++ events)

end Reader
end Courier.Socket
