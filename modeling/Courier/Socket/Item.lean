import Courier.Session.Event

/-!
What travels over an established WebSocket: the items that are read from it, and the messages that
are written to it.
-/

namespace Courier.Socket

structure Closing where
  code : Nat
  reason : String
deriving DecidableEq

namespace Closing

def isAllowed (code : Nat) : Bool :=
  (1000 ≤ code && code ≤ 1003) || (1007 ≤ code && code ≤ 1013) || (3000 ≤ code && code ≤ 4999)

/-- How a close frame counts: one whose code may not be sent violates the protocol. -/
def effective (c : Closing) : Closing :=
  if isAllowed c.code then c else ⟨1002, "Protocol violation"⟩

def client : Closing := ⟨1000, "client closing"⟩

end Closing

def handshakeTimeout : Time.Span := .ofSeconds 10

inductive Item where
  | text (s : String)
  | binary
  | ping
  | pong
  /-- The other end closes, with a code and a reason if it gives them. -/
  | close (closing : Option Closing)
  | error (detail : String)
  /-- Nothing follows any more. -/
  | ended
deriving DecidableEq

/-- A message that is written to a WebSocket. -/
inductive Written where
  | message (o : Outbound)
  | close (closing : Option Closing)

end Courier.Socket
