import Courier.Envelope.Inbound
import Courier.Envelope.Outbound
import Courier.Error
import Courier.Time.Span

/-!
What a session tells its subscribers, and what travels over a socket.
-/

namespace Courier.Session

/-- Something that happened to a session. -/
inductive Event where
  /-- An attempt to connect started; `attempt` is 0 for a fresh one. -/
  | connecting (attempt : Nat)
  | opened
  | message (m : Message)
  /-- The connection ended; `manual` when that was asked for. -/
  | closed (code : Option Nat) (reason : String) (manual : Bool)
  | reconnecting (attempt : Nat) (delay : Time.Span)
  /-- No attempts are left; the session stays closed until it is connected again. -/
  | exhausted (attempts : Nat)
  | error (e : Error)

/-- What a socket delivers. -/
inductive SocketEvent where
  | text (s : String)
  | closed (code : Option Nat) (reason : String)
  | error (detail : String)
deriving DecidableEq

/-- How a socket reads once its other end is gone. -/
def SocketEvent.dropped : SocketEvent := .closed none "socket dropped"

def SocketEvent.isTerminal : SocketEvent → Bool
  | text _ => false
  | _ => true

/-- What is written to a socket. -/
inductive Frame where
  | message (o : Outbound)
  /-- Begins the closing handshake. -/
  | close

end Courier.Session
