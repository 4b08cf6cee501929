import Courier.Text.Described

/-!
The lifecycle of a session as its handles see it.
-/

namespace Courier.Session

/-- The phases of a session's life. -/
inductive Phase where
  | idle
  | connecting
  | open
  | closing
  | closed
deriving DecidableEq

namespace Phase

def text : Phase → String
  | idle => "idle"
  | connecting => "connecting"
  | .open => "open"
  | closing => "closing"
  | closed => "closed"

def name : Phase → String
  | idle => "Idle"
  | connecting => "Connecting"
  | .open => "Open"
  | closing => "Closing"
  | closed => "Closed"

end Phase

structure Status where
  phase : Phase
  /-- Reconnect attempts in a row since the last stable connection. -/
  attempts : Nat
deriving DecidableEq

/-- The status of a session that was never connected. -/
def Status.initial : Status := ⟨.idle, 0⟩

def Status.describe (s : Status) : String :=
  Text.describedInPart "TransportSession" [
    ("status", Text.described "SessionStatus" [
      ("state", s.phase.name),
      ("reconnect_attempts", toString s.attempts)])]

end Courier.Session
