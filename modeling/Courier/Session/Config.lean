import Courier.Text.Described
import Courier.Text.Quoted
import Courier.Time.Span

/-!
Tuning of a session.
-/

namespace Courier.Session

open Time (Span)

structure Config where
  /-- The HTTP base URL of the backend. -/
  baseUrl : String
  /-- Time between outgoing pings while open. -/
  heartbeat : Span := .ofSeconds 45
  /-- Unit of the backoff: attempt n waits n times this. -/
  reconnect : Span := .ofSeconds 3
  maxAttempts : Nat := 5
  /-- How long a connection must stay open before the attempts count from zero again. -/
  stability : Span := .ofSeconds 10
  /-- Upper bound on waiting for a socket to confirm that it closes. -/
  closeTimeout : Span := .ofSeconds 1
  /-- Events that are kept for each subscriber before the slowest one lags. -/
  eventCapacity : Nat := 256

namespace Config

def withEventCapacity (c : Config) (capacity : Nat) : Config :=
  { c with eventCapacity := max 1 capacity }

def describe (c : Config) : String :=
  Text.described "SessionConfig" [
    ("base_url", Text.quoted c.baseUrl),
    ("heartbeat_interval", c.heartbeat.text),
    ("reconnect_interval", c.reconnect.text),
    ("max_reconnect_attempts", toString c.maxAttempts),
    ("stability_window", c.stability.text),
    ("close_timeout", c.closeTimeout.text),
    ("event_capacity", toString c.eventCapacity)]

end Config
end Courier.Session
