import Courier.Text.Described
import Courier.Time.Span

/-!
Tuning of a credential coordinator.
-/

namespace Courier.Coordinator

open Time (Span)

structure Config where
  /-- A token is refreshed once it expires within this time. -/
  refreshBuffer : Span := .ofSeconds 300
  /-- The time that one refresh may take. -/
  refreshTimeout : Span := .ofSeconds 15
  /-- How long a settled ticket goes on answering callers. -/
  ticketGrace : Span := .ofMillis 200
  /-- The lifetime of a token for which the backend names no expiry. -/
  defaultTtl : Span := .ofSeconds 7200

def Config.describe (c : Config) : String :=
  Text.described "CoordinatorConfig" [
    ("refresh_buffer", c.refreshBuffer.text),
    ("refresh_timeout", c.refreshTimeout.text),
    ("ticket_grace", c.ticketGrace.text),
    ("default_token_ttl", c.defaultTtl.text)]

end Courier.Coordinator
