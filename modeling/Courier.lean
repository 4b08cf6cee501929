import Courier.Client.Builder
import Courier.Proofs.Client.Base
import Courier.Proofs.Coordinator.Deadline
import Courier.Proofs.Coordinator.EmptyStore
import Courier.Proofs.Coordinator.Exchanges
import Courier.Proofs.Coordinator.Fallback
import Courier.Proofs.Coordinator.Latch
import Courier.Proofs.Coordinator.LateChains
import Courier.Proofs.Coordinator.Ledger
import Courier.Proofs.Coordinator.Lifetime
import Courier.Proofs.Coordinator.Logout
import Courier.Proofs.Coordinator.Moves
import Courier.Proofs.Coordinator.Order
import Courier.Proofs.Coordinator.Runs
import Courier.Proofs.Coordinator.SingleFlight
import Courier.Proofs.Coordinator.Steps
import Courier.Proofs.Coordinator.Verdicts
import Courier.Proofs.Credential.Expiry
import Courier.Proofs.Credential.Stored
import Courier.Proofs.Envelope.Inbound
import Courier.Proofs.Envelope.Wire
import Courier.Proofs.Http.Answers
import Courier.Proofs.Http.Bearer
import Courier.Proofs.Http.Envelope
import Courier.Proofs.Http.Gate
import Courier.Proofs.Http.Path
import Courier.Proofs.Http.Traffic
import Courier.Proofs.Json.Fields
import Courier.Proofs.Json.Integers
import Courier.Proofs.Json.Members
import Courier.Proofs.Json.RoundTrip
import Courier.Proofs.Json.Strings
import Courier.Proofs.Json.Valid
import Courier.Proofs.Redaction
import Courier.Proofs.Redaction.Query
import Courier.Proofs.Scenario.Frame
import Courier.Proofs.Scenario.Gate
import Courier.Proofs.Scenario.Resource
import Courier.Proofs.Session.Backoff
import Courier.Proofs.Session.Cadence
import Courier.Proofs.Session.Coherence
import Courier.Proofs.Session.Counter
import Courier.Proofs.Session.Dialing
import Courier.Proofs.Session.Dispatch
import Courier.Proofs.Session.Drain
import Courier.Proofs.Session.Endpoint
import Courier.Proofs.Session.Frames
import Courier.Proofs.Session.Grammar
import Courier.Proofs.Session.Lifecycle
import Courier.Proofs.Session.Moves
import Courier.Proofs.Session.Outputs
import Courier.Proofs.Session.Ownership
import Courier.Proofs.Session.Queue
import Courier.Proofs.Session.Records
import Courier.Proofs.Session.Silence
import Courier.Proofs.Session.Stability
import Courier.Proofs.Session.Standstill
import Courier.Proofs.Session.Staying
import Courier.Proofs.Session.Steps
import Courier.Proofs.Session.Survival
import Courier.Proofs.Session.Timing
import Courier.Proofs.Session.Unseen
import Courier.Proofs.Socket.Attached
import Courier.Proofs.Socket.Reading
import Courier.Proofs.Socket.Runs
import Courier.Proofs.Socket.Writing
import Courier.Proofs.Text.Base36
import Courier.Proofs.Text.Cut
import Courier.Proofs.Text.Digits
import Courier.Proofs.Text.Percent
import Courier.Proofs.Time.Calendar
import Courier.Proofs.Time.Reading
import Courier.Proofs.Time.Timeline
import Courier.Proofs.Tracking.Board
import Courier.Proofs.Tracking.Follows
import Courier.Proofs.Tracking.Found
import Courier.Proofs.Tracking.History
import Courier.Proofs.Tracking.Pushes
import Courier.Proofs.Tracking.Requests
import Courier.Proofs.Tracking.Steps
import Courier.Proofs.Tracking.Subscribed
import Courier.Scenario.WebSocket
import Courier.Socket.Attached
import Courier.Socket.Connection
