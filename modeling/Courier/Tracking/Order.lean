import Courier.Location
import Courier.Log
import Courier.Session.Event
import Courier.Time.Clock

/-!
Tracking where the rider of an order is. While the session is open, locations are pushed to a
channel of the order; otherwise the backend is polled. A tracked order is asked for its next
location; until it has one, it reads session events and, unless the session is open, takes ticks of
its poll timer.
-/

namespace Courier.Tracking

open Time (Ticker)

def channel (order : String) : String := "order:" ++ order

/-- What a tracked order is waiting for. -/
inductive Mode where
  /-- To be asked. -/
  | idle
  /-- A session event. -/
  | pushes
  /-- A tick of the poll timer or a session event. -/
  | either
  /-- The answer to a poll. -/
  | polling
deriving DecidableEq

structure Order where
  id : String
  /-- Where it stands in the stream of session events. -/
  position : Nat
  poll : Ticker
  mode : Mode := .idle

inductive Input where
  /-- Someone asks for the next location. -/
  | asked
  /-- Nobody waits for it any longer. -/
  | dropped
  /-- An event, after so many skipped ones, and the position behind it. -/
  | event (skipped : Nat) (e : Session.Event) (position : Nat)
  | tick
  | polled (result : Outcome Location)

inductive Effect where
  | log (line : LogLine)
  | subscribe (channel : String)
  /-- Asks the backend for the location. -/
  | poll
  /-- The next location. -/
  | found (l : Location)
  /-- The poll timer cannot go on. -/
  | crash

/-- Starts to track an order; its first poll is due at once. None when the poll timer cannot
start. -/
def Order.start? (id : String) (position ticks : Nat) (period : Time.Span) : Option Order :=
  (Ticker.startNow? ticks period).map fun poll => { id := id, position := position, poll := poll }

/-- Whether pushed data is meant for an order: it names it by a string or by a number. -/
def isFor (order : String) (data : Json.Value) : Bool :=
  match data.get? "order_id" with
  | some (.string id) => id == order
  | some (.number n) => Json.numberText n == order
  | _ => false

/-- The location in a message, if it is one for the order, and what is logged. -/
def locationOf (order : String) (m : Message) : Option Location × List LogLine :=
  if m.kind = .riderLocation ∧ isFor order m.data = true then
    match Location.ofValue m.data with
    | .ok l => (some l, [])
    | .error mismatch =>
      (none, [.warn ("Malformed rider_location for " ++ order ++ ": " ++ mismatch.message)])
  else (none, [])

/-- What an event means for an order: a location, and what has to be done. -/
def readEvent (order : String) : Session.Event → Option Location × List Effect
  | .message m => let (l, lines) := locationOf order m; (l, lines.map .log)
  | .opened =>
    (none, [.log (.debug ("Session reopened; resubscribing to " ++ channel order)),
      .subscribe (channel order)])
  | .closed _ _ _ => (none, [.log (.debug ("Session down; polling for " ++ order))])
  | _ => (none, [])

def lagLines (skipped : Nat) : List LogLine :=
  if skipped = 0 then []
  else [.warn ("Session event receiver lagged; skipped " ++ toString skipped ++ " events")]

/-- The mode in which an order waits while the session is open or not. -/
def waitingMode (isOpen : Bool) : Mode := if isOpen then .pushes else .either

/-- One step of a tracked order. `isOpen` says whether the session is open. An input that cannot
arrive in a mode has no effect. -/
def Order.step (isOpen : Bool) (ticks : Nat) (o : Order) (input : Input) : Order × List Effect :=
  match input, o.mode with
  | .asked, .idle => ({ o with mode := waitingMode isOpen }, [])
  | .dropped, _ => ({ o with mode := .idle }, [])
  | .event skipped e position, .pushes | .event skipped e position, .either =>
    let lag := (lagLines skipped).map Effect.log
    match readEvent o.id e with
    | (some l, effects) =>
      ({ o with mode := .idle, position := position }, lag ++ effects ++ [.found l])
    | (none, effects) =>
      ({ o with mode := waitingMode isOpen, position := position }, lag ++ effects)
  | .tick, .either =>
    match o.poll.advance? ticks with
    | some poll => ({ o with mode := .polling, poll := poll }, [.poll])
    | none => ({ o with mode := .idle }, [.crash])
  | .polled (.ok l), .polling => ({ o with mode := .idle }, [.found l])
  | .polled (.error e), .polling =>
    ({ o with mode := waitingMode isOpen },
      [.log (.warn ("Polling rider location for " ++ o.id ++ " failed: " ++ e.message))])
  | _, _ => (o, [])

end Courier.Tracking
