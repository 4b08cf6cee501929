import Courier.Proofs.Session.Queue
import Courier.Tracking.Order

/-! A session together with the orders that are tracked over it. Each of them holds a handle of the session,
stands somewhere in the stream of its events, and asks it for the pushes of its channel. -/

namespace Courier.Tracking

open Session (Act Hub Link)
open Time (Moment Span)

structure Board where
  link : Link
  /-- Every order that was ever tracked, by number; none once it is dropped. -/
  orders : List (Option Order) := []

inductive Cue where
  /-- Someone asks for the next location. -/
  | ask
  /-- Nobody waits for it any longer. -/
  | leave
  /-- The order reads the next event. -/
  | read
  | tick
  | polled (result : Outcome Location)

inductive Happening where
  | session (a : Act)
  | track (moment : Moment) (seed : UInt64) (id : String) (period : Span)
  | cue (moment : Moment) (seed : UInt64) (order : Nat) (c : Cue)
  | drop (moment : Moment) (seed : UInt64) (order : Nat)

def Happening.surroundings? : Happening → Option Session.Surroundings
  | session (.take env) => some env
  | session (.meet env _) => some env
  | _ => none

/-- The input of an order that stands at a position, if there is something to read where it reads. -/
def Cue.input? (hub : Hub Session.Event) (position : Nat) : Cue → Option Input
  | ask => some .asked
  | leave => some .dropped
  | read => (hub.next? position).map fun (skipped, e, position) => .event skipped e position
  | tick => some .tick
  | polled result => some (.polled result)

namespace Board

def ofConfig (cfg : Session.Config) : Board := { link := .ofConfig cfg }

def isTracking (b : Board) : Bool := b.orders.any (·.isSome)

def request (moment : Moment) (seed : UInt64) (l : Link) : Effect → Link
  | .subscribe channel => l.enqueue (.send (.subscribe moment.wall seed [channel]))
  | _ => l

/-- The board after something has happened. A tracked order keeps the session from being abandoned. -/
def step (b : Board) : Happening → Board
  | .session (.meet env .abandoned) =>
    if b.isTracking then b else { b with link := b.link.act (.meet env .abandoned) }
  | .session a => { b with link := b.link.act a }
  | .track moment seed id period =>
    let link := b.link.enqueue (.send (.subscribe moment.wall seed [channel id]))
    match Order.start? id b.link.hub.tail moment.ticks period with
    | some o => { link := link, orders := b.orders ++ [some o] }
    | none => { b with link := link }
  | .cue moment seed i c =>
    match b.orders[i]? with
    | some (some o) =>
      match c.input? b.link.hub o.position with
      | some input =>
        let (o, effects) := o.step b.link.isOpen moment.ticks input
        { link := effects.foldl (request moment seed) b.link, orders := b.orders.set i (some o) }
      | none => b
    | _ => b
  | .drop moment seed i =>
    match b.orders[i]? with
    | some (some o) =>
      { link := b.link.enqueue (.send (.unsubscribe moment.wall seed [channel o.id]))
        orders := b.orders.set i none }
    | _ => b

def after (b : Board) (run : List Happening) : Board := run.foldl step b

theorem step_session (b : Board) (a : Act) :
    b.step (.session a) = b ∨ b.step (.session a) = { b with link := b.link.act a } ∧
      ((∀ env, a ≠ .meet env .abandoned) ∨ b.isTracking = false) := by
  cases a with
  | issue c => exact .inr ⟨rfl, .inl fun env => by simp⟩
  | take env => exact .inr ⟨rfl, .inl fun env => by simp⟩
  | meet env input =>
    cases input with
    | abandoned =>
      cases htracking : b.isTracking with
      | true => exact .inl (by simp [step, htracking])
      | false => exact .inr ⟨by simp [step, htracking], .inr rfl⟩
    | _ => exact .inr ⟨rfl, .inl fun env => by simp⟩

/-- What an order asks of the session waits in its queue. -/
theorem agrees_requests (moment : Moment) (seed : UInt64) (effects : List Effect) (l : Link) :
    l.Agrees (effects.foldl (request moment seed) l) := by
  induction effects generalizing l with
  | nil => exact l.agrees_refl
  | cons e effects ih =>
    have hfirst : l.Agrees (request moment seed l e) := by
      cases e with
      | subscribe channel => exact l.agrees_enqueue _
      | _ => exact l.agrees_refl
    apply hfirst.trans
    apply ih

end Board

/-- What the machine is given comes with the surroundings of the act. -/
theorem surroundings_of_input? {l : Link} {a : Act} {env : Session.Surroundings} {input : Session.Input}
    (h : l.input? a = some (env, input)) :
    (Happening.session a).surroundings? = some env ∧ (input = .abandoned → a = .meet env .abandoned) := by
  rcases Link.input?_cases h with ⟨rfl, -, c, _, -, rfl⟩ | ⟨rfl, -⟩
  · refine ⟨rfl, fun habandoned => ?_⟩
    cases c <;> cases habandoned
  · refine ⟨rfl, ?_⟩
    rintro rfl
    rfl

end Courier.Tracking
