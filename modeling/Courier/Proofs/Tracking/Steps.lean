import Courier.Tracking.Order

/-! Everything that one step of a tracked order can do. `Does` lists it: what an input finds, the order that
it leaves and its effects in order. `step_does` shows that there is nothing else. -/

namespace Courier.Tracking

open Time (Ticker)

def Mode.Accepts : Mode → Input → Prop
  | idle, .asked => True
  | _, .dropped => True
  | pushes, .event _ _ _ | either, .event _ _ _ => True
  | either, .tick => True
  | polling, .polled (.ok _) | polling, .polled (.error _) => True
  | _, _ => False

/-- What one step of an order can do: the input, the order that it leaves and its effects. -/
inductive Order.Does (isOpen : Bool) (ticks : Nat) (o : Order) : Input → Order → List Effect → Prop where
  | skip {input} : ¬ o.mode.Accepts input → Does isOpen ticks o input o []
  | ask : o.mode = .idle → Does isOpen ticks o .asked { o with mode := waitingMode isOpen } []
  | leave : Does isOpen ticks o .dropped { o with mode := .idle } []
  -- an event, while one is waited for
  | hit {skipped e position l effects} : o.mode = .pushes ∨ o.mode = .either →
      readEvent o.id e = (some l, effects) →
      Does isOpen ticks o (.event skipped e position) { o with mode := .idle, position := position }
        ((lagLines skipped).map .log ++ effects ++ [.found l])
  | miss {skipped e position effects} : o.mode = .pushes ∨ o.mode = .either →
      readEvent o.id e = (none, effects) →
      Does isOpen ticks o (.event skipped e position)
        { o with mode := waitingMode isOpen, position := position }
        ((lagLines skipped).map .log ++ effects)
  -- polls
  | poll {next} : o.mode = .either → o.poll.advance? ticks = some next →
      Does isOpen ticks o .tick { o with mode := .polling, poll := next } [.poll]
  | crash : o.mode = .either → o.poll.advance? ticks = none →
      Does isOpen ticks o .tick { o with mode := .idle } [.crash]
  | answer {l} : o.mode = .polling →
      Does isOpen ticks o (.polled (.ok l)) { o with mode := .idle } [.found l]
  | fail {e} : o.mode = .polling →
      Does isOpen ticks o (.polled (.error e)) { o with mode := waitingMode isOpen }
        [.log (.warn ("Polling rider location for " ++ o.id ++ " failed: " ++ e.message))]

theorem Order.step_does (isOpen : Bool) (ticks : Nat) (o : Order) (input : Input) :
    o.Does isOpen ticks input (o.step isOpen ticks input).1 (o.step isOpen ticks input).2 := by
  unfold Order.step
  split
  · rename_i hm
    exact .ask hm
  · exact .leave
  · rename_i hm
    split
    · rename_i hread
      exact .hit (.inl hm) hread
    · rename_i hread
      exact .miss (.inl hm) hread
  · rename_i hm
    split
    · rename_i hread
      exact .hit (.inr hm) hread
    · rename_i hread
      exact .miss (.inr hm) hread
  · rename_i hm
    split
    · rename_i hnext
      exact .poll hm hnext
    · rename_i hnext
      exact .crash hm hnext
  · rename_i hm
    exact .answer hm
  · rename_i hm
    exact .fail hm
  · refine .skip fun haccepts => ?_
    unfold Mode.Accepts at haccepts
    split at haccepts <;> simp_all

end Courier.Tracking
