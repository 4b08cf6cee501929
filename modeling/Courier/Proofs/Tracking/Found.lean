import Courier.Proofs.Json.Integers
import Courier.Proofs.Tracking.Pushes
import Courier.Proofs.Tracking.Requests
import Courier.Proofs.Tracking.Steps

/-! What an order finds. As long as it does not lag behind, the locations that it finds are made up of those
that were pushed to it since it is tracked, and of the answers to its polls, each in order. What it takes up
is seen here one input at a time, `Taken`; what a poll comes to is read off the inputs after it. -/

namespace Courier.Tracking

open Session (Act Hub Link Record)
open Time (Moment Span)

inductive Interleaves {α : Type} : List α → List α → List α → Prop where
  | nil : Interleaves [] [] []
  | left {a l r m} : Interleaves l r m → Interleaves (a :: l) r (a :: m)
  | right {a l r m} : Interleaves l r m → Interleaves l (a :: r) (a :: m)

def Effect.found? : Effect → Option Location
  | found l => some l
  | _ => none

def Effect.isPoll : Effect → Bool
  | poll => true
  | _ => false

structure Taken where
  order : Order
  isOpen : Bool
  ticks : Nat
  input : Input

namespace Taken

def next (t : Taken) : Order := (t.order.step t.isOpen t.ticks t.input).1

def effects (t : Taken) : List Effect := (t.order.step t.isOpen t.ticks t.input).2

def found (t : Taken) : List Location := t.effects.filterMap Effect.found?

def polls (t : Taken) : Bool := t.effects.any Effect.isPoll

def read? (t : Taken) : Option Session.Event :=
  match t.order.mode, t.input with
  | .pushes, .event _ e _ | .either, .event _ e _ => some e
  | _, _ => none

/-- Whether somebody has waited for the next location, and does not wait any longer. -/
def Ends (t : Taken) : Prop := t.order.mode ≠ .idle ∧ t.next.mode = .idle

/-- Whether the input brings no location: a poll has failed, or an event pushes none. -/
def IsBarren (t : Taken) : Prop :=
  match t.input with
  | .polled (.error _) => True
  | .event _ e _ => ∀ l, ¬ Pushes t.order.id e l
  | _ => False

end Taken

/-- What comes of a poll that was just made: the location that it is answered with, unless whoever waits for
it leaves before. -/
def answer? : List Taken → Option Location
  | [] => none
  | t :: ts =>
    match t.input with
    | .dropped => none
    | .polled result => result.toOption
    | _ => answer? ts

/-- The locations that polls were answered with, in the order in which the polls were made. -/
def answers : List Taken → List Location
  | [] => []
  | t :: ts => (if t.polls then (answer? ts).toList else []) ++ answers ts

namespace Board

def takes? (b : Board) (i : Nat) : Happening → Option Taken
  | .cue moment _ j c =>
    if j = i then
      match b.orders[i]? with
      | some (some o) => (c.input? b.link.hub o.position).map fun input =>
          ⟨o, b.link.isOpen, moment.ticks, input⟩
      | _ => none
    else none
  | _ => none

def taken (b : Board) (i : Nat) (run : List Happening) : List Taken :=
  (b.history run).filterMap fun f => f.1.takes? i f.2

def events (b : Board) (run : List Happening) : List Session.Event :=
  Session.emitted ((b.records run).flatMap (·.effects))

end Board

theorem Interleaves.append {α : Type} {l r m : List α} (h : Interleaves l r m) (p q : List α) :
    Interleaves (p ++ l) (q ++ r) (p ++ q ++ m) := by
  induction p with
  | nil =>
    induction q with
    | nil => exact h
    | cons a q ih => exact ih.right
  | cons a p ih => exact ih.left

/-- On the way to what an event means, nothing is found and no poll is made. -/
theorem quiet_reading (skipped : Nat) (order : String) (e : Session.Event) :
    let effects := (lagLines skipped).map Effect.log ++ (readEvent order e).2
    effects.filterMap Effect.found? = [] ∧ effects.any Effect.isPoll = false := by
  intro effects
  have hquiet : ∀ effect ∈ effects, effect.found? = none ∧ effect.isPoll = false := by
    intro effect h
    rcases List.mem_append.mp h with h | h
    · obtain ⟨line, -, rfl⟩ := List.mem_map.mp h
      exact ⟨rfl, rfl⟩
    cases e with
    | message m =>
      obtain ⟨line, -, rfl⟩ := List.mem_map.mp h
      exact ⟨rfl, rfl⟩
    | opened =>
      simp only [readEvent, List.mem_cons, List.not_mem_nil, or_false] at h
      rcases h with rfl | rfl <;> exact ⟨rfl, rfl⟩
    | closed _ _ _ =>
      obtain rfl := List.mem_singleton.mp h
      exact ⟨rfl, rfl⟩
    | _ => cases h
  refine ⟨List.filterMap_eq_nil_iff.mpr fun effect h => (hquiet effect h).1, ?_⟩
  rw [List.any_eq_false]
  intro effect h
  rw [(hquiet effect h).2]
  exact Bool.false_ne_true

theorem waitingMode_ne_idle (isOpen : Bool) : waitingMode isOpen ≠ .idle := by
  cases isOpen <;> nofun

theorem waitingMode_ne_polling (isOpen : Bool) : waitingMode isOpen ≠ .polling := by
  cases isOpen <;> nofun

def inFlight (o : Order) (ts : List Taken) : List Location :=
  if o.mode = .polling then (answer? ts).toList else []

namespace Taken

variable {t : Taken}

theorem does (t : Taken) : t.order.Does t.isOpen t.ticks t.input t.next t.effects :=
  t.order.step_does t.isOpen t.ticks t.input

theorem read?_of_event {skipped position : Nat} {e : Session.Event}
    (hinput : t.input = .event skipped e position) (hm : t.order.mode = .pushes ∨ t.order.mode = .either) :
    t.read? = some e := by
  unfold read?
  rcases hm with hm | hm <;> rw [hm, hinput]

theorem read?_eq_none (h : ∀ skipped e position, t.input = .event skipped e position →
    ¬ (t.order.mode = .pushes ∨ t.order.mode = .either)) : t.read? = none := by
  unfold read?
  split
  · rename_i hm hinput
    exact absurd (.inl hm) (h _ _ _ hinput)
  · rename_i hm hinput
    exact absurd (.inr hm) (h _ _ _ hinput)
  · rfl

theorem read?_of_not_accepts (hno : ¬ t.order.mode.Accepts t.input) : t.read? = none := by
  refine read?_eq_none fun skipped e position hevent hm => hno ?_
  rw [hevent]
  rcases hm with hm | hm <;> rw [hm] <;> trivial

/-- What an order finds is pushed to it, or answers a poll that is in flight. -/
theorem found_eq (t : Taken) (ts : List Taken) :
    ∃ answered, t.found = (t.read?.bind (pushed? t.order.id)).toList ++ answered ∧
      inFlight t.order (t :: ts) ++ (if t.polls then (answer? ts).toList else []) =
        answered ++ inFlight t.next ts := by
  have hdoes := t.does
  unfold found polls
  generalize t.effects = effects at hdoes
  generalize t.next = next at hdoes
  generalize hinput : t.input = input at hdoes
  cases hdoes with
  | skip hno =>
    have hread : t.read? = none := read?_of_not_accepts (hinput ▸ hno)
    refine ⟨[], by simp [hread], ?_⟩
    -- neither an answer nor the end of the call can be skipped while a poll is in flight
    have hsame : inFlight t.order (t :: ts) = inFlight t.order ts := by
      unfold inFlight
      split
      · rename_i hm
        rw [hm] at hno
        cases input with
        | dropped => exact absurd trivial hno
        | polled result => cases result <;> exact absurd trivial hno
        | _ => simp [answer?, hinput]
      · rfl
    simpa using hsame
  | ask hm =>
    have hread : t.read? = none := read?_eq_none (by simp [hinput])
    refine ⟨[], by simp [hread], ?_⟩
    simp [inFlight, hm, waitingMode_ne_polling]
  | leave =>
    have hread : t.read? = none := read?_eq_none (by simp [hinput])
    exact ⟨[], by simp [hread], by simp [inFlight, answer?, hinput]⟩
  | @hit skipped e _ l effects hm hfound =>
    have hread : t.read? = some e := read?_of_event hinput hm
    have hpushed : pushed? t.order.id e = some l := by rw [pushed?_eq, hfound]
    obtain ⟨hnone, hpolls⟩ := quiet_reading skipped t.order.id e
    rw [hfound] at hnone hpolls
    have hnot : t.order.mode ≠ .polling := by rcases hm with hm | hm <;> rw [hm] <;> nofun
    refine ⟨[], ?_, ?_⟩
    · rw [List.filterMap_append, hnone, hread, Option.bind_some, hpushed]
      rfl
    · rw [List.any_append, hpolls]
      simp [inFlight, hnot, Effect.isPoll]
  | @miss skipped e _ effects hm hfound =>
    have hread : t.read? = some e := read?_of_event hinput hm
    have hpushed : pushed? t.order.id e = none := by rw [pushed?_eq, hfound]
    obtain ⟨hnone, hpolls⟩ := quiet_reading skipped t.order.id e
    rw [hfound] at hnone hpolls
    have hnot : t.order.mode ≠ .polling := by rcases hm with hm | hm <;> rw [hm] <;> nofun
    refine ⟨[], ?_, ?_⟩
    · rw [hnone, hread, Option.bind_some, hpushed]
      rfl
    · rw [hpolls]
      simp [inFlight, hnot, waitingMode_ne_polling]
  | poll hm hnext =>
    have hread : t.read? = none := read?_eq_none (by simp [hinput])
    exact ⟨[], by simp [hread, Effect.found?], by simp [inFlight, hm, Effect.isPoll]⟩
  | crash hm hnext =>
    have hread : t.read? = none := read?_eq_none (by simp [hinput])
    exact ⟨[], by simp [hread, Effect.found?], by simp [inFlight, hm, Effect.isPoll]⟩
  | @answer l hm =>
    have hread : t.read? = none := read?_eq_none (by simp [hinput])
    refine ⟨[l], by simp [hread, Effect.found?], ?_⟩
    simp [inFlight, answer?, hinput, hm, Effect.isPoll, Except.toOption]
  | fail hm =>
    have hread : t.read? = none := read?_eq_none (by simp [hinput])
    refine ⟨[], by simp [hread, Effect.found?], ?_⟩
    simp [inFlight, answer?, hinput, hm, waitingMode_ne_polling, Effect.isPoll, Except.toOption]

theorem next_id (t : Taken) : t.next.id = t.order.id := by
  have hdoes := t.does
  generalize t.effects = effects, t.next = next, t.input = input at hdoes
  cases hdoes <;> rfl

/-- Whoever waits for a location waits until one is found, and not for an input that brings none. -/
theorem ends (t : Taken) : (t.found ≠ [] → t.Ends) ∧ (t.IsBarren → ¬ t.Ends) := by
  have hdoes := t.does
  unfold found Ends IsBarren
  generalize t.effects = effects, t.next = next at hdoes
  generalize hinput : t.input = input at hdoes
  cases hdoes with
  | skip _ => exact ⟨fun h => absurd rfl h, fun _ h => h.1 h.2⟩
  | ask hm => exact ⟨fun h => absurd rfl h, fun _ h => h.1 hm⟩
  | leave | poll _ _ | crash _ _ => exact ⟨fun h => absurd rfl h, False.elim⟩
  | hit hm hfound =>
    refine ⟨fun _ => ⟨?_, rfl⟩, fun h => ?_⟩
    · rcases hm with hm | hm <;> rw [hm] <;> nofun
    · exact absurd (pushed?_eq_some.mp (by rw [pushed?_eq, hfound])) (h _)
  | @miss skipped e _ effects hm hfound =>
    have hnone := (quiet_reading skipped t.order.id e).1
    rw [hfound] at hnone
    exact ⟨fun h => absurd hnone h, fun _ h => waitingMode_ne_idle _ h.2⟩
  | answer hm => exact ⟨fun _ => ⟨by rw [hm]; nofun, rfl⟩, False.elim⟩
  | fail hm => exact ⟨fun h => absurd rfl h, fun _ h => waitingMode_ne_idle _ h.2⟩

end Taken

/-- Whether each input is taken up by the order that the one before has left. -/
def Threads : Order → List Taken → Prop
  | _, [] => True
  | o, t :: ts => t.order = o ∧ Threads t.next ts

theorem Threads.found {o : Order} {ts : List Taken} (h : Threads o ts) :
    Interleaves ((ts.filterMap Taken.read?).filterMap (pushed? o.id)) (inFlight o ts ++ answers ts)
      (ts.flatMap Taken.found) := by
  induction ts generalizing o with
  | nil =>
    have hnone : inFlight o [] = [] := by unfold inFlight; split <;> rfl
    rw [hnone]
    exact .nil
  | cons t ts ih =>
    obtain ⟨rfl, hrest⟩ := h
    obtain ⟨answered, hfound, hflight⟩ := t.found_eq ts
    have hall := (ih hrest).append (t.read?.bind (pushed? t.order.id)).toList answered
    rw [← List.append_assoc, ← hflight, t.next_id] at hall
    rw [List.flatMap_cons, hfound, answers, ← List.append_assoc]
    cases hread : t.read? with
    | none => simpa [hread] using hall
    | some e =>
      rw [List.filterMap_cons_some hread]
      cases hpushed : pushed? t.order.id e <;> simpa [hread, hpushed] using hall

namespace Board

variable {b : Board} {i : Nat} {o : Order}

/-- The stream of events grows by what the session emits. -/
theorem sent_after (b : Board) (run : List Happening) :
    (b.after run).link.hub.sent.toList = b.link.hub.sent.toList ++ b.events run := by
  rw [link_after, Link.sent_after, events, records, Link.records, Session.flatMap_effects,
    Session.emitted_visible]

end Board

end Courier.Tracking
