import Courier.Proofs.Coordinator.Order

/-! Runs of a coordinator, and the history that a run leaves: each input, followed by its effects. -/

namespace Courier.Coordinator

open Time (Moment)

inductive Record where
  | heard (now : Moment) (input : Input)
  | did (now : Moment) (effect : Effect)

def records (now : Moment) (input : Input) (es : List Effect) : List Record :=
  .heard now input :: es.map (.did now)

namespace State

variable {cfg : Config}

def after (cfg : Config) (s : State) (run : List (Moment × Input)) : State :=
  run.foldl (fun s i => (s.step cfg i.1 i.2).state) s

/-- The inputs of a run and their effects, log lines apart. -/
def history (cfg : Config) : State → List (Moment × Input) → List Record
  | _, [] => []
  | s, i :: run =>
    records i.1 i.2 (visible (s.step cfg i.1 i.2).effects) ++
      history cfg (s.step cfg i.1 i.2).state run

@[simp] theorem after_nil (s : State) : s.after cfg [] = s := rfl

theorem after_cons (s : State) (i : Moment × Input) (run : List (Moment × Input)) :
    s.after cfg (i :: run) = (s.step cfg i.1 i.2).state.after cfg run := rfl

theorem after_append (s : State) (run run' : List (Moment × Input)) :
    s.after cfg (run ++ run') = (s.after cfg run).after cfg run' := by
  simp [after]

theorem run_keeps_from {P : List Record → State → Prop}
    (hmove : ∀ {past now s input s' es}, P past s → Move cfg now s input s' es →
      P (past ++ records now input es) s')
    (run : List (Moment × Input)) {past : List Record} {s : State} (h : P past s) :
    P (past ++ s.history cfg run) (s.after cfg run) := by
  induction run generalizing past s with
  | nil => simpa [history] using h
  | cons i run ih =>
    have hnext := ih (hmove h (step_move cfg i.1 s i.2))
    rw [List.append_assoc] at hnext
    exact hnext

/-- What holds at the start of a run and is kept by every move holds at its end. -/
theorem run_keeps {P : List Record → State → Prop} {s : State} (hstart : P [] s)
    (hmove : ∀ {past now s input s' es}, P past s → Move cfg now s input s' es →
      P (past ++ records now input es) s')
    (run : List (Moment × Input)) : P (s.history cfg run) (s.after cfg run) :=
  run_keeps_from hmove run hstart

end State

theorem orderly_after (cfg : Config) (store : Option Credentials) (run : List (Moment × Input)) :
    Orderly cfg (State.after cfg { store } run) :=
  State.run_keeps (P := fun _ s => Orderly cfg s) (.initial store) (fun h hmove => hmove.orderly h) run

end Courier.Coordinator
