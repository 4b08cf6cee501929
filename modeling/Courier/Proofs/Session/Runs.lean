import Courier.Proofs.Session.Steps

/-! Runs of a session: inputs that are handled one after the other, each in surroundings of its own.
`run_keeps` carries what every move keeps over to whole runs. -/

namespace Courier.Session.State

variable {cfg : Config}

def after (cfg : Config) (s : State) (run : List (Surroundings × Input)) : State :=
  run.foldl (fun s i => (s.step cfg i.1 i.2).state) s

def trace (cfg : Config) : State → List (Surroundings × Input) → List Effect
  | _, [] => []
  | s, i :: run => (s.step cfg i.1 i.2).effects ++ trace cfg (s.step cfg i.1 i.2).state run

@[simp] theorem after_nil (s : State) : s.after cfg [] = s := rfl

@[simp] theorem after_cons (s : State) (i : Surroundings × Input) (run : List (Surroundings × Input)) :
    s.after cfg (i :: run) = (s.step cfg i.1 i.2).state.after cfg run := rfl

theorem after_append (s : State) (run run' : List (Surroundings × Input)) :
    s.after cfg (run ++ run') = (s.after cfg run).after cfg run' := by
  simp [after]

theorem trace_append (s : State) (run run' : List (Surroundings × Input)) :
    s.trace cfg (run ++ run') = s.trace cfg run ++ (s.after cfg run).trace cfg run' := by
  induction run generalizing s with
  | nil => rfl
  | cons i run ih => simp [trace, ih]

/-- What holds at the start of a run of certain inputs and is kept by every move on them holds at its
end. -/
theorem run_keeps_where {A : Input → Prop} {P : List Effect → State → Prop} {s : State}
    (hstart : P [] s)
    (hmove : ∀ {past env s input s' es}, A input → P past s → Move cfg env s input s' es →
      P (past ++ es) s')
    (run : List (Surroundings × Input)) (hrun : ∀ i ∈ run, A i.2) :
    P (visible (s.trace cfg run)) (s.after cfg run) := by
  suffices h : ∀ past, P past s → P (past ++ visible (s.trace cfg run)) (s.after cfg run) by
    simpa using h [] hstart
  clear hstart
  induction run generalizing s with
  | nil => simp [trace]
  | cons i run ih =>
    intro past h
    have hnext := ih (fun i hi => hrun i (by simp [hi])) _
      (hmove (hrun i (by simp)) h (step_move cfg i.1 s i.2))
    simpa [trace, Turn.shown] using hnext

/-- What holds at the start of a run and is kept by every move holds at its end. -/
theorem run_keeps {P : List Effect → State → Prop} {s : State} (hstart : P [] s)
    (hmove : ∀ {past env s input s' es}, P past s → Move cfg env s input s' es → P (past ++ es) s')
    (run : List (Surroundings × Input)) : P (visible (s.trace cfg run)) (s.after cfg run) :=
  run_keeps_where (A := fun _ => True) hstart (fun _ => hmove) run fun _ _ => trivial

end Courier.Session.State
