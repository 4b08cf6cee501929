import Courier.Proofs.Session.Drain

/-! What a run leaves behind, step by step, and what of it travels on each connection. A session writes to
no socket but the one that it holds, messages first and a request to close last. -/

namespace Courier.Session

/-- A step of a run: the state that it found, its input, and its effects, log lines apart. -/
structure Record where
  state : State
  env : Surroundings
  input : Input
  effects : List Effect

def State.records (cfg : Config) : State → List (Surroundings × Input) → List Record
  | _, [] => []
  | s, (env, input) :: run =>
    ⟨s, env, input, (s.step cfg env input).shown⟩ :: (s.step cfg env input).state.records cfg run

def State.connection? (s : State) : Option Nat :=
  match s.mode with
  | .ready => if s.phase = .open then s.socket else none
  | _ => none

def Effect.frameTo? (k : Nat) : Effect → Option Frame
  | write j frame => if j = k then some frame else none
  | _ => none

def framesTo (k : Nat) (effects : List Effect) : List Frame := effects.filterMap (Effect.frameTo? k)

/-- What is left of a message when it is handed to a connection: nothing if its other end is gone. -/
def handed (env : Surroundings) (o : Outbound) : List Frame := if env.reachable then [.message o] else []

variable {cfg : Config} {env : Surroundings} {s s' : State} {input : Input} {es : List Effect} {k : Nat}

theorem records_append (s : State) (run run' : List (Surroundings × Input)) :
    s.records cfg (run ++ run') = s.records cfg run ++ (s.after cfg run).records cfg run' := by
  induction run generalizing s with
  | nil => rfl
  | cons i run ih => simp [State.records, ih]

theorem flatMap_effects (s : State) (run : List (Surroundings × Input)) :
    (s.records cfg run).flatMap (·.effects) = visible (s.trace cfg run) := by
  induction run generalizing s with
  | nil => rfl
  | cons i run ih => simp [State.records, State.trace, Turn.shown, ih]

/-- Every record is that of a step after a part of the run. -/
theorem mem_records {r : Record} {run : List (Surroundings × Input)} (h : r ∈ s.records cfg run) :
    ∃ past rest, run = past ++ (r.env, r.input) :: rest ∧ r.state = s.after cfg past ∧
      r.effects = ((s.after cfg past).step cfg r.env r.input).shown := by
  induction run generalizing s with
  | nil => cases h
  | cons i run ih =>
    obtain ⟨env, input⟩ := i
    rcases List.mem_cons.mp h with rfl | h
    · exact ⟨[], run, rfl, rfl, rfl⟩
    · obtain ⟨past, rest, rfl, hstate, heffects⟩ := ih h
      exact ⟨(env, input) :: past, rest, rfl, hstate, heffects⟩

theorem records_move {r : Record} {run : List (Surroundings × Input)}
    (h : r ∈ State.initial.records cfg run) :
    Sound r.state ∧ ∃ s', Move cfg r.env r.state r.input s' r.effects := by
  obtain ⟨past, -, -, hstate, heffects⟩ := mem_records h
  rw [hstate, heffects]
  exact ⟨sound_after cfg past, _, State.step_move cfg r.env _ r.input⟩

@[simp] theorem framesTo_nil (k : Nat) : framesTo k [] = [] := rfl

@[simp] theorem framesTo_cons (k : Nat) (e : Effect) (es : List Effect) :
    framesTo k (e :: es) = (e.frameTo? k).toList ++ framesTo k es := by
  unfold framesTo
  rw [List.filterMap_cons]
  cases e.frameTo? k <;> rfl

@[simp] theorem framesTo_append (k : Nat) (a b : List Effect) :
    framesTo k (a ++ b) = framesTo k a ++ framesTo k b := List.filterMap_append ..

@[simp] theorem framesTo_written (k : Nat) (env : Surroundings) (socket : Option Nat) (o : Outbound) :
    framesTo k (written env socket o) = if socket = some k then handed env o else [] := by
  unfold written handed
  cases socket with
  | none => simp
  | some j =>
    by_cases hj : j = k
    · subst hj
      cases env.reachable <;> simp [Effect.frameTo?]
    · cases env.reachable <;> simp [Effect.frameTo?, hj]

@[simp] theorem framesTo_farewell (k : Nat) (wasActive : Bool) : framesTo k (farewell wasActive) = [] := by
  cases wasActive <;> rfl

@[simp] theorem framesTo_answer (k : Nat) (result : Outcome Unit) (caller : Option Nat) :
    framesTo k (answer result caller) = [] := by
  cases caller <;> rfl

@[simp] theorem framesTo_releases (k : Nat) (sockets : Option Nat) :
    framesTo k (sockets.toList.map .release) = [] := by
  cases sockets <;> rfl

theorem Begun.framesTo {result : Outcome Unit} (h : Begun cfg env s result s' es) :
    framesTo k es = [] := by
  cases h <;> simp [Effect.frameTo?]

theorem Lost.framesTo {code : Option Nat} {reason : String} (h : Lost cfg env code reason s s' es) :
    framesTo k es = [] := by
  cases h <;> simp [Effect.frameTo?]

end Courier.Session
