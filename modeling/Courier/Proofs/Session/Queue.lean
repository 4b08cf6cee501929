import Courier.Session.Link
import Courier.Proofs.Session.Outputs
import Courier.Proofs.Session.Records
import Mathlib.Data.List.Induction

/-! A session in the hands of its users. What they ask for stands in a queue, from which the session takes
the oldest command whenever it waits for an input and drains no socket. What it handles is a run of the
machine; the status and the events that its users see are those of the effects. -/

namespace Courier.Session

inductive Act where
  /-- A handle asks for something. -/
  | issue (c : Command)
  /-- The session takes the oldest command. -/
  | take (env : Surroundings)
  /-- It meets an input that is no command. -/
  | meet (env : Surroundings) (input : Input)

def Act.issued? : Act → Option Command
  | issue c => some c
  | _ => none

def Input.command? : Input → Option Command
  | connect caller => some (.connect caller)
  | close caller => some (.close caller)
  | send o => some (.send o)
  | _ => none

def Hub.pushAll {α : Type} (h : Hub α) (as : List α) : Hub α := { h with sent := h.sent ++ as }

theorem Hub.tail_pushAll {α : Type} (h : Hub α) (as : List α) :
    (h.pushAll as).tail = h.tail + as.length := by
  simp [Hub.tail, Hub.pushAll, ← Array.length_toList]

namespace Link

/-- The state after an act. One that cannot happen changes nothing. -/
def act (l : Link) : Act → Link
  | .issue c => l.enqueue c
  | .take env =>
    match l.machine.mode, l.commands with
    | .ready, c :: rest => ({ l with commands := rest }.step env c.input).1
    | _, _ => l
  | .meet env input => if input.command?.isNone then (l.step env input).1 else l

def input? (l : Link) : Act → Option (Surroundings × Input)
  | .issue _ => none
  | .take env =>
    match l.machine.mode, l.commands with
    | .ready, c :: _ => some (env, c.input)
    | _, _ => none
  | .meet env input => if input.command?.isNone then some (env, input) else none

def after (l : Link) (acts : List Act) : Link := acts.foldl act l

def inputs : Link → List Act → List (Surroundings × Input)
  | _, [] => []
  | l, a :: acts => (l.input? a).toList ++ (l.act a).inputs acts

def handled (l : Link) (acts : List Act) : List Command :=
  (l.inputs acts).filterMap fun i => i.2.command?

variable {l : Link} {env : Surroundings} {input : Input}

theorem foldl_observe (es : List Effect) (l : Link) :
    es.foldl observe l =
      { l with
        status := (published es).getLast?.getD l.status
        hub := l.hub.pushAll (emitted es) } := by
  induction es generalizing l with
  | nil => simp [Hub.pushAll]
  | cons e es ih =>
    rw [List.foldl_cons, ih]
    cases e with
    | publish s => simp [observe, Hub.pushAll, List.getLast?_cons]
    | _ => simp [observe, Hub.push, Hub.pushAll]

/-- What a step leaves: the machine's next state, its status, and the events so far. -/
theorem step_eq (hstatus : l.status = l.machine.status) (env : Surroundings) (input : Input) :
    let turn := l.machine.step l.config env input
    (l.step env input).1 =
      { l with
        machine := turn.state
        status := turn.state.status
        hub := l.hub.pushAll (emitted turn.shown) } := by
  intro turn
  have hlast := (l.machine.step_move l.config env input).status
  rw [Turn.shown, published_visible] at hlast
  simp only [step, foldl_observe, Turn.shown, emitted_visible, hstatus, hlast]
  rfl

@[simp] theorem machine_step (l : Link) (env : Surroundings) (input : Input) :
    (l.step env input).1.machine = (l.machine.step l.config env input).state := by
  simp [step, foldl_observe]

@[simp] theorem config_step (l : Link) (env : Surroundings) (input : Input) :
    (l.step env input).1.config = l.config := by
  simp [step, foldl_observe]

@[simp] theorem commands_step (l : Link) (env : Surroundings) (input : Input) :
    (l.step env input).1.commands = l.commands := by
  simp [step, foldl_observe]

theorem isStopped_iff : l.isStopped = true ↔ l.machine.mode = .stopped := by
  unfold isStopped
  cases l.machine.mode <;> simp

@[simp] theorem command?_input (c : Command) : c.input.command? = some c := by
  cases c <;> rfl

/-- What the machine is given is the oldest command, or an input that is no command. -/
theorem input?_cases {a : Act} (h : l.input? a = some (env, input)) :
    (a = .take env ∧ l.machine.mode = .ready ∧ ∃ c rest, l.commands = c :: rest ∧ input = c.input) ∨
      (a = .meet env input ∧ input.command? = none) := by
  unfold input? at h
  cases a with
  | issue c => cases h
  | take _ =>
    dsimp only at h
    split at h
    · rename_i c rest hm hcommands
      obtain ⟨rfl, rfl⟩ := Prod.mk.inj (Option.some.inj h)
      exact .inl ⟨rfl, hm, c, rest, hcommands, rfl⟩
    · cases h
  | meet _ _ =>
    dsimp only at h
    split at h
    · rename_i hno
      obtain ⟨rfl, rfl⟩ := Prod.mk.inj (Option.some.inj h)
      exact .inr ⟨rfl, Option.isNone_iff_eq_none.mp hno⟩
    · cases h

theorem inputs_append (l : Link) (acts acts' : List Act) :
    l.inputs (acts ++ acts') = l.inputs acts ++ (l.after acts).inputs acts' := by
  induction acts generalizing l with
  | nil => rfl
  | cons a acts ih => simp [inputs, after, ih]

theorem machine_act (l : Link) (a : Act) :
    (l.act a).machine = l.machine.after l.config (l.input? a).toList ∧ (l.act a).config = l.config := by
  unfold act input?
  cases a with
  | issue c => cases h : l.isStopped <;> simp [enqueue, h]
  | take env => dsimp only; split <;> simp
  | meet env input => dsimp only; split <;> simp

/-- The machine is where its inputs have led it. -/
theorem machine_after (l : Link) (acts : List Act) :
    (l.after acts).machine = l.machine.after l.config (l.inputs acts) := by
  induction acts generalizing l with
  | nil => rfl
  | cons a acts ih =>
    obtain ⟨hmachine, hconfig⟩ := l.machine_act a
    have hrest := ih (l.act a)
    rw [hmachine, hconfig, ← State.after_append] at hrest
    exact hrest

structure Agrees (l l' : Link) : Prop where
  config : l'.config = l.config
  machine : l'.machine = l.machine
  status : l'.status = l.status
  hub : l'.hub = l.hub

theorem agrees_refl (l : Link) : l.Agrees l := ⟨rfl, rfl, rfl, rfl⟩

theorem Agrees.trans {l l' l'' : Link} (h : l.Agrees l') (h' : l'.Agrees l'') : l.Agrees l'' :=
  ⟨h'.1.trans h.1, h'.2.trans h.2, h'.3.trans h.3, h'.4.trans h.4⟩

theorem agrees_enqueue (l : Link) (c : Command) : l.Agrees (l.enqueue c) := by
  unfold enqueue
  split <;> exact ⟨rfl, rfl, rfl, rfl⟩

/-- An act leaves the machine alone, or it is a step of the machine. -/
theorem act_cases (l : Link) (a : Act) :
    (l.input? a = none ∧ l.Agrees (l.act a)) ∨
      ∃ env input l₀, l.input? a = some (env, input) ∧ l.Agrees l₀ ∧ l.act a = (l₀.step env input).1 := by
  unfold act input?
  cases a with
  | issue c => exact .inl ⟨rfl, l.agrees_enqueue c⟩
  | take env =>
    dsimp only
    split
    · rename_i rest _ _
      exact .inr ⟨env, _, { l with commands := rest }, rfl, ⟨rfl, rfl, rfl, rfl⟩, rfl⟩
    · exact .inl ⟨rfl, l.agrees_refl⟩
  | meet env input =>
    dsimp only
    split
    · exact .inr ⟨env, input, l, rfl, l.agrees_refl, rfl⟩
    · exact .inl ⟨rfl, l.agrees_refl⟩

theorem isStopped_act (a : Act) (h : l.isStopped = true) : (l.act a).isStopped = true := by
  have hmode := isStopped_iff.mp h
  have hstep (env : Surroundings) (input : Input) :
      (l.machine.step l.config env input).state = l.machine := by
    unfold State.step
    rw [hmode]
  rw [isStopped_iff, (l.machine_act a).1]
  cases l.input? a <;> simp [hstep, hmode]

/-- A command that was issued has been handled, or it waits in the queue, until the session stops. Nothing
is handled twice or out of order. -/
theorem handled_append_commands (l : Link) (acts : List Act) :
    ∃ dropped, l.handled acts ++ (l.after acts).commands ++ dropped =
        l.commands ++ acts.filterMap Act.issued? ∧
      ((l.after acts).isStopped = false → dropped = []) := by
  induction acts using List.reverseRecOn with
  | nil => exact ⟨[], by simp [handled, inputs, after], fun _ => rfl⟩
  | append_singleton acts a ih =>
    obtain ⟨dropped, hall, hstopped⟩ := ih
    have hhandled : l.handled (acts ++ [a]) =
        l.handled acts ++ ((l.after acts).input? a).toList.filterMap (·.2.command?) := by
      simp [handled, inputs_append, inputs]
    have hafter : l.after (acts ++ [a]) = (l.after acts).act a := by simp [after]
    rw [hhandled, hafter, List.filterMap_append, ← List.append_assoc, ← hall]
    generalize l.after acts = m at hstopped ⊢
    have hstays : (m.act a).isStopped = false → dropped = [] := by
      intro hno
      apply hstopped
      rw [Bool.eq_false_iff]
      intro hm
      rw [isStopped_act a hm] at hno
      cases hno
    cases a with
    | issue c =>
      cases hm : m.isStopped with
      | true =>
        -- it goes nowhere
        refine ⟨dropped ++ [c], by simp [act, input?, enqueue, hm, Act.issued?], ?_⟩
        intro hno
        rw [isStopped_act (.issue c) hm] at hno
        cases hno
      | false =>
        rw [hstopped hm]
        exact ⟨[], by simp [act, input?, enqueue, hm, Act.issued?], fun _ => rfl⟩
    | take env =>
      refine ⟨dropped, ?_, hstays⟩
      unfold act input?
      dsimp only
      split
      · rename_i hcommands
        simp [hcommands, Act.issued?]
      · simp [Act.issued?]
    | meet env input =>
      refine ⟨dropped, ?_, hstays⟩
      unfold act input?
      dsimp only
      split
      · rename_i hno
        simp [Option.isNone_iff_eq_none.mp hno, Act.issued?]
      · simp [Act.issued?]

theorem handled_of_issued (l : Link) (acts : List Act) :
    l.handled acts <+: l.commands ++ acts.filterMap Act.issued? := by
  obtain ⟨dropped, hall, -⟩ := l.handled_append_commands acts
  rw [← hall, List.append_assoc]
  exact List.prefix_append _ _

end Link
end Courier.Session
