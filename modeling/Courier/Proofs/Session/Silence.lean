import Courier.Proofs.Session.Outputs

/-! When a session is silent. A closed session with nothing armed does nothing until it is told to
connect, whatever else arrives; a close command leaves it like that once it has been handled. A session
whose last handle is gone tells its subscribers nothing more. -/

namespace Courier.Session

def Input.isConnect : Input → Bool
  | connect _ => true
  | _ => false

def Input.isOrder : Input → Bool
  | connect _ | close _ => true
  | _ => false

/-- Whether an effect reaches no connector, no peer and no subscriber, and shows a closed session. -/
def Effect.IsQuiet : Effect → Prop
  | dial _ _ | write _ _ | emit _ => False
  | publish status => status.phase = .closed
  | _ => True

/-- Whether a session is closed for as long as nobody asks it to connect. -/
structure Dormant (s : State) : Prop where
  closed : s.phase = .closed
  idle : s.mode = .ready ∧ Bare s ∨ s.mode = .stopped

variable {cfg : Config} {env : Surroundings} {s s' : State} {input : Input} {es : List Effect}

theorem Dormant.of_closed (hclosed : s.phase = .closed) (hm : s.mode = .ready) (hb : Bare s) :
    Dormant s := ⟨hclosed, .inl ⟨hm, hb⟩⟩

theorem Move.dormant (h : Move cfg env s input s' es) (hd : Dormant s)
    (hinput : input.isConnect = false) : Dormant s' ∧ ∀ e ∈ es, e.IsQuiet := by
  obtain ⟨hclosed, ⟨hm, hb⟩ | hm⟩ := hd
  · cases h with
    | skip _ => exact ⟨.of_closed hclosed hm hb, by simp⟩
    | dropSend _ _ => exact ⟨.of_closed hclosed hm hb, by simp⟩
    | close _ _ =>
      have hquiet : farewell s.isActive = [] := by simp [farewell, State.isActive, hclosed]
      refine ⟨.of_closed rfl hm ⟨hb.socket, rfl, rfl, rfl, rfl⟩, fun e he => ?_⟩
      simp only [hb.pending, hquiet, Option.toList_none, List.map_nil, List.nil_append,
        List.append_nil, List.mem_append, List.mem_singleton] at he
      rcases he with rfl | rfl
      · rfl
      · trivial
    | leave _ _ =>
      refine ⟨⟨rfl, .inr rfl⟩, fun e he => ?_⟩
      simp only [hb.pending, Option.toList_none, List.map_nil, List.nil_append, List.mem_cons,
        List.not_mem_nil, or_false] at he
      rcases he with rfl | rfl
      · rfl
      · trivial
    | ignore _ _ | replace _ _ _ | connect _ _ _ _ => simp [Input.isConnect] at hinput
    -- there is nothing left that could deliver, fall due or be drained
    | send _ hopen _ => simp [hclosed] at hopen
    | opened _ hp _ | openCrash _ hp _ | refused _ hp _ => simp [hb.pending] at hp
    | closeDrain _ hk | text _ hk | lost _ hk _ | failed _ hk _ | leaveDrain _ hk => simp [hb.socket] at hk
    | ping _ ht _ _ | pingCrash _ ht _ _ => simp [hb.heartbeat] at ht
    | stable _ ht _ => simp [hb.stability] at ht
    | disarm _ ht _ _ | reconnectDrain _ ht _ _ _ | reconnect _ ht _ _ _ _ => simp [hb.reconnect] at ht
    | drainText hm' | reopen hm' _ _ | settle hm' _ | shutDown hm' _ => simp [hm] at hm'
  · cases h with
    | skip _ => exact ⟨⟨hclosed, .inr hm⟩, by simp⟩
    | _ => simp_all

/-- Whether nothing but the end of a drain is between a session and its rest. -/
def Retiring (s : State) : Prop :=
  Dormant s ∨ Bare s ∧ ∃ socket deadline caller wasActive,
    s.mode = .draining socket deadline (.settle caller wasActive)

theorem Move.retiring_of_close {caller : Nat} (h : Move cfg env s (.close caller) s' es)
    (hm : s.mode = .ready) : Retiring s' := by
  cases h with
  | skip hno => simp [State.Accepts, hm] at hno
  | closeDrain _ _ => exact .inr ⟨⟨rfl, rfl, rfl, rfl, rfl⟩, _, _, _, _, rfl⟩
  | close _ hk => exact .inl (.of_closed rfl hm ⟨hk, rfl, rfl, rfl, rfl⟩)
  | reopen hm' _ _ | settle hm' _ | shutDown hm' _ => simp [hm] at hm'

theorem Move.retiring (h : Move cfg env s input s' es) (hr : Retiring s)
    (hinput : input.isConnect = false) : Retiring s' := by
  rcases hr with hd | ⟨hb, socket, deadline, caller, wasActive, hm⟩
  · exact .inl (h.dormant hd hinput).1
  · cases h with
    | skip _ | drainText _ => exact .inr ⟨hb, _, _, _, _, hm⟩
    | settle _ _ => exact .inl (.of_closed rfl rfl ⟨hb.1, hb.2, hb.3, hb.4, hb.5⟩)
    | _ => simp_all

def Mode.isBusy : Mode → Bool
  | draining _ _ _ => true
  | _ => false

theorem Retiring.dormant (hr : Retiring s) (hm : s.mode.isBusy = false) : Dormant s := by
  rcases hr with hd | ⟨-, socket, deadline, caller, wasActive, hm'⟩
  · exact hd
  · simp [hm', Mode.isBusy] at hm

theorem mem_visible {es : List Effect} {e : Effect} (h : e ∈ es) : e ∈ visible es ∨ e.isLog = true := by
  cases hlog : e.isLog with
  | true => exact .inr rfl
  | false => exact .inl (List.mem_filter.mpr ⟨h, by simp [hlog]⟩)

theorem Dormant.run {run : List (Surroundings × Input)} (hd : Dormant s)
    (hrun : ∀ i ∈ run, i.2.isConnect = false) :
    Dormant (s.after cfg run) ∧ ∀ e ∈ s.trace cfg run, e.IsQuiet := by
  have h : Dormant (s.after cfg run) ∧ ∀ e ∈ visible (s.trace cfg run), e.IsQuiet := by
    refine State.run_keeps_where (A := fun input => input.isConnect = false)
      (P := fun past s => Dormant s ∧ ∀ e ∈ past, e.IsQuiet) ⟨hd, by simp⟩
      (fun {past env s input s' es} hinput h hmove => ?_) run hrun
    obtain ⟨hd', hes⟩ := hmove.dormant h.1 hinput
    refine ⟨hd', fun e he => ?_⟩
    rcases List.mem_append.mp he with he | he
    · exact h.2 e he
    · exact hes e he
  refine ⟨h.1, fun e he => ?_⟩
  rcases mem_visible he with he | hlog
  · exact h.2 e he
  · cases e <;> simp_all [Effect.isLog, Effect.IsQuiet]

theorem retiring_after {run : List (Surroundings × Input)} (hr : Retiring s)
    (hrun : ∀ i ∈ run, i.2.isConnect = false) : Retiring (s.after cfg run) :=
  State.run_keeps_where (A := fun input => input.isConnect = false) (P := fun _ s => Retiring s) hr
    (fun hinput h hmove => hmove.retiring h hinput) run hrun

/-- Once a close command has been handled, its drain included, nothing happens before the next command
to connect: no attempt, no frame, no event, and every status that is published is that of a closed
session. -/
theorem close_is_final (cfg : Config) (past closing rest : List (Surroundings × Input))
    {env : Surroundings} {caller : Nat} (htaken : (State.initial.after cfg past).mode = .ready)
    (hhandled :
      (State.initial.after cfg (past ++ (env, .close caller) :: closing)).mode.isBusy = false)
    (hnone : ∀ i ∈ closing ++ rest, i.2.isConnect = false) :
    let handled := past ++ (env, .close caller) :: closing
    (∀ e ∈ (State.initial.after cfg handled).trace cfg rest, e.IsQuiet) ∧
    ∀ more, more <+: rest →
      ((published (State.initial.trace cfg (handled ++ more))).getLast?.getD .initial).phase = .closed := by
  intro handled
  have hclosing (run) (hrun : run <+: closing ++ rest) : ∀ i ∈ run, i.2.isConnect = false :=
    fun i hi => hnone i (hrun.subset hi)
  have hdormant : Dormant (State.initial.after cfg handled) := by
    refine Retiring.dormant ?_ hhandled
    rw [State.after_append, State.after_cons]
    exact retiring_after ((State.step_move ..).retiring_of_close htaken)
      (hclosing closing (List.prefix_append _ _))
  have hrest : ∀ i ∈ rest, i.2.isConnect = false := fun i hi => hnone i (by simp [hi])
  refine ⟨(hdormant.run hrest).2, fun more hmore => ?_⟩
  have hmore : Dormant (State.initial.after cfg (handled ++ more)) := by
    rw [State.after_append]
    exact (hdormant.run fun i hi => hrest i (hmore.subset hi)).1
  rw [status_after]
  exact hmore.closed

def plain : Config := { baseUrl := "http://h" }

def openRun : List (Surroundings × Input) :=
  [(calmAt 0, .connect 0), (calmAt 5, .dialed (.ok ()))]

def lateInputs : List (Surroundings × Input) :=
  [(calmAt 1020, .received (.closed none "late")), (calmAt 3020, .reconnectDue),
    (calmAt 3030, .dialed (.ok ())), (calmAt 45005, .heartbeatDue), (calmAt 46000, .close 2)]

theorem close_is_final_openRun :
    let handled := openRun ++ (calmAt 10, .close 1) ::
      [(calmAt 11, .received (.text "{}")), (calmAt 1010, .drainOver)]
    (State.initial.after plain openRun).mode = .ready ∧
    (State.initial.after plain handled).mode.isBusy = false ∧
    (∀ e ∈ (State.initial.after plain handled).trace plain lateInputs, e.IsQuiet) ∧
    ((published (State.initial.trace plain (handled ++ lateInputs))).getLast?.getD .initial).phase =
      .closed := by
  intro handled
  have htaken : (State.initial.after plain openRun).mode = .ready := rfl
  have hhandled : (State.initial.after plain handled).mode.isBusy = false := by decide +kernel
  obtain ⟨hquiet, hclosed⟩ := close_is_final plain openRun _ lateInputs htaken hhandled (by decide)
  exact ⟨htaken, hhandled, hquiet, hclosed lateInputs (List.prefix_refl _)⟩

/-- Whether a session has stopped or only drains its socket before it does. -/
def Leaving (s : State) : Prop :=
  s.mode = .stopped ∨ ∃ socket deadline, s.mode = .draining socket deadline .shutDown

theorem Move.leaving_of_abandoned (h : Move cfg env s .abandoned s' es) (hm : s.mode = .ready) :
    Leaving s' ∧ emitted es = [] := by
  cases h with
  | skip hno => simp [State.Accepts, hm] at hno
  | leaveDrain _ _ => exact ⟨.inr ⟨_, _, rfl⟩, by simp⟩
  | leave _ _ => exact ⟨.inl rfl, by simp⟩
  | reopen hm' _ _ | settle hm' _ | shutDown hm' _ => simp [hm] at hm'

theorem Move.leaving (h : Move cfg env s input s' es) (hl : Leaving s) : Leaving s' ∧ emitted es = [] := by
  rcases hl with hm | ⟨socket, deadline, hm⟩
  · cases h with
    | skip _ => exact ⟨.inl hm, rfl⟩
    | _ => simp_all
  · cases h with
    | skip _ | drainText _ => exact ⟨.inr ⟨_, _, hm⟩, rfl⟩
    | shutDown _ _ => exact ⟨.inl rfl, by simp⟩
    | _ => simp_all

theorem Leaving.emitted_trace (hl : Leaving s) (run : List (Surroundings × Input)) :
    emitted (s.trace cfg run) = [] := by
  rw [← emitted_visible]
  refine (State.run_keeps (P := fun past s => Leaving s ∧ emitted past = []) ⟨hl, rfl⟩
    (fun h hmove => ?_) run).2
  obtain ⟨hl', he'⟩ := hmove.leaving h.1
  exact ⟨hl', by simp [h.2, he']⟩

theorem emitted_of_abandoned (hm : s.mode = .ready) (env : Surroundings)
    (rest : List (Surroundings × Input)) : emitted (s.trace cfg ((env, .abandoned) :: rest)) = [] := by
  obtain ⟨hl, he⟩ := (s.step_move cfg env .abandoned).leaving_of_abandoned hm
  have htrace : s.trace cfg ((env, .abandoned) :: rest) = (s.step cfg env .abandoned).effects ++
      (s.step cfg env .abandoned).state.trace cfg rest := rfl
  rw [htrace, emitted_append, ← emitted_visible, ← Turn.shown, he, hl.emitted_trace]
  rfl

end Courier.Session
