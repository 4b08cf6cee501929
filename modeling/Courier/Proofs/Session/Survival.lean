import Courier.Proofs.Session.Staying
import Courier.Tracking.Order

/-! What tuning a session survives. The timers that wait once accept whatever they are given; the heartbeat
repeats, and where it cannot start, or cannot go on, the session stops on the spot. That is the only way for
it to stop before its handles are gone. Short of that, whoever asks is answered. -/

namespace Courier.Session

open Time (Ticker)

def Command.caller? : Command → Option Nat
  | connect caller | close caller => some caller
  | send _ => none

def Effect.answered? : Effect → Option Nat
  | reply caller _ => some caller
  | _ => none

def answered (effects : List Effect) : List Nat := effects.filterMap Effect.answered?

def State.owed? (s : State) : Option Nat :=
  match s.mode with
  | .draining _ _ (.reopen caller) => caller
  | .draining _ _ (.settle caller _) => some caller
  | _ => none

/-- Whether a step finds that the heartbeat cannot start, or that it cannot go on after a late ping. -/
def State.Crashes (cfg : Config) (env : Surroundings) (s : State) : Input → Prop
  | .dialed (.ok ()) => s.mode = .ready ∧ s.pending.isSome ∧
      (cfg.heartbeat.nanos = 0 ∨ Time.fits env.moment.ticks cfg.heartbeat = false)
  | .heartbeatDue => s.mode = .ready ∧ ∃ ticker, s.heartbeat = some ticker ∧
      Ticker.tolerance < 1000000 * env.moment.ticks - ticker.next ∧
      Time.fits env.moment.ticks cfg.heartbeat = false
  | _ => False

/-- Whether a step is the last one of a session whose handles are gone. -/
def State.Departs (env : Surroundings) (s : State) (input : Input) : Prop :=
  (s.mode = .ready ∧ input = .abandoned ∧ s.socket = none) ∨
  ∃ socket deadline, s.mode = .draining socket deadline .shutDown ∧ EndsDrain env deadline input

def Act.isParting : Act → Bool
  | meet _ .abandoned => true
  | _ => false

/-- Whether handles are gone only when no command is left, and nobody asks for anything then. -/
def Link.Parts : Link → List Act → Prop
  | _, [] => True
  | l, a :: rest =>
    (a.isParting = true → l.commands = [] ∧ rest.filterMap Act.issued? = []) ∧ (l.act a).Parts rest

instance Link.decidableParts : (l : Link) → (acts : List Act) → Decidable (l.Parts acts)
  | _, [] => isTrue trivial
  | l, a :: rest =>
    have : Decidable ((l.act a).Parts rest) := decidableParts _ rest
    inferInstanceAs (Decidable (_ ∧ _))

structure Survives (cfg : Config) (acts : List Act) (l : Link) : Prop where
  unbroken : ∀ r ∈ (Link.ofConfig cfg).records acts, ¬ r.state.Crashes cfg r.env r.input
  /-- It stops only once its handles are gone. -/
  stopped : l.isStopped = true →
    ∃ r ∈ (Link.ofConfig cfg).records acts, r.state.mode = .ready ∧ r.input = .abandoned
  /-- A session that is said to be open holds a connection and has its heartbeat. -/
  live : l.isOpen = true → l.machine.connection?.isSome ∧ l.machine.heartbeat.isSome
  /-- Every command is handled in its turn. -/
  handled : (Link.ofConfig cfg).Parts acts →
    (Link.ofConfig cfg).handled acts ++ l.commands = acts.filterMap Act.issued?
  /-- Whoever asked for what has been handled is answered, one after the other and each once, but for the
  last one while a drain goes on. -/
  answers : ((Link.ofConfig cfg).handled acts).filterMap Command.caller? =
    answered (((Link.ofConfig cfg).records acts).flatMap (·.effects)) ++ l.machine.owed?.toList
  /-- It waits for the next command, or for the end of a drain, which answers whoever is left. -/
  goesOn : l.isStopped = false → l.machine.mode = .ready ∨ ∃ due, l.machine.nextDue? = some due ∧
    ∀ env : Surroundings, due ≤ env.moment.ticks →
      let turn := l.machine.step cfg env .drainOver
      (turn.state.mode = .ready ∨ turn.state.mode = .stopped) ∧
      ∀ caller ∈ l.machine.owed?, caller ∈ answered turn.shown

variable {cfg : Config} {env : Surroundings} {s s' : State} {input : Input} {es : List Effect} {r : Record}
  {run : List (Surroundings × Input)}

def State.Timed (cfg : Config) (s : State) : Prop := ∀ ticker ∈ s.heartbeat, ticker.period = cfg.heartbeat

theorem Begun.heartbeat {result : Outcome Unit} (h : Begun cfg env s result s' es) :
    s'.heartbeat = s.heartbeat := by
  cases h <;> rfl

theorem Lost.heartbeat {code : Option Nat} {reason : String} (h : Lost cfg env code reason s s' es) :
    s'.heartbeat = none := by
  cases h <;> rfl

theorem Move.timed (h : Move cfg env s input s' es) (ht : s.Timed cfg) : s'.Timed cfg := by
  cases h with
  | opened _ _ hstart =>
    intro ticker hticker
    obtain rfl := Option.some.inj hticker
    rw [Ticker.eq_of_startLater? hstart]
  | ping _ hticker _ hnext =>
    intro ticker hset
    obtain rfl := Option.some.inj hset
    rw [Ticker.period_of_advance? hnext]
    exact ht _ hticker
  | connect _ _ _ hb | reconnect _ _ _ _ _ hb | reopen _ _ hb =>
    intro ticker hticker
    rw [hb.heartbeat] at hticker
    exact ht ticker hticker
  | refused _ _ hl | lost _ _ hl | failed _ _ hl =>
    intro ticker hticker
    rw [hl.heartbeat] at hticker
    cases hticker
  | replace _ _ _ | closeDrain _ _ | close _ _ | reconnectDrain _ _ _ _ _ | leaveDrain _ _ | leave _ _ =>
    intro ticker hticker
    cases hticker
  | _ => exact ht

theorem timed_after (cfg : Config) (run : List (Surroundings × Input)) :
    (State.initial.after cfg run).Timed cfg :=
  State.run_keeps (P := fun _ s => s.Timed cfg) (fun _ h => by cases h) (fun h hmove => hmove.timed h) run

theorem Begun.mode {result : Outcome Unit} (h : Begun cfg env s result s' es) : s'.mode = s.mode := by
  cases h <;> rfl

theorem Lost.mode {code : Option Nat} {reason : String} (h : Lost cfg env code reason s s' es) :
    s'.mode = s.mode := by
  cases h <;> rfl

/-- A session stops when a step crashes, or when it is the last one. -/
theorem Move.stops (h : Move cfg env s input s' es) (ht : s.Timed cfg) (hruns : s.mode ≠ .stopped)
    (hstopped : s'.mode = .stopped) : s.Crashes cfg env input ∨ s.Departs env input := by
  cases h with
  | openCrash hm hp hstart =>
    exact .inl ⟨hm, by simp [hp], Ticker.startLater?_eq_none_iff.mp hstart⟩
  | pingCrash hm hticker _ hnext =>
    obtain ⟨hlate, hfits⟩ := Ticker.advance?_eq_none_iff.mp hnext
    exact .inl ⟨hm, _, hticker, hlate, ht _ hticker ▸ hfits⟩
  | leave hm hk => exact .inr (.inl ⟨hm, rfl, hk⟩)
  | shutDown hm hend => exact .inr (.inr ⟨_, _, hm, hend⟩)
  | connect _ _ _ hb | reconnect _ _ _ _ _ hb => exact absurd (hb.mode.symm.trans hstopped) hruns
  | reopen _ _ hb => cases hb.mode.symm.trans hstopped
  | refused _ _ hl | lost _ _ hl | failed _ _ hl => exact absurd (hl.mode.symm.trans hstopped) hruns
  | replace _ _ _ | closeDrain _ _ | reconnectDrain _ _ _ _ _ | leaveDrain _ _ | settle _ _ => cases hstopped
  | _ => exact absurd hstopped hruns

theorem State.Crashes.accepts (h : s.Crashes cfg env input) : s.mode = .ready ∧ s.Accepts env input := by
  cases input with
  | dialed result =>
    cases result with
    | ok _ =>
      obtain ⟨hm, hp, -⟩ := h
      exact ⟨hm, by simpa [State.Accepts, hm] using hp⟩
    | error _ => exact h.elim
  | heartbeatDue =>
    obtain ⟨hm, ticker, hticker, hlate, -⟩ := h
    refine ⟨hm, ?_⟩
    simp only [State.Accepts, hm]
    exact ⟨ticker, hticker, Ticker.due_le_of_late hlate⟩
  | _ => exact h.elim

theorem Move.stopped_of_crash (h : Move cfg env s input s' es) (ht : s.Timed cfg)
    (hcrash : s.Crashes cfg env input) : s'.mode = .stopped := by
  obtain ⟨hm, haccepts⟩ := hcrash.accepts
  cases h with
  | openCrash _ _ _ | pingCrash _ _ _ _ => rfl
  | opened _ _ hstart =>
    rw [Ticker.startLater?_eq_none_iff.mpr hcrash.2.2] at hstart
    cases hstart
  | ping _ hticker _ hnext =>
    obtain ⟨-, ticker, hticker', hlate, hfits⟩ := hcrash
    obtain rfl := Option.some.inj (hticker.symm.trans hticker')
    rw [Ticker.advance?_eq_none_iff.mpr ⟨hlate, ht _ hticker ▸ hfits⟩] at hnext
    cases hnext
  | skip hno => exact absurd haccepts hno
  | reopen hd _ _ | settle hd _ | shutDown hd _ => cases hm.symm.trans hd
  | _ => exact hcrash.elim

theorem Move.of_departs (h : Move cfg env s input s' es) (hdeparts : s.Departs env input) :
    s'.mode = .stopped ∧ s'.phase = .closed := by
  rcases hdeparts with ⟨hm, rfl, hk⟩ | ⟨socket, deadline, hd, hend⟩
  · cases h with
    | leave _ _ => exact ⟨rfl, rfl⟩
    | skip hno => exact absurd (by simp [State.Accepts, hm]) hno
    | leaveDrain _ hk' => cases hk.symm.trans hk'
    | reopen hd _ _ | settle hd _ | shutDown hd _ => cases hm.symm.trans hd
  · cases h with
    | shutDown _ _ => exact ⟨rfl, rfl⟩
    | skip hno => exact absurd (hend.accepts hd) hno
    | drainText _ => cases hend
    | _ => simp_all

theorem stopped_iff (hr : r ∈ State.initial.records cfg run) (hruns : r.state.mode ≠ .stopped) :
    (r.state.step cfg r.env r.input).state.mode = .stopped ↔
      r.state.Crashes cfg r.env r.input ∨ r.state.Departs r.env r.input := by
  obtain ⟨past, -, -, hstate, -⟩ := mem_records hr
  have ht : r.state.Timed cfg := hstate ▸ timed_after cfg past
  have hmove := r.state.step_move cfg r.env r.input
  constructor
  · exact hmove.stops ht hruns
  · rintro (hcrash | hdeparts)
    · exact hmove.stopped_of_crash ht hcrash
    · exact (hmove.of_departs hdeparts).1

theorem not_crashes (hpositive : 0 < cfg.heartbeat.nanos)
    (hfits : Time.fits env.moment.ticks cfg.heartbeat = true) : ¬ s.Crashes cfg env input := by
  intro h
  cases input with
  | dialed result =>
    cases result with
    | ok _ =>
      obtain ⟨-, -, hzero | hnot⟩ := h
      · omega
      · cases hfits.symm.trans hnot
    | error _ => exact h
  | heartbeatDue =>
    obtain ⟨-, -, -, -, hnot⟩ := h
    cases hfits.symm.trans hnot
  | _ => exact h

theorem Move.closed_when_stopped (h : Move cfg env s input s' es) (ht : s.Timed cfg)
    (hcrash : ¬ s.Crashes cfg env input) (hclosed : s.mode = .stopped → s.phase = .closed)
    (hstopped : s'.mode = .stopped) : s'.phase = .closed := by
  by_cases hruns : s.mode = .stopped
  · cases h with
    | skip _ => exact hclosed hruns
    | _ => simp_all
  · rcases h.stops ht hruns hstopped with hcrash' | hdeparts
    · exact absurd hcrash' hcrash
    · exact (h.of_departs hdeparts).2

/-- A session begins to leave when its handles are gone. -/
theorem Move.was_leaving (h : Move cfg env s input s' es) (ht : s.Timed cfg)
    (hcrash : ¬ s.Crashes cfg env input) (hl : Leaving s') :
    Leaving s ∨ s.mode = .ready ∧ input = .abandoned := by
  rcases hl with hstopped | ⟨socket, deadline, hd⟩
  · by_cases hruns : s.mode = .stopped
    · exact .inl (.inl hruns)
    rcases h.stops ht hruns hstopped with hcrash' | ⟨hm, hinput, -⟩ | ⟨socket, deadline, hd, -⟩
    · exact absurd hcrash' hcrash
    · exact .inr ⟨hm, hinput⟩
    · exact .inl (.inr ⟨socket, deadline, hd⟩)
  · cases h with
    | leaveDrain hm _ => exact .inr ⟨hm, rfl⟩
    | connect _ _ _ hb | reconnect _ _ _ _ _ hb => exact .inl (.inr ⟨_, _, hb.mode.symm.trans hd⟩)
    | reopen _ _ hb => cases hb.mode.symm.trans hd
    | refused _ _ hl | lost _ _ hl | failed _ _ hl => exact .inl (.inr ⟨_, _, hl.mode.symm.trans hd⟩)
    | replace _ _ _ | closeDrain _ _ | reconnectDrain _ _ _ _ _ | leave _ _ | settle _ _ | shutDown _ _
    | openCrash _ _ _ | pingCrash _ _ _ _ => cases hd
    | _ => exact .inl (.inr ⟨_, _, hd⟩)

structure Unbroken (records : List Record) (s : State) : Prop where
  closed : s.mode = .stopped → s.phase = .closed
  leaving : Leaving s → ∃ r ∈ records, r.state.mode = .ready ∧ r.input = .abandoned

theorem unbroken_after (cfg : Config) (run : List (Surroundings × Input))
    (hno : ∀ r ∈ State.initial.records cfg run, ¬ r.state.Crashes cfg r.env r.input) :
    Unbroken (State.initial.records cfg run) (State.initial.after cfg run) := by
  induction run using List.reverseRecOn with
  | nil => exact ⟨nofun, fun hl => absurd hl (not_leaving_of_ready rfl)⟩
  | append_singleton run i ih =>
    rw [records_append] at hno ⊢
    have hpast := ih fun r hr => hno r (List.mem_append_left _ hr)
    have hmove := (State.initial.after cfg run).step_move cfg i.1 i.2
    have ht := timed_after cfg run
    have hcrash := hno _ (List.mem_append_right _ (List.mem_singleton.mpr rfl))
    rw [State.after_append]
    refine ⟨hmove.closed_when_stopped ht hcrash hpast.closed, fun hl => ?_⟩
    rcases hmove.was_leaving ht hcrash hl with hl | habandoned
    · obtain ⟨r, hr, habandoned⟩ := hpast.leaving hl
      exact ⟨r, List.mem_append_left _ hr, habandoned⟩
    · exact ⟨_, List.mem_append_right _ (List.mem_singleton.mpr rfl), habandoned⟩

/-- The session is open, if it is said to be, and has its connection and its heartbeat. -/
theorem Unbroken.live {records : List Record} (h : Unbroken records s) (hs : Sound s) (hopen : s.phase = .open) :
    s.connection?.isSome ∧ s.heartbeat.isSome := by
  cases hm : s.mode with
  | ready =>
    rw [hs.connection? hm]
    simp only [Sound, hm] at hs
    exact ⟨hs.open_iff.mp hopen, hs.heartbeat_iff.mp hopen⟩
  | draining _ _ _ =>
    simp only [Sound, hm] at hs
    cases hs.2.1.symm.trans hopen
  | stopped => cases (h.closed hm).symm.trans hopen

@[simp] theorem answered_nil : answered [] = [] := rfl

@[simp] theorem answered_cons (e : Effect) (es : List Effect) :
    answered (e :: es) = e.answered?.toList ++ answered es := by
  unfold answered
  rw [List.filterMap_cons]
  cases e.answered? <;> rfl

@[simp] theorem answered_append (a b : List Effect) : answered (a ++ b) = answered a ++ answered b :=
  List.filterMap_append ..

@[simp] theorem answered_farewell (wasActive : Bool) : answered (farewell wasActive) = [] := by
  cases wasActive <;> rfl

@[simp] theorem answered_answer (result : Outcome Unit) (caller : Option Nat) :
    answered (answer result caller) = caller.toList := by
  cases caller <;> rfl

@[simp] theorem answered_releases (socket : Option Nat) : answered (socket.toList.map .release) = [] := by
  cases socket <;> rfl

@[simp] theorem answered_written (env : Surroundings) (socket : Option Nat) (o : Outbound) :
    answered (written env socket o) = [] := by
  refine List.filterMap_eq_nil_iff.mpr fun e he => ?_
  obtain ⟨_, rfl⟩ := of_mem_written he
  rfl

@[simp] theorem answered_dispatched (env : Surroundings) (socket : Option Nat) (payload : String) :
    answered (dispatched env socket payload) = [] := by
  refine List.filterMap_eq_nil_iff.mpr fun e he => ?_
  rcases of_mem_dispatched he with ⟨_, _, rfl⟩ | ⟨_, rfl⟩ <;> rfl

theorem Begun.answers {result : Outcome Unit} (h : Begun cfg env s result s' es) : answered es = [] := by
  cases h <;> rfl

theorem Lost.answers {code : Option Nat} {reason : String} (h : Lost cfg env code reason s s' es) :
    answered es = [] := by
  cases h <;> rfl

theorem State.owed?_of_ready (hm : s.mode = .ready) : s.owed? = none := by
  simp [owed?, hm]

theorem State.owed?_of_reopen {socket deadline : Nat} {caller : Option Nat}
    (hm : s.mode = .draining socket deadline (.reopen caller)) : s.owed? = caller := by
  simp [owed?, hm]

theorem EndsDrain.no_command {deadline : Nat} (h : EndsDrain env deadline input) : input.command? = none := by
  cases input with
  | received _ | drainOver => rfl
  | _ => exact h.elim

/-- Whoever a step answers asked just now, or has been waiting for the end of a drain. -/
theorem Move.answers (h : Move cfg env s input s' es) (hready : input.command?.isSome → s.mode = .ready) :
    answered es ++ s'.owed?.toList = s.owed?.toList ++ (input.command?.bind Command.caller?).toList := by
  cases h with
  | skip hno =>
    -- a session that waits takes every command
    have hnone : input.command? = none := by
      rw [Option.eq_none_iff_forall_ne_some]
      intro c hc
      have hm := hready (by simp [hc])
      apply hno
      cases input <;> simp [Input.command?] at hc <;> simp [State.Accepts, hm]
    simp [hnone]
  | connect hm _ _ hb =>
    simp [hb.answers, State.owed?_of_ready hm, State.owed?_of_ready (hb.mode.trans hm), Effect.answered?,
      Input.command?, Command.caller?]
  | reconnect hm _ _ _ _ hb =>
    simp [hb.answers, State.owed?_of_ready hm, State.owed?_of_ready (hb.mode.trans hm), Input.command?]
  | reopen hd hend hb =>
    have howed := State.owed?_of_reopen hd
    have hfree : s'.owed? = none := State.owed?_of_ready hb.mode
    simp [hb.answers, howed, hfree, hend.no_command, Effect.answered?]
  | settle hd hend =>
    simp [State.owed?, hd, hend.no_command, Effect.answered?]
  | shutDown hd hend =>
    simp [State.owed?, hd, hend.no_command, Effect.answered?]
  | refused hm _ hl | lost hm _ hl | failed hm _ hl =>
    simp [hl.answers, State.owed?_of_ready hm, State.owed?_of_ready (hl.mode.trans hm), Effect.answered?,
      Input.command?]
  | drainText hd => simp [Input.command?]
  | ignore hm _ | replace hm _ _ | closeDrain hm _ | close hm _ =>
    simp [State.owed?, State.draining, State.forsaken, hm, Effect.answered?, Input.command?, Command.caller?]
  | send hm _ _ | dropSend hm _ =>
    simp [State.owed?, hm, Input.command?, Command.caller?]
  | leaveDrain hm _ | reconnectDrain hm _ _ _ _ | leave hm _ =>
    simp [State.owed?, State.draining, State.forsaken, hm, Effect.answered?, Input.command?]
  | opened hm _ _ | openCrash hm _ _ | text hm _ | ping hm _ _ _ | pingCrash hm _ _ _ | stable hm _ _
  | disarm hm _ _ _ =>
    simp [State.owed?, hm, Effect.answered?, Input.command?]

/-- A drain is over when its time is up, and whoever has waited for that is answered. -/
theorem Move.ends_wait {socket due : Nat} {next : AfterDrain} (h : Move cfg env s .drainOver s' es)
    (hm : s.mode = .draining socket due next) (hover : due ≤ env.moment.ticks) :
    (s'.mode = .ready ∨ s'.mode = .stopped) ∧ ∀ caller ∈ s.owed?, caller ∈ answered es := by
  cases h with
  | skip hno => exact absurd (by simpa [State.Accepts, hm] using hover) hno
  | reopen hd _ hb =>
    refine ⟨.inl hb.mode, fun caller howed => ?_⟩
    rw [State.owed?_of_reopen hd, Option.mem_def] at howed
    simp [howed]
  | settle hd _ =>
    refine ⟨.inl rfl, fun caller howed => ?_⟩
    simp only [State.owed?, hd, Option.mem_def, Option.some.injEq] at howed
    simp [howed, Effect.answered?]
  | shutDown hd _ => exact ⟨.inr rfl, by simp [State.owed?, hd]⟩

namespace Link

variable {l : Link}

theorem ready_of_command {a : Act} (h : l.input? a = some (env, input)) (hcommand : input.command?.isSome) :
    l.machine.mode = .ready := by
  rcases input?_cases h with ⟨-, hm, -⟩ | ⟨-, hno⟩
  · exact hm
  · simp [hno] at hcommand

/-- One act answers those whose commands it handles, or who have waited for the end of a drain. -/
theorem answers_act (l : Link) (a : Act) :
    answered ((l.records [a]).flatMap (·.effects)) ++ (l.act a).machine.owed?.toList =
      l.machine.owed?.toList ++ (l.handled [a]).filterMap Command.caller? := by
  have hinputs : l.inputs [a] = (l.input? a).toList := by simp [inputs]
  rw [records, handled, hinputs, (l.machine_act a).1]
  cases hinput : l.input? a with
  | none => simp [State.records]
  | some i =>
    obtain ⟨env, input⟩ := i
    have hmove := l.machine.step_move l.config env input
    have hstep := hmove.answers (ready_of_command hinput)
    have hasked : ([(env, input)].filterMap (·.2.command?)).filterMap Command.caller? =
        (input.command?.bind Command.caller?).toList := by
      rw [List.filterMap_filterMap, List.filterMap_eq_flatMap_toList, List.flatMap_singleton]
    rw [Option.toList_some, hasked, ← hstep]
    simp [State.records]

/-- Those who are answered are those whose commands have been handled, one after the other. -/
theorem answers (l : Link) (acts : List Act) :
    l.machine.owed?.toList ++ (l.handled acts).filterMap Command.caller? =
      answered ((l.records acts).flatMap (·.effects)) ++ (l.after acts).machine.owed?.toList := by
  induction acts generalizing l with
  | nil => simp [handled, inputs, records, State.records, after]
  | cons a acts ih =>
    have hhandled : l.handled (a :: acts) = l.handled [a] ++ (l.act a).handled acts := by
      simp [handled, inputs]
    have hrecords : l.records (a :: acts) = l.records [a] ++ (l.act a).records acts := l.records_append [a] acts
    rw [hhandled, hrecords, List.filterMap_append, ← List.append_assoc, ← l.answers_act a, List.append_assoc,
      ih (l.act a), List.flatMap_append, answered_append, List.append_assoc]
    rfl

/-- Every step of a session stems from one of its acts. -/
theorem exists_act (hr : r ∈ l.records acts) :
    ∃ before a rest, acts = before ++ a :: rest ∧ r.state = (l.after before).machine ∧
      (l.after before).input? a = some (r.env, r.input) := by
  induction acts generalizing l with
  | nil => cases hr
  | cons a acts ih =>
    rw [show l.records (a :: acts) = l.records [a] ++ (l.act a).records acts from l.records_append [a] acts,
      List.mem_append] at hr
    rcases hr with hr | hr
    · have hinputs : l.inputs [a] = (l.input? a).toList := by simp [inputs]
      rw [records, hinputs] at hr
      cases hinput : l.input? a with
      | none => simp [hinput, State.records] at hr
      | some i =>
        simp only [hinput, Option.toList_some, State.records, List.mem_singleton] at hr
        exact ⟨[], a, acts, rfl, by simp [hr, after], by simp [hr, after, hinput]⟩
    · obtain ⟨before, b, rest, rfl, hstate, hinput⟩ := ih hr
      exact ⟨a :: before, b, rest, rfl, hstate, hinput⟩

theorem isParting_of_input? {a : Act} (h : l.input? a = some (env, .abandoned)) : a.isParting = true := by
  rcases input?_cases h with ⟨-, -, c, _, -, hc⟩ | ⟨rfl, -⟩
  · cases c <;> cases hc
  · rfl

theorem Parts.last {before rest : List Act} {a : Act} (h : l.Parts (before ++ a :: rest))
    (ha : a.isParting = true) : (l.after before).commands = [] ∧ rest.filterMap Act.issued? = [] := by
  induction before generalizing l with
  | nil => exact h.1 ha
  | cons _ before ih => exact ih h.2

/-- A session whose handles are gone has handled all that they asked for. -/
theorem handled_of_parts (hparts : (ofConfig cfg).Parts acts) (hr : r ∈ (ofConfig cfg).records acts)
    (hready : r.state.mode = .ready) (habandoned : r.input = .abandoned) :
    (ofConfig cfg).handled acts ++ ((ofConfig cfg).after acts).commands = acts.filterMap Act.issued? := by
  obtain ⟨before, a, rest, rfl, hstate, hinput⟩ := exists_act hr
  rw [habandoned] at hinput
  have ha := isParting_of_input? hinput
  obtain ⟨hempty, hquiet⟩ := hparts.last ha
  obtain ⟨_, hpast, hnone⟩ := (ofConfig cfg).handled_append_commands before
  have hruns : ((ofConfig cfg).after before).isStopped = false := by
    rw [Bool.eq_false_iff, ne_eq, isStopped_iff, ← hstate, hready]
    simp
  rw [hnone hruns, hempty, List.append_nil, List.append_nil] at hpast
  -- nothing is left that could be dropped after that
  obtain ⟨dropped, hall, -⟩ := (ofConfig cfg).handled_append_commands (before ++ a :: rest)
  have hissued : (before ++ a :: rest).filterMap Act.issued? = before.filterMap Act.issued? := by
    cases a with
    | meet _ _ => rw [List.filterMap_append, List.filterMap_cons_none rfl, hquiet, List.append_nil]
    | _ => cases ha
  have hsplit : (ofConfig cfg).handled (before ++ a :: rest) =
      (ofConfig cfg).handled before ++ ((ofConfig cfg).after before).handled (a :: rest) := by
    simp [handled, inputs_append]
  have hnothing : dropped = [] := by
    have hlength := congrArg List.length hall
    rw [hissued, ← hpast, hsplit] at hlength
    simp only [List.length_append] at hlength
    exact List.length_eq_zero_iff.mp (by omega)
  rw [hnothing, List.append_nil] at hall
  exact hall

end Link

variable {acts : List Act}

theorem not_crashes_of_mem (hpositive : 0 < cfg.heartbeat.nanos)
    (hfits : ∀ i ∈ run, Time.fits i.1.moment.ticks cfg.heartbeat = true)
    (hr : r ∈ State.initial.records cfg run) : ¬ r.state.Crashes cfg r.env r.input := by
  obtain ⟨past, rest, rfl, -, -⟩ := mem_records hr
  exact not_crashes hpositive (hfits (r.env, r.input) (by simp))

/-- A session whose heartbeat can always go on has nothing else to fear from what it is given. -/
theorem survives_of_fits (hpositive : 0 < cfg.heartbeat.nanos)
    (hfits : ∀ i ∈ (Link.ofConfig cfg).inputs acts, Time.fits i.1.moment.ticks cfg.heartbeat = true) :
    Survives cfg acts ((Link.ofConfig cfg).after acts) := by
  have hmachine := (Link.ofConfig cfg).machine_after acts
  have hunbroken := fun r hr => not_crashes_of_mem (r := r) hpositive hfits hr
  have hpast := unbroken_after cfg ((Link.ofConfig cfg).inputs acts) hunbroken
  change ((Link.ofConfig cfg).after acts).machine = State.initial.after cfg _ at hmachine
  rw [← hmachine] at hpast
  have hs : Sound ((Link.ofConfig cfg).after acts).machine := hmachine ▸ sound_after cfg _
  have hstopped (hstop : ((Link.ofConfig cfg).after acts).isStopped = true) :=
    hpast.leaving (.inl (Link.isStopped_iff.mp hstop))
  refine ⟨hunbroken, hstopped, ?live, ?handled, (Link.ofConfig cfg).answers acts, ?goesOn⟩
  case live =>
    intro hopen
    rw [Link.isOpen, Link.status_after, decide_eq_true_eq] at hopen
    exact hpast.live hs hopen
  case handled =>
    intro hparts
    cases hstop : ((Link.ofConfig cfg).after acts).isStopped with
    | true =>
      obtain ⟨r, hr, hready, habandoned⟩ := hstopped hstop
      exact Link.handled_of_parts hparts hr hready habandoned
    | false =>
      obtain ⟨dropped, hall, hnone⟩ := (Link.ofConfig cfg).handled_append_commands acts
      rw [hnone hstop, List.append_nil] at hall
      exact hall
  case goesOn =>
    intro hruns
    cases hm : ((Link.ofConfig cfg).after acts).machine.mode with
    | ready => exact .inl rfl
    | draining socket due next =>
      refine .inr ⟨due, by rw [State.nextDue?, hm], fun env hover => ?_⟩
      exact (State.step_move cfg env _ .drainOver).ends_wait hm hover
    | stopped => cases (Link.isStopped_iff.mpr hm).symm.trans hruns

/-- Of all that a session is configured with nothing stops it but a heartbeat that cannot start, or that
cannot go on: it survives where that has a length and stays within the clock's range, and it stops just
where that fails, or where its handles are gone. An order can be tracked if polls have some time between
them. -/
theorem survives_but_for_timers (cfg : Config) (acts : List Act) :
    (0 < cfg.heartbeat.nanos →
      (∀ i ∈ (Link.ofConfig cfg).inputs acts, Time.fits i.1.moment.ticks cfg.heartbeat = true) →
      Survives cfg acts ((Link.ofConfig cfg).after acts)) ∧
    (∀ r ∈ (Link.ofConfig cfg).records acts, r.state.mode ≠ .stopped →
      ((r.state.step cfg r.env r.input).state.mode = .stopped ↔
        r.state.Crashes cfg r.env r.input ∨ r.state.Departs r.env r.input)) ∧
    ∀ id position ticks period,
      (Tracking.Order.start? id position ticks period).isSome = true ↔ 0 < period.nanos := by
  refine ⟨survives_of_fits, fun r hr hruns => stopped_iff hr hruns, fun id position ticks period => ?_⟩
  by_cases hzero : period.nanos = 0
  · simp [Tracking.Order.start?, Ticker.startNow?, hzero]
  · simp [Tracking.Order.start?, Ticker.startNow?, hzero, Nat.pos_of_ne_zero hzero]

/-- Two connections, the second of which is closed by a caller before the last handle goes. -/
def visits : List Act :=
  notes ++ [.issue (.close 2), .take (calmAt 20), .meet (calmAt 25) (.received (.closed none "")),
    .meet (calmAt 30) .abandoned]

theorem survives_visits :
    let l := (Link.ofConfig plain).after visits
    Survives plain visits l ∧ (Link.ofConfig plain).Parts visits ∧ l.isStopped = true ∧
    answered (((Link.ofConfig plain).records visits).flatMap (·.effects)) = [0, 1, 2] ∧
    ((Link.ofConfig plain).after notes).isOpen = true := by
  intro l
  have hfits : ∀ i ∈ (Link.ofConfig plain).inputs visits,
      Time.fits i.1.moment.ticks plain.heartbeat = true := by
    decide +kernel
  obtain ⟨hsurvives, -, -⟩ := survives_but_for_timers plain visits
  exact ⟨hsurvives (by decide) hfits, by decide +kernel, by decide +kernel, by decide +kernel, by decide +kernel⟩

def opening : List Act :=
  [.issue (.connect 0), .take (calmAt 0), .meet (calmAt 5) (.dialed (.ok ()))]

/-- A heartbeat of no length, or of the longest, stops a session that is said to be open, and no order can
be tracked with a poll interval of zero. -/
theorem timers_stop_session :
    (∀ heartbeat ∈ [Time.Span.ofNanos 0, .longest],
      let cfg := { plain with heartbeat := heartbeat }
      let l := (Link.ofConfig cfg).after opening
      l.isOpen = true ∧ l.isStopped = true ∧ ¬ Survives cfg opening l) ∧
    Tracking.Order.start? "7" 0 0 (.ofNanos 0) = none := by
  have hdead : ∀ heartbeat ∈ [Time.Span.ofNanos 0, .longest],
      let l := (Link.ofConfig { plain with heartbeat := heartbeat }).after opening
      l.isOpen = true ∧ l.isStopped = true ∧ l.machine.heartbeat = none := by
    decide +kernel
  refine ⟨fun heartbeat hmem => ?_, rfl⟩
  obtain ⟨hopen, hstopped, hnone⟩ := hdead heartbeat hmem
  refine ⟨hopen, hstopped, fun hsurvives => ?_⟩
  obtain ⟨-, hlive⟩ := hsurvives.live hopen
  simp [hnone] at hlive

end Courier.Session
