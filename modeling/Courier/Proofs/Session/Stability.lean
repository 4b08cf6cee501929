import Mathlib.Data.List.Induction
import Courier.Proofs.Session.Counter
import Courier.Proofs.Session.Silence
import Courier.Proofs.Session.Timing

/-! When the counter of reconnect attempts falls. The history of the session tells: its connection has
been open for the whole stability window, or a command to connect follows a close or the end of the
budget. The machine keeps no history, so it is shown first what the stability timer and the flag for
manual closes know of it. -/

namespace Courier.Session

inductive OpenSince (cfg : Config) (opened : Nat) : List (Surroundings × Input) → Prop where
  | opens {past env input} : env.moment.ticks = opened →
      .opened ∈ emitted ((State.initial.after cfg past).step cfg env input).effects →
      OpenSince cfg opened (past ++ [(env, input)])
  | stays {past env input} : OpenSince cfg opened past →
      (State.initial.after cfg (past ++ [(env, input)])).phase = .open →
      (∀ code reason manual, .closed code reason manual ∉
        emitted ((State.initial.after cfg past).step cfg env input).effects) →
      OpenSince cfg opened (past ++ [(env, input)])

inductive ClosedByHand (cfg : Config) : List (Surroundings × Input) → Prop where
  | closes {past env caller} : (State.initial.after cfg past).mode = .ready →
      ClosedByHand cfg (past ++ [(env, .close caller)])
  | stays {past env input} : ClosedByHand cfg past →
      ¬ ((State.initial.after cfg past).mode = .ready ∧ input.isConnect = true) →
      ClosedByHand cfg (past ++ [(env, input)])

/-- Whether an input earns a fresh budget. A connection that opened at a tick has to stay open for
`window` nanoseconds. -/
def Earned (cfg : Config) (window : Nat → Nat) (past : List (Surroundings × Input)) (env : Surroundings) :
    Input → Prop
  | .stabilityDue =>
    (State.initial.after cfg past).phase = .open ∧ ∃ opened, OpenSince cfg opened past ∧
      opened * 1000000 + window opened ≤ env.moment.ticks * 1000000
  | .connect _ =>
    (State.initial.after cfg past).phase ≠ .connecting ∧
      (ClosedByHand cfg past ∨ cfg.maxAttempts ≤ (State.initial.after cfg past).attempts)
  | _ => False

/-- Whether a step publishes a counter below one that was published before it. -/
def Falls (cfg : Config) (past : List (Surroundings × Input)) (env : Surroundings) (input : Input) : Prop :=
  ¬ (lastCounter (State.initial.trace cfg past) ::
      counters ((State.initial.after cfg past).step cfg env input).effects).Pairwise (· ≤ ·)

structure FallsAsEarned (cfg : Config) (window : Nat → Nat) (past : List (Surroundings × Input))
    (env : Surroundings) (input : Input) : Prop where
  falls_iff : Falls cfg past env input ↔
    0 < lastCounter (State.initial.trace cfg past) ∧ (State.initial.after cfg past).mode = .ready ∧
      Earned cfg window past env input
  falls_to_zero : Falls cfg past env input →
    ∀ c ∈ counters ((State.initial.after cfg past).step cfg env input).effects, c = 0
  /-- Where no timer is overdue the counter has fallen by the tick after the window. -/
  falls_in_time : ∀ opened earlier, OpenSince cfg opened past →
    (State.initial.after cfg past).mode = .ready → (State.initial.after cfg past).InTime env →
    earlier < env.moment.ticks → opened * 1000000 + window opened ≤ earlier * 1000000 →
    lastCounter (State.initial.trace cfg past) = 0

variable {cfg : Config} {env : Surroundings} {s s' : State} {input : Input} {es : List Effect}

theorem Begun.not_open {result : Outcome Unit} (h : Begun cfg env s result s' es) : s'.phase ≠ .open := by
  cases h <;> simp

theorem Lost.not_open {code : Option Nat} {reason : String} (h : Lost cfg env code reason s s' es) :
    s'.phase ≠ .open := by
  cases h <;> simp

theorem Move.open_before (h : Move cfg env s input s' es) (hs : Sound s) (hm' : s'.mode = .ready)
    (hopen : s'.phase = .open) :
    (s.phase = .connecting ∧ .opened ∈ emitted es) ∨
    (s.mode = .ready ∧ s.phase = .open ∧ (∀ code reason manual, .closed code reason manual ∉ emitted es) ∧
      (s'.stability = s.stability ∧ s'.attempts = s.attempts ∨ s'.stability = none ∧ s'.attempts = 0)) := by
  cases h with
  | skip _ | dropSend _ _ | drainText _ | send _ _ _ | ping _ _ _ _ | disarm _ _ _ _ =>
    exact .inr ⟨hm', hopen, by simp, .inl ⟨rfl, rfl⟩⟩
  | text _ _ =>
    refine .inr ⟨hm', hopen, fun code reason manual hclosed => ?_, .inl ⟨rfl, rfl⟩⟩
    obtain ⟨m, hm⟩ := message_of_mem_dispatched hclosed
    cases hm
  | stable _ _ _ => exact .inr ⟨hm', hopen, by simp, .inr ⟨rfl, rfl⟩⟩
  | opened hm hp _ =>
    simp only [Sound, hm] at hs
    exact .inl ⟨hs.connecting_iff.mpr (by simp [hp]), by simp⟩
  | ignore _ hphase => simp [hphase] at hopen
  | connect _ _ _ hb | reconnect _ _ _ _ _ hb | reopen _ _ hb => exact absurd hopen hb.not_open
  | refused _ _ hl | lost _ _ hl | failed _ _ hl => exact absurd hopen hl.not_open
  | openCrash _ _ _ | pingCrash _ _ _ _ => cases hm'
  | _ => cases hopen

theorem Lost.opened_not_mem {code : Option Nat} {reason : String} (h : Lost cfg env code reason s s' es) :
    .opened ∉ emitted es := by
  cases h <;> simp

/-- Only an attempt that succeeds opens the session. -/
theorem Move.of_opened (h : Move cfg env s input s' es) (hopened : .opened ∈ emitted es) :
    ∃ socket ticker, s.mode = .ready ∧ s.pending = some socket ∧
      Time.Ticker.startLater? env.moment.ticks cfg.heartbeat = some ticker ∧
      s' = { s with
        pending := none
        socket := some socket
        phase := .open
        heartbeat := some ticker
        stability := some (Time.deadline env.moment.ticks cfg.stability) } := by
  cases h with
  | opened hm hp ht => exact ⟨_, _, hm, hp, ht, rfl⟩
  | connect _ _ _ hb | reconnect _ _ _ _ _ hb | reopen _ _ hb =>
    rcases hb.heard with ⟨e, hevents⟩ | hevents <;> simp [hevents] at hopened
  | refused _ _ hl | lost _ _ hl | failed _ _ hl => simp [hl.opened_not_mem] at hopened
  | text _ _ =>
    obtain ⟨m, hm⟩ := message_of_mem_dispatched hopened
    cases hm
  | close _ _ | settle _ _ => simp [not_mem_emitted_farewell] at hopened
  | _ => simp at hopened

theorem Move.opened_sets (h : Move cfg env s input s' es) (hopened : .opened ∈ emitted es) :
    s'.phase = .open ∧ s'.stability = some (Time.deadline env.moment.ticks cfg.stability) := by
  obtain ⟨socket, ticker, -, -, -, rfl⟩ := h.of_opened hopened
  exact ⟨rfl, rfl⟩

theorem OpenSince.timer {opened : Nat} {run : List (Surroundings × Input)} (h : OpenSince cfg opened run) :
    let s := State.initial.after cfg run
    s.phase = .open ∧ (s.mode = .ready →
      s.stability = some (Time.deadline opened cfg.stability) ∨ s.stability = none ∧ s.attempts = 0) := by
  -- along the history of the connection: the timer is set when it opens, and where the timer has fired
  -- the counter is zero and stays so until a loss
  induction h with
  | @opens past env input hticks hopened =>
    have hmove := (State.initial.after cfg past).step_move cfg env input
    rw [← emitted_visible] at hopened
    obtain ⟨hopen, hset⟩ := hmove.opened_sets hopened
    rw [State.after_append]
    exact ⟨hopen, fun _ => .inl (hticks ▸ hset)⟩
  | @stays past env input _ hopen _ ih =>
    obtain ⟨hbefore, htimer⟩ := ih
    refine ⟨hopen, fun hm' => ?_⟩
    rw [State.after_append] at hopen hm' ⊢
    have hmove := (State.initial.after cfg past).step_move cfg env input
    rcases hmove.open_before (sound_after cfg past) hm' hopen with ⟨hconnecting, -⟩ | ⟨hm, -, -, hkept⟩
    · rw [hbefore] at hconnecting
      cases hconnecting
    · rcases hkept with ⟨hstability, hattempts⟩ | hzero
      · rw [State.after_cons, State.after_nil, hstability, hattempts]
        exact htimer hm
      · exact .inr hzero

theorem openSince_of_open (cfg : Config) (run : List (Surroundings × Input))
    (hm : (State.initial.after cfg run).mode = .ready) (hopen : (State.initial.after cfg run).phase = .open) :
    ∃ opened, OpenSince cfg opened run := by
  induction run using List.reverseRecOn with
  | nil => cases hopen
  | append_singleton past i ih =>
    obtain ⟨env, input⟩ := i
    have hmove := (State.initial.after cfg past).step_move cfg env input
    have hopen' := hopen
    rw [State.after_append] at hm hopen'
    rcases hmove.open_before (sound_after cfg past) hm hopen' with ⟨-, hopened⟩ | ⟨hm', hbefore, hclosed, -⟩
    · rw [Turn.shown, emitted_visible] at hopened
      exact ⟨_, .opens rfl hopened⟩
    · obtain ⟨opened, hsince⟩ := ih hm' hbefore
      rw [Turn.shown, emitted_visible] at hclosed
      exact ⟨opened, .stays hsince hopen hclosed⟩

theorem Begun.manualClose {result : Outcome Unit} (h : Begun cfg env s result s' es) :
    s'.manualClose = s.manualClose := by
  cases h <;> rfl

theorem Lost.manualClose {code : Option Nat} {reason : String} (h : Lost cfg env code reason s s' es) :
    s'.manualClose = s.manualClose := by
  cases h <;> rfl

theorem Move.manualClose (h : Move cfg env s input s' es) (hs : Sound s) (hstays : ¬ Leaving s') :
    s.mode = .ready ∧ (input.isConnect = true ∧ s'.manualClose = false ∨
      (∃ caller, input = .close caller) ∧ s'.manualClose = true) ∨
    ¬ (s.mode = .ready ∧ input.isOrder = true) ∧ s'.manualClose = s.manualClose := by
  cases h with
  | @skip input hno =>
    refine .inr ⟨fun horder => hno ?_, rfl⟩
    cases input with
    | connect _ | close _ => simp [State.Accepts, horder.1]
    | _ => simp [Input.isOrder] at horder
  | ignore hm hphase =>
    simp only [Sound, hm] at hs
    refine .inl ⟨hm, .inl ⟨rfl, ?_⟩⟩
    cases hc : s.manualClose with
    | false => rfl
    | true => simp [(hs.manual hc).1] at hphase
  | replace hm _ _ => exact .inl ⟨hm, .inl ⟨rfl, rfl⟩⟩
  | connect hm _ _ hb => exact .inl ⟨hm, .inl ⟨rfl, hb.manualClose⟩⟩
  | closeDrain hm _ | close hm _ => exact .inl ⟨hm, .inr ⟨⟨_, rfl⟩, rfl⟩⟩
  | reconnect _ _ _ _ _ hb => exact .inr ⟨by simp [Input.isOrder], hb.manualClose⟩
  | reopen hm _ hb => exact .inr ⟨by simp [hm], hb.manualClose⟩
  | refused _ _ hl | lost _ _ hl | failed _ _ hl => exact .inr ⟨by simp [Input.isOrder], hl.manualClose⟩
  | settle hm _ => exact .inr ⟨by simp [hm], rfl⟩
  -- the last handle gone raises the flag too, but no command follows
  | leaveDrain _ _ => exact absurd (.inr ⟨_, _, rfl⟩) hstays
  | leave _ _ | shutDown _ _ => exact absurd (.inl rfl) hstays
  | _ => exact .inr ⟨by simp [Input.isOrder], rfl⟩

theorem closedByHand_concat {past : List (Surroundings × Input)} :
    ClosedByHand cfg (past ++ [(env, input)]) ↔
      (State.initial.after cfg past).mode = .ready ∧ (∃ caller, input = .close caller) ∨
      ClosedByHand cfg past ∧ ¬ ((State.initial.after cfg past).mode = .ready ∧ input.isConnect = true) := by
  constructor
  · intro h
    generalize hrun : past ++ [(env, input)] = run at h
    cases h with
    | closes hm =>
      obtain ⟨rfl, hlast⟩ := List.append_inj' hrun rfl
      cases hlast
      exact .inl ⟨hm, _, rfl⟩
    | stays h hno =>
      obtain ⟨rfl, hlast⟩ := List.append_inj' hrun rfl
      cases hlast
      exact .inr ⟨h, hno⟩
  · rintro (⟨hm, caller, rfl⟩ | ⟨h, hno⟩)
    · exact .closes hm
    · exact .stays h hno

theorem not_closedByHand_nil : ¬ ClosedByHand cfg [] := by
  intro h
  generalize hrun : ([] : List (Surroundings × Input)) = run at h
  cases h <;> simp at hrun

/-- As long as there are handles, the flag says whether the session was closed by hand. -/
theorem manualClose_iff_closedByHand (cfg : Config) (run : List (Surroundings × Input))
    (hstays : ¬ Leaving (State.initial.after cfg run)) :
    (State.initial.after cfg run).manualClose = true ↔ ClosedByHand cfg run := by
  induction run using List.reverseRecOn with
  | nil => simp [State.initial, not_closedByHand_nil]
  | append_singleton past i ih =>
    obtain ⟨env, input⟩ := i
    have hmove := (State.initial.after cfg past).step_move cfg env input
    rw [State.after_append, State.after_cons, State.after_nil] at hstays ⊢
    have hbefore := ih fun hl => hstays (hmove.leaving hl).1
    rw [closedByHand_concat]
    rcases hmove.manualClose (sound_after cfg past) hstays with
      ⟨hm, ⟨hconnect, hflag⟩ | ⟨hclose, hflag⟩⟩ | ⟨hno, hflag⟩
    · obtain ⟨caller, rfl⟩ : ∃ caller, input = .connect caller := by
        cases input <;> simp [Input.isConnect] at hconnect ⊢
      simp [hflag, hm, Input.isConnect]
    · simp [hflag, hm, hclose]
    · have hclose : ¬ ((State.initial.after cfg past).mode = .ready ∧ ∃ caller, input = .close caller) := by
        rintro ⟨hm, caller, rfl⟩
        exact hno ⟨hm, rfl⟩
      have hconnect : ¬ ((State.initial.after cfg past).mode = .ready ∧ input.isConnect = true) := by
        rintro ⟨hm, hconnect⟩
        refine hno ⟨hm, ?_⟩
        cases input <;> simp [Input.isConnect, Input.isOrder] at hconnect ⊢
      rw [hflag, hbefore, or_iff_right hclose, and_iff_left hconnect]

theorem not_leaving_of_ready (hm : s.mode = .ready) : ¬ Leaving s := by
  rintro (hstopped | ⟨socket, deadline, hdraining⟩)
  · simp [hm] at hstopped
  · simp [hm] at hdraining

theorem resets_iff_earned (cfg : Config) (past : List (Surroundings × Input)) (env : Surroundings)
    (input : Input) (hpos : 0 < (State.initial.after cfg past).attempts) :
    (State.initial.after cfg past).Resets cfg env input ↔
      (State.initial.after cfg past).mode = .ready ∧
        Earned cfg (fun opened => Time.counted opened cfg.stability) past env input := by
  cases input with
  | connect caller =>
    refine and_congr_right fun hm => and_congr_right fun _ => or_congr_left ?_
    exact manualClose_iff_closedByHand cfg past (not_leaving_of_ready hm)
  | stabilityDue =>
    refine and_congr_right fun hm => ?_
    have hs := coherent_of_ready cfg past hm
    constructor
    · rintro ⟨due, hdue, hle⟩
      have hopen := hs.stability (by simp [hdue])
      obtain ⟨opened, hsince⟩ := openSince_of_open cfg past hm hopen
      refine ⟨hopen, opened, hsince, ?_⟩
      rcases hsince.timer.2 hm with htimer | ⟨htimer, -⟩
      · obtain rfl := Option.some.inj (hdue.symm.trans htimer)
        exact Time.deadline_le_iff.mp hle
      · simp [hdue] at htimer
    · rintro ⟨hopen, opened, hsince, hover⟩
      rcases hsince.timer.2 hm with htimer | ⟨-, hzero⟩
      · exact ⟨_, htimer, Time.deadline_le_iff.mpr hover⟩
      · omega
  | _ => exact ⟨False.elim, fun h => h.2⟩

/-- The counter falls exactly where that has been earned, and then to zero. A window beyond the clock's
range counts as thirty years. -/
theorem counter_falls_as_earned (cfg : Config) (past : List (Surroundings × Input)) (env : Surroundings)
    (input : Input) :
    FallsAsEarned cfg (fun opened => Time.counted opened cfg.stability) past env input := by
  have hmove := (State.initial.after cfg past).step_move cfg env input
  have hcounts := hmove.counts
  have hfalls := hcounts.falls_iff hmove.last_counter
  rw [Turn.shown, counters_visible] at hcounts hfalls
  rw [← lastCounter_after, ← Falls] at hfalls
  refine { falls_iff := ?_, falls_to_zero := ?_, falls_in_time := ?_ }
  · rw [hfalls]
    refine and_congr_right fun hpos => ?_
    rw [lastCounter_after] at hpos
    exact resets_iff_earned cfg past env input hpos
  · intro hfell
    exact (hcounts.eq_zero (hfalls.mp hfell).2).2
  · intro opened earlier hsince hm hintime hlater hover
    rw [lastCounter_after]
    rcases hsince.timer.2 hm with htimer | ⟨-, hzero⟩
    · have hearly := Time.deadline_le_iff.mpr hover
      have hlate := hintime.of_stability hm htimer
      omega
    · exact hzero

def mendedRun : List (Surroundings × Input) :=
  lostRun ++ [(calmAt 3015, .reconnectDue), (calmAt 3020, .dialed (.ok ()))]

theorem counter_falls_mendedRun :
    lastCounter (State.initial.trace plain mendedRun) = 1 ∧
    counters ((State.initial.after plain mendedRun).step plain (calmAt 13020) .stabilityDue).effects = [0] ∧
    ∃ opened, OpenSince plain opened mendedRun ∧
      opened * 1000000 + Time.counted opened plain.stability ≤ 13020 * 1000000 := by
  have hbefore : lastCounter (State.initial.trace plain mendedRun) = 1 := by decide +kernel
  have hafter : counters ((State.initial.after plain mendedRun).step plain (calmAt 13020)
      .stabilityDue).effects = [0] := by decide +kernel
  have hfalls : Falls plain mendedRun (calmAt 13020) .stabilityDue := by
    rw [Falls, hbefore, hafter]
    decide
  obtain ⟨-, -, -, hearned⟩ :=
    (counter_falls_as_earned plain mendedRun (calmAt 13020) .stabilityDue).falls_iff.mp hfalls
  exact ⟨hbefore, hafter, hearned⟩

def endless : Config := { plain with heartbeat := .ofSeconds 1000000000000, stability := .longest }

/-- The counter does not wait for such a window: it falls after thirty years. -/
theorem counter_falls_early :
    ¬ FallsAsEarned endless (fun _ => endless.stability.nanos) mendedRun (calmAt 946080003020)
      .stabilityDue := by
  intro h
  have hbefore : lastCounter (State.initial.trace endless mendedRun) = 1 := by decide +kernel
  have hafter : counters ((State.initial.after endless mendedRun).step endless (calmAt 946080003020)
      .stabilityDue).effects = [0] := by decide +kernel
  have hfalls : Falls endless mendedRun (calmAt 946080003020) .stabilityDue := by
    rw [Falls, hbefore, hafter]
    decide
  obtain ⟨-, -, -, opened, -, hover⟩ := h.falls_iff.mp hfalls
  have hover : opened * 1000000 + (0x10000000000000000 * 1000000000 - 1) ≤ 946080003020 * 1000000 := hover
  omega

end Courier.Session
