import Courier.Proofs.Session.Counter
import Courier.Proofs.Session.Silence
import Courier.Proofs.Session.Timing

/-! The backoff of a session. A loss within the budget announces the next attempt, which begins when the
announced delay is over and not before. A loss beyond the budget ends all attempts until a command to
connect. An automatic attempt uses up a timer, and a timer is armed only with a step of the counter:
so the budget bounds how many there are before the counter begins again. -/

namespace Courier.Session

/-- Whether an input is the loss of a connection or of the attempt at one, and how that is reported. -/
inductive Loses (s : State) : Input → List Event → Prop where
  | refused {socket e} : s.mode = .ready → s.pending = some socket →
      Loses s (.dialed (.error e)) [.error e, .closed none "connection attempt failed" false]
  | closed {socket code reason} : s.mode = .ready → s.socket = some socket →
      Loses s (.received (.closed code reason)) [.closed code reason false]
  | failed {socket detail} : s.mode = .ready → s.socket = some socket →
      Loses s (.received (.error detail)) [.error (.connection detail), .closed none detail false]

/-- Whether effects are those of an attempt: it is dialed, or the reason is given why it cannot be. -/
def Attempted (cfg : Config) (env : Surroundings) (attempt : Nat) (es : List Effect) : Prop :=
  match Turn.address cfg env with
  | .ok url => emitted es = [.connecting attempt] ∧ ∃ socket, .dial socket url ∈ es
  | .error e => emitted es = [.error e]

def Input.isRetry : Input → Bool
  | reconnectDue => true
  | _ => false

def Input.interrupts : Input → Bool
  | connect _ | close _ | abandoned => true
  | _ => false

/-- Whether an attempt begins at the tick at which it is due and nothing is heard of the session
before, as long as no input is handled that excuses it. -/
def ResumesAt (cfg : Config) (excused : Input → Bool) (attempt due : Nat) :
    State → List (Surroundings × Input) → Prop
  | _, [] => True
  | s, (env, input) :: rest =>
    env.moment.ticks ≤ due ∧ (excused input = false →
      if input.isRetry ∧ env.moment.ticks = due then
        Attempted cfg env attempt (s.step cfg env input).effects
      else
        emitted (s.step cfg env input).effects = [] ∧
        ResumesAt cfg excused attempt due (s.step cfg env input).state rest)

def automatic (cfg : Config) : State → List (Surroundings × Input) → List Event
  | _, [] => []
  | s, (env, input) :: run =>
    (if input.isRetry then emitted (s.step cfg env input).effects else []) ++
      automatic cfg (s.step cfg env input).state run

/-- What a session promises of its attempts to reconnect, whatever it handles next. -/
structure Backoff (cfg : Config) (excused : Input → Bool) (s : State) : Prop where
  within : s.attempts ≤ cfg.maxAttempts
  /-- An end that was not asked for is a loss. -/
  losses : ∀ env input,
    (∃ code reason, .closed code reason false ∈ emitted (s.step cfg env input).effects) ↔
      ∃ report, Loses s input report
  /-- A loss within the budget announces one attempt, and that attempt comes when it was announced. -/
  announced : ∀ env input report, Loses s input report → s.attempts < cfg.maxAttempts →
    let delay := cfg.reconnect.times (s.attempts + 1)
    let next := s.step cfg env input
    delay.nanos = min (cfg.reconnect.nanos * (s.attempts + 1)) Time.Span.longest.nanos ∧
    emitted next.effects = report ++ [.reconnecting (s.attempts + 1) delay] ∧
    ∀ ms rest, delay.nanos = ms * 1000000 → Time.fits env.moment.ticks delay = true →
      next.state.Prompt cfg rest →
      ResumesAt cfg excused (s.attempts + 1) (env.moment.ticks + ms) next.state rest
  /-- A loss beyond the budget is followed by nothing before the next command to connect. -/
  exhausted : ∀ env input report, Loses s input report → s.attempts = cfg.maxAttempts →
    let next := s.step cfg env input
    emitted next.effects = report ++ [.exhausted cfg.maxAttempts, .error (.connection
      ("reconnect attempts exhausted after " ++ toString cfg.maxAttempts ++ " attempts"))] ∧
    ∀ rest, (∀ i ∈ rest, i.2.isConnect = false) → ∀ e ∈ next.state.trace cfg rest, e.IsQuiet
  /-- Where the counter does not fall, the automatic attempts stay within the budget. -/
  frugal : ∀ run, s.Always cfg (fun s env input => s.attempts ≤ (s.step cfg env input).state.attempts) run →
    (automatic cfg s run).length ≤ cfg.maxAttempts

variable {cfg : Config} {env : Surroundings} {s s' : State} {input : Input} {es : List Effect}

theorem Begun.attempted {result : Outcome Unit} (h : Begun cfg env s result s' es) :
    Attempted cfg env s.attempts es := by
  cases h with
  | failed haddress => simp [Attempted, haddress]
  | dialing haddress => simp [Attempted, haddress]

theorem Lost.closed_mem {code : Option Nat} {reason : String} (h : Lost cfg env code reason s s' es) :
    .closed code reason false ∈ emitted es := by
  cases h <;> simp

theorem Loses.wanted {report : List Event} (hl : Loses s input report) (hs : Coherent s) :
    s.manualClose = false ∧ s.reconnect = none := by
  cases hl with
  | refused _ hp =>
    refine ⟨?_, (hs.of_pending hp).2⟩
    cases hc : s.manualClose with
    | false => rfl
    | true => simp [(hs.manual hc).2.2.1] at hp
  | closed _ hk | failed _ hk =>
    obtain ⟨-, hreconnect, hwanted⟩ := hs.of_open (hs.open_iff.mpr (by simp [hk]))
    exact ⟨hwanted, hreconnect⟩

theorem Loses.lost {report : List Event} (hl : Loses s input report) (hs : Coherent s)
    (h : Move cfg env s input s' es) :
    ∃ before code reason lost, report = before ++ [.closed code reason false] ∧
      emitted es = before ++ emitted lost ∧
      Lost cfg env code reason { s with pending := none, socket := none } s' lost := by
  cases hl with
  | @refused socket e hm hp =>
    have hsocket := (hs.of_pending hp).1
    cases h with
    | skip hno => simp [State.Accepts, hm, hp] at hno
    | refused _ _ hlost =>
      rw [hsocket] at hlost
      exact ⟨[.error e], _, _, _, rfl, rfl, hlost⟩
    | reopen hm' _ _ | settle hm' _ | shutDown hm' _ => simp [hm] at hm'
  | closed hm hk =>
    have hpending := hs.of_socket hk
    cases h with
    | skip hno => simp [State.Accepts, hm, hk] at hno
    | lost _ _ hlost =>
      rw [hpending] at hlost
      exact ⟨[], _, _, _, rfl, rfl, hlost⟩
    | reopen hm' _ _ | settle hm' _ | shutDown hm' _ => simp [hm] at hm'
  | @failed socket detail hm hk =>
    have hpending := hs.of_socket hk
    cases h with
    | skip hno => simp [State.Accepts, hm, hk] at hno
    | failed _ _ hlost =>
      rw [hpending] at hlost
      exact ⟨[.error (.connection detail)], _, _, _, rfl, rfl, hlost⟩
    | reopen hm' _ _ | settle hm' _ | shutDown hm' _ => simp [hm] at hm'

theorem Loses.ready {report : List Event} (hl : Loses s input report) : s.mode = .ready := by
  cases hl <;> assumption

theorem Move.loses_of_closed {code : Option Nat} {reason : String} (h : Move cfg env s input s' es)
    (hclosed : .closed code reason false ∈ emitted es) : ∃ report, Loses s input report := by
  cases h with
  | refused hm hp _ => exact ⟨_, .refused hm hp⟩
  | lost hm hk _ => exact ⟨_, .closed hm hk⟩
  | failed hm hk _ => exact ⟨_, .failed hm hk⟩
  | connect _ _ _ hb | reconnect _ _ _ _ _ hb | reopen _ _ hb =>
    rcases hb.heard with ⟨e, hevents⟩ | hevents <;> simp [hevents] at hclosed
  | text _ _ =>
    obtain ⟨m, hm⟩ := message_of_mem_dispatched hclosed
    cases hm
  | close _ _ | settle _ _ =>
    -- a farewell reports an end that was asked for
    simp [not_mem_emitted_farewell] at hclosed
  | _ => simp at hclosed

/-- Whether nothing but the reconnect timer is between a session and its next attempt. -/
structure Waiting (attempt due : Nat) (s : State) : Prop where
  ready : s.mode = .ready
  closed : s.phase = .closed
  free : Bare { s with reconnect := none }
  armed : s.reconnect = some due
  wanted : s.manualClose = false
  counted : s.attempts = attempt

theorem Loses.scheduled {report : List Event} (hl : Loses s input report) (hs : Coherent s)
    (h : Move cfg env s input s' es) (hlt : s.attempts < cfg.maxAttempts) :
    let delay := cfg.reconnect.times (s.attempts + 1)
    emitted es = report ++ [.reconnecting (s.attempts + 1) delay] ∧
    Waiting (s.attempts + 1) (Time.deadline env.moment.ticks delay) s' := by
  obtain ⟨before, code, reason, lost, rfl, hes, hlost⟩ := hl.lost hs h
  obtain ⟨hwanted, hreconnect⟩ := hl.wanted hs
  cases hlost with
  | manual hmanual => simp [hwanted] at hmanual
  | exhausted _ hle => exact absurd hlt (Nat.not_lt.mpr hle)
  | scheduled _ _ =>
    refine ⟨by simp [hes], ?_⟩
    exact { ready := hl.ready, closed := rfl, free := ⟨rfl, rfl, rfl, rfl, rfl⟩, armed := rfl,
            wanted := hwanted, counted := rfl }

theorem Loses.exhausted {report : List Event} (hl : Loses s input report) (hs : Coherent s)
    (h : Move cfg env s input s' es) (hle : cfg.maxAttempts ≤ s.attempts) :
    emitted es = report ++ [.exhausted s.attempts, .error (.connection
      ("reconnect attempts exhausted after " ++ toString s.attempts ++ " attempts"))] ∧ Dormant s' := by
  obtain ⟨before, code, reason, lost, rfl, hes, hlost⟩ := hl.lost hs h
  obtain ⟨hwanted, hreconnect⟩ := hl.wanted hs
  cases hlost with
  | manual hmanual => simp [hwanted] at hmanual
  | scheduled _ hlt => exact absurd hlt (Nat.not_lt.mpr hle)
  | exhausted _ _ =>
    refine ⟨?_, .of_closed rfl hl.ready ⟨rfl, rfl, rfl, rfl, hreconnect⟩⟩
    rw [hes, List.append_assoc]
    rfl

theorem Move.waiting {attempt due : Nat} (h : Move cfg env s input s' es) (hw : Waiting attempt due s)
    (hgoes : input.interrupts = false) (hearly : input.isRetry = true → env.moment.ticks < due) :
    s' = s ∧ es = [] := by
  obtain ⟨hm, hclosed, ⟨hsocket, hpending, hheartbeat, hstability, -⟩, harmed, -, -⟩ := hw
  cases h with
  | skip _ | dropSend _ _ => exact ⟨rfl, rfl⟩
  | ignore _ _ | replace _ _ _ | connect _ _ _ _ | closeDrain _ _ | close _ _ | leaveDrain _ _ | leave _ _ =>
    simp [Input.interrupts] at hgoes
  | send _ hopen _ => simp [hclosed] at hopen
  -- nothing is there that could succeed, fail or deliver
  | opened _ hp _ | openCrash _ hp _ | refused _ hp _ => simp [hp] at hpending
  | text _ hk | lost _ hk _ | failed _ hk _ => simp [hk] at hsocket
  | ping _ ht _ _ | pingCrash _ ht _ _ => simp [ht] at hheartbeat
  | stable _ ht _ => simp [ht] at hstability
  | disarm _ ht hdue _ | reconnectDrain _ ht hdue _ _ | reconnect _ ht hdue _ _ _ =>
    obtain rfl := Option.some.inj (ht.symm.trans harmed)
    exact absurd (hearly rfl) (Nat.not_lt.mpr hdue)
  | drainText hm' | reopen hm' _ _ | settle hm' _ | shutDown hm' _ => simp [hm] at hm'

theorem Move.attempted {attempt due : Nat} (h : Move cfg env s input s' es) (hw : Waiting attempt due s)
    (hretry : input.isRetry = true) (hdue : due ≤ env.moment.ticks) : Attempted cfg env attempt es := by
  obtain ⟨hm, -, ⟨hsocket, -, -, -, -⟩, harmed, hwanted, rfl⟩ := hw
  cases h with
  | @skip input hno =>
    cases input with
    | reconnectDue => simp [State.Accepts, hm, harmed, hdue] at hno
    | _ => simp [Input.isRetry] at hretry
  | reconnect _ _ _ _ _ hb => exact hb.attempted
  | disarm _ _ _ hc => simp [hwanted] at hc
  | reconnectDrain _ _ _ _ hk => simp [hk] at hsocket
  | reopen hm' _ _ | settle hm' _ | shutDown hm' _ => simp [hm] at hm'
  | _ => simp [Input.isRetry] at hretry

theorem Attempted.of_visible {attempt : Nat} (h : Attempted cfg env attempt (visible es)) :
    Attempted cfg env attempt es := by
  unfold Attempted at h ⊢
  split at h
  · obtain ⟨hevents, socket, hdial⟩ := h
    exact ⟨by simpa using hevents, socket, (List.mem_filter.mp hdial).1⟩
  · simpa using h

theorem Waiting.resumes {attempt due : Nat} (hw : Waiting attempt due s)
    {rest : List (Surroundings × Input)} (hprompt : s.Prompt cfg rest) :
    ResumesAt cfg Input.interrupts attempt due s rest := by
  induction rest with
  | nil => trivial
  | cons i rest ih =>
    obtain ⟨env, input⟩ := i
    obtain ⟨hintime, hrest⟩ := hprompt
    have hmove := s.step_move cfg env input
    have hle : env.moment.ticks ≤ due := hintime.of_reconnect hw.ready hw.armed
    refine ⟨hle, fun hgoes => ?_⟩
    split
    · next hfires => exact (hmove.attempted hw hfires.1 (Nat.le_of_eq hfires.2.symm)).of_visible
    · next hwaits =>
      have hearly : input.isRetry = true → env.moment.ticks < due := fun hretry =>
        Nat.lt_of_le_of_ne hle fun hdue => hwaits ⟨hretry, hdue⟩
      obtain ⟨hsame, hnone⟩ := hmove.waiting hw hgoes hearly
      rw [hsame] at hrest ⊢
      refine ⟨?_, ih hrest⟩
      rw [← emitted_visible, ← Turn.shown, hnone]
      rfl

def State.armed (s : State) : Nat := s.reconnect.toList.length

theorem Begun.armed {result : Outcome Unit} (h : Begun cfg env s result s' es) : s'.armed = s.armed := by
  cases h <;> rfl

theorem Lost.armed {code : Option Nat} {reason : String} (h : Lost cfg env code reason s s' es) :
    s'.armed + s.attempts ≤ s'.attempts + s.armed := by
  cases h with
  | manual _ | exhausted _ _ => exact Nat.le_of_eq (Nat.add_comm _ _)
  | scheduled _ _ =>
    show 1 + s.attempts ≤ s.attempts + 1 + s.armed
    omega

theorem armed_of_le (harmed : s'.armed ≤ s.armed) (hle : s.attempts ≤ s'.attempts) :
    s'.armed + s.attempts ≤ s'.attempts + s.armed := by
  omega

theorem Move.armed (h : Move cfg env s input s' es) (hno : input.isRetry = false)
    (hle : s.attempts ≤ s'.attempts) : s'.armed + s.attempts ≤ s'.attempts + s.armed := by
  cases h with
  -- only a loss arms the timer, and it pays with the counter
  | refused _ _ hl | lost _ _ hl | failed _ _ hl => exact hl.armed
  | replace _ _ _ | closeDrain _ _ | close _ _ | leaveDrain _ _ | leave _ _ =>
    exact armed_of_le (Nat.zero_le _) hle
  | connect _ _ _ hb =>
    refine armed_of_le ?_ hle
    rw [hb.armed]
    exact Nat.zero_le _
  | reopen _ _ hb =>
    refine armed_of_le ?_ hle
    rw [hb.armed]
    exact Nat.le_refl _
  | disarm _ _ _ _ | reconnectDrain _ _ _ _ _ | reconnect _ _ _ _ _ _ => simp [Input.isRetry] at hno
  | _ => exact armed_of_le (Nat.le_refl _) hle

theorem Move.spends (h : Move cfg env s input s' es) (hretry : input.isRetry = true) :
    (emitted es).length + s'.armed ≤ s.armed ∧ s'.attempts = s.attempts := by
  cases h with
  | skip _ => exact ⟨by simp, rfl⟩
  | disarm _ ht _ _ | reconnectDrain _ ht _ _ _ => exact ⟨Nat.zero_le _, rfl⟩
  | reconnect _ ht _ _ _ hb =>
    have hbefore : s.armed = 1 := by rw [State.armed, ht]; rfl
    refine ⟨?_, hb.attempts⟩
    rw [hb.armed, hbefore]
    rcases hb.heard with ⟨e, hevents⟩ | hevents <;> simp [hevents, State.armed]
  | reopen _ hend _ | settle _ hend | shutDown _ hend =>
    cases input with
    | reconnectDue => exact hend.elim
    | _ => simp [Input.isRetry] at hretry
  | _ => simp [Input.isRetry] at hretry

/-- Attempts and armed timers together never outgrow the counter. -/
theorem length_automatic_le (cfg : Config) (run : List (Surroundings × Input)) (s : State)
    (hnever : s.Always cfg (fun s env input => s.attempts ≤ (s.step cfg env input).state.attempts) run) :
    (automatic cfg s run).length + (s.after cfg run).armed + s.attempts ≤
      (s.after cfg run).attempts + s.armed := by
  induction run generalizing s with
  | nil => simp [automatic]; omega
  | cons i run ih =>
    obtain ⟨env, input⟩ := i
    obtain ⟨hle, hrest⟩ := hnever
    have hmove := s.step_move cfg env input
    have hrun := ih _ hrest
    rw [automatic, List.length_append, State.after_cons]
    cases hretry : input.isRetry with
    | false =>
      have hstep := hmove.armed hretry hle
      simp only [Bool.false_eq_true, if_false, List.length_nil]
      omega
    | true =>
      obtain ⟨hspent, hsame⟩ := hmove.spends hretry
      rw [Turn.shown, emitted_visible] at hspent
      simp only [if_true]
      omega

theorem automatic_sublist (cfg : Config) (run : List (Surroundings × Input)) (s : State) :
    (automatic cfg s run).Sublist (emitted (s.trace cfg run)) := by
  induction run generalizing s with
  | nil => exact .slnil
  | cons i run ih =>
    rw [automatic, State.trace, emitted_append]
    refine .append ?_ (ih _)
    split
    · exact .refl _
    · exact List.nil_sublist _

theorem Sound.armed_le (hs : Sound s) (hm : s.mode ≠ .stopped) : s.armed ≤ s.attempts := by
  unfold Sound at hs
  unfold State.armed
  cases hmode : s.mode with
  | stopped => exact absurd hmode hm
  | draining socket deadline next =>
    rw [hmode] at hs
    rw [hs.1.reconnect]
    exact Nat.zero_le _
  | ready =>
    rw [hmode] at hs
    cases hr : s.reconnect with
    | none => exact Nat.zero_le _
    | some due => exact (hs.reconnect (by simp [hr])).2.2

theorem frugal_after (cfg : Config) (past run : List (Surroundings × Input))
    (hnever : (State.initial.after cfg past).Always cfg
      (fun s env input => s.attempts ≤ (s.step cfg env input).state.attempts) run) :
    (automatic cfg (State.initial.after cfg past) run).length ≤ cfg.maxAttempts := by
  by_cases hm : (State.initial.after cfg past).mode = .stopped
  · have hsublist := automatic_sublist cfg run (State.initial.after cfg past)
    rw [Leaving.emitted_trace (.inl hm), List.sublist_nil] at hsublist
    rw [hsublist]
    exact Nat.zero_le _
  · have hspent := length_automatic_le cfg run _ hnever
    have harmed := (sound_after cfg past).armed_le hm
    have hwithin := (attempts_within cfg (past ++ run)).1
    rw [State.after_append] at hwithin
    omega

/-- The backoff is linear and keeps to the budget, whatever happens to a session. -/
theorem linear_backoff (cfg : Config) (run : List (Surroundings × Input)) :
    (∀ c ∈ counters (State.initial.trace cfg run), c ≤ cfg.maxAttempts) ∧
    Backoff cfg Input.interrupts (State.initial.after cfg run) := by
  obtain ⟨hwithin, hcounters⟩ := attempts_within cfg run
  refine ⟨hcounters, {
    within := hwithin
    losses := fun env input => ?_
    announced := fun env input report hl hlt => ?_
    exhausted := fun env input report hl heq => ?_
    frugal := frugal_after cfg run }⟩
  all_goals have hmove := (State.initial.after cfg run).step_move cfg env input
  · constructor
    · rintro ⟨code, reason, hclosed⟩
      rw [← emitted_visible] at hclosed
      exact hmove.loses_of_closed hclosed
    · rintro ⟨report, hl⟩
      have hs := coherent_of_ready cfg run hl.ready
      obtain ⟨before, code, reason, lost, rfl, hes, hlost⟩ := hl.lost hs hmove
      refine ⟨code, reason, ?_⟩
      rw [← emitted_visible, ← Turn.shown, hes]
      exact List.mem_append_right _ hlost.closed_mem
  · obtain ⟨hes, hw⟩ := hl.scheduled (coherent_of_ready cfg run hl.ready) hmove hlt
    rw [Turn.shown, emitted_visible] at hes
    refine ⟨Time.Span.nanos_times _ _, hes, fun ms rest hms hfits hprompt => ?_⟩
    rw [Time.deadline_of_millis hms hfits] at hw
    exact hw.resumes hprompt
  · obtain ⟨hes, hd⟩ := hl.exhausted (coherent_of_ready cfg run hl.ready) hmove (Nat.le_of_eq heq.symm)
    rw [Turn.shown, emitted_visible, heq] at hes
    exact ⟨hes, fun rest hrest => (hd.run hrest).2⟩

def broke : Config := { plain with maxAttempts := 0 }

theorem linear_backoff_openRun :
    let gone : Input := .received (.closed none "gone")
    let next := (State.initial.after plain openRun).step plain (calmAt 15) gone
    let rest := [(calmAt 20, .dialed (.ok ())), (calmAt 3015, .reconnectDue)]
    (State.initial.after plain openRun).attempts < plain.maxAttempts ∧
    (plain.reconnect.times 1).nanos = 3000 * 1000000 ∧ Time.fits 15 (plain.reconnect.times 1) = true ∧
    next.state.Prompt plain rest ∧
    emitted next.effects = [.closed none "gone" false, .reconnecting 1 (plain.reconnect.times 1)] ∧
    ResumesAt plain Input.interrupts 1 3015 next.state rest ∧
    (State.initial.after broke openRun).attempts = broke.maxAttempts ∧
    emitted ((State.initial.after broke openRun).step broke (calmAt 15) gone).effects =
      [.closed none "gone" false, .exhausted 0,
        .error (.connection "reconnect attempts exhausted after 0 attempts")] := by
  intro gone next rest
  have hloses : Loses (State.initial.after plain openRun) gone [.closed none "gone" false] := .closed rfl rfl
  have hlt : (State.initial.after plain openRun).attempts < plain.maxAttempts := by decide +kernel
  have hmillis : (plain.reconnect.times 1).nanos = 3000 * 1000000 := by decide +kernel
  have hfits : Time.fits 15 (plain.reconnect.times 1) = true := by decide +kernel
  have hprompt : next.state.Prompt plain rest := by decide +kernel
  obtain ⟨-, hplain⟩ := linear_backoff plain openRun
  obtain ⟨-, hevents, hresumes⟩ := hplain.announced (calmAt 15) gone _ hloses hlt
  have hbroke : Loses (State.initial.after broke openRun) gone [.closed none "gone" false] := .closed rfl rfl
  have hspent : (State.initial.after broke openRun).attempts = broke.maxAttempts := by decide +kernel
  obtain ⟨-, hbackoff⟩ := linear_backoff broke openRun
  obtain ⟨hexhausted, -⟩ := hbackoff.exhausted (calmAt 15) gone _ hbroke hspent
  exact ⟨hlt, hmillis, hfits, hprompt, hevents, hresumes 3000 rest hmillis hfits hprompt, hspent,
    hexhausted⟩

/-- Commands are not all that ends the wait: the attempt does not come once the last handle is gone. -/
theorem backoff_ends_with_handles : ¬ Backoff plain Input.isOrder (State.initial.after plain openRun) := by
  intro hbackoff
  let s := State.initial.after plain openRun
  let gone : Input := .received (.closed none "gone")
  let rest : List (Surroundings × Input) := [(calmAt 20, .abandoned), (calmAt 4000, .drainOver)]
  have hloses : Loses s gone [.closed none "gone" false] := .closed rfl rfl
  obtain ⟨-, -, hresumes⟩ := hbackoff.announced (calmAt 15) gone _ hloses (by decide +kernel)
  have hprompt : (s.step plain (calmAt 15) gone).state.Prompt plain rest := by decide +kernel
  obtain ⟨-, hgoes⟩ := hresumes 3000 rest (by decide +kernel) (by decide +kernel) hprompt
  -- the session has stopped, and time goes on past the tick at which the attempt was due
  obtain ⟨-, hlate, -⟩ := hgoes rfl
  exact absurd hlate (by decide)

end Courier.Session
