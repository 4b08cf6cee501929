import Courier.Proofs.Session.Ownership
import Courier.Proofs.Session.Silence
import Courier.Proofs.Session.Timing

/-! How a session is closed, be it by a command or because its last handle is gone. A held socket is
asked to close, which happens once in its life, and drained: texts are passed over until the socket
confirms, fails or is dropped, or until the time is up. Then nothing is held any more. -/

namespace Courier.Session

def Input.isClosing : Input → Bool
  | close _ | abandoned => true
  | _ => false

def Input.afterDrain (wasActive : Bool) : Input → AfterDrain
  | close caller => .settle caller wasActive
  | _ => .shutDown

/-- What is told at the end of a closing, to subscribers and to whoever asked for it. -/
def Input.lastWords (wasActive : Bool) : Input → List Effect
  | close caller => farewell wasActive ++ [.reply caller (.ok ())]
  | _ => [.stop]

/-- Whether a session has been closed for an input: it holds nothing, and handles no input any more when
the last handle is gone. -/
structure ClosedFor (input : Input) (s : State) : Prop where
  phase : s.phase = .closed
  bare : Bare s
  mode : s.mode = match input with
    | .abandoned => .stopped
    | _ => .ready

/-- Whether an input ends a drain: the socket confirms, fails or is dropped, or its time is up just then. -/
def EndsOnTime (due : Nat) (env : Surroundings) : Input → Prop
  | .received event => event.isTerminal = true
  | .drainOver => env.moment.ticks = due
  | _ => False

instance {due : Nat} {env : Surroundings} : (input : Input) → Decidable (EndsOnTime due env input)
  | .received event => inferInstanceAs (Decidable (event.isTerminal = true))
  | .drainOver => inferInstanceAs (Decidable (env.moment.ticks = due))
  | .connect _ | .close _ | .send _ | .dialed _ | .heartbeatDue | .stabilityDue | .reconnectDue
  | .abandoned => isFalse id

/-- How a drain goes on in a run. It is never overdue; no input has an effect before it ends. -/
def DrainsUntil (cfg : Config) (due : Nat) (ending : State → List Effect → Prop) (s : State) :
    List (Surroundings × Input) → Prop
  | [] => True
  | (env, input) :: rest =>
    let turn := s.step cfg env input
    env.moment.ticks ≤ due ∧
    (EndsOnTime due env input → ending turn.state (visible turn.effects)) ∧
    (¬ EndsOnTime due env input →
      turn.state = s ∧ visible turn.effects = [] ∧ DrainsUntil cfg due ending s rest)

/-- How an input closes a session with this past, if a drain lasts at most so many milliseconds. -/
structure Closes (cfg : Config) (longest : Nat) (past : List Effect) (s : State) (env : Surroundings)
    (input : Input) : Prop where
  atOnce : s.socket = none →
    let turn := s.step cfg env input
    ClosedFor input turn.state ∧
    visible turn.effects = s.pending.toList.map .release ++ [.publish ⟨.closed, s.attempts⟩] ++
      input.lastWords s.isActive
  /-- A held socket is asked to close, and it has not been asked before. -/
  asks : ∀ socket, s.socket = some socket →
    visible (s.step cfg env input).effects =
      [.publish ⟨.closing, s.attempts⟩, .write socket .close] ∧
    .write socket .close ∉ past
  drains : ∀ socket rest, s.socket = some socket → (s.step cfg env input).state.Prompt cfg rest →
    DrainsUntil cfg (env.moment.ticks + longest)
      (fun s' es => ClosedFor input s' ∧
        es = [.release socket, .publish ⟨.closed, s.attempts⟩] ++ input.lastWords s.isActive)
      (s.step cfg env input).state rest

variable {cfg : Config} {env : Surroundings} {s s' : State} {input : Input} {es past : List Effect}

def State.kept (s : State) : List Nat := s.pending.toList ++ s.socket.toList

theorem Alternates.lt {out : List Nat} {n k : Nat} (h : Alternates past out n) (hk : k ∈ out) : k < n := by
  cases h with
  | nil | release _ => simp at hk
  | dial _ _ =>
    rw [List.mem_singleton] at hk
    omega

theorem Begun.kept {result : Outcome Unit} {k : Nat} (h : Begun cfg env s result s' es)
    (hk : k ∈ s'.kept) : k ∈ s.kept ∨ k = s.dialed := by
  cases h with
  | failed _ => exact .inl hk
  | dialing _ =>
    rcases List.mem_append.mp hk with hk | hk
    · simp only [Option.toList_some, List.mem_singleton] at hk
      exact .inr hk
    · exact .inl (List.mem_append_right _ hk)

theorem Begun.dialed_le {result : Outcome Unit} (h : Begun cfg env s result s' es) :
    s.dialed ≤ s'.dialed := by
  cases h with
  | failed _ => exact Nat.le_refl _
  | dialing _ => exact Nat.le_succ _

theorem Begun.not_asked {result : Outcome Unit} {k : Nat} (h : Begun cfg env s result s' es) :
    .write k .close ∉ es := by
  cases h <;> simp

theorem Lost.kept {code : Option Nat} {reason : String} (h : Lost cfg env code reason s s' es) :
    s'.kept = s.kept ∧ s'.dialed = s.dialed := by
  cases h <;> exact ⟨rfl, rfl⟩

theorem Lost.not_asked {code : Option Nat} {reason : String} {k : Nat}
    (h : Lost cfg env code reason s s' es) : .write k .close ∉ es := by
  cases h <;> simp

theorem not_asked_dispatched {socket : Option Nat} {payload : String} {k : Nat} :
    .write k .close ∉ dispatched env socket payload := by
  intro h
  rcases of_mem_dispatched h with ⟨_, _, heq⟩ | ⟨_, heq⟩ <;> cases heq

theorem not_asked_written {socket : Option Nat} {o : Outbound} {k : Nat} :
    .write k .close ∉ written env socket o := by
  intro h
  obtain ⟨_, heq⟩ := of_mem_written h
  cases heq

theorem not_asked_farewell {wasActive : Bool} {k : Nat} : .write k .close ∉ farewell wasActive := by
  cases wasActive <;> simp [farewell]

/-- A move keeps no socket but those kept before and the one that it dials. -/
theorem Move.kept (h : Move cfg env s input s' es) :
    s.dialed ≤ s'.dialed ∧ ∀ k ∈ s'.kept, k ∈ s.kept ∨ k = s.dialed := by
  cases h with
  | connect _ _ _ hb | reconnect _ _ _ _ _ hb | reopen _ _ hb => exact ⟨hb.dialed_le, fun k hk => hb.kept hk⟩
  | refused _ _ hl | lost _ _ hl | failed _ _ hl =>
    obtain ⟨hkept, hdialed⟩ := hl.kept
    refine ⟨Nat.le_of_eq hdialed.symm, fun k hk => .inl ?_⟩
    rw [hkept] at hk
    simp only [State.kept, Option.toList_none, List.nil_append, List.append_nil] at hk
    simp [State.kept, hk]
  | opened _ hp _ =>
    refine ⟨Nat.le_refl _, fun k hk => .inl ?_⟩
    rw [State.kept, hp]
    exact List.mem_append_left _ hk
  | _ =>
    refine ⟨Nat.le_refl _, fun k hk => .inl ?_⟩
    simp_all [State.kept, State.draining, State.calmed, State.renewed, State.forsaken]

/-- A socket that a move asks to close was held, and nothing is kept after it. -/
theorem Move.asked {k : Nat} (h : Move cfg env s input s' es) (hs : Sound s)
    (hk : .write k .close ∈ es) : s.socket = some k ∧ s'.kept = [] := by
  cases h with
  | replace hm _ hsocket | closeDrain hm hsocket | reconnectDrain hm _ _ _ hsocket
  | leaveDrain hm hsocket =>
    simp only [Sound, hm] at hs
    have hpending := hs.of_socket hsocket
    simp_all [State.kept, State.draining, State.calmed, State.renewed, State.forsaken]
  | connect _ _ _ hb | reconnect _ _ _ _ _ hb => simp [hb.not_asked] at hk
  | @reopen _ _ caller _ _ _ _ _ _ hb => cases caller <;> simp [hb.not_asked, answer] at hk
  | refused _ _ hl | lost _ _ hl | failed _ _ hl => simp [hl.not_asked] at hk
  | send _ _ _ | ping _ _ _ _ => exact absurd hk not_asked_written
  | text _ _ => exact absurd hk not_asked_dispatched
  | close _ _ => simp [not_asked_farewell] at hk
  | settle _ _ => simp [not_asked_farewell] at hk
  | _ => simp at hk

def Parted (past : List Effect) (s : State) : Prop :=
  ∀ k, .write k .close ∈ past → k < s.dialed ∧ k ∉ s.kept

theorem Move.parted (h : Move cfg env s input s' es) (hs : Sound s)
    (ha : Alternates (transfers past) s.held s.dialed) (hparted : Parted past s) :
    Parted (past ++ es) s' := by
  obtain ⟨hdialed, hkept⟩ := h.kept
  intro k hk
  rcases List.mem_append.mp hk with hk | hk
  · obtain ⟨hlt, hnot⟩ := hparted k hk
    refine ⟨by omega, fun hk' => ?_⟩
    rcases hkept k hk' with hold | rfl
    · exact hnot hold
    · exact Nat.lt_irrefl _ hlt
  · obtain ⟨hsocket, hnone⟩ := h.asked hs hk
    have hlt := ha.lt (k := k) (by simp [State.held, hsocket])
    exact ⟨by omega, by simp [hnone]⟩

theorem parted_after (cfg : Config) (run : List (Surroundings × Input)) :
    Parted (State.initial.trace cfg run) (State.initial.after cfg run) := by
  have h : (Sound (State.initial.after cfg run) ∧
      Alternates (transfers (visible (State.initial.trace cfg run)))
        (State.initial.after cfg run).held (State.initial.after cfg run).dialed) ∧
      Parted (visible (State.initial.trace cfg run)) (State.initial.after cfg run) := by
    refine State.run_keeps
      (P := fun past s => (Sound s ∧ Alternates (transfers past) s.held s.dialed) ∧ Parted past s)
      ⟨⟨sound_initial, .nil⟩, fun k hk => by simp at hk⟩ (fun h hmove => ?_) run
    obtain ⟨⟨hs, ha⟩, hparted⟩ := h
    exact ⟨⟨hmove.sound hs, by simpa using hmove.alternates hs ha⟩, hmove.parted hs ha hparted⟩
  intro k hk
  exact h.2 k (List.mem_filter.mpr ⟨hk, rfl⟩)

theorem Move.closes_at_once (h : Move cfg env s input s' es) (hm : s.mode = .ready)
    (hinput : input.isClosing = true) (hsocket : s.socket = none) :
    ClosedFor input s' ∧
      es = s.pending.toList.map .release ++ [.publish ⟨.closed, s.attempts⟩] ++
        input.lastWords s.isActive := by
  cases h with
  | close _ _ =>
    refine ⟨⟨rfl, ⟨hsocket, rfl, rfl, rfl, rfl⟩, hm⟩, ?_⟩
    simp [Input.lastWords]
  | leave _ _ =>
    refine ⟨⟨rfl, ⟨hsocket, rfl, rfl, rfl, rfl⟩, rfl⟩, ?_⟩
    simp [Input.lastWords]
  | closeDrain _ hk | leaveDrain _ hk => simp [hsocket] at hk
  | skip hno => cases input <;> simp_all [Input.isClosing, State.Accepts]
  | reopen hm' _ _ | settle hm' _ | shutDown hm' _ => simp [hm] at hm'
  | _ => simp [Input.isClosing] at hinput

theorem Move.asks {socket : Nat} (h : Move cfg env s input s' es) (hm : s.mode = .ready)
    (hinput : input.isClosing = true) (hs : Coherent s) (hsocket : s.socket = some socket) :
    s' = s.forsaken.draining cfg env socket (input.afterDrain s.isActive) ∧
      es = [.publish ⟨.closing, s.attempts⟩, .write socket .close] := by
  have hpending := hs.of_socket hsocket
  cases h with
  | closeDrain _ hk | leaveDrain _ hk =>
    rw [hsocket, Option.some.injEq] at hk
    subst hk
    exact ⟨rfl, by simp [hpending]⟩
  | close _ hk | leave _ hk => simp [hsocket] at hk
  | skip hno => cases input <;> simp_all [Input.isClosing, State.Accepts]
  | reopen hm' _ _ | settle hm' _ | shutDown hm' _ => simp [hm] at hm'
  | _ => simp [Input.isClosing] at hinput

/-- A drain in time ends with the socket, or just when its time is up. -/
theorem endsDrain_iff {due : Nat} (hle : env.moment.ticks ≤ due) :
    EndsDrain env due input ↔ EndsOnTime due env input := by
  cases input with
  | drainOver => exact ⟨fun h => Nat.le_antisymm hle h, fun h => Nat.le_of_eq h.symm⟩
  | _ => exact Iff.rfl

theorem Move.ends_drain {closing : Input} {socket due : Nat} {wasActive : Bool}
    (h : Move cfg env s input s' es) (hb : Bare s) (hinput : closing.isClosing = true)
    (hm : s.mode = .draining socket due (closing.afterDrain wasActive))
    (hend : EndsDrain env due input) :
    ClosedFor closing s' ∧
      es = [.release socket, .publish ⟨.closed, s.attempts⟩] ++ closing.lastWords wasActive := by
  cases h with
  | skip hno => exact absurd (hend.accepts hm) hno
  | drainText _ => simp [EndsDrain, SocketEvent.isTerminal] at hend
  | settle hm' _ =>
    rw [hm, Mode.draining.injEq] at hm'
    obtain ⟨rfl, -, hnext⟩ := hm'
    cases closing with
    | close caller =>
      obtain ⟨rfl, rfl⟩ := AfterDrain.settle.inj hnext
      exact ⟨⟨rfl, ⟨hb.1, hb.2, hb.3, hb.4, hb.5⟩, rfl⟩, by simp [Input.lastWords]⟩
    | _ => cases hnext
  | shutDown hm' _ =>
    rw [hm, Mode.draining.injEq] at hm'
    obtain ⟨rfl, -, hnext⟩ := hm'
    cases closing with
    | close caller => cases hnext
    | abandoned => exact ⟨⟨rfl, ⟨hb.1, hb.2, hb.3, hb.4, hb.5⟩, rfl⟩, rfl⟩
    | _ => simp [Input.isClosing] at hinput
  | reopen hm' _ _ =>
    rw [hm, Mode.draining.injEq] at hm'
    cases closing with
    | _ => cases hm'.2.2
  | _ => simp_all

theorem Move.waits {socket due : Nat} {next : AfterDrain} (h : Move cfg env s input s' es)
    (hm : s.mode = .draining socket due next) (hno : ¬ EndsDrain env due input) :
    s' = s ∧ es = [] := by
  cases h with
  | skip _ | drainText _ => exact ⟨rfl, rfl⟩
  | _ => simp_all

theorem drainsUntil {closing : Input} {socket due : Nat} {wasActive : Bool} (hb : Bare s)
    (hinput : closing.isClosing = true)
    (hm : s.mode = .draining socket due (closing.afterDrain wasActive))
    (rest : List (Surroundings × Input)) (hprompt : s.Prompt cfg rest) :
    DrainsUntil cfg due
      (fun s' es => ClosedFor closing s' ∧
        es = [.release socket, .publish ⟨.closed, s.attempts⟩] ++ closing.lastWords wasActive)
      s rest := by
  induction rest with
  | nil => trivial
  | cons i rest ih =>
    obtain ⟨env, input⟩ := i
    obtain ⟨hintime, hrest⟩ := hprompt
    have hmove := s.step_move cfg env input
    have hle : env.moment.ticks ≤ due := hintime due (by rw [State.nextDue?, hm])
    refine ⟨hle, fun hend => ?_, fun hno => ?_⟩
    · exact hmove.ends_drain hb hinput hm ((endsDrain_iff hle).mpr hend)
    · obtain ⟨hsame, hquiet⟩ := hmove.waits hm (fun hend => hno ((endsDrain_iff hle).mp hend))
      refine ⟨hsame, hquiet, ih ?_⟩
      rwa [hsame] at hrest

/-- From every state in which a session waits, a command to close and the loss of the last handle close
it. That is over at once or with the drain of the held socket, which takes no longer than the configured
time. -/
theorem close_is_bounded (cfg : Config) {ms : Nat} (hms : cfg.closeTimeout.nanos = ms * 1000000)
    (past : List (Surroundings × Input)) {env : Surroundings} {input : Input}
    (hready : (State.initial.after cfg past).mode = .ready) (hclosing : input.isClosing = true) :
    Closes cfg ms (State.initial.trace cfg past) (State.initial.after cfg past) env input := by
  have hs := coherent_of_ready cfg past hready
  have hparted := parted_after cfg past
  generalize State.initial.trace cfg past = told at hparted
  generalize State.initial.after cfg past = s at hready hs hparted
  have hmove := s.step_move cfg env input
  refine ⟨fun hsocket => ?_, fun socket hsocket => ?_, fun socket rest hsocket hprompt => ?_⟩
  · exact hmove.closes_at_once hready hclosing hsocket
  · refine ⟨(hmove.asks hready hclosing hs hsocket).2, fun hasked => ?_⟩
    exact (hparted socket hasked).2 (by simp [State.kept, hsocket])
  · rw [← Time.limit_of_millis env.moment.ticks hms]
    obtain ⟨hstate, -⟩ := hmove.asks hready hclosing hs hsocket
    rw [hstate] at hprompt ⊢
    exact drainsUntil (s := s.forsaken.draining cfg env socket _) ⟨rfl, rfl, rfl, rfl, rfl⟩ hclosing rfl
      rest hprompt

theorem close_is_bounded_openRun :
    plain.closeTimeout.nanos = 1000 * 1000000 ∧ (State.initial.after plain openRun).mode = .ready ∧
    (Input.close 1).isClosing = true ∧
    Closes plain 1000 (State.initial.trace plain openRun) (State.initial.after plain openRun)
      (calmAt 10) (.close 1) := by
  have hsecond : plain.closeTimeout.nanos = 1000 * 1000000 := by decide
  have hready : (State.initial.after plain openRun).mode = .ready := rfl
  exact ⟨hsecond, hready, rfl, close_is_bounded plain hsecond openRun hready rfl⟩

end Courier.Session
