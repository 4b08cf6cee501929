import Courier.Proofs.Session.Stability

/-! Why a session stands still. A closed session with no attempt to come was closed by hand, or the last
that it told its subscribers is an error: the budget of attempts is used up, or the last attempt could not
begin. Which of these it is, is read off the history of the session and not off its state. -/

namespace Courier.Session

def State.Opens (env : Surroundings) (s : State) (input : Input) : Prop :=
  match s.mode, input with
  | .ready, .connect _ => s.phase ≠ .connecting ∧ s.socket = none
  | .ready, .reconnectDue =>
    s.manualClose = false ∧ s.socket = none ∧ ∃ due, s.reconnect = some due ∧ due ≤ env.moment.ticks
  | .draining _ deadline (.reopen _), input => EndsDrain env deadline input
  | _, _ => False

inductive FailedToBegin (cfg : Config) (e : Error) : List (Surroundings × Input) → Prop where
  | fails {past env input} : (State.initial.after cfg past).Opens env input →
      Turn.address cfg env = .error e → FailedToBegin cfg e (past ++ [(env, input)])
  | stays {past env input} : FailedToBegin cfg e past →
      ¬ (State.initial.after cfg past).Opens env input → FailedToBegin cfg e (past ++ [(env, input)])

def Wanted (cfg : Config) (run : List (Surroundings × Input)) : Prop :=
  ∃ past env caller rest, run = past ++ (env, .connect caller) :: rest ∧
    (State.initial.after cfg past).mode = .ready

def budgetError (attempts : Nat) : Error :=
  .connection ("reconnect attempts exhausted after " ++ toString attempts ++ " attempts")

inductive Accounted (cfg : Config) (run : List (Surroundings × Input)) : Prop where
  | byHand : ClosedByHand cfg run → Accounted cfg run
  | exhausted {attempts} :
      [.exhausted attempts, .error (budgetError attempts)] <:+ emitted (State.initial.trace cfg run) →
      Accounted cfg run
  | failedToBegin {e} : FailedToBegin cfg e run →
      ((∃ detail, e = .auth detail) ∨ ∃ detail, e = .config detail) →
      (emitted (State.initial.trace cfg run)).getLast? = some (.error e) → Accounted cfg run

structure NeverSilentlyDead (cfg : Config) (run : List (Surroundings × Input)) : Prop where
  dead : let s := State.initial.after cfg run
    s.phase = .closed → s.reconnect = none → Accounted cfg run
  alive : let s := State.initial.after cfg run
    Wanted cfg run → ¬ (s.phase = .closed ∧ s.reconnect = none) →
      s.phase = .connecting ∨ s.phase = .open ∨ s.phase = .closed ∧ s.reconnect.isSome

variable {cfg : Config} {env : Surroundings} {s s' : State} {input : Input} {es : List Effect}

theorem endpoint_error {base token : String} {e : Error} (h : endpoint base token = .error e) :
    ∃ detail, e = .config detail := by
  unfold endpoint at h
  split at h
  · exact ⟨_, (Except.error.inj h).symm⟩
  · split at h
    · exact ⟨_, (Except.error.inj h).symm⟩
    · cases h

theorem address_error {e : Error} (h : Turn.address cfg env = .error e) :
    (∃ detail, e = .auth detail) ∨ ∃ detail, e = .config detail := by
  unfold Turn.address at h
  split at h
  · exact .inl ⟨_, (Except.error.inj h).symm⟩
  · exact .inr (endpoint_error h)

theorem State.Opens.accepts (h : s.Opens env input) : s.Accepts env input := by
  unfold State.Opens at h
  split at h
  case h_1 hm => simp [State.Accepts, hm]
  case h_2 hm =>
    simp only [State.Accepts, hm]
    exact h.2.2
  case h_3 hm => exact h.accepts hm
  case h_4 => exact h.elim

theorem Lost.dies {code : Option Nat} {reason : String} (h : Lost cfg env code reason s s' es)
    (hmanual : s'.manualClose = false) (hreconnect : s'.reconnect = none) :
    ∃ attempts, [.exhausted attempts, .error (budgetError attempts)] <:+ emitted es := by
  cases h with
  | manual hc => simp [State.calmed, hc] at hmanual
  | exhausted _ _ => exact ⟨s.attempts, [.closed code reason false], rfl⟩
  | scheduled _ _ => cases hreconnect

theorem Begun.dies {result : Outcome Unit} (h : Begun cfg env s result s' es) (hclosed : s'.phase = .closed) :
    ∃ e, Turn.address cfg env = .error e ∧ emitted es = [.error e] := by
  cases h with
  | failed haddress => exact ⟨_, haddress, rfl⟩
  | dialing _ => cases hclosed

/-- A move into a standstill that nobody asked for tells why, or the session stood still before it. -/
theorem Move.dies (h : Move cfg env s input s' es) (hs : Sound s) (hm' : s'.mode = .ready)
    (hclosed : s'.phase = .closed) (hreconnect : s'.reconnect = none) (hmanual : s'.manualClose = false) :
    (∃ attempts, [.exhausted attempts, .error (budgetError attempts)] <:+ emitted es) ∨
    (∃ e, s.Opens env input ∧ Turn.address cfg env = .error e ∧ [.error e] <:+ emitted es) ∨
    (¬ s.Opens env input ∧ emitted es = [] ∧ s' = s) := by
  have hs' : Coherent s' := by simpa only [Sound, hm'] using h.sound hs
  have hopen := hs'.open_iff
  have hheartbeat := hs'.heartbeat_iff
  rw [hclosed] at hopen hheartbeat
  cases h with
  | skip hno => exact .inr (.inr ⟨fun hopens => hno hopens.accepts, rfl, rfl⟩)
  | dropSend hm _ => exact .inr (.inr ⟨by simp [State.Opens, hm], rfl, rfl⟩)
  | connect hm hp hk hb =>
    obtain ⟨e, haddress, hevents⟩ := hb.dies hclosed
    exact .inr (.inl ⟨e, by simp [State.Opens, hm, hp, hk], haddress, by simp [hevents]⟩)
  | reconnect hm ht hdue hc hk hb =>
    obtain ⟨e, haddress, hevents⟩ := hb.dies hclosed
    exact .inr (.inl ⟨e, by simp [State.Opens, hm, hc, hk, ht, hdue], haddress, by simp [hevents]⟩)
  | reopen hm hend hb =>
    obtain ⟨e, haddress, hevents⟩ := hb.dies hclosed
    exact .inr (.inl ⟨e, by simpa [State.Opens, hm] using hend, haddress, by simp [hevents]⟩)
  | refused _ _ hl =>
    obtain ⟨attempts, hevents⟩ := hl.dies hmanual hreconnect
    exact .inl ⟨attempts, hevents.trans (List.suffix_append [_] _)⟩
  | failed _ _ hl =>
    obtain ⟨attempts, hevents⟩ := hl.dies hmanual hreconnect
    exact .inl ⟨attempts, hevents.trans (List.suffix_append [_] _)⟩
  | lost _ _ hl =>
    obtain ⟨attempts, hevents⟩ := hl.dies hmanual hreconnect
    exact .inl ⟨attempts, hevents⟩
  | settle hm _ =>
    -- only a close command settles a drain
    simp only [Sound, hm] at hs
    have hflag : s.manualClose = true := hs.2.2
    rw [hflag] at hmanual
    cases hmanual
  | close _ _ => cases hmanual
  | disarm _ _ _ hc =>
    rw [hc] at hmanual
    cases hmanual
  | stable hm ht _ =>
    simp only [Sound, hm] at hs
    have hbefore := hs.stability (by simp [ht])
    rw [hbefore] at hclosed
    cases hclosed
  | text _ hk => simp [hk] at hopen
  | ping _ _ _ _ => simp at hheartbeat
  | ignore _ hp | send _ hp _ =>
    rw [hp] at hclosed
    cases hclosed
  | opened _ _ _ => cases hclosed
  | drainText hm =>
    rw [hm] at hm'
    cases hm'
  | replace _ _ _ | closeDrain _ _ | reconnectDrain _ _ _ _ _ | leaveDrain _ _ | openCrash _ _ _
  | pingCrash _ _ _ _ | leave _ _ | shutDown _ _ => cases hm'

theorem accounted_of_still (cfg : Config) (run : List (Surroundings × Input))
    (hm : (State.initial.after cfg run).mode = .ready) (hclosed : (State.initial.after cfg run).phase = .closed)
    (hreconnect : (State.initial.after cfg run).reconnect = none) : Accounted cfg run := by
  cases hmanual : (State.initial.after cfg run).manualClose with
  | true =>
    apply Accounted.byHand
    rwa [← manualClose_iff_closedByHand cfg run (not_leaving_of_ready hm)]
  | false =>
    induction run using List.reverseRecOn with
    | nil => cases hclosed
    | append_singleton past i ih =>
      obtain ⟨env, input⟩ := i
      rw [State.after_append] at hm hclosed hreconnect hmanual
      have hmove := (State.initial.after cfg past).step_move cfg env input
      have htold : emitted (State.initial.trace cfg (past ++ [(env, input)])) =
          emitted (State.initial.trace cfg past) ++
            emitted ((State.initial.after cfg past).step cfg env input).shown := by
        simp [State.trace_append, State.trace, Turn.shown]
      rcases hmove.dies (sound_after cfg past) hm hclosed hreconnect hmanual with
        ⟨attempts, hevents⟩ | ⟨e, hopens, haddress, hevents⟩ | ⟨hno, hquiet, hsame⟩
      · apply Accounted.exhausted
        rw [htold]
        exact hevents.trans (List.suffix_append _ _)
      · apply Accounted.failedToBegin (.fails hopens haddress) (address_error haddress)
        obtain ⟨before, hevents⟩ := hevents
        rw [htold, ← hevents, ← List.append_assoc, List.getLast?_concat]
      · rw [State.after_cons, State.after_nil, hsame] at hm hclosed hreconnect hmanual
        rw [hquiet, List.append_nil] at htold
        cases ih hm hclosed hreconnect hmanual with
        | byHand hhand =>
          have hstays := manualClose_iff_closedByHand cfg past (not_leaving_of_ready hm)
          simp [hmanual, hhand] at hstays
        | exhausted hevents =>
          apply Accounted.exhausted
          rwa [htold]
        | failedToBegin hfailed hkind hlast =>
          apply Accounted.failedToBegin (.stays hfailed hno) hkind
          rwa [htold]

theorem Begun.not_idle {result : Outcome Unit} (h : Begun cfg env s result s' es) : s'.phase ≠ .idle := by
  cases h <;> simp

theorem Lost.not_idle {code : Option Nat} {reason : String} (h : Lost cfg env code reason s s' es) :
    s'.phase ≠ .idle := by
  cases h <;> simp

theorem Move.not_idle (h : Move cfg env s input s' es)
    (hnot : s.phase ≠ .idle ∨ s.mode = .ready ∧ input.isConnect = true) : s'.phase ≠ .idle := by
  cases h with
  | connect _ _ _ hb | reconnect _ _ _ _ _ hb | reopen _ _ hb => exact hb.not_idle
  | refused _ _ hl | lost _ _ hl | failed _ _ hl => exact hl.not_idle
  | ignore _ hp => simp [hp]
  | @skip input hno =>
    rcases hnot with hnot | ⟨hm, hconnect⟩
    · exact hnot
    · refine absurd ?_ hno
      cases input <;> simp_all [Input.isConnect, State.Accepts]
  | _ => simp_all [Input.isConnect, State.draining, State.forsaken]

theorem Wanted.not_idle {run : List (Surroundings × Input)} (h : Wanted cfg run) :
    (State.initial.after cfg run).phase ≠ .idle := by
  obtain ⟨past, env, caller, rest, rfl, hm⟩ := h
  have hmove := (State.initial.after cfg past).step_move cfg env (.connect caller)
  rw [State.after_append, State.after_cons]
  exact State.run_keeps (P := fun _ s => s.phase ≠ .idle) (hmove.not_idle (.inr ⟨hm, rfl⟩))
    (fun hnot hmove => hmove.not_idle (.inl hnot)) rest

/-- A session that waits is never dead without a reason that its subscribers know. -/
theorem never_silently_dead (cfg : Config) (run : List (Surroundings × Input))
    (hm : (State.initial.after cfg run).mode = .ready) : NeverSilentlyDead cfg run := by
  refine ⟨accounted_of_still cfg run hm, fun hwanted hnot => ?_⟩
  have hidle := hwanted.not_idle
  have hclosing := (coherent_of_ready cfg run hm).not_closing
  cases hphase : (State.initial.after cfg run).phase with
  | connecting => exact .inl rfl
  | «open» => exact .inr (.inl rfl)
  | closed =>
    refine .inr (.inr ⟨rfl, ?_⟩)
    rw [hphase] at hnot
    simpa [Option.isSome_iff_ne_none] using hnot
  | idle => exact absurd hphase hidle
  | closing => exact absurd hphase hclosing

def loggedOutRun : List (Surroundings × Input) :=
  lostRun ++ [({ calmAt 3015 with token := none }, .reconnectDue)]

theorem never_silently_dead_loggedOutRun :
    let s := State.initial.after plain loggedOutRun
    s.mode = .ready ∧ s.phase = .closed ∧ s.reconnect = none ∧ s.manualClose = false ∧
      Accounted plain loggedOutRun := by
  have hm : (State.initial.after plain loggedOutRun).mode = .ready := rfl
  have hclosed : (State.initial.after plain loggedOutRun).phase = .closed := by decide +kernel
  have hreconnect : (State.initial.after plain loggedOutRun).reconnect = none := by decide +kernel
  exact ⟨hm, hclosed, hreconnect, rfl, (never_silently_dead plain loggedOutRun hm).dead hclosed hreconnect⟩

end Courier.Session
