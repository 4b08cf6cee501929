import Courier.Proofs.Session.Grammar
import Courier.Proofs.Session.Stability

/-! What a session does that its subscribers do not hear of. It never opens unseen, and a connection that
was open it does not leave for good: as long as nothing is heard, it is open, or a socket is drained
and there will be news in the end. Only the loss of the last handle goes unheard. -/

namespace Courier.Session

/-- Whether a session is open, or drains a socket and will then be heard of. -/
def State.IsUp (s : State) : Prop :=
  s.phase = .open ∨ ∃ socket deadline next, s.mode = .draining socket deadline next ∧ next ≠ .shutDown

variable {cfg : Config} {env : Surroundings} {s s' : State} {input : Input} {es : List Effect}
  {g : Standing}

theorem Sound.open_or_closing (hs : Sound s) (hup : s.IsUp) : s.phase = .open ∨ s.phase = .closing := by
  rcases hup with hopen | ⟨_, _, _, hm, -⟩
  · exact .inl hopen
  · simp only [Sound, hm] at hs
    exact .inr hs.2.1

theorem Begun.is_heard {result : Outcome Unit} (h : Begun cfg env s result s' es) : emitted es ≠ [] := by
  rcases h.heard with ⟨e, heq⟩ | heq <;> simp [heq]

theorem Lost.is_heard {code : Option Nat} {reason : String} (h : Lost cfg env code reason s s' es) :
    emitted es ≠ [] := by
  cases h <;> simp

/-- A session stays up until something is heard of it. -/
theorem Move.up (h : Move cfg env s input s' es) (hs : Sound s) (hf : Fits s g)
    (hquiet : emitted es = []) (hleft : input ≠ .abandoned) (hup : s.IsUp) : s'.IsUp := by
  cases h with
  | skip _ | ignore _ _ | send _ _ _ | dropSend _ _ | text _ _ | drainText _ => exact hup
  | ping _ _ _ _ | stable _ _ _ | disarm _ _ _ _ => exact hup
  | replace _ _ _ | closeDrain _ _ | reconnectDrain _ _ _ _ _ => exact .inr ⟨_, _, _, rfl, by simp⟩
  | openCrash _ _ _ => exact .inl rfl
  | pingCrash hm ht _ _ =>
    simp only [Sound, hm] at hs
    exact .inl (hs.heartbeat_iff.mpr (by simp [ht]))
  | close hm hk =>
    -- there is no connection to leave
    simp only [Sound, hm] at hs
    rcases hup with hopen | ⟨_, _, _, hm', -⟩
    · have hsocket := hs.open_iff.mp hopen
      simp [hk] at hsocket
    · simp [hm] at hm'
  | settle hm _ =>
    simp only [Fits, hm] at hf
    have hactive := hf.2 _ _ rfl
    simp [hactive, farewell] at hquiet
  | shutDown hm _ =>
    simp only [Sound, hm] at hs
    rcases hup with hopen | ⟨_, _, _, hm', hnext⟩
    · simp [hs.2.1] at hopen
    · rw [hm, Mode.draining.injEq] at hm'
      exact absurd hm'.2.2.symm hnext
  | leaveDrain _ _ | leave _ _ => exact absurd rfl hleft
  | opened _ _ _ | reopen _ _ _ | refused _ _ _ | failed _ _ _ => simp at hquiet
  | connect _ _ _ hb | reconnect _ _ _ _ _ hb => exact absurd (by simpa using hquiet) hb.is_heard
  | lost _ _ hl => exact absurd (by simpa using hquiet) hl.is_heard

/-- A session does not open before that is heard, if the heartbeat can start. -/
theorem Move.not_open (h : Move cfg env s input s' es) (hquiet : emitted es = [])
    (hstarts : Time.Ticker.startLater? env.moment.ticks cfg.heartbeat ≠ none) (hno : s.phase ≠ .open) :
    s'.phase ≠ .open := by
  cases h with
  | opened _ _ _ => simp at hquiet
  | openCrash _ _ hnone => exact absurd hnone hstarts
  | connect _ _ _ hb | reconnect _ _ _ _ _ hb | reopen _ _ hb => exact hb.not_open
  | refused _ _ hl | lost _ _ hl | failed _ _ hl => exact hl.not_open
  | skip _ | ignore _ _ | send _ _ _ | dropSend _ _ | text _ _ | drainText _ => exact hno
  | ping _ _ _ _ | pingCrash _ _ _ _ | stable _ _ _ | disarm _ _ _ _ => exact hno
  | _ => simp [State.draining]

end Courier.Session
