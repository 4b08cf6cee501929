import Courier.Proofs.Coordinator.Logout
import Courier.Proofs.Coordinator.Runs

/-! What the coordinator tells those that ask for valid credentials: the result, or a ticket. A ticket
exists from then on, and has a result once its time is up. -/

namespace Courier.Coordinator

open Time (Moment)

def hears (k : Nat) (v : Option Verdict) : List Effect → Option Verdict
  | [] => v
  | .tell caller verdict :: es => hears k (if caller = k then some verdict else v) es
  | _ :: es => hears k v es

/-- Whether an effect is the sending of a request, or a question to the login. -/
def Effect.isErrand : Effect → Bool
  | .sendRefresh _ _ | .askCode _ | .sendLogin _ _ => true
  | _ => false

theorem hears_visible (k : Nat) (v : Option Verdict) (es : List Effect) :
    hears k v (visible es) = hears k v es := by
  induction es generalizing v with
  | nil => rfl
  | cons e es ih => cases e <;> exact ih _

theorem errands_of_visible {es : List Effect} (h : ∀ e ∈ visible es, e.isErrand = false) :
    ∀ e ∈ es, e.isErrand = false := by
  intro e he
  cases hlog : e.isLog with
  | true => cases e <;> first | rfl | cases hlog
  | false => exact h e (List.mem_filter.mpr ⟨he, by simp [hlog]⟩)

variable {cfg : Config} {now : Moment} {s s' : State} {input : Input} {es : List Effect} {ticket : Nat}

def Input.caller? : Input → Option Nat
  | ensureValid caller _ | login caller => some caller
  | _ => none

/-- A caller is told something only when it asks. -/
theorem Move.hears_of_other {k : Nat} (h : Move cfg now s input s' es) (hother : input.caller? ≠ some k)
    (v : Option Verdict) : hears k v es = v := by
  have hdiffers {caller : Nat} (hcaller : input.caller? = some caller) : caller ≠ k := by
    rintro rfl
    exact hother hcaller
  have hcreated {caller : Nat} {s : State} (hcaller : input.caller? = some caller)
      (hc : Created cfg now caller s s' es) : hears k v es = v := by
    cases hc <;> simp [hears, hdiffers hcaller]
  cases h with
  | join _ | refuse _ _ | valid _ _ _ | loginJoin _ _ => simp [hears, hdiffers rfl]
  | create _ _ _ hc | loginCreate _ hc => exact hcreated rfl hc
  | advance ha => cases ha <;> rfl
  | _ => rfl

theorem ticket?_after (hs : Orderly cfg s) (hticket : (s.ticket? ticket).isSome)
    (run : List (Moment × Input)) : ((s.after cfg run).ticket? ticket).isSome := by
  obtain ⟨hlater, hf⟩ := follows_after hs run
  obtain ⟨hpos, hle⟩ := (hs.numbered ticket).mp hticket
  exact (hlater.numbered ticket).mpr ⟨hpos, Nat.le_trans hle hf.tickets⟩

/-- Whoever asks for valid credentials is told the result, or a ticket to wait for. -/
theorem ensureValid_tells (hs : Orderly cfg s) (now : Moment) (k : Nat) (force : Bool) :
    let turn := s.step cfg now (.ensureValid k force)
    (∀ e ∈ turn.effects, e.isErrand = false) ∧
      ((∃ checked, ∀ v, hears k v turn.effects = some (.now checked)) ∨
        ∃ ticket, (∀ v, hears k v turn.effects = some (.wait ticket)) ∧
          (turn.state.ticket? ticket).isSome) := by
  intro turn
  have hmove := s.step_move cfg now (.ensureValid k force)
  have horderly := hmove.orderly hs
  -- log lines tell nobody anything
  suffices h : (∀ e ∈ turn.shown, e.isErrand = false) ∧
      ((∃ checked, ∀ v, hears k v turn.shown = some (.now checked)) ∨
        ∃ ticket, (∀ v, hears k v turn.shown = some (.wait ticket)) ∧
          (turn.state.ticket? ticket).isSome) by
    simp only [Turn.shown, hears_visible] at h
    exact ⟨errands_of_visible h.1, h.2⟩
  change Move cfg now s (.ensureValid k force) turn.state turn.shown at hmove
  change Orderly cfg turn.state at horderly
  generalize turn.shown = es at hmove
  generalize turn.state = s' at hmove horderly
  cases hmove with
  | skip hno => exact absurd trivial hno
  | join hslot =>
    obtain ⟨hlast, hpos⟩ := hs.latest _ hslot
    exact ⟨by simp [Effect.isErrand], .inr ⟨_, fun v => by simp [hears],
      (hs.numbered _).mpr ⟨hpos, Nat.le_of_eq hlast⟩⟩⟩
  | refuse _ _ | valid _ _ _ => exact ⟨by simp [Effect.isErrand], .inl ⟨_, fun v => if_pos rfl⟩⟩
  | create _ _ _ hc =>
    have hnew : (s'.ticket? (s.tickets.length + 1)).isSome :=
      (horderly.numbered _).mpr ⟨Nat.succ_pos _, Nat.le_of_eq hc.newest.2.symm⟩
    cases hc with
    | waiting _ | expired _ =>
      exact ⟨by simp [Effect.isErrand], .inr ⟨_, fun v => by simp [hears], hnew⟩⟩
  | advance ha => cases ha
  | finish he => cases he

theorem poll_settles {t : Ticket} (ht : s.ticket? ticket = some t) (hdue : t.deadline ≤ now.ticks) :
    ((s.step cfg now (.poll ticket)).state.outcome? ticket).isSome := by
  have hmove := s.step_move cfg now (.poll ticket)
  change Move cfg now s _ (s.step cfg now (.poll ticket)).state _ at hmove
  generalize (s.step cfg now (.poll ticket)).state = s' at hmove
  generalize (s.step cfg now (.poll ticket)).shown = es at hmove
  cases hmove with
  | skip hno =>
    cases hopen : t.outcome with
    | none => exact absurd ⟨t, ht, hopen, .inr hdue⟩ hno
    | some r => simp [State.outcome?, ht, hopen]
  | hear _ _ _ | expire _ _ _ _ => simp [State.outcome?_settled, ht]
  | advance ha => cases ha
  | finish he => cases he

end Courier.Coordinator
