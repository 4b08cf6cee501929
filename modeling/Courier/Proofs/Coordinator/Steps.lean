import Courier.Proofs.Coordinator.Moves

/-! `step_move`: every step of a coordinator is one of the moves. -/

namespace Courier.Coordinator

open Time (Moment)

namespace Turn

variable {cfg : Config} {now : Moment}

def shown (t : Turn) : List Effect := visible t.effects

@[simp] theorem shown_start (s : State) : shown { state := s } = [] := rfl

@[simp] theorem shown_mk (s : State) (t : Turn) : shown ⟨s, t.effects⟩ = t.shown := rfl

@[simp] theorem state_act (t : Turn) (e : Effect) : (t.act e).state = t.state := rfl

@[simp] theorem shown_act (t : Turn) (e : Effect) :
    (t.act e).shown = t.shown ++ if e.isLog then [] else [e] := by
  cases h : e.isLog <;> simp [shown, act, visible, h]

@[simp] theorem state_log (t : Turn) (l : LogLine) : (t.log l).state = t.state := rfl

@[simp] theorem shown_log (t : Turn) (l : LogLine) : (t.log l).shown = t.shown := by
  simp [log, Effect.isLog]

@[simp] theorem state_settle (t : Turn) (id : Nat) (r : Outcome Unit) :
    (t.settle cfg now id r).state = t.state.settled cfg now id r := rfl

@[simp] theorem shown_settle (t : Turn) (id : Nat) (r : Outcome Unit) :
    (t.settle cfg now id r).shown = t.shown ++ [.settled id r] := by
  simp [settle, Effect.isLog]

@[simp] theorem state_expire (t : Turn) (id : Nat) :
    (t.expire cfg now id).state = t.state.settled cfg now id (overtime cfg) := rfl

@[simp] theorem shown_expire (t : Turn) (id : Nat) :
    (t.expire cfg now id).shown = t.shown ++ [.settled id (overtime cfg)] := by
  simp [expire, overtime]

@[simp] theorem state_enter (t : Turn) (id : Nat) (stage : Stage) :
    (t.enter id stage).state = t.state.entered id stage := rfl

@[simp] theorem shown_enter (t : Turn) (id : Nat) (stage : Stage) :
    (t.enter id stage).shown = t.shown := rfl

@[simp] theorem state_finish (t : Turn) (id : Nat) (report : Report) :
    (t.finish id report).state = t.state.ended id report := rfl

@[simp] theorem shown_finish (t : Turn) (id : Nat) (report : Report) :
    (t.finish id report).shown = t.shown := rfl

@[simp] theorem state_hear (t : Turn) (id : Nat) (report : Report) :
    (t.hear cfg now id report).state = t.state.settled cfg now id report.outcome := by
  cases report <;> rfl

@[simp] theorem shown_hear (t : Turn) (id : Nat) (report : Report) :
    (t.hear cfg now id report).shown = t.shown ++ [.settled id report.outcome] := by
  cases report <;> simp [hear]

theorem create_created (cfg : Config) (now : Moment) (t : Turn) (caller : Nat) (force : Bool) :
    ∃ es, Created cfg now caller t.state (t.create cfg now caller force).state es ∧
      (t.create cfg now caller force).shown = t.shown ++ es := by
  by_cases hd : Time.limit now.ticks cfg.refreshTimeout ≤ now.ticks
  · have hs : (t.create cfg now caller force).state =
        (t.state.opened cfg now).settled cfg now (t.state.tickets.length + 1) (overtime cfg) := by
      simp [create, hd, State.opened]
    exact ⟨_, by rw [hs]; exact .expired hd, by simp [create, hd, Effect.isLog]⟩
  · have hs : (t.create cfg now caller force).state = t.state.opened cfg now := by
      simp [create, hd, State.opened]
    exact ⟨_, by rw [hs]; exact .waiting (Nat.lt_of_not_le hd), by simp [create, hd, Effect.isLog]⟩

end Turn

namespace State

variable {cfg : Config} {now : Moment} {s : State}

def Does (cfg : Config) (now : Moment) (s : State) (input : Input) (t : Turn) : Prop :=
  Move cfg now s input t.state t.shown

theorem ensureValid_move (caller : Nat) (force : Bool) :
    s.Does cfg now (.ensureValid caller force)
      (Turn.ensureValid cfg now caller force { state := s }) := by
  unfold Does Turn.ensureValid
  cases hslot : s.slot with
  | some id =>
    have hmove : Move cfg now s (.ensureValid caller force) _ _ := .join hslot
    simpa [Effect.isLog] using hmove
  | none =>
    cases hl : s.latched with
    | true =>
      have hmove : Move cfg now s (.ensureValid caller force) _ _ := .refuse hslot hl
      simpa [hl, Effect.isLog] using hmove
    | false =>
      cases hn : force || s.needsRefresh cfg now with
      | true =>
        obtain ⟨es, hc, he⟩ := Turn.create_created cfg now { state := s } caller force
        simpa [hl, hn, he] using Move.create hslot hl hn hc
      | false =>
        have hmove : Move cfg now s (.ensureValid caller force) _ _ := .valid hslot hl hn
        simpa [hl, hn, Effect.isLog] using hmove

theorem login_move (caller : Nat) :
    s.Does cfg now (.login caller) (Turn.login cfg now caller { state := s }) := by
  have hcreate (hfree : ∀ id, s.slot = some id → (s.outcome? id).isSome) :
      s.Does cfg now (.login caller)
        (Turn.create cfg now caller true { state := { s with slot := none, latched := false } }) := by
    obtain ⟨es, hc, he⟩ := Turn.create_created cfg now
      { state := { s with slot := none, latched := false } } caller true
    simpa [Does, he] using Move.loginCreate hfree hc
  unfold Turn.login Turn.ensureValid
  cases hslot : s.slot with
  | none => simpa [hslot] using hcreate (by simp [hslot])
  | some id =>
    cases ho : s.outcome? id with
    | none =>
      have hmove : Move cfg now s (.login caller) _ _ := .loginJoin hslot ho
      simpa [Does, hslot, ho, Option.filter, Effect.isLog] using hmove
    | some r => simpa [hslot, ho, Option.filter] using hcreate (by simp [hslot, ho])

theorem finish_move {input : Input} {id : Nat} {ending : Ending} {t : Turn}
    (h : Ends cfg now s input id ending) (ht : t.state = s.marked ending) (hshown : t.shown = []) :
    s.Does cfg now input (t.finish id ending.report) := by
  have hmove := Move.finish h
  simpa [Does, ht, hshown] using hmove

theorem begin_move (id : Nat) : s.Does cfg now (.begin id) (s.step cfg now (.begin id)) := by
  have hskip : ¬ s.Accepts now (.begin id) → s.Does cfg now (.begin id) { state := s } := .skip
  unfold step
  dsimp only
  split
  case h_1 hstage =>
    split
    case h_1 token htoken =>
      simpa [Does, Effect.isLog] using Move.advance (.refresh hstage htoken)
    case h_2 htoken =>
      simpa [Does, Turn.reauthenticate, Effect.isLog] using Move.advance (.ask hstage htoken)
  case h_2 hno => exact hskip hno

theorem exchanged_move (id : Nat) (result : Outcome Grant) :
    s.Does cfg now (.exchanged id result) (s.step cfg now (.exchanged id result)) := by
  have hskip : ¬ s.Accepts now (.exchanged id result) →
      s.Does cfg now (.exchanged id result) { state := s } := .skip
  unfold step
  dsimp only
  split
  case h_1 token hstage =>
    unfold Turn.refreshed
    split
    case h_1 c hc => exact finish_move (.refreshed hstage hc) rfl (by simp [Turn.keep])
    case h_2 e he =>
      simpa [Does, Turn.reauthenticate, Effect.isLog] using Move.advance (.fallBack hstage he)
  case h_2 hstage =>
    unfold Turn.loggedIn
    split
    case h_1 c hc => exact finish_move (.loggedIn hstage hc) rfl (by simp [Turn.keep])
    case h_2 e he => exact finish_move (.refused hstage he) rfl (by simp)
  case h_3 hrefreshing hlogin =>
    exact hskip (fun h => h.elim hlogin fun ⟨token, htoken⟩ => hrefreshing token htoken)

theorem coded_move (id : Nat) (result : LoginCode) :
    s.Does cfg now (.coded id result) (s.step cfg now (.coded id result)) := by
  by_cases hstage : s.stage? id = some .askingCode
  · unfold step
    dsimp only
    rw [hstage]
    cases result with
    | code code => simpa [Does, Effect.isLog] using Move.advance (.logIn hstage)
    | failed e => exact finish_move (.noCode hstage) rfl (by simp)
    | crashed detail => exact finish_move (.crashed hstage) rfl rfl
  · have hskip : s.Does cfg now (.coded id result) { state := s } := .skip hstage
    have hsame : s.step cfg now (.coded id result) = { state := s } := by
      unfold step
      dsimp only
      split <;> first | rfl | contradiction
    rwa [hsame]

theorem poll_move (id : Nat) : s.Does cfg now (.poll id) (s.step cfg now (.poll id)) := by
  have hskip : ¬ s.Accepts now (.poll id) → s.Does cfg now (.poll id) { state := s } := .skip
  unfold step
  dsimp only
  split
  case h_1 ticket ht =>
    split
    case h_1 hsettled => exact hskip (by simp [Accepts, ht, hsettled])
    case h_2 report hopen hreport =>
      have hmove : Move cfg now s (.poll id) _ _ := .hear ht hopen hreport
      simpa [Does] using hmove
    case h_3 hopen hnone =>
      by_cases hdue : ticket.deadline ≤ now.ticks
      · have hmove : Move cfg now s (.poll id) _ _ := .expire ht hopen hnone hdue
        simpa [Does, hdue] using hmove
      · have hstay := hskip (by simpa [Accepts, ht, hopen, hnone] using hdue)
        simpa [hdue] using hstay
  case h_2 ht => exact hskip (by simp [Accepts, ht])

theorem graceOver_move (id : Nat) :
    s.Does cfg now (.graceOver id) (s.step cfg now (.graceOver id)) := by
  have hskip : ¬ s.Accepts now (.graceOver id) → s.Does cfg now (.graceOver id) { state := s } := .skip
  unfold step
  dsimp only
  split
  case h_1 due ht =>
    by_cases hdue : due ≤ now.ticks ∧ s.slot = some id
    · have hmove : Move cfg now s (.graceOver id) _ _ := .release hdue.2 ht hdue.1
      simpa [Does, hdue] using hmove
    · have hstay := hskip (by simpa [Accepts, ht, and_comm] using hdue)
      simpa [hdue] using hstay
  case h_2 ht => exact hskip (by simp [Accepts, ht])

/-- Every step of a coordinator is one of the moves. -/
theorem step_move (cfg : Config) (now : Moment) (s : State) (input : Input) :
    s.Does cfg now input (s.step cfg now input) := by
  cases input with
  | ensureValid caller force => exact ensureValid_move caller force
  | login caller => exact login_move caller
  | logout => simpa [Does, step] using Move.logout
  | begin id => exact begin_move id
  | exchanged id result => exact exchanged_move id result
  | coded id result => exact coded_move id result
  | poll id => exact poll_move id
  | graceOver id => exact graceOver_move id
  | overwrite credentials => exact Move.overwrite

end State
end Courier.Coordinator
