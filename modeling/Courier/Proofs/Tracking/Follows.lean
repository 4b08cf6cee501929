import Courier.Proofs.Session.Unseen
import Courier.Proofs.Tracking.Board
import Courier.Proofs.Tracking.Steps

/-! An order waits for pushes only as long as the session is up, and for ticks only while it is not open. It
looks at the session when it begins to wait and after every event; in between the session does not
change sides without an event, which the order then has still to read. -/

namespace Courier.Session.Hub

variable {α : Type} {h : Hub α} {position : Nat}

theorem le_powerFrom (steps k n : Nat) : k ≤ powerFrom steps k n := by
  induction steps generalizing k with
  | zero => exact Nat.le_refl _
  | succ steps ih =>
    unfold powerFrom
    split
    · exact Nat.le_refl _
    · exact Nat.le_trans (by omega) (ih (2 * k))

theorem kept_ofCapacity (capacity : Nat) : 1 ≤ (ofCapacity capacity : Hub α).kept := le_powerFrom ..

/-- A subscriber with nothing to read has reached the end. -/
theorem tail_le_of_next? (hkept : 1 ≤ h.kept) (hnone : h.next? position = none) : h.tail ≤ position := by
  simp only [next?, Option.map_eq_none_iff, Array.getElem?_eq_none_iff] at hnone
  unfold tail
  omega

theorem le_tail_of_next? {skipped position' : Nat} {a : α}
    (hnext : h.next? position = some (skipped, a, position')) : position' ≤ h.tail := by
  obtain ⟨a', hget, heq⟩ := Option.map_eq_some_iff.mp hnext
  obtain ⟨hlt, -⟩ := Array.getElem?_eq_some_iff.mp hget
  simp only [Prod.mk.injEq] at heq
  obtain ⟨-, -, rfl⟩ := heq
  exact hlt

end Courier.Session.Hub

namespace Courier.Tracking

open Session (Act Hub Link)

structure Sane (l : Link) : Prop where
  status : l.status = l.machine.status
  sound : Session.Sound l.machine
  fits : ∃ g, Session.Fits l.machine g
  kept : 1 ≤ l.hub.kept

structure Order.Follows (l : Link) (o : Order) : Prop where
  position : o.position ≤ l.hub.tail
  pushes : l.hub.tail ≤ o.position → o.mode = .pushes → l.machine.IsUp
  either : l.hub.tail ≤ o.position → o.mode = .either → l.machine.phase ≠ .open

variable {l l' : Link} {o : Order} {env : Session.Surroundings} {input : Session.Input}

theorem Sane.agrees (h : Sane l) (ha : l.Agrees l') : Sane l' := by
  refine ⟨?_, ?_, ?_, ?_⟩
  · rw [ha.status, ha.machine, h.status]
  · rw [ha.machine]
    exact h.sound
  · rw [ha.machine]
    exact h.fits
  · rw [ha.hub]
    exact h.kept

theorem Order.Follows.agrees (h : o.Follows l) (ha : l.Agrees l') : o.Follows l' := by
  obtain ⟨hposition, hpushes, heither⟩ := h
  rw [← ha.hub, ← ha.machine] at *
  exact ⟨hposition, hpushes, heither⟩

theorem Sane.step (h : Sane l) (env : Session.Surroundings) (input : Session.Input) :
    Sane (l.step env input).1 := by
  have hmove := l.machine.step_move l.config env input
  obtain ⟨g, hf⟩ := h.fits
  obtain ⟨g', -, hf'⟩ := hmove.reads h.sound hf
  rw [Link.step_eq h.status]
  exact ⟨rfl, hmove.sound h.sound, ⟨g', hf'⟩, h.kept⟩

theorem Order.Follows.step (ho : o.Follows l) (h : Sane l) (hleft : input ≠ .abandoned)
    (hstarts : Time.Ticker.startLater? env.moment.ticks l.config.heartbeat ≠ none) :
    o.Follows (l.step env input).1 := by
  have hmove := l.machine.step_move l.config env input
  obtain ⟨g, hf⟩ := h.fits
  rw [Link.step_eq h.status]
  generalize l.machine.step l.config env input = turn at hmove ⊢
  obtain ⟨hposition, hpushes, heither⟩ := ho
  have htail := l.hub.tail_pushAll (Session.emitted turn.shown)
  by_cases hquiet : Session.emitted turn.shown = []
  · have hsame : (l.hub.pushAll (Session.emitted turn.shown)).tail = l.hub.tail := by
      rw [htail, hquiet]
      rfl
    refine ⟨?_, ?_, ?_⟩
    · simp only [hsame]
      exact hposition
    · intro hend hmode
      simp only [hsame] at hend
      exact hmove.up h.sound hf hquiet hleft (hpushes hend hmode)
    · intro hend hmode
      simp only [hsame] at hend
      exact hmove.not_open hquiet hstarts (heither hend hmode)
  · -- whatever the order waits for, it has something to read
    have hnews := List.length_pos_iff.mpr hquiet
    have hbehind : o.position < (l.hub.pushAll (Session.emitted turn.shown)).tail := by omega
    refine ⟨Nat.le_of_lt hbehind, ?_, ?_⟩
    · intro hend
      exact absurd hbehind (Nat.not_lt.mpr hend)
    · intro hend
      exact absurd hbehind (Nat.not_lt.mpr hend)

theorem isOpen_iff (h : Sane l) : l.isOpen = true ↔ l.machine.phase = .open := by
  rw [Link.isOpen, h.status]
  exact decide_eq_true_iff

/-- An order that has just looked at the session follows it. -/
theorem Order.follows_of_waiting (h : Sane l) (hposition : o.position ≤ l.hub.tail)
    (hmode : o.mode = .idle ∨ o.mode = .polling ∨ o.mode = waitingMode l.isOpen) : o.Follows l := by
  refine ⟨hposition, ?_, ?_⟩
  · intro _ hpushes
    cases hopen : l.isOpen with
    | true => exact .inl ((isOpen_iff h).mp hopen)
    | false => simp [hpushes, hopen, waitingMode] at hmode
  · intro _ heither
    cases hopen : l.isOpen with
    | true => simp [heither, hopen, waitingMode] at hmode
    | false =>
      intro hphase
      rw [(isOpen_iff h).mpr hphase] at hopen
      cases hopen

/-- A step leaves an order as it is, or the order stops to wait or looks at the session anew. -/
theorem Order.step_cases {o' : Order} {isOpen : Bool} {ticks : Nat} {input : Input}
    (h : (o.step isOpen ticks input).1 = o') :
    o' = o ∨ (o'.mode = .idle ∨ o'.mode = .polling ∨ o'.mode = waitingMode isOpen) ∧
      (o'.position = o.position ∨ ∃ skipped e, input = .event skipped e o'.position) := by
  have hdoes := o.step_does isOpen ticks input
  rw [h] at hdoes
  generalize (o.step isOpen ticks input).2 = effects at hdoes
  cases hdoes with
  | skip _ => exact .inl rfl
  | ask _ | fail _ => exact .inr ⟨.inr (.inr rfl), .inl rfl⟩
  | leave | crash _ _ | answer _ => exact .inr ⟨.inl rfl, .inl rfl⟩
  | hit _ _ => exact .inr ⟨.inl rfl, .inr ⟨_, _, rfl⟩⟩
  | miss _ _ => exact .inr ⟨.inr (.inr rfl), .inr ⟨_, _, rfl⟩⟩
  | poll _ _ => exact .inr ⟨.inr (.inl rfl), .inl rfl⟩

theorem Order.Follows.cue (ho : o.Follows l) (h : Sane l) {c : Cue} {input : Input} {ticks : Nat}
    (hinput : c.input? l.hub o.position = some input) : ((o.step l.isOpen ticks input).1).Follows l := by
  obtain ⟨o', ho'⟩ : ∃ o', (o.step l.isOpen ticks input).1 = o' := ⟨_, rfl⟩
  have hcases := Order.step_cases ho'
  rw [ho']
  clear ho'
  rcases hcases with rfl | ⟨hmode, hposition⟩
  · exact ho
  refine Order.follows_of_waiting h ?_ hmode
  rcases hposition with heq | ⟨skipped, e, rfl⟩
  · rw [heq]
    exact ho.position
  · cases c with
    | read =>
      obtain ⟨⟨skipped', e', position'⟩, hnext, heq⟩ := Option.map_eq_some_iff.mp hinput
      obtain ⟨rfl, rfl, rfl⟩ := Input.event.inj heq
      exact Hub.le_tail_of_next? hnext
    | _ => cases hinput

structure Board.Follows (cfg : Session.Config) (b : Board) : Prop where
  config : b.link.config = cfg
  sane : Sane b.link
  orders : ∀ o, some o ∈ b.orders → o.Follows b.link

theorem starts_of_fits {ticks : Nat} {period : Time.Span} (hpositive : 0 < period.nanos)
    (hfits : Time.fits ticks period = true) : Time.Ticker.startLater? ticks period ≠ none := by
  have hzero : period.nanos ≠ 0 := by omega
  simp [Time.Ticker.startLater?, hzero, hfits]

theorem Sane.act (h : Sane l) (a : Act) : Sane (l.act a) := by
  rcases l.act_cases a with ⟨-, ha⟩ | ⟨env, input, l₀, -, ha, heq⟩
  · exact h.agrees ha
  · rw [heq]
    exact (h.agrees ha).step env input

theorem Order.Follows.act (ho : o.Follows l) (h : Sane l) {a : Act}
    (hleft : ∀ env, a ≠ .meet env .abandoned)
    (hstarts : ∀ env, (Happening.session a).surroundings? = some env →
      Time.Ticker.startLater? env.moment.ticks l.config.heartbeat ≠ none) : o.Follows (l.act a) := by
  rcases l.act_cases a with ⟨-, ha⟩ | ⟨env, input, l₀, hinput, ha, heq⟩
  · exact ho.agrees ha
  obtain ⟨henv, habandoned⟩ := surroundings_of_input? hinput
  rw [heq]
  apply (ho.agrees ha).step (h.agrees ha)
  · intro hinput
    exact hleft env (habandoned hinput)
  · rw [ha.config]
    exact hstarts env henv

/-- It suffices that orders follow the session as it was before something was asked of it. -/
theorem Board.Follows.agrees {cfg : Session.Config} {b : Board} {orders : List (Option Order)}
    (h : b.Follows cfg) (ha : b.link.Agrees l) (horders : ∀ o, some o ∈ orders → o.Follows b.link) :
    Board.Follows cfg { link := l, orders := orders } := by
  refine ⟨ha.config.trans h.config, h.sane.agrees ha, ?_⟩
  intro o ho
  exact (horders o ho).agrees ha

theorem Board.Follows.step {cfg : Session.Config} {b : Board} (h : b.Follows cfg)
    (hpositive : 0 < cfg.heartbeat.nanos) (e : Happening)
    (hfits : ∀ env, e.surroundings? = some env → Time.fits env.moment.ticks cfg.heartbeat = true) :
    (b.step e).Follows cfg := by
  cases e with
  | session a =>
    rcases b.step_session a with heq | ⟨heq, hleft⟩
    · rw [heq]
      exact h
    rw [heq]
    refine ⟨(b.link.machine_act a).2.trans h.config, h.sane.act a, ?_⟩
    intro o ho
    rcases hleft with hleft | hnone
    · apply (h.orders o ho).act h.sane hleft
      intro env henv
      rw [h.config]
      exact starts_of_fits hpositive (hfits env henv)
    · have htracking : b.isTracking = true := List.any_eq_true.mpr ⟨_, ho, rfl⟩
      simp [hnone] at htracking
  | track moment seed id period =>
    have ha := b.link.agrees_enqueue (.send (.subscribe moment.wall seed [channel id]))
    unfold Board.step
    dsimp only
    split
    · rename_i o hstart
      obtain ⟨ticker, -, rfl⟩ := Option.map_eq_some_iff.mp hstart
      apply h.agrees ha
      intro o ho
      rcases List.mem_append.mp ho with ho | ho
      · exact h.orders o ho
      · -- a new order has not been asked yet
        obtain rfl := Option.some.inj (List.mem_singleton.mp ho)
        exact Order.follows_of_waiting h.sane (Nat.le_refl _) (.inl rfl)
    · exact h.agrees ha h.orders
  | cue moment seed i c =>
    unfold Board.step
    dsimp only
    split
    · rename_i o hget
      split
      · rename_i input hinput
        apply h.agrees (Board.agrees_requests moment seed _ b.link)
        intro o' ho'
        rcases List.mem_or_eq_of_mem_set ho' with ho' | ho'
        · exact h.orders o' ho'
        · obtain rfl := Option.some.inj ho'
          have ho := h.orders o (List.mem_of_getElem? hget)
          exact ho.cue h.sane hinput
      · exact h
    · exact h
  | drop moment seed i =>
    unfold Board.step
    dsimp only
    split
    · rename_i o hget
      have ha := b.link.agrees_enqueue (.send (.unsubscribe moment.wall seed [channel o.id]))
      apply h.agrees ha
      intro o' ho'
      rcases List.mem_or_eq_of_mem_set ho' with ho' | ho'
      · exact h.orders o' ho'
      · cases ho'
    · exact h

theorem Board.Follows.after {cfg : Session.Config} {b : Board} (h : b.Follows cfg)
    (hpositive : 0 < cfg.heartbeat.nanos) (run : List Happening)
    (hfits : ∀ env ∈ run.filterMap Happening.surroundings?,
      Time.fits env.moment.ticks cfg.heartbeat = true) : (b.after run).Follows cfg := by
  induction run generalizing b with
  | nil => exact h
  | cons e run ih =>
    apply ih
    · apply h.step hpositive e
      intro env henv
      exact hfits env (List.mem_filterMap.mpr ⟨e, by simp, henv⟩)
    · intro env henv
      obtain ⟨e', he', henv⟩ := List.mem_filterMap.mp henv
      exact hfits env (List.mem_filterMap.mpr ⟨e', by simp [he'], henv⟩)

theorem Board.follows_ofConfig (cfg : Session.Config) : (Board.ofConfig cfg).Follows cfg where
  config := rfl
  sane := ⟨rfl, Session.sound_initial, ⟨.apart, rfl⟩, Hub.kept_ofCapacity _⟩
  orders o ho := by cases ho

/-- Whenever an order waits with nothing left to read, it waits for pushes only while the session is open
or closing, and for ticks only while it is not open. -/
theorem mode_follows_session (cfg : Session.Config) (run : List Happening)
    (hpositive : 0 < cfg.heartbeat.nanos)
    (hfits : ∀ env ∈ run.filterMap Happening.surroundings?,
      Time.fits env.moment.ticks cfg.heartbeat = true) :
    let b := (Board.ofConfig cfg).after run
    ∀ o, some o ∈ b.orders → b.link.hub.next? o.position = none →
      (o.mode = .pushes → b.link.status.phase = .open ∨ b.link.status.phase = .closing) ∧
      (o.mode = .either → b.link.status.phase ≠ .open) := by
  intro b o ho hnone
  have h : b.Follows cfg := (Board.follows_ofConfig cfg).after hpositive run hfits
  have hend := Hub.tail_le_of_next? h.sane.kept hnone
  obtain ⟨-, hpushes, heither⟩ := h.orders o ho
  rw [h.sane.status]
  exact ⟨fun hmode => h.sane.sound.open_or_closing (hpushes hend hmode), heither hend⟩

/-- An order that is asked before the session opens, and that hears of it. -/
def trackedRun : List Happening :=
  [.track (.ofTicks 0) 0 "7" (.ofSeconds 10), .cue (.ofTicks 0) 0 0 .ask, .session (.issue (.connect 0)),
    .session (.take (Session.calmAt 1)), .session (.take (Session.calmAt 1)),
    .session (.meet (Session.calmAt 5) (.dialed (.ok ()))), .cue (.ofTicks 5) 0 0 .read,
    .cue (.ofTicks 5) 0 0 .read]

/-- The session is asked to close, and drains its socket; of that there is no event yet. -/
def closingRun : List Happening :=
  trackedRun ++ [.session (.issue (.close 1)), .session (.take (Session.calmAt 9)),
    .session (.take (Session.calmAt 9))]

theorem mode_follows_closingRun :
    let b := (Board.ofConfig Session.plain).after closingRun
    ∃ o, some o ∈ b.orders ∧ b.link.hub.next? o.position = none ∧ o.mode = .pushes ∧
      b.link.status.phase ≠ .open ∧
      (b.link.status.phase = .open ∨ b.link.status.phase = .closing) := by
  intro b
  have ho : some ⟨"7", 2, ⟨0, .ofSeconds 10⟩, .pushes⟩ ∈ b.orders := by
    have horders : b.orders = [some ⟨"7", 2, ⟨0, .ofSeconds 10⟩, .pushes⟩] := rfl
    simp [horders]
  have hnone : b.link.hub.next? 2 = none :=
    Option.isNone_iff_eq_none.mp (by decide +kernel)
  have hphase : b.link.status.phase ≠ .open := by decide +kernel
  have hfollows := mode_follows_session Session.plain closingRun (by decide) (by decide +kernel) _ ho hnone
  exact ⟨_, ho, hnone, rfl, hphase, hfollows.1 rfl⟩

end Courier.Tracking
