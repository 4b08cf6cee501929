import Courier.Proofs.Coordinator.Ledger

/-! One refresh at a time. A ticket answers from its creation until its grace period is over or a login
finds it settled; `Released` reads that off the history. Every ticket outside the slot is released,
which every move keeps, so that whatever happens while a ticket answers finds it in the slot. -/

namespace Courier.Coordinator

open Time (Moment)

def Input.isLogin : Input → Bool
  | login _ => true
  | _ => false

/-- Whether something came after a ticket had settled that it does not outlast: a login, or anything at
a moment at which its grace period is over. -/
def Released (cfg : Config) (past : List Record) (id : Nat) : Prop :=
  ∃ m r m' input, [.did m (.settled id r), .heard m' input].Sublist past ∧
    (input.isLogin = true ∨ Time.deadline m.ticks cfg.ticketGrace ≤ m'.ticks)

/-- Whether a ticket answers at a moment: it was created and it has not settled, or its grace period is
not over and no login came since. -/
structure Answers (cfg : Config) (past : List Record) (now : Moment) (id : Nat) : Prop where
  created : ∃ m, .did m (.created id) ∈ past
  inGrace : ∀ m r, .did m (.settled id r) ∈ past →
    now.ticks < Time.deadline m.ticks cfg.ticketGrace
  unreleased : ¬ Released cfg past id

def Vacated (cfg : Config) (past : List Record) (s : State) : Prop :=
  ∀ id, 0 < id → id ≤ s.tickets.length → s.slot ≠ some id → Released cfg past id

variable {cfg : Config} {now : Moment} {past : List Record} {s s' : State} {input : Input}
  {es : List Effect}

theorem Released.mono {id : Nat} (h : Released cfg past id) (more : List Record) :
    Released cfg (past ++ more) id := by
  obtain ⟨m, r, m', input, hsub, hover⟩ := h
  exact ⟨m, r, m', input, hsub.trans (List.sublist_append_left _ _), hover⟩

/-- A ticket that has settled is released by the input that is handled now. -/
theorem released_now {id : Nat} {m : Moment} {r : Outcome Unit}
    (hm : .did m (.settled id r) ∈ past)
    (hover : input.isLogin = true ∨ Time.deadline m.ticks cfg.ticketGrace ≤ now.ticks) :
    Released cfg (past ++ records now input es) id := by
  refine ⟨m, r, now, input, ?_, hover⟩
  have hlast : [.heard now input].Sublist (records now input es) := by simp [records]
  exact (List.singleton_sublist.mpr hm).append hlast

namespace Vacated

theorem congr (h : Vacated cfg past s) (hslot : s'.slot = s.slot)
    (hlength : s'.tickets.length = s.tickets.length) (more : List Record) :
    Vacated cfg (past ++ more) s' := fun id h0 hle hid =>
  (h id h0 (hlength ▸ hle) (hslot ▸ hid)).mono more

/-- A new ticket takes a slot that is free, or whose ticket is released just then. -/
theorem opens {more : List Record} {newest : State}
    (hbefore : ∀ id, 0 < id → id ≤ s.tickets.length → Released cfg more id)
    (hslot : newest.slot = some (s.tickets.length + 1))
    (hlength : newest.tickets.length = s.tickets.length + 1) : Vacated cfg more newest := by
  intro id h0 hle hid
  have hne : id ≠ s.tickets.length + 1 := fun heq => hid (by rw [hslot, heq])
  exact hbefore id h0 (by omega)

end Vacated

theorem Created.newest {caller : Nat} (h : Created cfg now caller s s' es) :
    s'.slot = some (s.tickets.length + 1) ∧ s'.tickets.length = s.tickets.length + 1 := by
  cases h with
  | waiting _ => exact ⟨rfl, rfl⟩
  | expired _ => exact ⟨rfl, by simp [State.settled, State.opened]⟩

/-- Every move leaves the tickets outside the slot released. -/
theorem Move.vacated (h : Move cfg now s input s' es) (hs : Orderly cfg s) (hl : Ledger cfg past s)
    (hv : Vacated cfg past s) : Vacated cfg (past ++ records now input es) s' := by
  cases h with
  | skip _ | join _ | refuse _ _ | valid _ _ _ => exact hv.congr rfl rfl _
  | loginJoin _ _ | logout | overwrite | advance _ => exact hv.congr rfl rfl _
  | create hslot _ _ hc =>
    exact .opens (fun id h0 hle => (hv id h0 hle (by simp [hslot])).mono _) hc.newest.1 hc.newest.2
  | loginCreate hfree hc =>
    -- the ticket that the login finds in the slot has settled, and the login releases it
    refine .opens (fun id h0 hle => ?_) hc.newest.1 hc.newest.2
    by_cases hid : s.slot = some id
    · obtain ⟨r, hr⟩ := Option.isSome_iff_exists.mp (hfree id hid)
      obtain ⟨m, hm⟩ := (hl.settled id r).mpr hr
      exact released_now hm (.inl rfl)
    · exact (hv id h0 hle hid).mono _
  | finish _ =>
    obtain ⟨hslot, hlength⟩ := State.ended_marked _ _ _
    exact hv.congr hslot hlength _
  | hear _ _ _ | expire _ _ _ _ =>
    refine hv.congr ?_ ?_ _
    · rfl
    · simp [State.settled]
  | @release id due hslot hdue hover =>
    intro id' h0 hle _
    by_cases hid : s.slot = some id'
    · obtain rfl : id = id' := by simpa [hslot] using hid
      obtain ⟨r, hr⟩ := Option.isSome_iff_exists.mp (hs.graced id (by simp [hdue]))
      obtain ⟨m, hm⟩ := (hl.settled id r).mpr hr
      -- the timer that fires is the one that the settlement started
      have hgrace := hl.grace m id r hm
      rw [hdue, Option.some.injEq] at hgrace
      exact released_now hm (.inr (hgrace ▸ hover))
    · exact (hv id' h0 hle hid).mono _

structure SingleFlight (cfg : Config) (past : List Record) (s : State) : Prop where
  /-- Whoever asks while a ticket answers waits for it, and nothing changes. -/
  join : ∀ now id caller force, Answers cfg past now id →
    (s.step cfg now (.ensureValid caller force)).state = s ∧
    visible (s.step cfg now (.ensureValid caller force)).effects = [.tell caller (.wait id)]
  /-- No second ticket is created while one answers, unless a login finds that it has settled. -/
  alone : ∀ now input id id', Answers cfg past now id →
    .created id' ∈ (s.step cfg now input).effects →
    input.isLogin = true ∧ ∃ m r, .did m (.settled id r) ∈ past
  /-- A grace period is no shorter than configured, as far as the clock goes. -/
  span : ∀ m : Moment, Time.fits m.ticks cfg.ticketGrace = true →
    m.ticks * 1000000 + cfg.ticketGrace.nanos ≤ Time.deadline m.ticks cfg.ticketGrace * 1000000
  /-- Each ticket was created once, -/
  created : past.filterMap Record.created? = List.range' 1 s.tickets.length
  /-- it settles once at most, and that is its outcome for good. -/
  once : (past.filterMap Record.settled?).Nodup
  outcome : ∀ id r, (∃ m, .did m (.settled id r) ∈ past) ↔ s.outcome? id = some r
  /-- That is what its chain has come to, or that its time was up. -/
  told : ∀ id r, s.outcome? id = some r →
    r = overtime cfg ∨ ∃ report, s.reported? id = some report ∧ r = report.outcome
  /-- It settles when it is polled after the end of its chain, -/
  heard : ∀ now id report, s.outcome? id = none → s.reported? id = some report →
    visible (s.step cfg now (.poll id)).effects = [.settled id report.outcome]
  /-- or at the latest when its time is up. -/
  prompt : ∀ m now id, .did m (.created id) ∈ past → s.outcome? id = none → s.reported? id = none →
    Time.limit m.ticks cfg.refreshTimeout ≤ now.ticks →
    visible (s.step cfg now (.poll id)).effects = [.settled id (overtime cfg)]
  /-- What was ever sent for a ticket is what one chain sends, as far as that has come. -/
  chain : ∀ m id, .did m (.created id) ∈ past → Sent id (s.stage? id) (sent past id)
  starts : ∀ now id, s.stage? id = some .starting →
    visible (s.step cfg now (.begin id)).effects ≠ []
  owned : ∀ c ∈ s.chains, ∃ m, .did m (.created c.ticket) ∈ past
  single : (s.chains.map (·.ticket)).Nodup
  /-- The end of the grace period of one ticket leaves another one in the slot. -/
  release : ∀ now id id', s.slot = some id → id' ≠ id → (s.step cfg now (.graceOver id')).state = s

theorem Answers.slot {id : Nat} (h : Answers cfg past now id) (hl : Ledger cfg past s)
    (hv : Vacated cfg past s) : s.slot = some id := by
  obtain ⟨m, hm⟩ := h.created
  obtain ⟨h0, hle⟩ := hl.created_le hm
  by_cases hslot : s.slot = some id
  · exact hslot
  · exact absurd (hv id h0 hle hslot) h.unreleased

/-- A move that creates a ticket finds the slot free, or it is a login that finds its ticket settled. -/
theorem Move.creates (h : Move cfg now s input s' es) {id' : Nat} (hid' : .created id' ∈ es) :
    s.slot = none ∨ input.isLogin = true ∧ ∀ id, s.slot = some id → (s.outcome? id).isSome := by
  cases h with
  | create hslot _ _ _ => exact .inl hslot
  | loginCreate hfree _ => exact .inr ⟨rfl, hfree⟩
  | advance ha =>
    have hsender := ha.stage.2
    obtain rfl := List.mem_singleton.mp hid'
    simp [Effect.sender?] at hsender
  | _ => simp at hid'

theorem Move.joins {id caller : Nat} {force : Bool} (h : Move cfg now s (.ensureValid caller force) s' es)
    (hslot : s.slot = some id) : s' = s ∧ es = [.tell caller (.wait id)] := by
  cases h with
  | skip hno => exact absurd trivial hno
  | join hid =>
    rw [hslot, Option.some.injEq] at hid
    exact ⟨rfl, by rw [hid]⟩
  | refuse hnone _ | valid hnone _ _ | create hnone _ _ _ => simp [hslot] at hnone
  | advance ha => cases ha
  | finish he => cases he

theorem State.ticket?_of_reported? {id : Nat} {report : Report} (h : s.reported? id = some report) :
    (s.ticket? id).isSome := by
  obtain ⟨ticket, ht, -⟩ := Option.bind_eq_some_iff.mp h
  rw [ht]
  rfl

theorem Move.polled_settled {id : Nat} {r : Outcome Unit} (h : Move cfg now s (.poll id) s' es)
    (hout : s.outcome? id = some r) : s' = s ∧ es = [] := by
  have hsettled {ticket : Ticket} (ht : s.ticket? id = some ticket) : ticket.outcome ≠ none := by
    intro hopen
    simp [State.outcome?, ht, hopen] at hout
  cases h with
  | skip _ => exact ⟨rfl, rfl⟩
  | hear ht hopen _ => exact absurd hopen (hsettled ht)
  | expire ht hopen _ _ => exact absurd hopen (hsettled ht)
  | advance ha => cases ha
  | finish he => cases he

theorem Move.polled {id : Nat} {report : Report} (h : Move cfg now s (.poll id) s' es)
    (hopen : s.outcome? id = none) (hreport : s.reported? id = some report) :
    s' = s.settled cfg now id report.outcome ∧ es = [.settled id report.outcome] := by
  obtain ⟨ticket, ht, hreported⟩ := Option.bind_eq_some_iff.mp hreport
  have hunsettled : ticket.outcome = none := by simpa [State.outcome?, ht] using hopen
  cases h with
  | skip hno => exact absurd ⟨ticket, ht, hunsettled, .inl (by simp [hreported])⟩ hno
  | hear ht' _ hreported' =>
    obtain rfl := Option.some.inj (ht.symm.trans ht')
    rw [Option.some.inj (hreported.symm.trans hreported')]
    exact ⟨rfl, rfl⟩
  | expire ht' _ hnone _ =>
    obtain rfl := Option.some.inj (ht.symm.trans ht')
    simp [hnone] at hreported
  | advance ha => cases ha
  | finish he => cases he

theorem Move.expires {id : Nat} {ticket : Ticket} (h : Move cfg now s (.poll id) s' es)
    (ht : s.ticket? id = some ticket) (hopen : ticket.outcome = none) (hnone : ticket.reported = none)
    (hdue : ticket.deadline ≤ now.ticks) : es = [.settled id (overtime cfg)] := by
  cases h with
  | skip hno => exact absurd ⟨ticket, ht, hopen, .inr hdue⟩ hno
  | hear ht' _ hreport =>
    obtain rfl := Option.some.inj (ht.symm.trans ht')
    simp [hnone] at hreport
  | expire _ _ _ _ => rfl
  | advance ha => cases ha
  | finish he => cases he

theorem Move.begins {id : Nat} (h : Move cfg now s (.begin id) s' es)
    (hstage : s.stage? id = some .starting) : es ≠ [] := by
  cases h with
  | skip hno => exact absurd hstage hno
  | advance _ => simp
  | finish he => cases he

theorem Move.stays {id id' : Nat} (h : Move cfg now s (.graceOver id') s' es) (hslot : s.slot = some id)
    (hne : id' ≠ id) : s' = s := by
  cases h with
  | skip _ => rfl
  | release hid _ _ =>
    rw [hslot, Option.some.injEq] at hid
    exact absurd hid.symm hne
  | advance ha => cases ha
  | finish he => cases he

theorem tracked_after (cfg : Config) (store : Option Credentials) (run : List (Moment × Input)) :
    let past := State.history cfg { store } run
    let s := State.after cfg { store } run
    Orderly cfg s ∧ Ledger cfg past s ∧ Vacated cfg past s := by
  refine State.run_keeps (P := fun past s => Orderly cfg s ∧ Ledger cfg past s ∧ Vacated cfg past s)
    ⟨.initial store, .initial store, fun id h0 hle => ?_⟩ (fun h hmove => ?_) run
  · exact absurd hle (Nat.not_le.mpr h0)
  · obtain ⟨hs, hl, hv⟩ := h
    exact ⟨hmove.orderly hs, hmove.ledger hs hl, hmove.vacated hs hl hv⟩

/-- After every run, one ticket answers at a time: whoever asks shares its outcome, which is that of a
single chain. -/
theorem single_flight (cfg : Config) (store : Option Credentials) (run : List (Moment × Input)) :
    SingleFlight cfg (State.history cfg { store } run) (State.after cfg { store } run) := by
  obtain ⟨hs, hl, hv⟩ := tracked_after cfg store run
  generalize State.history cfg { store } run = past at hl hv
  generalize State.after cfg { store } run = s at hs hl hv
  constructor
  case join =>
    intro now id caller force h
    have hslot := h.slot hl hv
    exact (s.step_move cfg now (.ensureValid caller force)).joins hslot
  case alone =>
    intro now input id id' h hid'
    have hslot := h.slot hl hv
    have hshown : .created id' ∈ (s.step cfg now input).shown := List.mem_filter.mpr ⟨hid', rfl⟩
    rcases (s.step_move cfg now input).creates hshown with hnone | ⟨hlogin, hfree⟩
    · simp [hslot] at hnone
    · obtain ⟨r, hr⟩ := Option.isSome_iff_exists.mp (hfree id hslot)
      obtain ⟨m, hm⟩ := (hl.settled id r).mpr hr
      exact ⟨hlogin, m, r, hm⟩
  case span => exact fun m => Time.le_deadline m.ticks cfg.ticketGrace
  case created => exact hl.created
  case once => exact hl.once
  case outcome => exact hl.settled
  case told => exact hs.told
  case heard =>
    exact fun now id report hopen hreport => ((s.step_move cfg now (.poll id)).polled hopen hreport).2
  case prompt =>
    intro m now id hm hopen hnone hdue
    have hticket := hl.due m id hm
    obtain ⟨ticket, ht, hdeadline⟩ := Option.map_eq_some_iff.mp hticket
    refine (s.step_move cfg now (.poll id)).expires ht ?_ ?_ (hdeadline ▸ hdue)
    · simpa [State.outcome?, ht] using hopen
    · simpa [State.reported?, ht] using hnone
  case chain =>
    intro m id hm
    obtain ⟨h0, hle⟩ := hl.created_le hm
    exact hl.sent id h0 hle
  case starts => exact fun now id hstage => (s.step_move cfg now (.begin id)).begins hstage
  case owned =>
    intro c hc
    have hstage : (s.stage? c.ticket).isSome := by
      simpa [State.stage?] using ⟨c, hc, rfl⟩
    obtain ⟨h0, hle⟩ := (hs.numbered _).mp (hs.chained _ hstage)
    refine mem_created.mp ?_
    rw [hl.created, List.mem_range'_1]
    omega
  case single => exact hs.single
  case release =>
    exact fun now id id' hslot hne => (s.step_move cfg now (.graceOver id')).stays hslot hne

def hurried : Config := { refreshTimeout := .ofMillis 100 }

/-- A refresh whose time is up before the login has answered. -/
def slowRun : List (Moment × Input) :=
  [(.ofTicks 0, .ensureValid 0 false), (.ofTicks 0, .begin 1), (.ofTicks 100, .poll 1)]

theorem history_slowRun :
    State.history hurried {} slowRun =
      [.heard (.ofTicks 0) (.ensureValid 0 false), .did (.ofTicks 0) (.created 1),
        .did (.ofTicks 0) (.tell 0 (.wait 1)), .heard (.ofTicks 0) (.begin 1),
        .did (.ofTicks 0) (.askCode 1), .heard (.ofTicks 100) (.poll 1),
        .did (.ofTicks 100) (.settled 1 (overtime hurried))] := rfl

/-- The ticket goes on answering for two tenths of a second. -/
theorem single_flight_slowRun :
    let s := State.after hurried {} slowRun
    Answers hurried (State.history hurried {} slowRun) (.ofTicks 299) 1 ∧
    s.outcome? 1 = some (overtime hurried) ∧
    visible (s.step hurried (.ofTicks 299) (.ensureValid 1 true)).effects = [.tell 1 (.wait 1)] := by
  intro s
  have hanswers : Answers hurried (State.history hurried {} slowRun) (.ofTicks 299) 1 := by
    rw [history_slowRun]
    refine ⟨⟨.ofTicks 0, by simp⟩, fun m r hm => ?_, ?_⟩
    · obtain ⟨rfl, rfl⟩ : m = .ofTicks 100 ∧ r = overtime hurried := by simpa using hm
      decide
    · rintro ⟨m, r, m', input, hsub, -⟩
      simp [List.sublist_cons_iff] at hsub
  have hflight := single_flight hurried none slowRun
  have hsettled : s.outcome? 1 = some (overtime hurried) :=
    (hflight.outcome 1 _).mp ⟨.ofTicks 100, by rw [history_slowRun]; simp⟩
  exact ⟨hanswers, hsettled, (hflight.join (.ofTicks 299) 1 1 true hanswers).2⟩

end Courier.Coordinator
