import Mathlib.Data.List.Nodup
import Courier.Proofs.Coordinator.Fallback
import Courier.Proofs.Coordinator.Latch

/-! The race between a chain and the time that its ticket gets. Whichever comes first settles the ticket:
the end of the chain before the time is up, and otherwise the timer, just then. A ticket is polled before the
clock moves on from the end of its chain, or from the tick at which its time is up. The chain takes no notice
of all that: it does what it would do if nothing but its own inputs were ever handled. -/

namespace Courier.Coordinator

open Time (Moment)

def Ticking (run : List (Moment × Input)) : Prop := (run.map (·.1.ticks)).Pairwise (· ≤ ·)

instance {run : List (Moment × Input)} : Decidable (Ticking run) :=
  inferInstanceAs (Decidable (List.Pairwise _ _))

namespace State

def InTime (s : State) (now : Moment) : Prop :=
  ∀ ticket ∈ s.tickets, ticket.outcome.isNone → now.ticks ≤ ticket.deadline

/-- Whether some ticket is yet to be polled though its chain has ended. -/
def Unheard (s : State) : Prop := ∃ ticket ∈ s.tickets, ticket.outcome.isNone ∧ ticket.reported.isSome

/-- Whether no input of a run is handled while the time of an open ticket is over, and the clock stands still
while one is yet to be polled. -/
def Prompt (cfg : Config) : State → List (Moment × Input) → Prop
  | _, [] => True
  | s, i :: run =>
    let next := (s.step cfg i.1 i.2).state
    s.InTime i.1 ∧ (next.Unheard → ∀ j ∈ run.head?, j.1.ticks = i.1.ticks) ∧ Prompt cfg next run

instance {s : State} {now : Moment} : Decidable (s.InTime now) :=
  inferInstanceAs (Decidable (∀ ticket ∈ s.tickets, _ → _))

instance {s : State} : Decidable s.Unheard :=
  inferInstanceAs (Decidable (∃ ticket ∈ s.tickets, _ ∧ _))

instance decidablePrompt (cfg : Config) :
    (s : State) → (run : List (Moment × Input)) → Decidable (s.Prompt cfg run)
  | _, [] => isTrue trivial
  | s, i :: run =>
    have : Decidable (Prompt cfg (s.step cfg i.1 i.2).state run) := decidablePrompt cfg _ run
    inferInstanceAs (Decidable (_ ∧ (_ → ∀ j ∈ run.head?, _) ∧ _))

end State

def Input.chain? : Input → Option Nat
  | begin id | exchanged id _ | coded id _ => some id
  | _ => none

/-- The inputs of a run that are for the chain of a ticket. -/
def own (id : Nat) (run : List (Moment × Input)) : List (Moment × Input) :=
  run.filter (·.2.chain? = some id)

def EndsIn (cfg : Config) (id : Nat) (s : State) (run : List (Moment × Input)) (now : Moment)
    (ending : Ending) : Prop :=
  ∃ t input, Handles cfg s run now t input ∧ Ends cfg now t input id ending

structure SameChain (cfg : Config) (id : Nat) (s : State) (run : List (Moment × Input)) (s' : State)
    (run' : List (Moment × Input)) : Prop where
  stage : (s.after cfg run).stage? id = (s'.after cfg run').stage? id
  sent : sent (s.history cfg run) id = sent (s'.history cfg run') id
  ends : ∀ now ending, EndsIn cfg id s run now ending ↔ EndsIn cfg id s' run' now ending

/-- What becomes of a ticket in a run, and of its chain, if its time is up at a tick. -/
structure Race (cfg : Config) (store : Option Credentials) (run : List (Moment × Input)) (id due : Nat) :
    Prop where
  /-- A ticket settles with the end of its chain, or when its time is up. -/
  settles : ∀ {now s input r}, Handles cfg { store } run now s input →
    .settled id r ∈ (s.step cfg now input).shown →
    (now.ticks ≤ due ∧ ∃ m ending, EndsIn cfg id { store } run m ending ∧ m.ticks = now.ticks ∧
      r = ending.result) ∨
      now.ticks = due ∧ r = overtime cfg
  /-- If its chain ends in time, it settles just then, with what the chain has come to. -/
  early : ∀ {m ending}, EndsIn cfg id { store } run m ending → m.ticks < due →
    ∀ {now s input}, Handles cfg { store } run now s input →
      (∀ r, .settled id r ∈ (s.step cfg now input).shown → now.ticks = m.ticks ∧ r = ending.result) ∧
      (m.ticks < now.ticks → s.outcome? id = some ending.result)
  once : ((State.history cfg { store } run).filterMap Record.settled?).count id ≤ 1
  /-- Nobody waits for it any longer. -/
  late : ∀ {now s input}, Handles cfg { store } run now s input → due < now.ticks → (s.outcome? id).isSome
  hears : ∀ {m ending}, EndsIn cfg id { store } run m ending →
    (State.after cfg { store } run).outcome? id = none → ∀ now,
      ((State.after cfg { store } run).step cfg now (.poll id)).shown = [.settled id ending.result]
  fires : (∀ m ending, ¬ EndsIn cfg id { store } run m ending) →
    (State.after cfg { store } run).outcome? id = none → ∀ now : Moment, due ≤ now.ticks →
      ((State.after cfg { store } run).step cfg now (.poll id)).shown = [.settled id (overtime cfg)]
  /-- The chain does what it would do if neither a timer nor anybody else did anything. -/
  alone : ∀ {past now rest}, run = past ++ (now, .begin id) :: rest →
    let s := State.after cfg { store } past
    s.stage? id = some .starting →
      SameChain cfg id s ((now, .begin id) :: rest) s (own id ((now, .begin id) :: rest))
  /-- Its end, whenever that is, makes of the store and the latch what it makes of them in time. -/
  writes : ∀ {now s input ending}, Handles cfg { store } run now s input → Ends cfg now s input id ending →
    (s.step cfg now input).state.kept = (s.marked ending).kept
  keeps : ∀ {now s input}, Handles cfg { store } run now s input → input.chain? = some id →
    (∀ ending, ¬ Ends cfg now s input id ending) → (s.step cfg now input).state.kept = s.kept

variable {cfg : Config} {now : Moment} {s s' t : State} {input : Input} {es : List Effect} {id : Nat}
  {ending : Ending} {stage : Stage} {e : Effect} {run run' past rest : List (Moment × Input)}
  {store : Option Credentials}

theorem handles_cons {i : Moment × Input} : Handles cfg s (i :: run) now t input ↔
    i = (now, input) ∧ t = s ∨ Handles cfg (s.step cfg i.1 i.2).state run now t input := by
  constructor
  · rintro ⟨past, rest, hrun, rfl⟩
    cases past with
    | nil => exact .inl ⟨(List.cons_eq_cons.mp hrun).1, rfl⟩
    | cons j past =>
      obtain ⟨rfl, rfl⟩ := List.cons_eq_cons.mp hrun
      exact .inr ⟨past, rest, rfl, rfl⟩
  · rintro (⟨rfl, rfl⟩ | ⟨past, rest, rfl, rfl⟩)
    · exact ⟨[], run, rfl, rfl⟩
    · exact ⟨i :: past, rest, rfl, rfl⟩

theorem handles_append : Handles cfg s (run ++ run') now t input ↔
    Handles cfg s run now t input ∨ Handles cfg (s.after cfg run) run' now t input := by
  induction run generalizing s with
  | nil =>
    refine (or_iff_right ?_).symm
    rintro ⟨past, rest, hrun, -⟩
    simp at hrun
  | cons i run ih => rw [List.cons_append, handles_cons, handles_cons, ih, or_assoc, State.after_cons]

theorem not_handles_nil : ¬ Handles cfg s [] now t input := by
  rintro ⟨past, rest, hrun, -⟩
  simp at hrun

theorem Handles.mem (h : Handles cfg s run now t input) : (now, input) ∈ run := by
  obtain ⟨past, rest, rfl, -⟩ := h
  simp

theorem mem_records {now' : Moment} : .did now e ∈ records now' input es ↔ now = now' ∧ e ∈ es := by
  simp only [records, List.mem_cons, List.mem_map, Record.did.injEq, reduceCtorEq, false_or]
  constructor
  · rintro ⟨e', he', rfl, rfl⟩
    exact ⟨rfl, he'⟩
  · rintro ⟨rfl, he⟩
    exact ⟨e, he, rfl, rfl⟩

theorem mem_history : .did now e ∈ s.history cfg run ↔
    ∃ t input, Handles cfg s run now t input ∧ e ∈ (t.step cfg now input).shown := by
  induction run generalizing s with
  | nil => simp [State.history, not_handles_nil]
  | cons i run ih =>
    rw [State.history, List.mem_append, mem_records, ih]
    simp only [handles_cons]
    constructor
    · rintro (⟨rfl, he⟩ | ⟨t, input, hhandles, he⟩)
      · exact ⟨s, i.2, .inl ⟨rfl, rfl⟩, he⟩
      · exact ⟨t, input, .inr hhandles, he⟩
    · rintro ⟨t, input, ⟨rfl, rfl⟩ | hhandles, he⟩
      · exact .inl ⟨rfl, he⟩
      · exact .inr ⟨t, input, hhandles, he⟩

theorem State.history_append (s : State) (run run' : List (Moment × Input)) :
    s.history cfg (run ++ run') = s.history cfg run ++ (s.after cfg run).history cfg run' := by
  induction run generalizing s with
  | nil => rfl
  | cons i run ih => rw [List.cons_append, history, history, ih, List.append_assoc, after_cons]

theorem Ticking.before (h : Ticking (past ++ (now, input) :: rest)) {m : Moment} {i : Input}
    (hmem : (m, i) ∈ past) : m.ticks ≤ now.ticks := by
  rw [Ticking, List.map_append, List.pairwise_append] at h
  exact h.2.2 _ (List.mem_map_of_mem hmem) _ List.mem_cons_self

theorem Ticking.from (h : Ticking (past ++ (now, input) :: rest)) {m : Moment} {i : Input}
    (hmem : (m, i) ∈ (now, input) :: rest) : now.ticks ≤ m.ticks := by
  rw [Ticking, List.map_append, List.pairwise_append, List.map_cons, List.pairwise_cons] at h
  rcases List.mem_cons.mp hmem with heq | hmem
  · exact Nat.le_of_eq (congrArg (·.1.ticks) heq).symm
  · exact h.2.1.1 _ (List.mem_map_of_mem hmem)

theorem State.Prompt.from (h : s.Prompt cfg (past ++ rest)) : (s.after cfg past).Prompt cfg rest := by
  induction past generalizing s with
  | nil => exact h
  | cons i past ih => exact ih h.2.2

theorem State.Prompt.inTime (h : s.Prompt cfg run) (hhandles : Handles cfg s run now t input) :
    t.InTime now := by
  obtain ⟨past, rest, rfl, rfl⟩ := hhandles
  exact h.from.1

theorem State.unheard (hopen : s.outcome? id = none) {report : Report} (hreport : s.reported? id = some report) :
    s.Unheard := by
  obtain ⟨ticket, hticket, hreported⟩ := Option.bind_eq_some_iff.mp hreport
  refine ⟨ticket, List.mem_of_find?_eq_some hticket, ?_, by simp [hreported]⟩
  rw [outcome?, hticket] at hopen
  exact Option.isNone_iff_eq_none.mpr hopen

theorem State.InTime.le (h : s.InTime now) {ticket : Ticket} (hticket : s.ticket? id = some ticket)
    (hopen : s.outcome? id = none) : now.ticks ≤ ticket.deadline := by
  refine h ticket (List.mem_of_find?_eq_some hticket) ?_
  rw [outcome?, hticket] at hopen
  exact Option.isNone_iff_eq_none.mpr hopen

theorem Created.settles {caller : Nat} {r : Outcome Unit} (h : Created cfg now caller s s' es)
    (hs : Orderly cfg s) (hr : .settled id r ∈ es) :
    s.outcome? id = none ∧ s'.outcome? id = some r ∧ r = overtime cfg ∧ .created id ∈ es ∧
      Time.limit now.ticks cfg.refreshTimeout ≤ now.ticks := by
  cases h with
  | waiting _ => simp at hr
  | expired hdue =>
    obtain ⟨rfl, rfl⟩ : id = s.tickets.length + 1 ∧ r = overtime cfg := by simpa using hr
    refine ⟨?_, ?_, rfl, by simp, hdue⟩
    · rw [State.outcome?, hs.ticket?_beyond (Nat.lt_succ_self _), Option.bind_none]
    · rw [State.outcome?_settled, if_pos ⟨rfl, by simp [State.ticket?_opened]⟩]

/-- What settles a ticket: what its chain has come to, or its time, which may be up from the start. -/
theorem Move.settles {r : Outcome Unit} (h : Move cfg now s input s' es) (hs : Orderly cfg s)
    (hr : .settled id r ∈ es) :
    s.outcome? id = none ∧ s'.outcome? id = some r ∧
      ((∃ report, s.reported? id = some report ∧ r = report.outcome) ∨ r = overtime cfg ∧
        ((∃ ticket, s.ticket? id = some ticket ∧ ticket.deadline ≤ now.ticks) ∨
          .created id ∈ es ∧ Time.limit now.ticks cfg.refreshTimeout ≤ now.ticks)) := by
  cases h with
  | create _ _ _ hc =>
    obtain ⟨hopen, hout, hr, hcreated⟩ := hc.settles hs hr
    exact ⟨hopen, hout, .inr ⟨hr, .inr hcreated⟩⟩
  | loginCreate hfree hc =>
    obtain ⟨hopen, hout, hr, hcreated⟩ := hc.settles ((hs.frees hfree).congr rfl rfl rfl) hr
    exact ⟨hopen, hout, .inr ⟨hr, .inr hcreated⟩⟩
  | advance ha =>
    have hsender := ha.stage.2
    obtain rfl := List.mem_singleton.mp hr
    cases hsender
  | @hear j ticket report hticket hopen hreport =>
    obtain ⟨rfl, rfl⟩ : id = j ∧ r = report.outcome := by simpa using hr
    refine ⟨by simp [State.outcome?, hticket, hopen], ?_, .inl ⟨report, ?_, rfl⟩⟩
    · rw [State.outcome?_settled, if_pos ⟨rfl, by simp [hticket]⟩]
    · simp [State.reported?, hticket, hreport]
  | @expire j ticket hticket hopen _ hdue =>
    obtain ⟨rfl, rfl⟩ : id = j ∧ r = overtime cfg := by simpa using hr
    refine ⟨by simp [State.outcome?, hticket, hopen], ?_, .inr ⟨rfl, .inl ⟨ticket, hticket, hdue⟩⟩⟩
    rw [State.outcome?_settled, if_pos ⟨rfl, by simp [hticket]⟩]
  | _ => simp at hr

theorem Created.reports {caller : Nat} {report : Report} (h : Created cfg now caller s s' es)
    (hreport : s'.reported? id = some report) : s.reported? id = some report := by
  have hopened : (s.opened cfg now).reported? id = some report := by
    cases h with
    | waiting _ => exact hreport
    | expired _ => rwa [State.reported?_settled] at hreport
  rw [State.reported?_opened] at hopened
  split at hopened
  · cases hopened
  · exact hopened

/-- What a chain has come to is known since its end. -/
theorem Move.reports {report : Report} (h : Move cfg now s input s' es) (hreport : s'.reported? id = some report) :
    s.reported? id = some report ∨ ∃ ending, Ends cfg now s input id ending ∧ report = ending.report := by
  cases h with
  | create _ _ _ hc | loginCreate _ hc => exact .inl (hc.reports hreport)
  | @finish _ j ending he =>
    rw [State.reported?_ended] at hreport
    split at hreport
    case isTrue hid =>
      obtain rfl := hid.1
      exact .inr ⟨ending, he, (Option.some.inj hreport).symm⟩
    case isFalse => exact .inl (by cases ending <;> exact hreport)
  | hear _ _ _ | expire _ _ _ _ => exact .inl (by rwa [State.reported?_settled] at hreport)
  | _ => exact .inl hreport

theorem Ending.result_ne_overtime (ending : Ending) : ending.result ≠ overtime cfg := by
  cases ending <;> nofun

theorem Advances.chain? (h : Advances cfg now s input id stage e) : input.chain? = some id := by
  cases h <;> rfl

theorem Ends.chain? (h : Ends cfg now s input id ending) : input.chain? = some id := by
  cases h <;> rfl

/-- A chain that has begun reads nothing but its own stage. -/
theorem Advances.congr (h : Advances cfg now s input id stage e) (hsame : s'.stage? id = s.stage? id)
    (hbegun : s.stage? id ≠ some .starting) : Advances cfg now s' input id stage e := by
  cases h with
  | refresh hstage _ | ask hstage _ => exact absurd hstage hbegun
  | fallBack hstage he => exact .fallBack (hsame.trans hstage) he
  | logIn hstage => exact .logIn (hsame.trans hstage)

theorem Ends.congr (h : Ends cfg now s input id ending) (hsame : s'.stage? id = s.stage? id) :
    Ends cfg now s' input id ending := by
  cases h with
  | refreshed hstage hc => exact .refreshed (hsame.trans hstage) hc
  | loggedIn hstage hc => exact .loggedIn (hsame.trans hstage) hc
  | refused hstage he => exact .refused (hsame.trans hstage) he
  | noCode hstage => exact .noCode (hsame.trans hstage)
  | crashed hstage => exact .crashed (hsame.trans hstage)

theorem Advances.begun (h : Advances cfg now s input id stage e) : stage ≠ .starting := by
  cases h <;> nofun

/-- An input for a chain that neither goes on nor ends is ignored. -/
theorem Move.ignores (h : Move cfg now s input s' es) (hown : input.chain? = some id)
    (hadvances : ∀ stage e, ¬ Advances cfg now s input id stage e)
    (hends : ∀ ending, ¬ Ends cfg now s input id ending) : s' = s ∧ es = [] := by
  cases h with
  | skip _ => exact ⟨rfl, rfl⟩
  | advance ha =>
    obtain rfl := Option.some.inj (ha.chain?.symm.trans hown)
    exact absurd ha (hadvances _ _)
  | finish he =>
    obtain rfl := Option.some.inj (he.chain?.symm.trans hown)
    exact absurd he (hends _)
  | _ => cases hown

theorem Created.stage? {caller : Nat} (h : Created cfg now caller s s' es) (hid : id ≤ s.tickets.length) :
    s'.stage? id = s.stage? id := by
  have hopened : (s.opened cfg now).stage? id = s.stage? id := by
    rw [State.stage?_opened, if_neg (by omega), Option.or_none]
  cases h <;> exact hopened

/-- What is not for a chain leaves it alone. -/
theorem Move.other (h : Move cfg now s input s' es) (hother : input.chain? ≠ some id)
    (hid : id ≤ s.tickets.length) :
    id ≤ s'.tickets.length ∧ s'.stage? id = s.stage? id ∧ ∀ e ∈ es, e.sender? ≠ some id := by
  cases h with
  | create _ _ _ hc | loginCreate _ hc =>
    exact ⟨by rw [hc.newest.2]; exact Nat.le_succ_of_le hid, hc.stage? hid, fun e he => by
      simp [hc.sends_nothing e he]⟩
  | @advance _ j stage e ha =>
    have hne : j ≠ id := fun heq => hother (heq ▸ ha.chain?)
    refine ⟨hid, ?_, ?_⟩
    · rw [State.stage?_entered]
      cases s.stage? id <;> simp [Ne.symm hne]
    · simpa [ha.stage.2] using hne
  | @finish _ j ending he =>
    have hne : j ≠ id := fun heq => hother (heq ▸ he.chain?)
    have hdropped : ((s.marked ending).dropped j).stage? id = s.stage? id := by
      rw [State.stage?_dropped, if_neg (Ne.symm hne)]
      cases ending <;> rfl
    refine ⟨?_, hdropped, by simp⟩
    rw [(State.ended_marked j ending _).2]
    exact hid
  | hear _ _ _ | expire _ _ _ _ => exact ⟨by simpa [State.settled] using hid, rfl, by simp [Effect.sender?]⟩
  | _ => exact ⟨hid, rfl, by simp [Effect.sender?]⟩

theorem sent_records (now : Moment) (input : Input) (es : List Effect) (id : Nat) :
    sent (records now input es) id = es.filter (·.sender? = some id) := by
  rw [records, sent, List.filterMap_cons, List.filterMap_map]
  induction es with
  | nil => rfl
  | cons e es ih =>
    rw [List.filterMap_cons, List.filter_cons, ← ih]
    by_cases h : e.sender? = some id <;> simp [h]

theorem endsIn_cons {i : Moment × Input} : EndsIn cfg id s (i :: run) now ending ↔
    i.1 = now ∧ Ends cfg i.1 s i.2 id ending ∨ EndsIn cfg id (s.step cfg i.1 i.2).state run now ending := by
  simp only [EndsIn, handles_cons]
  constructor
  · rintro ⟨t, input, ⟨rfl, rfl⟩ | hhandles, hends⟩
    · exact .inl ⟨rfl, hends⟩
    · exact .inr ⟨t, input, hhandles, hends⟩
  · rintro (⟨rfl, hends⟩ | ⟨t, input, hhandles, hends⟩)
    · exact ⟨s, i.2, .inl ⟨rfl, rfl⟩, hends⟩
    · exact ⟨t, input, .inr hhandles, hends⟩

namespace SameChain

/-- Both runs handle the same input for the chain. -/
theorem both {i : Moment × Input}
    (hends : ∀ ending, Ends cfg i.1 s i.2 id ending ↔ Ends cfg i.1 s' i.2 id ending)
    (hsent : (s.step cfg i.1 i.2).shown.filter (·.sender? = some id) =
      (s'.step cfg i.1 i.2).shown.filter (·.sender? = some id))
    (h : SameChain cfg id (s.step cfg i.1 i.2).state run (s'.step cfg i.1 i.2).state run') :
    SameChain cfg id s (i :: run) s' (i :: run') where
  stage := h.stage
  sent := by
    rw [State.history, State.history, sent_append, sent_append, sent_records, sent_records]
    exact congrArg₂ (· ++ ·) hsent h.sent
  ends now ending := by rw [endsIn_cons, endsIn_cons, hends, h.ends]

/-- One run handles an input besides that is not for the chain. -/
theorem left {i : Moment × Input} (hother : i.2.chain? ≠ some id)
    (hsent : ∀ e ∈ (s.step cfg i.1 i.2).shown, e.sender? ≠ some id)
    (h : SameChain cfg id (s.step cfg i.1 i.2).state run s' run') : SameChain cfg id s (i :: run) s' run' where
  stage := h.stage
  sent := by
    rw [State.history, sent_append, sent_records, ← h.sent]
    have hnone : (s.step cfg i.1 i.2).shown.filter (·.sender? = some id) = [] :=
      List.filter_eq_nil_iff.mpr fun e he => by simpa using hsent e he
    exact congrArg (· ++ _) hnone
  ends now ending := by
    rw [endsIn_cons, h.ends]
    exact or_iff_right fun hends => hother hends.2.chain?

end SameChain

/-- An input for a chain creates no ticket. -/
theorem Move.tickets_of_chain (h : Move cfg now s input s' es) (hown : input.chain? = some id) :
    s'.tickets.length = s.tickets.length := by
  cases h with
  | skip _ | advance _ => rfl
  | finish _ => exact (State.ended_marked _ _ _).2
  | _ => cases hown

/-- Two states in which a chain that has begun is at the same stage make the same of an input for it. -/
theorem alike_of_own {i : Moment × Input} (hsame : s'.stage? id = s.stage? id)
    (hbegun : s.stage? id ≠ some .starting) (hown : i.2.chain? = some id) :
    (s'.step cfg i.1 i.2).state.stage? id = (s.step cfg i.1 i.2).state.stage? id ∧
    (s.step cfg i.1 i.2).state.stage? id ≠ some .starting ∧
    (s.step cfg i.1 i.2).shown.filter (·.sender? = some id) =
      (s'.step cfg i.1 i.2).shown.filter (·.sender? = some id) := by
  by_cases hadvances : ∃ stage e, Advances cfg i.1 s i.2 id stage e
  · obtain ⟨stage, e, ha⟩ := hadvances
    have ha' := ha.congr hsame hbegun
    rw [ha.step.1, ha.step.2, ha'.step.1, ha'.step.2, State.stage?_entered_self ha.stage.1,
      State.stage?_entered_self ha'.stage.1]
    exact ⟨rfl, fun h => ha.begun (Option.some.inj h), rfl⟩
  by_cases hends : ∃ ending, Ends cfg i.1 s i.2 id ending
  · obtain ⟨ending, he⟩ := hends
    have he' := he.congr hsame
    rw [he.step, he'.step, he.shown, he'.shown, State.stage?_ended, State.stage?_ended, if_pos rfl, if_pos rfl]
    exact ⟨rfl, nofun, rfl⟩
  obtain ⟨hstay, hquiet⟩ := (s.step_move cfg i.1 i.2).ignores hown (fun stage e h => hadvances ⟨stage, e, h⟩)
    fun ending h => hends ⟨ending, h⟩
  obtain ⟨hstay', hquiet'⟩ := (s'.step_move cfg i.1 i.2).ignores hown
    (fun stage e h => hadvances ⟨stage, e, h.congr hsame.symm (hsame ▸ hbegun)⟩)
    fun ending h => hends ⟨ending, h.congr hsame.symm⟩
  rw [hstay, hstay', hquiet, hquiet']
  exact ⟨hsame, hbegun, rfl⟩

/-- A chain that has begun does the same beside others as by itself. -/
theorem same_chain_own (hs : id ≤ s.tickets.length) (hs' : id ≤ s'.tickets.length)
    (hsame : s'.stage? id = s.stage? id) (hbegun : s.stage? id ≠ some .starting)
    (run : List (Moment × Input)) : SameChain cfg id s run s' (own id run) := by
  induction run generalizing s s' with
  | nil =>
    have hnone (t : State) (now : Moment) (ending : Ending) : ¬ EndsIn cfg id t [] now ending := by
      rintro ⟨t, input, hhandles, -⟩
      exact not_handles_nil hhandles
    exact ⟨hsame.symm, rfl, fun now ending => iff_of_false (hnone _ _ _) (hnone _ _ _)⟩
  | cons i run ih =>
    have hmove := s.step_move cfg i.1 i.2
    by_cases hown : i.2.chain? = some id
    case pos =>
      have hrest : own id (i :: run) = i :: own id run := List.filter_cons_of_pos (by simpa using hown)
      have hends (ending : Ending) : Ends cfg i.1 s i.2 id ending ↔ Ends cfg i.1 s' i.2 id ending :=
        ⟨fun h => h.congr hsame, fun h => h.congr hsame.symm⟩
      obtain ⟨hstage, hbegun', hsent⟩ := alike_of_own hsame hbegun hown
      rw [hrest]
      refine .both hends hsent (ih ?_ ?_ hstage hbegun')
      · rwa [hmove.tickets_of_chain hown]
      · rwa [(s'.step_move cfg i.1 i.2).tickets_of_chain hown]
    case neg =>
      have hrest : own id (i :: run) = own id run := List.filter_cons_of_neg (by simpa using hown)
      obtain ⟨hle, hstage, hsender⟩ := hmove.other hown hs
      rw [hrest]
      exact .left hown hsender (ih hle hs' (hsame.trans hstage.symm) (hstage ▸ hbegun))

/-- A chain does the same beside others as by itself, from its beginning on. -/
theorem same_chain_begin (hs : id ≤ s.tickets.length) (hstage : s.stage? id = some .starting) (now : Moment)
    (rest : List (Moment × Input)) :
    SameChain cfg id s ((now, .begin id) :: rest) s (own id ((now, .begin id) :: rest)) := by
  have hrest : own id ((now, .begin id) :: rest) = (now, .begin id) :: own id rest :=
    List.filter_cons_of_pos (by simp [Input.chain?])
  rw [hrest]
  refine .both (fun _ => Iff.rfl) rfl ?_
  have hadvances : ∃ stage e, Advances cfg now s (.begin id) id stage e := by
    cases htoken : s.store.bind (·.refreshToken) with
    | none => exact ⟨_, _, .ask hstage htoken⟩
    | some token => exact ⟨_, _, .refresh hstage htoken⟩
  obtain ⟨stage, e, ha⟩ := hadvances
  have hentered : (s.entered id stage).stage? id = some stage := State.stage?_entered_self ha.stage.1
  have hknown : id ≤ (s.entered id stage).tickets.length := hs
  rw [ha.step.1]
  refine same_chain_own hknown hknown rfl ?_ rest
  rw [hentered]
  exact fun h => ha.begun (Option.some.inj h)

/-- Once a chain has ended, the clock stands still until its ticket has settled. -/
theorem still_unheard {i : Moment × Input} {report : Report} (hs : Orderly cfg s)
    (hprompt : s.Prompt cfg (i :: run)) (hreport : (s.step cfg i.1 i.2).state.reported? id = some report)
    (hhandles : Handles cfg (s.step cfg i.1 i.2).state run now t input) (hopen : t.outcome? id = none) :
    now.ticks = i.1.ticks := by
  induction run generalizing s i with
  | nil => exact absurd hhandles not_handles_nil
  | cons j run ih =>
    have hs' := (s.step_move cfg i.1 i.2).orderly hs
    -- an outcome would be there to stay
    have hopen' : (s.step cfg i.1 i.2).state.outcome? id = none := by
      obtain ⟨past, rest, -, rfl⟩ := hhandles
      cases hout : (s.step cfg i.1 i.2).state.outcome? id with
      | none => rfl
      | some r => simp [(follows_after hs' past).2.outcome id r hout] at hopen
    have hnext : j.1.ticks = i.1.ticks := hprompt.2.1 (State.unheard hopen' hreport) j rfl
    rcases handles_cons.mp hhandles with ⟨rfl, rfl⟩ | hlater
    · exact hnext
    · have hkept := (((s.step cfg i.1 i.2).state.step_move cfg j.1 j.2).reported hs' hreport).1
      exact (ih hs' hprompt.2.2 hkept hlater).trans hnext

/-- A ticket that is open at the end of its chain settles with that before the clock moves on. -/
theorem settled_still {i : Moment × Input} {report : Report} (hs : Orderly cfg s)
    (hprompt : s.Prompt cfg (i :: run)) (hreport : (s.step cfg i.1 i.2).state.reported? id = some report)
    (hopen : (s.step cfg i.1 i.2).state.outcome? id = none)
    (hhandles : Handles cfg (s.step cfg i.1 i.2).state run now t input) :
    (∀ r, .settled id r ∈ (t.step cfg now input).shown → now.ticks = i.1.ticks ∧ r = report.outcome) ∧
      (i.1.ticks < now.ticks → t.outcome? id = some report.outcome) := by
  have hstill := still_unheard hs hprompt hreport hhandles
  have hs' := (s.step_move cfg i.1 i.2).orderly hs
  generalize (s.step cfg i.1 i.2).state = since at hs' hreport hopen hhandles
  obtain ⟨past, rest, -, rfl⟩ := hhandles
  obtain ⟨hs'', hf⟩ := follows_after hs' past
  have hmove := (since.after cfg past).step_move cfg now input
  refine ⟨fun r hr => ?_, fun hlt => ?_⟩
  · obtain ⟨hopen', hout, -⟩ := hmove.settles hs'' hr
    exact ⟨hstill hopen', (hmove.follows hs'' hf).heard id _ r hopen hreport hout⟩
  · cases hout : (since.after cfg past).outcome? id with
    | none => exact absurd (hstill hout) (by omega)
    | some r => rw [hf.heard id _ r hopen hreport hout]

theorem endsIn_of_reported {report : Report} (h : (State.after cfg { store } run).reported? id = some report) :
    ∃ m ending, EndsIn cfg id { store } run m ending ∧ report = ending.report := by
  induction run using List.reverseRecOn with
  | nil => simp [State.after, State.reported?, State.ticket?] at h
  | append_singleton past i ih =>
    rw [State.after_append] at h
    rcases ((State.after cfg { store } past).step_move cfg i.1 i.2).reports h with hold | ⟨ending, he, hreport⟩
    · obtain ⟨m, ending, ⟨t, input, hhandles, he⟩, hreport⟩ := ih hold
      exact ⟨m, ending, ⟨t, input, hhandles.append [i], he⟩, hreport⟩
    · exact ⟨i.1, ending, ⟨_, i.2, ⟨past, [], rfl, rfl⟩, he⟩, hreport⟩

theorem reported_of_endsIn {m : Moment} (h : EndsIn cfg id { store } run m ending) :
    (State.after cfg { store } run).reported? id = some ending.report := by
  obtain ⟨t, input, ⟨past, rest, rfl, rfl⟩, he⟩ := h
  have hs := orderly_after cfg store past
  rw [State.after_append, State.after_cons]
  exact (follows_after ((State.step_move _ _ _ _).orderly hs) rest).2.reported id _ (he.reported hs).1

section
variable {created : Moment} (hcreated : .did created (.created id) ∈ State.history cfg { store } run)

include hcreated in
theorem deadline_created {m : Moment} (hm : .did m (.created id) ∈ State.history cfg { store } run) :
    Time.limit m.ticks cfg.refreshTimeout = Time.limit created.ticks cfg.refreshTimeout := by
  obtain ⟨-, hl, -⟩ := tracked_after cfg store run
  exact Option.some.inj ((hl.due m id hm).symm.trans (hl.due created id hcreated))

include hcreated in
/-- The deadline of a ticket, as soon as there is the ticket. -/
theorem deadline_ticket (hrun : run = past ++ rest) {ticket : Ticket}
    (hticket : (State.after cfg { store } past).ticket? id = some ticket) :
    ticket.deadline = Time.limit created.ticks cfg.refreshTimeout := by
  obtain ⟨hs, hl, -⟩ := tracked_after cfg store past
  obtain ⟨h0, hle⟩ := (hs.numbered id).mp (by simp [hticket])
  have hmem : id ∈ (State.history cfg { store } past).filterMap Record.created? := by
    rw [hl.created, List.mem_range'_1]
    omega
  obtain ⟨m, hm⟩ := mem_created.mp hmem
  have hdue := hl.due m id hm
  rw [hticket, Option.map_some, Option.some.injEq] at hdue
  rw [hdue]
  refine deadline_created hcreated ?_
  rw [hrun, State.history_append]
  exact List.mem_append_left _ hm

include hcreated in
/-- What settles a ticket, and when. -/
theorem settled_when (hprompt : State.Prompt cfg { store } run) {r : Outcome Unit}
    (hhandles : Handles cfg { store } run now s input) (hr : .settled id r ∈ (s.step cfg now input).shown) :
    (now.ticks ≤ Time.limit created.ticks cfg.refreshTimeout ∧
        ∃ m ending, EndsIn cfg id { store } run m ending ∧ m.ticks = now.ticks ∧ r = ending.result) ∨
      now.ticks = Time.limit created.ticks cfg.refreshTimeout ∧ r = overtime cfg := by
  have hintime := hprompt.inTime hhandles
  have hnow (h : .created id ∈ (s.step cfg now input).shown) :
      Time.limit now.ticks cfg.refreshTimeout = Time.limit created.ticks cfg.refreshTimeout :=
    deadline_created hcreated (mem_history.mpr ⟨s, input, hhandles, h⟩)
  obtain ⟨past, rest, hrun, rfl⟩ := hhandles
  have hs := orderly_after cfg store past
  obtain ⟨hopen, -, ⟨report, hreport, rfl⟩ | ⟨rfl, ⟨ticket, hticket, hdue⟩ | ⟨hfresh, hdue⟩⟩⟩ :=
    ((State.after cfg { store } past).step_move cfg now input).settles hs hr
  · obtain ⟨ticket, hticket, -⟩ := Option.bind_eq_some_iff.mp hreport
    obtain ⟨m, ending, ⟨t, i, ⟨before, between, rfl, rfl⟩, he⟩, rfl⟩ := endsIn_of_reported hreport
    have hle := deadline_ticket hcreated hrun hticket ▸ hintime.le hticket hopen
    rw [List.append_assoc, List.cons_append] at hrun
    subst hrun
    have hlater : Handles cfg ((State.after cfg { store } before).step cfg m i).state
        (between ++ (now, input) :: rest) now _ input := ⟨between, rest, rfl, rfl⟩
    have hbefore := orderly_after cfg store before
    have hstill := still_unheard hbefore hprompt.from (he.reported hbefore).1 hlater
      (by rwa [State.after_append, State.after_cons] at hopen)
    exact .inl ⟨hle, m, ending, ⟨_, i, ⟨before, _, rfl, rfl⟩, he⟩, hstill.symm, rfl⟩
  · rw [← deadline_ticket hcreated hrun hticket]
    exact .inr ⟨Nat.le_antisymm (hintime.le hticket hopen) hdue, rfl⟩
  · -- a ticket that gets no time at all
    rw [← hnow hfresh]
    exact .inr ⟨Nat.le_antisymm (Time.le_limit _ _) hdue, rfl⟩

include hcreated in
/-- A ticket is open while its time is not up and its chain runs. -/
theorem open_before (hticking : Ticking run) (hprompt : State.Prompt cfg { store } run)
    (hhandles : Handles cfg { store } run now s input) (hstage : (s.stage? id).isSome)
    (hearly : now.ticks < Time.limit created.ticks cfg.refreshTimeout) : s.outcome? id = none := by
  obtain ⟨past, rest, rfl, rfl⟩ := hhandles
  obtain ⟨hs, hl, -⟩ := tracked_after cfg store past
  refine (hs.slow hstage).resolve_right fun hover => ?_
  -- it would have settled in time, though not with an end of its chain
  obtain ⟨m, hm⟩ := (hl.settled id _).mpr hover
  obtain ⟨t, input', hpast, hr⟩ := mem_history.mp hm
  have hle : m.ticks ≤ now.ticks := hticking.before hpast.mem
  rcases settled_when hcreated hprompt (hpast.append _) hr with ⟨-, -, ending, -, -, hresult⟩ | ⟨hdue, -⟩
  · exact ending.result_ne_overtime hresult.symm
  · omega

include hcreated in
/-- A ticket whose chain ends in time settles just then, with what the chain has come to. -/
theorem settled_early (hticking : Ticking run) (hprompt : State.Prompt cfg { store } run) {m : Moment}
    (hends : EndsIn cfg id { store } run m ending)
    (hearly : m.ticks < Time.limit created.ticks cfg.refreshTimeout)
    (hhandles : Handles cfg { store } run now s input) :
    (∀ r, .settled id r ∈ (s.step cfg now input).shown → now.ticks = m.ticks ∧ r = ending.result) ∧
      (m.ticks < now.ticks → s.outcome? id = some ending.result) := by
  obtain ⟨t, i, hend, he⟩ := hends
  obtain ⟨stage, hstage, -⟩ := he.stage
  have hopen := open_before hcreated hticking hprompt hend (by simp [hstage]) hearly
  obtain ⟨before, later, rfl, rfl⟩ := hend
  obtain ⟨hs, hl, -⟩ := tracked_after cfg store before
  obtain ⟨hreport, houtcome⟩ := he.reported hs
  rcases handles_append.mp hhandles with hbefore | hafter
  · have hle := hticking.before hbefore.mem
    refine ⟨fun r hr => ?_, fun hlt => by omega⟩
    have hout := (hl.settled id r).mp ⟨now, mem_history.mpr ⟨s, input, hbefore, hr⟩⟩
    simp [hopen] at hout
  rcases handles_cons.mp hafter with ⟨heq, rfl⟩ | hlater
  · obtain ⟨rfl, rfl⟩ := Prod.mk.inj heq
    refine ⟨fun r hr => ?_, fun hlt => absurd hlt (Nat.lt_irrefl _)⟩
    rw [he.shown] at hr
    cases hr
  exact settled_still hs hprompt.from hreport (houtcome.trans hopen) hlater

include hcreated in
theorem settled_after (hticking : Ticking run) (hprompt : State.Prompt cfg { store } run)
    (hhandles : Handles cfg { store } run now s input)
    (hlate : Time.limit created.ticks cfg.refreshTimeout < now.ticks) : (s.outcome? id).isSome := by
  have hintime := hprompt.inTime hhandles
  obtain ⟨past, rest, rfl, rfl⟩ := hhandles
  rw [Option.isSome_iff_ne_none]
  intro hopen
  cases hticket : (State.after cfg { store } past).ticket? id with
  | some ticket =>
    have hle := hintime.le hticket hopen
    rw [deadline_ticket hcreated rfl hticket] at hle
    omega
  | none =>
    -- it is created later, and its time is up then at the earliest
    rw [State.history_append, List.mem_append] at hcreated
    have hle := Time.le_limit created.ticks cfg.refreshTimeout
    rcases hcreated with hpast | hrest
    · obtain ⟨hs, hl, -⟩ := tracked_after cfg store past
      have hknown := (hs.numbered id).mpr (hl.created_le hpast)
      simp [hticket] at hknown
    · obtain ⟨t, input', hhandles, -⟩ := mem_history.mp hrest
      have hfrom := hticking.from hhandles.mem
      omega

end

theorem Advances.kept (h : Advances cfg now s input id stage e) :
    (s.step cfg now input).state.kept = s.kept := by
  rw [h.step.1]
  rfl

theorem Ends.kept (h : Ends cfg now s input id ending) :
    (s.step cfg now input).state.kept = (s.marked ending).kept := by
  rw [h.step]
  rfl

/-- A ticket whose time is so many milliseconds settles when its chain ends or when its time is up, whichever
comes first, and its chain goes the same way in either case. -/
theorem settles_in_time (cfg : Config) (store : Option Credentials) (run : List (Moment × Input)) {ms : Nat}
    (hms : cfg.refreshTimeout.nanos = ms * 1000000) (hticking : Ticking run)
    (hprompt : State.Prompt cfg { store } run) {created : Moment} {id : Nat}
    (hcreated : .did created (.created id) ∈ State.history cfg { store } run) :
    Race cfg store run id (created.ticks + ms) := by
  have hdue := Time.limit_of_millis created.ticks hms
  obtain ⟨-, hl, -⟩ := tracked_after cfg store run
  constructor
  case settles =>
    intro now s input r hhandles hr
    exact hdue ▸ settled_when hcreated hprompt hhandles hr
  case early =>
    intro m ending hends hearly now s input hhandles
    exact settled_early hcreated hticking hprompt hends (hdue ▸ hearly) hhandles
  case once => exact List.nodup_iff_count_le_one.mp hl.once id
  case late =>
    intro now s input hhandles hlate
    exact settled_after hcreated hticking hprompt hhandles (hdue ▸ hlate)
  case hears =>
    intro m ending hends hopen now
    exact ((State.step_move cfg now _ (.poll id)).polled hopen (reported_of_endsIn hends)).2
  case fires =>
    intro hnone hopen now hle
    obtain ⟨ticket, hticket, hdeadline⟩ := Option.map_eq_some_iff.mp (hl.due created id hcreated)
    refine (State.step_move cfg now _ (.poll id)).expires hticket ?_ ?_ (by omega)
    · simpa [State.outcome?, hticket] using hopen
    · cases hreport : ticket.reported with
      | none => rfl
      | some report =>
        have hreported : (State.after cfg { store } run).reported? id = some report := by
          simp [State.reported?, hticket, hreport]
        obtain ⟨m, ending, hends, -⟩ := endsIn_of_reported hreported
        exact absurd hends (hnone m ending)
  case alone =>
    intro past now rest _ s hstage
    have hs := orderly_after cfg store past
    have hle := ((hs.numbered id).mp (hs.chained id (by simp [s, hstage]))).2
    exact same_chain_begin hle hstage now rest
  case writes => exact fun _ hends => hends.kept
  case keeps =>
    intro now s input _ hown hends
    by_cases hadvances : ∃ stage e, Advances cfg now s input id stage e
    · obtain ⟨stage, e, ha⟩ := hadvances
      exact ha.kept
    · have hstay := (s.step_move cfg now input).ignores hown (fun stage e h => hadvances ⟨stage, e, h⟩) hends
      rw [hstay.1]

/-- A refresh whose time is up, and that comes to something after all. -/
def lateLogin : List (Moment × Input) :=
  slowRun ++ [(.ofTicks 150, .coded 1 (.code "c")), (.ofTicks 200, .exchanged 1 (.ok ⟨"new", none, none⟩))]

/-- The ticket settles when its time is up; the credentials are stored a tenth of a second later. -/
theorem settles_in_time_lateLogin :
    Race hurried none lateLogin 1 100 ∧ (State.after hurried {} slowRun).outcome? 1 = some (overtime hurried) ∧
    (State.after hurried {} lateLogin).store = some renewed := by
  have hcreated : .did (.ofTicks 0) (.created 1) ∈ State.history hurried {} lateLogin :=
    .tail _ (.head _)
  have hsettled : (State.after hurried {} slowRun).outcome? 1 = some (overtime hurried) :=
    ((tracked_after hurried none slowRun).2.1.settled 1 _).mp ⟨.ofTicks 100, by rw [history_slowRun]; simp⟩
  have hms : hurried.refreshTimeout.nanos = 100 * 1000000 := by decide
  have hprompt : State.Prompt hurried {} lateLogin := by decide +kernel
  have hrace := settles_in_time hurried none lateLogin hms (by decide) hprompt hcreated
  exact ⟨hrace, hsettled, by decide +kernel⟩

end Courier.Coordinator
