import Mathlib.Data.List.Induction
import Courier.Proofs.Coordinator.Logout

/-! What the latch keeps out. Once a chain has failed for good, nobody gets past the latch and no ticket is
created but for a login, until a chain succeeds or a login comes to anything but such a failure. Chains
and tickets from before the failure go their own way: a chain that runs is not stopped, and who joins a
ticket that was in the slot already gets its outcome. -/

namespace Courier.Coordinator

open Time (Moment)

def Verdict.returned? (s : State) : Verdict → Option (Outcome Unit)
  | now r => some r
  | wait id => s.outcome? id

def IsTerminal (r : Outcome Unit) : Prop := ∃ e, r = (Ending.gaveUp e).result

/-- Whether the open ticket in the slot is that of a chain that has failed for good. -/
structure State.Doomed (s : State) (id : Nat) : Prop where
  slot : s.slot = some id
  unsettled : s.outcome? id = none
  failed : ∃ report, s.reported? id = some report ∧ IsTerminal report.outcome

def loginTickets (cfg : Config) : State → List (Moment × Input) → List Nat
  | _, [] => []
  | s, i :: run =>
    let next := (s.step cfg i.1 i.2).state
    (if i.2.isLogin then next.slot.toList else []) ++ loginTickets cfg next run

/-- Whether a run handles an input, and the moment and the state in which it does. -/
def Handles (cfg : Config) (since : State) (run : List (Moment × Input)) (now : Moment) (s : State)
    (input : Input) : Prop :=
  ∃ past rest, run = past ++ (now, input) :: rest ∧ s = since.after cfg past

/-- Whether something happens in a run that lifts the latch: a chain from before or that of a login succeeds,
a login comes to anything but a failure for good, or it joins the ticket of such a failure. -/
inductive Lifted (cfg : Config) (since : State) (run : List (Moment × Input)) : Prop where
  | stored {now s input id c} : Handles cfg since run now s input → Ends cfg now s input id (.stored c) →
      (since.stage? id).isSome ∨ id ∈ loginTickets cfg since run → Lifted cfg since run
  | login {id r} : id ∈ loginTickets cfg since run → (since.after cfg run).outcome? id = some r →
      ¬ IsTerminal r → Lifted cfg since run
  | joined {now s input id} : Handles cfg since run now s input → input.isLogin = true → s.Doomed id →
      Lifted cfg since run

variable {cfg : Config} {now : Moment} {since s s' : State} {input : Input} {es : List Effect}

/-- Whether the ticket in the slot is open, and its chain has not failed for good. -/
structure State.Undecided (s : State) (id : Nat) : Prop where
  slot : s.slot = some id
  unsettled : s.outcome? id = none
  hopeful : ∀ report, s.reported? id = some report → ¬ IsTerminal report.outcome

/-- Whether a ticket has settled with anything but a failure for good. -/
def State.Spared (s : State) (id : Nat) : Prop := ∃ r, s.outcome? id = some r ∧ ¬ IsTerminal r

theorem State.Undecided.ended {id : Nat} (h : s.Undecided id) (j : Nat) {ending : Ending}
    (hending : ¬ IsTerminal ending.result) : (s.ended j ending.report).Undecided id where
  slot := h.slot
  unsettled := by rw [State.outcome?_ended, h.unsettled]
  hopeful report hreport := by
    rw [State.reported?_ended] at hreport
    split at hreport
    · exact Option.some.inj hreport ▸ hending
    · exact h.hopeful report hreport

theorem State.Undecided.settled {id j : Nat} (h : s.Undecided id) {r : Outcome Unit}
    (hr : j = id → ¬ IsTerminal r) (hj : (s.ticket? j).isSome) :
    (s.settled cfg now j r).Undecided id ∨ (s.settled cfg now j r).Spared id := by
  by_cases hid : j = id
  · subst hid
    exact .inr ⟨r, by rw [State.outcome?_settled, if_pos ⟨rfl, hj⟩], hr rfl⟩
  · refine .inl ⟨h.slot, ?_, fun report hreport => h.hopeful report ?_⟩
    · rw [State.outcome?_settled, if_neg (fun h => hid h.1.symm), h.unsettled]
    · rwa [State.reported?_settled] at hreport

theorem Move.slot {id : Nat} (h : Move cfg now s input s' es) (hid : s'.slot = some id) :
    s.slot = some id ∨ s.tickets.length < id := by
  cases h with
  | create _ _ _ hc | loginCreate _ hc =>
    rw [hc.newest.1, Option.some.injEq] at hid
    exact .inr (hid ▸ Nat.lt_succ_self _)
  | finish _ => exact .inl ((State.ended_marked _ _ _).1.symm.trans hid)
  | release _ _ _ => cases hid
  | _ => exact .inl hid

theorem Created.sends_nothing {caller : Nat} (h : Created cfg now caller s s' es) :
    ∀ e ∈ es, e.sender? = none := by
  cases h <;> simp [Effect.sender?]

theorem loginTickets_append (s : State) (run more : List (Moment × Input)) :
    loginTickets cfg s (run ++ more) =
      loginTickets cfg s run ++ loginTickets cfg (s.after cfg run) more := by
  induction run generalizing s with
  | nil => rfl
  | cons i run ih =>
    rw [List.cons_append, loginTickets, loginTickets, ih, List.append_assoc]
    rfl

theorem mem_loginTickets_append {run : List (Moment × Input)} {id : Nat} (h : id ∈ loginTickets cfg since run)
    (more : List (Moment × Input)) : id ∈ loginTickets cfg since (run ++ more) := by
  rw [loginTickets_append]
  exact List.mem_append_left _ h

theorem Handles.append {run : List (Moment × Input)} (h : Handles cfg since run now s input)
    (more : List (Moment × Input)) : Handles cfg since (run ++ more) now s input := by
  obtain ⟨past, rest, rfl, hs⟩ := h
  exact ⟨past, rest ++ more, by simp, hs⟩

theorem Lifted.append {run : List (Moment × Input)} (h : Lifted cfg since run) (hs : Orderly cfg since)
    (more : List (Moment × Input)) : Lifted cfg since (run ++ more) := by
  cases h with
  | stored hhandles hends hknown =>
    exact .stored (hhandles.append more) hends (hknown.imp_right fun h => mem_loginTickets_append h more)
  | login hid hr hnot =>
    refine .login (mem_loginTickets_append hid more) ?_ hnot
    rw [State.after_append]
    exact (follows_after (follows_after hs run).1 more).2.outcome _ _ hr
  | joined hhandles hinput hdoomed => exact .joined (hhandles.append more) hinput hdoomed

/-- What keeps callers out: the latch, or a login that is still to be decided. -/
structure Barred (since : State) (logins : List Nat) (s : State) : Prop where
  shut : s.latched = true ∨ ∃ id ∈ logins, s.Undecided id
  slot : ∀ id, s.slot = some id → since.slot = some id ∨ id ∈ logins
  new : ∀ id, since.tickets.length < id → id ≤ s.tickets.length → id ∈ logins

variable {logins logins' : List Nat}

/-- A chain that runs ran before, or it is that of a login. -/
theorem Barred.stage (h : Barred since logins s) (hs : Orderly cfg s) (hf : Follows since s) {id : Nat}
    (hid : (s.stage? id).isSome) : (since.stage? id).isSome ∨ id ∈ logins := by
  rcases hf.stage hid with hold | hnew
  · exact .inl hold
  · exact .inr (h.new id hnew ((hs.numbered id).mp (hs.chained id hid)).2)

theorem Ends.reported {id : Nat} {ending : Ending} (h : Ends cfg now s input id ending) (hs : Orderly cfg s) :
    (s.step cfg now input).state.reported? id = some ending.report ∧
      (s.step cfg now input).state.outcome? id = s.outcome? id := by
  obtain ⟨stage, hstage, -⟩ := h.stage
  have hticket : ((s.marked ending).ticket? id).isSome := by
    cases ending <;> exact hs.chained id (by simp [hstage])
  have hmarked : (s.marked ending).outcome? id = s.outcome? id := by cases ending <;> rfl
  rw [h.step, State.reported?_ended, if_pos ⟨rfl, hticket⟩, State.outcome?_ended, hmarked]
  exact ⟨rfl, rfl⟩

def defeatRun : List (Moment × Input) :=
  overlap ++ [(.ofTicks 400, .exchanged 2 (.error (.auth "refused")))]

/-- Whether whoever asks in a run is refused, and nothing is sent but for a login. -/
structure Sealed (cfg : Config) (since : State) (run : List (Moment × Input)) : Prop where
  answers : ∀ now s caller force v r, Handles cfg since run now s (.ensureValid caller force) →
    .tell caller v ∈ (s.step cfg now (.ensureValid caller force)).effects →
    v.returned? (since.after cfg run) = some r → ∃ detail, r = .error (.auth detail)
  sends : ∀ now s input e id, Handles cfg since run now s input →
    e ∈ (s.step cfg now input).effects → e.sender? = some id → id ∈ loginTickets cfg since run

/-- Whether the latch is passed after a chain has failed for good, though no login succeeds. -/
def Passes (cfg : Config) (store : Option Credentials) (run : List (Moment × Input)) (now : Moment)
    (input : Input) (later : List (Moment × Input)) : Prop :=
  let before := State.after cfg { store } run
  let since := (before.step cfg now input).state
  (∃ k e, Ends cfg now before input k (.gaveUp e)) ∧
  (∀ id ∈ loginTickets cfg since later, (since.after cfg later).outcome? id ≠ some (.ok ())) ∧
  ¬ Sealed cfg since later

def lateSuccess : List (Moment × Input) :=
  [(.ofTicks 400, .poll 2), (.ofTicks 600, .graceOver 2), (.ofTicks 1000, .exchanged 1 (.ok secondGrant)),
    (.ofTicks 1000, .ensureValid 2 false)]

end Courier.Coordinator
