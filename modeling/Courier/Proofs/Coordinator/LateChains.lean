import Courier.Proofs.Coordinator.SingleFlight

/-! Chains that overlap. A chain whose ticket ran out of time goes on beside that of a later ticket, and
whichever ends last has its way: what a chain stored stays until the next one ends, be it a later one or
one that was late. -/

namespace Courier.Coordinator

open Time (Moment)

def Input.isHost : Input → Bool
  | logout | overwrite _ => true
  | _ => false

/-- Whether the credentials and the latch are as the end of a chain leaves them. -/
def Ending.Stands : Ending → State → Prop
  | stored c, s => s.store = some c ∧ s.latched = false
  | gaveUp _, s => s.store = none ∧ s.latched = true
  | crashed _, _ => False

variable {cfg : Config} {now : Moment} {s s' : State} {input : Input} {es : List Effect}

theorem Ends.step {id : Nat} {ending : Ending} (h : Ends cfg now s input id ending) :
    (s.step cfg now input).state = (s.marked ending).ended id ending.report := by
  cases h with
  | refreshed hstage hc => simp [State.step, hstage, Turn.refreshed, hc, Turn.keep]; rfl
  | loggedIn hstage hc => simp [State.step, hstage, Turn.loggedIn, hc, Turn.keep]; rfl
  | refused hstage he => simp [State.step, hstage, Turn.loggedIn, he, Turn.giveUp]; rfl
  | noCode hstage => simp [State.step, hstage, Turn.giveUp]; rfl
  | crashed hstage => simp [State.step, hstage]; rfl

/-- A chain that does not crash leaves its mark, however late it is. -/
theorem Ends.stands {id : Nat} {ending : Ending} (h : Ends cfg now s input id ending)
    (hending : ∀ detail, ending ≠ .crashed detail) : ending.Stands (s.step cfg now input).state := by
  rw [h.step]
  cases ending with
  | stored c | gaveUp e => exact ⟨rfl, rfl⟩
  | crashed detail => exact absurd rfl (hending detail)

theorem Created.same {caller : Nat} (h : Created cfg now caller s s' es) :
    s'.store = s.store ∧ s'.latched = s.latched := by
  cases h <;> exact ⟨rfl, rfl⟩

/-- What a chain stored stands after a move, unless another chain leaves its mark. -/
theorem Move.stands (h : Move cfg now s input s' es) (hhost : input.isHost = false) {c : Credentials}
    (hc : (Ending.stored c).Stands s) :
    (Ending.stored c).Stands s' ∨
      ∃ j ending, Ends cfg now s input j ending ∧ ∀ detail, ending ≠ .crashed detail := by
  cases h with
  | skip _ | join _ | refuse _ _ | valid _ _ _ | advance _ => exact .inl hc
  | hear _ _ _ | expire _ _ _ _ | release _ _ _ => exact .inl hc
  | create _ _ _ hcreated =>
    exact .inl ⟨hcreated.same.1.trans hc.1, hcreated.same.2.trans hc.2⟩
  | loginJoin _ _ => exact .inl ⟨hc.1, rfl⟩
  | loginCreate _ hcreated => exact .inl ⟨hcreated.same.1.trans hc.1, hcreated.same.2⟩
  | logout | overwrite => simp [Input.isHost] at hhost
  | @finish _ id ending he =>
    cases ending with
    | stored c' | gaveUp e => exact .inr ⟨id, _, he, nofun⟩
    | crashed detail => exact .inl hc

theorem Created.gone {caller k : Nat} (h : Created cfg now caller s s' es) (hk : k ≤ s.tickets.length)
    (hgone : s.stage? k = none) : k ≤ s'.tickets.length ∧ s'.stage? k = none := by
  have hopened : (s.opened cfg now).stage? k = none := by
    rw [State.stage?_opened, hgone, if_neg (by omega)]
    rfl
  rw [h.newest.2]
  refine ⟨by omega, ?_⟩
  cases h <;> exact hopened

/-- A chain that has ended does not come back. -/
theorem Move.gone {k : Nat} (h : Move cfg now s input s' es) (hk : k ≤ s.tickets.length)
    (hgone : s.stage? k = none) : k ≤ s'.tickets.length ∧ s'.stage? k = none := by
  cases h with
  | skip _ | join _ | refuse _ _ | valid _ _ _ | loginJoin _ _ | logout | overwrite | release _ _ _ =>
    exact ⟨hk, hgone⟩
  | create _ _ _ hc | loginCreate _ hc => exact hc.gone hk hgone
  | advance _ => exact ⟨hk, by simp [State.stage?_entered, hgone]⟩
  | hear _ _ _ | expire _ _ _ _ => exact ⟨by simpa [State.settled] using hk, hgone⟩
  | @finish _ id ending _ =>
    have hmarked : (s.marked ending).stage? k = none := by cases ending <;> exact hgone
    constructor
    · rw [(State.ended_marked id ending _).2]
      exact hk
    · rw [State.stage?_ended, hmarked, ite_self]

/-- A chain that runs beside a later ticket has been too slow for its own. -/
theorem Orderly.late {j k : Nat} (hs : Orderly cfg s) (hj : (s.stage? j).isSome) (hjk : j < k)
    (hk : k ≤ s.tickets.length) : s.outcome? j = some (overtime cfg) := by
  obtain ⟨h0, hle⟩ := (hs.numbered j).mp (hs.chained j hj)
  -- the slot is the latest ticket's, so that of `j` has settled while its chain went on
  have hslot : s.slot ≠ some j := fun hslot => by
    have hlatest := (hs.latest j hslot).1
    omega
  rcases hs.slow hj with hnone | hlate
  · simpa [hnone] using hs.settled j h0 hle hslot
  · exact hlate

/-- Whether a chain ends that undoes what the chain of ticket `k` stored: a later one, or an earlier one
whose ticket ran out of time. -/
def Superseded (cfg : Config) (k : Nat) (now : Moment) (s : State) (input : Input) : Prop :=
  ∃ j ending, Ends cfg now s input j ending ∧
    (k < j ∨ j < k ∧ s.outcome? j = some (overtime cfg)) ∧
    ending.Stands (s.step cfg now input).state

def StandsUntil (cfg : Config) (happens : Moment → State → Input → Prop) (c : Credentials) :
    State → List (Moment × Input) → Prop
  | s, [] => (Ending.stored c).Stands s
  | s, i :: run =>
    (Ending.stored c).Stands s ∧
      (happens i.1 s i.2 ∨ StandsUntil cfg happens c (s.step cfg i.1 i.2).state run)

theorem stands_until_superseded_from {k : Nat} {c : Credentials} (run : List (Moment × Input))
    (hrun : ∀ i ∈ run, i.2.isHost = false) {s : State} (hs : Orderly cfg s) (hk : k ≤ s.tickets.length)
    (hgone : s.stage? k = none) (hc : (Ending.stored c).Stands s) :
    StandsUntil cfg (Superseded cfg k) c s run := by
  induction run generalizing s with
  | nil => exact hc
  | cons i run ih =>
    have hmove := s.step_move cfg i.1 i.2
    refine ⟨hc, ?_⟩
    rcases hmove.stands (hrun i (by simp)) hc with hstands | ⟨j, ending, hends, hending⟩
    · obtain ⟨hk', hgone'⟩ := hmove.gone hk hgone
      exact .inr (ih (fun i hi => hrun i (by simp [hi])) (hmove.orderly hs) hk' hgone' hstands)
    · obtain ⟨stage, hstage, -⟩ := hends.stage
      refine .inl ⟨j, ending, hends, ?_, hends.stands hending⟩
      -- the chain of `k` itself is gone, so the one that ends is a later or an earlier one
      rcases Nat.lt_trichotomy k j with hlt | rfl | hlt
      · exact .inl hlt
      · simp [hgone] at hstage
      · exact .inr ⟨hlt, hs.late (by simp [hstage]) hlt hk⟩

/-- What a chain stores stays stored, with the latch off, until another chain ends that started later or
was left running when the time of its ticket was up. -/
theorem stands_until_superseded (cfg : Config) (store : Option Credentials)
    (run later : List (Moment × Input)) {now : Moment} {input : Input} {k : Nat} {c : Credentials}
    (hends : Ends cfg now (State.after cfg { store } run) input k (.stored c))
    (hlater : ∀ i ∈ later, i.2.isHost = false) :
    StandsUntil cfg (Superseded cfg k) c ((State.after cfg { store } run).step cfg now input).state
      later := by
  have hs := orderly_after cfg store run
  obtain ⟨stage, hstage, -⟩ := hends.stage
  have hk := ((hs.numbered k).mp (hs.chained k (by simp [hstage]))).2
  refine stands_until_superseded_from later hlater ((State.step_move cfg now _ input).orderly hs) ?_ ?_
    (hends.stands nofun)
  · rw [hends.step, (State.ended_marked _ _ _).2]
    exact hk
  · rw [hends.step, State.stage?_ended, if_pos rfl]

def staleCredentials : Credentials :=
  ⟨⟨"at-0", by decide, by decide⟩, .ofSeconds 30 (by decide) (by decide), some "rt-0"⟩

/-- The first refresh takes too long, and a second one begins beside it. -/
def overlap : List (Moment × Input) :=
  slowRun ++ [(.ofTicks 300, .graceOver 1), (.ofTicks 400, .ensureValid 1 true), (.ofTicks 400, .begin 2)]

def secondGrant : Grant := ⟨"at-2", none, some "rt-2"⟩

def secondCredentials : Credentials :=
  ⟨⟨"at-2", by decide, by decide⟩, .ofSeconds 7200 (by decide) (by decide), some "rt-2"⟩

def lateFailure : List (Moment × Input) :=
  [(.ofTicks 1000, .exchanged 1 (.error (.auth "refused"))),
    (.ofTicks 1000, .coded 1 (.failed (.auth "unavailable")))]

/-- The second refresh succeeds while the first one is still running. -/
theorem ends_overlap :
    Ends hurried (.ofTicks 400) (State.after hurried { store := some staleCredentials } overlap)
      (.exchanged 2 (.ok secondGrant)) 2 (.stored secondCredentials) := by
  have hstage : (State.after hurried { store := some staleCredentials } overlap).stage? 2 =
      some (.refreshing "rt-0") := rfl
  exact .refreshed hstage rfl

theorem stands_until_superseded_overlap :
    (∀ i ∈ lateFailure, i.2.isHost = false) ∧
    StandsUntil hurried (Superseded hurried 2) secondCredentials
      ((State.after hurried { store := some staleCredentials } overlap).step hurried (.ofTicks 400)
        (.exchanged 2 (.ok secondGrant))).state lateFailure := by
  have hquiet : ∀ i ∈ lateFailure, i.2.isHost = false := by decide
  exact ⟨hquiet, stands_until_superseded hurried _ overlap lateFailure ends_overlap hquiet⟩

/-- It is not so that only a later chain undoes what a chain stored: one that is late may clear it. -/
theorem late_failure_clears :
    ¬ ∀ (cfg : Config) (store : Option Credentials) (run later : List (Moment × Input)) (now : Moment)
        (input : Input) (k : Nat) (c : Credentials),
      (∀ i ∈ run ++ later, i.2.isHost = false) →
      Ends cfg now (State.after cfg { store } run) input k (.stored c) →
      StandsUntil cfg (fun now s input => ∃ j ending, Ends cfg now s input j ending ∧ k < j) c
        ((State.after cfg { store } run).step cfg now input).state later := by
  intro hclaim
  have hstands := hclaim hurried (some staleCredentials) overlap lateFailure (.ofTicks 400)
    (.exchanged 2 (.ok secondGrant)) 2 secondCredentials (by decide) ends_overlap
  obtain ⟨-, ⟨j, ending, hends, hj⟩ | ⟨-, ⟨j, ending, hends, hj⟩ | hstands⟩⟩ := hstands
  · have hends : Ends hurried _ _ (.exchanged 1 (.error (.auth "refused"))) j ending := hends
    cases hends <;> omega
  · have hends : Ends hurried _ _ (.coded 1 (.failed (.auth "unavailable"))) j ending := hends
    cases hends
    omega
  · have hcleared : (State.after hurried { store := some staleCredentials }
        (overlap ++ (.ofTicks 400, .exchanged 2 (.ok secondGrant)) :: lateFailure)).store = none := by
      decide +kernel
    rw [State.after_append] at hcleared
    have hstored := hcleared.symm.trans hstands.1
    simp at hstored

end Courier.Coordinator
