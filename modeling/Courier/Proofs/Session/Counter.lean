import Courier.Proofs.Session.Outputs

/-! How the counter of reconnect attempts moves. A step keeps it, raises it by one where the budget
allows, or begins again from zero, and publishes nothing else on the way. So the counter never leaves
the budget, and it falls exactly where it begins again. -/

namespace Courier.Session

def counters (effects : List Effect) : List Nat := (published effects).map Status.attempts

@[simp] theorem counters_append (a b : List Effect) : counters (a ++ b) = counters a ++ counters b := by
  simp [counters]

@[simp] theorem counters_visible (es : List Effect) : counters (visible es) = counters es := by
  simp [counters]

def lastCounter (effects : List Effect) : Nat := (counters effects).getLast?.getD 0

def State.Resets (cfg : Config) (env : Surroundings) (s : State) : Input → Prop
  | .connect _ =>
    s.mode = .ready ∧ s.phase ≠ .connecting ∧ (s.manualClose = true ∨ cfg.maxAttempts ≤ s.attempts)
  | .stabilityDue => s.mode = .ready ∧ ∃ due, s.stability = some due ∧ due ≤ env.moment.ticks
  | _ => False

/-- What becomes of a counter in one step, and the counters that are published meanwhile. -/
inductive Counts (cfg : Config) (n : Nat) (resets : Prop) : List Nat → Nat → Prop where
  | keeps {cs} : ¬ resets → (∀ c ∈ cs, c = n) → Counts cfg n resets cs n
  | climbs : ¬ resets → n < cfg.maxAttempts → Counts cfg n resets [n, n + 1] (n + 1)
  | restarts {cs} : resets → (∀ c ∈ cs, c = 0) → Counts cfg n resets cs 0

variable {cfg : Config} {env : Surroundings} {s s' : State} {input : Input} {es : List Effect}

theorem Begun.attempts {result : Outcome Unit} (h : Begun cfg env s result s' es) :
    s'.attempts = s.attempts := by
  cases h <;> rfl

theorem Begun.counters {result : Outcome Unit} (h : Begun cfg env s result s' es) :
    counters es = [s.attempts] := by
  rw [Session.counters, h.status, ← h.attempts]
  rfl

theorem Lost.counts {code : Option Nat} {reason : String} {resets : Prop}
    (h : Lost cfg env code reason s s' es) (hno : ¬ resets) :
    Counts cfg s.attempts resets (counters es) s'.attempts := by
  cases h with
  | manual _ | exhausted _ _ => exact .keeps hno (by simp [counters])
  | scheduled _ hlt => exact .climbs hno hlt

theorem State.counts_renewed {caller : Nat} {cs : List Nat} (hm : s.mode = .ready)
    (hphase : s.phase ≠ .connecting) (hcs : ∀ c ∈ cs, c = (s.renewed cfg).attempts) :
    Counts cfg s.attempts (s.Resets cfg env (.connect caller)) cs (s.renewed cfg).attempts := by
  by_cases hr : s.manualClose = true ∨ cfg.maxAttempts ≤ s.attempts
  · have hzero : (s.renewed cfg).attempts = 0 := by simp [renewed, hr]
    rw [hzero] at hcs ⊢
    exact .restarts ⟨hm, hphase, hr⟩ hcs
  · have hkept : (s.renewed cfg).attempts = s.attempts := by simp [renewed, hr]
    rw [hkept] at hcs ⊢
    exact .keeps (fun h => hr h.2.2) hcs

theorem EndsDrain.not_resets {deadline : Nat} (h : EndsDrain env deadline input) :
    ¬ s.Resets cfg env input := by
  cases input with
  | connect _ | stabilityDue => exact h.elim
  | _ => exact id

theorem Move.counts (h : Move cfg env s input s' es) :
    Counts cfg s.attempts (s.Resets cfg env input) (counters es) s'.attempts := by
  cases h with
  | @skip input hno =>
    refine .keeps (fun hr => hno ?_) (by simp [counters])
    -- an input that resets the counter can arrive
    cases input with
    | connect _ => simp [State.Accepts, hr.1]
    | stabilityDue => simpa only [State.Accepts, hr.1] using hr.2
    | _ => exact hr.elim
  | ignore _ hphase => exact .keeps (fun hr => hr.2.1 hphase) (by simp [counters])
  | replace hm hphase _ => exact State.counts_renewed hm hphase (by simp [counters])
  | connect hm hphase _ hb =>
    rw [hb.attempts]
    refine State.counts_renewed hm hphase ?_
    rw [counters_append, hb.counters]
    simp [counters]
  | refused _ _ hl | lost _ _ hl | failed _ _ hl => exact hl.counts id
  | stable hm ht hdue => exact .restarts ⟨hm, _, ht, hdue⟩ (by simp [counters])
  | reconnect _ _ _ _ _ hb =>
    rw [hb.attempts]
    exact .keeps id (by simp [hb.counters])
  | reopen _ hend hb =>
    rw [hb.attempts]
    refine .keeps hend.not_resets ?_
    rw [counters_append, counters_append, hb.counters]
    simp [counters]
  | settle _ hend | shutDown _ hend => exact .keeps hend.not_resets (by simp [counters])
  | _ => exact .keeps id (by simp [counters])

namespace Counts

variable {n m : Nat} {cs : List Nat} {resets : Prop}

theorem within (h : Counts cfg n resets cs m) (hn : n ≤ cfg.maxAttempts) :
    m ≤ cfg.maxAttempts ∧ ∀ c ∈ cs, c ≤ cfg.maxAttempts := by
  cases h with
  | keeps _ hcs =>
    refine ⟨hn, fun c hc => ?_⟩
    rwa [hcs c hc]
  | climbs _ hlt =>
    refine ⟨hlt, fun c hc => ?_⟩
    simp only [List.mem_cons, List.not_mem_nil, or_false] at hc
    omega
  | restarts _ hcs =>
    refine ⟨Nat.zero_le _, fun c hc => ?_⟩
    rw [hcs c hc]
    exact Nat.zero_le _

theorem pairwise_of_const (h : ∀ c ∈ cs, c = n) : (n :: cs).Pairwise (· ≤ ·) := by
  rw [List.eq_replicate_of_mem h, ← List.replicate_succ]
  exact List.pairwise_replicate.mpr (.inr (Nat.le_refl n))

theorem pairwise (h : Counts cfg n resets cs m) (hno : ¬ resets) : (n :: cs).Pairwise (· ≤ ·) := by
  cases h with
  | keeps _ hcs => exact pairwise_of_const hcs
  | climbs _ _ => simp
  | restarts hr _ => exact absurd hr hno

theorem eq_zero (h : Counts cfg n resets cs m) (hr : resets) : m = 0 ∧ ∀ c ∈ cs, c = 0 := by
  cases h with
  | keeps hno _ | climbs hno _ => exact absurd hr hno
  | restarts _ hcs => exact ⟨rfl, hcs⟩

theorem falls_iff (h : Counts cfg n resets cs m) (hlast : cs.getLast?.getD n = m) :
    ¬ (n :: cs).Pairwise (· ≤ ·) ↔ 0 < n ∧ resets := by
  constructor
  · intro hfalls
    have hr : resets := Classical.byContradiction fun hno => hfalls (h.pairwise hno)
    refine ⟨Nat.pos_of_ne_zero fun hn => hfalls ?_, hr⟩
    rw [hn]
    exact pairwise_of_const (h.eq_zero hr).2
  · rintro ⟨hpos, hr⟩ hpairwise
    obtain ⟨rfl, hcs⟩ := h.eq_zero hr
    -- the last counter is zero, so it is not the one from before
    cases hlast' : cs.getLast? with
    | none =>
      have hsame : n = 0 := by simpa [hlast'] using hlast
      omega
    | some c =>
      have hmem := List.mem_of_getLast? hlast'
      have hle := (List.pairwise_cons.mp hpairwise).1 c hmem
      have hzero := hcs c hmem
      omega

end Counts

theorem Move.last_counter (h : Move cfg env s input s' es) :
    (counters es).getLast?.getD s.attempts = s'.attempts := by
  have hlast := congrArg Status.attempts h.status
  rw [counters, List.getLast?_map]
  cases hp : (published es).getLast? <;> simpa [hp, State.status] using hlast

theorem lastCounter_after (cfg : Config) (run : List (Surroundings × Input)) :
    lastCounter (State.initial.trace cfg run) = (State.initial.after cfg run).attempts := by
  have hlast := congrArg Status.attempts (status_after cfg run)
  rw [lastCounter, counters, List.getLast?_map]
  cases hp : (published (State.initial.trace cfg run)).getLast? <;>
    simpa [hp, State.status, Status.initial] using hlast

theorem attempts_within (cfg : Config) (run : List (Surroundings × Input)) :
    (State.initial.after cfg run).attempts ≤ cfg.maxAttempts ∧
    ∀ c ∈ counters (State.initial.trace cfg run), c ≤ cfg.maxAttempts := by
  rw [← counters_visible]
  refine State.run_keeps (P := fun past s => s.attempts ≤ cfg.maxAttempts ∧
    ∀ c ∈ counters past, c ≤ cfg.maxAttempts) ⟨Nat.zero_le _, by simp [counters]⟩ (fun h hmove => ?_) run
  obtain ⟨hle, hcs⟩ := hmove.counts.within h.1
  refine ⟨hle, fun c hc => ?_⟩
  rw [counters_append] at hc
  rcases List.mem_append.mp hc with hc | hc
  · exact h.2 c hc
  · exact hcs c hc

end Courier.Session
