import Courier.Proofs.Session.Staying
import Mathlib.Data.List.Destutter

/-! The published status follows the machine. Phase and counter change in several places, and only what is
published reaches the handles; between any two inputs, drains included, they read what the machine is in.
The phases published on the way are those of a lifecycle: never used, then connections one after the
other, each of which is attempted, may open, and ends. -/

namespace Courier.Session

def Phase.next : Phase → List Phase
  | idle => [connecting, closed]
  | connecting => [.open, closed]
  | .open => [closing, closed]
  | closing => [connecting, closed]
  | closed => [connecting]

def Phase.Goes (p q : Phase) : Prop := q = p ∨ q ∈ p.next

instance : DecidableRel Phase.Goes := fun p q => inferInstanceAs (Decidable (q = p ∨ q ∈ p.next))

def phases (effects : List Effect) : List Phase := (published effects).map Status.phase

@[simp] theorem phases_append (a b : List Effect) : phases (a ++ b) = phases a ++ phases b := by
  simp [phases]

@[simp] theorem phases_visible (es : List Effect) : phases (visible es) = phases es := by
  simp [phases]

/-- What can be said of the phases of a session without repetitions: each can come after the one before,
so that a session is never again as it was at first, and opens only from an attempt to connect. -/
structure Lifecycle (ps : List Phase) : Prop where
  steps : ps.IsChain fun p q => q ∈ p.next
  idle : ∀ before after, ps = before ++ .idle :: after → before = []
  opens : ∀ before after, ps = before ++ .open :: after → before.getLast? = some .connecting

theorem Phase.not_idle_mem_next (p : Phase) : .idle ∉ p.next := by
  cases p <;> decide

theorem Phase.eq_of_open_mem_next {p : Phase} (h : .open ∈ p.next) : p = .connecting := by
  cases p <;> first | rfl | exact absurd h (by decide)

theorem lifecycle_of_steps {ps : List Phase} (hsteps : ps.IsChain fun p q => q ∈ p.next)
    (hhead : ps.head? = some .idle) : Lifecycle ps := by
  -- the phase before a given one can be followed by it
  have hlast {before after : List Phase} {p q : Phase} (h : ps = before ++ q :: after)
      (hp : before.getLast? = some p) : q ∈ p.next :=
    (List.isChain_append.mp (h ▸ hsteps)).2.2 p hp q rfl
  refine ⟨hsteps, fun before after h => ?_, fun before after h => ?_⟩
  · cases hp : before.getLast? with
    | none => exact List.getLast?_eq_none_iff.mp hp
    | some p => exact absurd (hlast h hp) p.not_idle_mem_next
  · cases hp : before.getLast? with
    | none =>
      rw [h, List.getLast?_eq_none_iff.mp hp] at hhead
      cases hhead
    | some p => rw [Phase.eq_of_open_mem_next (hlast h hp)]

theorem head?_destutter' {α : Type} [DecidableEq α] (a : α) (l : List α) :
    (l.destutter' (· ≠ ·) a).head? = some a := by
  induction l with
  | nil => rfl
  | cons b l ih =>
    by_cases hne : a ≠ b
    · rw [List.destutter'_cons_pos _ hne]
      rfl
    · rw [List.destutter'_cons_neg _ hne, ih]

/-- Without repetitions, a list that repeats or steps only steps. -/
theorem isChain_destutter'_of_isChain {α : Type} [DecidableEq α] {R : α → α → Prop} {a : α} {l : List α}
    (h : (a :: l).IsChain fun p q => q = p ∨ R p q) : (l.destutter' (· ≠ ·) a).IsChain R := by
  induction l generalizing a with
  | nil => exact .singleton a
  | cons b l ih =>
    obtain ⟨hab, hrest⟩ := List.isChain_cons_cons.mp h
    by_cases hne : a ≠ b
    · rw [List.destutter'_cons_pos _ hne, List.isChain_cons, head?_destutter']
      refine ⟨fun q hq => ?_, ih hrest⟩
      cases hq
      exact hab.resolve_left hne.symm
    · rw [List.destutter'_cons_neg _ hne]
      rw [← not_not.mp hne] at hrest
      exact ih hrest

variable {cfg : Config} {env : Surroundings} {s s' : State} {input : Input} {es : List Effect}

/-- A session without a socket is not open, nor does it wait for a drain. -/
theorem Coherent.phase_of_no_socket (h : Coherent s) (hk : s.socket = none) :
    s.phase = .idle ∨ s.phase = .connecting ∨ s.phase = .closed := by
  have hopen : s.phase ≠ .open := by simpa [hk] using h.open_iff
  have hclosing := h.not_closing
  cases hp : s.phase <;> simp_all

theorem Begun.chain {result : Outcome Unit} (h : Begun cfg env s result s' es)
    (hp : s.phase = .idle ∨ s.phase = .closing ∨ s.phase = .closed) :
    (s.phase :: phases es).IsChain Phase.Goes := by
  cases h <;> rcases hp with hp | hp | hp <;> simp [phases, hp] <;> decide

theorem Lost.chain {code : Option Nat} {reason : String} (h : Lost cfg env code reason s s' es)
    (hp : s.phase = .connecting ∨ s.phase = .open) : (s.phase :: phases es).IsChain Phase.Goes := by
  cases h <;> rcases hp with hp | hp <;> simp [phases, hp] <;> decide

/-- Every move publishes phases that can come one after the other. -/
theorem Move.chain (h : Move cfg env s input s' es) (hs : Sound s) :
    (s.phase :: phases es).IsChain Phase.Goes := by
  cases h with
  | skip _ | ignore _ _ | dropSend _ _ | drainText _ | disarm _ _ _ _ => exact .singleton _
  | send _ _ _ | text _ _ | ping _ _ _ _ | pingCrash _ _ _ _ => simp [phases]
  | stable _ _ _ => simpa [phases] using .inl rfl
  | replace hm _ hk | closeDrain hm hk | leaveDrain hm hk | reconnectDrain hm _ _ _ hk =>
    simp only [Sound, hm] at hs
    have hp : s.phase = .open := hs.open_iff.mpr (by simp [hk])
    simp [phases, hp]
    decide
  | @connect _ _ _ begun hm hp hk hb =>
    simp only [Sound, hm] at hs
    have hgoes : (s.phase :: phases begun).IsChain Phase.Goes := by
      refine hb.chain ?_
      rcases hs.phase_of_no_socket hk with h | h | h
      · exact .inl h
      · exact absurd h hp
      · exact .inr (.inr h)
    simpa [phases] using hgoes
  | close hm hk | leave hm hk =>
    simp only [Sound, hm] at hs
    rcases hs.phase_of_no_socket hk with hp | hp | hp <;> simp [phases, hp] <;> decide
  | opened hm hpending _ | openCrash hm hpending _ =>
    simp only [Sound, hm] at hs
    have hp : s.phase = .connecting := hs.connecting_iff.mpr (by simp [hpending])
    simp [phases, hp]
    decide
  | refused hm hpending hl =>
    simp only [Sound, hm] at hs
    have hgoes := hl.chain (.inl (hs.connecting_iff.mpr (by simp [hpending])))
    simpa [phases] using hgoes
  | lost hm hk hl | failed hm hk hl =>
    simp only [Sound, hm] at hs
    have hgoes := hl.chain (.inr (hs.open_iff.mpr (by simp [hk])))
    simpa [phases] using hgoes
  | reconnect hm ht _ _ _ hb =>
    simp only [Sound, hm] at hs
    exact hb.chain (.inr (.inr (hs.reconnect (by simp [ht])).1))
  | reopen hm _ hb =>
    simp only [Sound, hm] at hs
    have hgoes := hb.chain (.inr (.inl hs.2.1))
    simpa [phases] using hgoes
  | settle hm _ | shutDown hm _ =>
    simp only [Sound, hm] at hs
    simp [phases, hs.2.1]
    decide

theorem Move.last_phase (h : Move cfg env s input s' es) :
    (phases es).getLast?.getD s.phase = s'.phase := by
  have hlast := congrArg Status.phase h.status
  rw [phases, List.getLast?_map]
  cases hp : (published es).getLast? <;> simpa [hp, State.status] using hlast

/-- The phases published by a run come one after the other. -/
theorem goes_trace (cfg : Config) (run : List (Surroundings × Input)) :
    (.idle :: phases (State.initial.trace cfg run)).IsChain Phase.Goes := by
  rw [← phases_visible]
  refine (State.run_keeps (P := fun past s => Sound s ∧
    (Phase.idle :: phases past).getLast? = some s.phase ∧ (Phase.idle :: phases past).IsChain Phase.Goes)
    ⟨sound_initial, rfl, .singleton _⟩ ?_ run).2.2
  rintro past env s input s' es ⟨hs, hlast, hgoes⟩ hmove
  obtain ⟨hhead, hrest⟩ := List.isChain_cons.mp (hmove.chain hs)
  rw [phases_append, ← List.cons_append]
  refine ⟨hmove.sound hs, ?_, List.isChain_append.mpr ⟨hgoes, hrest, ?_⟩⟩
  · rw [List.getLast?_append, hlast, ← hmove.last_phase]
    cases (phases es).getLast? <;> rfl
  · intro p hp q hq
    rw [hlast] at hp
    cases hp
    exact hhead q hq

/-- Between any two inputs the status that handles read, the one published last, is the machine's phase
and counter, and the phases published until then are those of a lifecycle. -/
theorem status_follows_machine (cfg : Config) (acts : List Act) :
    let l := (Link.ofConfig cfg).after acts
    let effects := State.initial.trace cfg ((Link.ofConfig cfg).inputs acts)
    l.status = ⟨l.machine.phase, l.machine.attempts⟩ ∧
      (Status.initial :: published effects).getLast? = some l.status ∧
      Lifecycle ((.idle :: phases effects).destutter (· ≠ ·)) := by
  intro l effects
  have hstatus : l.status = l.machine.status := Link.status_after cfg acts
  refine ⟨hstatus, ?_, ?_⟩
  · have hmachine : l.machine = State.initial.after cfg ((Link.ofConfig cfg).inputs acts) :=
      (Link.ofConfig cfg).machine_after acts
    rw [List.getLast?_cons, hstatus, hmachine, status_after]
  · exact lifecycle_of_steps (isChain_destutter'_of_isChain (goes_trace cfg _)) (head?_destutter' _ _)

-- a lost connection publishes its last phase twice, the second time with a higher counter
example :
    let ps := .idle :: phases (State.initial.trace { baseUrl := "http://h" } lostRun)
    ps = [.idle, .connecting, .open, .closed, .closed] ∧
      ps.destutter (· ≠ ·) = [.idle, .connecting, .open, .closed] := by
  decide +kernel

end Courier.Session
