import Courier.Proofs.Session.Silence

/-! The grammar of the events of a session. `Reads` is an automaton that reads them one by one; every
move takes it from a standing that fits the state to one that fits the next (`Move.reads`). What
subscribers rely on is then read off its runs: attempts and openings are each followed by one end, a
loss is followed by what comes of it, and whoever wanted the end hears of no attempt to reconnect. -/

namespace Courier.Session

inductive Standing where
  /-- No attempt has begun, or the last one is over. -/
  | apart
  | dialing
  | live
  /-- Told of a loss, but not yet of what follows. -/
  | lost
  /-- Told that no attempts are left, but not yet of the error. -/
  | spent

namespace Standing

def IsUp : Standing → Prop
  | dialing | live => True
  | _ => False

def IsSettled : Standing → Prop
  | lost | spent => False
  | _ => True

inductive Hears : Standing → Event → Standing → Prop where
  | connecting (n) : Hears apart (.connecting n) dialing
  | opened : Hears dialing .opened live
  | message (m) : Hears live (.message m) live
  | ended {g code reason} : g.IsUp → Hears g (.closed code reason true) apart
  | lost {g code reason} : g.IsUp → Hears g (.closed code reason false) lost
  | announced (n delay) : Hears lost (.reconnecting n delay) apart
  | exhausted (n) : Hears lost (.exhausted n) spent
  | reported (detail) : Hears spent (.error (.connection detail)) apart
  | failed {g} (e) : g.IsSettled → Hears g (.error e) g

inductive Reads : Standing → List Event → Standing → Prop where
  | nil {g} : Reads g [] g
  | cons {g g₁ g' e events} : Hears g e g₁ → Reads g₁ events g' → Reads g (e :: events) g'

namespace Reads

theorem append {g g₁ g' : Standing} {a b : List Event} (ha : Reads g a g₁) (hb : Reads g₁ b g') :
    Reads g (a ++ b) g' := by
  induction ha with
  | nil => exact hb
  | cons he _ ih => exact .cons he (ih hb)

theorem split {g g' : Standing} {a b : List Event} {e : Event} (h : Reads g (a ++ e :: b) g') :
    ∃ g₁ g₂, Reads g a g₁ ∧ Hears g₁ e g₂ ∧ Reads g₂ b g' := by
  induction a generalizing g with
  | nil =>
    cases h with
    | cons he hb => exact ⟨g, _, .nil, he, hb⟩
  | cons e' a ih =>
    cases h with
    | cons he' h =>
      obtain ⟨g₁, g₂, ha, he, hb⟩ := ih h
      exact ⟨g₁, g₂, .cons he' ha, he, hb⟩

theorem messages {events : List Event} (h : ∀ e ∈ events, ∃ m, e = .message m) :
    Reads live events live := by
  induction events with
  | nil => exact .nil
  | cons e events ih =>
    obtain ⟨m, rfl⟩ := h e (by simp)
    exact .cons (.message m) (ih fun e he => h e (by simp [he]))

end Reads
end Standing

open Standing (Reads)

def Fits (s : State) (g : Standing) : Prop :=
  match s.mode with
  | .ready =>
    match s.phase with
    | .connecting => g = .dialing
    | .open => g = .live
    | _ => g = .apart
  | .draining _ _ next => g = .live ∧ ∀ caller wasActive, next = .settle caller wasActive → wasActive = true
  | .stopped => g.IsSettled

variable {cfg : Config} {env : Surroundings} {s s' : State} {input : Input} {es : List Effect}
  {g : Standing}

theorem Fits.settled (h : Fits s g) : g.IsSettled := by
  unfold Fits at h
  split at h
  · split at h <;> subst h <;> trivial
  · obtain ⟨rfl, -⟩ := h
    trivial
  · exact h

theorem Begun.reads {result : Outcome Unit} (h : Begun cfg env s result s' es) (hm : s.mode = .ready) :
    ∃ g', Reads .apart (emitted es) g' ∧ Fits s' g' := by
  cases h with
  | failed _ => exact ⟨.apart, .cons (.failed _ trivial) .nil, by simp [Fits, hm]⟩
  | dialing _ => exact ⟨.dialing, .cons (.connecting _) .nil, by simp [Fits, hm]⟩

theorem Lost.reads {code : Option Nat} {reason : String} (h : Lost cfg env code reason s s' es)
    (hm : s.mode = .ready) (hmanual : s.manualClose = false) (hg : g.IsUp) :
    Reads g (emitted es) .apart ∧ Fits s' .apart := by
  constructor
  · cases h with
    | manual hc => simp [hmanual] at hc
    | exhausted _ _ => exact .cons (.lost hg) (.cons (.exhausted _) (.cons (.reported _) .nil))
    | scheduled _ _ => exact .cons (.lost hg) (.cons (.announced _ _) .nil)
  · cases h <;> simp [Fits, State.calmed, hm]

theorem Coherent.fits_apart (hs : Coherent s) (hm : s.mode = .ready) (hf : Fits s g)
    (hconnecting : s.phase ≠ .connecting) (hsocket : s.socket = none) : g = .apart := by
  have hopen : s.phase ≠ .open := by simpa [hsocket] using hs.open_iff
  simp only [Fits, hm] at hf
  cases hp : s.phase <;> simp_all

theorem Coherent.fits_live (hs : Coherent s) (hm : s.mode = .ready) (hf : Fits s g) {socket : Nat}
    (hk : s.socket = some socket) : g = .live ∧ s.phase = .open ∧ s.manualClose = false := by
  have hopen : s.phase = .open := hs.open_iff.mpr (by simp [hk])
  exact ⟨by simpa [Fits, hm, hopen] using hf, hopen, (hs.of_open hopen).2.2⟩

theorem Coherent.fits_dialing (hs : Coherent s) (hm : s.mode = .ready) (hf : Fits s g) {socket : Nat}
    (hp : s.pending = some socket) : g = .dialing ∧ s.manualClose = false := by
  have hphase : s.phase = .connecting := hs.connecting_iff.mpr (by simp [hp])
  refine ⟨by simpa [Fits, hm, hphase] using hf, ?_⟩
  cases hc : s.manualClose with
  | false => rfl
  | true => simpa [hphase] using (hs.manual hc).1

theorem Move.reads (h : Move cfg env s input s' es) (hs : Sound s) (hf : Fits s g) :
    ∃ g', Reads g (emitted es) g' ∧ Fits s' g' := by
  cases h with
  | skip _ | ignore _ _ | dropSend _ _ | drainText _ | stable _ _ _ | disarm _ _ _ _ =>
    exact ⟨g, .nil, hf⟩
  | send _ _ _ | ping _ _ _ _ =>
    rw [emitted_written]
    exact ⟨g, .nil, hf⟩
  | replace hm _ hk | reconnectDrain hm _ _ _ hk =>
    simp only [Sound, hm] at hs
    exact ⟨g, .nil, (hs.fits_live hm hf hk).1, by simp⟩
  | closeDrain hm hk =>
    simp only [Sound, hm] at hs
    obtain ⟨rfl, hopen, -⟩ := hs.fits_live hm hf hk
    rw [emitted_append, emitted_releases]
    -- the end is reported when the socket has been drained
    refine ⟨.live, .nil, rfl, fun caller wasActive hnext => ?_⟩
    obtain ⟨-, rfl⟩ := AfterDrain.settle.inj hnext
    simp [State.isActive, hopen]
  | leaveDrain hm hk =>
    simp only [Sound, hm] at hs
    rw [emitted_append, emitted_releases]
    exact ⟨g, .nil, (hs.fits_live hm hf hk).1, by simp⟩
  | connect hm hp hk hb =>
    simp only [Sound, hm] at hs
    obtain rfl := hs.fits_apart hm hf hp hk
    simpa using hb.reads hm
  | close hm hk =>
    simp only [Sound, hm] at hs
    refine ⟨.apart, ?_, by simp [Fits, State.forsaken, hm]⟩
    -- a close is reported only where it ends an attempt
    by_cases hp : s.phase = .connecting
    · obtain rfl : g = .dialing := by simpa [Fits, hm, hp] using hf
      have hread : Reads .dialing [.closed none "closed by client" true] .apart :=
        .cons (.ended trivial) .nil
      simpa [farewell, State.isActive, hp] using hread
    · obtain rfl := hs.fits_apart hm hf hp hk
      have hopen : s.phase ≠ .open := by simpa [hk] using hs.open_iff
      simpa [farewell, State.isActive, hp, hopen] using Reads.nil
  | opened hm hp _ =>
    simp only [Sound, hm] at hs
    obtain ⟨rfl, -⟩ := hs.fits_dialing hm hf hp
    exact ⟨.live, .cons .opened .nil, by simp [Fits, hm]⟩
  | openCrash _ _ _ => exact ⟨g, .nil, hf.settled⟩
  | pingCrash _ _ _ _ | leave _ _ =>
    rw [emitted_append, emitted_releases]
    exact ⟨g, .nil, hf.settled⟩
  | refused hm hp hl =>
    simp only [Sound, hm] at hs
    obtain ⟨rfl, hmanual⟩ := hs.fits_dialing hm hf hp
    obtain ⟨hread, hfits⟩ := hl.reads (g := .dialing) hm hmanual trivial
    exact ⟨.apart, .cons (.failed _ trivial) hread, hfits⟩
  | text hm hk =>
    simp only [Sound, hm] at hs
    obtain ⟨rfl, -⟩ := hs.fits_live hm hf hk
    exact ⟨.live, .messages fun e he => message_of_mem_dispatched he, hf⟩
  | lost hm hk hl =>
    simp only [Sound, hm] at hs
    obtain ⟨rfl, -, hmanual⟩ := hs.fits_live hm hf hk
    exact ⟨.apart, hl.reads hm hmanual trivial⟩
  | failed hm hk hl =>
    simp only [Sound, hm] at hs
    obtain ⟨rfl, -, hmanual⟩ := hs.fits_live hm hf hk
    obtain ⟨hread, hfits⟩ := hl.reads (g := .live) hm hmanual trivial
    exact ⟨.apart, .cons (.failed _ trivial) hread, hfits⟩
  | reconnect hm ht _ _ hk hb =>
    simp only [Sound, hm] at hs
    have hphase := (hs.reconnect (by simp [ht])).1
    obtain rfl := hs.fits_apart hm hf (by simp [hphase]) hk
    exact hb.reads hm
  | reopen hm _ hb =>
    simp only [Fits, hm] at hf
    obtain ⟨rfl, -⟩ := hf
    obtain ⟨g', hread, hfits⟩ := hb.reads rfl
    exact ⟨g', by simpa using Reads.cons (.ended (g := .live) trivial) hread, hfits⟩
  | settle hm _ =>
    simp only [Fits, hm] at hf
    obtain ⟨rfl, hactive⟩ := hf
    obtain rfl := hactive _ _ rfl
    exact ⟨.apart, .cons (.ended trivial) .nil, by simp [Fits]⟩
  | shutDown hm _ =>
    simp only [Fits, hm] at hf
    obtain ⟨rfl, -⟩ := hf
    exact ⟨.live, .nil, trivial⟩

theorem reads_after (cfg : Config) (run : List (Surroundings × Input)) :
    ∃ g, Reads .apart (emitted (State.initial.trace cfg run)) g ∧ g.IsSettled := by
  obtain ⟨-, g, hg, hf⟩ : Sound (State.initial.after cfg run) ∧
      ∃ g, Reads .apart (emitted (visible (State.initial.trace cfg run))) g ∧
        Fits (State.initial.after cfg run) g := by
    refine State.run_keeps (P := fun past s => Sound s ∧ ∃ g, Reads .apart (emitted past) g ∧ Fits s g)
      ⟨sound_initial, .apart, .nil, rfl⟩ (fun h hmove => ?_) run
    obtain ⟨hs, g, hg, hf⟩ := h
    obtain ⟨g', hg', hf'⟩ := hmove.reads hs hf
    exact ⟨hmove.sound hs, g', by simpa using hg.append hg', hf'⟩
  exact ⟨g, by simpa using hg, hf.settled⟩

inductive Mark where
  | connecting
  | opened
  | closed
deriving DecidableEq

@[simp] def Event.mark? : Event → Option Mark
  | connecting _ => some .connecting
  | opened => some .opened
  | closed _ _ _ => some .closed
  | _ => none

def marks (events : List Event) : List Mark := events.filterMap Event.mark?

@[simp] theorem marks_nil : marks [] = [] := rfl

@[simp] theorem marks_cons (e : Event) (events : List Event) :
    marks (e :: events) = e.mark?.toList ++ marks events := by
  cases e <;> rfl

/-- Whether marks are those of one attempt from its beginning to its end. -/
def IsCycle (c : List Mark) : Prop := c = [.connecting, .closed] ∨ c = [.connecting, .opened, .closed]

def Standing.Finishes : Standing → List Mark → Prop
  | dialing, c => c = [.closed] ∨ c = [.opened, .closed]
  | live, c => c = [.closed]
  | _, c => c = []

theorem Standing.IsUp.finishes {g : Standing} (h : g.IsUp) : g.Finishes [.closed] := by
  cases g with
  | dialing => exact .inl rfl
  | live => rfl
  | apart | lost | spent => exact h.elim

namespace Standing.Reads

/-- The marks go on as the attempt under way may end, and then as whole attempts do. -/
theorem marks_prefix {g g' : Standing} {events : List Event} (h : Reads g events g') :
    ∃ (c : List Mark) (cycles : List (List Mark)), g.Finishes c ∧ (∀ c ∈ cycles, IsCycle c) ∧
      marks events <+: c ++ cycles.flatten := by
  -- from the last event to the first: whatever ends an attempt leaves whole attempts behind it
  induction h with
  | @nil g =>
    obtain ⟨c, hc⟩ : ∃ c, g.Finishes c := by
      cases g with
      | dialing => exact ⟨_, .inl rfl⟩
      | _ => exact ⟨_, rfl⟩
    exact ⟨c, [], hc, by simp, by simp⟩
  | cons he _ ih =>
    obtain ⟨c, cycles, hc, hcycles, hprefix⟩ := ih
    cases he with
    | connecting n =>
      have hcycle : IsCycle (.connecting :: c) := hc.imp (congrArg _) (congrArg _)
      exact ⟨[], (.connecting :: c) :: cycles, rfl, by simpa [hcycle] using hcycles, by simpa using hprefix⟩
    | opened => exact ⟨.opened :: c, cycles, .inr (congrArg _ hc), hcycles, by simpa using hprefix⟩
    | @ended g _ _ hup | @lost g _ _ hup =>
      obtain rfl : c = [] := hc
      exact ⟨[.closed], cycles, hup.finishes, hcycles, by simpa using hprefix⟩
    | message _ | announced _ _ | exhausted _ | reported _ | failed _ _ =>
      exact ⟨c, cycles, hc, hcycles, by simpa using hprefix⟩

theorem getLast?_marks {g g' : Standing} {events : List Event} (h : Reads g events g')
    (hlive : g' = live) : (marks events).getLast? = some .opened ∨ marks events = [] ∧ g = live := by
  induction h with
  | nil => exact .inr ⟨rfl, hlive⟩
  | cons he _ ih =>
    rcases ih hlive with hlast | ⟨hnil, rfl⟩
    · exact .inl (by simp [List.getLast?_append, hlast])
    · cases he with
      | opened => exact .inl (by simp [hnil])
      | message _ | failed _ _ => exact .inr ⟨by simpa using hnil, rfl⟩

end Standing.Reads

def Calm (events : List Event) : Prop :=
  ∀ e ∈ events.takeWhile (·.mark? ≠ some .connecting), ∃ detail, e = .error detail

/-- What directly follows a loss: the next attempt is announced, or it is said that none is left. -/
inductive Explained : List Event → Prop where
  | announced (n delay) {rest} : Calm rest → Explained (.reconnecting n delay :: rest)
  | exhausted (n detail) {rest} : Calm rest →
      Explained (.exhausted n :: .error (.connection detail) :: rest)

namespace Standing.Reads

theorem calm {g g' : Standing} {events : List Event} (h : Reads g events g') (hg : g = apart) :
    Calm events := by
  unfold Calm
  induction h with
  | nil => simp
  | cons he _ ih =>
    subst hg
    cases he with
    | connecting n => simp
    | failed e _ => simpa using ih rfl
    | ended hup | lost hup => exact hup.elim

theorem explained {events : List Event} {g' : Standing} (h : Reads .lost events g')
    (hg : g'.IsSettled) : Explained events := by
  cases h with
  | nil => exact hg.elim
  | cons he h =>
    cases he with
    | announced n delay => exact .announced n delay (h.calm rfl)
    | exhausted n =>
      cases h with
      | nil => exact hg.elim
      | cons he h =>
        cases he with
        | reported detail => exact .exhausted n detail (h.calm rfl)
        | ended hup | lost hup | failed _ hup => exact hup.elim
    | ended hup | lost hup | failed _ hup => exact hup.elim

end Standing.Reads

structure Grammatical (events : List Event) : Prop where
  /-- Attempts come one after the other; each may succeed, and each ends. -/
  cycles : ∃ cycles : List (List Mark), (∀ c ∈ cycles, IsCycle c) ∧ marks events <+: cycles.flatten
  /-- Messages come between an opening and the end that follows it. -/
  messages : ∀ before m after, events = before ++ .message m :: after →
    (marks before).getLast? = some .opened
  losses : ∀ before code reason after, events = before ++ .closed code reason false :: after →
    Explained after
  /-- An end that was asked for is followed by no attempt to reconnect. -/
  ends : ∀ before code reason after, events = before ++ .closed code reason true :: after → Calm after

theorem Standing.Reads.grammatical {events : List Event} {g : Standing} (h : Reads .apart events g)
    (hg : g.IsSettled) : Grammatical events where
  cycles := by
    obtain ⟨c, cycles, rfl, hcycles, hprefix⟩ := h.marks_prefix
    exact ⟨cycles, hcycles, hprefix⟩
  messages := by
    rintro before m after rfl
    obtain ⟨g₁, g₂, hbefore, he, -⟩ := h.split
    have hlive : g₁ = live := by
      cases he
      rfl
    rcases hbefore.getLast?_marks hlive with hlast | ⟨-, hg⟩
    · exact hlast
    -- the first standing is not a live one
    · cases hg
  losses := by
    rintro before code reason after rfl
    obtain ⟨g₁, g₂, -, he, hafter⟩ := h.split
    cases he with
    | lost _ => exact hafter.explained hg
  ends := by
    rintro before code reason after rfl
    obtain ⟨g₁, g₂, -, he, hafter⟩ := h.split
    cases he with
    | ended _ => exact hafter.calm rfl

/-- The events of every run follow the grammar, and there are none once the last handle is gone. -/
theorem event_grammar (cfg : Config) (run : List (Surroundings × Input)) :
    Grammatical (emitted (State.initial.trace cfg run)) ∧
    ((State.initial.after cfg run).mode = .ready → ∀ env rest,
      emitted ((State.initial.after cfg run).trace cfg ((env, .abandoned) :: rest)) = []) := by
  obtain ⟨g, hreads, hg⟩ := reads_after cfg run
  exact ⟨hreads.grammatical hg, fun hm env rest => emitted_of_abandoned hm env rest⟩

theorem event_grammar_lostRun :
    let events := emitted (State.initial.trace plain lostRun)
    marks events = [.connecting, .opened, .closed] ∧
    (State.initial.after plain lostRun).mode = .ready ∧
    (∃ after, events = [.connecting 0, .opened] ++ .closed none "gone" false :: after ∧ Explained after) ∧
    emitted ((State.initial.after plain lostRun).trace plain
      [(calmAt 20, .abandoned), (calmAt 3015, .reconnectDue)]) = [] := by
  intro events
  have hready : (State.initial.after plain lostRun).mode = .ready := rfl
  obtain ⟨hgrammar, hsilent⟩ := event_grammar plain lostRun
  refine ⟨by decide +kernel, hready, ⟨_, rfl, hgrammar.losses [.connecting 0, .opened] _ _ _ rfl⟩, ?_⟩
  exact hsilent hready _ _

end Courier.Session
