import Courier.Proofs.Session.Runs

/-! What runs have to do with the clock. A run is prompt when none of its inputs is handled while a
timer is overdue. A sleep that leads beyond the clock's range lasts thirty years instead; any other one
ends at the first tick at which its whole length is over. -/

namespace Courier.Time

/-- How many nanoseconds a sleep lasts that starts at a tick. -/
def counted (ticks : Nat) (d : Span) : Nat := if fits ticks d then d.nanos else farFuture

theorem counted_of_fits {ticks : Nat} {d : Span} (h : fits ticks d = true) : counted ticks d = d.nanos :=
  if_pos h

theorem deadline_eq (ticks : Nat) (d : Span) :
    deadline ticks d = tickOf (ticks * 1000000 + counted ticks d) := by
  unfold deadline counted
  split <;> rfl

theorem tickOf_le_iff {nanos ticks : Nat} : tickOf nanos ≤ ticks ↔ nanos ≤ ticks * 1000000 := by
  unfold tickOf
  omega

theorem deadline_le_iff {start ticks : Nat} {d : Span} :
    deadline start d ≤ ticks ↔ start * 1000000 + counted start d ≤ ticks * 1000000 := by
  rw [deadline_eq, tickOf_le_iff]

theorem deadline_of_millis {ticks ms : Nat} {d : Span} (hd : d.nanos = ms * 1000000)
    (h : fits ticks d = true) : deadline ticks d = ticks + ms := by
  rw [deadline_eq, counted_of_fits h, hd, tickOf]
  omega

/-- A whole number of milliseconds that is within the clock's range is not cut. -/
theorem nanos_ofMillis {ticks ms : Nat} (h : fits ticks (.ofMillis ms) = true) :
    (Span.ofMillis ms).nanos = ms * 1000000 := by
  have hlt : ticks * 1000000 + (Span.ofMillis ms).nanos < clockEnd := of_decide_eq_true h
  have hms : (Span.ofMillis ms).nanos = min (ms * 1000000) (0x10000000000000000 * 1000000000 - 1) := rfl
  rw [hms, clockEnd] at hlt
  omega

theorem Ticker.due_mk (ticks : Nat) (period : Span) : (Ticker.mk (ticks * 1000000) period).due = ticks := by
  simp only [due, tickOf]
  omega

theorem Ticker.eq_of_startLater? {ticks : Nat} {period : Span} {t : Ticker}
    (h : startLater? ticks period = some t) : t = ⟨ticks * 1000000 + period.nanos, period⟩ := by
  unfold startLater? at h
  split at h
  · cases h
  · exact (Option.some.inj h).symm

/-- A tick that is taken in time does not delay the following ones. -/
theorem Ticker.advance?_in_time {ticks : Nat} {period : Span} (h : fits ticks period = true) :
    (Ticker.mk (ticks * 1000000) period).advance? ticks =
      some ⟨ticks * 1000000 + period.nanos, period⟩ := by
  have hlt : ticks * 1000000 + period.nanos < clockEnd := of_decide_eq_true h
  have hearly : ¬ tolerance < 1000000 * ticks - ticks * 1000000 := by
    unfold tolerance
    omega
  simp only [advance?, if_neg hearly, if_pos hlt]

theorem Ticker.startLater?_eq_none_iff {ticks : Nat} {period : Span} :
    startLater? ticks period = none ↔ period.nanos = 0 ∨ fits ticks period = false := by
  unfold startLater?
  split
  · simp_all
  · simp_all

theorem Ticker.advance?_eq_none_iff {ticker : Ticker} {ticks : Nat} :
    ticker.advance? ticks = none ↔
      tolerance < 1000000 * ticks - ticker.next ∧ fits ticks ticker.period = false := by
  by_cases hlate : tolerance < 1000000 * ticks - ticker.next
  · cases hfits : fits ticks ticker.period <;> simp [advance?, hlate, hfits]
  · have hsome : (ticker.advance? ticks).isSome := by
      rw [advance?, if_neg hlate]
      split <;> rfl
    simp [hlate, Option.ne_none_iff_isSome, hsome]

theorem Ticker.period_of_advance? {ticker next : Ticker} {ticks : Nat} (h : ticker.advance? ticks = some next) :
    next.period = ticker.period := by
  unfold advance? at h
  split at h
  · split at h <;> cases h
    rfl
  · split at h <;> cases h <;> rfl

/-- A timer that is late is due. -/
theorem Ticker.due_le_of_late {ticker : Ticker} {ticks : Nat} (h : tolerance < 1000000 * ticks - ticker.next) :
    ticker.due ≤ ticks := by
  unfold due
  rw [tickOf_le_iff]
  omega

end Courier.Time

namespace Courier.Session.State

variable {cfg : Config}

def Always (cfg : Config) (P : State → Surroundings → Input → Prop) :
    State → List (Surroundings × Input) → Prop
  | _, [] => True
  | s, (env, input) :: run => P s env input ∧ Always cfg P (s.step cfg env input).state run

def InTime (s : State) (env : Surroundings) : Prop := ∀ due, s.nextDue? = some due → env.moment.ticks ≤ due

def Prompt (cfg : Config) (s : State) (run : List (Surroundings × Input)) : Prop :=
  Always cfg (fun s env _ => s.InTime env) s run

instance {s : State} {env : Surroundings} : Decidable (s.InTime env) :=
  decidable_of_iff (∀ due ∈ s.nextDue?, env.moment.ticks ≤ due) Iff.rfl

instance decidableAlways {P : State → Surroundings → Input → Prop}
    [∀ s env input, Decidable (P s env input)] :
    (s : State) → (run : List (Surroundings × Input)) → Decidable (Always cfg P s run)
  | _, [] => isTrue trivial
  | s, (env, input) :: run =>
    have : Decidable (Always cfg P (s.step cfg env input).state run) := decidableAlways _ run
    inferInstanceAs (Decidable (_ ∧ _))

instance {s : State} {run : List (Surroundings × Input)} : Decidable (s.Prompt cfg run) :=
  decidableAlways s run

theorem InTime.of_mem {s : State} {env : Surroundings} {timers : List Nat} {due : Nat}
    (h : s.InTime env) (htimers : s.nextDue? = timers.min?) (hdue : due ∈ timers) :
    env.moment.ticks ≤ due := by
  cases hmin : timers.min? with
  | none => simp [List.min?_eq_none_iff.mp hmin] at hdue
  | some first =>
    have hfirst : first ≤ due := (List.min?_eq_some_iff.mp hmin).2 due hdue
    exact Nat.le_trans (h first (htimers.trans hmin)) hfirst

theorem InTime.of_reconnect {s : State} {env : Surroundings} {due : Nat} (h : s.InTime env)
    (hm : s.mode = .ready) (ht : s.reconnect = some due) : env.moment.ticks ≤ due :=
  h.of_mem (by rw [nextDue?, hm]) (by simp [ht])

theorem InTime.of_stability {s : State} {env : Surroundings} {due : Nat} (h : s.InTime env)
    (hm : s.mode = .ready) (ht : s.stability = some due) : env.moment.ticks ≤ due :=
  h.of_mem (by rw [nextDue?, hm]) (by simp [ht])

theorem InTime.of_heartbeat {s : State} {env : Surroundings} {ticker : Time.Ticker} (h : s.InTime env)
    (hm : s.mode = .ready) (ht : s.heartbeat = some ticker) : env.moment.ticks ≤ ticker.due :=
  h.of_mem (by rw [nextDue?, hm]) (by simp [ht])

end Courier.Session.State
