import Courier.Proofs.Session.Coherence

/-! What the handles of a session see of its effects: the events that it emits and the statuses that it
publishes. Whatever a step does, the status published last is that of the state it leaves. -/

namespace Courier.Session

@[simp] def Effect.event? : Effect → Option Event
  | emit e => some e
  | _ => none

@[simp] def Effect.status? : Effect → Option Status
  | publish s => some s
  | _ => none

def emitted (effects : List Effect) : List Event := effects.filterMap Effect.event?

def published (effects : List Effect) : List Status := effects.filterMap Effect.status?

def State.status (s : State) : Status := ⟨s.phase, s.attempts⟩

@[simp] theorem emitted_nil : emitted [] = [] := rfl

@[simp] theorem emitted_cons (e : Effect) (es : List Effect) :
    emitted (e :: es) = e.event?.toList ++ emitted es := by
  cases e <;> rfl

@[simp] theorem emitted_append (a b : List Effect) : emitted (a ++ b) = emitted a ++ emitted b :=
  List.filterMap_append ..

@[simp] theorem published_nil : published [] = [] := rfl

@[simp] theorem published_cons (e : Effect) (es : List Effect) :
    published (e :: es) = e.status?.toList ++ published es := by
  cases e <;> rfl

@[simp] theorem published_append (a b : List Effect) :
    published (a ++ b) = published a ++ published b := List.filterMap_append ..

@[simp] theorem emitted_visible (es : List Effect) : emitted (visible es) = emitted es := by
  induction es with
  | nil => rfl
  | cons e es ih => cases e <;> simp_all [visible, Effect.isLog]

@[simp] theorem published_visible (es : List Effect) : published (visible es) = published es := by
  induction es with
  | nil => rfl
  | cons e es ih => cases e <;> simp_all [visible, Effect.isLog]

theorem of_mem_written {env : Surroundings} {socket : Option Nat} {o : Outbound} {e : Effect}
    (h : e ∈ written env socket o) : ∃ k, e = .write k (.message o) := by
  unfold written at h
  split at h
  · split at h
    · exact ⟨_, List.mem_singleton.mp h⟩
    · simp at h
  · simp at h

theorem of_mem_dispatched {env : Surroundings} {socket : Option Nat} {payload : String} {e : Effect}
    (h : e ∈ dispatched env socket payload) :
    (∃ k o, e = .write k (.message o)) ∨ ∃ m, e = .emit (.message m) := by
  have hwritten {o : Outbound} (h : e ∈ written env socket o) : ∃ k o, e = .write k (.message o) := by
    obtain ⟨k, rfl⟩ := of_mem_written h
    exact ⟨k, o, rfl⟩
  unfold dispatched at h
  split at h
  · simp at h
  · rcases List.mem_append.mp h with h | h
    · split at h
      · simp at h
      · exact .inl (hwritten h)
    · split at h
      · exact .inl (hwritten h)
      · split at h
        · exact .inr ⟨_, List.mem_singleton.mp h⟩
        · simp at h

theorem message_of_mem_dispatched {env : Surroundings} {socket : Option Nat} {payload : String}
    {e : Event} (h : e ∈ emitted (dispatched env socket payload)) : ∃ m, e = .message m := by
  obtain ⟨effect, heffect, hevent⟩ := List.mem_filterMap.mp h
  rcases of_mem_dispatched heffect with ⟨k, o, rfl⟩ | ⟨m, rfl⟩
  · simp at hevent
  · exact ⟨m, (Option.some.inj hevent).symm⟩

@[simp] theorem emitted_written (env : Surroundings) (socket : Option Nat) (o : Outbound) :
    emitted (written env socket o) = [] := by
  refine List.filterMap_eq_nil_iff.mpr fun e he => ?_
  obtain ⟨k, rfl⟩ := of_mem_written he
  rfl

@[simp] theorem published_written (env : Surroundings) (socket : Option Nat) (o : Outbound) :
    published (written env socket o) = [] := by
  refine List.filterMap_eq_nil_iff.mpr fun e he => ?_
  obtain ⟨k, rfl⟩ := of_mem_written he
  rfl

@[simp] theorem published_dispatched (env : Surroundings) (socket : Option Nat) (payload : String) :
    published (dispatched env socket payload) = [] := by
  refine List.filterMap_eq_nil_iff.mpr fun e he => ?_
  rcases of_mem_dispatched he with ⟨k, o, rfl⟩ | ⟨m, rfl⟩ <;> rfl

@[simp] theorem emitted_answer (result : Outcome Unit) (caller : Option Nat) :
    emitted (answer result caller) = [] := by
  cases caller <;> rfl

@[simp] theorem published_answer (result : Outcome Unit) (caller : Option Nat) :
    published (answer result caller) = [] := by
  cases caller <;> rfl

@[simp] theorem published_farewell (wasActive : Bool) : published (farewell wasActive) = [] := by
  cases wasActive <;> rfl

@[simp] theorem emitted_releases (sockets : Option Nat) :
    emitted (sockets.toList.map .release) = [] := by
  cases sockets <;> rfl

@[simp] theorem published_releases (sockets : Option Nat) :
    published (sockets.toList.map .release) = [] := by
  cases sockets <;> rfl

theorem not_mem_emitted_farewell {wasActive : Bool} {e : Event}
    (h : e ≠ .closed none "closed by client" true) : e ∉ emitted (farewell wasActive) := by
  cases wasActive <;> simp [farewell, h]

theorem Begun.heard {cfg : Config} {env : Surroundings} {s s' : State} {result : Outcome Unit}
    {es : List Effect} (h : Begun cfg env s result s' es) :
    (∃ e, emitted es = [.error e]) ∨ emitted es = [.connecting s.attempts] := by
  cases h with
  | failed _ => exact .inl ⟨_, rfl⟩
  | dialing _ => exact .inr rfl

variable {cfg : Config} {env : Surroundings} {s s' : State} {input : Input} {es : List Effect}

theorem Begun.status {result : Outcome Unit} (h : Begun cfg env s result s' es) :
    published es = [s'.status] := by
  cases h <;> rfl

theorem Lost.status {code : Option Nat} {reason : String} (h : Lost cfg env code reason s s' es) :
    ∃ before, published es = before ++ [s'.status] := by
  cases h with
  | manual _ | exhausted _ _ => exact ⟨[], rfl⟩
  | scheduled _ _ => exact ⟨[_], rfl⟩

/-- A move publishes the status of the state that it leaves, unless that is the old one. -/
theorem Move.status (h : Move cfg env s input s' es) :
    (published es).getLast?.getD s.status = s'.status := by
  cases h with
  | connect _ _ _ hb => simp [hb.status]
  | reconnect _ _ _ _ _ hb => simp [hb.status]
  | reopen _ _ hb => simp [hb.status]
  | refused _ _ hl =>
    obtain ⟨before, hl⟩ := hl.status
    simp [hl]
  | lost _ _ hl =>
    obtain ⟨before, hl⟩ := hl.status
    simp [hl]
  | failed _ _ hl =>
    obtain ⟨before, hl⟩ := hl.status
    simp [hl]
  | _ => simp [State.status, State.draining, State.calmed, State.forsaken]

/-- After every run the status published last, or that of a session never connected, is the state's. -/
theorem status_after (cfg : Config) (run : List (Surroundings × Input)) :
    (published (State.initial.trace cfg run)).getLast?.getD .initial =
      (State.initial.after cfg run).status := by
  rw [← published_visible]
  refine State.run_keeps (P := fun past s => (published past).getLast?.getD .initial = s.status) rfl
    (fun {past env s input s' es} h hmove => ?_) run
  rw [published_append, List.getLast?_append, ← hmove.status, ← h]
  cases (published es).getLast? <;> rfl

end Courier.Session
