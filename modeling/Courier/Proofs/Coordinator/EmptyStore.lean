import Courier.Http.Gate
import Courier.Proofs.Coordinator.Latch
import Courier.Proofs.Http.Bearer
import Courier.Proofs.Session.Outputs

/-! A set latch means an empty store. Chains write both at once, logins lift the latch and logouts only
empty the store, so no order in which chains end can part the two. Whoever reads the store finds no token
then: the gate adds nothing to a request, and a session begins no attempt. -/

namespace Courier.Session

def Effect.begins : Effect → Bool
  | dial _ _ | emit (.connecting _) => true
  | _ => false

variable {cfg : Config} {env : Surroundings} {s s' : State} {input : Input} {es : List Effect} {e : Effect}

theorem Begun.address {result : Outcome Unit} (h : Begun cfg env s result s' es)
    (hbegins : es.any Effect.begins = true) : ∃ url, Turn.address cfg env = .ok url := by
  cases h with
  | failed _ => simp [Effect.begins] at hbegins
  | dialing haddress => exact ⟨_, haddress⟩

theorem Lost.begins {code : Option Nat} {reason : String} (h : Lost cfg env code reason s s' es) :
    es.any Effect.begins = false := by
  cases h <;> simp [Effect.begins]

theorem begins_written (env : Surroundings) (socket : Option Nat) (o : Outbound) :
    (written env socket o).any Effect.begins = false := by
  rw [List.any_eq_false]
  intro e he
  obtain ⟨k, rfl⟩ := of_mem_written he
  simp [Effect.begins]

theorem begins_dispatched (env : Surroundings) (socket : Option Nat) (payload : String) :
    (dispatched env socket payload).any Effect.begins = false := by
  rw [List.any_eq_false]
  intro e he
  rcases of_mem_dispatched he with ⟨k, o, rfl⟩ | ⟨m, rfl⟩ <;> simp [Effect.begins]

theorem begins_farewell (wasActive : Bool) : (farewell wasActive).any Effect.begins = false := by
  cases wasActive <;> rfl

theorem begins_answer (result : Outcome Unit) (caller : Option Nat) :
    (answer result caller).any Effect.begins = false := by
  cases caller <;> rfl

/-- An attempt begins only with an address to dial. -/
theorem Move.address (h : Move cfg env s input s' es) (hbegins : es.any Effect.begins = true) :
    ∃ url, Turn.address cfg env = .ok url := by
  cases h with
  | connect _ _ _ hb =>
    apply hb.address
    simpa [Effect.begins] using hbegins
  | reconnect _ _ _ _ _ hb => exact hb.address hbegins
  | reopen _ _ hb =>
    apply hb.address
    simpa [Effect.begins, begins_answer] using hbegins
  | refused _ _ hl | lost _ _ hl | failed _ _ hl => simp [Effect.begins, hl.begins] at hbegins
  | send _ _ _ | ping _ _ _ _ => simp [begins_written] at hbegins
  | text _ _ => simp [begins_dispatched] at hbegins
  | _ => simp [Effect.begins, begins_farewell] at hbegins

end Courier.Session

namespace Courier.Coordinator

open Time (Moment)

structure WithoutToken (s : State) : Prop where
  store : s.store = none
  /-- A request leaves the gate with the headers that it came with. -/
  gate : ∀ checked headers, (Http.Gate.pass checked s.accessToken? headers).1 = headers
  requests : ∀ checked (r : Http.Request), r.Made →
    ∀ header ∈ (Http.Gate.pass checked s.accessToken? r.headers).1, ¬ header.IsBearer
  /-- No step of a session that reads the store dials, or tells of a new attempt. -/
  attempts : ∀ (cfg : Session.Config) (env : Session.Surroundings) (session : Session.State) input,
    env.token = s.accessToken? → (session.step cfg env input).effects.any (·.begins) = false

variable {cfg : Config} {now : Moment} {s s' : State} {input : Input} {es : List Effect}

def Emptied (s : State) : Prop := s.latched = true → s.store = none

theorem Move.emptied (h : Move cfg now s input s' es) (hinput : input.isOverwrite = false) (hs : Emptied s) :
    Emptied s' := by
  intro hlatched
  cases h with
  | create _ _ _ hc =>
    rw [hc.same.2] at hlatched
    exact hc.same.1.trans (hs hlatched)
  | loginCreate _ hc =>
    -- the login has lifted the latch
    rw [hc.same.2] at hlatched
    cases hlatched
  | loginJoin _ _ => cases hlatched
  | logout => rfl
  | overwrite => cases hinput
  | @finish _ id ending _ =>
    cases ending with
    | stored c => cases hlatched
    | gaveUp e => rfl
    | crashed detail => exact hs hlatched
  | _ => exact hs hlatched

theorem emptied_after {start : State} (hstart : Emptied start) (run : List (Moment × Input))
    (hrun : ∀ i ∈ run, i.2.isOverwrite = false) : Emptied (start.after cfg run) := by
  induction run generalizing start with
  | nil => exact hstart
  | cons i run ih =>
    apply ih
    · exact (start.step_move cfg i.1 i.2).emptied (hrun i (by simp)) hstart
    · intro j hj
      exact hrun j (by simp [hj])

theorem withoutToken_of_store (hstore : s.store = none) : WithoutToken s := by
  have htoken : s.accessToken? = none := by simp [State.accessToken?, hstore]
  refine ⟨hstore, ?_, ?_, ?_⟩
  · intro checked headers
    rw [htoken]
    rfl
  · intro checked r hmade header hheader
    rw [htoken] at hheader
    exact hmade.not_bearer header hheader
  · intro cfg env session input henv
    rw [htoken] at henv
    rw [Bool.eq_false_iff]
    intro hbegins
    have hvisible : (session.step cfg env input).shown.any (·.begins) = true := by
      obtain ⟨e, he, hbegins⟩ := List.any_eq_true.mp hbegins
      have hlog : e.isLog = false := by cases e <;> first | rfl | cases hbegins
      exact List.any_eq_true.mpr ⟨e, List.mem_filter.mpr ⟨he, by simp [hlog]⟩, hbegins⟩
    obtain ⟨url, haddress⟩ := (session.step_move cfg env input).address hvisible
    simp [Session.Turn.address, henv] at haddress

/-- In every run of a coordinator that alone writes its store and starts with the latch off, whatever its
chains, callers, logins and logouts come to in whatever order, a set latch means that no token is stored.
So no request gets one at the gate, and no session begins an attempt. -/
theorem latched_without_token (cfg : Config) {start : State} (run : List (Moment × Input))
    (hstart : start.latched = false) (hrun : ∀ i ∈ run, i.2.isOverwrite = false)
    (hlatched : (start.after cfg run).latched = true) : WithoutToken (start.after cfg run) := by
  apply withoutToken_of_store
  refine emptied_after ?_ run hrun hlatched
  intro hset
  rw [hstart] at hset
  cases hset

/-- The second of two refreshes fails for good, the first succeeds after it, and a third one fails. -/
def lockedRun : List (Moment × Input) :=
  defeatRun ++ (.ofTicks 400, .coded 2 (.failed (.auth "unavailable"))) :: lateSuccess ++
    [(.ofTicks 1100, .ensureValid 3 true), (.ofTicks 1100, .begin 3),
      (.ofTicks 1200, .exchanged 3 (.error (.auth "refused"))),
      (.ofTicks 1300, .coded 3 (.failed (.auth "unavailable")))]

theorem latched_without_token_lockedRun :
    let start : State := { store := some staleCredentials }
    start.latched = false ∧ (∀ i ∈ lockedRun, i.2.isOverwrite = false) ∧
    (start.after hurried lockedRun).latched = true ∧ WithoutToken (start.after hurried lockedRun) := by
  intro start
  have hrun : ∀ i ∈ lockedRun, i.2.isOverwrite = false := by decide
  have hlatched : (start.after hurried lockedRun).latched = true := by decide +kernel
  exact ⟨rfl, hrun, hlatched, latched_without_token hurried lockedRun rfl hrun hlatched⟩

end Courier.Coordinator
