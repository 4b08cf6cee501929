import Courier.Proofs.Session.Coherence

/-! A session has one connection at a time. `live` reads off a trace which attempts and sockets have
been handed out and not been let go of. Of the effects only dials and releases count for it; a run
makes them in turns, which `Alternates` says and every move keeps. -/

namespace Courier.Session

def account (out : List Nat) : Effect → List Nat
  | .dial socket _ => out ++ [socket]
  | .release socket => out.filter (· != socket)
  | _ => out

def live (effects : List Effect) : List Nat := effects.foldl account []

def Effect.dialed? : Effect → Option Nat
  | dial socket _ => some socket
  | _ => none

def Mode.drained : Mode → List Nat
  | draining socket _ _ => [socket]
  | _ => []

/-- What a session has out: the attempt in flight, the held socket and the one that is drained. -/
def State.held (s : State) : List Nat := s.pending.toList ++ s.socket.toList ++ s.mode.drained

def Effect.isTransfer : Effect → Bool
  | dial _ _ | release _ => true
  | _ => false

def transfers (effects : List Effect) : List Effect := effects.filter (·.isTransfer)

@[simp] theorem transfers_append (a b : List Effect) :
    transfers (a ++ b) = transfers a ++ transfers b := List.filter_append ..

@[simp] theorem transfers_cons (e : Effect) (es : List Effect) :
    transfers (e :: es) = (if e.isTransfer then [e] else []) ++ transfers es := by
  cases h : e.isTransfer <;> simp [transfers, h]

@[simp] theorem transfers_nil : transfers [] = [] := rfl

theorem transfers_visible (es : List Effect) : transfers (visible es) = transfers es := by
  simp only [transfers, visible, List.filter_filter]
  congr 1
  funext e
  cases e <;> rfl

theorem dialed_transfers (es : List Effect) :
    (transfers es).filterMap Effect.dialed? = es.filterMap Effect.dialed? := by
  induction es with
  | nil => rfl
  | cons e es ih => cases e <;> simp [Effect.isTransfer, Effect.dialed?, List.filterMap_cons, ih]

theorem mem_transfers {es : List Effect} {e : Effect} :
    e ∈ transfers es ↔ e ∈ es ∧ e.isTransfer = true := List.mem_filter

theorem live_transfers (es : List Effect) : live (transfers es) = live es := by
  have h (out : List Nat) : (transfers es).foldl account out = es.foldl account out := by
    induction es generalizing out with
    | nil => rfl
    | cons e es ih => cases e <;> simp [Effect.isTransfer, account, ih]
  exact h []

@[simp] theorem transfers_answer (result : Outcome Unit) (caller : Option Nat) :
    transfers (answer result caller) = [] := by
  cases caller <;> rfl

@[simp] theorem transfers_farewell (wasActive : Bool) : transfers (farewell wasActive) = [] := by
  cases wasActive <;> rfl

@[simp] theorem transfers_written (env : Surroundings) (socket : Option Nat) (o : Outbound) :
    transfers (written env socket o) = [] := by
  cases socket <;> cases h : env.reachable <;> simp [written, h, Effect.isTransfer]

@[simp] theorem transfers_dispatched (env : Surroundings) (socket : Option Nat) (payload : String) :
    transfers (dispatched env socket payload) = [] := by
  unfold dispatched
  split
  · rfl
  · rw [transfers_append]
    refine List.append_eq_nil_iff.mpr ⟨?_, ?_⟩
    · split <;> simp
    · split
      · simp
      · split <;> rfl

theorem Lost.transfers {cfg : Config} {env : Surroundings} {code : Option Nat} {reason : String}
    {s s' : State} {es : List Effect} (h : Lost cfg env code reason s s' es) :
    transfers es = [] := by
  cases h <;> simp [Effect.isTransfer]

theorem Lost.held {cfg : Config} {env : Surroundings} {code : Option Nat} {reason : String}
    {s s' : State} {es : List Effect} (h : Lost cfg env code reason s s' es) :
    s'.held = s.held ∧ s'.dialed = s.dialed := by
  cases h <;> exact ⟨rfl, rfl⟩

/-- Dials and releases that take turns: what is out after them, and how many dials there were. -/
inductive Alternates : List Effect → List Nat → Nat → Prop where
  | nil : Alternates [] [] 0
  | dial {es n} (url) : Alternates es [] n → Alternates (es ++ [.dial n url]) [n] (n + 1)
  | release {es k n} : Alternates es [k] n → Alternates (es ++ [.release k]) [] n

namespace Alternates

theorem live {es : List Effect} {out : List Nat} {n : Nat} (h : Alternates es out n) :
    live es = out := by
  induction h with
  | nil => rfl
  | dial url _ ih => simp_all [Session.live, account]
  | release _ ih => simp_all [Session.live, account]

theorem length_le_one {es : List Effect} {out : List Nat} {n : Nat} (h : Alternates es out n) :
    out.length ≤ 1 := by
  cases h <;> simp

theorem dialed {es : List Effect} {out : List Nat} {n : Nat} (h : Alternates es out n) :
    es.filterMap Effect.dialed? = List.range n := by
  induction h with
  | nil => rfl
  | dial url _ ih => simp [ih, Effect.dialed?, List.range_succ]
  | release _ ih => simp [ih, Effect.dialed?]

/-- What has been dialed is still out, or it has been released. -/
theorem mem_or_released {es : List Effect} {out : List Nat} {n : Nat} (h : Alternates es out n)
    {k : Nat} {url : String} (hk : .dial k url ∈ es) : k ∈ out ∨ .release k ∈ es := by
  induction h with
  | nil => simp at hk
  | dial _ _ ih =>
    rcases List.mem_append.mp hk with hk | hk
    · simpa using Or.inr (ih hk)
    · simp_all
  | release _ ih =>
    rcases List.mem_append.mp hk with hk | hk
    · rcases ih hk with hout | hr
      · simp_all
      · simp [hr]
    · simp at hk

theorem of_prefix {es p : List Effect} {out : List Nat} {n : Nat} (h : Alternates es out n)
    (hp : p <+: es) : ∃ out n, Alternates p out n := by
  induction h with
  | nil => exact ⟨[], 0, List.prefix_nil.mp hp ▸ .nil⟩
  | dial url h ih =>
    rcases List.prefix_concat_iff.mp hp with rfl | hp
    · exact ⟨_, _, .dial url h⟩
    · exact ih hp
  | release h ih =>
    rcases List.prefix_concat_iff.mp hp with rfl | hp
    · exact ⟨_, _, .release h⟩
    · exact ih hp

/-- Nothing is out when the next attempt begins. -/
theorem before_dial {es : List Effect} {out : List Nat} {n k : Nat} {url : String}
    (h : Alternates (es ++ [.dial k url]) out n) : ∃ n, Alternates es [] n := by
  generalize he : es ++ [.dial k url] = es' at h
  cases h with
  | nil => simp at he
  | dial url' h =>
    obtain ⟨rfl, -⟩ := List.append_inj' he rfl
    exact ⟨_, h⟩
  | release h => simpa using (List.append_inj' he rfl).2

end Alternates

theorem State.held_ready {s : State} (hm : s.mode = .ready) :
    s.held = s.pending.toList ++ s.socket.toList := by
  simp [held, hm, Mode.drained]

theorem Begun.alternates {cfg : Config} {env : Surroundings} {s s' : State} {result : Outcome Unit}
    {es past : List Effect} (h : Begun cfg env s result s' es) (hm : s.mode = .ready)
    (hsocket : s.socket = none) (hpending : s.pending = none) (ha : Alternates past [] s.dialed) :
    Alternates (past ++ transfers es) s'.held s'.dialed := by
  cases h with
  | failed _ => simpa [Effect.isTransfer, State.held, hm, Mode.drained, hsocket, hpending] using ha
  | @dialing url _ =>
    simpa [Effect.isTransfer, State.held, hm, Mode.drained, hsocket] using ha.dial url

/-- Every move lets go of what is out before it dials. -/
theorem Move.alternates {cfg : Config} {env : Surroundings} {s s' : State} {input : Input}
    {es past : List Effect} (h : Move cfg env s input s' es) (hs : Sound s)
    (ha : Alternates past s.held s.dialed) :
    Alternates (past ++ transfers es) s'.held s'.dialed := by
  cases h with
  | skip _ | dropSend _ _ | drainText _ => simpa using ha
  | ignore _ _ => simpa [Effect.isTransfer] using ha
  | send _ _ _ | text _ _ => simpa using ha
  | replace hm hp hk =>
    simp only [Sound, hm] at hs
    have hpending := hs.of_socket hk
    simpa [Effect.isTransfer, State.held, State.draining, State.calmed, State.renewed, hm,
      Mode.drained, hk, hpending] using ha
  | connect hm hp hk hb =>
    simp only [Sound, hm] at hs
    have hpending := (hs.bare hp hk).pending
    rw [State.held_ready hm, hk, hpending] at ha
    simpa [Effect.isTransfer] using hb.alternates hm hk hpending ha
  | closeDrain hm hk | leaveDrain hm hk =>
    simp only [Sound, hm] at hs
    -- with a socket held no attempt is in flight, and the drained socket stays out
    have hpending := hs.of_socket hk
    simpa [Effect.isTransfer, State.held, State.draining, State.forsaken, hm, Mode.drained, hk,
      hpending] using ha
  | close hm hk | leave hm hk =>
    rw [State.held_ready hm, hk] at ha
    cases hp : s.pending with
    | none => simpa [Effect.isTransfer, State.held, State.forsaken, hm, Mode.drained, hk, hp] using ha
    | some socket =>
      rw [hp] at ha
      simpa [Effect.isTransfer, State.held, State.forsaken, hm, Mode.drained, hk] using ha.release
  | opened hm hp _ =>
    simp only [Sound, hm] at hs
    have hsocket := (hs.of_pending hp).1
    simpa [Effect.isTransfer, State.held, hm, Mode.drained, hp, hsocket] using ha
  | openCrash hm hp _ =>
    simp only [Sound, hm] at hs
    rw [State.held_ready hm, (hs.of_pending hp).1, hp] at ha
    simpa [Effect.isTransfer, State.held, Mode.drained] using ha.release
  | refused hm hp hl =>
    simp only [Sound, hm] at hs
    have hsocket := (hs.of_pending hp).1
    rw [State.held_ready hm, hsocket, hp] at ha
    rw [hl.held.1, hl.held.2]
    simpa [Effect.isTransfer, hl.transfers, State.held, hm, hsocket, Mode.drained] using ha.release
  | lost hm hk hl | failed hm hk hl =>
    simp only [Sound, hm] at hs
    have hpending := hs.of_socket hk
    rw [State.held_ready hm, hpending, hk] at ha
    rw [hl.held.1, hl.held.2]
    simpa [Effect.isTransfer, hl.transfers, State.held, hm, hpending, Mode.drained] using ha.release
  | ping _ _ _ _ => simpa [State.held] using ha
  | pingCrash hm ht _ _ =>
    simp only [Sound, hm] at hs
    -- the heartbeat runs only while a socket is held
    have hopen := hs.heartbeat_iff.mpr (by simp [ht])
    obtain ⟨socket, hk⟩ := Option.isSome_iff_exists.mp (hs.open_iff.mp hopen)
    have hpending := hs.of_socket hk
    rw [State.held_ready hm, hpending, hk] at ha
    simpa [Effect.isTransfer, State.held, Mode.drained, hk, hpending] using ha.release
  | stable _ _ _ => simpa [Effect.isTransfer, State.held] using ha
  | disarm _ _ _ _ => simpa [State.held] using ha
  | reconnectDrain hm _ _ _ hk =>
    simp only [Sound, hm] at hs
    have hpending := hs.of_socket hk
    simpa [Effect.isTransfer, State.held, State.draining, State.calmed, hm, Mode.drained, hk,
      hpending] using ha
  | reconnect hm ht _ _ hk hb =>
    simp only [Sound, hm] at hs
    have hphase := (hs.reconnect (by simp [ht])).1
    have hpending := (hs.bare (by simp [hphase]) hk).pending
    rw [State.held_ready hm, hk, hpending] at ha
    exact hb.alternates hm hk hpending ha
  | reopen hm _ hb =>
    simp only [Sound, hm] at hs
    obtain ⟨hbare, -, -⟩ := hs
    simp only [State.held, hm, hbare.pending, hbare.socket, Mode.drained] at ha
    simpa [Effect.isTransfer] using hb.alternates rfl hbare.socket hbare.pending ha.release
  | settle hm _ | shutDown hm _ =>
    simp only [Sound, hm] at hs
    obtain ⟨hbare, -, -⟩ := hs
    simp only [State.held, hm, hbare.pending, hbare.socket, Mode.drained] at ha
    simpa [Effect.isTransfer, State.held, Mode.drained, hbare.pending, hbare.socket] using ha.release

theorem alternates_after (cfg : Config) (run : List (Surroundings × Input)) :
    Alternates (transfers (State.initial.trace cfg run)) (State.initial.after cfg run).held
      (State.initial.after cfg run).dialed := by
  have h : Sound (State.initial.after cfg run) ∧
      Alternates (transfers (visible (State.initial.trace cfg run)))
        (State.initial.after cfg run).held (State.initial.after cfg run).dialed :=
    State.run_keeps (P := fun past s => Sound s ∧ Alternates (transfers past) s.held s.dialed)
      ⟨sound_initial, .nil⟩
      (fun h hmove => ⟨hmove.sound h.1, by simpa using hmove.alternates h.1 h.2⟩) run
  rw [transfers_visible] at h
  exact h.2

/-- At every moment of a run at most one attempt or socket is out, which is the one that the session
holds in the end. Nothing is out when it dials: what it dialed before, each time under a number of
its own, has been let go of. -/
theorem one_connection_at_a_time (cfg : Config) (run : List (Surroundings × Input)) :
    let effects := State.initial.trace cfg run
    live effects = (State.initial.after cfg run).held ∧
    (State.initial.after cfg run).held.length ≤ 1 ∧
    ∀ past, past <+: effects →
      (live past).length ≤ 1 ∧
      (∃ n, past.filterMap Effect.dialed? = List.range n) ∧
      ∀ k url, past ++ [.dial k url] <+: effects →
        live past = [] ∧ ∀ j url', .dial j url' ∈ past → .release j ∈ past := by
  intro effects
  have ha := alternates_after cfg run
  have hprefix {past : List Effect} (hp : past <+: effects) :
      ∃ out n, Alternates (transfers past) out n := ha.of_prefix (hp.filter _)
  refine ⟨by rw [← live_transfers]; exact ha.live, ha.length_le_one, fun past hp => ?_⟩
  obtain ⟨out, n, hpast⟩ := hprefix hp
  refine ⟨?_, ⟨n, ?_⟩, fun k url hdial => ?_⟩
  · rw [← live_transfers, hpast.live]
    exact hpast.length_le_one
  · rw [← dialed_transfers]
    exact hpast.dialed
  -- the prefix that ends in the dial shows what is out just before it
  obtain ⟨out', n', hnext⟩ := hprefix hdial
  obtain ⟨n'', hfree⟩ : ∃ n, Alternates (transfers past) [] n := by
    simp only [transfers_append, transfers_cons, transfers_nil, Effect.isTransfer] at hnext
    exact hnext.before_dial
  refine ⟨by rw [← live_transfers]; exact hfree.live, fun j url' hj => ?_⟩
  rcases hfree.mem_or_released (mem_transfers.mpr ⟨hj, rfl⟩) with hout | hr
  · simp at hout
  · exact (mem_transfers.mp hr).1

def redialed : List Effect :=
  State.initial.trace { baseUrl := "http://h" } (lostRun ++ [(calmAt 3015, .reconnectDue)])

theorem one_connection_redialed :
    let url := "ws://h/v1/ws?token=t"
    redialed[19]? = some (.dial 1 url) ∧ live (redialed.take 20) = [1] ∧
    live (redialed.take 19) = [] ∧ .dial 0 url ∈ redialed.take 19 ∧ .release 0 ∈ redialed.take 19 := by
  intro url
  have hsecond : redialed[19]? = some (.dial 1 url) := rfl
  have hfirst : .dial 0 url ∈ redialed.take 19 := by
    refine List.mem_of_getElem? (i := 1) ?_
    rw [List.getElem?_take_of_lt (by decide)]
    rfl
  obtain ⟨-, -, h⟩ := one_connection_at_a_time { baseUrl := "http://h" }
    (lostRun ++ [(calmAt 3015, .reconnectDue)])
  obtain ⟨-, -, halone⟩ := h (redialed.take 19) (List.take_prefix _ _)
  obtain ⟨hlt, hget⟩ := List.getElem?_eq_some_iff.mp hsecond
  obtain ⟨hnone, hreleased⟩ := halone 1 url (by
    rw [← hget, List.take_append_getElem]
    exact List.take_prefix _ _)
  exact ⟨hsecond, by decide +kernel, hnone, hfirst, hreleased 0 url hfirst⟩

end Courier.Session
