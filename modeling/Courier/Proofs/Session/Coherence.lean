import Courier.Proofs.Session.Runs

/-! The fields of a session that waits for its next input agree with its phase. `Sound` is the
invariant that carries this over a run: it also says what is left of the fields while a socket is
drained and after the session has stopped. -/

namespace Courier.Session

/-- How the fields of a session that waits for an input hang together. -/
structure Coherent (s : State) : Prop where
  connecting_iff : s.phase = .connecting ↔ s.pending.isSome
  open_iff : s.phase = .open ↔ s.socket.isSome
  heartbeat_iff : s.phase = .open ↔ s.heartbeat.isSome
  stability : s.stability.isSome → s.phase = .open
  reconnect : s.reconnect.isSome → s.phase = .closed ∧ s.manualClose = false ∧ 1 ≤ s.attempts
  manual : s.manualClose = true → s.phase = .closed ∧ s.socket = none ∧ s.pending = none ∧
    s.heartbeat = none ∧ s.stability = none ∧ s.reconnect = none
  not_closing : s.phase ≠ .closing

structure Bare (s : State) : Prop where
  socket : s.socket = none
  pending : s.pending = none
  heartbeat : s.heartbeat = none
  stability : s.stability = none
  reconnect : s.reconnect = none

def AfterDrain.isReopen : AfterDrain → Bool
  | reopen _ => true
  | _ => false

def Sound (s : State) : Prop :=
  match s.mode with
  | .ready => Coherent s
  | .draining _ _ next => Bare s ∧ s.phase = .closing ∧ s.manualClose = !next.isReopen
  | .stopped => s.socket = none ∧ s.pending = none

theorem sound_initial : Sound .initial := by
  show Coherent .initial
  constructor <;> simp [State.initial]

theorem Coherent.of_pending {s : State} (h : Coherent s) {socket : Nat}
    (hp : s.pending = some socket) :
    s.socket = none ∧ s.reconnect = none := by
  have hphase : s.phase = .connecting := h.connecting_iff.mpr (by simp [hp])
  have hopen := h.open_iff
  have hreconnect := h.reconnect
  simp_all

theorem Coherent.of_open {s : State} (h : Coherent s) (ho : s.phase = .open) :
    s.pending = none ∧ s.reconnect = none ∧ s.manualClose = false := by
  have hconnecting := h.connecting_iff
  have hreconnect := h.reconnect
  have hmanual := h.manual
  simp_all

theorem Coherent.of_socket {s : State} (h : Coherent s) {socket : Nat} (hk : s.socket = some socket) :
    s.pending = none :=
  (h.of_open (h.open_iff.mpr (by simp [hk]))).1

/-- A session that neither connects nor holds a socket holds nothing, the reconnect timer apart. -/
theorem Coherent.bare {s : State} (h : Coherent s) (hconnecting : s.phase ≠ .connecting)
    (hsocket : s.socket = none) : Bare { s with reconnect := none } := by
  have hopen : s.phase ≠ .open := by simpa [hsocket] using h.open_iff
  exact {
    socket := hsocket
    pending := by simpa [hconnecting] using h.connecting_iff
    heartbeat := by simpa [hopen] using h.heartbeat_iff
    stability := by simpa [hopen] using h.stability
    reconnect := rfl }

theorem Begun.sound {cfg : Config} {env : Surroundings} {s s' : State} {result : Outcome Unit}
    {es : List Effect} (h : Begun cfg env s result s' es) (hm : s.mode = .ready) (hb : Bare s)
    (hc : s.manualClose = false) : Sound s' := by
  cases h with
  | failed _ => simp only [Sound, hm]; constructor <;> simp [hb.1, hb.2, hb.3, hb.4, hb.5, hc]
  | dialing _ => simp only [Sound, hm]; constructor <;> simp [hb.1, hb.3, hb.4, hb.5, hc]

theorem Lost.sound {cfg : Config} {env : Surroundings} {code : Option Nat} {reason : String}
    {s s' : State} {es : List Effect} (h : Lost cfg env code reason s s' es) (hm : s.mode = .ready)
    (hsocket : s.socket = none) (hpending : s.pending = none) (hreconnect : s.reconnect = none) :
    Sound s' := by
  cases h with
  | manual hc =>
    simp only [Sound, State.calmed, hm]; constructor <;> simp [hsocket, hpending, hreconnect]
  | exhausted hc _ =>
    simp only [Sound, State.calmed, hm]; constructor <;> simp [hsocket, hpending, hreconnect]
  | scheduled hc _ =>
    simp only [Sound, State.calmed, hm]; constructor <;> simp [hsocket, hpending, hc]

/-- Every move keeps the invariant. -/
theorem Move.sound {cfg : Config} {env : Surroundings} {s s' : State} {input : Input}
    {es : List Effect} (h : Move cfg env s input s' es) (hs : Sound s) : Sound s' := by
  cases h with
  | skip _ | ignore _ _ | send _ _ _ | dropSend _ _ | text _ _ | drainText _ => exact hs
  | replace hm hp hk =>
    simp only [Sound, hm] at hs
    -- the command has already stopped the reconnect timer
    have hpending : s.pending = none := by simpa [hp] using hs.connecting_iff
    exact ⟨⟨rfl, hpending, rfl, rfl, rfl⟩, rfl, rfl⟩
  | connect hm hp hk hb =>
    simp only [Sound, hm] at hs
    have hbare := hs.bare hp hk
    exact hb.sound hm ⟨hk, hbare.pending, hbare.heartbeat, hbare.stability, rfl⟩ rfl
  | closeDrain hm hk | leaveDrain hm hk => exact ⟨⟨rfl, rfl, rfl, rfl, rfl⟩, rfl, rfl⟩
  | close hm hk =>
    simp only [Sound, State.forsaken, hm]
    constructor <;> simp [hk]
  | opened hm hp ht =>
    simp only [Sound, hm] at hs ⊢
    have hphase := hs.connecting_iff.mpr (by simp [hp])
    have hmanual := hs.manual
    have hreconnect := (hs.of_pending hp).2
    constructor <;> simp_all
  | openCrash hm hp ht | leave hm hk => exact ⟨by simp_all [State.forsaken], rfl⟩
  | refused hm hp hl =>
    simp only [Sound, hm] at hs
    obtain ⟨hsocket, hreconnect⟩ := hs.of_pending hp
    exact hl.sound hm hsocket rfl hreconnect
  | lost hm hk hl | failed hm hk hl =>
    simp only [Sound, hm] at hs
    obtain ⟨hpending, hreconnect, -⟩ := hs.of_open (hs.open_iff.mpr (by simp [hk]))
    exact hl.sound hm rfl hpending hreconnect
  | ping hm ht hdue ha =>
    simp only [Sound, hm] at hs ⊢
    have hopen := hs.heartbeat_iff.mpr (by simp [ht])
    obtain ⟨hpending, hreconnect, hmanual⟩ := hs.of_open hopen
    have hsocket := hs.open_iff
    constructor <;> simp_all
  | pingCrash hm ht hdue ha =>
    simp only [Sound, hm] at hs
    exact ⟨rfl, (hs.of_open (hs.heartbeat_iff.mpr (by simp [ht]))).1⟩
  | stable hm ht hdue =>
    simp only [Sound, hm] at hs ⊢
    have hopen := hs.stability (by simp [ht])
    obtain ⟨hpending, hreconnect, hmanual⟩ := hs.of_open hopen
    have hsocket := hs.open_iff
    have hheartbeat := hs.heartbeat_iff
    constructor <;> simp_all
  | disarm hm ht hdue hc =>
    simp only [Sound, hm] at hs ⊢
    have hmanual := hs.manual hc
    simp_all
  | reconnectDrain hm ht hdue hc hk =>
    simp only [Sound, hm] at hs
    have hphase := (hs.reconnect (by simp [ht])).1
    have hpending : s.pending = none := by simpa [hphase] using hs.connecting_iff
    exact ⟨⟨rfl, hpending, rfl, rfl, rfl⟩, rfl, hc⟩
  | reconnect hm ht hdue hc hk hb =>
    simp only [Sound, hm] at hs
    have hphase := (hs.reconnect (by simp [ht])).1
    exact hb.sound hm (hs.bare (by simp [hphase]) hk) hc
  | reopen hm hend hb =>
    simp only [Sound, hm] at hs
    obtain ⟨hbare, -, hmanual⟩ := hs
    exact hb.sound rfl ⟨hbare.1, hbare.2, hbare.3, hbare.4, hbare.5⟩ hmanual
  | settle hm hend =>
    -- the close was wanted, and nothing was armed while the socket was drained
    simp only [Sound, hm] at hs ⊢
    obtain ⟨⟨hsocket, hpending, hheartbeat, hstability, hreconnect⟩, -, -⟩ := hs
    constructor <;> simp_all
  | shutDown hm hend =>
    simp only [Sound, hm] at hs
    exact ⟨hs.1.socket, hs.1.pending⟩

theorem sound_after (cfg : Config) (run : List (Surroundings × Input)) :
    Sound (State.initial.after cfg run) :=
  State.run_keeps (P := fun _ s => Sound s) sound_initial (fun h hmove => hmove.sound h) run

/-- Whenever a session waits for an input, its fields agree with its phase. -/
theorem coherent_of_ready (cfg : Config) (run : List (Surroundings × Input))
    (h : (State.initial.after cfg run).mode = .ready) : Coherent (State.initial.after cfg run) := by
  have hsound := sound_after cfg run
  simpa only [Sound, h] using hsound

def calmAt (ticks : Nat) : Surroundings :=
  { moment := .ofTicks ticks, seed := 0, token := some "t", reachable := true }

def lostRun : List (Surroundings × Input) :=
  [(calmAt 0, .connect 0), (calmAt 5, .dialed (.ok ())), (calmAt 15, .received (.closed none "gone"))]

theorem coherent_lostRun :
    let s := State.initial.after { baseUrl := "http://h" } lostRun
    s.mode = .ready ∧ s.reconnect = some 3015 ∧ Coherent s :=
  ⟨rfl, by decide +kernel, coherent_of_ready _ _ rfl⟩

end Courier.Session
