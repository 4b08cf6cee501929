import Courier.Proofs.Session.Staying

/-! When pings are sent. Every connection has a cadence of its own: the first ping comes one period after
the connection opened, and the others follow one by one, as long as it is open. Nothing that is handled in
between matters, and a connection that the session has left gets no more pings. -/

namespace Courier.Session

open Time (Ticker)

def Ticking (run : List (Surroundings × Input)) : Prop := (run.map (·.1.moment.ticks)).Pairwise (· ≤ ·)

instance {run : List (Surroundings × Input)} : Decidable (Ticking run) :=
  inferInstanceAs (Decidable (List.Pairwise _ _))

def pingTimes (k : Nat) (records : List Record) : List Nat :=
  records.flatMap fun r => ((r.messagesOn k).filter (·.kind = "ping")).map fun _ => r.env.moment.ticks

namespace Record

def Opens (cfg : Config) (k : Nat) (r : Record) : Prop :=
  r.state.connection? ≠ some k ∧ (r.state.step cfg r.env r.input).state.connection? = some k

def Leaves (cfg : Config) (k : Nat) (r : Record) : Prop :=
  r.state.connection? = some k ∧ (r.state.step cfg r.env r.input).state.connection? ≠ some k

/-- The tick of a ping that is sent because its time has come. -/
def beat? (k : Nat) (r : Record) : Option Nat :=
  match r.input with
  | .heartbeatDue =>
    if r.state.connection? = some k ∧ r.state.beats r.env = true then some r.env.moment.ticks else none
  | _ => none

end Record

/-- Whether pings come every so many milliseconds from the opening of a connection until it is left, and at
no other time. -/
structure Cadence (cfg : Config) (ms k : Nat) (records : List Record) (pings : List Nat) : Prop where
  unopened : (∀ r ∈ records, ¬ r.Opens cfg k) → pings = []
  opened : ∀ o ∈ records, o.Opens cfg k →
    ∃ n, pings = (List.range' 1 n).map (o.env.moment.ticks + · * ms) ∧
      (∀ r ∈ records, r.Leaves cfg k → o.env.moment.ticks + n * ms ≤ r.env.moment.ticks) ∧
      ∀ r ∈ records, r.state.connection? = some k → r.env.moment.ticks ≤ o.env.moment.ticks + (n + 1) * ms

def State.Spent (k : Nat) (s : State) : Prop := k < s.dialed ∧ k ∉ s.kept

variable {cfg : Config} {env : Surroundings} {s s' : State} {input : Input} {es : List Effect} {k : Nat}
  {r : Record} {run : List (Surroundings × Input)}

theorem filter_ping_repliesTo (env : Surroundings) (payload : String) :
    (repliesTo env payload).filter (·.kind = "ping") = [] := by
  rw [List.filter_eq_nil_iff]
  intro o ho
  rcases kind_of_mem_repliesTo ho with hkind | hkind <;> simp [hkind]

theorem pingTimes_single (hinput : r.input.command? = none) : pingTimes k [r] = (r.beat? k).toList := by
  unfold pingTimes Record.messagesOn Record.beat?
  simp only [List.flatMap_singleton]
  by_cases hk : r.state.connection? = some k
  · cases hr : r.input with
    | send o => simp [hr, Input.command?] at hinput
    | received e => cases e <;> simp [hk, filter_ping_repliesTo]
    | heartbeatDue =>
      have hkind : (Outbound.ping r.env.moment.wall r.env.seed).kind = "ping" := rfl
      cases hbeats : r.state.beats r.env <;> simp [hk, hkind]
    | _ => simp
  · cases r.input <;> simp [hk]

theorem beat?_of_command (hinput : r.input.command?.isSome) : r.beat? k = none := by
  unfold Record.beat?
  cases hr : r.input <;> simp [hr, Input.command?] at hinput ⊢

/-- Pings that nobody has sent by hand come with the heartbeat. -/
theorem pingTimes_automatic (k : Nat) (records : List Record) :
    pingTimes k (records.filter (·.input.command?.isNone)) = records.filterMap (·.beat? k) := by
  induction records with
  | nil => rfl
  | cons r records ih =>
    cases hinput : r.input.command? with
    | none =>
      rw [List.filter_cons_of_pos (by simp [hinput]), ← List.singleton_append, pingTimes,
        List.flatMap_append, ← pingTimes, ← pingTimes, pingTimes_single hinput, ih]
      cases hbeat : r.beat? k <;> simp [hbeat]
    | some c =>
      rw [List.filter_cons_of_neg (by simp [hinput]), ih,
        List.filterMap_cons_none (beat?_of_command (by simp [hinput]))]

theorem mem_kept_of_connection (hk : s.connection? = some k) : k ∈ s.kept := by
  obtain ⟨-, -, hsocket⟩ := State.connection?_eq_some.mp hk
  simp [State.kept, hsocket]

theorem Move.spent (h : Move cfg env s input s' es) (hspent : s.Spent k) : s'.Spent k := by
  obtain ⟨hdialed, hkept⟩ := h.kept
  obtain ⟨hlt, hnot⟩ := hspent
  refine ⟨Nat.lt_of_lt_of_le hlt hdialed, ?_⟩
  intro hk
  rcases hkept k hk with hold | rfl
  · exact hnot hold
  · exact Nat.lt_irrefl _ hlt

theorem Move.opens (h : Move cfg env s input s' es) (hs : Sound s) (hk : s.connection? ≠ some k)
    (hk' : s'.connection? = some k) :
    k ∈ s.kept ∧ ∃ ticker, Ticker.startLater? env.moment.ticks cfg.heartbeat = some ticker ∧
      s'.heartbeat = some ticker := by
  have hopened : .opened ∈ emitted es := by
    by_contra hno
    exact hk (h.connection_before hs hk' hno)
  obtain ⟨socket, ticker, -, hp, ht, rfl⟩ := h.of_opened hopened
  obtain ⟨-, -, hsocket⟩ := State.connection?_eq_some.mp hk'
  obtain rfl := Option.some.inj hsocket
  exact ⟨by simp [State.kept, hp], ticker, ht, rfl⟩

/-- What a step makes of the open connection: it lets go of it, or a ping is due, or neither. -/
inductive Goes (k : Nat) (env : Surroundings) (s : State) (input : Input) (s' : State) : Prop where
  | leaves : s'.kept = [] → (∀ es, (Record.mk s env input es).beat? k = none) → Goes k env s input s'
  | stays : s'.connection? = some k → s'.heartbeat = s.heartbeat →
      (∀ es, (Record.mk s env input es).beat? k = none) → Goes k env s input s'
  | beats {ticker next} : input = .heartbeatDue → s.heartbeat = some ticker →
      ticker.due ≤ env.moment.ticks → ticker.advance? env.moment.ticks = some next →
      s'.connection? = some k → s'.heartbeat = some next → Goes k env s input s'

theorem Move.goes (h : Move cfg env s input s' es) (hs : Sound s) (hk : s.connection? = some k) :
    Goes k env s input s' := by
  obtain ⟨hm, hopen, hsocket⟩ := State.connection?_eq_some.mp hk
  have hquiet (hno : s.beats env = false) (es : List Effect) :
      (Record.mk s env .heartbeatDue es).beat? k = none := by
    simp [Record.beat?, hno]
  simp only [Sound, hm] at hs
  have hpending := hs.of_socket hsocket
  cases h with
  | skip hno =>
    refine .stays hk rfl ?_
    cases input with
    | heartbeatDue => exact hquiet (not_beats_of_skip hm hno)
    | _ => exact fun _ => rfl
  | send _ _ _ | text _ _ => exact .stays hk rfl fun _ => rfl
  | stable _ _ _ | disarm _ _ _ _ => exact .stays (State.connection?_eq_some.mpr ⟨hm, hopen, hsocket⟩) rfl fun _ => rfl
  | ping _ ht hdue hnext =>
    exact .beats rfl ht hdue hnext (State.connection?_eq_some.mpr ⟨hm, hopen, hsocket⟩) rfl
  | pingCrash _ ht _ hnext =>
    exact .leaves (by simp [State.kept, hpending]) (hquiet (not_beats_of_crash ht hnext))
  | replace _ _ _ | closeDrain _ _ | reconnectDrain _ _ _ _ _ | leaveDrain _ _ =>
    refine .leaves ?_ fun _ => rfl
    simp [State.kept, State.draining, State.calmed, State.renewed, State.forsaken, hpending]
  | lost _ _ hl | failed _ _ hl =>
    refine .leaves ?_ fun _ => rfl
    rw [hl.kept.1]
    simp [State.kept, hpending]
  | connect _ _ hk _ | close _ hk | leave _ hk | reconnect _ _ _ _ hk _ => simp [hsocket] at hk
  | dropSend _ hk => simp [hk hopen] at hsocket
  | ignore _ hphase => simp [hopen] at hphase
  | opened _ hp _ | openCrash _ hp _ | refused _ hp _ => simp [hpending] at hp
  | reopen hd _ _ | settle hd _ | shutDown hd _ | drainText hd => simp [hm] at hd

theorem State.Spent.connection (h : s.Spent k) : s.connection? ≠ some k :=
  fun hk => h.2 (mem_kept_of_connection hk)

theorem beat?_of_elsewhere (h : r.state.connection? ≠ some k) : r.beat? k = none := by
  unfold Record.beat?
  split
  · simp [h]
  · rfl

theorem spent_after (hspent : s.Spent k) (run : List (Surroundings × Input)) : (s.after cfg run).Spent k := by
  induction run generalizing s with
  | nil => exact hspent
  | cons i run ih => exact ih ((s.step_move cfg i.1 i.2).spent hspent)

theorem spent_records (hspent : s.Spent k) (run : List (Surroundings × Input)) :
    ∀ r ∈ s.records cfg run, r.state.Spent k := by
  intro r hr
  obtain ⟨past, -, -, hstate, -⟩ := mem_records hr
  rw [hstate]
  exact spent_after hspent past

theorem Goes.spent (h : Goes k env s input s') (hlt : k < s'.dialed) : s'.connection? = some k ∨ s'.Spent k := by
  cases h with
  | leaves hkept _ => exact .inr ⟨hlt, by simp [hkept]⟩
  | stays hk' _ _ | beats _ _ _ _ hk' _ => exact .inl hk'

/-- A connection that has opened stays open until it is left for good. -/
theorem connection_or_spent (hs : Sound s) (hk : s.connection? = some k) (hlt : k < s.dialed)
    (run : List (Surroundings × Input)) :
    (s.after cfg run).connection? = some k ∨ (s.after cfg run).Spent k := by
  induction run generalizing s with
  | nil => exact .inl hk
  | cons i run ih =>
    have hmove := s.step_move cfg i.1 i.2
    have hlt' := Nat.lt_of_lt_of_le hlt hmove.kept.1
    rcases (hmove.goes hs hk).spent hlt' with hk' | hspent
    · exact ih (hmove.sound hs) hk' hlt'
    · exact .inr (spent_after hspent run)

/-- The pings of an open connection from the one after the `n`-th on. -/
structure Paced (cfg : Config) (ms k opened n : Nat) (records : List Record) (m : Nat) : Prop where
  pings : records.filterMap (·.beat? k) = (List.range' (n + 1) m).map (opened + · * ms)
  left : ∀ r ∈ records, r.Leaves cfg k → opened + (n + m) * ms ≤ r.env.moment.ticks
  last : ∀ r ∈ records, r.state.connection? = some k → r.env.moment.ticks ≤ opened + (n + m + 1) * ms

def paced (cfg : Config) (ms opened n : Nat) : Ticker := ⟨(opened + (n + 1) * ms) * 1000000, cfg.heartbeat⟩

/-- Nothing comes on a connection that is not open. -/
theorem Paced.of_elsewhere {ms opened n : Nat} {records : List Record}
    (h : ∀ r ∈ records, r.state.connection? ≠ some k) : Paced cfg ms k opened n records 0 where
  pings := List.filterMap_eq_nil_iff.mpr fun r hr => beat?_of_elsewhere (h r hr)
  left r hr hleaves := absurd hleaves.1 (h r hr)
  last r hr hk := absurd hk (h r hr)

theorem Paced.append {ms opened n m : Nat} {before later : List Record}
    (helse : ∀ r ∈ before, r.state.connection? ≠ some k) (h : Paced cfg ms k opened n later m) :
    Paced cfg ms k opened n (before ++ later) m where
  pings := by
    have hnone := List.filterMap_eq_nil_iff.mpr fun r hr => beat?_of_elsewhere (helse r hr)
    rw [List.filterMap_append, hnone, List.nil_append, h.pings]
  left r hr hleaves := by
    rcases List.mem_append.mp hr with hr | hr
    · exact absurd hleaves.1 (helse r hr)
    · exact h.left r hr hleaves
  last r hr hk := by
    rcases List.mem_append.mp hr with hr | hr
    · exact absurd hk (helse r hr)
    · exact h.last r hr hk

theorem exists_paced {ms opened : Nat} (hms : cfg.heartbeat.nanos = ms * 1000000)
    (run : List (Surroundings × Input)) (hfits : ∀ i ∈ run, Time.fits i.1.moment.ticks cfg.heartbeat = true)
    (hticking : Ticking run) {s : State} (hprompt : s.Prompt cfg run) (hs : Sound s)
    (hk : s.connection? = some k) (hlt : k < s.dialed) {n : Nat}
    (ht : s.heartbeat = some (paced cfg ms opened n))
    (hfrom : ∀ i ∈ run, opened + n * ms ≤ i.1.moment.ticks) :
    ∃ m, Paced cfg ms k opened n (s.records cfg run) m := by
  induction run generalizing s n with
  | nil => exact ⟨0, .of_elsewhere (by simp [State.records])⟩
  | cons i run ih =>
    obtain ⟨env, input⟩ := i
    have hmove := s.step_move cfg env input
    obtain ⟨hm, -, -⟩ := State.connection?_eq_some.mp hk
    have hlt' := Nat.lt_of_lt_of_le hlt hmove.kept.1
    have hnow : opened + n * ms ≤ env.moment.ticks := hfrom (env, input) List.mem_cons_self
    have hintime : env.moment.ticks ≤ opened + (n + 1) * ms := by
      have hdue := hprompt.1.of_heartbeat hm ht
      rwa [paced, Ticker.due_mk] at hdue
    obtain ⟨hlater, hticking⟩ := List.pairwise_cons.mp hticking
    have hmore (m : Nat) : opened + (n + 1) * ms ≤ opened + (n + m + 1) * ms :=
      Nat.add_le_add_left (Nat.mul_le_mul_right ms (by omega)) opened
    have hrest := ih (fun i hi => hfits i (List.mem_cons_of_mem _ hi)) hticking hprompt.2 (hmove.sound hs)
    rw [State.records]
    cases hmove.goes hs hk with
    | leaves hkept hquiet =>
      have hspent : (s.step cfg env input).state.Spent k := ⟨hlt', by simp [hkept]⟩
      have hover : Paced cfg ms k opened n ((s.step cfg env input).state.records cfg run) 0 :=
        .of_elsewhere fun r hr => (spent_records hspent run r hr).connection
      refine ⟨0, ?_, ?_, ?_⟩
      · rw [List.filterMap_cons_none (hquiet _), hover.pings]
      · intro r hr hleaves
        rcases List.mem_cons.mp hr with rfl | hr
        · exact hnow
        · exact hover.left r hr hleaves
      · intro r hr hrk
        rcases List.mem_cons.mp hr with rfl | hr
        · exact hintime
        · exact hover.last r hr hrk
    | stays hk' hsame hquiet =>
      obtain ⟨m, hm⟩ := hrest hk' hlt' (hsame.trans ht) fun i hi => hfrom i (List.mem_cons_of_mem _ hi)
      refine ⟨m, ?_, ?_, ?_⟩
      · rw [List.filterMap_cons_none (hquiet _), hm.pings]
      · intro r hr hleaves
        rcases List.mem_cons.mp hr with rfl | hr
        · exact absurd hk' hleaves.2
        · exact hm.left r hr hleaves
      · intro r hr hrk
        rcases List.mem_cons.mp hr with rfl | hr
        · exact Nat.le_trans hintime (hmore m)
        · exact hm.last r hr hrk
    | @beats ticker later hinput ht' hdue hnext hk' hset =>
      -- the ping is on time, and the next one is due a whole period later
      obtain rfl := Option.some.inj (ht'.symm.trans ht)
      have hbeats : s.beats env = true := beats_iff.mpr ⟨_, _, ht', hdue, hnext⟩
      rw [paced, Ticker.due_mk] at hdue
      have hexact : env.moment.ticks = opened + (n + 1) * ms := Nat.le_antisymm hintime hdue
      have hfits := hfits (env, input) List.mem_cons_self
      rw [hexact] at hnext hfits
      rw [paced, Ticker.advance?_in_time hfits, Option.some.injEq] at hnext
      have hperiod : (opened + (n + 1) * ms) * 1000000 + ms * 1000000 = (opened + (n + 1 + 1) * ms) * 1000000 := by
        simp only [Nat.add_mul, Nat.one_mul]
        omega
      have hlater' : later = paced cfg ms opened (n + 1) := by
        rw [← hnext, paced, hms, hperiod]
      obtain ⟨m, hm⟩ := hrest hk' hlt' (hlater' ▸ hset) fun i hi => by
        rw [← hexact]
        exact hlater _ (List.mem_map_of_mem hi)
      have hshift : n + 1 + m = n + (m + 1) := by omega
      refine ⟨m + 1, ?_, ?_, ?_⟩
      · have hbeat : (Record.mk s env input (s.step cfg env input).shown).beat? k = some (opened + (n + 1) * ms) := by
          simp [Record.beat?, hinput, hk, hbeats, hexact]
        rw [List.filterMap_cons_some hbeat, hm.pings, List.range'_succ, List.map_cons]
      · intro r hr hleaves
        rcases List.mem_cons.mp hr with rfl | hr
        · exact absurd hk' hleaves.2
        · exact hshift ▸ hm.left r hr hleaves
      · intro r hr hrk
        rcases List.mem_cons.mp hr with rfl | hr
        · exact Nat.le_trans hintime (hmore (m + 1))
        · exact hshift ▸ hm.last r hr hrk

/-- A connection that never opens is never open. -/
theorem elsewhere_of_unopened (hk : s.connection? ≠ some k) (run : List (Surroundings × Input))
    (hno : ∀ r ∈ s.records cfg run, ¬ r.Opens cfg k) :
    ∀ r ∈ s.records cfg run, r.state.connection? ≠ some k := by
  induction run generalizing s with
  | nil => simp [State.records]
  | cons i run ih =>
    obtain ⟨env, input⟩ := i
    have hk' : (s.step cfg env input).state.connection? ≠ some k :=
      fun hk' => hno _ List.mem_cons_self ⟨hk, hk'⟩
    intro r hr
    rcases List.mem_cons.mp hr with rfl | hr
    · exact hk
    · exact ih hk' (fun r hr => hno r (List.mem_cons_of_mem _ hr)) r hr

theorem dialed_of_kept (past : List (Surroundings × Input)) (hkept : k ∈ (State.initial.after cfg past).kept) :
    k < (State.initial.after cfg past).dialed :=
  (alternates_after cfg past).lt (List.mem_append_left _ hkept)

/-- A connection that opens has not been open before. -/
theorem elsewhere_before (past : List (Surroundings × Input))
    (hkept : k ∈ (State.initial.after cfg past).kept)
    (hk : (State.initial.after cfg past).connection? ≠ some k) :
    ∀ r ∈ State.initial.records cfg past, r.state.connection? ≠ some k := by
  intro r hr hrk
  obtain ⟨before, between, rfl, hstate, -⟩ := mem_records hr
  rw [hstate] at hrk
  have hlt := dialed_of_kept before (mem_kept_of_connection hrk)
  rw [State.after_append] at hk hkept
  rcases connection_or_spent (sound_after cfg before) hrk hlt _ with hstays | hspent
  · exact hk hstays
  · exact hspent.2 hkept

theorem State.Prompt.after {past rest : List (Surroundings × Input)} (h : s.Prompt cfg (past ++ rest)) :
    (s.after cfg past).Prompt cfg rest := by
  induction past generalizing s with
  | nil => exact h
  | cons i past ih => exact ih h.2

/-- From its opening on, a connection has its pings one by one. -/
theorem paced_of_opens {ms : Nat} (hms : cfg.heartbeat = .ofMillis ms)
    (hfits : ∀ i ∈ run, Time.fits i.1.moment.ticks cfg.heartbeat = true) (hticking : Ticking run)
    (hprompt : State.initial.Prompt cfg run) {o : Record} (ho : o ∈ State.initial.records cfg run)
    (hopens : o.Opens cfg k) :
    ∃ m, Paced cfg ms k o.env.moment.ticks 0 (State.initial.records cfg run) m := by
  obtain ⟨past, rest, rfl, hstate, -⟩ := mem_records ho
  rw [Record.Opens, hstate] at hopens
  obtain ⟨hk, hk'⟩ := hopens
  have hmove := (State.initial.after cfg past).step_move cfg o.env o.input
  have hs := sound_after cfg past
  obtain ⟨hkept, ticker, hstart, ht⟩ := hmove.opens hs hk hk'
  have hlt := Nat.lt_of_lt_of_le (dialed_of_kept past hkept) hmove.kept.1
  have hnanos : cfg.heartbeat.nanos = ms * 1000000 := by
    have hfit := hfits (o.env, o.input) (by simp)
    rw [hms] at hfit ⊢
    exact Time.nanos_ofMillis hfit
  have hfirst : ticker = paced cfg ms o.env.moment.ticks 0 := by
    rw [Ticker.eq_of_startLater? hstart, paced, hnanos, Nat.zero_add, Nat.one_mul, Nat.add_mul]
  have hfits' : ∀ i ∈ rest, Time.fits i.1.moment.ticks cfg.heartbeat = true := fun i hi => hfits i (by simp [hi])
  rw [Ticking, List.map_append, List.pairwise_append, List.map_cons, List.pairwise_cons] at hticking
  obtain ⟨-, ⟨hfrom, hticking⟩, -⟩ := hticking
  obtain ⟨m, hm⟩ := exists_paced hnanos rest hfits' hticking hprompt.after.2 (hmove.sound hs) hk' hlt
    (hfirst ▸ ht) fun i hi => by simpa using hfrom _ (List.mem_map_of_mem hi)
  refine ⟨m, ?_⟩
  rw [records_append, State.records, List.append_cons]
  refine hm.append fun r hr => ?_
  rcases List.mem_append.mp hr with hr | hr
  · exact elsewhere_before past hkept hk r hr
  · rw [List.mem_singleton.mp hr]
    exact hk

/-- The frames that a step writes to a connection: what it hands to it, and at most a request to close. -/
theorem framesTo_record (hr : r ∈ State.initial.records cfg run) (k : Nat) :
    ∃ farewell, framesTo k r.effects = (r.messagesOn k).flatMap (handed r.env) ++ farewell ∧
      (farewell = [] ∨ farewell = [.close]) := by
  obtain ⟨hs, s', hmove⟩ := records_move hr
  by_cases hsocket : r.state.socket = some k
  · exact hmove.hands hs hsocket
  · exact ⟨[], by rw [hmove.framesTo_eq_nil hsocket, messagesOn_eq_nil hsocket]; rfl, .inl rfl⟩

/-- The pings of a connection come one period after the other from its opening on, whatever else is handled,
and they are all the messages of their kind, but for those that are sent by hand. -/
theorem pings_keep_time (cfg : Config) (run : List (Surroundings × Input)) {ms : Nat}
    (hms : cfg.heartbeat = .ofMillis ms)
    (hfits : ∀ i ∈ run, Time.fits i.1.moment.ticks cfg.heartbeat = true) (hticking : Ticking run)
    (hprompt : State.initial.Prompt cfg run) (k : Nat) :
    let records := State.initial.records cfg run
    Cadence cfg ms k records (pingTimes k (records.filter (·.input.command?.isNone))) ∧
    ∀ r ∈ records, ∃ farewell, framesTo k r.effects = (r.messagesOn k).flatMap (handed r.env) ++ farewell ∧
      (farewell = [] ∨ farewell = [.close]) := by
  intro records
  refine ⟨?_, fun r hr => framesTo_record hr k⟩
  rw [pingTimes_automatic]
  constructor
  case unopened =>
    intro hno
    have helse := elsewhere_of_unopened (by simp [State.connection?, State.initial]) run hno
    exact List.filterMap_eq_nil_iff.mpr fun r hr => beat?_of_elsewhere (helse r hr)
  case opened =>
    intro o ho hopens
    obtain ⟨m, hm⟩ := paced_of_opens hms hfits hticking hprompt ho hopens
    exact ⟨m, by simpa using hm.pings, by simpa using hm.left, by simpa using hm.last⟩

def brisk : Config := { plain with heartbeat := .ofMillis 100 }

/-- Two connections, the second of which begins out of step with the first; a user pings on the first. -/
def briskRun : List (Surroundings × Input) :=
  [(calmAt 0, .connect 0), (calmAt 5, .dialed (.ok ())), (calmAt 105, .heartbeatDue),
    (calmAt 150, .send (note "ping")), (calmAt 205, .heartbeatDue), (calmAt 260, .received (.closed none "")),
    (calmAt 3260, .reconnectDue), (calmAt 3267, .dialed (.ok ())), (calmAt 3367, .heartbeatDue)]

theorem fits_briskRun : ∀ i ∈ briskRun, Time.fits i.1.moment.ticks brisk.heartbeat = true := by decide +kernel

theorem prompt_briskRun : State.initial.Prompt brisk briskRun := by decide +kernel

theorem pings_keep_time_briskRun :
    let records := State.initial.records brisk briskRun
    let automatic := records.filter (·.input.command?.isNone)
    Cadence brisk 100 0 records (pingTimes 0 automatic) ∧ pingTimes 0 automatic = [105, 205] ∧
    Cadence brisk 100 1 records (pingTimes 1 automatic) ∧ pingTimes 1 automatic = [3367] := by
  intro records automatic
  have hkeep := pings_keep_time brisk briskRun rfl fits_briskRun (by decide) prompt_briskRun
  exact ⟨(hkeep 0).1, by decide +kernel, (hkeep 1).1, by decide +kernel⟩

/-- It is not so that all messages of kind ping keep time: users may send their own. -/
theorem users_ping_out_of_time :
    ¬ ∀ (cfg : Config) (run : List (Surroundings × Input)) (ms k : Nat), 0 < ms →
      cfg.heartbeat = .ofMillis ms → (∀ i ∈ run, Time.fits i.1.moment.ticks cfg.heartbeat = true) →
      Ticking run → State.initial.Prompt cfg run →
      Cadence cfg ms k (State.initial.records cfg run) (pingTimes k (State.initial.records cfg run)) := by
  intro hclaim
  have hcadence := hclaim brisk briskRun 100 0 (by decide) rfl fits_briskRun (by decide) prompt_briskRun
  have hpings : pingTimes 0 (State.initial.records brisk briskRun) = [105, 150, 205] := by decide +kernel
  let before := State.initial.after brisk (briskRun.take 1)
  let opening : Record :=
    ⟨before, calmAt 5, .dialed (.ok ()), (before.step brisk (calmAt 5) (.dialed (.ok ()))).shown⟩
  have hmem : opening ∈ State.initial.records brisk briskRun := .tail _ (.head _)
  have hopens : opening.Opens brisk 0 := by
    unfold Record.Opens
    decide +kernel
  obtain ⟨n, heq, -, -⟩ := hcadence.opened opening hmem hopens
  rw [hpings] at heq
  have hown : 150 ∈ (List.range' 1 n).map (5 + · * 100) := heq ▸ List.Mem.tail _ (.head _)
  obtain ⟨i, -, hi⟩ := List.mem_map.mp hown
  omega

end Courier.Session
