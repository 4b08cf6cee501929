import Courier.Proofs.Coordinator.Runs

/-! What the history of a run says about the tickets. `Ledger` ties it to the state: which tickets were
created and which of them have settled, when, and what the chain of each has sent. -/

namespace Courier.Coordinator

open Time (Moment)

def Record.created? : Record → Option Nat
  | did _ (.created id) => some id
  | _ => none

def Record.settled? : Record → Option Nat
  | did _ (.settled id _) => some id
  | _ => none

def Effect.sender? : Effect → Option Nat
  | sendRefresh id _ | askCode id | sendLogin id _ => some id
  | _ => none

def sent (past : List Record) (id : Nat) : List Effect :=
  past.filterMap fun
    | .did _ e => if e.sender? = some id then some e else none
    | .heard _ _ => none

def Record.isIdle : Record → Bool
  | heard _ _ | did _ (.tell _ _) => true
  | _ => false

/-- What one chain has sent when it gets to a stage, or to its end: it exchanges a refresh token if
there is one, then goes on to the native login, each at most once. -/
inductive Sent (id : Nat) : Option Stage → List Effect → Prop where
  | starting : Sent id (some .starting) []
  | refreshing (token) : Sent id (some (.refreshing token)) [.sendRefresh id token]
  | asking : Sent id (some .askingCode) [.askCode id]
  | fallenBack (token) : Sent id (some .askingCode) [.sendRefresh id token, .askCode id]
  | loggingIn {es} (code) : Sent id (some .askingCode) es →
      Sent id (some .loggingIn) (es ++ [.sendLogin id code])
  | over {stage es} : Sent id (some stage) es → stage ≠ .starting → Sent id none es

@[simp] theorem sent_nil (id : Nat) : sent [] id = [] := rfl

theorem sent_append (a b : List Record) (id : Nat) : sent (a ++ b) id = sent a id ++ sent b id :=
  List.filterMap_append ..

theorem sent_did (now : Moment) (e : Effect) (id : Nat) :
    sent [.did now e] id = if e.sender? = some id then [e] else [] := by
  by_cases h : e.sender? = some id <;> simp [sent, h]

theorem mem_created {past : List Record} {id : Nat} :
    id ∈ past.filterMap Record.created? ↔ ∃ m, .did m (.created id) ∈ past := by
  rw [List.mem_filterMap]
  constructor
  · rintro ⟨x, hx, hid⟩
    unfold Record.created? at hid
    split at hid <;> simp_all
    exact ⟨_, hx⟩
  · rintro ⟨m, hm⟩
    exact ⟨_, hm, rfl⟩

theorem mem_settled {past : List Record} {id : Nat} :
    id ∈ past.filterMap Record.settled? ↔ ∃ m r, .did m (.settled id r) ∈ past := by
  rw [List.mem_filterMap]
  constructor
  · rintro ⟨x, hx, hid⟩
    unfold Record.settled? at hid
    split at hid <;> simp_all
    exact ⟨_, _, hx⟩
  · rintro ⟨m, r, hm⟩
    exact ⟨_, hm, rfl⟩

structure Ledger (cfg : Config) (past : List Record) (s : State) : Prop where
  created : past.filterMap Record.created? = List.range' 1 s.tickets.length
  settled : ∀ id r, (∃ m, .did m (.settled id r) ∈ past) ↔ s.outcome? id = some r
  once : (past.filterMap Record.settled?).Nodup
  grace : ∀ m id r, .did m (.settled id r) ∈ past →
    (s.ticket? id).bind (·.graceEnd) = some (Time.deadline m.ticks cfg.ticketGrace)
  due : ∀ m id, .did m (.created id) ∈ past →
    (s.ticket? id).map (·.deadline) = some (Time.limit m.ticks cfg.refreshTimeout)
  sent : ∀ id, 0 < id → id ≤ s.tickets.length → Sent id (s.stage? id) (sent past id)
  unsent : ∀ id, s.tickets.length < id → Coordinator.sent past id = []

namespace Ledger

variable {cfg : Config} {now : Moment} {past : List Record} {s : State}

theorem initial (store : Option Credentials) : Ledger cfg [] { store } := by
  constructor <;> simp [State.outcome?, State.ticket?]
  omega

theorem congr {s' : State} (h : Ledger cfg past s) (htickets : s'.tickets = s.tickets)
    (hchains : s'.chains = s.chains) : Ledger cfg past s' := by
  obtain ⟨store, latched, slot, tickets, chains⟩ := s'
  subst htickets hchains
  exact ⟨h.1, h.2, h.3, h.4, h.5, h.6, h.7⟩

theorem created_le (h : Ledger cfg past s) {m : Moment} {id : Nat}
    (hid : .did m (.created id) ∈ past) : 0 < id ∧ id ≤ s.tickets.length := by
  have hmem := mem_created.mpr ⟨m, hid⟩
  rw [h.created, List.mem_range'_1] at hmem
  omega

/-- A record that is not about tickets leaves what chains have sent to be shown. -/
theorem extend {s' : State} {x : Record} (h : Ledger cfg past s) (hcreated : x.created? = none)
    (hsettled : x.settled? = none) (htickets : s'.tickets = s.tickets)
    (hsent : ∀ id, 0 < id → id ≤ s.tickets.length →
      Sent id (s'.stage? id) (Coordinator.sent (past ++ [x]) id))
    (hunsent : ∀ id, s.tickets.length < id → Coordinator.sent (past ++ [x]) id = []) :
    Ledger cfg (past ++ [x]) s' := by
  have hticket (id : Nat) : s'.ticket? id = s.ticket? id := by rw [State.ticket?, htickets, State.ticket?]
  have hmem {m : Moment} {id : Nat} {r : Outcome Unit} :
      .did m (.settled id r) ∈ past ++ [x] ↔ .did m (.settled id r) ∈ past := by
    have hne : .did m (.settled id r) ≠ x := by
      rintro rfl
      simp [Record.settled?] at hsettled
    simp [hne]
  constructor
  case created => simp [hcreated, h.created, htickets]
  case settled =>
    intro id r
    rw [State.outcome?, hticket, ← State.outcome?, ← h.settled id r]
    exact exists_congr fun m => hmem
  case once => simpa [hsettled] using h.once
  case grace =>
    intro m id r hm
    rw [hticket]
    exact h.grace m id r (hmem.mp hm)
  case due =>
    intro m id hm
    rw [hticket]
    rcases List.mem_append.mp hm with hp | hx
    · exact h.due m id hp
    · obtain rfl := List.mem_singleton.mp hx
      simp [Record.created?] at hcreated
  case sent => exact htickets ▸ hsent
  case unsent => exact htickets ▸ hunsent

/-- Records that are about neither tickets nor chains change nothing. -/
theorem note (h : Ledger cfg past s) {x : Record} (hx : x.isIdle = true) :
    Ledger cfg (past ++ [x]) s := by
  have hquiet : x.created? = none ∧ x.settled? = none ∧ ∀ id, Coordinator.sent [x] id = [] := by
    unfold Record.isIdle at hx
    split at hx <;> simp_all [Record.created?, Record.settled?, Coordinator.sent, Effect.sender?]
  obtain ⟨hcreated, hsettled, hsent⟩ := hquiet
  refine h.extend hcreated hsettled rfl (fun id h0 hle => ?_) (fun id hlt => ?_)
  · rw [sent_append, hsent, List.append_nil]
    exact h.sent id h0 hle
  · rw [sent_append, hsent, List.append_nil]
    exact h.unsent id hlt

/-- An open ticket settles. -/
theorem settles (h : Ledger cfg past s) (now : Moment) {id : Nat} (r : Outcome Unit)
    (hticket : (s.ticket? id).isSome) (hopen : s.outcome? id = none) :
    Ledger cfg (past ++ [.did now (.settled id r)]) (s.settled cfg now id r) := by
  have hfresh {m : Moment} {r' : Outcome Unit} : .did m (.settled id r') ∉ past := fun hm => by
    have hout := (h.settled id r').mp ⟨m, hm⟩
    simp [hopen] at hout
  have hsent (j : Nat) :
      Coordinator.sent (past ++ [.did now (.settled id r)]) j = Coordinator.sent past j := by
    simp [sent_append, sent_did, Effect.sender?]
  constructor
  case created =>
    simpa [List.filterMap_cons, Record.created?, State.settled] using h.created
  case settled =>
    intro j r'
    rw [State.outcome?_settled]
    by_cases hj : j = id
    · subst hj
      simp [hfresh, hticket, eq_comm]
    · simpa [hj] using h.settled j r'
  case once =>
    have hnot : id ∉ past.filterMap Record.settled? := fun hm => by
      obtain ⟨m, r', hm⟩ := mem_settled.mp hm
      exact hfresh hm
    simp only [List.filterMap_append, List.filterMap_cons, List.filterMap_nil, Record.settled?]
    rw [List.nodup_append]
    refine ⟨h.once, by simp, fun a ha b hb heq => hnot ?_⟩
    rwa [← List.mem_singleton.mp hb, ← heq]
  case grace =>
    intro m j r' hm
    rw [State.ticket?_settled]
    rcases List.mem_append.mp hm with hp | hnew
    · have hj : j ≠ id := fun heq => hfresh (heq ▸ hp)
      simpa [hj] using h.grace m j r' hp
    · simp only [List.mem_singleton, Record.did.injEq, Effect.settled.injEq] at hnew
      obtain ⟨rfl, rfl, rfl⟩ := hnew
      obtain ⟨ticket, ht⟩ := Option.isSome_iff_exists.mp hticket
      simp [ht]
  case due =>
    intro m j hm
    have hold := h.due m j (by simpa using hm)
    rw [State.ticket?_settled, Option.map_map]
    rw [← hold]
    congr 1
    funext ticket
    by_cases hj : j = id <;> simp [hj]
  case sent =>
    intro j h0 hle
    rw [hsent]
    exact h.sent j h0 (by simpa [State.settled] using hle)
  case unsent => simpa only [hsent, State.settled, List.length_map] using h.unsent

/-- A new ticket is created. -/
theorem opens (h : Ledger cfg past s) (hs : Orderly cfg s) :
    Ledger cfg (past ++ [.did now (.created (s.tickets.length + 1))]) (s.opened cfg now) := by
  have hnew := hs.ticket?_beyond (Nat.lt_succ_self _)
  have hsent (j : Nat) :
      Coordinator.sent (past ++ [.did now (.created (s.tickets.length + 1))]) j =
        Coordinator.sent past j := by
    simp [sent_append, sent_did, Effect.sender?]
  have hold {j : Nat} (hj : (s.ticket? j).isSome) : (s.opened cfg now).ticket? j = s.ticket? j := by
    rw [State.ticket?_opened, if_neg]
    rintro rfl
    simp [hnew] at hj
  constructor
  case created =>
    simp [h.created, Record.created?, State.opened, List.range'_concat, Nat.add_comm]
  case settled =>
    intro j r
    rw [State.outcome?_opened]
    by_cases hj : j = s.tickets.length + 1
    · have hout := h.settled j r
      rw [hj] at hout ⊢
      simpa [State.outcome?, hnew] using hout
    · simpa [hj] using h.settled j r
  case once => simpa [List.filterMap_cons, Record.settled?] using h.once
  case grace =>
    intro m j r hm
    have hgrace := h.grace m j r (by simpa using hm)
    rwa [hold]
    cases ht : s.ticket? j <;> simp [ht] at hgrace ⊢
  case due =>
    intro m j hm
    rcases List.mem_append.mp hm with hm | hm
    · have hdue := h.due m j hm
      rwa [hold]
      cases ht : s.ticket? j <;> simp [ht] at hdue ⊢
    · simp only [List.mem_singleton, Record.did.injEq, Effect.created.injEq] at hm
      obtain ⟨rfl, rfl⟩ := hm
      simp [State.ticket?_opened]
  case sent =>
    intro j h0 hle
    rw [hsent, State.stage?_opened]
    by_cases hj : j = s.tickets.length + 1
    · rw [hj, hs.stage?_beyond (Nat.lt_succ_self _), h.unsent _ (Nat.lt_succ_self _)]
      simpa using Sent.starting
    · simpa [hj] using h.sent j h0 (by simp only [State.opened, List.length_cons] at hle; omega)
  case unsent =>
    intro j hj
    rw [hsent]
    exact h.unsent j (by simp only [State.opened, List.length_cons] at hj; omega)

end Ledger

section
variable {cfg : Config} {now : Moment} {past : List Record} {s s' : State} {input : Input}
  {es : List Effect}

theorem Advances.stage {id : Nat} {stage : Stage} {e : Effect}
    (h : Advances cfg now s input id stage e) : (s.stage? id).isSome ∧ e.sender? = some id := by
  cases h with
  | refresh hstage _ | ask hstage _ | fallBack hstage _ | logIn hstage => exact ⟨by simp [hstage], rfl⟩

theorem Advances.sends {id : Nat} {stage : Stage} {e : Effect}
    (h : Advances cfg now s input id stage e) (hsent : Sent id (s.stage? id) es) :
    Sent id (some stage) (es ++ [e]) := by
  cases h with
  | @refresh id token hstage _ =>
    rw [hstage] at hsent
    cases hsent with
    | starting => exact .refreshing token
  | ask hstage _ =>
    rw [hstage] at hsent
    cases hsent with
    | starting => exact .asking
  | fallBack hstage _ =>
    rw [hstage] at hsent
    cases hsent with
    | refreshing _ => exact .fallenBack _
  | @logIn id code hstage =>
    rw [hstage] at hsent
    exact .loggingIn code hsent

theorem Ledger.enters (h : Ledger cfg past s) (hs : Orderly cfg s) {id : Nat} {stage : Stage}
    {e : Effect} (ha : Advances cfg now s input id stage e) :
    Ledger cfg (past ++ [.did now e]) (s.entered id stage) := by
  obtain ⟨hstage, hsender⟩ := ha.stage
  have hknown := (hs.numbered id).mp (hs.chained id hstage)
  have hquiet : Record.created? (.did now e) = none ∧ Record.settled? (.did now e) = none := by
    cases e <;> simp_all [Effect.sender?, Record.created?, Record.settled?]
  refine h.extend hquiet.1 hquiet.2 rfl (fun j h0 hle => ?_) (fun j hlt => ?_)
  · rw [State.stage?_entered, sent_append, sent_did, hsender]
    have hold := h.sent j h0 hle
    by_cases hj : j = id
    · subst hj
      obtain ⟨old, hstage⟩ := Option.isSome_iff_exists.mp hstage
      simpa [hstage] using ha.sends hold
    · simpa [hj, Ne.symm hj] using hold
  · have hne : id ≠ j := by omega
    rw [sent_append, sent_did, hsender, h.unsent j hlt]
    simp [hne]

theorem Ledger.ends (h : Ledger cfg past s) {id : Nat} {ending : Ending}
    (he : Ends cfg now s input id ending) :
    Ledger cfg past ((s.marked ending).ended id ending.report) := by
  obtain ⟨stage, hstage, hstarted⟩ := he.stage
  have hmarked : Ledger cfg past (s.marked ending) := by cases ending <;> exact h.congr rfl rfl
  have hsame : (s.marked ending).stage? id = some stage := by cases ending <;> exact hstage
  have hlength : ((s.marked ending).ended id ending.report).tickets.length =
      (s.marked ending).tickets.length := by simp [State.ended]
  constructor
  case created => rw [hlength, hmarked.created]
  case settled =>
    intro j r
    rw [State.outcome?_ended, hmarked.settled j r]
  case once => exact h.once
  case grace =>
    intro m j r hm
    rw [State.ticket?_ended, ← hmarked.grace m j r hm]
    by_cases hj : j = id <;> cases (s.marked ending).ticket? j <;> simp [hj]
  case due =>
    intro m j hm
    rw [State.ticket?_ended, ← hmarked.due m j hm]
    by_cases hj : j = id <;> cases (s.marked ending).ticket? j <;> simp [hj]
  case sent =>
    intro j h0 hle
    rw [State.stage?_ended]
    have hold := hmarked.sent j h0 (hlength ▸ hle)
    by_cases hj : j = id
    · subst hj
      rw [hsame] at hold
      simpa using hold.over hstarted
    · simpa [hj] using hold
  case unsent => exact hlength ▸ hmarked.unsent

theorem Created.ledger {caller : Nat} (h : Created cfg now caller s s' es) (hl : Ledger cfg past s)
    (hs : Orderly cfg s) : Ledger cfg (past ++ es.map (.did now)) s' := by
  have hopened : Ledger cfg
      (past ++ [.did now (.created (s.tickets.length + 1))] ++
        [.did now (.tell caller (.wait (s.tickets.length + 1)))]) (s.opened cfg now) :=
    (hl.opens hs).note rfl
  cases h with
  | waiting _ => simpa using hopened
  | expired _ =>
    have hticket : ((s.opened cfg now).ticket? (s.tickets.length + 1)).isSome := by
      simp [State.ticket?_opened]
    have hsettled := hopened.settles now (overtime cfg) hticket (by simp [State.outcome?_opened])
    simpa using hsettled

/-- Every move keeps the ledger. -/
theorem Move.ledger (h : Move cfg now s input s' es) (hs : Orderly cfg s) (hl : Ledger cfg past s) :
    Ledger cfg (past ++ records now input es) s' := by
  have hheard : Ledger cfg (past ++ [.heard now input]) s := hl.note rfl
  rw [records, List.append_cons]
  cases h with
  | skip _ => simpa using hheard
  | join _ | refuse _ _ | valid _ _ _ => exact hheard.note rfl
  | create _ _ _ hc => exact hc.ledger hheard hs
  | loginJoin _ _ => exact (hheard.note rfl).congr rfl rfl
  | loginCreate hfree hc =>
    exact hc.ledger (hheard.congr rfl rfl) ((hs.frees hfree).congr rfl rfl rfl)
  | logout | overwrite | release _ _ _ =>
    rw [List.map_nil, List.append_nil]
    exact hheard.congr rfl rfl
  | advance ha => exact hheard.enters hs ha
  | finish he =>
    rw [List.map_nil, List.append_nil]
    exact hheard.ends he
  | hear ht hopen _ | expire ht hopen _ _ =>
    exact hheard.settles now _ (by simp [ht]) (by simp [State.outcome?, ht, hopen])

end

end Courier.Coordinator
