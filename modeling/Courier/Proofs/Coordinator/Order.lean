import Courier.Proofs.Coordinator.Steps

/-! How the tickets, the slot and the chains of a coordinator hang together. `Orderly` is kept by
every move: only the latest ticket can be in the slot, every other one has settled, a ticket settles with
what its chain has come to or because its time was up, and an open one has a chain that runs or has ended. -/

namespace Courier.Coordinator

open Time (Moment)

namespace State

variable {cfg : Config} {now : Moment} {s : State}

theorem find?_ticket (f : Ticket → Ticket) (hf : ∀ ticket, (f ticket).id = ticket.id)
    (tickets : List Ticket) (id j : Nat) :
    (tickets.map fun t => if t.id = id then f t else t).find? (·.id == j) =
      (tickets.find? (·.id == j)).map fun t => if j = id then f t else t := by
  rw [List.find?_map]
  have hsame : ((·.id == j) ∘ fun t : Ticket => if t.id = id then f t else t) = (·.id == j) := by
    funext t
    by_cases h : t.id = id <;> simp [h, hf]
  rw [hsame]
  cases hfind : tickets.find? (·.id == j) with
  | none => rfl
  | some t =>
    have hid : t.id = j := by simpa using List.find?_some hfind
    simp [hid]

theorem ticket?_settled (id : Nat) (r : Outcome Unit) (j : Nat) :
    (s.settled cfg now id r).ticket? j = (s.ticket? j).map fun ticket =>
      if j = id then
        { ticket with
          outcome := some r
          graceEnd := some (Time.deadline now.ticks cfg.ticketGrace) }
      else ticket :=
  find?_ticket (fun ticket => { ticket with
    outcome := some r
    graceEnd := some (Time.deadline now.ticks cfg.ticketGrace) }) (fun _ => rfl) s.tickets id j

theorem ticket?_ended (id : Nat) (report : Report) (j : Nat) :
    (s.ended id report).ticket? j = (s.ticket? j).map fun ticket =>
      if j = id then { ticket with reported := some report } else ticket :=
  find?_ticket (fun ticket => { ticket with reported := some report }) (fun _ => rfl) s.tickets id j

theorem ticket?_opened (j : Nat) :
    (s.opened cfg now).ticket? j =
      if j = s.tickets.length + 1 then
        some
          { id := s.tickets.length + 1, deadline := Time.limit now.ticks cfg.refreshTimeout }
      else s.ticket? j := by
  simp only [ticket?, opened]
  by_cases h : j = s.tickets.length + 1
  · rw [if_pos h, List.find?_cons_of_pos (by simp [h])]
  · rw [if_neg h, List.find?_cons_of_neg (by simpa using Ne.symm h)]

theorem outcome?_settled (id : Nat) (r : Outcome Unit) (j : Nat) :
    (s.settled cfg now id r).outcome? j =
      if j = id ∧ (s.ticket? j).isSome then some r else s.outcome? j := by
  unfold outcome?
  rw [ticket?_settled]
  by_cases h : j = id <;> cases s.ticket? j <;> simp [h]

theorem outcome?_opened (j : Nat) :
    (s.opened cfg now).outcome? j = if j = s.tickets.length + 1 then none else s.outcome? j := by
  unfold outcome?
  rw [ticket?_opened]
  by_cases h : j = s.tickets.length + 1 <;> simp [h]

theorem outcome?_ended (id : Nat) (report : Report) (j : Nat) :
    (s.ended id report).outcome? j = s.outcome? j := by
  unfold outcome?
  rw [ticket?_ended]
  by_cases h : j = id <;> cases s.ticket? j <;> simp [h]

theorem reported?_settled (id : Nat) (r : Outcome Unit) (j : Nat) :
    (s.settled cfg now id r).reported? j = s.reported? j := by
  unfold reported?
  rw [ticket?_settled]
  by_cases h : j = id <;> cases s.ticket? j <;> simp [h]

theorem reported?_opened (j : Nat) :
    (s.opened cfg now).reported? j = if j = s.tickets.length + 1 then none else s.reported? j := by
  unfold reported?
  rw [ticket?_opened]
  by_cases h : j = s.tickets.length + 1 <;> simp [h]

theorem reported?_ended (id : Nat) (report : Report) (j : Nat) :
    (s.ended id report).reported? j =
      if j = id ∧ (s.ticket? j).isSome then some report else s.reported? j := by
  unfold reported?
  rw [ticket?_ended]
  by_cases h : j = id <;> cases s.ticket? j <;> simp [h]

theorem stage?_opened (j : Nat) :
    (s.opened cfg now).stage? j =
      (s.stage? j).or (if j = s.tickets.length + 1 then some .starting else none) := by
  simp only [stage?, opened, List.find?_append]
  cases s.chains.find? (·.ticket == j) with
  | some c => simp
  | none =>
    by_cases h : j = s.tickets.length + 1
    · simp [h]
    · simp [h, Ne.symm h]

theorem stage?_entered (id : Nat) (stage : Stage) (j : Nat) :
    (s.entered id stage).stage? j = (s.stage? j).map fun old => if j = id then stage else old := by
  unfold stage? entered
  rw [List.find?_map]
  have hsame : ((·.ticket == j) ∘ fun c : Chain =>
      if c.ticket = id then { c with stage := stage } else c) = (·.ticket == j) := by
    funext c
    by_cases h : c.ticket = id <;> simp [h]
  rw [hsame]
  cases hfind : s.chains.find? (·.ticket == j) with
  | none => rfl
  | some c =>
    have hid : c.ticket = j := by simpa using List.find?_some hfind
    by_cases h : j = id <;> simp [hid, h]

theorem stage?_dropped (id j : Nat) :
    (s.dropped id).stage? j = if j = id then none else s.stage? j := by
  unfold stage? dropped
  rw [List.find?_filter]
  by_cases h : j = id
  · simp [h]
  · have hsame : (fun c : Chain => decide (c.ticket != id ∧ c.ticket == j)) = (·.ticket == j) := by
      funext c
      by_cases hc : c.ticket = j <;> simp [hc, h]
    rw [hsame, if_neg h]

theorem stage?_ended (id : Nat) (report : Report) (j : Nat) :
    (s.ended id report).stage? j = if j = id then none else s.stage? j :=
  stage?_dropped id j

/-- The end of a chain leaves the slot as it is, and no ticket is lost. -/
theorem ended_marked (id : Nat) (ending : Ending) (report : Report) :
    ((s.marked ending).ended id report).slot = s.slot ∧
      ((s.marked ending).ended id report).tickets.length = s.tickets.length := by
  cases ending <;> simp [ended, marked, dropped]

end State

theorem Ends.stage {cfg : Config} {now : Moment} {s : State} {input : Input} {id : Nat} {ending : Ending}
    (h : Ends cfg now s input id ending) : ∃ stage, s.stage? id = some stage ∧ stage ≠ .starting := by
  cases h with
  | refreshed hstage _ | loggedIn hstage _ | refused hstage _ | noCode hstage | crashed hstage =>
    exact ⟨_, hstage, nofun⟩

structure Orderly (cfg : Config) (s : State) : Prop where
  numbered : ∀ id, (s.ticket? id).isSome ↔ 0 < id ∧ id ≤ s.tickets.length
  latest : ∀ id, s.slot = some id → id = s.tickets.length ∧ 0 < id
  settled : ∀ id, 0 < id → id ≤ s.tickets.length → s.slot ≠ some id → (s.outcome? id).isSome
  graced : ∀ id, ((s.ticket? id).bind (·.graceEnd)).isSome → (s.outcome? id).isSome
  chained : ∀ id, (s.stage? id).isSome → (s.ticket? id).isSome
  reported : ∀ id, (s.reported? id).isSome → s.stage? id = none
  told : ∀ id r, s.outcome? id = some r →
    r = overtime cfg ∨ ∃ report, s.reported? id = some report ∧ r = report.outcome
  live : ∀ id, (s.ticket? id).isSome → s.outcome? id = none →
    (s.stage? id).isSome ∨ (s.reported? id).isSome
  single : (s.chains.map (·.ticket)).Nodup

namespace Orderly

variable {cfg : Config} {now : Moment} {s : State}

theorem initial (store : Option Credentials) : Orderly cfg { store } := by
  constructor <;> simp [State.ticket?, State.stage?, State.outcome?] <;> omega

/-- Neither the credentials nor the latch matter. -/
theorem congr {s' : State} (h : Orderly cfg s) (hslot : s'.slot = s.slot)
    (htickets : s'.tickets = s.tickets) (hchains : s'.chains = s.chains) : Orderly cfg s' := by
  obtain ⟨store, latched, slot, tickets, chains⟩ := s'
  subst hslot htickets hchains
  exact ⟨h.1, h.2, h.3, h.4, h.5, h.6, h.7, h.8, h.9⟩

theorem ticket?_beyond (h : Orderly cfg s) {id : Nat} (hid : s.tickets.length < id) :
    s.ticket? id = none := by
  refine Option.not_isSome_iff_eq_none.mp fun hsome => ?_
  have hle := ((h.numbered id).mp hsome).2
  omega

theorem stage?_beyond (h : Orderly cfg s) {id : Nat} (hid : s.tickets.length < id) :
    s.stage? id = none := by
  refine Option.not_isSome_iff_eq_none.mp fun hsome => ?_
  have hticket := h.chained id hsome
  simp [h.ticket?_beyond hid] at hticket

/-- The ticket of a chain that runs is open, or its time is up. -/
theorem slow (h : Orderly cfg s) {id : Nat} (hid : (s.stage? id).isSome) :
    s.outcome? id = none ∨ s.outcome? id = some (overtime cfg) := by
  cases hout : s.outcome? id with
  | none => exact .inl rfl
  | some r =>
    rcases h.told id r hout with rfl | ⟨report, hreport, -⟩
    · exact .inr rfl
    · simp [h.reported id (by simp [hreport])] at hid

/-- A ticket settles with what its chain has come to, or because its time is up. -/
theorem settles (h : Orderly cfg s) {id : Nat} {r : Outcome Unit}
    (hr : r = overtime cfg ∨ ∃ report, s.reported? id = some report ∧ r = report.outcome) :
    Orderly cfg (s.settled cfg now id r) where
  numbered j := by
    rw [State.ticket?_settled, Option.isSome_map]
    simpa [State.settled] using h.numbered j
  latest j hj := by simpa [State.settled] using h.latest j hj
  settled j h0 hle hj := by
    have hold := h.settled j h0 (by simpa [State.settled] using hle) hj
    rw [State.outcome?_settled]
    split
    · rfl
    · exact hold
  graced j hj := by
    rw [State.outcome?_settled]
    split
    case isTrue => rfl
    case isFalse hne =>
      refine h.graced j ?_
      rw [State.ticket?_settled] at hj
      cases ht : s.ticket? j with
      | none => simp [ht] at hj
      | some ticket =>
        have hj' : j ≠ id := fun he => hne ⟨he, by simp [ht]⟩
        simpa [ht, hj'] using hj
  chained j hj := by
    rw [State.ticket?_settled, Option.isSome_map]
    exact h.chained j hj
  reported j hj := h.reported j (by rwa [State.reported?_settled] at hj)
  told j r' hr' := by
    rw [State.reported?_settled]
    rw [State.outcome?_settled] at hr'
    split at hr'
    case isTrue hid =>
      obtain ⟨rfl, -⟩ := hid
      exact Option.some.inj hr' ▸ hr
    case isFalse => exact h.told j r' hr'
  live j hj hopen := by
    rw [State.ticket?_settled, Option.isSome_map] at hj
    rw [State.reported?_settled]
    rw [State.outcome?_settled] at hopen
    split at hopen
    · cases hopen
    · exact h.live j hj hopen
  single := h.single

/-- A new ticket takes the free slot. -/
theorem opens (h : Orderly cfg s) (hslot : s.slot = none) : Orderly cfg (s.opened cfg now) where
  numbered j := by
    rw [State.ticket?_opened]
    by_cases hj : j = s.tickets.length + 1
    · simp [hj, State.opened]
    · rw [if_neg hj, h.numbered j]
      simp only [State.opened, List.length_cons]
      omega
  latest j hj := by
    simp only [State.opened, Option.some.injEq] at hj ⊢
    simp [← hj]
  settled j h0 hle hj := by
    simp only [State.opened, List.length_cons, ne_eq, Option.some.injEq] at hle hj
    rw [State.outcome?_opened, if_neg (Ne.symm hj)]
    exact h.settled j h0 (by omega) (by simp [hslot])
  graced j hj := by
    rw [State.ticket?_opened] at hj
    by_cases hn : j = s.tickets.length + 1
    · simp [hn] at hj
    · rw [State.outcome?_opened, if_neg hn]
      exact h.graced j (by simpa [hn] using hj)
  chained j hj := by
    rw [State.stage?_opened] at hj
    rw [State.ticket?_opened]
    by_cases hn : j = s.tickets.length + 1
    · simp [hn]
    · simpa [hn] using h.chained j (by simpa [hn] using hj)
  reported j hj := by
    rw [State.reported?_opened] at hj
    by_cases hn : j = s.tickets.length + 1
    · simp [hn] at hj
    · rw [State.stage?_opened, if_neg hn, Option.or_none]
      exact h.reported j (by simpa [hn] using hj)
  told j r hr := by
    rw [State.outcome?_opened] at hr
    rw [State.reported?_opened]
    by_cases hn : j = s.tickets.length + 1
    · simp [hn] at hr
    · rw [if_neg hn] at hr ⊢
      exact h.told j r hr
  live j hj hopen := by
    rw [State.ticket?_opened] at hj
    rw [State.outcome?_opened] at hopen
    rw [State.stage?_opened, State.reported?_opened]
    by_cases hn : j = s.tickets.length + 1
    · simp [hn]
    · rw [if_neg hn] at hj hopen
      simpa [hn] using h.live j hj hopen
  single := by
    have hnew : s.tickets.length + 1 ∉ s.chains.map (·.ticket) := by
      have hstage := h.stage?_beyond (Nat.lt_succ_self _)
      simpa [State.stage?] using hstage
    simp only [State.opened, List.map_append, List.map_cons, List.map_nil]
    rw [List.nodup_append]
    refine ⟨h.single, by simp, fun a ha b hb heq => hnew ?_⟩
    rwa [← List.mem_singleton.mp hb, ← heq]

theorem enters (h : Orderly cfg s) (id : Nat) (stage : Stage) : Orderly cfg (s.entered id stage) where
  numbered := h.numbered
  latest := h.latest
  settled := h.settled
  graced := h.graced
  chained j hj := h.chained j (by simpa [State.stage?_entered] using hj)
  reported j hj := by
    rw [State.stage?_entered, Option.map_eq_none_iff]
    exact h.reported j hj
  told := h.told
  live j hj hopen := by
    rw [State.stage?_entered, Option.isSome_map]
    exact h.live j hj hopen
  single := by
    have hsame : ((·.ticket) ∘ fun c : Chain =>
        if c.ticket = id then { c with stage := stage } else c) = (·.ticket) := by
      funext c
      by_cases hc : c.ticket = id <;> simp [hc]
    simpa [State.entered, hsame] using h.single

/-- The slot is freed of a ticket that has settled. -/
theorem frees (h : Orderly cfg s) (hfree : ∀ id, s.slot = some id → (s.outcome? id).isSome) :
    Orderly cfg { s with slot := none } where
  numbered := h.numbered
  latest := by simp
  settled j h0 hle _ := by
    by_cases hj : s.slot = some j
    · exact hfree j hj
    · exact h.settled j h0 hle hj
  graced := h.graced
  chained := h.chained
  reported := h.reported
  told := h.told
  live := h.live
  single := h.single

theorem marked (h : Orderly cfg s) (ending : Ending) : Orderly cfg (s.marked ending) := by
  cases ending <;> exact h.congr rfl rfl rfl

/-- A chain that runs ends. -/
theorem ended (h : Orderly cfg s) {id : Nat} (hid : (s.stage? id).isSome) (report : Report) :
    Orderly cfg (s.ended id report) where
  numbered j := by
    rw [State.ticket?_ended, Option.isSome_map]
    simpa [State.ended] using h.numbered j
  latest j hj := by simpa [State.ended] using h.latest j hj
  settled j h0 hle hj := by
    rw [State.outcome?_ended]
    exact h.settled j h0 (by simpa [State.ended] using hle) hj
  graced j hj := by
    rw [State.outcome?_ended]
    refine h.graced j ?_
    rw [State.ticket?_ended] at hj
    by_cases hn : j = id <;> cases ht : s.ticket? j <;> simp_all
  chained j hj := by
    rw [State.ticket?_ended, Option.isSome_map]
    rw [State.stage?_ended] at hj
    split at hj
    · cases hj
    · exact h.chained j hj
  reported j hj := by
    rw [State.stage?_ended]
    rw [State.reported?_ended] at hj
    by_cases hn : j = id
    · rw [if_pos hn]
    · rw [if_neg hn]
      exact h.reported j (by simpa [hn] using hj)
  told j r hr := by
    rw [State.outcome?_ended] at hr
    rw [State.reported?_ended]
    rcases h.told j r hr with hover | ⟨report', hreport, hr'⟩
    · exact .inl hover
    · -- a chain that runs has not reported before
      have hne : j ≠ id := by
        rintro rfl
        simp [h.reported j (by simp [hreport])] at hid
      exact .inr ⟨report', by simpa [hne] using hreport, hr'⟩
  live j hj hopen := by
    rw [State.ticket?_ended, Option.isSome_map] at hj
    rw [State.outcome?_ended] at hopen
    rw [State.stage?_ended, State.reported?_ended]
    by_cases hn : j = id
    · simp [hn, hn ▸ hj]
    · simpa [hn] using h.live j hj hopen
  single := h.single.sublist (List.filter_sublist.map _)

end Orderly

variable {cfg : Config} {now : Moment} {s s' : State} {es : List Effect}

theorem Created.orderly {caller : Nat} (h : Created cfg now caller s s' es) (hs : Orderly cfg s)
    (hslot : s.slot = none) : Orderly cfg s' := by
  cases h with
  | waiting _ => exact hs.opens hslot
  | expired _ => exact (hs.opens hslot).settles (.inl rfl)

/-- Every move keeps the invariant. -/
theorem Move.orderly {input : Input} (h : Move cfg now s input s' es) (hs : Orderly cfg s) :
    Orderly cfg s' := by
  cases h with
  | skip _ | join _ | refuse _ _ | valid _ _ _ => exact hs
  | create hslot _ _ hc => exact hc.orderly hs hslot
  | loginJoin _ _ | logout | overwrite => exact hs.congr rfl rfl rfl
  | loginCreate hfree hc =>
    exact hc.orderly ((hs.frees hfree).congr rfl rfl rfl) rfl
  | advance _ => exact hs.enters _ _
  | @finish _ id ending he =>
    obtain ⟨stage, hstage, -⟩ := he.stage
    have hmarked : (s.marked ending).stage? id = some stage := by cases ending <;> exact hstage
    exact (hs.marked ending).ended (by simp [hmarked]) _
  | hear ht _ hreport => exact hs.settles (.inr ⟨_, by simp [State.reported?, ht, hreport], rfl⟩)
  | expire _ _ _ _ => exact hs.settles (.inl rfl)
  | @release id due hslot hdue _ =>
    -- a grace period has begun, so the ticket has settled
    refine hs.frees fun id' hid' => ?_
    obtain rfl : id = id' := by simpa [hslot] using hid'
    exact hs.graced id (by simp [hdue])

end Courier.Coordinator
