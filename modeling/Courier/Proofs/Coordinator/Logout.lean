import Courier.Proofs.Coordinator.LateChains

/-! What a logout leaves behind. It empties the store and stops nothing: a chain that runs goes on, and what
it obtains is stored. Apart from that nothing is stored before somebody asks for valid credentials or logs
in, since only these start a chain. -/

namespace Courier.Coordinator

open Time (Moment)

def Input.isCall : Input → Bool
  | ensureValid _ _ | login _ => true
  | _ => false

def Input.isOverwrite : Input → Bool
  | overwrite _ => true
  | _ => false

structure Follows (since s : State) : Prop where
  tickets : since.tickets.length ≤ s.tickets.length
  outcome : ∀ id r, since.outcome? id = some r → s.outcome? id = some r
  ended : ∀ id, id ≤ since.tickets.length → since.stage? id = none → s.stage? id = none
  reported : ∀ id report, since.reported? id = some report → s.reported? id = some report
  heard : ∀ id report r, since.outcome? id = none → since.reported? id = some report →
    s.outcome? id = some r → r = report.outcome

/-- Whether a state has a property, and all states after it, until something happens. -/
def HoldsUntil (cfg : Config) (P : State → Prop) (happens : Moment → State → Input → Prop) :
    State → List (Moment × Input) → Prop
  | s, [] => P s
  | s, i :: run =>
    P s ∧ (happens i.1 s i.2 ∨ HoldsUntil cfg P happens (s.step cfg i.1 i.2).state run)

/-- Whether an input starts a call, or ends with success a chain that ran in an earlier state. -/
def CalledOrStored (cfg : Config) (since : State) (now : Moment) (s : State) (input : Input) : Prop :=
  input.isCall = true ∨ ∃ id c, (since.stage? id).isSome ∧ Ends cfg now s input id (.stored c)

variable {cfg : Config} {now : Moment} {since s s' : State} {input : Input} {es : List Effect}

theorem Follows.refl (s : State) : Follows s s :=
  ⟨Nat.le_refl _, fun _ _ h => h, fun _ _ h => h, fun _ _ h => h, by simp_all⟩

theorem State.outcome?_of_settled {id j : Nat} {r r' : Outcome Unit} (hopen : s.outcome? id = none)
    (h : s.outcome? j = some r) : (s.settled cfg now id r').outcome? j = some r := by
  rw [outcome?_settled, if_neg, h]
  rintro ⟨rfl, -⟩
  simp [hopen] at h

theorem Created.outcome {caller id : Nat} {r : Outcome Unit} (h : Created cfg now caller s s' es)
    (hs : Orderly cfg s) (hr : s.outcome? id = some r) : s'.outcome? id = some r := by
  have hid : id ≠ s.tickets.length + 1 := by
    rintro rfl
    simp [State.outcome?, hs.ticket?_beyond (Nat.lt_succ_self _)] at hr
  have hopened : (s.opened cfg now).outcome? id = some r := by rw [State.outcome?_opened, if_neg hid, hr]
  cases h with
  | waiting _ => exact hopened
  | expired _ => rw [State.outcome?_settled, if_neg (fun h => hid h.1), hopened]

/-- A ticket that has settled keeps its outcome. -/
theorem Move.outcome {id : Nat} {r : Outcome Unit} (h : Move cfg now s input s' es) (hs : Orderly cfg s)
    (hr : s.outcome? id = some r) : s'.outcome? id = some r := by
  cases h with
  | create _ _ _ hc => exact hc.outcome hs hr
  | loginCreate hfree hc => exact hc.outcome ((hs.frees hfree).congr rfl rfl rfl) hr
  | @finish _ j ending _ =>
    have hmarked : (s.marked ending).outcome? id = some r := by cases ending <;> exact hr
    rw [State.outcome?_ended, hmarked]
  | hear ht hopen _ | expire ht hopen _ _ =>
    exact State.outcome?_of_settled (by simp [State.outcome?, ht, hopen]) hr
  | _ => exact hr

theorem Created.reported {caller id : Nat} {report : Report} (h : Created cfg now caller s s' es)
    (hs : Orderly cfg s) (hr : s.reported? id = some report) :
    s'.reported? id = some report ∧ (s.outcome? id = none → s'.outcome? id = none) := by
  have hid : id ≠ s.tickets.length + 1 := by
    rintro rfl
    simp [State.reported?, hs.ticket?_beyond (Nat.lt_succ_self _)] at hr
  have hopened : (s.opened cfg now).reported? id = some report ∧
      (s.outcome? id = none → (s.opened cfg now).outcome? id = none) := by
    rw [State.reported?_opened, if_neg hid, State.outcome?_opened, if_neg hid]
    exact ⟨hr, fun hopen => hopen⟩
  cases h with
  | waiting _ => exact hopened
  | expired _ =>
    rw [State.reported?_settled, State.outcome?_settled, if_neg (fun h => hid h.1)]
    exact hopened

/-- What a chain has come to stays, and is all that an open ticket can settle with. -/
theorem Move.reported {id : Nat} {report : Report} (h : Move cfg now s input s' es) (hs : Orderly cfg s)
    (hreport : s.reported? id = some report) :
    s'.reported? id = some report ∧ (s.outcome? id = none → ∀ r, s'.outcome? id = some r → r = report.outcome) := by
  have hsame : s.outcome? id = none → ∀ r, s.outcome? id = some r → r = report.outcome := by simp_all
  cases h with
  | create _ _ _ hc =>
    obtain ⟨hkept, hopen⟩ := hc.reported hs hreport
    exact ⟨hkept, fun h => by simp [hopen h]⟩
  | loginCreate hfree hc =>
    obtain ⟨hkept, hopen⟩ := hc.reported ((hs.frees hfree).congr rfl rfl rfl) hreport
    exact ⟨hkept, fun h => by simp [hopen h]⟩
  | @finish _ j ending he =>
    -- a chain that ends has not reported before
    have hne : id ≠ j := by
      rintro rfl
      obtain ⟨stage, hstage, -⟩ := he.stage
      simp [hs.reported id (by simp [hreport])] at hstage
    have hmarked : (s.marked ending).reported? id = some report := by cases ending <;> exact hreport
    have houtcome : (s.marked ending).outcome? id = s.outcome? id := by cases ending <;> rfl
    rw [State.reported?_ended, if_neg (fun h => hne h.1), State.outcome?_ended, houtcome]
    exact ⟨hmarked, hsame⟩
  | @hear j ticket report' ht _ hreport' =>
    rw [State.reported?_settled]
    refine ⟨hreport, fun hopen r hr => ?_⟩
    rw [State.outcome?_settled] at hr
    split at hr
    case isTrue hid =>
      obtain rfl := hid.1
      have hagree : report' = report := by simpa [State.reported?, ht, hreport'] using hreport
      exact hagree ▸ (Option.some.inj hr).symm
    case isFalse => exact hsame hopen r hr
  | @expire j ticket ht _ hnone _ =>
    have hne : id ≠ j := by
      rintro rfl
      simp [State.reported?, ht, hnone] at hreport
    rw [State.reported?_settled, State.outcome?_settled, if_neg (fun h => hne h.1)]
    exact ⟨hreport, hsame⟩
  | _ => exact ⟨hreport, hsame⟩

/-- Only calls create tickets, and the new one takes the slot. -/
theorem Move.tickets (h : Move cfg now s input s' es) :
    s'.tickets.length = s.tickets.length ∨ input.isCall = true ∧
      s'.tickets.length = s.tickets.length + 1 ∧ s'.slot = some s'.tickets.length := by
  cases h with
  | create _ _ _ hc => exact .inr ⟨rfl, hc.newest.2, by rw [hc.newest.1, hc.newest.2]⟩
  | loginCreate _ hc => exact .inr ⟨rfl, hc.newest.2, by rw [hc.newest.1, hc.newest.2]⟩
  | finish _ => exact .inl (State.ended_marked _ _ _).2
  | hear _ _ _ | expire _ _ _ _ => exact .inl (by simp [State.settled])
  | _ => exact .inl rfl

theorem Move.follows (h : Move cfg now s input s' es) (hs : Orderly cfg s) (hf : Follows since s) :
    Follows since s' where
  tickets := by
    have hbefore := hf.tickets
    rcases h.tickets with heq | ⟨-, heq, -⟩ <;> omega
  outcome id r hr := h.outcome hs (hf.outcome id r hr)
  ended id hle hnone := (h.gone (Nat.le_trans hle hf.tickets) (hf.ended id hle hnone)).2
  reported id report hreport := (h.reported hs (hf.reported id report hreport)).1
  heard id report r hopen hreport hr := by
    cases hout : s.outcome? id with
    | none => exact (h.reported hs (hf.reported id report hreport)).2 hout r hr
    | some r' =>
      have hsame := h.outcome hs hout
      rw [hr] at hsame
      exact (Option.some.inj hsame).trans (hf.heard id report r' hopen hreport hout)

theorem follows_after (hs : Orderly cfg s) (run : List (Moment × Input)) :
    Orderly cfg (s.after cfg run) ∧ Follows s (s.after cfg run) :=
  State.run_keeps (P := fun _ s' => Orderly cfg s' ∧ Follows s s') ⟨hs, .refl s⟩
    (fun h hmove => ⟨hmove.orderly h.1, hmove.follows h.1 h.2⟩) run

/-- A chain that runs ran before, or its ticket is new. -/
theorem Follows.stage {id : Nat} (hf : Follows since s) (hid : (s.stage? id).isSome) :
    (since.stage? id).isSome ∨ since.tickets.length < id := by
  rcases Nat.lt_or_ge since.tickets.length id with hnew | hold
  · exact .inr hnew
  · cases hstage : since.stage? id with
    | none => simp [hf.ended id hold hstage] at hid
    | some stage => exact .inl rfl

/-- An empty store is filled by the end of a chain. -/
theorem Move.stays_empty (h : Move cfg now s input s' es) (hinput : input.isOverwrite = false)
    (hstore : s.store = none) :
    s'.store = none ∨ ∃ id c, Ends cfg now s input id (.stored c) := by
  cases h with
  | create _ _ _ hc => exact .inl (hc.same.1.trans hstore)
  | loginCreate _ hc => exact .inl (hc.same.1.trans hstore)
  | logout => exact .inl rfl
  | overwrite => cases hinput
  | @finish _ id ending he =>
    cases ending with
    | stored c => exact .inr ⟨id, c, he⟩
    | gaveUp e => exact .inl rfl
    | crashed detail => exact .inl hstore
  | _ => exact .inl hstore

theorem empty_until_called_or_stored (later : List (Moment × Input))
    (hlater : ∀ i ∈ later, i.2.isOverwrite = false) (hs : Orderly cfg s) (hf : Follows since s)
    (htickets : s.tickets.length = since.tickets.length) (hstore : s.store = none) :
    HoldsUntil cfg (fun s => s.store = none) (CalledOrStored cfg since) s later := by
  induction later generalizing s with
  | nil => exact hstore
  | cons i later ih =>
    refine ⟨hstore, ?_⟩
    have hmove := s.step_move cfg i.1 i.2
    rcases hmove.stays_empty (hlater i (by simp)) hstore with hempty | ⟨id, c, hends⟩
    · rcases hmove.tickets with hsame | ⟨hcall, -⟩
      · right
        apply ih (fun i hi => hlater i (by simp [hi])) (hmove.orderly hs) (hmove.follows hs hf)
        · rw [hsame, htickets]
        · exact hempty
      · exact .inl (.inl hcall)
    · obtain ⟨stage, hstage, -⟩ := hends.stage
      have hrunning : (s.stage? id).isSome := by simp [hstage]
      -- no ticket has been created since, so the chain is one of those that ran at the logout
      have hle := ((hs.numbered id).mp (hs.chained id hrunning)).2
      rcases hf.stage hrunning with hold | hnew
      · exact .inl (.inr ⟨id, c, hold, hends⟩)
      · omega

/-- After a logout the store stays empty until a call begins, or a chain that ran already ends with
success. -/
theorem logout_sticks (cfg : Config) (store : Option Credentials) (run later : List (Moment × Input))
    (now : Moment) (hlater : ∀ i ∈ later, i.2.isOverwrite = false) :
    HoldsUntil cfg (fun s => s.store = none) (CalledOrStored cfg (State.after cfg { store } run))
      ((State.after cfg { store } run).step cfg now .logout).state later := by
  have hs := orderly_after cfg store run
  have hmove := (State.after cfg { store } run).step_move cfg now .logout
  exact empty_until_called_or_stored later hlater (hmove.orderly hs) (hmove.follows hs (.refl _)) rfl rfl

def refreshRun : List (Moment × Input) := [(.ofTicks 0, .ensureValid 0 false), (.ofTicks 0, .begin 1)]

theorem logout_sticks_lateFailure :
    (∀ i ∈ lateFailure, i.2.isOverwrite = false) ∧
    HoldsUntil {} (fun s => s.store = none)
      (CalledOrStored {} (State.after {} { store := some staleCredentials } refreshRun))
      ((State.after {} { store := some staleCredentials } refreshRun).step {} (.ofTicks 500) .logout).state
      lateFailure := by
  have hquiet : ∀ i ∈ lateFailure, i.2.isOverwrite = false := by decide
  exact ⟨hquiet, logout_sticks {} _ refreshRun lateFailure (.ofTicks 500) hquiet⟩

/-- It is not so that only a later call fills the store again: a refresh that is under way does. -/
theorem refresh_undoes_logout :
    ¬ ∀ (cfg : Config) (store : Option Credentials) (run later : List (Moment × Input)) (now : Moment),
      (∀ i ∈ run ++ later, i.2.isOverwrite = false) →
      HoldsUntil cfg (fun s => s.store = none) (fun _ _ input => input.isCall = true)
        ((State.after cfg { store } run).step cfg now .logout).state later := by
  intro hclaim
  have hholds := hclaim {} (some staleCredentials) refreshRun
    [(.ofTicks 1000, .exchanged 1 (.ok secondGrant))] (.ofTicks 500) (by decide)
  obtain ⟨-, hcall | hempty⟩ := hholds
  · cases hcall
  · have hstored : (((State.after {} { store := some staleCredentials } refreshRun).step {} (.ofTicks 500)
        .logout).state.step {} (.ofTicks 1000) (.exchanged 1 (.ok secondGrant))).state.store.isSome := by
      decide +kernel
    have hempty : (((State.after {} { store := some staleCredentials } refreshRun).step {} (.ofTicks 500)
        .logout).state.step {} (.ofTicks 1000) (.exchanged 1 (.ok secondGrant))).state.store = none := hempty
    simp [hempty] at hstored

end Courier.Coordinator
