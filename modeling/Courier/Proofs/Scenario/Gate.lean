import Courier.Proofs.Coordinator.Verdicts
import Courier.Proofs.Http.Gate
import Courier.Proofs.Scenario.Frame
import Courier.Scenario.Run

/-! Requests at the gate. A request that comes to the gate has the credentials checked. It is held back while
the check is under way, whatever else happens in the world, and as soon as the check has settled it is let
out, one time and whatever the check has come to. The token that it takes along is the one that is stored
then: the result of the check is logged and goes no further. -/

namespace Courier.Scenario

open Http (Header)
open Coordinator (Effect Verdict Orderly hears hears_visible)

/-- What comes to the gate: a request of the API, or another of which only the headers count. -/
inductive Guarded where
  | request (r : Http.Request)
  | headers (given : List Header)

/-- What leaves the gate: a request that is sent on, or an answer that shows the headers. -/
inductive Passed where
  | request (r : Http.Request)
  | answer (a : Answer)

namespace Guarded

def next : Guarded → AfterCheck
  | request r => .request r
  | headers given => .headers given

def given : Guarded → List Header
  | request r => r.headers
  | headers given => given

def withHeaders (out : List Header) : Guarded → Passed
  | request r => .request { r with headers := out }
  | headers _ => .answer (.value (.array (out.map headerValue)))

def passed (token : Option String) (g : Guarded) : Passed :=
  g.withHeaders (Http.Gate.authorize token g.given).1

end Guarded

namespace World

/-- What the check of a call has come to, once it has settled. -/
def checked? (w : World) (k : Nat) : Option (Outcome Unit) :=
  match (w.calls[k]?).bind (·.verdict) with
  | some (.now checked) => some checked
  | some (.wait ticket) => w.coordinator.outcome? ticket
  | none => none

def stage? (w : World) (k : Nat) : Option Stage := (w.calls[k]?).map (·.stage)

def answer? (w : World) (k : Nat) : Option Answer := (w.calls[k]?).bind (·.result)

def isAtGate (w : World) (k : Nat) : Bool :=
  match w.stage? k with
  | some (.checking _ _) => true
  | _ => false

def IsOpen (w : World) (k : Nat) : Prop := ∃ c, w.calls[k]? = some c ∧ c.result = none

end World

/-- What a call has let out from one world to the next: the requests for whose replies it has begun to wait, and
its answer. -/
def letOut (k : Nat) (w w' : World) : List Passed :=
  ((w'.waits.drop w.waits.length).filterMap fun wait =>
    match wait.arrival with
    | .reply r _ _ => if wait.owner = .call k then some (.request r) else none
    | _ => none) ++
  if (w.answer? k).isNone then (w'.answer? k).toList.map .answer else []

variable {k ticket : Nat} {w w' w'' : World} {next : AfterCheck} {g : Guarded}

structure Hears (k : Nat) (es : List Effect) (w w' : World) : Prop where
  call : w'.calls[k]? = (w.calls[k]?).map fun c => { c with verdict := hears k c.verdict es }
  coordinator : w'.coordinator = w.coordinator
  waits : (∀ e ∈ es, e.isErrand = false) → w'.waits = w.waits
  setup : w'.setup = w.setup

/-- An effect that does not tell the call anything leaves it as it is. -/
theorem Hears.cons {e : Effect} {es : List Effect} {waits : List Wait} (h : Unmoved k { w with waits } w')
    (hwaits : e.isErrand = false → waits = w.waits) (he : ∀ v, hears k v (e :: es) = hears k v es)
    (h' : Hears k es w' w'') : Hears k (e :: es) w w'' := by
  refine ⟨?_, h'.coordinator.trans h.coordinator, fun hes => ?_, h'.setup.trans h.setup⟩
  · rw [h'.call, h.call]
    simp only [he]
  · rw [h'.waits fun e' he' => hes e' (List.mem_cons_of_mem _ he'), h.waits]
    exact hwaits (hes e List.mem_cons_self)

theorem errand_leaves (k : Nat) {e : Effect} (he : e.isErrand = true) (w : World) :
    ∃ wait, Unmoved k { w with waits := w.waits ++ [wait] } (leaves (performCredential e) w) := by
  rw [performCredential, leaves_get_bind]
  cases e with
  | sendRefresh ticket _ | sendLogin ticket _ => exact sendOutcome_leaves k (.chain ticket) true _ w
  | askCode ticket => exact askLogin_leaves k (.chain ticket) w
  | log _ | tell _ _ | created _ | settled _ _ => cases he

theorem hears_perform (k : Nat) (es : List Effect) (w : World) :
    Hears k es w (leaves (es.forM performCredential) w) := by
  induction es generalizing w with
  | nil =>
    exact ⟨Option.map_id'.symm, rfl, fun _ => rfl, rfl⟩
  | cons e es ih =>
    have hsplit : leaves ((e :: es).forM performCredential) w =
        leaves (es.forM performCredential) (leaves (performCredential e) w) := rfl
    rw [hsplit]
    have herrand (he : e.isErrand = true) := errand_leaves k he w
    cases e with
    | log line => exact .cons (unmoved_log k line w) (fun _ => rfl) (fun _ => rfl) (ih _)
    | tell caller verdict =>
      have hlater := ih (leaves (performCredential (.tell caller verdict)) w)
      refine ⟨?_, hlater.coordinator, fun hes => ?_, hlater.setup⟩
      · have htold : (leaves (performCredential (.tell caller verdict)) w).calls[k]? =
            (w.calls.modify caller fun c => { c with verdict := some verdict })[k]? := rfl
        rw [hlater.call, htold, Array.getElem?_modify]
        by_cases hk : caller = k <;> simp [hears, hk, Function.comp_def]
      · exact hlater.waits fun e' he' => hes e' (List.mem_cons_of_mem _ he')
    | created ticket =>
      have hwakes := (unmoved_wake k (.keeper ticket) w).trans (unmoved_wake k (.chain ticket) _)
      exact .cons hwakes (fun _ => rfl) (fun _ => rfl) (ih _)
    | settled ticket result =>
      have hwakes := (unmoved_wakeCalls k (isChecking ticket) w).trans (unmoved_wake k (.keeper ticket) _)
      exact .cons hwakes (fun _ => rfl) (fun _ => rfl) (ih _)
    | sendRefresh _ _ | askCode _ | sendLogin _ _ =>
      obtain ⟨wait, hdone⟩ := herrand rfl
      exact .cons hdone (by simp [Effect.isErrand]) (fun _ => rfl) (ih _)

theorem coordinate_leaves (k : Nat) (input : Coordinator.Input) (w : World) :
    let turn := w.coordinator.step w.setup.coordinator w.moment input
    Hears k turn.effects { w with coordinator := turn.state } (leaves (coordinate input) w) :=
  hears_perform k _ _

theorem afterVerdict_now {checked : Outcome Unit}
    (h : (w.calls[k]?).bind (·.verdict) = some (.now checked)) :
    leaves (afterVerdict k next) w = leaves (afterCheck k next checked) w := by
  rw [afterVerdict, leaves_get_bind, h]

theorem afterVerdict_wait (h : (w.calls[k]?).bind (·.verdict) = some (.wait ticket)) :
    leaves (afterVerdict k next) w = leaves (enterStage k (.checking ticket next)) w := by
  rw [afterVerdict, leaves_get_bind, h]

/-- A call has gone on from the gate: this and nothing else has been let out. -/
structure GoesOn (k : Nat) (g : Guarded) (w w' : World) : Prop where
  out : letOut k w w' = [g.passed w'.coordinator.accessToken?]
  coordinator : w'.coordinator = w.coordinator
  verdict : (w'.calls[k]?).bind (·.verdict) = (w.calls[k]?).bind (·.verdict)
  gone : w'.isAtGate k = false

theorem afterCheck_request (r : Http.Request) (checked : Outcome Unit) (hopen : w.IsOpen k) :
    GoesOn k (.request r) w (leaves (afterCheck k (.request r) checked) w) := by
  obtain ⟨c, hc, hresult⟩ := hopen
  have hlogged := unmoved_logAll k (Http.Gate.pass checked w.coordinator.accessToken? r.headers).2 w
  generalize hw₁ : leaves (logAll _) w = w₁ at hlogged
  obtain ⟨due, reply, hsent⟩ := sendRequest_leaves k (.call k) true
    { r with headers := (Http.Gate.authorize w.coordinator.accessToken? r.headers).1 }
    (leaves (enterStage k .fetching) w₁)
  have hsplit : leaves (afterCheck k (.request r) checked) w = leaves (sendRequest (.call k) true
      { r with headers := (Http.Gate.authorize w.coordinator.accessToken? r.headers).1 })
      (leaves (enterStage k .fetching) w₁) := by
    rw [← hw₁]
    rfl
  rw [hsplit]
  generalize leaves (sendRequest _ _ _) _ = w' at hsent ⊢
  have hwaits : w'.waits = w.waits ++ [⟨.call k, due, .reply _ true reply⟩] :=
    hsent.waits.trans (congrArg (· ++ _) hlogged.waits)
  have hcall : w'.calls[k]? = some { c with stage := .fetching } := by
    have hstage : (leaves (enterStage k .fetching) w₁).calls =
        w₁.calls.modify k fun c => { c with stage := .fetching } := rfl
    rw [hsent.call, hstage, Array.getElem?_modify, if_pos rfl, hlogged.call, hc]
    rfl
  have hcoordinator : w'.coordinator = w.coordinator := hsent.coordinator.trans hlogged.coordinator
  refine ⟨?_, hcoordinator, ?_, ?_⟩
  · simp [letOut, Guarded.passed, Guarded.withHeaders, Guarded.given, World.answer?, hwaits, hcall, hc,
      hresult, hcoordinator]
  · simp [hcall, hc]
  · simp [World.isAtGate, World.stage?, hcall]

theorem afterCheck_headers (given : List Header) (checked : Outcome Unit) (hopen : w.IsOpen k) :
    GoesOn k (.headers given) w (leaves (afterCheck k (.headers given) checked) w) := by
  obtain ⟨c, hc, hresult⟩ := hopen
  have hlogged := unmoved_logAll k (Http.Gate.pass checked w.coordinator.accessToken? given).2 w
  generalize hw₁ : leaves (logAll _) w = w₁ at hlogged
  have hended := endCall_leaves
    (.value (.array ((Http.Gate.authorize w.coordinator.accessToken? given).1.map headerValue)))
    (hlogged.call.trans hc)
  have hsplit : leaves (afterCheck k (.headers given) checked) w = leaves (endCall k
      (.value (.array ((Http.Gate.authorize w.coordinator.accessToken? given).1.map headerValue)))) w₁ := by
    rw [← hw₁]
    rfl
  rw [hsplit]
  generalize leaves (endCall _ _) _ = w' at hended ⊢
  have hwaits : w'.waits.length ≤ w.waits.length := by
    rw [hended.waits, ← hlogged.waits]
    exact List.length_filter_le ..
  have hcoordinator : w'.coordinator = w.coordinator := hended.coordinator.trans hlogged.coordinator
  have hcall := hended.call
  rw [Array.getElem?_modify, if_pos rfl, hlogged.call, hc, Option.map_some] at hcall
  refine ⟨?_, hcoordinator, ?_, ?_⟩
  · simp [letOut, Guarded.passed, Guarded.withHeaders, Guarded.given, World.answer?,
      List.drop_eq_nil_of_le hwaits, hcall, hc, hresult, hcoordinator]
  · simp [hcall, hc]
  · simp [World.isAtGate, World.stage?, hcall]

theorem afterCheck_goesOn (g : Guarded) (checked : Outcome Unit) (hopen : w.IsOpen k) :
    GoesOn k g w (leaves (afterCheck k g.next checked) w) := by
  cases g with
  | request r => exact afterCheck_request r checked hopen
  | headers given => exact afterCheck_headers given checked hopen

/-- What else may happen while a call is at the gate: nobody touches the call, and the coordinator goes on. -/
structure Elsewhere (k : Nat) (w w' : World) : Prop where
  call : w'.calls[k]? = w.calls[k]?
  coordinator : ∃ run, w'.coordinator = w.coordinator.after w.setup.coordinator run
  setup : w'.setup = w.setup

theorem Elsewhere.of_unmoved (h : Unmoved k w w') : Elsewhere k w w' := ⟨h.call, ⟨[], h.coordinator⟩, h.setup⟩

theorem Elsewhere.trans (h : Elsewhere k w w') (h' : Elsewhere k w' w'') : Elsewhere k w w'' := by
  obtain ⟨run, hrun⟩ := h.coordinator
  obtain ⟨run', hrun'⟩ := h'.coordinator
  refine ⟨h'.call.trans h.call, ⟨run ++ run', ?_⟩, h'.setup.trans h.setup⟩
  rw [hrun', hrun, h.setup, Coordinator.State.after_append]

/-- What the coordinator does for others is elsewhere. -/
theorem elsewhere_coordinate {input : Coordinator.Input} (hother : input.caller? ≠ some k) (w : World) :
    Elsewhere k w (leaves (coordinate input) w) := by
  have hheard := coordinate_leaves k input w
  refine ⟨?_, ⟨[(w.moment, input)], hheard.coordinator⟩, hheard.setup⟩
  have hmove := w.coordinator.step_move w.setup.coordinator w.moment input
  have hdeaf (v : Option Verdict) := (hears_visible k v _).symm.trans (hmove.hears_of_other hother v)
  rw [hheard.call]
  simp only [hdeaf]
  exact Option.map_id'

/-- So is what the keeper of a ticket does. -/
theorem elsewhere_keeperStep (k ticket : Nat) (w : World) : Elsewhere k w (leaves (keeperStep ticket) w) := by
  have hsame : Elsewhere k w w := .of_unmoved (.refl k w)
  rw [keeperStep, leaves_get_bind]
  split
  · exact hsame
  split
  · split
    · exact elsewhere_coordinate (by simp [Coordinator.Input.caller?]) w
    · exact hsame
  · split
    · exact elsewhere_coordinate (by simp [Coordinator.Input.caller?]) w
    · exact hsame
  · exact hsame

theorem elsewhere_chainArrival (k ticket : Nat) (arrival : Arrival) (w : World) :
    Elsewhere k w (leaves (chainArrival ticket arrival) w) := by
  cases arrival with
  | code _ | refusal _ => exact elsewhere_coordinate (by simp [Coordinator.Input.caller?]) w
  | reply r _ reply =>
    have hlogged := (unmoved_log k (replyLine w.setup.verbose r reply) w).trans
      (unmoved_logAll k (Exchange.grant r.address reply).2 _)
    exact (Elsewhere.of_unmoved hlogged).trans (elsewhere_coordinate (by simp [Coordinator.Input.caller?]) _)

theorem elsewhere_pollEnded (k ticket : Nat) (w : World) : Elsewhere k w (leaves (pollEnded ticket) w) := by
  rw [pollEnded, leaves_get_bind]
  split
  · exact elsewhere_coordinate (by simp [Coordinator.Input.caller?]) w
  · exact .of_unmoved (.refl k w)

/-- So is what the chain of a ticket does. -/
theorem elsewhere_chainStep (k ticket : Nat) (w : World) : Elsewhere k w (leaves (chainStep ticket) w) := by
  have hsame (w : World) : Elsewhere k w w := .of_unmoved (.refl k w)
  rw [chainStep, leaves_get_bind]
  split
  · exact hsame w
  · exact elsewhere_coordinate (by simp [Coordinator.Input.caller?]) w
  · obtain ⟨waits, htaken⟩ := takeArrival_leaves k (.chain ticket) w
    have hfirst : Elsewhere k w (leaves (takeArrival (.chain ticket)) w) :=
      ⟨htaken.call, ⟨[], htaken.coordinator⟩, htaken.setup⟩
    refine hfirst.trans ?_
    rw [leaves_bind]
    generalize leaves (takeArrival (.chain ticket)) w = w₁
    cases ((takeArrival (.chain ticket)).run w).1 with
    | none => exact hsame w₁
    | some arrival => exact (elsewhere_chainArrival k ticket arrival w₁).trans (elsewhere_pollEnded k ticket _)

/-- The passage of a request: it comes to the gate, and as long as it is there turns of its call alternate with
whatever else happens. What it has let out is collected, each with the world right after. -/
inductive Passage (k : Nat) (g : Guarded) (w₀ : World) : World → List (World × Passed) → Prop where
  | arrive {w : World} : w = leaves (check k false g.next) w₀ → Passage k g w₀ w ((letOut k w₀ w).map (w, ·))
  | elsewhere {w w' : World} {out} : Passage k g w₀ w out → Elsewhere k w w' → Passage k g w₀ w' out
  | turn {w w' : World} {out} : Passage k g w₀ w out → w.isAtGate k = true → w' = leaves (callStep k) w →
      Passage k g w₀ w' (out ++ (letOut k w w').map (w', ·))

/-- One thing has been let out, after the check has settled and with the token that was stored then. -/
structure Passes (k : Nat) (g : Guarded) (w : World) (out : List (World × Passed)) : Prop where
  once : ∃ w', out = [(w', g.passed w'.coordinator.accessToken?)] ∧ (w'.checked? k).isSome
  gone : w.isAtGate k = false

theorem GoesOn.passes (h : GoesOn k g w w') (hchecked : (w.checked? k).isSome) :
    Passes k g w' ((letOut k w w').map (w', ·)) := by
  refine ⟨⟨w', by simp [h.out], ?_⟩, h.gone⟩
  unfold World.checked? at hchecked ⊢
  rwa [h.verdict, h.coordinator]

structure Waits (k : Nat) (g : Guarded) (ticket : Nat) (w : World) : Prop where
  stage : w.stage? k = some (.checking ticket g.next)
  verdict : (w.calls[k]?).bind (·.verdict) = some (.wait ticket)
  isOpen : w.IsOpen k
  ticket : (w.coordinator.ticket? ticket).isSome
  orderly : Orderly w.setup.coordinator w.coordinator

theorem Waits.checked (h : Waits k g ticket w) : w.checked? k = w.coordinator.outcome? ticket := by
  rw [World.checked?, h.verdict]

theorem letOut_of_waits (hwaits : w'.waits = w.waits) (hanswer : w'.answer? k = w.answer? k) :
    letOut k w w' = [] := by
  cases h : w.answer? k <;> simp [letOut, hwaits, hanswer, h]

theorem arrival (g : Guarded) (hopen : w.IsOpen k) (hs : Orderly w.setup.coordinator w.coordinator) :
    let w' := leaves (check k false g.next) w
    letOut k w w' = [] ∧ (∃ ticket, Waits k g ticket w') ∨ Passes k g w' ((letOut k w w').map (w', ·)) := by
  intro w'
  obtain ⟨c, hc, hresult⟩ := hopen
  obtain ⟨herrands, htells⟩ := Coordinator.ensureValid_tells hs w.moment k false
  have horderly := (w.coordinator.step_move w.setup.coordinator w.moment (.ensureValid k false)).orderly hs
  have hheard := coordinate_leaves k (.ensureValid k false) w
  have hsplit : w' = leaves (afterVerdict k g.next) (leaves (coordinate (.ensureValid k false)) w) := rfl
  generalize leaves (coordinate (.ensureValid k false)) w = w₁ at hheard hsplit
  have hcall := hheard.call
  have hwaits : w₁.waits = w.waits := hheard.waits herrands
  simp only [hc, Option.map_some] at hcall
  have hanswer : w₁.answer? k = w.answer? k := by
    simp [World.answer?, hcall, hc]
  rcases htells with ⟨checked, hnow⟩ | ⟨ticket, hwait, hticket⟩
  · right
    have hverdict : (w₁.calls[k]?).bind (·.verdict) = some (.now checked) := by
      rw [hcall, Option.bind_some]
      exact hnow _
    have hpasses := (afterCheck_goesOn g checked ⟨_, hcall, hresult⟩).passes
      (by rw [World.checked?, hverdict]; rfl)
    rw [hsplit, afterVerdict_now hverdict]
    unfold letOut at hpasses ⊢
    rwa [← hwaits, ← hanswer]
  · left
    have hverdict : (w₁.calls[k]?).bind (·.verdict) = some (.wait ticket) := by
      rw [hcall, Option.bind_some]
      exact hwait _
    rw [hsplit, afterVerdict_wait hverdict]
    generalize hleft : leaves (enterStage k (.checking ticket g.next)) w₁ = w₂
    have hcall₂ : w₂.calls[k]? = (w₁.calls[k]?).map fun c => { c with stage := .checking ticket g.next } := by
      rw [← hleft]
      exact (Array.getElem?_modify ..).trans (if_pos rfl)
    have hcoordinator : w₂.coordinator =
        (w.coordinator.step w.setup.coordinator w.moment (.ensureValid k false)).state := by
      rw [← hleft]
      exact hheard.coordinator
    have hsetup : w₂.setup = w.setup := by
      rw [← hleft]
      exact hheard.setup
    rw [hcall, Option.map_some] at hcall₂
    refine ⟨letOut_of_waits ?_ ?_, ticket, ?_, ?_, ⟨_, hcall₂, hresult⟩, ?_, ?_⟩
    · rw [← hleft, ← hwaits]
      rfl
    · simp [World.answer?, hcall₂, hc]
    · simp [World.stage?, hcall₂]
    · rw [← hverdict, hcall₂, hcall]
      rfl
    · rw [hcoordinator]
      exact hticket
    · rw [hsetup, hcoordinator]
      exact horderly

/-- A turn of a call at the gate does nothing before its ticket has settled, and lets it pass after that. -/
theorem Waits.turn (h : Waits k g ticket w) :
    let w' := leaves (callStep k) w
    w.checked? k = none ∧ w' = w ∨
      (w.checked? k).isSome ∧ Passes k g w' ((letOut k w w').map (w', ·)) := by
  intro w'
  obtain ⟨c, hc, hcstage⟩ := Option.map_eq_some_iff.mp h.stage
  cases houtcome : w.coordinator.outcome? ticket with
  | none =>
    have hstays : w' = w := by
      show leaves (callStep k) w = w
      rw [callStep, leaves_get_bind]
      simp only [hc, hcstage, houtcome]
      rfl
    exact .inl ⟨h.checked.trans houtcome, hstays⟩
  | some checked =>
    have hgoes : w' = leaves (afterCheck k g.next checked) w := by
      show leaves (callStep k) w = _
      rw [callStep, leaves_get_bind]
      simp only [hc, hcstage, houtcome]
      rfl
    have hchecked : (w.checked? k).isSome := by
      rw [h.checked, houtcome]
      rfl
    rw [hgoes]
    exact .inr ⟨hchecked, (afterCheck_goesOn g checked h.isOpen).passes hchecked⟩

theorem Waits.elsewhere (h : Waits k g ticket w) (he : Elsewhere k w w') : Waits k g ticket w' := by
  obtain ⟨run, hrun⟩ := he.coordinator
  refine ⟨?_, ?_, ?_, ?_, ?_⟩
  · rw [World.stage?, he.call]
    exact h.stage
  · rw [he.call]
    exact h.verdict
  · rw [World.IsOpen, he.call]
    exact h.isOpen
  · rw [hrun]
    exact Coordinator.ticket?_after h.orderly h.ticket run
  · rw [he.setup, hrun]
    exact (Coordinator.follows_after h.orderly run).1

theorem Passes.elsewhere {out : List (World × Passed)} (h : Passes k g w out) (he : Elsewhere k w w') :
    Passes k g w' out := by
  refine ⟨h.once, ?_⟩
  rw [World.isAtGate, World.stage?, he.call]
  exact h.gone

/-- On its way a request either waits for its ticket, or has passed the gate. -/
theorem Passage.waits_or_passes {w₀ : World} {out : List (World × Passed)} (h : Passage k g w₀ w out)
    (hopen : w₀.IsOpen k) (hs : Orderly w₀.setup.coordinator w₀.coordinator) :
    out = [] ∧ (∃ ticket, Waits k g ticket w) ∨ Passes k g w out := by
  induction h with
  | arrive hw =>
    subst hw
    rcases arrival g hopen hs with ⟨hnone, hwaits⟩ | hpasses
    · exact .inl ⟨by rw [hnone]; rfl, hwaits⟩
    · exact .inr hpasses
  | elsewhere _ he ih =>
    rcases ih with ⟨hnone, ticket, hwaits⟩ | hpasses
    · exact .inl ⟨hnone, ticket, hwaits.elsewhere he⟩
    · exact .inr (hpasses.elsewhere he)
  | turn _ hgate hw ih =>
    rcases ih with ⟨rfl, ticket, hwaits⟩ | hpasses
    · rw [hw]
      rcases hwaits.turn with ⟨-, hsame⟩ | ⟨-, hpasses⟩
      · rw [hsame, letOut_of_waits rfl rfl]
        exact .inl ⟨rfl, ticket, hwaits⟩
      · exact .inr hpasses
    · -- who has passed the gate is not at it
      rw [hpasses.gone] at hgate
      cases hgate

/-- When the time of a ticket is up, its keeper settles the check. -/
theorem Waits.keeper {t : Coordinator.Ticket} (h : Waits k g ticket w)
    (ht : w.coordinator.ticket? ticket = some t) (hdue : t.deadline ≤ w.now) :
    ((leaves (keeperStep ticket) w).checked? k).isSome := by
  have helse := elsewhere_keeperStep k ticket w
  rw [(h.elsewhere helse).checked]
  cases houtcome : w.coordinator.outcome? ticket with
  | some checked =>
    obtain ⟨run, hrun⟩ := helse.coordinator
    have hkept := (Coordinator.follows_after h.orderly run).2.outcome ticket checked houtcome
    rw [hrun, hkept]
    rfl
  | none =>
    have hopen : t.outcome = none := by simpa [Coordinator.State.outcome?, ht] using houtcome
    have hsplit : leaves (keeperStep ticket) w = leaves (coordinate (.poll ticket)) w := by
      rw [keeperStep, leaves_get_bind]
      simp only [ht, hopen, hdue, decide_true, Bool.or_true, if_pos]
      rfl
    rw [hsplit, (coordinate_leaves k (.poll ticket) w).coordinator]
    exact Coordinator.poll_settles ht hdue

/-- A call is held back by a check that is under way. The keeper of its ticket settles the check when the time
is up at the latest, and the first turn after that lets the call pass. -/
structure Held (k : Nat) (g : Guarded) (w : World) : Prop where
  atGate : w.isAtGate k = true
  settles : ∃ ticket t, w.coordinator.ticket? ticket = some t ∧
    (t.deadline ≤ w.now → ((leaves (keeperStep ticket) w).checked? k).isSome)
  goesOn : (w.checked? k).isSome →
    let w' := leaves (callStep k) w
    Passes k g w' ((letOut k w w').map (w', ·))

theorem Waits.held (h : Waits k g ticket w) : Held k g w := by
  refine ⟨?_, ?_, fun hchecked => ?_⟩
  · rw [World.isAtGate, h.stage]
  · obtain ⟨t, ht⟩ := Option.isSome_iff_exists.mp h.ticket
    exact ⟨ticket, t, ht, h.keeper ht⟩
  · rcases h.turn with ⟨hnone, -⟩ | ⟨-, hpasses⟩
    · simp [hnone] at hchecked
    · exact hpasses

/-- The gate lets a request pass one time. Until the check has settled nothing is let out; what is let out then
is the request with the headers that are right for the token of that moment, the same for all kinds of
requests. -/
theorem passes_gate_once {w₀ : World} {out : List (World × Passed)} (hopen : w₀.IsOpen k)
    (hreached : ∃ store run, w₀.coordinator = .after w₀.setup.coordinator { store } run)
    (h : Passage k g w₀ w out) :
    out = [] ∧ Held k g w ∨
      ∃ w' headers, out = [(w', g.withHeaders headers)] ∧ (w'.checked? k).isSome ∧ w.isAtGate k = false ∧
        headers = (Http.Gate.authorize w'.coordinator.accessToken? g.given).1 ∧
        Http.Authorized w'.coordinator.accessToken? g.given headers := by
  have hs : Orderly w₀.setup.coordinator w₀.coordinator := by
    obtain ⟨store, run, hrun⟩ := hreached
    rw [hrun]
    exact Coordinator.orderly_after _ store run
  rcases h.waits_or_passes hopen hs with ⟨hnone, ticket, hwaits⟩ | ⟨⟨w', hout, hchecked⟩, hgone⟩
  · exact .inl ⟨hnone, hwaits.held⟩
  · exact .inr ⟨w', _, hout, hchecked, hgone, rfl, Http.Gate.authorize_authorized _ _⟩

def twiceAuthorized : Http.Request where
  method := .get
  url := ⟨"https", none, "h", none, ["v1"], none, none⟩
  headers := [⟨"authorization", "Bearer a", false⟩, ⟨"x", "y", false⟩, ⟨"authorization", "Bearer b", false⟩]
  body := none

def expiredWorld : World :=
  { World.start
      { facade := false
        credentials := some ⟨"old", 0, some "r"⟩
        login := .fixed none
        device := ⟨"d", "k"⟩
        coordinator := {}
        session := { baseUrl := "https://h" }
        poll := .ofSeconds 5
        apiBase := "https://h"
        backend := { refresh := [{ delay := some (.ofSeconds 20) }] }
        connector := []
        gated := true
        verbose := false } with
    calls := #[{ place := ⟨0, none⟩, call := .get "/v1" [], background := true, holdsSession := false }] }

def arrivedWorld : World := leaves (check 0 false (.request twiceAuthorized)) expiredWorld

/-- A refresh is under way, and before it is answered the time of the ticket is up. -/
def overdueWorld : World := { leaves (chainStep 1) arrivedWorld with now := 15000 }

def timedOutWorld : World := leaves (keeperStep 1) overdueWorld

def passedWorld : World := leaves (callStep 0) timedOutWorld

/-- A check that has timed out does not hold the request back, and the expired token goes along. -/
theorem passes_gate_once_timedOut :
    let out := (letOut 0 timedOutWorld passedWorld).map (passedWorld, ·)
    expiredWorld.IsOpen 0 ∧
    (∃ store run, expiredWorld.coordinator = .after expiredWorld.setup.coordinator { store } run) ∧
    Passage 0 (.request twiceAuthorized) expiredWorld passedWorld out ∧
    (out.map fun p => match p.2 with | .request r => r.headers | .answer _ => []) =
      [[⟨"authorization", "Bearer old", true⟩, ⟨"x", "y", false⟩]] ∧
    (out = [] ∧ Held 0 (.request twiceAuthorized) passedWorld ∨
      ∃ w' headers, out = [(w', Guarded.withHeaders headers (.request twiceAuthorized))] ∧
        (w'.checked? 0).isSome ∧ passedWorld.isAtGate 0 = false ∧
        headers = (Http.Gate.authorize w'.coordinator.accessToken? twiceAuthorized.headers).1 ∧
        Http.Authorized w'.coordinator.accessToken? twiceAuthorized.headers headers) := by
  intro out
  have hopen : expiredWorld.IsOpen 0 := ⟨_, rfl, rfl⟩
  have hreached : ∃ store run,
      expiredWorld.coordinator = .after expiredWorld.setup.coordinator { store } run := ⟨_, [], rfl⟩
  have hnone : letOut 0 expiredWorld arrivedWorld = [] := List.length_eq_zero_iff.mp (by decide +kernel)
  have harrived : Passage 0 (.request twiceAuthorized) expiredWorld arrivedWorld
      ((letOut 0 expiredWorld arrivedWorld).map (arrivedWorld, ·)) := .arrive rfl
  rw [hnone] at harrived
  have hoverdue : Passage 0 (.request twiceAuthorized) expiredWorld overdueWorld [] :=
    (harrived.elsewhere (elsewhere_chainStep 0 1 arrivedWorld)).elsewhere ⟨rfl, ⟨[], rfl⟩, rfl⟩
  have htimedOut := hoverdue.elsewhere (elsewhere_keeperStep 0 1 overdueWorld)
  have hpassed : Passage 0 (.request twiceAuthorized) expiredWorld passedWorld out :=
    htimedOut.turn (by decide +kernel) rfl
  exact ⟨hopen, hreached, hpassed, by decide +kernel, passes_gate_once hopen hreached hpassed⟩

end Courier.Scenario
