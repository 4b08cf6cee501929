import Courier.Scenario.Calls

/-! What the plays of a scenario leave as it is. A call that waits looks at its own record, at the coordinator
and at what it waits for; most of what is done on the way, the log and the waking of actors, touches none of
these. -/

namespace Courier.Scenario

def leaves {α : Type} (p : Play α) (w : World) : World := (p.run w).2

theorem leaves_bind {α β : Type} (p : Play α) (f : α → Play β) (w : World) :
    leaves (p >>= f) w = leaves (f (p.run w).1) (leaves p w) := rfl

theorem leaves_get_bind {α : Type} (f : World → Play α) (w : World) :
    leaves (get >>= f) w = leaves (f w) w := rfl

structure Unmoved (k : Nat) (w w' : World) : Prop where
  call : w'.calls[k]? = w.calls[k]?
  coordinator : w'.coordinator = w.coordinator
  waits : w'.waits = w.waits
  setup : w'.setup = w.setup

variable {k : Nat} {w w' w'' : World}

theorem Unmoved.refl (k : Nat) (w : World) : Unmoved k w w := ⟨rfl, rfl, rfl, rfl⟩

theorem Unmoved.trans (h : Unmoved k w w') (h' : Unmoved k w' w'') : Unmoved k w w'' :=
  ⟨h'.call.trans h.call, h'.coordinator.trans h.coordinator, h'.waits.trans h.waits,
    h'.setup.trans h.setup⟩

theorem unmoved_wake (k : Nat) (a : Actor) (w : World) : Unmoved k w (leaves (wake a) w) := by
  show Unmoved k w (if w.agenda.contains a then w else { w with agenda := w.agenda ++ [a] })
  split
  · exact .refl k w
  · exact ⟨rfl, rfl, rfl, rfl⟩

theorem unmoved_log (k : Nat) (line : LogLine) (w : World) : Unmoved k w (leaves (log line) w) :=
  ⟨rfl, rfl, rfl, rfl⟩

theorem unmoved_logAll (k : Nat) (lines : List LogLine) (w : World) :
    Unmoved k w (leaves (logAll lines) w) := by
  induction lines generalizing w with
  | nil => exact .refl k w
  | cons line lines ih => exact (unmoved_log k line w).trans (ih _)

theorem unmoved_forIn {f : Nat → PUnit → Play (ForInStep PUnit)}
    (hf : ∀ j w, ∃ w', (f j ⟨⟩).run w = (.yield ⟨⟩, w') ∧ Unmoved k w w') (js : List Nat) (w : World) :
    Unmoved k w (leaves (forIn js ⟨⟩ f) w) := by
  induction js generalizing w with
  | nil => exact .refl k w
  | cons j js ih =>
    obtain ⟨w', hrun, hfirst⟩ := hf j w
    have hnext : leaves (forIn (j :: js) ⟨⟩ f) w = leaves (forIn js ⟨⟩ f) w' := by
      rw [List.forIn_cons, leaves, StateT.run_bind, hrun]
      rfl
    rw [hnext]
    exact hfirst.trans (ih w')

theorem unmoved_wakeCalls (k : Nat) (p : Running → Bool) (w : World) :
    Unmoved k w (leaves (wakeCalls p) w) := by
  refine unmoved_forIn (fun j w => ?_) (List.range w.calls.size) w
  cases hcall : w.calls[j]? with
  | none =>
    refine ⟨w, ?_, .refl k w⟩
    simp [hcall]
    rfl
  | some c =>
    by_cases hwakes : c.result = none ∧ p c = true
    · refine ⟨_, ?_, unmoved_wake k (.call j) w⟩
      simp [hcall, hwakes]
      rfl
    · refine ⟨w, ?_, .refl k w⟩
      simp [hcall, hwakes]
      rfl

theorem unmoved_sendMessage (k : Nat) (o : Outbound) (w : World) :
    Unmoved k w (leaves (sendMessage o) w) := by
  have hsplit : leaves (sendMessage o) w = leaves (if w.link.isStopped then
      log (.warn "Session driver stopped; outbound message dropped") else command (.send o)) w := rfl
  rw [hsplit]
  split
  · exact unmoved_log k _ w
  · have hqueued : Unmoved k w { w with link := w.link.enqueue (.send o) } := ⟨rfl, rfl, rfl, rfl⟩
    exact hqueued.trans (unmoved_wake k .session _)

theorem unmoved_unsubscribeFrom (k : Nat) (channels : List String) (w : World) :
    Unmoved k w (leaves (unsubscribeFrom channels) w) := by
  have hdrawn : Unmoved k w (leaves draw w) := ⟨rfl, rfl, rfl, rfl⟩
  refine hdrawn.trans ?_
  unfold unsubscribeFrom
  rw [leaves_bind, leaves_bind]
  exact unmoved_sendMessage k _ _

theorem unmoved_dropTracked (k i : Nat) (w : World) : Unmoved k w (leaves (dropTracked i) w) := by
  rw [dropTracked, leaves_get_bind]
  split
  · exact .refl k w
  rw [leaves_get_bind]
  dsimp only
  split
  · rename_i t _ _
    have hleft := unmoved_unsubscribeFrom k [Tracking.channel t.order.id] w
    have hgone (w : World) : Unmoved k w { w with
        tracked := w.tracked.modify i fun t => { t with gone := true } } := ⟨rfl, rfl, rfl, rfl⟩
    exact (hleft.trans (hgone _)).trans (unmoved_wake k .session _)
  · exact .refl k w

theorem unmoved_takeService (k : Nat) (path : String) (w : World) :
    Unmoved k w (leaves (takeService path) w) := by
  unfold takeService leaves
  rw [StateT.run_bind]
  dsimp only
  split
  · exact ⟨rfl, rfl, rfl, rfl⟩
  split
  · exact ⟨rfl, rfl, rfl, rfl⟩
  split <;> exact ⟨rfl, rfl, rfl, rfl⟩

theorem takeArrival_leaves (k : Nat) (owner : Actor) (w : World) :
    ∃ waits, Unmoved k { w with waits } (leaves (takeArrival owner) w) := by
  rw [takeArrival, leaves_get_bind]
  split
  · exact ⟨_, .refl k w⟩
  split
  · exact ⟨_, rfl, rfl, rfl, rfl⟩
  · exact ⟨_, .refl k w⟩

/-- Who begins to wait for something changes nothing else. -/
theorem Unmoved.await (h : Unmoved k w w') (owner : Actor) (due : Nat) (arrival : Arrival) :
    Unmoved k { w with waits := w.waits ++ [⟨owner, due, arrival⟩] } (leaves (await owner due arrival) w') :=
  ⟨h.call, h.coordinator, congrArg (· ++ _) h.waits, h.setup⟩

theorem sendRequest_leaves (k : Nat) (owner : Actor) (logged : Bool) (r : Http.Request) (w : World) :
    ∃ due reply, Unmoved k { w with waits := w.waits ++ [⟨owner, due, .reply r logged reply⟩] }
      (leaves (sendRequest owner logged r) w) := by
  have hlog : Unmoved k w (leaves (if logged then
      log (Http.Traffic.requestLine w.setup.verbose r.method r.address) else pure ()) w) := by
    split
    · exact unmoved_log k _ w
    · exact .refl k w
  generalize hw₁ : leaves (if logged then _ else _) w = w₁ at hlog
  have hsplit : leaves (sendRequest owner logged r) w = leaves (do
      if w.setup.facade then
        await owner (← get).now (.reply r logged (.fault (.unsent r.address)))
      else
        modify fun w => { w with requests := w.requests.push ⟨w.now, r⟩ }
        let service ← takeService r.url.pathText
        let due ← dueAfter service.delay
        let reply : Http.Reply :=
          if service.fail then .fault .unbuildable else .answer service.status service.body
        await owner due (.reply r logged reply)) w₁ := by
    rw [← hw₁]
    cases logged <;> rfl
  rw [hsplit]
  split
  · exact ⟨_, _, hlog.await _ _ _⟩
  · have hpushed : Unmoved k w₁ { w₁ with requests := w₁.requests.push ⟨w₁.now, r⟩ } := ⟨rfl, rfl, rfl, rfl⟩
    have htaken := unmoved_takeService k r.url.pathText { w₁ with requests := w₁.requests.push ⟨w₁.now, r⟩ }
    exact ⟨_, _, ((hlog.trans hpushed).trans htaken).await _ _ _⟩

theorem sendOutcome_leaves (k : Nat) (owner : Actor) (logged : Bool) (r : Outcome Http.Request) (w : World) :
    ∃ wait, Unmoved k { w with waits := w.waits ++ [wait] } (leaves (sendOutcome owner logged r) w) := by
  cases r with
  | ok r =>
    obtain ⟨due, reply, h⟩ := sendRequest_leaves k owner logged r w
    exact ⟨_, h⟩
  | error e => exact ⟨_, (Unmoved.refl k w).await owner w.now (.refusal e)⟩

theorem askLogin_leaves (k : Nat) (owner : Actor) (w : World) :
    ∃ wait, Unmoved k { w with waits := w.waits ++ [wait] } (leaves (askLogin owner) w) := by
  rw [askLogin, leaves_get_bind]
  split
  · exact ⟨_, (Unmoved.refl k w).await owner _ _⟩
  · have hcounted : Unmoved k w { w with codes := w.codes + 1 } := ⟨rfl, rfl, rfl, rfl⟩
    split
    · exact ⟨_, hcounted.await owner _ _⟩
    · exact ⟨_, hcounted.await owner _ _⟩

/-- A call that ends has a result, and waits for nothing. -/
theorem endCall_leaves {c : Running} (a : Answer) (hc : w.calls[k]? = some c) :
    Unmoved k
      { w with
        calls := w.calls.modify k fun c => { c with stage := .over, result := some a }
        waits := w.waits.filter (·.owner != Actor.call k) }
      (leaves (endCall k a) w) := by
  have hlast (w : World) : Unmoved k w (leaves (if c.holdsSession then wake .session else pure ()) w) := by
    split
    · exact unmoved_wake k .session w
    · exact .refl k w
  have hfreed (i : Nat) (w : World) : Unmoved k w (leaves (do
      modify fun w => { w with tracked := w.tracked.modify i (·.letGo k w.link.isOpen w.now) }
      wakeCalls (isQueuedFor i)
      dropTracked i
      if c.holdsSession then wake .session : Play Unit) w) := by
    have hfree : Unmoved k w { w with
        tracked := w.tracked.modify i (·.letGo k w.link.isOpen w.now) } := ⟨rfl, rfl, rfl, rfl⟩
    exact ((hfree.trans (unmoved_wakeCalls k _ _)).trans (unmoved_dropTracked k i _)).trans (hlast _)
  rw [endCall, leaves_get_bind]
  simp only [hc]
  generalize hover : { w with
    calls := w.calls.modify k fun c => { c with stage := .over, result := some a }
    waits := w.waits.filter (·.owner != Actor.call k) } = w₁
  have hfinished : Unmoved k w₁ { w₁ with finished := w₁.finished.push ⟨c.place, w₁.now, a⟩ } :=
    ⟨rfl, rfl, rfl, rfl⟩
  subst hover
  cases c.order with
  | none =>
    split
    · exact hfinished.trans (hlast _)
    · exact hlast _
  | some i =>
    split
    · exact hfinished.trans (hfreed i _)
    · exact hfreed i _

end Courier.Scenario
