import Courier.Proofs.Tracking.Requests

/-! Whether an order is subscribed to its channel once everything has been read and handled. If it has not
missed that the session opened, a request of its own has gone over the connection that is open. The last
request about its channel is one for it then, unless someone else has withdrawn the channel since: orders
with the same id share it, and each of them withdraws it when it is dropped. -/

namespace Courier.Tracking

open Session (KeepsItsEnd framesAbout framesTo requestsOn written)

/-- A message by which the channel of an order is withdrawn although the order is still there: another order
with its id is dropped, or a handle sends it. -/
def Board.Withdraws (b : Board) (i : Nat) (id : String) (m : Outbound) : Happening → Prop
  | .drop moment seed j => j ≠ i ∧ (∃ o, b.orders[j]? = some (some o) ∧ o.id = id) ∧
      m = .unsubscribe moment.wall seed [channel id]
  | .session (.issue (.send m')) => m' = m ∧ m.unsubscribes (channel id) = true
  | _ => False

/-- An order that has read everything, and has not missed that the session opened, has had a request for its
channel sent over the connection that is open. -/
theorem settled_order_has_asked (cfg : Session.Config) (run : List Happening) (i : Nat) (o : Order)
    (hlive : ((Board.ofConfig cfg).after run).orders[i]? = some (some o))
    (hsettled : ((Board.ofConfig cfg).after run).Settled o)
    (hheard : ¬ (Board.ofConfig cfg).Misses i run) :
    ∃ k, ((Board.ofConfig cfg).after run).link.machine.connection? = some k ∧
      ∃ r ∈ (Board.ofConfig cfg).records run, ∃ m, m.subscribes (channel o.id) = true ∧
        r.state.connection? = some k ∧ r.input = .send m ∧ r.effects = written r.env (some k) m := by
  obtain ⟨k, hk⟩ := hsettled.connection (Board.sane_after cfg run)
  obtain ⟨before, e, after, hasked⟩ := Board.asked rfl run hlive
  obtain ⟨earlier, own, hasks, hown⟩ := hasked.ownOn hsettled hheard hk
  obtain ⟨r, hr, hmem⟩ := List.mem_flatMap.mp (hown ▸ List.mem_append_right _ List.mem_cons_self)
  obtain ⟨hconnection, hinput⟩ := Session.mem_ownOn.mp hmem
  obtain ⟨-, s', hmove⟩ := Session.records_move hr
  rw [hinput] at hmove
  exact ⟨k, hk, r, hr, own, hasks, hconnection, hinput, hmove.of_send hconnection⟩

def tight : Session.Config := { Session.plain with eventCapacity := 1 }

/-- The order reads of the opening only, and its request is sent. -/
def heardRun : List Happening := trackedRun ++ [.session (.take (Session.calmAt 6))]

theorem settled_order_has_asked_heardRun :
    let b := Board.ofConfig tight
    b.overlooked 0 heardRun = [0] ∧ ¬ b.Misses 0 heardRun ∧
    ∃ o, (b.after heardRun).orders[0]? = some (some o) ∧ (b.after heardRun).Settled o ∧
      ∃ k, (b.after heardRun).link.machine.connection? = some k ∧
        ∃ r ∈ b.records heardRun, ∃ m, m.subscribes (channel o.id) = true ∧
          r.state.connection? = some k ∧ r.input = .send m ∧ r.effects = written r.env (some k) m := by
  intro b
  have hskipped : b.overlooked 0 heardRun = [0] := by decide +kernel
  have hheard : ¬ b.Misses 0 heardRun := Board.not_misses (by decide +kernel)
  have hwaits : (b.after heardRun).waits 0 = true := by decide +kernel
  obtain ⟨o, hlive, -, hsettled⟩ := Board.settled_of_waits hwaits
  exact ⟨hskipped, hheard, o, hlive, hsettled,
    settled_order_has_asked tight heardRun 0 o hlive hsettled hheard⟩

/-- Before the order reads that the session has opened, a message takes the place of that event. -/
def missedRun : List Happening :=
  [.track (.ofTicks 0) 0 "7" (.ofSeconds 10), .session (.issue (.connect 0)),
    .session (.take (Session.calmAt 1)), .session (.take (Session.calmAt 1)),
    .session (.meet (Session.calmAt 5) (.dialed (.ok ()))),
    .session (.meet (Session.calmAt 6) (.received (.text "\x7b\"type\":\"notification\",\"data\":1\x7d"))),
    .cue (.ofTicks 7) 0 0 .ask, .cue (.ofTicks 7) 0 0 .read]

/-- An order that has missed the opening waits for pushes over a connection that has not seen any request. -/
theorem waits_without_asking :
    let b := Board.ofConfig tight
    (b.after missedRun).waits 0 = true ∧ (b.after missedRun).orders.length = 1 ∧
    (b.after missedRun).link.machine.connection? = some 0 ∧
    framesTo 0 ((b.records missedRun).flatMap (·.effects)) = [] := by
  have hsilent : framesTo 0 (((Board.ofConfig tight).records missedRun).flatMap (·.effects)) = [] :=
    List.isEmpty_iff.mp (by decide +kernel)
  exact ⟨by decide +kernel, by decide +kernel, by decide +kernel, hsilent⟩

theorem exists_getLast? {α : Type} (a : α) (l : List α) :
    ∃ x, (a :: l).getLast? = some x ∧ (x = a ∨ x ∈ l) :=
  ⟨_, List.getLast?_eq_some_getLast (List.cons_ne_nil a l), List.mem_cons.mp (List.getLast_mem _)⟩

/-- Once an order has read and heard everything, the last request about its channel that goes over the open
connection asks for it, or someone else has withdrawn the channel by it since the order last asked. -/
theorem last_request_subscribes (cfg : Session.Config) (run : List Happening) (i : Nat) (o : Order)
    (hlive : ((Board.ofConfig cfg).after run).orders[i]? = some (some o))
    (hsettled : ((Board.ofConfig cfg).after run).Settled o)
    (hheard : ¬ (Board.ofConfig cfg).Misses i run) :
    let records := (Board.ofConfig cfg).records run
    ∃ k, ((Board.ofConfig cfg).after run).link.machine.connection? = some k ∧
      (KeepsItsEnd k records →
        framesAbout k (channel o.id) records = (requestsOn k (channel o.id) records).map .message) ∧
      ∃ m, (requestsOn k (channel o.id) records).getLast? = some m ∧
        (m.subscribes (channel o.id) = true ∨
          ∃ f ∈ (Board.ofConfig cfg).sinceAsked i run, f.1.Withdraws i o.id m f.2) := by
  intro records
  obtain ⟨k, hk⟩ := hsettled.connection (Board.sane_after cfg run)
  refine ⟨k, hk, Session.framesAbout_eq cfg (channel o.id) _, ?_⟩
  obtain ⟨before, e, after, hasked⟩ := Board.asked rfl run hlive
  obtain ⟨earlier, own, hasks, hown⟩ := hasked.ownOn hsettled hheard hk
  have hconcerns : own.concerns (channel o.id) = true := by simp [Outbound.concerns, hasks]
  rw [requestsOn, hown, List.filter_append, List.filter_cons_of_pos hconcerns, List.getLast?_append_cons]
  apply (exists_getLast? own _).imp
  rintro m ⟨hlast, hm⟩
  refine ⟨hlast, ?_⟩
  rcases hm with rfl | hm
  · exact .inl hasks
  obtain ⟨hissued, hconcerns⟩ := List.mem_filter.mp hm
  rcases Bool.or_eq_true_iff.mp hconcerns with hagain | hwithdrawn
  · exact .inl hagain
  obtain ⟨f, hf, hacted⟩ := Board.mem_acts.mp (Session.mem_issued_messages.mp hissued)
  refine .inr ⟨f, hasked.since ▸ hf, ?_⟩
  obtain ⟨found, event⟩ := f
  rcases Board.acted_cases hacted hwithdrawn with rfl | ⟨moment, seed, j, o', rfl, hget, hid, hmessage⟩
  · exact ⟨rfl, hwithdrawn⟩
  · refine ⟨?_, ⟨o', hget, hid⟩, hmessage⟩
    have hend : (((Board.ofConfig cfg).after (before ++ [e])).after after).orders[i]? = some (some o) := by
      rw [← Board.after_append, List.append_assoc, List.singleton_append, ← hasked.split, hlive]
    exact Board.drop_ne hend hf rfl hget

/-- Three orders, two of them with one id: its twin is dropped before an order reads that the session has
opened, and the third one after that. -/
def twinsRun : List Happening :=
  [.track (.ofTicks 0) 0 "7" (.ofSeconds 10), .track (.ofTicks 0) 0 "7" (.ofSeconds 10),
    .track (.ofTicks 0) 0 "8" (.ofSeconds 10), .cue (.ofTicks 0) 0 0 .ask, .session (.issue (.connect 0)),
    .session (.take (Session.calmAt 1)), .session (.take (Session.calmAt 1)),
    .session (.take (Session.calmAt 1)), .session (.take (Session.calmAt 1)),
    .session (.meet (Session.calmAt 5) (.dialed (.ok ()))), .drop (.ofTicks 6) 0 1,
    .cue (.ofTicks 7) 0 0 .read, .cue (.ofTicks 7) 0 0 .read, .drop (.ofTicks 8) 0 2,
    .session (.take (Session.calmAt 9)), .session (.take (Session.calmAt 9)),
    .session (.take (Session.calmAt 9))]

theorem last_request_subscribes_twinsRun :
    let b := Board.ofConfig Session.plain
    let records := b.records twinsRun
    b.overlooked 0 twinsRun = [] ∧
    ∃ o, (b.after twinsRun).orders[0]? = some (some o) ∧ (b.after twinsRun).Settled o ∧
      ∃ k, (b.after twinsRun).link.machine.connection? = some k ∧
        (KeepsItsEnd k records →
          framesAbout k (channel o.id) records = (requestsOn k (channel o.id) records).map .message) ∧
        ∃ m, (requestsOn k (channel o.id) records).getLast? = some m ∧
          (m.subscribes (channel o.id) = true ∨
            ∃ f ∈ b.sinceAsked 0 twinsRun, f.1.Withdraws 0 o.id m f.2) := by
  intro b records
  have hnone : b.overlooked 0 twinsRun = [] := by decide +kernel
  have hheard : ¬ b.Misses 0 twinsRun := Board.not_misses (by decide +kernel)
  have hwaits : (b.after twinsRun).waits 0 = true := by decide +kernel
  obtain ⟨o, hlive, -, hsettled⟩ := Board.settled_of_waits hwaits
  exact ⟨hnone, o, hlive, hsettled,
    last_request_subscribes Session.plain twinsRun 0 o hlive hsettled hheard⟩

def droppedRun : List Happening :=
  heardRun ++ [.track (.ofTicks 7) 0 "7" (.ofSeconds 10), .session (.take (Session.calmAt 8)),
    .drop (.ofTicks 9) 0 1, .session (.take (Session.calmAt 10))]

/-- An order waits for pushes on a channel that its twin has withdrawn. -/
theorem twin_withdraws_channel :
    let b := Board.ofConfig Session.plain
    b.overlooked 0 droppedRun = [] ∧ (b.after droppedRun).waits 0 = true ∧
    (b.after droppedRun).orders.map (·.map Order.id) = [some "7", none] ∧
    (b.after droppedRun).link.machine.connection? = some 0 ∧
    (framesAbout 0 "order:7" (b.records droppedRun)).map Session.Frame.kind =
      ["subscribe", "subscribe", "unsubscribe"] := by
  decide +kernel

end Courier.Tracking
