import Courier.Proofs.Tracking.History

/-! What an order asks of the session. It asks for its channel when it is tracked and whenever it reads that
the session has opened; so all that it may miss is an opening that it skips because it has lagged behind.
Unless it has missed the last one, the session has stayed on one connection since the order last asked,
and has sent there whatever was issued from then on. -/

namespace Courier.Session

theorem Hub.next?_eq_some {α : Type} {h : Hub α} {position skipped position' : Nat} {a : α}
    (hnext : h.next? position = some (skipped, a, position')) :
    ∃ first, position ≤ first ∧ position' = first + 1 ∧ h.sent[first]? = some a := by
  obtain ⟨a', hget, heq⟩ := Option.map_eq_some_iff.mp hnext
  simp only [Prod.mk.injEq] at heq
  obtain ⟨-, rfl, rfl⟩ := heq
  exact ⟨_, Nat.le_max_left _ _, rfl, hget⟩

theorem Link.tail_le_after (l : Link) (acts : List Act) : l.hub.tail ≤ (l.after acts).hub.tail := by
  have hsent := congrArg List.length (l.sent_after acts)
  simp only [List.length_append, Array.length_toList] at hsent
  unfold Hub.tail
  omega

/-- Events stay where they are in the stream. -/
theorem Link.sent_before {l : Link} {j : Nat} (hj : j < l.hub.tail) (acts : List Act) :
    (l.after acts).hub.sent[j]? = l.hub.sent[j]? := by
  rw [← Array.getElem?_toList, ← Array.getElem?_toList, l.sent_after acts]
  exact List.getElem?_append_left hj

end Courier.Session

namespace Courier.Tracking.Board

open Session (Act Hub Link emitted)

def overlooks (b : Board) (i : Nat) (e : Happening) : List Nat :=
  match b.orders[i]?, (b.step e).orders[i]? with
  | some (some o), some (some o') => List.range' o.position (o'.position - 1 - o.position)
  | _, _ => []

def overlooked (b : Board) (i : Nat) (run : List Happening) : List Nat :=
  (b.history run).flatMap fun f => f.1.overlooks i f.2

/-- Whether an order has skipped the last event that said that the session opened. -/
def Misses (b : Board) (i : Nat) (run : List Happening) : Prop :=
  ∃ j ∈ b.overlooked i run, (b.after run).link.hub.sent[j]? = some .opened ∧
    ∀ j', j < j' → (b.after run).link.hub.sent[j']? ≠ some .opened

/-- Whether an order asks for its channel: it is tracked, or it reads that the session is open. -/
def asks (b : Board) (i : Nat) : Happening → Bool
  | .track _ _ _ _ => b.orders.length == i
  | .cue moment seed j c => j == i && !(b.acted (.cue moment seed j c)).isEmpty
  | _ => false

def sinceAsked (b : Board) (i : Nat) (run : List Happening) : List (Board × Happening) :=
  (b.history run).rtakeWhile fun f => !f.1.asks i f.2

/-- Whether an order has read everything, and the session is open and has handled everything. -/
structure Settled (b : Board) (o : Order) : Prop where
  read : b.link.hub.next? o.position = none
  handled : b.link.commands = []
  isOpen : b.link.isOpen = true
  runs : b.link.isStopped = false

/-- Whether an order waits for pushes, with nothing left to read or to handle while the session is open. -/
def waits (b : Board) (i : Nat) : Bool :=
  match b.orders[i]? with
  | some (some o) => o.mode = .pushes && (b.link.hub.next? o.position).isNone && b.link.commands.isEmpty &&
      b.link.isOpen && !b.link.isStopped
  | _ => false

structure Asked (b : Board) (i : Nat) (run : List Happening) (o : Order) (before : List Happening)
    (e : Happening) (after : List Happening) : Prop where
  split : run = before ++ e :: after
  acted : ∃ moment seed, (b.after before).acted e = [asking moment seed (channel o.id)]
  since : b.sinceAsked i run = (b.after (before ++ [e])).history after
  position : o.position ≤ (b.after run).link.hub.tail
  /-- Of what it has passed since then, it has skipped all that said that the session opened. -/
  skipped : ∀ j, (b.after before).link.hub.tail ≤ j → j < o.position →
    (b.after run).link.hub.sent[j]? = some .opened → j ∈ b.overlooked i run

/-- Whether an order asks for its channel in a step, and how it stands after it. -/
structure AsksAnew (b : Board) (i : Nat) (f : Happening) (o : Order) : Prop where
  asks : b.asks i f = true
  position : o.position ≤ b.link.hub.tail
  acted : ∃ moment seed, b.acted f = [asking moment seed (channel o.id)]

/-- Whether an order comes through a step without asking for its channel: it stays where it is in the stream,
or it passes an event that does not say that the session opened. -/
structure Continues (b : Board) (i : Nat) (f : Happening) (o o' : Order) : Prop where
  live : b.orders[i]? = some (some o)
  id : o'.id = o.id
  silent : b.asks i f = false
  passes : o'.position = o.position ∨ ∃ skipped event,
    b.link.hub.next? o.position = some (skipped, event, o'.position) ∧ event ≠ .opened

variable {b : Board} {i : Nat} {o o' : Order} {run before after : List Happening} {e f : Happening}

/-- An order that has skipped no opening has not missed the last one. -/
theorem not_misses (h : ((b.overlooked i run).any fun j =>
    (b.after run).link.hub.sent[j]? matches some .opened) = false) : ¬ b.Misses i run := by
  rintro ⟨j, hj, hopened, -⟩
  have hskips := List.any_eq_false.mp h j hj
  simp [hopened] at hskips

theorem settled_of_waits (h : b.waits i = true) :
    ∃ o, b.orders[i]? = some (some o) ∧ o.mode = .pushes ∧ b.Settled o := by
  unfold waits at h
  split at h
  · rename_i o hlive
    simp only [Bool.and_eq_true, decide_eq_true_eq, Option.isNone_iff_eq_none, List.isEmpty_iff,
      Bool.not_eq_true'] at h
    obtain ⟨⟨⟨⟨hmode, hread⟩, hhandled⟩, hopen⟩, hruns⟩ := h
    exact ⟨o, hlive, hmode, hread, hhandled, hopen, hruns⟩
  · cases h

theorem not_asks (hlive : b.orders[i]? = some (some o))
    (hquiet : ∀ moment seed c, f = .cue moment seed i c → b.acted f = []) : b.asks i f = false := by
  cases f with
  | session _ | drop _ _ _ => rfl
  | track moment seed id period =>
    have hlt := (List.getElem?_eq_some_iff.mp hlive).1
    exact beq_eq_false_iff_ne.mpr (Nat.ne_of_gt hlt)
  | cue moment seed j c =>
    by_cases hj : j = i
    · subst hj
      simp [asks, hquiet moment seed c rfl]
    · simp [asks, hj]

theorem live_of_set {orders : List (Option Order)} {j : Nat} {slot : Option Order}
    (h : (orders.set j slot)[i]? = some (some o)) :
    j = i ∧ slot = some o ∨ j ≠ i ∧ orders[i]? = some (some o) := by
  by_cases hj : j = i
  · subst hj
    rw [List.getElem?_set] at h
    simp only [if_true, Option.ite_none_right_eq_some, Option.some.injEq] at h
    exact .inl ⟨rfl, h.2⟩
  · rw [List.getElem?_set_ne hj] at h
    exact .inr ⟨hj, h⟩

theorem Continues.same (hlive : b.orders[i]? = some (some o))
    (hquiet : ∀ moment seed c, f = .cue moment seed i c → b.acted f = []) : Continues b i f o o :=
  ⟨hlive, rfl, not_asks hlive hquiet, .inl rfl⟩

/-- An order asks for its channel in a step, or it goes on without. -/
theorem order_step (f : Happening) (hlive : (b.step f).orders[i]? = some (some o)) :
    AsksAnew b i f o ∨ ∃ o', Continues b i f o' o := by
  have hchange := (b.change f).2
  generalize (b.step f).orders = orders at hlive hchange
  generalize hacted : b.acted f = acts at hchange
  cases hchange with
  | still => exact .inr ⟨o, .same hlive fun _ _ _ _ => hacted⟩
  | session | untracked => exact .inr ⟨o, .same hlive (by simp)⟩
  | @track moment seed id period o₁ hstart =>
    obtain ⟨ticker, -, rfl⟩ := Option.map_eq_some_iff.mp hstart
    rcases Nat.lt_or_ge i b.orders.length with hi | hi
    · rw [List.getElem?_append_left hi] at hlive
      exact .inr ⟨o, .same hlive (by simp)⟩
    · rw [List.getElem?_append_right hi, List.getElem?_singleton] at hlive
      simp only [Option.ite_none_right_eq_some, Option.some.injEq] at hlive
      obtain ⟨hnew, rfl⟩ := hlive
      have hlast : b.orders.length = i := by omega
      exact .inl ⟨beq_iff_eq.mpr hlast, Nat.le_refl _, moment, seed, hacted⟩
  | @hear moment seed j o₁ o₂ _ hget hnext hid =>
    rcases live_of_set hlive with ⟨rfl, hown⟩ | ⟨hj, hlive⟩
    · obtain rfl := Option.some.inj hown
      refine .inl ⟨?_, Hub.le_tail_of_next? hnext, moment, seed, ?_⟩
      · simp [asks, hacted]
      · rw [hacted, hid]
    · refine .inr ⟨o, .same hlive ?_⟩
      intro _ _ _ heq
      cases heq
      exact absurd rfl hj
  | @pass moment seed j o₁ o₂ _ _ hget hnext hopened hid =>
    rcases live_of_set hlive with ⟨rfl, hown⟩ | ⟨hj, hlive⟩
    · obtain rfl := Option.some.inj hown
      exact .inr ⟨o₁, hget, hid, not_asks hget fun _ _ _ _ => hacted, .inr ⟨_, _, hnext, hopened⟩⟩
    · exact .inr ⟨o, .same hlive fun _ _ _ _ => hacted⟩
  | @wait moment seed j o₁ o₂ _ hget hposition hid =>
    rcases live_of_set hlive with ⟨rfl, hown⟩ | ⟨hj, hlive⟩
    · obtain rfl := Option.some.inj hown
      exact .inr ⟨o₁, hget, hid, not_asks hget fun _ _ _ _ => hacted, .inl hposition⟩
    · exact .inr ⟨o, .same hlive fun _ _ _ _ => hacted⟩
  | @drop moment seed j o₁ hget =>
    rcases live_of_set hlive with ⟨-, hown⟩ | ⟨hj, hlive⟩
    · cases hown
    · exact .inr ⟨o, .same hlive (by simp)⟩

theorem asked_anew (h : AsksAnew (b.after run) i f o) : b.Asked i (run ++ [f]) o run f [] := by
  refine ⟨rfl, h.acted, ?_, ?_, ?_⟩
  · rw [sinceAsked, history_concat, List.rtakeWhile_concat_neg]
    · rfl
    · simp [h.asks]
  · rw [after_concat, link_step]
    exact Nat.le_trans h.position (Link.tail_le_after _ _)
  · intro j hj hpassed
    have hposition := h.position
    omega

theorem overlooked_concat (b : Board) (i : Nat) (run : List Happening) (f : Happening) :
    b.overlooked i (run ++ [f]) = b.overlooked i run ++ (b.after run).overlooks i f := by
  simp [overlooked, history_concat]

/-- An order overlooks what it passes on its way to the event that it reads. -/
theorem Continues.mem_overlooks (h : Continues b i f o o') (hlive : (b.step f).orders[i]? = some (some o'))
    {j : Nat} (hj : o.position ≤ j) (hpassed : j < o'.position)
    (hopened : b.link.hub.sent[j]? = some .opened) : j ∈ b.overlooks i f := by
  simp only [overlooks, h.live, hlive, List.mem_range'_1]
  rcases h.passes with hstays | ⟨skipped, event, hnext, hother⟩
  · omega
  · obtain ⟨first, hfirst, hposition, hread⟩ := Hub.next?_eq_some hnext
    have hne : j ≠ first := by
      rintro rfl
      rw [hread, Option.some.injEq] at hopened
      exact hother hopened
    omega

theorem Continues.position_le (h : Continues b i f o o') (ho : o.position ≤ b.link.hub.tail) :
    o'.position ≤ b.link.hub.tail := by
  rcases h.passes with hstays | ⟨skipped, event, hnext, -⟩
  · rw [hstays]
    exact ho
  · exact Hub.le_tail_of_next? hnext

theorem Asked.continues (h : b.Asked i run o before e after) (hf : Continues (b.after run) i f o o')
    (hlive : ((b.after run).step f).orders[i]? = some (some o')) :
    b.Asked i (run ++ [f]) o' before e (after ++ [f]) := by
  have hrun : (b.after (before ++ [e])).after after = b.after run := by
    rw [← after_append, h.split]
    simp
  have hposition := hf.position_le h.position
  refine ⟨?_, ?_, ?_, ?_, ?_⟩
  · rw [h.split, List.append_assoc, List.cons_append]
  · rw [hf.id]
    exact h.acted
  · have hsince := h.since
    unfold sinceAsked at hsince ⊢
    rw [history_concat, history_concat, List.rtakeWhile_concat_pos, hsince, hrun]
    simp [hf.silent]
  · rw [after_concat, link_step]
    exact Nat.le_trans hposition (Link.tail_le_after _ _)
  · intro j hj hpassed hopened
    have hbefore : j < (b.after run).link.hub.tail := Nat.lt_of_lt_of_le hpassed hposition
    rw [after_concat, link_step, Link.sent_before hbefore] at hopened
    rw [overlooked_concat, List.mem_append]
    rcases Nat.lt_or_ge j o.position with hold | hnew
    · exact .inl (h.skipped j hj hold hopened)
    · exact .inr (hf.mem_overlooks hlive hnew hpassed hopened)

/-- Every order that is still there has asked for its channel. -/
theorem asked (hnew : b.orders = []) (run : List Happening)
    (hlive : (b.after run).orders[i]? = some (some o)) :
    ∃ before e after, b.Asked i run o before e after := by
  induction run using List.reverseRecOn generalizing o with
  | nil => simp [Board.after, hnew] at hlive
  | append_singleton run f ih =>
    rw [after_concat] at hlive
    rcases order_step f hlive with hanew | ⟨o', hf⟩
    · exact ⟨run, f, [], asked_anew hanew⟩
    · obtain ⟨before, e, after, h⟩ := ih hf.live
      exact ⟨before, e, after ++ [f], h.continues hf hlive⟩

/-- What occurs in the second of two lists has a last place in both together. -/
theorem exists_last {α : Type} {a : α} {l l' : List α} (h : a ∈ l') :
    ∃ j, l.length ≤ j ∧ (l ++ l')[j]? = some a ∧ ∀ j', j < j' → (l ++ l')[j']? ≠ some a := by
  obtain ⟨back, front, hreverse, hback⟩ := List.eq_append_cons_of_mem (List.mem_reverse.mpr h)
  have hl : l ++ l' = (l ++ front.reverse) ++ a :: back.reverse := by
    rw [← List.reverse_reverse l', hreverse]
    simp
  rw [hl]
  refine ⟨(l ++ front.reverse).length, by simp, by simp, ?_⟩
  intro j' hlater hj'
  rw [List.getElem?_append_right hlater.le] at hj'
  obtain ⟨n, hn⟩ : ∃ n, j' - (l ++ front.reverse).length = n + 1 := Nat.exists_eq_add_one.mpr (by omega)
  rw [hn, List.getElem?_cons_succ] at hj'
  exact hback (List.mem_reverse.mp (List.mem_of_getElem? hj'))

theorem Asked.link (h : b.Asked i run o before e after) :
    (b.after run).link = (b.after before).link.after ((b.after before).acts (e :: after)) := by
  rw [← link_after, ← after_append, h.split]

/-- Since its last request the session has not opened, if the order has not missed that. -/
theorem Asked.not_opened (h : b.Asked i run o before e after) (hheard : ¬ b.Misses i run)
    (hread : (b.after run).link.hub.tail ≤ o.position) :
    let l := (b.after before).link
    .opened ∉ emitted (l.machine.trace l.config (l.inputs ((b.after before).acts (e :: after)))) := by
  intro l hopened
  have hsent := l.sent_after ((b.after before).acts (e :: after))
  rw [← h.link] at hsent
  obtain ⟨j, hfrom, hlast, hno⟩ := exists_last (l := l.hub.sent.toList) hopened
  simp only [← hsent, Array.getElem?_toList] at hlast hno
  obtain ⟨hlt, -⟩ := Array.getElem?_eq_some_iff.mp hlast
  exact hheard ⟨j, h.skipped j hfrom (Nat.lt_of_lt_of_le hlt hread) hlast, hlast, hno⟩

theorem sane_after (cfg : Session.Config) (run : List Happening) :
    Sane ((ofConfig cfg).after run).link := by
  rw [link_after]
  generalize (ofConfig cfg).acts run = acts
  induction acts using List.reverseRecOn with
  | nil => exact (follows_ofConfig cfg).sane
  | append_singleton acts a ih =>
    rw [Link.after_append]
    exact ih.act a

/-- A session that is open and has not stopped has a connection. -/
theorem Settled.connection (h : b.Settled o) (hs : Sane b.link) :
    ∃ k, b.link.machine.connection? = some k := by
  have hphase := (isOpen_iff hs).mp h.isOpen
  have hsound := hs.sound
  cases hm : b.link.machine.mode with
  | ready =>
    simp only [Session.Sound, hm] at hsound
    obtain ⟨k, hk⟩ := Option.isSome_iff_exists.mp (hsound.open_iff.mp hphase)
    exact ⟨k, Session.State.connection?_eq_some.mpr ⟨hm, hphase, hk⟩⟩
  | draining _ _ _ =>
    simp only [Session.Sound, hm] at hsound
    rw [hphase] at hsound
    cases hsound.2.1
  | stopped =>
    have hruns := h.runs
    rw [Link.isStopped_iff.mpr hm] at hruns
    cases hruns

variable {cfg : Session.Config} {k : Nat}

/-- What users have sent over the connection: what they had by the time that the order last asked for its
channel, that request, and what they have issued since. -/
theorem Asked.ownOn (h : (ofConfig cfg).Asked i run o before e after)
    (hsettled : ((ofConfig cfg).after run).Settled o) (hheard : ¬ (ofConfig cfg).Misses i run)
    (hk : ((ofConfig cfg).after run).link.machine.connection? = some k) :
    ∃ earlier own, own.subscribes (channel o.id) = true ∧
      ((ofConfig cfg).records run).flatMap (·.ownOn k) = earlier ++ own ::
        ((((ofConfig cfg).after (before ++ [e])).acts after).filterMap Act.issued?).filterMap
          Session.Command.message? := by
  obtain ⟨moment, seed, hacted⟩ := h.acted
  have hs := sane_after cfg before
  have hread := Hub.tail_le_of_next? (sane_after cfg run).kept hsettled.read
  have hhandled := hsettled.handled
  rw [h.link] at hk hhandled
  obtain ⟨-, hown⟩ := Link.ownOn_of_staying hs.sound hk hhandled (h.not_opened hheard hread)
  refine ⟨((ofConfig cfg).records before).flatMap (·.ownOn k) ++
    ((ofConfig cfg).after before).link.commands.filterMap Session.Command.message?,
    .subscribe moment.wall seed [channel o.id], by simp, ?_⟩
  have hrecords : (ofConfig cfg).records run =
      (ofConfig cfg).records before ++ ((ofConfig cfg).after before).records (e :: after) := by
    rw [← records_append, h.split]
  rw [← records, acts_cons, hacted, ← after_concat] at hown
  rw [hrecords, List.flatMap_append, hown]
  simp [Act.issued?, asking, Session.Command.message?]

end Courier.Tracking.Board
