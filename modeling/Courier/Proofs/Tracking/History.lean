import Courier.Proofs.Session.Staying
import Courier.Proofs.Tracking.Follows
import Mathlib.Data.List.DropRight

/-! What happens to a session and its orders, seen from the session: every happening amounts to a few acts,
of which the requests of orders are commands. `Change` lists what a happening can do to the orders. -/

namespace Courier.Tracking

open Session (Act Command Hub Link Record)
open Time (Moment Span)

def Effect.channel? : Effect → Option String
  | subscribe channel => some channel
  | _ => none

namespace Board

def asking (moment : Moment) (seed : UInt64) (channel : String) : Act :=
  .issue (.send (.subscribe moment.wall seed [channel]))

def acted (b : Board) : Happening → List Act
  | .session (.meet env .abandoned) => if b.isTracking then [] else [.meet env .abandoned]
  | .session a => [a]
  | .track moment seed id _ => [asking moment seed (channel id)]
  | .cue moment seed i c =>
    match b.orders[i]? with
    | some (some o) =>
      match c.input? b.link.hub o.position with
      | some input =>
        ((o.step b.link.isOpen moment.ticks input).2.filterMap Effect.channel?).map (asking moment seed)
      | none => []
    | _ => []
  | .drop moment seed i =>
    match b.orders[i]? with
    | some (some o) => [.issue (.send (.unsubscribe moment.wall seed [channel o.id]))]
    | _ => []

def history : Board → List Happening → List (Board × Happening)
  | _, [] => []
  | b, e :: run => (b, e) :: (b.step e).history run

def acts (b : Board) (run : List Happening) : List Act := (b.history run).flatMap fun f => f.1.acted f.2

def records (b : Board) (run : List Happening) : List Record := b.link.records (b.acts run)

/-- What a happening makes of the orders, and the acts that it amounts to. -/
inductive Change (b : Board) : Happening → List (Option Order) → List Act → Prop where
  /-- What cannot happen changes nothing. -/
  | still {e} : Change b e b.orders []
  | session {a} : Change b (.session a) b.orders [a]
  | track {moment seed id period o} : Order.start? id b.link.hub.tail moment.ticks period = some o →
      Change b (.track moment seed id period) (b.orders ++ [some o]) [asking moment seed (channel id)]
  /-- The poll timer cannot start. -/
  | untracked {moment seed id period} :
      Change b (.track moment seed id period) b.orders [asking moment seed (channel id)]
  /-- An order reads that the session is open. -/
  | hear {moment seed i o o' skipped} : b.orders[i]? = some (some o) →
      b.link.hub.next? o.position = some (skipped, .opened, o'.position) → o'.id = o.id →
      Change b (.cue moment seed i .read) (b.orders.set i (some o')) [asking moment seed (channel o.id)]
  /-- An order reads something else. -/
  | pass {moment seed i o o' skipped e} : b.orders[i]? = some (some o) →
      b.link.hub.next? o.position = some (skipped, e, o'.position) → e ≠ .opened → o'.id = o.id →
      Change b (.cue moment seed i .read) (b.orders.set i (some o')) []
  /-- An order reads nothing. -/
  | wait {moment seed i o o' c} : b.orders[i]? = some (some o) → o'.position = o.position →
      o'.id = o.id → Change b (.cue moment seed i c) (b.orders.set i (some o')) []
  | drop {moment seed i o} : b.orders[i]? = some (some o) →
      Change b (.drop moment seed i) (b.orders.set i none)
        [.issue (.send (.unsubscribe moment.wall seed [channel o.id]))]

end Board

theorem channel_inj {id id' : String} : channel id = channel id' ↔ id = id' := String.append_right_inj _

theorem channels_of_event {order : String} {e : Session.Event} {l : Option Location} {es : List Effect}
    (h : readEvent order e = (l, es)) : e = .opened ∧ es.filterMap Effect.channel? = [channel order] ∨
      e ≠ .opened ∧ es.filterMap Effect.channel? = [] := by
  obtain ⟨-, rfl⟩ := Prod.mk.inj h
  cases e with
  | opened => exact .inl ⟨rfl, rfl⟩
  | message m =>
    refine .inr ⟨nofun, ?_⟩
    simp [List.filterMap_map, Effect.channel?]
  | _ => exact .inr ⟨nofun, rfl⟩

theorem channels_of_lines (lines : List LogLine) : (lines.map Effect.log).filterMap Effect.channel? = [] := by
  simp [Effect.channel?]

/-- An order asks for its channel when it reads that the session is open, and only then. -/
theorem Order.step_channels {o o' : Order} {es : List Effect} {isOpen : Bool} {ticks : Nat} {input : Input}
    (h : o.step isOpen ticks input = (o', es)) : o'.id = o.id ∧
      (o'.position = o.position ∧ es.filterMap Effect.channel? = [] ∨
        ∃ skipped e, input = .event skipped e o'.position ∧
          (e = .opened ∧ es.filterMap Effect.channel? = [channel o.id] ∨
            e ≠ .opened ∧ es.filterMap Effect.channel? = [])) := by
  have hdoes := o.step_does isOpen ticks input
  simp only [h] at hdoes
  cases hdoes with
  | hit _ hread =>
    refine ⟨rfl, .inr ⟨_, _, rfl, ?_⟩⟩
    rw [List.filterMap_append, List.filterMap_append, channels_of_lines, List.nil_append]
    exact (List.append_nil _).symm ▸ channels_of_event hread
  | miss _ hread =>
    refine ⟨rfl, .inr ⟨_, _, rfl, ?_⟩⟩
    rw [List.filterMap_append, channels_of_lines, List.nil_append]
    exact channels_of_event hread
  | _ => exact ⟨rfl, .inl ⟨rfl, rfl⟩⟩

namespace Board

/-- What orders ask of the session are commands. -/
theorem foldl_request (moment : Moment) (seed : UInt64) (effects : List Effect) (l : Link) :
    effects.foldl (request moment seed) l =
      l.after ((effects.filterMap Effect.channel?).map (asking moment seed)) := by
  induction effects generalizing l with
  | nil => rfl
  | cons e effects ih =>
    rw [List.foldl_cons, ih]
    cases e <;> rfl

theorem acted_session (b : Board) (a : Act) :
    b.step (.session a) = b ∧ b.acted (.session a) = [] ∨
      b.step (.session a) = { b with link := b.link.act a } ∧ b.acted (.session a) = [a] := by
  cases a with
  | issue c => exact .inr ⟨rfl, rfl⟩
  | take env => exact .inr ⟨rfl, rfl⟩
  | meet env input =>
    cases input with
    | abandoned =>
      cases htracking : b.isTracking with
      | true => exact .inl (by simp [step, acted, htracking])
      | false => exact .inr (by simp [step, acted, htracking])
    | _ => exact .inr ⟨rfl, rfl⟩

theorem change_still {b : Board} {e : Happening} (h : b.step e = b ∧ b.acted e = []) :
    (b.step e).link = b.link.after (b.acted e) ∧ Change b e (b.step e).orders (b.acted e) := by
  rw [h.1, h.2]
  exact ⟨rfl, .still⟩

theorem change_cue {b : Board} {i : Nat} {o : Order} {c : Cue} {input : Input} (moment : Moment)
    (seed : UInt64) (hget : b.orders[i]? = some (some o))
    (hinput : c.input? b.link.hub o.position = some input) :
    let e := Happening.cue moment seed i c
    (b.step e).link = b.link.after (b.acted e) ∧ Change b e (b.step e).orders (b.acted e) := by
  intro e
  obtain ⟨o', es, hturn⟩ : ∃ o' es, o.step b.link.isOpen moment.ticks input = (o', es) :=
    ⟨_, _, rfl⟩
  have hstep : b.step e = ⟨es.foldl (request moment seed) b.link, b.orders.set i (some o')⟩ := by
    simp only [e, step, hget, hinput, hturn]
  have hacted : b.acted e = (es.filterMap Effect.channel?).map (asking moment seed) := by
    simp only [e, acted, hget, hinput, hturn]
  rw [hstep, hacted, foldl_request]
  refine ⟨rfl, ?_⟩
  obtain ⟨hid, ⟨hposition, hchannels⟩ | ⟨skipped, event, rfl, hread⟩⟩ := Order.step_channels hturn
  · rw [hchannels]
    exact .wait hget hposition hid
  -- only a read has the order see an event
  cases c with
  | read =>
    obtain ⟨⟨skipped', event', position⟩, hnext, heq⟩ := Option.map_eq_some_iff.mp hinput
    obtain ⟨rfl, rfl, rfl⟩ := Input.event.inj heq
    rcases hread with ⟨rfl, hchannels⟩ | ⟨hother, hchannels⟩
    · rw [hchannels]
      exact .hear hget hnext hid
    · rw [hchannels]
      exact .pass hget hnext hother hid
  | _ => cases hinput

/-- Every happening is a change of the orders, and acts on the session. -/
theorem change (b : Board) (e : Happening) :
    (b.step e).link = b.link.after (b.acted e) ∧ Change b e (b.step e).orders (b.acted e) := by
  cases e with
  | session a =>
    rcases b.acted_session a with ⟨hstep, hacted⟩ | ⟨hstep, hacted⟩
    · exact change_still ⟨hstep, hacted⟩
    · rw [hstep, hacted]
      exact ⟨rfl, .session⟩
  | track moment seed id period =>
    cases hstart : Order.start? id b.link.hub.tail moment.ticks period with
    | none =>
      have hstep : b.step (.track moment seed id period) =
          { b with link := b.link.after [asking moment seed (channel id)] } := by
        simp only [step, hstart]
        rfl
      rw [hstep]
      exact ⟨rfl, .untracked⟩
    | some o =>
      have hstep : b.step (.track moment seed id period) =
          ⟨b.link.after [asking moment seed (channel id)], b.orders ++ [some o]⟩ := by
        simp only [step, hstart]
        rfl
      rw [hstep]
      exact ⟨rfl, .track hstart⟩
  | cue moment seed i c =>
    rcases hget : b.orders[i]? with _ | _ | o
    · exact change_still (by simp only [step, acted, hget, and_self])
    · exact change_still (by simp only [step, acted, hget, and_self])
    cases hinput : c.input? b.link.hub o.position with
    | none => exact change_still (by simp only [step, acted, hget, hinput, and_self])
    | some input => exact change_cue moment seed hget hinput
  | drop moment seed i =>
    rcases hget : b.orders[i]? with _ | _ | o
    · exact change_still (by simp only [step, acted, hget, and_self])
    · exact change_still (by simp only [step, acted, hget, and_self])
    have hstep : b.step (.drop moment seed i) =
        ⟨b.link.after (b.acted (.drop moment seed i)), b.orders.set i none⟩ := by
      simp only [step, acted, hget]
      rfl
    have hacted : b.acted (.drop moment seed i) =
        [.issue (.send (.unsubscribe moment.wall seed [channel o.id]))] := by simp only [acted, hget]
    rw [hstep, hacted]
    exact ⟨rfl, .drop hget⟩

/-- A message that withdraws the channel of an order comes from a handle, or from an order that is dropped. -/
theorem acted_cases {b : Board} {e : Happening} {id : String} {m : Outbound}
    (hacted : .issue (.send m) ∈ b.acted e) (hno : m.unsubscribes (channel id) = true) :
    e = .session (.issue (.send m)) ∨
      ∃ moment seed j o, e = .drop moment seed j ∧ b.orders[j]? = some (some o) ∧ o.id = id ∧
        m = .unsubscribe moment.wall seed [channel id] := by
  have hchange := (b.change e).2
  generalize (b.step e).orders = orders at hchange
  generalize b.acted e = acts at hacted hchange
  cases hchange with
  | still | pass _ _ _ _ | wait _ _ _ => cases hacted
  | session =>
    rw [List.mem_singleton] at hacted
    exact .inl (congrArg _ hacted.symm)
  | track _ | untracked | hear _ _ _ =>
    rw [List.mem_singleton, asking] at hacted
    cases hacted
    rw [Outbound.unsubscribes_subscribe] at hno
    cases hno
  | @drop moment seed j o hget =>
    rw [List.mem_singleton] at hacted
    cases hacted
    have hid : o.id = id := by simpa [channel_inj, eq_comm] using hno
    exact .inr ⟨moment, seed, j, o, rfl, hget, hid, by rw [hid]⟩

theorem link_step (b : Board) (e : Happening) : (b.step e).link = b.link.after (b.acted e) := (b.change e).1

theorem after_append (b : Board) (run run' : List Happening) :
    b.after (run ++ run') = (b.after run).after run' := by
  simp [after]

theorem after_concat (b : Board) (run : List Happening) (f : Happening) :
    b.after (run ++ [f]) = (b.after run).step f := by
  simp [after]

theorem history_append (b : Board) (run run' : List Happening) :
    b.history (run ++ run') = b.history run ++ (b.after run).history run' := by
  induction run generalizing b with
  | nil => rfl
  | cons e run ih => simp [history, after, ih]

theorem history_concat (b : Board) (run : List Happening) (f : Happening) :
    b.history (run ++ [f]) = b.history run ++ [(b.after run, f)] := b.history_append run [f]

theorem mem_history {b : Board} {run : List Happening} {f : Board × Happening} (h : f ∈ b.history run) :
    ∃ before rest, run = before ++ f.2 :: rest ∧ f.1 = b.after before := by
  induction run generalizing b with
  | nil => cases h
  | cons e run ih =>
    rcases List.mem_cons.mp h with rfl | h
    · exact ⟨[], run, rfl, rfl⟩
    · obtain ⟨before, rest, rfl, hfound⟩ := ih h
      exact ⟨e :: before, rest, rfl, hfound⟩

theorem mem_acts {b : Board} {run : List Happening} {a : Act} :
    a ∈ b.acts run ↔ ∃ f ∈ b.history run, a ∈ f.1.acted f.2 := List.mem_flatMap

theorem acts_append (b : Board) (run run' : List Happening) :
    b.acts (run ++ run') = b.acts run ++ (b.after run).acts run' := by
  simp [acts, history_append]

theorem acts_cons (b : Board) (e : Happening) (run : List Happening) :
    b.acts (e :: run) = b.acted e ++ (b.step e).acts run := rfl

/-- The session is where the acts have led it. -/
theorem link_after (b : Board) (run : List Happening) : (b.after run).link = b.link.after (b.acts run) := by
  induction run generalizing b with
  | nil => rfl
  | cons e run ih =>
    have hrest := ih (b.step e)
    rw [link_step] at hrest
    rw [acts_cons, Link.after_append, ← hrest]
    rfl

theorem records_append (b : Board) (run run' : List Happening) :
    b.records (run ++ run') = b.records run ++ (b.after run).records run' := by
  rw [records, acts_append, Link.records_append, ← link_after]
  rfl

/-- An order that was dropped does not come back. -/
theorem gone_after {b : Board} {i : Nat} (run : List Happening) (hgone : b.orders[i]? = some none) :
    (b.after run).orders[i]? = some none := by
  induction run generalizing b with
  | nil => exact hgone
  | cons e run ih =>
    apply ih
    have hchange := (b.change e).2
    generalize (b.step e).orders = orders at hchange ⊢
    generalize b.acted e = acts at hchange
    have hother {j : Nat} {o : Order} {slot : Option Order} (hget : b.orders[j]? = some (some o)) :
        (b.orders.set j slot)[i]? = some none := by
      rw [List.getElem?_set_ne, hgone]
      rintro rfl
      simp [hgone] at hget
    cases hchange with
    | still | session | untracked => exact hgone
    | track _ => rw [List.getElem?_append_left (List.getElem?_eq_some_iff.mp hgone).1, hgone]
    | hear hget _ _ | pass hget _ _ _ | wait hget _ _ | drop hget => exact hother hget

/-- An order that is there at the end of a run has not been dropped in it. -/
theorem drop_ne {b : Board} {i j : Nat} {o o' : Order} {run : List Happening} {f : Board × Happening}
    {moment : Moment} {seed : UInt64} (hlive : (b.after run).orders[i]? = some (some o))
    (hf : f ∈ b.history run) (hdrop : f.2 = .drop moment seed j)
    (hget : f.1.orders[j]? = some (some o')) : j ≠ i := by
  rintro rfl
  obtain ⟨before, rest, hsplit, hfound⟩ := mem_history hf
  have hgone : (f.1.step f.2).orders[j]? = some none := by
    rw [hdrop, step, hget]
    exact List.getElem?_set_self (List.getElem?_eq_some_iff.mp hget).1
  have hend : b.after run = (f.1.step f.2).after rest := by rw [hsplit, after_append, hfound]; rfl
  rw [hend, gone_after rest hgone] at hlive
  cases hlive

end Board

end Courier.Tracking
