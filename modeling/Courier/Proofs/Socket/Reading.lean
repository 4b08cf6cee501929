import Courier.Proofs.Socket.Runs
import Mathlib.Data.List.Infix

/-! What a session hears of a WebSocket: the texts before the first item that ends the conversation, and
then of that item. What it has not received is on the way as long as it holds the connection, which
`Heard` says and every step keeps. -/

namespace Courier.Socket

open Session (SocketEvent)

def Item.ending? : Item → Option SocketEvent
  | close closing => some (.closed (closing.map (·.code)) (closing.elim "" (·.reason)))
  | error detail => some (.error detail)
  | ended => some (.closed none "stream ended")
  | _ => none

def Item.text? : Item → Option SocketEvent
  | text s => some (.text s)
  | _ => none

def told (items : List Item) : List SocketEvent :=
  (items.takeWhile (·.ending?.isNone)).filterMap Item.text? ++ (items.findSome? Item.ending?).toList

def isOver (items : List Item) : Bool := items.any (·.ending?.isSome)

@[simp] theorem told_nil : told [] = [] := rfl

theorem told_singleton (i : Item) : told [i] = (Reader.reading.read i).2.toList := by
  cases i with
  | close closing => cases closing <;> rfl
  | _ => rfl

theorem told_cons_of_none {i : Item} (hno : i.ending? = none) (items : List Item) :
    told (i :: items) = i.text?.toList ++ told items := by
  cases htext : i.text? <;> simp [told, hno, htext]

theorem told_cons_of_some {i : Item} {event : SocketEvent} (hlast : i.ending? = some event)
    (items : List Item) : told (i :: items) = [event] := by
  simp [told, hlast]

theorem isTerminal_of_ending {i : Item} {event : SocketEvent} (hlast : i.ending? = some event) :
    event.isTerminal = true := by
  cases i <;> simp [Item.ending?] at hlast <;> simp [← hlast, SocketEvent.isTerminal]

theorem not_isTerminal_of_text {i : Item} {event : SocketEvent} (htext : i.text? = some event) :
    event.isTerminal = false := by
  cases i <;> simp [Item.text?] at htext
  simp [← htext, SocketEvent.isTerminal]

theorem told_append_of_not_over {items : List Item} (hopen : isOver items = false) (more : List Item) :
    told (items ++ more) = told items ++ told more := by
  induction items with
  | nil => rfl
  | cons i items ih =>
    simp only [isOver, List.any_cons, Bool.or_eq_false_iff] at hopen
    obtain ⟨hi, hitems⟩ := hopen
    rw [Option.isSome_eq_false_iff, Option.isNone_iff_eq_none] at hi
    rw [List.cons_append, told_cons_of_none hi, told_cons_of_none hi, ih hitems, List.append_assoc]

theorem told_append_of_over {items : List Item} (hover : isOver items = true) (more : List Item) :
    told (items ++ more) = told items := by
  induction items with
  | nil => cases hover
  | cons i items ih =>
    cases hi : i.ending? with
    | none =>
      have hitems : isOver items = true := by simpa [isOver, hi] using hover
      rw [List.cons_append, told_cons_of_none hi, told_cons_of_none hi, ih hitems]
    | some event => rw [List.cons_append, told_cons_of_some hi, told_cons_of_some hi]

theorem told_isPrefix_append (items more : List Item) : told items <+: told (items ++ more) := by
  cases hover : isOver items with
  | false =>
    rw [told_append_of_not_over hover]
    exact List.prefix_append _ _
  | true => rw [told_append_of_over hover]

theorem exists_terminal {items : List Item} (hover : isOver items = true) :
    ∃ event ∈ told items, event.isTerminal = true := by
  induction items with
  | nil => cases hover
  | cons i items ih =>
    cases hi : i.ending? with
    | none =>
      have hitems : isOver items = true := by simpa [isOver, hi] using hover
      obtain ⟨event, hmem, hlast⟩ := ih hitems
      rw [told_cons_of_none hi]
      exact ⟨event, List.mem_append_right _ hmem, hlast⟩
    | some event =>
      rw [told_cons_of_some hi]
      exact ⟨event, List.mem_singleton_self event, isTerminal_of_ending hi⟩

/-- Nothing follows the event that ends a conversation. -/
theorem eq_told {items : List Item} {events : List SocketEvent} (hstart : events <+: told items)
    (hlast : ∃ event ∈ events, event.isTerminal = true) : events = told items := by
  induction items generalizing events with
  | nil =>
    obtain ⟨event, hmem, -⟩ := hlast
    simp [List.prefix_nil.mp hstart] at hmem
  | cons i items ih =>
    cases hi : i.ending? with
    | none =>
      rw [told_cons_of_none hi] at hstart ⊢
      cases htext : i.text? with
      | none =>
        simp only [htext, Option.toList_none, List.nil_append] at hstart ⊢
        exact ih hstart hlast
      | some text =>
        simp only [htext, Option.toList_some, List.singleton_append] at hstart ⊢
        cases events with
        | nil => simp at hlast
        | cons event events =>
          obtain ⟨rfl, hevents⟩ := List.cons_prefix_cons.mp hstart
          have hlater : ∃ event ∈ events, event.isTerminal = true := by
            simpa [not_isTerminal_of_text htext] using hlast
          rw [ih hevents hlater]
    | some event =>
      rw [told_cons_of_some hi] at hstart ⊢
      cases events with
      | nil => simp at hlast
      | cons first events =>
        obtain ⟨rfl, hevents⟩ := List.cons_prefix_cons.mp hstart
        rw [List.prefix_nil.mp hevents]

theorem Reader.read_not_reading {r : Reader} (hr : r ≠ .reading) (i : Item) :
    (r.read i).1 ≠ .reading ∧ (r.read i).2 = none := by
  cases r with
  | reading => exact absurd rfl hr
  | lingering => cases i <;> simp [Reader.read]
  | stopped => simp [Reader.read]

theorem Reader.read_reading (i : Item) : (reading.read i).1 = .reading ↔ i.ending? = none := by
  cases i <;> simp [Reader.read, Item.ending?]

theorem Reader.readAll_not_reading {r : Reader} (hr : r ≠ .reading) (items : List Item) :
    (r.readAll items).2 = [] := by
  induction items generalizing r with
  | nil => rfl
  | cons i items ih =>
    obtain ⟨hstill, hnone⟩ := read_not_reading hr i
    simp only [readAll, hnone, ih hstill]
    rfl

/-- Left to itself, the reading side tells all that there is to be told. -/
theorem Reader.readAll_reading (items : List Item) : (reading.readAll items).2 = told items := by
  induction items with
  | nil => rfl
  | cons i items ih =>
    have hfirst := told_singleton i
    simp only [readAll]
    rw [← hfirst]
    cases hi : i.ending? with
    | none =>
      rw [read_reading i |>.mpr hi, ih, told_cons_of_none hi, told_cons_of_none hi, told_nil, List.append_nil]
    | some event =>
      have hdone : (reading.read i).1 ≠ .reading := by simp [read_reading, hi]
      rw [readAll_not_reading hdone, told_cons_of_some hi, told_cons_of_some hi]
      rfl

namespace Connection

def Happening.item? : Happening → Option Item
  | work (.read i) => some i
  | _ => none

def items (hs : List Happening) : List Item := hs.filterMap Happening.item?

def events (hs : List Happening) : List SocketEvent := collect received {} hs

variable {c : Connection} {h : Happening}

@[simp] theorem items_concat (hs : List Happening) (h : Happening) :
    items (hs ++ [h]) = items hs ++ h.item?.toList := by
  unfold items
  rw [List.filterMap_append]
  cases hitem : h.item? <;> simp [hitem]

@[simp] theorem events_concat (hs : List Happening) (h : Happening) :
    events (hs ++ [h]) = events hs ++ ((after {} hs).received h).toList := collect_concat ..

/-- How far the session has got with what it is to be told. What it has not received is on the way, as
long as it holds the connection. -/
inductive Heard (items : List Item) (events : List SocketEvent) (c : Connection) : Prop where
  | held : c.held = true → events ++ c.inbox = told items →
      (c.reader = .reading ↔ isOver items = false) → Heard items events c
  | released : c.held = false → events <+: told items → Heard items events c

variable {items : List Item} {events : List SocketEvent}

theorem Heard.ordered (hh : Heard items events c) : events <+: told items := by
  cases hh with
  | held _ hrest _ => exact hrest ▸ List.prefix_append _ _
  | released _ hstart => exact hstart

/-- The session is told of an item as long as none has ended the conversation. -/
theorem Heard.read (hheld : c.held = true) (hrest : events ++ c.inbox = told items)
    (hreading : c.reader = .reading ↔ isOver items = false) (i : Item) :
    Heard (items ++ [i]) events (c.read i) := by
  have hread : c.read i =
      { c with reader := (c.reader.read i).1, inbox := c.inbox ++ (c.reader.read i).2.toList } := by
    simp [Connection.read, hheld, Reader.step]
  have hmore : isOver (items ++ [i]) = (isOver items || i.ending?.isSome) := by simp [isOver]
  rw [hread]
  by_cases hr : c.reader = .reading
  · have hopen := hreading.mp hr
    refine .held hheld ?_ ?_
    · rw [told_append_of_not_over hopen, ← hrest, told_singleton, hr, List.append_assoc]
    · rw [hr, Reader.read_reading, hmore, hopen, Bool.false_or, Option.isSome_eq_false_iff, Option.isNone_iff_eq_none]
  · have hover : isOver items = true := by simpa [hreading] using hr
    obtain ⟨hstill, hnone⟩ := Reader.read_not_reading hr i
    refine .held hheld ?_ (iff_of_false hstill (by simp [hmore, hover]))
    rw [told_append_of_over hover, hnone, ← hrest]
    simp

/-- What the session does not receive does not change what it has received. -/
theorem Heard.step (hh : Heard items events c) (hno : h ≠ .receive) :
    Heard (items ++ h.item?.toList) events (c.step h) := by
  cases hh with
  | released hheld hstart => exact .released (held_step hheld h) (hstart.trans (told_isPrefix_append _ _))
  | held hheld hrest hreading =>
    cases h with
    | receive => exact absurd rfl hno
    | release =>
      refine .released rfl ?_
      change events <+: told (items ++ [])
      rw [List.append_nil, ← hrest]
      exact List.prefix_append _ _
    | send f =>
      change Heard (items ++ []) events (if c.accepts then { c with outbox := c.outbox ++ [f] } else c)
      rw [List.append_nil]
      split_ifs <;> exact .held hheld hrest hreading
    | work w =>
      cases w with
      | read i => exact Heard.read hheld hrest hreading i
      | write writable =>
        obtain ⟨_, _, hwrite⟩ := c.exists_write writable
        change Heard (items ++ []) events (c.write writable).1
        rw [List.append_nil, hwrite]
        exact .held hheld hrest hreading
      | notice =>
        change Heard (items ++ []) events (if c.held then c else _)
        rw [List.append_nil, if_pos hheld]
        exact .held hheld hrest hreading
      | giveUp =>
        change Heard (items ++ []) events { c with reader := (c.reader.step .lingerOver).1 }
        rw [List.append_nil]
        refine .held hheld hrest (Iff.trans ?_ hreading)
        cases c.reader <;> simp [Reader.step]

/-- Where the session has not been told of an end, the next event is the next one that it is to be told. -/
theorem Heard.next (hh : Heard items events c) (hheld : c.held = true)
    (hquiet : ∀ event ∈ events, event.isTerminal = false) :
    c.next? = (told items)[events.length]? := by
  cases hh with
  | released hgone _ => simp [hheld] at hgone
  | held _ hrest hreading =>
    rw [← hrest, List.getElem?_append_right le_rfl, Nat.sub_self]
    unfold next?
    cases hinbox : c.inbox with
    | cons event inbox => rfl
    | nil =>
      rw [hinbox, List.append_nil] at hrest
      have hopen : isOver items = false := by
        by_contra hover
        obtain ⟨event, hmem, hlast⟩ := exists_terminal (Bool.not_eq_false _ ▸ hover)
        rw [← hrest] at hmem
        simp [hquiet event hmem] at hlast
      simp [hreading.mpr hopen]

/-- The session receives what comes next. -/
theorem Heard.receive (hh : Heard items events c) (hheld : c.held = true)
    (hquiet : ∀ event ∈ events, event.isTerminal = false) {event : SocketEvent} (hnext : c.next? = some event) :
    Heard items (events ++ [event]) (c.step .receive) := by
  rw [hh.next hheld hquiet] at hnext
  cases hh with
  | released hgone _ => simp [hheld] at hgone
  | held _ hrest hreading =>
    rw [← hrest, List.getElem?_append_right le_rfl, Nat.sub_self] at hnext
    cases hinbox : c.inbox with
    | nil => simp [hinbox] at hnext
    | cons first inbox =>
      rw [hinbox] at hnext hrest
      obtain rfl : first = event := by simpa using hnext
      refine .held hheld ?_ hreading
      rw [← hrest, Connection.step, hinbox]
      simp

end Connection
end Courier.Socket
