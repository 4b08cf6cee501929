/-!
A stream of events with any number of subscribers. Each subscriber has a position of its own. Only
the latest events are kept for those who lag behind; a subscriber that has fallen further back skips
the older ones.
-/

namespace Courier.Session

structure Hub (α : Type) where
  /-- How many events are kept. -/
  kept : Nat
  /-- All events so far, in order. -/
  sent : Array α := #[]

namespace Hub

/-- The least power of two from `k` on that is at least `n`; the first argument bounds the steps. -/
def powerFrom : Nat → Nat → Nat → Nat
  | 0, k, _ => k
  | steps + 1, k, n => if n ≤ k then k else powerFrom steps (2 * k) n

/-- A stream without events that keeps at least `capacity` of them, rounded up to a power of two. -/
def ofCapacity (capacity : Nat) : Hub α := ⟨powerFrom capacity 1 capacity, #[]⟩

/-- The position of a new subscriber: it sees the events from now on. -/
def tail (h : Hub α) : Nat := h.sent.size

def push (h : Hub α) (a : α) : Hub α := { h with sent := h.sent.push a }

/-- The next event from a position, if there is one: how many events were skipped, the event, and
the position after it. -/
def next? (h : Hub α) (position : Nat) : Option (Nat × α × Nat) :=
  let first := max position (h.sent.size - h.kept)
  (h.sent[first]?).map fun a => (first - position, a, first + 1)

end Hub
end Courier.Session
