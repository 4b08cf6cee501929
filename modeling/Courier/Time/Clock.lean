import Courier.Time.Instant

/-!
The clock that timers run on. It counts milliseconds from the start; deadlines between two of them
are met at the next one. A moment of a run also has a time of day.

A sleep that leads beyond the clock's range lasts 30 years instead, and a time limit beyond it is
never reached. A ticker cannot start with a period of zero or one that leads beyond the range.
-/

namespace Courier.Time

/-- A moment of a run: milliseconds since its start, and the time of day. -/
structure Moment where
  ticks : Nat
  wall : Instant

def Moment.ofTicks (ticks : Nat) : Moment := ⟨ticks, .ofSeconds 0 (by decide) (by decide)⟩

def clockEnd : Nat := 0x7FFFFFFFFFFFFFFF * 1000000000

def farFuture : Nat := 946080000 * 1000000000

/-- The first tick at or after a time in nanoseconds. -/
def tickOf (nanos : Nat) : Nat := (nanos + 999999) / 1000000

/-- Whether waiting that long from `ticks` stays within the clock's range. -/
def fits (ticks : Nat) (d : Span) : Bool := ticks * 1000000 + d.nanos < clockEnd

/-- The tick at which a sleep that starts at `ticks` is over. -/
def deadline (ticks : Nat) (d : Span) : Nat :=
  if fits ticks d then tickOf (ticks * 1000000 + d.nanos)
  else tickOf (ticks * 1000000 + farFuture)

/-- The tick at which a time limit that is set at `ticks` is reached, if the clock gets there. -/
def limit (ticks : Nat) (d : Span) : Nat := tickOf (ticks * 1000000 + d.nanos)

theorem le_limit (ticks : Nat) (d : Span) : ticks ≤ limit ticks d := by
  unfold limit tickOf
  omega

theorem limit_of_millis {ms : Nat} {d : Span} (ticks : Nat) (hd : d.nanos = ms * 1000000) :
    limit ticks d = ticks + ms := by
  rw [limit, tickOf, hd]
  omega

theorem le_deadline (ticks : Nat) (d : Span) (h : fits ticks d = true) :
    ticks * 1000000 + d.nanos ≤ deadline ticks d * 1000000 := by
  rw [deadline, if_pos h, tickOf]
  omega

/-- A repeating timer: the time of its next tick in nanoseconds, and its period. -/
structure Ticker where
  next : Nat
  period : Span
deriving DecidableEq

namespace Ticker

/-- How late a tick may be, in nanoseconds, before the following ones are delayed too. -/
def tolerance : Nat := 5000000

def due (t : Ticker) : Nat := tickOf t.next

/-- A timer whose first tick comes one period from now, if it can start. -/
def startLater? (ticks : Nat) (period : Span) : Option Ticker :=
  if period.nanos = 0 || !fits ticks period then none
  else some ⟨ticks * 1000000 + period.nanos, period⟩

/-- A timer whose first tick is due now, if it can start. -/
def startNow? (ticks : Nat) (period : Span) : Option Ticker :=
  if period.nanos = 0 then none else some ⟨ticks * 1000000, period⟩

/-- The timer after a tick that is taken at `ticks`, none when the next one is out of range. A tick
that is taken late delays the following ones. -/
def advance? (t : Ticker) (ticks : Nat) : Option Ticker :=
  if tolerance < 1000000 * ticks - t.next then
    if fits ticks t.period then some { t with next := ticks * 1000000 + t.period.nanos } else none
  else if t.next + t.period.nanos < clockEnd then some { t with next := t.next + t.period.nanos }
  else some { t with next := ticks * 1000000 + farFuture }

end Ticker
end Courier.Time
