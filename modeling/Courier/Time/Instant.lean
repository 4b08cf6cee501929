import Courier.Time.Calendar
import Courier.Time.Span
import Courier.Text.Digits

/-!
Instants of Coordinated Universal Time, to the nanosecond. An instant inside a leap second belongs
to the second before it and has 10 ^ 9 nanoseconds or more; so instants are ordered by their
seconds, then their nanoseconds. Any second can be followed by a leap second, but only one at the
end of a minute is written as second 60; another one is written like the second after it.
-/

namespace Courier.Time

/-- An instant: seconds since 1970-01-01T00:00:00Z, leap seconds not counted, and nanoseconds. -/
structure Instant where
  seconds : Int
  nanos : Nat
  first_le : -8334601228800 ≤ seconds
  le_last : seconds ≤ 8210266876799
  nanos_lt : nanos < 2000000000
deriving DecidableEq

namespace Instant

/-- The instant with these parts, if there is one. -/
def make? (seconds : Int) (nanos : Nat) : Option Instant :=
  if h : -8334601228800 ≤ seconds ∧ seconds ≤ 8210266876799 ∧ nanos < 2000000000 then
    some ⟨seconds, nanos, h.1, h.2.1, h.2.2⟩
  else none

theorem make?_self (t : Instant) : make? t.seconds t.nanos = some t := by
  rw [make?, dif_pos ⟨t.first_le, t.le_last, t.nanos_lt⟩]

def ofSeconds (seconds : Int) (first_le : -8334601228800 ≤ seconds)
    (le_last : seconds ≤ 8210266876799) : Instant :=
  ⟨seconds, 0, first_le, le_last, by decide⟩

def atMost (a b : Instant) : Bool :=
  a.seconds < b.seconds || (a.seconds == b.seconds && a.nanos ≤ b.nanos)

def ofMillis? (ms : Int) : Option Instant :=
  make? (ms / 1000) ((ms % 1000).toNat * 1000000)

/-- The instant a span later, none when the span has more milliseconds than a signed 64-bit word
holds or the result is out of range. Defined for instants outside leap seconds. -/
def plus? (t : Instant) (d : Span) : Option Instant :=
  if 0x7FFFFFFFFFFFFFFF * 1000000 < d.nanos then none
  else
    let nanos := t.nanos + d.nanos
    make? (t.seconds + nanos / 1000000000) (nanos % 1000000000)

/-- A year: four digits, or a sign and at least four digits outside 0 to 9999. -/
def yearText (year : Int) : String :=
  if 0 ≤ year ∧ year ≤ 9999 then Text.padded 4 year.toNat
  else (if year < 0 then "-" else "+") ++ Text.padded 4 year.natAbs

/-- Date and time of day, without a fraction or an offset. -/
def baseText (t : Instant) : String :=
  let date := Date.ofDays (t.seconds / 86400)
  let ofDay := (t.seconds % 86400).toNat
  let second := ofDay % 60 + t.nanos / 1000000000
  yearText date.year ++ "-" ++ Text.padded 2 date.month ++ "-" ++ Text.padded 2 date.day ++ "T" ++
    Text.padded 2 (ofDay / 3600) ++ ":" ++ Text.padded 2 (ofDay / 60 % 60) ++ ":" ++
    Text.padded 2 second

/-- The fraction of a second with the fewest of 0, 3, 6 or 9 digits that are exact. -/
def fractionText (nanos : Nat) : String :=
  if nanos = 0 then ""
  else if nanos % 1000000 = 0 then "." ++ Text.padded 3 (nanos / 1000000)
  else if nanos % 1000 = 0 then "." ++ Text.padded 6 (nanos / 1000)
  else "." ++ Text.padded 9 nanos

def text (t : Instant) : String :=
  t.baseText ++ fractionText (t.nanos % 1000000000) ++ "Z"

def millisText (t : Instant) : String :=
  t.baseText ++ "." ++ Text.padded 3 (t.nanos % 1000000000 / 1000000) ++ "Z"

end Instant
end Courier.Time
