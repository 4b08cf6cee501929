/-!
Spans of time: whole nanoseconds, from nothing to just under 2 ^ 64 seconds. Arithmetic saturates at
the longest span. A span is written in the largest unit that has a non-zero whole part.
-/

namespace Courier.Time

structure Span where
  nanos : Nat
  nanos_lt : nanos < 0x10000000000000000 * 1000000000 := by decide
deriving DecidableEq

namespace Span

def longest : Span := ⟨0x10000000000000000 * 1000000000 - 1, by decide⟩

/-- The span of so many nanoseconds, or the longest one. -/
def ofNanos (n : Nat) : Span :=
  ⟨min n (0x10000000000000000 * 1000000000 - 1), by omega⟩

def ofMillis (n : Nat) : Span := ofNanos (n * 1000000)

def ofSeconds (n : Nat) : Span := ofNanos (n * 1000000000)

instance : Inhabited Span := ⟨ofNanos 0⟩

def times (d : Span) (k : Nat) : Span := ofNanos (d.nanos * k)

def millis (d : Span) : Nat := d.nanos / 1000000

def millisUp (d : Span) : Nat := (d.nanos + 999999) / 1000000

theorem nanos_times (d : Span) (k : Nat) :
    (d.times k).nanos = min (d.nanos * k) longest.nanos := rfl

/-- The digits of a fraction `n / 10 ^ places` after its point, without trailing zeros. -/
def fractionDigits (places n : Nat) : List Char :=
  let digits := Nat.toDigits 10 n
  let all := List.replicate (places - digits.length) '0' ++ digits
  (all.reverse.dropWhile (· == '0')).reverse

def decimal (places n : Nat) : String :=
  let whole := toString (n / Nat.pow 10 places)
  match fractionDigits places (n % Nat.pow 10 places) with
  | [] => whole
  | digits => whole ++ "." ++ String.ofList digits

/-- The text of a span: `15s`, `1.5s`, `200ms`, `1.5µs`, `0ns`. -/
def text (d : Span) : String :=
  if 1000000000 ≤ d.nanos then decimal 9 d.nanos ++ "s"
  else if 1000000 ≤ d.nanos then decimal 6 d.nanos ++ "ms"
  else if 1000 ≤ d.nanos then decimal 3 d.nanos ++ "µs"
  else toString d.nanos ++ "ns"

end Span
end Courier.Time
