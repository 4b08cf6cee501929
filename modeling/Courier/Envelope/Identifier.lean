import Courier.Text.Base36
import Courier.Time.Instant

/-!
Identifiers of outgoing messages: the milliseconds of the wall clock and nine base-36 digits that
are drawn from a seed.
-/

namespace Courier.Envelope

/-- Scatters the bits of a seed, so that neighbouring seeds give unrelated words. -/
def scatter (seed : UInt64) : UInt64 :=
  let z := seed + 0x9E3779B97F4A7C15
  let z := (z ^^^ (z >>> 30)) * 0xBF58476D1CE4E5B9
  let z := (z ^^^ (z >>> 27)) * 0x94D049BB133111EB
  z ^^^ (z >>> 31)

def suffixLength : Nat := 9

def suffix (seed : UInt64) : String := Text.Base36.encode (scatter seed) suffixLength

def milliseconds (t : Time.Instant) : Int := t.seconds * 1000 + (t.nanos / 1000000 : Nat)

def identifier (now : Time.Instant) (seed : UInt64) : String :=
  toString (milliseconds now) ++ "_" ++ suffix seed

end Courier.Envelope
