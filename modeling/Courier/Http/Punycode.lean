/-!
Punycode: international labels of host names in ASCII. Code points outside ASCII are inserted in
ascending order; each step says how far the insertion moves on, in a variable-length base 36.
-/

namespace Courier.Http.Punycode

def digit (d : Nat) : Char :=
  if d < 26 then Char.ofNat (97 + d) else Char.ofNat (22 + d)

def threshold (k bias : Nat) : Nat :=
  if k ≤ bias then 1 else if bias + 26 ≤ k then 26 else k - bias

/-- Divides a delta until it is small, and counts the places. -/
def reduce (delta k : Nat) : Nat × Nat :=
  if 455 < delta then reduce (delta / 35) (k + 36) else (delta, k)
termination_by delta
decreasing_by omega

def adapt (delta count : Nat) (first : Bool) : Nat :=
  let delta := if first then delta / 700 else delta / 2
  let (delta, k) := reduce (delta + delta / count) 0
  k + 36 * delta / (delta + 38)

/-- The digits of a delta; every digit divides it by at least 10, so its length bounds the steps. -/
def digits : Nat → Nat → Nat → Nat → List Char
  | 0, _, _, _ => []
  | steps + 1, bias, k, q =>
    let t := threshold k bias
    if q < t then [digit q]
    else digit (t + (q - t) % (36 - t)) :: digits steps bias (k + 36) ((q - t) / (36 - t))

/-- What the insertion of all characters equal to `n` writes, scanning the label. -/
structure Scan where
  delta : Nat
  bias : Nat
  handled : Nat
  out : List Char

def Scan.step (n basic : Nat) (s : Scan) (c : Char) : Scan :=
  if c.toNat < n then { s with delta := s.delta + 1 }
  else if c.toNat = n then
    { delta := 0
      bias := adapt s.delta (s.handled + 1) (s.handled == basic)
      handled := s.handled + 1
      out := s.out ++ digits (s.delta + 1) s.bias 36 s.delta }
  else s

def next? (n : Nat) (label : List Char) : Option Nat :=
  (label.filterMap fun c => if n ≤ c.toNat then some c.toNat else none).min?

/-- Inserts the code points from `n` on; the label's length bounds the steps. -/
def insertAll : Nat → Nat → Nat → List Char → Scan → List Char
  | 0, _, _, _, s => s.out
  | steps + 1, n, basic, label, s =>
    match next? n label with
    | none => s.out
    | some m =>
      let s := { s with delta := s.delta + (m - n) * (s.handled + 1) }
      let s := label.foldl (Scan.step m basic) s
      insertAll steps (m + 1) basic label { s with delta := s.delta + 1 }

def encode (label : List Char) : List Char :=
  let basic := label.filter fun c => c.toNat < 128
  let head := if basic.isEmpty then [] else basic ++ ['-']
  head ++ insertAll label.length 128 basic.length label ⟨0, 72, basic.length, []⟩

end Courier.Http.Punycode
