import Courier.Text.Digits

/-!
Reading decimal numbers into machine words and double-precision numbers.

The digits are gathered into a 64-bit word. Once the next digit would overflow it, further digits
are dropped; those before the point then count in the exponent. The word is converted to floating
point and multiplied or divided by one power of ten, so a result may be one unit off the nearest.
-/

namespace Courier.Decimal

/-- A number as it is written: sign, digits before the point, digits after it (none for no point)
and exponent (none for no exponent). -/
structure Literal where
  negative : Bool
  whole : List Nat
  fraction : Option (List Nat)
  exponent : Option (Bool × List Nat)
deriving DecidableEq

/-- A number: an integer within the range of the signed and unsigned 64-bit words, or
a floating-point number. -/
inductive Number where
  | integer (n : Int)
  | float (x : Float)

def wordMax : Nat := 0xFFFFFFFFFFFFFFFF

def exponentMax : Nat := 0x7FFFFFFF

/-- Gathers digits into a word until the next would overflow it: the word, how many digits it took,
and the others. -/
def gather (limit : Nat) : Nat → List Nat → Nat × Nat × List Nat
  | word, [] => (word, 0, [])
  | word, d :: ds =>
    if limit < word * 10 + d then (word, 0, d :: ds)
    else
      let (word, taken, rest) := gather limit (word * 10 + d) ds
      (word, taken + 1, rest)

def powerOfTen (k : Nat) : Float := Float.ofScientific 1 false k

/-- `word * 10 ^ exponent` for a word on its way down from exponents below -308. -/
def divideDown : Nat → Float → Int → Float
  | 0, x, _ => x
  | steps + 1, x, exponent =>
    if -308 ≤ exponent then x / powerOfTen (-exponent).toNat
    else if x == 0 then x
    else divideDown steps (x / powerOfTen 308) (exponent + 308)

/-- `word * 10 ^ exponent`, none when it is too large. -/
def scale? (word : Nat) (exponent : Int) : Option Float :=
  let x := (UInt64.ofNat word).toFloat
  if exponent < 0 then some (divideDown 8 x exponent)
  else if exponent ≤ 308 then
    let y := x * powerOfTen exponent.toNat
    if y.isInf then none else some y
  else if word = 0 then some x else none

def signed (negative : Bool) (x : Float) : Float := if negative then -x else x

/-- Applies the written exponent to a word that already has one. -/
def applyExponent (negative : Bool) (word : Nat) (start : Int) :
    Option (Bool × List Nat) → Option Float
  | none => (scale? word start).map (signed negative)
  | some (down, digits) =>
    match gather exponentMax 0 digits with
    | (e, _, []) =>
      (scale? word (if down then start - e else start + e)).map (signed negative)
    | (_, _, _ :: _) =>
      -- an exponent beyond every range: zero, unless the number would be infinite
      if word ≠ 0 ∧ down = false then none else some (signed negative 0)

/-- The number that a literal writes, none when it is out of range. -/
def read? (l : Literal) : Option Number :=
  let (word, _, dropped) := gather wordMax 0 l.whole
  match l.fraction, l.exponent, dropped with
  | none, none, [] =>
    if l.negative = false then some (.integer word)
    else if word = 0 ∨ 0x8000000000000000 < word then some (.float (-(UInt64.ofNat word).toFloat))
    else some (.integer (-(word : Int)))
  | fraction, exponent, dropped =>
    let (word, taken, _) := gather wordMax word (fraction.getD [])
    (applyExponent l.negative word (dropped.length - taken) exponent).map .float

end Courier.Decimal
