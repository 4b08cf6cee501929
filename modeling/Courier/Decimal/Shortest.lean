/-!
The shortest decimal text of a binary floating-point number: the fewest digits that read back as the
same number, and of those the nearest to it.

A finite number is `m * 2 ^ q`. The reals that round to it form an interval whose ends belong to it
exactly when `m` is even. For 1, 2, … 17 digits the two neighbours of the number on that decimal
grid are tried; the first grid that has one inside the interval gives the digits.
-/

namespace Courier.Decimal

/-- A positive finite binary number `mantissa * 2 ^ exponent`, and whether the number below it is
only half as far away as the one above. -/
structure Binary where
  mantissa : Nat
  exponent : Int
  narrowBelow : Bool

/-- The parts of a double-precision number's magnitude; infinities and NaN count as if they went on
the scale of finite numbers. -/
def Binary.ofBits (bits : UInt64) : Binary :=
  let fraction : Nat := bits.toNat % 0x10000000000000
  let biased : Nat := bits.toNat / 0x10000000000000 % 0x800
  if biased = 0 then ⟨fraction, -1074, false⟩
  else ⟨0x10000000000000 + fraction, (biased : Int) - 1075, fraction == 0 && 1 < biased⟩

/-- `n * 2 ^ k` for a non-negative `k`, else `n`. -/
def scaleUp (n : Nat) (base : Nat) (k : Int) : Nat := n * Nat.pow base k.toNat

/-- Four times the number, and the two ends of its interval, as fractions of `denominator`. -/
structure Interval where
  value : Nat
  low : Nat
  high : Nat
  denominator : Nat
  closed : Bool

def Interval.ofBinary (b : Binary) : Interval :=
  let up := fun n => scaleUp n 2 b.exponent
  { value := up (4 * b.mantissa)
    low := up (4 * b.mantissa - (if b.narrowBelow then 1 else 2))
    high := up (4 * b.mantissa + 2)
    denominator := scaleUp 4 2 (-b.exponent)
    closed := b.mantissa % 2 == 0 }

def Interval.contains (i : Interval) (n : Nat) (k : Int) : Bool :=
  let x := scaleUp (n * i.denominator) 10 k
  let low := scaleUp i.low 10 (-k)
  let high := scaleUp i.high 10 (-k)
  if i.closed then low ≤ x && x ≤ high else low < x && x < high

/-- Whether `n * 10 ^ k` is nearer to the value than `(n + 1) * 10 ^ k`; of two equally near the
even one is. -/
def Interval.nearer (i : Interval) (n : Nat) (k : Int) : Bool :=
  let twice := scaleUp ((2 * n + 1) * i.denominator) 10 k
  let value := 2 * scaleUp i.value 10 (-k)
  value < twice || (value == twice && n % 2 == 0)

/-- The number on the grid `10 ^ k` that stands for the value, if one does. -/
def Interval.onGrid (i : Interval) (k : Int) : Option Nat :=
  let below := scaleUp i.value 10 (-k) / scaleUp i.denominator 10 k
  match i.contains below k, i.contains (below + 1) k with
  | true, true => some (if i.nearer below k then below else below + 1)
  | true, false => some below
  | false, true => some (below + 1)
  | false, false => none

def Interval.search (i : Interval) : Nat → Int → Nat × Int
  | 0, k => ((i.onGrid k).getD 0, k)
  | steps + 1, k =>
    match i.onGrid k with
    | some n => if n = 0 then i.search steps (k - 1) else (n, k)
    | none => i.search steps (k - 1)

/-- The decimal exponent of the value's first digit, or one more. -/
def Interval.magnitude (i : Interval) : Int :=
  let digits := fun n => (Nat.toDigits 10 n).length
  (digits i.value : Int) - digits i.denominator + 1

/-- A positive decimal number `0.d₁d₂… * 10 ^ point`; the first and the last digit are not zero. -/
structure Digits where
  digits : List Char
  point : Int

def Digits.ofNat (n : Nat) (k : Int) : Digits :=
  let all := Nat.toDigits 10 n
  { digits := (all.reverse.dropWhile (· == '0')).reverse, point := k + all.length }

def shortest (bits : UInt64) : Digits :=
  let i := Interval.ofBinary (.ofBits bits)
  let (n, k) := i.search 18 i.magnitude
  .ofNat n k

/-- The digits with a point after the first `point` of them, zeros filled in, and at least one digit
on either side. -/
def Digits.positional (d : Digits) : String :=
  let whole := d.digits.take d.point.toNat
  let fraction := d.digits.drop d.point.toNat
  let whole := if whole.isEmpty then ['0']
    else whole ++ List.replicate (d.point.toNat - d.digits.length) '0'
  let fraction := if fraction.isEmpty then ['0'] else fraction
  String.ofList (whole ++ '.' :: List.replicate (-d.point).toNat '0' ++ fraction)

/-- One digit before the point, the others after it, and the exponent with its sign. -/
def Digits.scientific (d : Digits) : String :=
  let exponent := d.point - 1
  let mantissa := match d.digits with
    | [] => ['0']
    | [c] => [c]
    | c :: cs => c :: '.' :: cs
  String.ofList mantissa ++ "e" ++ (if exponent < 0 then "-" else "+") ++ toString exponent.natAbs

/-- The text of a finite number: positional when the exponent of its first digit is from -5 to 15,
else with an exponent. Zero keeps its sign. -/
def text (x : Float) : String :=
  let bits := x.toBits
  let magnitude := bits &&& 0x7FFFFFFFFFFFFFFF
  let sign := if bits == magnitude then "" else "-"
  if magnitude == 0 then sign ++ "0.0"
  else
    let d := shortest magnitude
    sign ++ if -4 ≤ d.point ∧ d.point ≤ 16 then d.positional else d.scientific

end Courier.Decimal
