/-!
Numbers in base 36 with a fixed number of digits.
-/

namespace Courier.Text.Base36

/-- The digit of a number below 36: `0` to `9`, then `a` to `z`. -/
def digit (n : Nat) : Char :=
  Char.ofNat (if n < 10 then 48 + n else 87 + n)

/-- The lowest `length` digits of `value`, least significant first. -/
def lowDigits : Nat → Nat → List Char
  | 0, _ => []
  | length + 1, value => digit (value % 36) :: lowDigits length (value / 36)

/-- The lowest `length` digits of `value`, most significant first; zeros fill up short numbers. -/
def encode (value : UInt64) (length : Nat) : String :=
  String.ofList (lowDigits length value.toNat).reverse

/-- The bytes of the same digits, each found before the one that stands in front of it. -/
def bytes (value : UInt64) (length : Nat) : List UInt8 :=
  ((lowDigits length value.toNat).map fun c => .ofNat c.toNat).reverse

end Courier.Text.Base36
