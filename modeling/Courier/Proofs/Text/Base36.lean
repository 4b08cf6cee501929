import Courier.Proofs.Text.Digits
import Courier.Proofs.Text.Percent
import Mathlib.Algebra.Group.Nat.Defs
import Mathlib.Data.List.Basic

/-! Numbers in base 36 are read back. Only so many of a number's lowest digits are written, so what is read is the
remainder that they stand for, and numbers with the same remainder are written alike. -/

namespace Courier.Text.Base36

def value? (c : Char) : Option Nat :=
  if '0' ≤ c ∧ c ≤ '9' then some (c.toNat - '0'.toNat)
  else if 'a' ≤ c ∧ c ≤ 'z' then some (c.toNat - 'a'.toNat + 10)
  else none

/-- The number that digits spell, most significant first, none if one of them is no digit. -/
def read? (cs : List Char) : Option Nat :=
  cs.foldlM (fun n c => (value? c).map (n * 36 + ·)) 0

variable {length m n : Nat}

theorem value?_digit (h : n < 36) : value? (digit n) = some n := by
  have hall : ∀ n < 36, value? (digit n) = some n := by decide
  exact hall n h

theorem read?_concat (cs : List Char) (c : Char) :
    read? (cs ++ [c]) = (read? cs).bind fun n => (value? c).map (n * 36 + ·) := by
  rw [read?, List.foldlM_append]
  simp only [List.foldlM_cons, List.foldlM_nil, bind_pure]
  rfl

/-- A remainder is made of the lowest digit and the remainder that the other digits stand for. -/
theorem mod_succ (length n : Nat) : n % 36 ^ (length + 1) = n / 36 % 36 ^ length * 36 + n % 36 := by
  rw [Nat.pow_succ', Nat.mod_mul, Nat.add_comm, Nat.mul_comm]

theorem read?_lowDigits (length n : Nat) : read? (lowDigits length n).reverse = some (n % 36 ^ length) := by
  induction length generalizing n with
  | zero => rw [Nat.pow_zero, Nat.mod_one]; rfl
  | succ length ih =>
    rw [lowDigits, List.reverse_cons, read?_concat, ih, value?_digit (Nat.mod_lt n (by decide)), mod_succ]
    rfl

theorem lowDigits_congr (h : m % 36 ^ length = n % 36 ^ length) : lowDigits length m = lowDigits length n := by
  induction length generalizing m n with
  | zero => rfl
  | succ length ih =>
    rw [mod_succ, mod_succ] at h
    have hrest : m / 36 % 36 ^ length = n / 36 % 36 ^ length := by omega
    have hlowest : m % 36 = n % 36 := by omega
    rw [lowDigits, lowDigits, hlowest, ih hrest]

theorem utf8EncodeChar_of_mem {c : Char} (h : c ∈ lowDigits length n) :
    String.utf8EncodeChar c = [.ofNat c.toNat] := by
  have hall : ∀ n < 36, String.utf8EncodeChar (digit n) = [.ofNat (digit n).toNat] := by decide
  induction length generalizing n with
  | zero => cases h
  | succ length ih =>
    rw [lowDigits] at h
    rcases List.mem_cons.mp h with rfl | h
    · exact hall (n % 36) (Nat.mod_lt n (by decide))
    · exact ih h

theorem utf8_encode (value : UInt64) (length : Nat) : Percent.utf8 (encode value length) = bytes value length := by
  rw [Percent.utf8, encode, String.toList_ofList, bytes, ← List.map_reverse, List.map_eq_flatMap]
  refine List.flatMap_congr fun c hc => ?_
  exact utf8EncodeChar_of_mem (List.mem_reverse.mp hc)

/-- A number is written with the digits that there is room for, which spell its remainder. Two numbers are written
alike exactly if their remainders agree, and the bytes of the digits are always a text. -/
theorem spells_remainder (value : UInt64) (length : Nat) :
    (encode value length).toList.length = length ∧ (∀ c ∈ (encode value length).toList, IsDigit c) ∧
      read? (encode value length).toList = some (value.toNat % 36 ^ length) ∧
      (∀ other : UInt64, encode value length = encode other length ↔
        value.toNat % 36 ^ length = other.toNat % 36 ^ length) ∧
      String.fromUTF8? ⟨(bytes value length).toArray⟩ = some (encode value length) := by
  have hread (v : UInt64) : read? (encode v length).toList = some (v.toNat % 36 ^ length) := by
    rw [encode, String.toList_ofList, read?_lowDigits]
  refine ⟨length_encode value length, fun _ => isDigit_of_mem_encode, hread value, fun other => ⟨fun h => ?_, fun h => ?_⟩,
    ?_⟩
  · have hsame := hread value
    rw [h, hread other, Option.some.injEq] at hsame
    exact hsame.symm
  · rw [encode, encode, lowDigits_congr h]
  · rw [← utf8_encode]
    exact Percent.decodeUtf8?_utf8 (encode value length)

/-- The largest word, with room for one digit more than it has. -/
theorem spells_remainder_largest :
    '0' ∈ (encode 18446744073709551615 14).toList ∧ IsDigit '0' ∧
      read? (encode 18446744073709551615 14).toList = some 18446744073709551615 := by
  obtain ⟨-, hdigits, hread, -⟩ := spells_remainder 18446744073709551615 14
  have hmem : '0' ∈ (encode 18446744073709551615 14).toList := by decide
  exact ⟨hmem, hdigits _ hmem, hread⟩

example : encode 36 2 = "10" := by decide

end Courier.Text.Base36
