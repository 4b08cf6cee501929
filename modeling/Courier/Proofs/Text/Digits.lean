import Courier.Text.Base36
import Courier.Text.Blank
import Courier.Text.Digits

/-! Digits read back: the value of each digit of a number, and the number that the values spell. What is written in
base 36 has as many digits as it should and nothing else. -/

namespace Courier.Text

def digitValues (cs : List Char) : List Nat := cs.map fun c => c.toNat - '0'.toNat

def EndsDigits (rest : List Char) : Prop := ∀ c ∈ rest.head?, digitValue? c = none

variable {c : Char} {cs : List Char} {n width : Nat}

theorem digitValue?_of_isDigit (h : c.isDigit = true) : digitValue? c = some (c.toNat - '0'.toNat) := by
  rw [digitValue?, if_pos]
  simpa [Char.isDigit, Char.le_def] using h

theorem digitValue?_lt {d : Nat} (h : digitValue? c = some d) : d < 10 := by
  obtain ⟨⟨-, hlast⟩, hvalue⟩ := Option.ite_none_right_eq_some.mp h
  have hle : c.toNat ≤ 57 := hlast
  have hzero : '0'.toNat = 48 := rfl
  obtain rfl := Option.some.inj hvalue
  omega

theorem foldl_digits_lt {ds : List Nat} (h : ∀ d ∈ ds, d < 10) (n : Nat) :
    ds.foldl (fun n d => n * 10 + d) n < (n + 1) * Nat.pow 10 ds.length := by
  induction ds generalizing n with
  | nil => exact Nat.lt_of_lt_of_eq (Nat.lt_succ_self n) (Nat.mul_one _).symm
  | cons d ds ih =>
    obtain ⟨hd, hds⟩ := List.forall_mem_cons.mp h
    calc (d :: ds).foldl (fun n d => n * 10 + d) n
      _ < (n * 10 + d + 1) * Nat.pow 10 ds.length := ih hds (n * 10 + d)
      _ ≤ ((n + 1) * 10) * Nat.pow 10 ds.length := Nat.mul_le_mul_right _ (by omega)
      _ = (n + 1) * (Nat.pow 10 ds.length * 10) := by rw [Nat.mul_assoc, Nat.mul_comm 10]

theorem ofDigits_lt {ds : List Nat} (h : ∀ d ∈ ds, d < 10) : ofDigits ds < Nat.pow 10 ds.length := by
  have hlt := foldl_digits_lt h 0
  rwa [Nat.zero_add, Nat.one_mul] at hlt

theorem isBlank_of_isDigit (h : c.isDigit = true) : isBlank c = false := by
  have hrange : 48 ≤ c.toNat ∧ c.toNat ≤ 57 := by
    simpa [Char.isDigit, UInt32.le_iff_toNat_le] using h
  simp [isBlank]
  omega

theorem ofDigits_digitValues (cs : List Char) : ofDigits (digitValues cs) = Nat.ofDigitChars 10 cs 0 := by
  rw [ofDigits, digitValues, List.foldl_map, Nat.ofDigitChars_eq_foldl]
  simp only [Nat.mul_comm]

theorem isDigit_of_mem_digits (h : c ∈ Nat.toDigits 10 n) : c.isDigit = true :=
  Nat.isDigit_of_mem_toDigits (by decide) (by decide) h

theorem ofDigits_toDigits (n : Nat) : ofDigits (digitValues (Nat.toDigits 10 n)) = n := by
  rw [ofDigits_digitValues, Nat.ofDigitChars_ten_toDigits]

/-- No zero stands before the digits of a positive number. -/
theorem head_toDigits (h : 0 < n) : (digitValues (Nat.toDigits 10 n)).head? ≠ some 0 := by
  have hvalue : ∀ d < 10, (Nat.digitChar d).toNat - '0'.toNat = d := by decide
  induction n using Nat.strongRecOn with
  | ind n ih =>
    rw [Nat.toDigits_eq_if (by decide)]
    split
    case isTrue hless =>
      simp only [digitValues, List.map_cons, List.head?_cons, hvalue n hless]
      intro heq
      exact absurd (Option.some.inj heq) (Nat.ne_of_gt h)
    case isFalse hmore =>
      have hfirst := ih (n / 10) (by omega) (by omega)
      obtain ⟨c, cs, hcs⟩ := List.exists_cons_of_ne_nil (Nat.toDigits_ne_nil : Nat.toDigits 10 (n / 10) ≠ [])
      rw [hcs] at hfirst ⊢
      exact hfirst

theorem toList_padded (width n : Nat) :
    (padded width n).toList = List.replicate (width - (Nat.toDigits 10 n).length) '0' ++ Nat.toDigits 10 n :=
  String.toList_ofList

theorem isDigit_of_mem_padded (h : c ∈ (padded width n).toList) : c.isDigit = true := by
  rw [toList_padded, List.mem_append] at h
  rcases h with h | h
  · rw [List.eq_of_mem_replicate h]
    rfl
  · exact isDigit_of_mem_digits h

theorem ofDigits_padded (width n : Nat) : ofDigits (digitValues (padded width n).toList) = n := by
  rw [ofDigits_digitValues, toList_padded, Nat.ofDigitChars_append, Nat.ofDigitChars_replicate_zero, Nat.mul_zero,
    Nat.ofDigitChars_ten_toDigits]

theorem length_padded (hpos : 0 < width) (h : n < Nat.pow 10 width) : (padded width n).toList.length = width := by
  have hlen := (Nat.length_toDigits_le_iff (by decide) hpos).mpr h
  rw [toList_padded, List.length_append, List.length_replicate]
  omega

theorem padded_ne_nil (width n : Nat) : (padded width n).toList ≠ [] := by
  rw [toList_padded]
  exact List.append_ne_nil_of_right_ne_nil _ Nat.toDigits_ne_nil

theorem exists_padded (width n : Nat) : ∃ c cs, (padded width n).toList = c :: cs ∧ c.isDigit = true := by
  obtain ⟨c, cs, hcs⟩ := List.exists_cons_of_ne_nil (padded_ne_nil width n)
  exact ⟨c, cs, hcs, isDigit_of_mem_padded (hcs ▸ List.mem_cons_self)⟩

namespace Base36

def IsDigit (c : Char) : Prop := c.isDigit = true ∨ c.isLower = true

theorem isDigit_digit : ∀ n < 36, (digit n).isDigit = true ∨ (digit n).isLower = true := by decide

theorem isDigit_of_mem_encode {value : UInt64} {length : Nat} {c : Char} (h : c ∈ (encode value length).toList) :
    IsDigit c := by
  rw [encode, String.toList_ofList, List.mem_reverse] at h
  generalize value.toNat = n at h
  induction length generalizing n with
  | zero => cases h
  | succ length ih =>
    rw [lowDigits] at h
    rcases List.mem_cons.mp h with rfl | h
    · exact isDigit_digit (n % 36) (Nat.mod_lt n (by decide))
    · exact ih (n / 36) h

theorem length_lowDigits (length n : Nat) : (lowDigits length n).length = length := by
  induction length generalizing n with
  | zero => rfl
  | succ length ih => rw [lowDigits, List.length_cons, ih]

theorem length_encode (value : UInt64) (length : Nat) : (encode value length).toList.length = length := by
  rw [encode, String.toList_ofList, List.length_reverse, length_lowDigits]

end Base36

end Courier.Text
