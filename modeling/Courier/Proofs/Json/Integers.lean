import Courier.Json.Read
import Courier.Proofs.Text.Digits

/-! Integers of 64 bits. They are read back from their text, whatever closes the value behind it. -/

namespace Courier.Json

open Text (digitValues EndsDigits)

/-- Whether a text ends here or goes on with what may follow a value. -/
def Closes (rest : List Char) : Prop := ∀ c ∈ rest.head?, c = ',' ∨ c = ']' ∨ c = '\x7d'

def IsWord (n : Int) : Prop := -0x8000000000000000 ≤ n ∧ n ≤ 0xFFFFFFFFFFFFFFFF

theorem asInt64?_eq_some_iff {v : Value} {n : Int} :
    v.asInt64? = some n ↔
      v = .number (.integer n) ∧ -0x8000000000000000 ≤ n ∧ n < 0x8000000000000000 := by
  constructor
  · intro h
    unfold Value.asInt64? at h
    split at h
    case h_1 =>
      split at h
      case isTrue hrange =>
        obtain rfl := Option.some.inj h
        exact ⟨rfl, hrange⟩
      case isFalse => cases h
    case h_2 => cases h
  · rintro ⟨rfl, hrange⟩
    exact if_pos hrange

theorem Closes.endsDigits {rest : List Char} (h : Closes rest) : EndsDigits rest := by
  intro c hc
  rcases h c hc with rfl | rfl | rfl <;> rfl

namespace Reader

theorem digits_append {cs rest : List Char} (hdigits : ∀ c ∈ cs, c.isDigit = true) (hend : EndsDigits rest) :
    digits (cs ++ rest) = (digitValues cs, rest) := by
  induction cs with
  | nil =>
    cases rest with
    | nil => rfl
    | cons c rest => simp [digits, hend c rfl, digitValues]
  | cons c cs ih =>
    obtain ⟨hc, hcs⟩ := List.forall_mem_cons.mp hdigits
    simp [digits, Text.digitValue?_of_isDigit hc, ih hcs, digitValues]

theorem fractionPart_of_closes {rest : List Char} (h : Closes rest) : fractionPart rest = some (none, rest) := by
  cases rest with
  | nil => rfl
  | cons c rest => rcases h c rfl with rfl | rfl | rfl <;> rfl

theorem exponentPart_of_closes {rest : List Char} (h : Closes rest) : exponentPart rest = some (none, rest) := by
  cases rest with
  | nil => rfl
  | cons c rest => rcases h c rfl with rfl | rfl | rfl <;> rfl

theorem unsigned_toDigits (negative : Bool) (n : Nat) {rest : List Char} (h : Closes rest) :
    unsigned negative (Nat.toDigits 10 n ++ rest) =
      some (⟨negative, digitValues (Nat.toDigits 10 n), none, none⟩, rest) := by
  have hdigits := digits_append (fun _ => Text.isDigit_of_mem_digits (n := n)) h.endsDigits
  have hone : digits1 (Nat.toDigits 10 n ++ rest) = some (digitValues (Nat.toDigits 10 n), rest) := by
    obtain ⟨c, cs, hcs⟩ := List.exists_cons_of_ne_nil (Nat.toDigits_ne_nil : Nat.toDigits 10 n ≠ [])
    rw [digits1, hdigits, hcs]
    rfl
  have hzero : ¬ ((digitValues (Nat.toDigits 10 n)).head? = some 0 ∧ digitValues (Nat.toDigits 10 n) ≠ [0]) := by
    rintro ⟨hhead, hmore⟩
    rcases Nat.eq_zero_or_pos n with rfl | hpos
    · exact hmore rfl
    · exact Text.head_toDigits hpos hhead
  simp only [unsigned, hone, bind, Option.bind, if_neg hzero, fractionPart_of_closes h, exponentPart_of_closes h]
  rfl

theorem number_toDigits (n : Nat) (rest : List Char) :
    number (Nat.toDigits 10 n ++ rest) = unsigned false (Nat.toDigits 10 n ++ rest) := by
  obtain ⟨c, cs, hcs⟩ := List.exists_cons_of_ne_nil (Nat.toDigits_ne_nil : Nat.toDigits 10 n ≠ [])
  have hc : c.isDigit = true := Text.isDigit_of_mem_digits (hcs ▸ List.mem_cons_self)
  rw [hcs, List.cons_append, number]
  intro tail heq
  cases heq
  cases hc

end Reader

theorem toList_ofNat (n : Nat) : (toString (Int.ofNat n)).toList = Nat.toDigits 10 n := Nat.toList_repr

theorem toList_negSucc (n : Nat) : (toString (Int.negSucc n)).toList = '-' :: Nat.toDigits 10 (n + 1) := by
  have htext : toString (Int.negSucc n) = "-" ++ (n + 1).repr := rfl
  rw [htext, String.toList_append, Nat.toList_repr]
  rfl

theorem le_foldl (word : Nat) (ds : List Nat) : word ≤ ds.foldl (fun n d => n * 10 + d) word := by
  induction ds generalizing word with
  | nil => exact Nat.le_refl word
  | cons d ds ih =>
    have hrest := ih (word * 10 + d)
    rw [List.foldl_cons]
    omega

/-- Digits of a number within the limit are gathered to the last. -/
theorem gather_eq {limit word : Nat} {ds : List Nat} (h : ds.foldl (fun n d => n * 10 + d) word ≤ limit) :
    Decimal.gather limit word ds = (ds.foldl (fun n d => n * 10 + d) word, ds.length, []) := by
  induction ds generalizing word with
  | nil => rfl
  | cons d ds ih =>
    have hfits : ¬ limit < word * 10 + d := Nat.not_lt.mpr (Nat.le_trans (le_foldl _ ds) h)
    rw [Decimal.gather, if_neg hfits, ih h]
    rfl

theorem gather_toDigits {n : Nat} (h : n ≤ Decimal.wordMax) :
    Decimal.gather Decimal.wordMax 0 (digitValues (Nat.toDigits 10 n)) =
      (n, (digitValues (Nat.toDigits 10 n)).length, []) := by
  have hvalue : (digitValues (Nat.toDigits 10 n)).foldl (fun n d => n * 10 + d) 0 = n := Text.ofDigits_toDigits n
  rw [gather_eq (by rwa [hvalue]), hvalue]

/-- An integer is read back from its text. -/
theorem number_integer {n : Int} (h : IsWord n) {rest : List Char} (hrest : Closes rest) :
    ∃ literal, Reader.number ((toString n).toList ++ rest) = some (literal, rest) ∧
      Decimal.read? literal = some (.integer n) := by
  cases n with
  | ofNat n =>
    have hword : n ≤ Decimal.wordMax := Int.ofNat_le.mp h.2
    refine ⟨⟨false, digitValues (Nat.toDigits 10 n), none, none⟩, ?_, ?_⟩
    · rw [toList_ofNat, Reader.number_toDigits, Reader.unsigned_toDigits false n hrest]
    · simp only [Decimal.read?, gather_toDigits hword, if_true]
      rfl
  | negSucc n =>
    have hlow := h.1
    have hword : n + 1 ≤ Decimal.wordMax := by
      simp only [Decimal.wordMax]
      omega
    have hsigned : ¬ (n + 1 = 0 ∨ 0x8000000000000000 < n + 1) := by omega
    refine ⟨⟨true, digitValues (Nat.toDigits 10 (n + 1)), none, none⟩, ?_, ?_⟩
    · rw [toList_negSucc]
      exact Reader.unsigned_toDigits true (n + 1) hrest
    · simp only [Decimal.read?, gather_toDigits hword, if_neg hsigned, Bool.true_eq_false, if_false]
      rfl

end Courier.Json
