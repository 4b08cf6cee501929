import Courier.Text.Cut
import Mathlib.Data.List.DropRight

/-! Cuts of texts that grow at their end, and what is left when characters are dropped there. -/

namespace Courier.Text

theorem cutFirst_append_right {sep : Char} {tail : List Char} (h : sep ∉ tail) (cs : List Char) :
    cutFirst sep (cs ++ tail) = (cutFirst sep cs).map fun p => (p.1, p.2 ++ tail) := by
  induction cs with
  | nil => exact cutFirst_eq_none.mpr h
  | cons c cs ih =>
    by_cases hc : c = sep
    · simp [cutFirst, hc]
    · simp only [List.cons_append, cutFirst, if_neg hc, ih, Option.map_map]
      rfl

theorem cutAll_append_cons (sep : Char) (cs tail : List Char) :
    cutAll sep (cs ++ sep :: tail) = cutAll sep cs ++ cutAll sep tail := by
  induction cs with
  | nil => simp [cutAll]
  | cons c cs ih =>
    by_cases hc : c = sep
    · simp [cutAll, hc, ih]
    · simp only [List.cons_append, cutAll, if_neg hc, ih]
      cases hparts : cutAll sep cs with
      | nil => exact absurd hparts (cutAll_ne_nil sep cs)
      | cons part parts => rfl

/-- A text without `sep` goes to the last part. -/
theorem exists_cutAll_append (sep : Char) (cs : List Char) :
    ∃ parts last, ∀ tail, sep ∉ tail → cutAll sep (cs ++ tail) = parts ++ [last ++ tail] := by
  have hne := cutAll_ne_nil sep cs
  have hparts := List.dropLast_append_getLast hne
  refine ⟨(cutAll sep cs).dropLast, (cutAll sep cs).getLast hne, fun tail htail => ?_⟩
  have hno (p) (hp : p ∈ (cutAll sep cs).dropLast ++ [(cutAll sep cs).getLast hne]) : sep ∉ p := by
    rw [hparts] at hp
    exact not_mem_of_mem_cutAll hp
  calc cutAll sep (cs ++ tail)
    _ = cutAll sep (joinWith sep ((cutAll sep cs).dropLast ++ [(cutAll sep cs).getLast hne ++ tail])) := by
      rw [joinWith_append_last, hparts, joinWith_cutAll]
    _ = (cutAll sep cs).dropLast ++ [(cutAll sep cs).getLast hne ++ tail] := by
      apply cutAll_joinWith
      · simp
      · intro p hp
        rcases List.mem_append.mp hp with hp | hp
        · exact hno p (List.mem_append_left _ hp)
        · rw [List.mem_singleton.mp hp, List.mem_append, not_or]
          exact ⟨hno _ (by simp), htail⟩

theorem dropEnd_eq_rdropWhile (c : Char) (cs : List Char) : dropEnd c cs = cs.rdropWhile (· == c) := rfl

theorem dropEnd_eq_nil_iff {c : Char} {cs : List Char} : dropEnd c cs = [] ↔ ∀ d ∈ cs, d = c := by
  simp [dropEnd_eq_rdropWhile, List.rdropWhile_eq_nil_iff]

theorem dropEnd_append_of_forall {c : Char} {tail : List Char} (h : ∀ d ∈ tail, d = c) (cs : List Char) :
    dropEnd c (cs ++ tail) = dropEnd c cs := by
  have htail : tail.reverse.dropWhile (· == c) = [] := by
    rw [List.dropWhile_eq_nil_iff]
    intro d hd
    exact beq_iff_eq.mpr (h d (List.mem_reverse.mp hd))
  rw [dropEnd, List.reverse_append, List.dropWhile_append, htail]
  rfl

theorem dropEnd_append_of_ne_nil {c : Char} {tail : List Char} (h : dropEnd c tail ≠ []) (cs : List Char) :
    dropEnd c (cs ++ tail) = cs ++ dropEnd c tail := by
  have htail : (tail.reverse.dropWhile (· == c)).isEmpty = false := by
    rw [List.isEmpty_eq_false_iff]
    intro hnil
    exact h (by rw [dropEnd, hnil, List.reverse_nil])
  rw [dropEnd, List.reverse_append, List.dropWhile_append, htail, if_neg Bool.false_ne_true,
    List.reverse_append, List.reverse_reverse, dropEnd]

theorem dropEnd_of_getLast? {c : Char} {cs : List Char} (h : cs.getLast? ≠ some c) : dropEnd c cs = cs := by
  rw [dropEnd_eq_rdropWhile, List.rdropWhile_eq_self_iff]
  intro hne hlast
  rw [List.getLast?_eq_some_getLast hne, beq_iff_eq.mp hlast] at h
  exact h rfl

theorem getLast?_dropEnd (c : Char) (cs : List Char) : (dropEnd c cs).getLast? ≠ some c := by
  intro hlast
  have hne : dropEnd c cs ≠ [] := by
    rintro hnil
    simp [hnil] at hlast
  have hnot := List.rdropWhile_last_not (· == c) cs hne
  rw [List.getLast?_eq_some_getLast hne, Option.some.injEq] at hlast
  exact hnot (beq_iff_eq.mpr hlast)

theorem takeWhile_append_cons {p : Char → Bool} {c : Char} (hc : p c = false) (cs tail : List Char) :
    (cs ++ c :: tail).takeWhile p = cs.takeWhile p := by
  induction cs with
  | nil => simp [hc]
  | cons d cs ih => cases hd : p d <;> simp [hd, ih]

theorem dropWhile_append_cons {p : Char → Bool} {c : Char} (hc : p c = false) (cs tail : List Char) :
    (cs ++ c :: tail).dropWhile p = cs.dropWhile p ++ c :: tail := by
  induction cs with
  | nil => simp [hc]
  | cons d cs ih => cases hd : p d <;> simp [hd, ih]

theorem takeWhile_of_not_mem {c : Char} {cs : List Char} (h : c ∉ cs) : cs.takeWhile (· != c) = cs := by
  rw [List.takeWhile_eq_self_iff]
  intro d hd
  exact bne_iff_ne.mpr (ne_of_mem_of_not_mem hd h)

theorem takeWhile_append_of_mem {c : Char} {cs : List Char} (h : c ∈ cs) (tail : List Char) :
    (cs ++ tail).takeWhile (· != c) = cs.takeWhile (· != c) := by
  rw [List.takeWhile_append, if_neg]
  intro hlen
  have hall := (List.takeWhile_prefix (· != c)).eq_of_length hlen
  have hc := List.takeWhile_eq_self_iff.mp hall c h
  simp at hc

end Courier.Text
