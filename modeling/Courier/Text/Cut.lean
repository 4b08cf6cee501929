/-!
Cutting texts: at a first separator, at every separator, and at the end.
-/

namespace Courier.Text

/-- What stands before and after the first `sep`, none when there is no `sep`. -/
def cutFirst (sep : Char) : List Char → Option (List Char × List Char)
  | [] => none
  | c :: cs =>
    if c = sep then some ([], cs)
    else (cutFirst sep cs).map fun (before, after) => (c :: before, after)

/-- The parts between all the `sep`s; there is one more part than separators. -/
def cutAll (sep : Char) : List Char → List (List Char)
  | [] => [[]]
  | c :: cs =>
    if c = sep then [] :: cutAll sep cs
    else
      match cutAll sep cs with
      | [] => [[c]]
      | part :: parts => (c :: part) :: parts

def joinWith (sep : Char) : List (List Char) → List Char
  | [] => []
  | [part] => part
  | part :: parts => part ++ sep :: joinWith sep parts

theorem cutAll_ne_nil (sep : Char) (cs : List Char) : cutAll sep cs ≠ [] := by
  cases cs with
  | nil => simp [cutAll]
  | cons c cs =>
    simp only [cutAll]
    split
    · simp
    · split <;> simp

theorem joinWith_cutAll (sep : Char) (cs : List Char) : joinWith sep (cutAll sep cs) = cs := by
  induction cs with
  | nil => rfl
  | cons c cs ih =>
    simp only [cutAll]
    split
    next h =>
      subst h
      cases hp : cutAll c cs with
      | nil => exact absurd hp (cutAll_ne_nil c cs)
      | cons part parts => rw [hp] at ih; simp [joinWith, ih]
    next =>
      cases hp : cutAll sep cs with
      | nil => exact absurd hp (cutAll_ne_nil sep cs)
      | cons part parts =>
        rw [hp] at ih
        cases parts with
        | nil => simpa [joinWith] using ih
        | cons => simpa [joinWith] using ih

theorem cutFirst_append {sep : Char} {before : List Char} (h : sep ∉ before) (after : List Char) :
    cutFirst sep (before ++ sep :: after) = some (before, after) := by
  induction before with
  | nil => simp [cutFirst]
  | cons c before ih =>
    rw [List.mem_cons, not_or] at h
    simp [cutFirst, Ne.symm h.1, ih h.2]

theorem cutFirst_eq_none {sep : Char} {cs : List Char} : cutFirst sep cs = none ↔ sep ∉ cs := by
  induction cs with
  | nil => simp [cutFirst]
  | cons c cs ih =>
    by_cases hc : c = sep
    · simp [cutFirst, hc]
    · simp [cutFirst, hc, Ne.symm hc, ih]

theorem cutFirst_eq_some {sep : Char} {cs before after : List Char} :
    cutFirst sep cs = some (before, after) ↔ cs = before ++ sep :: after ∧ sep ∉ before := by
  constructor
  · intro h
    induction cs generalizing before with
    | nil => simp [cutFirst] at h
    | cons c cs ih =>
      by_cases hc : c = sep
      · simp only [cutFirst, hc, if_true, Option.some.injEq, Prod.mk.injEq] at h
        obtain ⟨rfl, rfl⟩ := h
        simp [hc]
      · simp only [cutFirst, hc, if_false, Option.map_eq_some_iff, Prod.mk.injEq] at h
        obtain ⟨⟨before, _⟩, hcut, rfl, rfl⟩ := h
        obtain ⟨rfl, hno⟩ := ih hcut
        simp [hno, Ne.symm hc]
  · rintro ⟨rfl, h⟩
    exact cutFirst_append h after

theorem cutAll_of_not_mem {sep : Char} {cs : List Char} (h : sep ∉ cs) : cutAll sep cs = [cs] := by
  induction cs with
  | nil => rfl
  | cons c cs ih =>
    rw [List.mem_cons, not_or] at h
    simp [cutAll, Ne.symm h.1, ih h.2]

theorem cutAll_append {sep : Char} {part : List Char} (h : sep ∉ part) (cs : List Char) :
    cutAll sep (part ++ sep :: cs) = part :: cutAll sep cs := by
  induction part with
  | nil => simp [cutAll]
  | cons c part ih =>
    rw [List.mem_cons, not_or] at h
    simp [cutAll, Ne.symm h.1, ih h.2]

/-- Parts without `sep` are found again where they were joined. -/
theorem cutAll_joinWith {sep : Char} {parts : List (List Char)} (hne : parts ≠ [])
    (h : ∀ part ∈ parts, sep ∉ part) : cutAll sep (joinWith sep parts) = parts := by
  induction parts with
  | nil => exact absurd rfl hne
  | cons part parts ih =>
    have hpart := h part (by simp)
    cases parts with
    | nil => exact cutAll_of_not_mem hpart
    | cons next parts =>
      have hrest := ih (by simp) fun p hp => h p (by simp [hp])
      have hjoin : joinWith sep (part :: next :: parts) = part ++ sep :: joinWith sep (next :: parts) := rfl
      rw [hjoin, cutAll_append hpart, hrest]

theorem not_mem_of_mem_cutAll {sep : Char} {cs part : List Char} (h : part ∈ cutAll sep cs) : sep ∉ part := by
  induction cs generalizing part with
  | nil => simp_all [cutAll]
  | cons c cs ih =>
    by_cases hc : c = sep
    · simp only [cutAll, hc, if_true, List.mem_cons] at h
      rcases h with rfl | h
      · simp
      · exact ih h
    · simp only [cutAll, hc, if_false] at h
      cases hparts : cutAll sep cs with
      | nil => exact absurd hparts (cutAll_ne_nil sep cs)
      | cons first rest =>
        rw [hparts] at h ih
        rcases List.mem_cons.mp h with rfl | h
        · simp [Ne.symm hc, ih]
        · exact ih (by simp [h])

theorem joinWith_append_last (sep : Char) (parts : List (List Char)) (last tail : List Char) :
    joinWith sep (parts ++ [last ++ tail]) = joinWith sep (parts ++ [last]) ++ tail := by
  induction parts with
  | nil => rfl
  | cons part parts ih => cases parts <;> simp_all [joinWith]

/-- The text without the characters `c` at its end. -/
def dropEnd (c : Char) (cs : List Char) : List Char :=
  (cs.reverse.dropWhile (· == c)).reverse

/-- Nothing but characters `c` is dropped. -/
theorem dropEnd_append (c : Char) (cs : List Char) :
    ∃ tail, dropEnd c cs ++ tail = cs ∧ ∀ d ∈ tail, d = c := by
  refine ⟨(cs.reverse.takeWhile (· == c)).reverse, ?_, ?_⟩
  · rw [dropEnd, ← List.reverse_append, List.takeWhile_append_dropWhile, List.reverse_reverse]
  · intro d hd
    have hall := List.all_takeWhile (p := (· == c)) (l := cs.reverse)
    have hd' := List.all_eq_true.mp hall d (List.mem_reverse.mp hd)
    exact beq_iff_eq.mp hd'

end Courier.Text
