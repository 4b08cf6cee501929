import Courier.Json.Read

/-! Members of objects. An object is built by putting one member after the other into its place, so the names
ascend and none stands twice. What is looked up there is what stands there. -/

namespace Courier.Json

def Ascending (members : List (String × Value)) : Prop := members.Pairwise fun m n => m.1 < n.1

def insertAll (ms members : List (String × Value)) : List (String × Value) :=
  members.foldl (fun ms m => insertMember m.1 m.2 ms) ms

variable {name : String} {x : Value} {ms members : List (String × Value)} {m : String × Value}

theorem ne_of_lt {a b : String} (h : a < b) : b ≠ a := by
  rintro rfl
  exact String.lt_irrefl b h

theorem mem_insertMember (h : Ascending ms) :
    m ∈ insertMember name x ms ↔ m = (name, x) ∨ m.1 ≠ name ∧ m ∈ ms := by
  induction ms with
  | nil => simp [insertMember]
  | cons first rest ih =>
    obtain ⟨hfirst, hrest⟩ := List.pairwise_cons.mp h
    rw [insertMember]
    split
    case isTrue hless =>
      -- all members come after the name
      have hother : ∀ n ∈ first :: rest, n.1 ≠ name := by
        intro n hn
        rcases List.mem_cons.mp hn with rfl | hn
        · exact ne_of_lt hless
        · exact ne_of_lt (String.lt_trans hless (hfirst n hn))
      rw [List.mem_cons]
      exact or_congr_right ⟨fun hm => ⟨hother m hm, hm⟩, And.right⟩
    case isFalse hless =>
      split
      case isTrue heq =>
        have hother : ∀ n ∈ rest, n.1 ≠ name := fun n hn => heq ▸ ne_of_lt (hfirst n hn)
        simp only [List.mem_cons]
        constructor
        · rintro (hm | hm)
          · exact .inl hm
          · exact .inr ⟨hother m hm, .inr hm⟩
        · rintro (hm | ⟨hne, rfl | hm⟩)
          · exact .inl hm
          · exact absurd heq.symm hne
          · exact .inr hm
      case isFalse hne =>
        simp only [List.mem_cons, ih hrest]
        constructor
        · rintro (rfl | hm | hm)
          · exact .inr ⟨fun heq => hne heq.symm, .inl rfl⟩
          · exact .inl hm
          · exact .inr ⟨hm.1, .inr hm.2⟩
        · rintro (hm | ⟨hne', hm | hm⟩)
          · exact .inr (.inl hm)
          · exact .inl hm
          · exact .inr (.inr ⟨hne', hm⟩)

theorem Ascending.insertMember (h : Ascending ms) : Ascending (insertMember name x ms) := by
  induction ms with
  | nil => exact List.pairwise_singleton _ _
  | cons first rest ih =>
    obtain ⟨hfirst, hrest⟩ := List.pairwise_cons.mp h
    rw [Json.insertMember]
    split
    case isTrue hless =>
      refine List.pairwise_cons.mpr ⟨fun n hn => ?_, h⟩
      rcases List.mem_cons.mp hn with rfl | hn
      · exact hless
      · exact String.lt_trans hless (hfirst n hn)
    case isFalse hless =>
      split
      case isTrue heq => exact List.pairwise_cons.mpr ⟨fun n hn => heq ▸ hfirst n hn, hrest⟩
      case isFalse hne =>
        refine List.pairwise_cons.mpr ⟨fun n hn => ?_, ih hrest⟩
        rcases (mem_insertMember hrest).mp hn with rfl | ⟨-, hn⟩
        · exact Decidable.byContradiction fun hle => hne (String.le_antisymm hle hless)
        · exact hfirst n hn

theorem Ascending.insertAll (h : Ascending ms) : Ascending (insertAll ms members) := by
  induction members generalizing ms with
  | nil => exact h
  | cons m members ih => exact ih h.insertMember

theorem insertMember_of_last (h : ∀ m ∈ ms, m.1 < name) : insertMember name x ms = ms ++ [(name, x)] := by
  induction ms with
  | nil => rfl
  | cons first rest ih =>
    obtain ⟨hfirst, hrest⟩ := List.forall_mem_cons.mp h
    have hless : ¬ name < first.1 := fun hback => String.lt_irrefl name (String.lt_trans hback hfirst)
    rw [insertMember, if_neg hless, if_neg (ne_of_lt hfirst), ih hrest, List.cons_append]

/-- Members that are in order already stay as they are. -/
theorem insertAll_of_ascending (h : Ascending (ms ++ members)) : insertAll ms members = ms ++ members := by
  induction members generalizing ms with
  | nil => rw [List.append_nil, insertAll, List.foldl_nil]
  | cons m members ih =>
    have hlast : ∀ n ∈ ms, n.1 < m.1 := fun n hn => (List.pairwise_append.mp h).2.2 n hn m List.mem_cons_self
    have hgrown : ms ++ m :: members = (ms ++ [m]) ++ members := by simp
    rw [hgrown] at h ⊢
    rw [← ih h, insertAll, List.foldl_cons, insertMember_of_last hlast, insertAll]

/-- Members of other names leave what stands under a name. -/
theorem mem_insertAll (h : Ascending ms) (hother : ∀ n ∈ members, n.1 ≠ m.1) :
    m ∈ insertAll ms members ↔ m ∈ ms := by
  induction members generalizing ms with
  | nil => rfl
  | cons n members ih =>
    obtain ⟨hn, hother⟩ := List.forall_mem_cons.mp hother
    refine (ih h.insertMember hother).trans ?_
    rw [mem_insertMember h]
    constructor
    · rintro (rfl | hm)
      · exact absurd rfl hn
      · exact hm.2
    · intro hm
      exact .inr ⟨hn.symm, hm⟩

theorem Ascending.unique {y : Value} (h : Ascending ms) (hx : (name, x) ∈ ms) (hy : (name, y) ∈ ms) : x = y := by
  induction ms with
  | nil => cases hx
  | cons first rest ih =>
    obtain ⟨hfirst, hrest⟩ := List.pairwise_cons.mp h
    rcases List.mem_cons.mp hx with hx | hx <;> rcases List.mem_cons.mp hy with hy | hy
    · exact (Prod.mk.inj (hx.trans hy.symm)).2
    · have hname : name = first.1 := congrArg Prod.fst hx
      exact absurd hname (ne_of_lt (hfirst (name, y) hy))
    · have hname : name = first.1 := congrArg Prod.fst hy
      exact absurd hname (ne_of_lt (hfirst (name, x) hx))
    · exact ih hrest hx hy

theorem get?_eq_some_iff (h : Ascending ms) : (Value.object ms).get? name = some x ↔ (name, x) ∈ ms := by
  have hfound {m : String × Value} (hm : ms.find? (fun m => m.1 == name) = some m) : m.1 = name ∧ m ∈ ms := by
    have hname := List.find?_some hm
    exact ⟨beq_iff_eq.mp hname, List.mem_of_find?_eq_some hm⟩
  rw [Value.get?, Option.map_eq_some_iff]
  constructor
  · rintro ⟨m, hm, rfl⟩
    obtain ⟨rfl, hmem⟩ := hfound hm
    exact hmem
  · intro hmem
    have hsome : (ms.find? fun m => m.1 == name).isSome := by
      rw [List.find?_isSome]
      exact ⟨(name, x), hmem, beq_self_eq_true name⟩
    obtain ⟨m, hm⟩ := Option.isSome_iff_exists.mp hsome
    obtain ⟨rfl, hmem'⟩ := hfound hm
    exact ⟨m, hm, h.unique hmem' hmem⟩

/-- The members of an object that a text writes are in order. -/
theorem ascending_of_parse {text : String} (h : Value.parse? text = some (.object ms)) : Ascending ms := by
  obtain ⟨tree, -, hvalue⟩ := Option.bind_eq_some_iff.mp h
  cases tree with
  | object members =>
    rw [Tree.toValue?] at hvalue
    split at hvalue
    case isTrue => cases hvalue
    case isFalse =>
      obtain ⟨read, -, hread⟩ := Option.map_eq_some_iff.mp hvalue
      cases hread
      exact Ascending.insertAll List.Pairwise.nil
  | null | bool _ =>
    rw [Tree.toValue?] at hvalue
    cases hvalue
  | number _ | string _ =>
    rw [Tree.toValue?] at hvalue
    obtain ⟨read, -, hread⟩ := Option.map_eq_some_iff.mp hvalue
    cases hread
  | array _ =>
    rw [Tree.toValue?] at hvalue
    split at hvalue
    case isTrue => cases hvalue
    case isFalse =>
      obtain ⟨read, -, hread⟩ := Option.map_eq_some_iff.mp hvalue
      cases hread

def Value.Has (v : Value) (name : String) (m : Value) : Prop :=
  ∃ members, v = .object members ∧ (name, m) ∈ members

/-- Whether the members of a value are in order, if it has any. -/
def Value.Ordered (v : Value) : Prop := ∀ members, v = .object members → Ascending members

variable {v : Value}

theorem has_iff (h : v.Ordered) : v.Has name x ↔ v.get? name = some x := by
  constructor
  · rintro ⟨members, rfl, hmem⟩
    exact (get?_eq_some_iff (h members rfl)).mpr hmem
  · intro hget
    cases v with
    | object members => exact ⟨members, rfl, (get?_eq_some_iff (h members rfl)).mp hget⟩
    | _ => cases hget

theorem has_none_iff (h : v.Ordered) : (∀ x, ¬ v.Has name x) ↔ v.get? name = none := by
  simp only [has_iff h, Option.eq_none_iff_forall_ne_some, ne_eq]

theorem ordered_of_parse {text : String} (h : Value.parse? text = some v) : v.Ordered := by
  rintro members rfl
  exact ascending_of_parse h

end Courier.Json
