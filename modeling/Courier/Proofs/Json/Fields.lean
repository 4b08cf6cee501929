import Courier.Json.Record
import Mathlib.Data.List.Forall2

/-! The fields of a record, read from the members of an object: a field is there exactly if a member has its name,
and then it is read as that member's value. No name may stand twice. -/

namespace Courier.Json

inductive OptionalString : Option Value → Option String → Prop where
  | absent : OptionalString none none
  | null : OptionalString (some .null) none
  | string (s) : OptionalString (some (.string s)) (some s)

variable {depth : Nat} {ts : List (List Piece × Tree)} {ms : List (String × Value)}

/-- Whether a field is what the members say: absent, or a tree that is read as the value of its member. -/
def Holds (depth : Nat) (ms : List (String × Value)) (name : String) : Option Tree → Prop
  | none => (Value.object ms).get? name = none
  | some t => ∃ v, (Value.object ms).get? name = some v ∧ t.toValue? depth = some v

def StandsOnce (ms : List (String × Value)) (name : String) : Prop := (ms.filter (·.1 == name)).length ≤ 1

def ReadsMember (depth : Nat) (n : String × Tree) (m : String × Value) : Prop :=
  n.1 = m.1 ∧ n.2.toValue? depth = some m.2

theorem memberNames?_of_values (h : membersToValues? depth ts = some ms) :
    ∃ named, memberNames? ts = some named ∧ List.Forall₂ (ReadsMember depth) named ms := by
  induction ts generalizing ms with
  | nil =>
    rw [membersToValues?] at h
    cases h
    exact ⟨[], rfl, .nil⟩
  | cons t ts ih =>
    obtain ⟨ps, t⟩ := t
    rw [membersToValues?] at h
    obtain ⟨name, hname, h⟩ := Option.bind_eq_some_iff.mp h
    obtain ⟨v, hv, h⟩ := Option.bind_eq_some_iff.mp h
    obtain ⟨ms, hms, h⟩ := Option.bind_eq_some_iff.mp h
    cases h
    obtain ⟨named, hnamed, hall⟩ := ih hms
    refine ⟨(name, t) :: named, ?_, .cons ⟨rfl, hv⟩ hall⟩
    rw [memberNames?] at hnamed ⊢
    simp [List.mapM_cons, hname, hnamed]

theorem forall₂_filter {named : List (String × Tree)} (h : List.Forall₂ (ReadsMember depth) named ms)
    (name : String) :
    List.Forall₂ (ReadsMember depth) (named.filter (·.1 == name)) (ms.filter (·.1 == name)) := by
  induction h with
  | nil => exact .nil
  | @cons n m named ms hm _ ih =>
    rw [List.filter_cons, List.filter_cons, hm.1]
    split
    · exact .cons hm ih
    · exact ih

/-- The field that the named members make, none when more than one has its name. -/
def fieldOf (named : List (String × Tree)) (name : String) : Option (Option Tree) :=
  match named.filter (·.1 == name) with
  | [] => some none
  | [m] => some (some m.2)
  | _ => none

theorem holds_fieldOf {named : List (String × Tree)} (h : List.Forall₂ (ReadsMember depth) named ms) {name : String}
    (hname : StandsOnce ms name) : ∃ found, fieldOf named name = some found ∧ Holds depth ms name found := by
  have hget : (Value.object ms).get? name = (ms.filter (·.1 == name)).head?.map (·.2) := by
    rw [Value.get?, List.head?_filter]
  have hfilter := forall₂_filter h name
  rw [StandsOnce] at hname
  rw [fieldOf]
  generalize ms.filter (·.1 == name) = members at hget hfilter hname
  generalize named.filter (·.1 == name) = trees at hfilter ⊢
  cases hfilter with
  | nil => exact ⟨none, rfl, hget⟩
  | @cons n m _ _ hfirst hrest =>
    cases hrest with
    | nil => exact ⟨some n.2, rfl, m.2, hget, hfirst.2⟩
    | cons _ _ => simp at hname

theorem mapM_some {α β : Type} {f : α → Option β} {P : α → β → Prop} {xs : List α}
    (h : ∀ x ∈ xs, ∃ y, f x = some y ∧ P x y) : ∃ ys, xs.mapM f = some ys ∧ List.Forall₂ P xs ys := by
  induction xs with
  | nil => exact ⟨[], rfl, .nil⟩
  | cons x xs ih =>
    obtain ⟨⟨y, hy, hP⟩, hxs⟩ := List.forall_mem_cons.mp h
    obtain ⟨ys, hys, hall⟩ := ih hxs
    exact ⟨y :: ys, by simp [List.mapM_cons, hy, hys], .cons hP hall⟩

/-- The fields of an object are what its members say. -/
theorem fields?_object {names : List String} (h : membersToValues? depth ts = some ms)
    (hnames : ∀ name ∈ names, StandsOnce ms name) :
    ∃ found, (Tree.object ts).fields? names = some found ∧ List.Forall₂ (Holds depth ms) names found := by
  obtain ⟨named, hnamed, hall⟩ := memberNames?_of_values h
  obtain ⟨found, hfound, hholds⟩ := mapM_some fun name hname => holds_fieldOf hall (hnames name hname)
  refine ⟨found, ?_, hholds⟩
  rw [Tree.fields?, hnamed]
  exact hfound

theorem Holds.cases {name : String} {found : Option Tree} (h : Holds depth ms name found) :
    found = none ∧ (Value.object ms).get? name = none ∨
      ∃ t v, found = some t ∧ (Value.object ms).get? name = some v ∧ t.toValue? depth = some v := by
  cases found with
  | none => exact .inl ⟨rfl, h⟩
  | some t =>
    obtain ⟨v, hget, hread⟩ := h
    exact .inr ⟨t, v, rfl, hget, hread⟩

theorem Holds.present {name : String} {found : Option Tree} {v : Value} (h : Holds depth ms name found)
    (hget : (Value.object ms).get? name = some v) : ∃ t, found = some t ∧ t.toValue? depth = some v := by
  rcases h.cases with ⟨-, hnone⟩ | ⟨t, w, hfound, hw, hread⟩
  · simp [hget] at hnone
  · rw [hget, Option.some.injEq] at hw
    exact ⟨t, hfound, hw ▸ hread⟩

theorem Holds.absent {name : String} {found : Option Tree} (h : Holds depth ms name found)
    (hget : (Value.object ms).get? name = none) : found = none := by
  rcases h.cases with ⟨hfound, -⟩ | ⟨t, w, -, hw, -⟩
  · exact hfound
  · simp [hget] at hw

theorem eq_null_iff_of_toValue? {t : Tree} {v : Value} (h : t.toValue? depth = some v) : t = .null ↔ v = .null := by
  cases t <;> rw [Tree.toValue?] at h
  case null | bool =>
    cases h
    simp
  case number =>
    obtain ⟨n, -, rfl⟩ := Option.map_eq_some_iff.mp h
    simp
  case string ps =>
    obtain ⟨r, -, rfl⟩ := Option.map_eq_some_iff.mp h
    simp
  case array =>
    obtain ⟨vs, -, rfl⟩ := Option.map_eq_some_iff.mp (Option.ite_none_left_eq_some.mp h).2
    simp
  case object =>
    obtain ⟨ms, -, rfl⟩ := Option.map_eq_some_iff.mp (Option.ite_none_left_eq_some.mp h).2
    simp [Value.ofMembers]

theorem string?_of_toValue? {t : Tree} {v : Value} (h : t.toValue? depth = some v) :
    t.string? = v.toString?.toOption := by
  cases t <;> rw [Tree.toValue?] at h
  case null | bool =>
    cases h
    rfl
  case number =>
    obtain ⟨n, -, rfl⟩ := Option.map_eq_some_iff.mp h
    rfl
  case string ps =>
    obtain ⟨r, hr, rfl⟩ := Option.map_eq_some_iff.mp h
    exact hr
  case array =>
    obtain ⟨vs, -, rfl⟩ := Option.map_eq_some_iff.mp (Option.ite_none_left_eq_some.mp h).2
    rfl
  case object =>
    obtain ⟨ms, -, rfl⟩ := Option.map_eq_some_iff.mp (Option.ite_none_left_eq_some.mp h).2
    rfl

theorem stringOrNull?_of_toValue? {t : Tree} {v : Value} (h : t.toValue? depth = some v) :
    t.stringOrNull? = v.toStringOrNull?.toOption := by
  cases t <;> rw [Tree.toValue?] at h
  case null | bool =>
    cases h
    rfl
  case number =>
    obtain ⟨n, -, rfl⟩ := Option.map_eq_some_iff.mp h
    rfl
  case string ps =>
    obtain ⟨r, hr, rfl⟩ := Option.map_eq_some_iff.mp h
    change (spell? ps).map some = some (some r)
    rw [hr]
    rfl
  case array =>
    obtain ⟨vs, -, rfl⟩ := Option.map_eq_some_iff.mp (Option.ite_none_left_eq_some.mp h).2
    rfl
  case object =>
    obtain ⟨ms, -, rfl⟩ := Option.map_eq_some_iff.mp (Option.ite_none_left_eq_some.mp h).2
    rfl

theorem optionalString_none_iff {s : Option String} : OptionalString none s ↔ s = none := by
  constructor
  · rintro ⟨⟩
    rfl
  · rintro rfl
    exact .absent

theorem optionalString_some_iff {v : Value} {s : Option String} :
    OptionalString (some v) s ↔ v.toStringOrNull? = .ok s := by
  constructor
  · rintro (_ | _ | _) <;> rfl
  · intro h
    cases v with
    | null =>
      cases h
      exact .null
    | string =>
      cases h
      exact .string _
    | _ => cases h

theorem Holds.string {name s : String} {found : Option Tree} (h : Holds depth ms name found)
    (hget : (Value.object ms).get? name = some (.string s)) : ∃ t, found = some t ∧ t.string? = some s := by
  obtain ⟨t, rfl, hread⟩ := h.present hget
  exact ⟨t, rfl, string?_of_toValue? hread⟩

end Courier.Json
