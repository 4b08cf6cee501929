import Courier.Proofs.Json.Integers
import Courier.Proofs.Json.Members

/-! Which values there are: integers fit a 64-bit word, the members of an object are in ascending order, and
nothing nests deeper than the reader allows. Every value that is read from a text is one of these. -/

namespace Courier.Json

namespace Value

inductive Valid : Nat → Value → Prop where
  | null {depth} : Valid depth .null
  | bool {depth} (b) : Valid depth (.bool b)
  | integer {depth n} : IsWord n → Valid depth (.number (.integer n))
  | float {depth} (x) : Valid depth (.number (.float x))
  | string {depth} (s) : Valid depth (.string s)
  | array {depth items} : (∀ v ∈ items, Valid depth v) → Valid (depth + 1) (.array items)
  | object {depth members} : Ascending members → (∀ m ∈ members, Valid depth m.2) →
    Valid (depth + 1) (.object members)

inductive FloatFree : Value → Prop where
  | null : FloatFree .null
  | bool (b) : FloatFree (.bool b)
  | integer (n) : FloatFree (.number (.integer n))
  | string (s) : FloatFree (.string s)
  | array {items} : (∀ v ∈ items, FloatFree v) → FloatFree (.array items)
  | object {members} : (∀ m ∈ members, FloatFree m.2) → FloatFree (.object members)

end Value

theorem gather_le {limit word : Nat} (h : word ≤ limit) (ds : List Nat) :
    (Decimal.gather limit word ds).1 ≤ limit := by
  induction ds generalizing word with
  | nil => exact h
  | cons d ds ih =>
    rw [Decimal.gather]
    split
    case isTrue => exact h
    case isFalse hfits => exact ih (Nat.not_lt.mp hfits)

theorem isWord_of_read? {literal : Decimal.Literal} {n : Int} (h : Decimal.read? literal = some (.integer n)) :
    IsWord n := by
  obtain ⟨negative, whole, fraction, exponent⟩ := literal
  have hword := gather_le (Nat.zero_le Decimal.wordMax) whole
  unfold Decimal.read? at h
  dsimp only at h
  generalize Decimal.gather Decimal.wordMax 0 whole = gathered at hword h
  obtain ⟨word, taken, dropped⟩ := gathered
  simp only [Decimal.wordMax] at hword
  split at h
  case h_1 =>
    split at h
    case isTrue =>
      cases h
      constructor <;> omega
    case isFalse =>
      split at h
      case isTrue => cases h
      case isFalse hsigned =>
        cases h
        constructor <;> omega
  case h_2 =>
    obtain ⟨x, -, hx⟩ := Option.map_eq_some_iff.mp h
    cases hx

theorem mem_of_mem_insertAll {ms members : List (String × Value)} {m : String × Value} (h : Ascending ms)
    (hm : m ∈ insertAll ms members) : m ∈ ms ∨ m ∈ members := by
  induction members generalizing ms with
  | nil => exact .inl hm
  | cons n members ih =>
    rcases ih h.insertMember hm with hm | hm
    · rcases (mem_insertMember h).mp hm with rfl | ⟨-, hm⟩
      · exact .inr List.mem_cons_self
      · exact .inl hm
    · exact .inr (List.mem_cons_of_mem n hm)

mutual

theorem Tree.valid_of_toValue? {depth : Nat} {v : Value} (t : Tree) (h : t.toValue? depth = some v) :
    v.Valid depth := by
  cases t with
  | null =>
    rw [Tree.toValue?] at h
    cases h
    exact .null
  | bool b =>
    rw [Tree.toValue?] at h
    cases h
    exact .bool b
  | number literal =>
    rw [Tree.toValue?] at h
    obtain ⟨n, hn, rfl⟩ := Option.map_eq_some_iff.mp h
    cases n with
    | integer n => exact .integer (isWord_of_read? hn)
    | float x => exact .float x
  | string ps =>
    rw [Tree.toValue?] at h
    obtain ⟨s, -, rfl⟩ := Option.map_eq_some_iff.mp h
    exact .string s
  | array items =>
    rw [Tree.toValue?] at h
    cases depth with
    | zero => cases h
    | succ depth =>
      obtain ⟨vs, hvs, rfl⟩ := Option.map_eq_some_iff.mp h
      exact .array (valid_of_itemsToValues? items hvs)
  | object members =>
    rw [Tree.toValue?] at h
    cases depth with
    | zero => cases h
    | succ depth =>
      obtain ⟨ms, hms, rfl⟩ := Option.map_eq_some_iff.mp h
      refine .object (Ascending.insertAll List.Pairwise.nil) fun m hm => ?_
      have hmem := (mem_of_mem_insertAll List.Pairwise.nil hm).resolve_left List.not_mem_nil
      exact valid_of_membersToValues? members hms m hmem

theorem valid_of_itemsToValues? {depth : Nat} {vs : List Value} (ts : List Tree)
    (h : itemsToValues? depth ts = some vs) : ∀ v ∈ vs, v.Valid depth := by
  cases ts with
  | nil =>
    rw [itemsToValues?] at h
    cases h
    exact fun v hv => absurd hv List.not_mem_nil
  | cons t ts =>
    rw [itemsToValues?] at h
    obtain ⟨v, hv, h⟩ := Option.bind_eq_some_iff.mp h
    obtain ⟨vs, hvs, h⟩ := Option.bind_eq_some_iff.mp h
    cases h
    exact List.forall_mem_cons.mpr ⟨t.valid_of_toValue? hv, valid_of_itemsToValues? ts hvs⟩

theorem valid_of_membersToValues? {depth : Nat} {ms : List (String × Value)} (ts : List (List Piece × Tree))
    (h : membersToValues? depth ts = some ms) : ∀ m ∈ ms, m.2.Valid depth := by
  cases ts with
  | nil =>
    rw [membersToValues?] at h
    cases h
    exact fun m hm => absurd hm List.not_mem_nil
  | cons t ts =>
    obtain ⟨ps, t⟩ := t
    rw [membersToValues?] at h
    obtain ⟨name, -, h⟩ := Option.bind_eq_some_iff.mp h
    obtain ⟨v, hv, h⟩ := Option.bind_eq_some_iff.mp h
    obtain ⟨ms, hms, h⟩ := Option.bind_eq_some_iff.mp h
    cases h
    exact List.forall_mem_cons.mpr ⟨t.valid_of_toValue? hv, valid_of_membersToValues? ts hms⟩

end

/-- Every value that a text writes is valid. -/
theorem valid_of_parse {text : String} {v : Value} (h : Value.parse? text = some v) : v.Valid depthLimit := by
  obtain ⟨t, -, hv⟩ := Option.bind_eq_some_iff.mp h
  exact t.valid_of_toValue? hv

end Courier.Json
