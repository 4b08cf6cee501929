import Courier.Proofs.Json.Strings
import Courier.Proofs.Json.Valid

/-! A value without floating-point numbers is read back from its text, and so are the members of a record. What is
shown of a value holds wherever the value stands: at any depth that leaves room for it, before anything that may
follow it, and with any number of steps that is twice the length of its text. -/

namespace Courier.Json

namespace Reader

theorem skip_cons {c : Char} (h : c ∉ [' ', '\n', '\r', '\t']) (cs : List Char) : skip (c :: cs) = c :: cs := by
  simp only [List.mem_cons, List.not_mem_nil, or_false, not_or] at h
  rw [skip, List.dropWhile_cons_of_neg]
  simp [h]

theorem value_number {c : Char} (h : c = '-' ∨ c.isDigit = true) (steps : Nat) (cs : List Char) :
    value (steps + 1) (c :: cs) = (number (c :: cs)).map fun r => (.number r.1, r.2) := by
  have hskip : skip (c :: cs) = c :: cs := by
    apply skip_cons
    intro hmem
    simp only [List.mem_cons, List.not_mem_nil, or_false] at hmem
    rcases hmem with rfl | rfl | rfl | rfl <;> simp at h
  rw [value, hskip]
  split
  case h_7 =>
    cases number (c :: cs) <;> rfl
  all_goals
    rename_i heq
    cases heq
    simp at h

theorem value_string (steps : Nat) (cs : List Char) :
    value (steps + 1) ('"' :: cs) = (pieces cs).map fun r => (.string r.1, r.2) := by
  have hskip : skip ('"' :: cs) = '"' :: cs := skip_cons (by decide) cs
  rw [value]
  simp only [hskip]
  cases pieces cs <;> rfl

theorem value_array {c : Char} (h : c ∉ [' ', '\n', '\r', '\t', ']']) (steps : Nat) (cs : List Char) :
    value (steps + 1) ('[' :: c :: cs) = (items steps (c :: cs)).map fun r => (.array r.1, r.2) := by
  simp only [List.mem_cons, List.not_mem_nil, or_false, not_or] at h
  have hopen : skip ('[' :: c :: cs) = '[' :: c :: cs := skip_cons (by decide) _
  have hskip : skip (c :: cs) = c :: cs := skip_cons (by simp [h]) cs
  rw [value, hopen]
  simp only [hskip]
  split
  case h_1 heq =>
    cases heq
    exact absurd rfl h.2.2.2.2
  case h_2 => cases items steps (c :: cs) <;> rfl

theorem value_object (steps : Nat) (cs : List Char) :
    value (steps + 1) ('\x7b' :: '"' :: cs) = (members steps ('"' :: cs)).map fun r => (.object r.1, r.2) := by
  have hopen : skip ('\x7b' :: '"' :: cs) = '\x7b' :: '"' :: cs := skip_cons (by decide) _
  have hskip : skip ('"' :: cs) = '"' :: cs := skip_cons (by decide) cs
  rw [value, hopen]
  simp only [hskip]
  split
  case h_1 heq => cases heq
  case h_2 => cases members steps ('"' :: cs) <;> rfl

def goOn (steps : Nat) (m : List Piece × Tree) : List Char → Option (List (List Piece × Tree) × List Char)
  | ',' :: cs => (members steps cs).map fun r => (m :: r.1, r.2)
  | '\x7d' :: cs => some ([m], cs)
  | _ => none

end Reader

/-- Whether a value is read back from its text wherever it may nest so much deeper. Its text begins with a
character that neither is skipped nor closes an array. -/
structure Reads (depth : Nat) (v : Value) : Prop where
  starts : ∃ c cs, v.text.toList = c :: cs ∧ c ∉ [' ', '\n', '\r', '\t', ']']
  reads : ∀ steps rest, Closes rest → 2 * v.text.toList.length ≤ steps →
    ∃ tree, Reader.value steps (v.text.toList ++ rest) = some (tree, rest) ∧ tree.toValue? depth = some v

variable {depth : Nat}

theorem closes_cons {c : Char} (h : c = ',' ∨ c = ']' ∨ c = '\x7d') (rest : List Char) : Closes (c :: rest) := by
  rintro d ⟨⟩
  exact h

theorem reads_scalar {v : Value} {c : Char} {cs : List Char} (htext : v.text.toList = c :: cs)
    (hstart : c ∉ [' ', '\n', '\r', '\t', ']'])
    (hread : ∀ steps rest, Closes rest → ∃ tree, Reader.value (steps + 1) (c :: cs ++ rest) = some (tree, rest) ∧
      tree.toValue? depth = some v) : Reads depth v where
  starts := ⟨c, cs, htext, hstart⟩
  reads steps rest hrest hsteps := by
    rw [htext] at hsteps ⊢
    obtain ⟨k, rfl⟩ : ∃ k, steps = k + 1 := Nat.exists_eq_add_one.mpr (by simp at hsteps; omega)
    exact hread k rest hrest

theorem reads_null : Reads depth .null := by
  have htext : Value.null.text.toList = ['n', 'u', 'l', 'l'] := by simp [Value.text]
  refine reads_scalar htext (by decide) fun steps rest _ => ⟨.null, ?_, ?_⟩
  · rw [Reader.value]
    rfl
  · rw [Tree.toValue?]

theorem reads_bool (b : Bool) : Reads depth (.bool b) := by
  cases b with
  | true =>
    have htext : (Value.bool true).text.toList = ['t', 'r', 'u', 'e'] := by simp [Value.text]
    refine reads_scalar htext (by decide) fun steps rest _ => ⟨.bool true, ?_, ?_⟩
    · rw [Reader.value]
      rfl
    · rw [Tree.toValue?]
  | false =>
    have htext : (Value.bool false).text.toList = ['f', 'a', 'l', 's', 'e'] := by simp [Value.text]
    refine reads_scalar htext (by decide) fun steps rest _ => ⟨.bool false, ?_, ?_⟩
    · rw [Reader.value]
      rfl
    · rw [Tree.toValue?]

theorem reads_string (s : String) : Reads depth (.string s) := by
  have htext : (Value.string s).text.toList = '"' :: (escaped s.toList ++ ['"']) := by
    rw [Value.text, toList_stringText]
  refine reads_scalar htext (by decide) fun steps rest _ => ?_
  obtain ⟨ps, hread, hspell⟩ := pieces_string s rest
  refine ⟨.string ps, ?_, ?_⟩
  · rw [List.cons_append, List.append_assoc, List.singleton_append, Reader.value_string, hread]
    rfl
  · rw [Tree.toValue?, hspell]
    rfl

theorem reads_integer {n : Int} (h : IsWord n) : Reads depth (.number (.integer n)) := by
  obtain ⟨c, cs, hcs, hc⟩ : ∃ c cs, (toString n).toList = c :: cs ∧ (c = '-' ∨ c.isDigit = true) := by
    cases n with
    | ofNat n =>
      obtain ⟨c, cs, hcs⟩ := List.exists_cons_of_ne_nil (Nat.toDigits_ne_nil : Nat.toDigits 10 n ≠ [])
      rw [toList_ofNat, hcs]
      exact ⟨c, cs, rfl, .inr (Text.isDigit_of_mem_digits (hcs ▸ List.mem_cons_self))⟩
    | negSucc n => exact ⟨'-', _, toList_negSucc n, .inl rfl⟩
  have htext : (Value.number (.integer n)).text.toList = c :: cs := by rw [Value.text, numberText, hcs]
  refine reads_scalar htext ?_ fun steps rest hrest => ?_
  · intro hmem
    simp only [List.mem_cons, List.not_mem_nil, or_false] at hmem
    rcases hmem with rfl | rfl | rfl | rfl | rfl <;> simp at hc
  · obtain ⟨literal, hread, hvalue⟩ := number_integer h hrest
    rw [hcs] at hread
    refine ⟨.number literal, ?_, ?_⟩
    · rw [List.cons_append, Reader.value_number hc, ← List.cons_append, hread]
      rfl
    · rw [Tree.toValue?, hvalue]
      rfl

theorem items_itemsText {v : Value} {vs : List Value} (h : ∀ w ∈ v :: vs, Reads depth w) (rest : List Char)
    (steps : Nat) (hsteps : 2 * (itemsText (v :: vs)).toList.length + 1 ≤ steps) :
    ∃ ts, Reader.items steps ((itemsText (v :: vs)).toList ++ ']' :: rest) = some (ts, rest) ∧
      itemsToValues? depth ts = some (v :: vs) := by
  induction vs generalizing v steps with
  | nil =>
    obtain ⟨k, rfl⟩ : ∃ k, steps = k + 1 := Nat.exists_eq_add_one.mpr (by omega)
    rw [itemsText] at hsteps ⊢
    obtain ⟨t, hread, hvalue⟩ := (h v (by simp)).reads k (']' :: rest) (closes_cons (by simp) rest) (by omega)
    refine ⟨[t], ?_, ?_⟩
    · rw [Reader.items, hread]
      rfl
    · simp [itemsToValues?, hvalue]
  | cons w vs ih =>
    obtain ⟨k, rfl⟩ : ∃ k, steps = k + 1 := Nat.exists_eq_add_one.mpr (by omega)
    have htext : (itemsText (v :: w :: vs)).toList = v.text.toList ++ ',' :: (itemsText (w :: vs)).toList := by
      simp [itemsText]
    rw [htext] at hsteps ⊢
    rw [List.length_append, List.length_cons] at hsteps
    obtain ⟨ts, hreads, hvalues⟩ := ih (fun x hx => h x (List.mem_cons_of_mem v hx)) k (by omega)
    obtain ⟨t, hread, hvalue⟩ := (h v (by simp)).reads k (',' :: ((itemsText (w :: vs)).toList ++ ']' :: rest))
      (closes_cons (by simp) _) (by omega)
    refine ⟨t :: ts, ?_, ?_⟩
    · rw [List.append_assoc, List.cons_append, Reader.items, hread]
      simp only [bind, Option.bind, Reader.skip_cons (c := ',') (by decide), hreads]
      rfl
    · simp [itemsToValues?, hvalue, hvalues]

theorem starts_itemsText {v : Value} (vs : List Value) (h : Reads depth v) :
    ∃ c cs, (itemsText (v :: vs)).toList = c :: cs ∧ c ∉ [' ', '\n', '\r', '\t', ']'] := by
  obtain ⟨c, cs, hcs, hc⟩ := h.starts
  cases vs with
  | nil => exact ⟨c, cs, by rw [itemsText, hcs], hc⟩
  | cons w vs => exact ⟨c, cs ++ ',' :: (itemsText (w :: vs)).toList, by simp [itemsText, hcs], hc⟩

theorem reads_array {vs : List Value} (h : ∀ v ∈ vs, Reads depth v) : Reads (depth + 1) (.array vs) := by
  have htext : (Value.array vs).text.toList = '[' :: ((itemsText vs).toList ++ [']']) := by simp [Value.text]
  refine ⟨⟨_, _, htext, by decide⟩, fun steps rest hrest hsteps => ?_⟩
  rw [htext] at hsteps ⊢
  obtain ⟨k, rfl⟩ : ∃ k, steps = k + 1 := Nat.exists_eq_add_one.mpr (by simp at hsteps; omega)
  cases vs with
  | nil =>
    refine ⟨.array [], ?_, by simp [Tree.toValue?, itemsToValues?]⟩
    rw [Reader.value]
    rfl
  | cons v vs =>
    obtain ⟨c, cs, hcs, hc⟩ := starts_itemsText vs (h v (by simp))
    obtain ⟨ts, hread, hvalues⟩ := items_itemsText h rest k (by simp at hsteps; omega)
    refine ⟨.array ts, ?_, by simp [Tree.toValue?, hvalues]⟩
    rw [List.cons_append, List.append_assoc, List.singleton_append]
    rw [hcs] at hread ⊢
    rw [List.cons_append, Reader.value_array hc, ← List.cons_append, hread]
    rfl

theorem toList_member (name : String) (v : Value) (tail : List Char) :
    (stringText name ++ ":" ++ v.text).toList ++ tail =
      '"' :: (escaped name.toList ++ '"' :: ':' :: (v.text.toList ++ tail)) := by
  simp [toList_stringText]

theorem starts_membersText (m : String × Value) (ms : List (String × Value)) :
    ∃ cs, (membersText (m :: ms)).toList = '"' :: cs := by
  cases ms with
  | nil => exact ⟨_, by rw [membersText, ← List.append_nil (String.toList _), toList_member]⟩
  | cons n ms => exact ⟨_, by simp [membersText, toList_stringText]; rfl⟩

/-- A member is read up to what follows it. -/
theorem members_member (name : String) {v : Value} (h : Reads depth v) {tail : List Char} (htail : Closes tail)
    (steps : Nat) (hsteps : 2 * v.text.toList.length ≤ steps) :
    ∃ ps t, spell? ps = some name ∧ t.toValue? depth = some v ∧
      Reader.members (steps + 1) ((stringText name ++ ":" ++ v.text).toList ++ tail) =
        Reader.goOn steps (ps, t) (Reader.skip tail) := by
  obtain ⟨t, hread, hvalue⟩ := h.reads steps tail htail hsteps
  obtain ⟨ps, hname, hspell⟩ := pieces_string name (':' :: (v.text.toList ++ tail))
  refine ⟨ps, t, hspell, hvalue, ?_⟩
  have hquote := Reader.skip_cons (c := '"') (by decide)
  have hcolon := Reader.skip_cons (c := ':') (by decide)
  rw [toList_member, Reader.members]
  simp only [bind, Option.bind, hquote, hname, hcolon, hread]
  generalize Reader.skip tail = after
  split
  case h_1 _ cs => cases hmore : Reader.members steps cs <;> simp [Reader.goOn, hmore]
  case h_2 => rfl
  case h_3 hcomma hbrace =>
    rw [Reader.goOn]
    · exact hcomma
    · exact hbrace

theorem members_membersText {m : String × Value} {ms : List (String × Value)} (h : ∀ n ∈ m :: ms, Reads depth n.2)
    (rest : List Char) (steps : Nat) (hsteps : 2 * (membersText (m :: ms)).toList.length + 1 ≤ steps) :
    ∃ ts, Reader.members steps ((membersText (m :: ms)).toList ++ '\x7d' :: rest) = some (ts, rest) ∧
      membersToValues? depth ts = some (m :: ms) := by
  obtain ⟨k, rfl⟩ : ∃ k, steps = k + 1 := Nat.exists_eq_add_one.mpr (by omega)
  induction ms generalizing m k with
  | nil =>
    have htext : membersText [m] = stringText m.1 ++ ":" ++ m.2.text := by rw [membersText]
    rw [htext] at hsteps ⊢
    have hlen : 2 * m.2.text.toList.length ≤ k := by
      simp only [String.toList_append, List.length_append] at hsteps
      omega
    have hclose : Closes ('\x7d' :: rest) := closes_cons (by simp) rest
    obtain ⟨ps, t, hspell, hvalue, hread⟩ := members_member m.1 (h m (by simp)) hclose k hlen
    refine ⟨[(ps, t)], ?_, ?_⟩
    · rw [hread, Reader.skip_cons (by decide)]
      rfl
    · simp [membersToValues?, hspell, hvalue]
  | cons n ms ih =>
    have htext : (membersText (m :: n :: ms)).toList =
        (stringText m.1 ++ ":" ++ m.2.text).toList ++ ',' :: (membersText (n :: ms)).toList := by
      simp [membersText]
    rw [htext] at hsteps ⊢
    have hlen : 2 * m.2.text.toList.length ≤ k ∧ 2 * (membersText (n :: ms)).toList.length + 1 ≤ k := by
      simp only [String.toList_append, List.length_append, List.length_cons] at hsteps
      omega
    obtain ⟨j, rfl⟩ : ∃ j, k = j + 1 := Nat.exists_eq_add_one.mpr (by omega)
    obtain ⟨ts, hreads, hvalues⟩ := ih (fun x hx => h x (List.mem_cons_of_mem m hx)) j hlen.2
    have hclose : Closes (',' :: ((membersText (n :: ms)).toList ++ '\x7d' :: rest)) := closes_cons (by simp) _
    obtain ⟨ps, t, hspell, hvalue, hread⟩ := members_member m.1 (h m (by simp)) hclose (j + 1) hlen.1
    refine ⟨(ps, t) :: ts, ?_, ?_⟩
    · rw [List.append_assoc, List.cons_append, hread, Reader.skip_cons (by decide), Reader.goOn, hreads]
      rfl
    · simp [membersToValues?, hspell, hvalue, hvalues]

theorem toList_recordText (ms : List (String × Value)) :
    (recordText ms).toList = '\x7b' :: ((membersText ms).toList ++ ['\x7d']) := by
  simp [recordText]

/-- The text of members between braces is read as an object with these members. -/
theorem value_recordText {ms : List (String × Value)} (h : ∀ m ∈ ms, Reads depth m.2) (rest : List Char) (steps : Nat)
    (hsteps : 2 * (recordText ms).toList.length ≤ steps) :
    ∃ ts, Reader.value steps ((recordText ms).toList ++ rest) = some (.object ts, rest) ∧
      membersToValues? depth ts = some ms := by
  rw [toList_recordText] at hsteps ⊢
  simp only [List.length_cons, List.length_append] at hsteps
  obtain ⟨k, rfl⟩ : ∃ k, steps = k + 1 := Nat.exists_eq_add_one.mpr (by omega)
  cases ms with
  | nil =>
    refine ⟨[], ?_, by simp [membersToValues?]⟩
    rw [Reader.value]
    rfl
  | cons m ms =>
    obtain ⟨ts, hread, hvalues⟩ := members_membersText h rest k (by omega)
    refine ⟨ts, ?_, hvalues⟩
    obtain ⟨cs, hcs⟩ := starts_membersText m ms
    rw [List.cons_append, List.append_assoc, List.singleton_append]
    rw [hcs] at hread ⊢
    rw [List.cons_append, Reader.value_object, ← List.cons_append, hread]
    rfl

theorem reads_object {ms : List (String × Value)} (hordered : Ascending ms) (h : ∀ m ∈ ms, Reads depth m.2) :
    Reads (depth + 1) (.object ms) := by
  have htext : (Value.object ms).text = recordText ms := by rw [Value.text, recordText]
  refine ⟨⟨_, _, by rw [htext, toList_recordText], by decide⟩, fun steps rest _ hsteps => ?_⟩
  rw [htext] at hsteps ⊢
  obtain ⟨ts, hread, hvalues⟩ := value_recordText h rest steps hsteps
  refine ⟨.object ts, hread, ?_⟩
  rw [Tree.toValue?, if_neg (Nat.succ_ne_zero depth), Nat.add_sub_cancel, hvalues, Option.map_some, Value.ofMembers]
  exact congrArg (fun ms => some (Value.object ms)) (insertAll_of_ascending hordered)

theorem Value.Valid.reads {v : Value} (h : v.Valid depth) (hfree : v.FloatFree) : Reads depth v := by
  induction h with
  | null => exact reads_null
  | bool b => exact reads_bool b
  | integer hword => exact reads_integer hword
  | float x => cases hfree
  | string s => exact reads_string s
  | array _ ih =>
    cases hfree with
    | array hfree => exact reads_array fun v hv => ih v hv (hfree v hv)
  | object hordered _ ih =>
    cases hfree with
    | object hfree => exact reads_object hordered fun m hm => ih m hm (hfree m hm)

theorem Reads.parse {v : Value} (h : Reads depth v) :
    ∃ t, Tree.parse v.text = some t ∧ t.toValue? depth = some v := by
  have hend : Closes [] := by simp [Closes]
  obtain ⟨t, hread, hvalue⟩ := h.reads (2 * v.text.toList.length + 2) [] hend (by omega)
  refine ⟨t, ?_, hvalue⟩
  rw [List.append_nil] at hread
  rw [Tree.parse, hread]
  rfl

/-- A value that a text writes is read again from its own text. -/
theorem Value.parse?_text {text : String} {v : Value} (h : Value.parse? text = some v) (hfree : v.FloatFree) :
    Value.parse? v.text = some v := by
  obtain ⟨t, htree, hvalue⟩ := ((valid_of_parse h).reads hfree).parse
  rw [Value.parse?, htree]
  exact hvalue

/-- A record is read as an object with the members that were written. -/
theorem parse_recordText {ms : List (String × Value)} (h : ∀ m ∈ ms, Reads depth m.2) :
    ∃ ts, Tree.parse (recordText ms) = some (.object ts) ∧ membersToValues? depth ts = some ms := by
  obtain ⟨ts, hread, hvalues⟩ := value_recordText h [] (2 * (recordText ms).toList.length + 2) (by omega)
  refine ⟨ts, ?_, hvalues⟩
  rw [List.append_nil] at hread
  rw [Tree.parse, hread]
  rfl

end Courier.Json
