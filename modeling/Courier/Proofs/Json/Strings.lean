import Courier.Json.Read

/-! A string is read back from its text: each of its characters, escaped or not, is read as one piece that spells
it. -/

namespace Courier.Json

/-- Whether a text is read as one piece of a string, and the piece spells the character. -/
def Reader.ReadsAs (cs : List Char) (c : Char) : Prop :=
  ∃ p, (∀ rest, pieces (cs ++ rest) = (pieces rest).map (andThen p)) ∧
    ∀ ps, spell (p :: ps) = (spell ps).map (c :: ·)

namespace Reader

variable {c : Char}

theorem readsAs_short {s : String} (e : Char) (hs : s.toList = ['\\', e]) (hu : e ≠ 'u') (h : escaped? e = some c) :
    ReadsAs s.toList c := by
  refine ⟨.char c, fun rest => ?_, fun _ => rfl⟩
  rw [hs, List.cons_append, List.cons_append, List.nil_append, pieces, h]
  intro _ _ _ _ _ heq
  exact absurd heq hu

theorem readsAs_plain (hquote : c ≠ '"') (hslash : c ≠ '\\') (h : ¬ c.toNat < 0x20) :
    ReadsAs c.toString.toList c := by
  refine ⟨.char c, fun rest => ?_, fun _ => rfl⟩
  rw [Char.toString_eq_singleton, String.toList_singleton, List.cons_append, List.nil_append, pieces,
    if_neg (not_or_intro h hslash)]
  · exact hquote
  · intro _ _ _ _ _ heq
    exact absurd heq hslash
  · intro _ _ heq
    exact absurd heq hslash

/-- Four hexadecimal digits spell every control character. -/
theorem hex_control : ∀ n < 0x20, ∃ a b, (Text.hex 4 n).toList = ['0', '0', a, b] ∧
    ∃ x y, Text.hexValue? a = some x ∧ Text.hexValue? b = some y ∧ x * 16 + y = n := by
  intro n hn
  have hchars : (Text.hex 4 n).toList = ['0', '0', Nat.digitChar (n / 16), Nat.digitChar (n % 16)] := by
    revert n
    decide
  have hvalue : ∀ d < 16, Text.hexValue? (Nat.digitChar d) = some d := by decide
  exact ⟨_, _, hchars, _, _, hvalue _ (by omega), hvalue _ (by omega), by omega⟩

theorem readsAs_control (h : c.toNat < 0x20) : ReadsAs ("\\u" ++ Text.hex 4 c.toNat).toList c := by
  obtain ⟨a, b, hhex, x, y, ha, hb, hvalue⟩ := hex_control c.toNat h
  refine ⟨.unit c.toNat, fun rest => ?_, fun ps => ?_⟩
  · have hzero : Text.hexValue? '0' = some 0 := rfl
    have hcode : ((0 * 16 + 0) * 16 + x) * 16 + y = c.toNat := by omega
    simp only [String.toList_append, hhex]
    change pieces ('\\' :: 'u' :: '0' :: '0' :: a :: b :: rest) = _
    rw [pieces, hzero, ha, hb]
    simp only [hcode]
  · have hhigh : ¬ (0xD800 ≤ c.toNat ∧ c.toNat < 0xDC00) := by omega
    have hlow : ¬ (0xDC00 ≤ c.toNat ∧ c.toNat < 0xE000) := by omega
    have hunit : ¬ (0xD800 ≤ c.toNat ∧ c.toNat < 0xE000) := by omega
    cases ps with
    | nil => simp [spell, hunit]
    | cons p ps =>
      cases p with
      | char d => simp [spell, hunit]
      | unit v => simp [spell, hhigh, hlow]

theorem readsAs_escape (c : Char) : ReadsAs (escape c).toList c := by
  unfold escape
  split
  case h_8 hquote hslash _ _ _ _ _ =>
    split
    case isTrue hcontrol => exact readsAs_control hcontrol
    case isFalse hplain => exact readsAs_plain hquote hslash hplain
  · exact readsAs_short '"' (by simp) (by decide) rfl
  · exact readsAs_short '\\' (by simp) (by decide) rfl
  · exact readsAs_short 'n' (by simp) (by decide) rfl
  · exact readsAs_short 'r' (by simp) (by decide) rfl
  · exact readsAs_short 't' (by simp) (by decide) rfl
  · exact readsAs_short 'b' (by simp) (by decide) rfl
  · exact readsAs_short 'f' (by simp) (by decide) rfl

end Reader

def escaped (cs : List Char) : List Char := cs.flatMap fun c => (escape c).toList

theorem toList_stringText (s : String) : (stringText s).toList = '"' :: (escaped s.toList ++ ['"']) := by
  simp [stringText, escaped, List.flatMap_map]

theorem pieces_escaped (cs rest : List Char) :
    ∃ ps, Reader.pieces (escaped cs ++ '"' :: rest) = some (ps, rest) ∧ spell ps = some cs := by
  induction cs with
  | nil => exact ⟨[], rfl, rfl⟩
  | cons c cs ih =>
    obtain ⟨ps, hread, hspell⟩ := ih
    obtain ⟨p, hpiece, hspells⟩ := Reader.readsAs_escape c
    refine ⟨p :: ps, ?_, ?_⟩
    · rw [escaped, List.flatMap_cons, List.append_assoc, hpiece, ← escaped, hread]
      rfl
    · rw [hspells, hspell]
      rfl

/-- A string is read back from its text. -/
theorem pieces_string (s : String) (rest : List Char) :
    ∃ ps, Reader.pieces (escaped s.toList ++ '"' :: rest) = some (ps, rest) ∧ spell? ps = some s := by
  obtain ⟨ps, hread, hspell⟩ := pieces_escaped s.toList rest
  exact ⟨ps, hread, by rw [spell?, hspell, Option.map_some, String.ofList_toList]⟩

end Courier.Json
