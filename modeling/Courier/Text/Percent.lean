/-!
Percent encoding. Text is encoded byte by byte from its UTF-8 form: a byte that is kept stands for
itself, every other byte becomes a percent sign and two hexadecimal digits.
-/

namespace Courier.Text.Percent

def utf8 (s : String) : List UInt8 :=
  s.toList.flatMap String.utf8EncodeChar

def hexDigit (n : Nat) : Char :=
  Char.ofNat (if n < 10 then 48 + n else 55 + n)

def encodeByte (b : UInt8) : List Char :=
  ['%', hexDigit (b.toNat / 16), hexDigit (b.toNat % 16)]

/-- Bytes as characters: those that `keep` accepts as they are, the others as percent triples. -/
def encodeBytes (keep : UInt8 → Bool) (bytes : List UInt8) : List Char :=
  bytes.flatMap fun b => if keep b then [Char.ofNat b.toNat] else encodeByte b

def isAlphanumeric (b : UInt8) : Bool :=
  (48 ≤ b && b ≤ 57) || (65 ≤ b && b ≤ 90) || (97 ≤ b && b ≤ 122)

/-- Strict encoding: only ASCII letters and digits stand for themselves, so the result can be put
anywhere in a URL without changing its structure. -/
def encode (s : String) : String :=
  String.ofList (encodeBytes isAlphanumeric (utf8 s))

theorem isAlphanum_hexDigit {n : Nat} (h : n < 16) : (hexDigit n).isAlphanum = true := by
  have hall : ∀ n < 16, (hexDigit n).isAlphanum = true := by decide
  exact hall n h

theorem isAlphanum_of_isAlphanumeric {b : UInt8} (h : isAlphanumeric b = true) :
    (Char.ofNat b.toNat).isAlphanum = true := by
  have hall : ∀ n < 256, isAlphanumeric (.ofNat n) = true → (Char.ofNat n).isAlphanum = true := by
    decide +kernel
  apply hall b.toNat b.toNat_lt
  rwa [UInt8.ofNat_toNat]

/-- Strict encoding writes letters, digits and percent signs only. -/
theorem of_mem_encode {s : String} {c : Char} (h : c ∈ (encode s).toList) :
    c.isAlphanum = true ∨ c = '%' := by
  rw [encode, String.toList_ofList, encodeBytes, List.mem_flatMap] at h
  obtain ⟨b, -, hc⟩ := h
  have hb := b.toNat_lt
  by_cases hkeep : isAlphanumeric b = true
  · rw [if_pos hkeep, List.mem_singleton] at hc
    subst hc
    exact .inl (isAlphanum_of_isAlphanumeric hkeep)
  · simp only [if_neg hkeep, encodeByte, List.mem_cons, List.not_mem_nil, or_false] at hc
    rcases hc with rfl | rfl | rfl
    · exact .inr rfl
    · exact .inl (isAlphanum_hexDigit (by omega))
    · exact .inl (isAlphanum_hexDigit (by omega))

def isFormByte (b : UInt8) : Bool :=
  isAlphanumeric b || b == 42 || b == 45 || b == 46 || b == 95

def encodeForm (s : String) : String :=
  String.ofList ((utf8 s).flatMap fun b =>
    if b == 32 then ['+'] else if isFormByte b then [Char.ofNat b.toNat] else encodeByte b)

end Courier.Text.Percent
