import Courier.Http.Host

/-! Strict encoding is read back. Bytes are encoded one by one, and each is read back from its character or
triple, whatever follows; so a text determines its encoding and is determined by it. -/

namespace Courier.Text.Percent

open Http.Host (percentDecode decodeUtf8?)

inductive IsEncoded : List Char → Prop where
  | nil : IsEncoded []
  | plain {c cs} : c.isAlphanum = true → IsEncoded cs → IsEncoded (c :: cs)
  | triple {a b cs} : (hexValue? a).isSome → (hexValue? b).isSome → IsEncoded cs →
      IsEncoded ('%' :: a :: b :: cs)

/-- The text that is left when percent triples are decoded, none when their bytes are no text. -/
def decode? (s : String) : Option String := decodeUtf8? (percentDecode s.toList)

variable {b : UInt8} {cs : List Char} {s t : String}

theorem hexValue?_hexDigit {n : Nat} (h : n < 16) : hexValue? (hexDigit n) = some n := by
  have hall : ∀ n < 16, hexValue? (hexDigit n) = some n := by decide
  exact hall n h

theorem utf8EncodeChar_of_isAlphanumeric (h : isAlphanumeric b = true) :
    Char.ofNat b.toNat ≠ '%' ∧ String.utf8EncodeChar (Char.ofNat b.toNat) = [b] := by
  have hall : ∀ n < 256, isAlphanumeric (.ofNat n) = true →
      Char.ofNat n ≠ '%' ∧ String.utf8EncodeChar (Char.ofNat n) = [.ofNat n] := by decide +kernel
  have hb := hall b.toNat b.toNat_lt
  rw [UInt8.ofNat_toNat] at hb
  exact hb h

theorem percentDecode_cons {c : Char} (hc : c ≠ '%') :
    percentDecode (c :: cs) = String.utf8EncodeChar c ++ percentDecode cs := by
  rw [percentDecode]
  intro a b rest heq
  exact absurd heq hc

theorem percentDecode_encodeByte (b : UInt8) (cs : List Char) :
    percentDecode (encodeByte b ++ cs) = b :: percentDecode cs := by
  have hb := b.toNat_lt
  have hhigh : b.toNat / 16 < 16 := by omega
  have hlow : b.toNat % 16 < 16 := by omega
  have hsum : b.toNat / 16 * 16 + b.toNat % 16 = b.toNat := by omega
  simp only [encodeByte, List.cons_append, List.nil_append]
  rw [percentDecode, hexValue?_hexDigit hhigh, hexValue?_hexDigit hlow]
  dsimp only
  rw [hsum, UInt8.ofNat_toNat]

theorem percentDecode_encodeBytes (bytes : List UInt8) :
    percentDecode (encodeBytes isAlphanumeric bytes) = bytes := by
  induction bytes with
  | nil => rw [encodeBytes, List.flatMap_nil, percentDecode]
  | cons b bytes ih =>
    rw [encodeBytes, List.flatMap_cons]
    by_cases hkeep : isAlphanumeric b = true
    · obtain ⟨hpercent, hbyte⟩ := utf8EncodeChar_of_isAlphanumeric hkeep
      rw [if_pos hkeep, List.singleton_append, percentDecode_cons hpercent, hbyte]
      exact congrArg (b :: ·) ih
    · rw [if_neg hkeep, percentDecode_encodeByte]
      exact congrArg (b :: ·) ih

theorem decodeUtf8?_utf8 (s : String) : decodeUtf8? (utf8 s) = some s := by
  have hbytes : (⟨(utf8 s).toArray⟩ : ByteArray) = s.toByteArray := by
    rw [← String.utf8Encode_toList, List.utf8Encode, ← utf8]
    ext1
    simp
  rw [decodeUtf8?, hbytes, String.fromUTF8?, dif_pos s.isValidUTF8]
  rfl

theorem decode?_encode (s : String) : decode? (encode s) = some s := by
  rw [decode?, encode, String.toList_ofList, percentDecode_encodeBytes, decodeUtf8?_utf8]

theorem encode_injective (h : encode s = encode t) : s = t := by
  have hread := congrArg decode? h
  rw [decode?_encode, decode?_encode] at hread
  exact Option.some.inj hread

theorem isEncoded_encode (s : String) : IsEncoded (encode s).toList := by
  rw [encode, String.toList_ofList]
  induction utf8 s with
  | nil => exact .nil
  | cons b bytes ih =>
    rw [encodeBytes, List.flatMap_cons]
    by_cases hkeep : isAlphanumeric b = true
    · rw [if_pos hkeep]
      exact .plain (isAlphanum_of_isAlphanumeric hkeep) ih
    · have hb := b.toNat_lt
      rw [if_neg hkeep]
      refine .triple ?_ ?_ ih
      · rw [hexValue?_hexDigit (by omega)]
        rfl
      · rw [hexValue?_hexDigit (by omega)]
        rfl

theorem not_mem_encode {c : Char} (hc : c.isAlphanum = false) (hpercent : c ≠ '%') : c ∉ (encode s).toList := by
  intro h
  rcases of_mem_encode h with h | h
  · rw [hc] at h
    cases h
  · exact hpercent h

end Courier.Text.Percent
