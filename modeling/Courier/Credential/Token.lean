import Courier.Text.Blank

/-!
Access tokens: texts that are not empty and hold no white space.
-/

namespace Courier

structure AccessToken where
  text : String
  not_empty : text ≠ ""
  no_blank : text.toList.any Text.isBlank = false
deriving DecidableEq

/-- Why a text is no access token. -/
inductive TokenFault where
  | empty
  | blank
deriving DecidableEq

def TokenFault.message : TokenFault → String
  | .empty => "AccessToken must not be empty"
  | .blank => "AccessToken must not contain whitespace"

namespace AccessToken

def make (text : String) : Except TokenFault AccessToken :=
  if h : text = "" then .error .empty
  else if hb : text.toList.any Text.isBlank = false then .ok ⟨text, h, hb⟩
  else .error .blank

theorem make_text (token : AccessToken) : make token.text = .ok token := by
  rw [make, dif_neg token.not_empty, dif_pos token.no_blank]

theorem make_eq_ok {text : String} {token : AccessToken} : make text = .ok token ↔ token.text = text := by
  constructor
  · intro h
    unfold make at h
    split at h
    · cases h
    · split at h <;> cases h
      rfl
  · rintro rfl
    exact make_text token

def describe (_ : AccessToken) : String := "AccessToken([REDACTED])"

end AccessToken
end Courier
