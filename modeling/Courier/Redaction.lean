import Courier.Text.Cut

/-!
Redaction of URLs for the log: values of sensitive query parameters are replaced, everything else
stays byte for byte.
-/

namespace Courier.Redaction

/-- The names of parameters whose values are secret, in lower case. -/
def sensitiveNames : List String :=
  ["token", "access_token", "refresh_token", "code", "secret", "password", "authorization"]

/-- Whether a parameter of this name is sensitive; the case of ASCII letters does not matter. -/
def isSensitive (name : List Char) : Bool :=
  sensitiveNames.any fun s => s.toList == name.map Char.toLower

/-- A parameter with its value replaced if it is sensitive. -/
def parameter (cs : List Char) : List Char :=
  match Text.cutFirst '=' cs with
  | some (name, _) => if isSensitive name then name ++ "=[REDACTED]".toList else cs
  | none => cs

def url (u : String) : String :=
  match Text.cutFirst '?' u.toList with
  | none => u
  | some (base, query) =>
    String.ofList
      (base ++ '?' :: Text.joinWith '&' ((Text.cutAll '&' query).map parameter))

end Courier.Redaction
