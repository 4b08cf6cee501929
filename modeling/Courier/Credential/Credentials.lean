import Courier.Credential.Token
import Courier.Json.Read
import Courier.Text.Described
import Courier.Time.Reader

/-!
Credentials: an access token, when it expires, and the refresh token that may be exchanged for the
next one. They are stored as JSON.
-/

namespace Courier

structure Credentials where
  accessToken : AccessToken
  expiresAt : Time.Instant
  refreshToken : Option String
deriving DecidableEq

namespace Credentials

/-- Whether the token expires within `buffer` from `now`. A buffer that leads beyond the range of
instants counts as longer than any lifetime. -/
def isExpiring (c : Credentials) (now : Time.Instant) (buffer : Time.Span) : Bool :=
  match now.plus? buffer with
  | some deadline => c.expiresAt.atMost deadline
  | none => true

/-- The members of the stored form; an absent refresh token is left out. -/
def members (c : Credentials) : List (String × Json.Value) :=
  [("accessToken", .string c.accessToken.text), ("expiresAt", .string c.expiresAt.text)] ++
    match c.refreshToken with
    | none => []
    | some token => [("refreshToken", .string token)]

def text (c : Credentials) : String := Json.recordText c.members

def readToken? (tree : Json.Tree) : Option AccessToken := do
  match AccessToken.make (← tree.string?) with
  | .ok token => some token
  | .error _ => none

def readInstant? (tree : Json.Tree) : Option Time.Instant := do
  Time.Instant.read? (← tree.string?)

def parse? (text : String) : Option Credentials := do
  let tree ← Json.Tree.parse text
  match ← tree.fields? ["accessToken", "expiresAt", "refreshToken"] with
  | [some token, some expiry, refresh] =>
    let accessToken ← readToken? token
    let expiresAt ← readInstant? expiry
    let refreshToken ← match refresh with
      | none => some none
      | some tree => tree.stringOrNull?
    return ⟨accessToken, expiresAt, refreshToken⟩
  | _ => none

def describe (c : Credentials) : String :=
  Text.described "Credentials" [
    ("access_token", c.accessToken.describe),
    ("expires_at", c.expiresAt.text),
    ("refresh_token", Text.optional (c.refreshToken.map Text.quoted))]

end Credentials
end Courier
