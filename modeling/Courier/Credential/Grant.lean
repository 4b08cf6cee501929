import Courier.Credential.Credentials
import Courier.Json.Record
import Courier.Log

/-!
Token grants: what the backend answers to an exchange of credentials. The expiry is a date or a
number of seconds or milliseconds since 1970; one that is neither is ignored with a warning and
never spoils the grant.
-/

namespace Courier

/-- When a granted token expires, as the backend wrote it. -/
inductive Expiry where
  | instant (t : Time.Instant)
  | epoch (n : Int)
deriving DecidableEq

namespace Expiry

/-- Numbers from here on are milliseconds, smaller ones seconds. -/
def millisThreshold : Int := 100000000000

/-- The instant that is meant, if it is in range. -/
def toInstant? : Expiry → Option Time.Instant
  | instant t => some t
  | epoch n => if millisThreshold ≤ n then Time.Instant.ofMillis? n else Time.Instant.make? n 0

/-- The expiry that a value writes: a date or a signed 64-bit integer. -/
def ofValue? : Json.Value → Option Expiry
  | .string s => (Time.Instant.read? s).map instant
  | v => v.asInt64?.map epoch

def describe : Expiry → String
  | instant t => "Timestamp(" ++ t.text ++ ")"
  | epoch n => "Epoch(" ++ toString n ++ ")"

end Expiry

structure Grant where
  accessToken : String
  expiry : Option Expiry
  refreshToken : Option String
deriving DecidableEq

namespace Grant

def readExpiry : Json.Value → Option Expiry × List LogLine
  | .null => (none, [])
  | v =>
    match Expiry.ofValue? v with
    | some expiry => (some expiry, [])
    | none => (none, [.warn ("Ignoring unrecognized token expiry " ++ v.text)])

def readExpiryField : Option Json.Value → Option Expiry × List LogLine
  | none => (none, [])
  | some v => readExpiry v

/-- The grant that a text writes, with the lines that reading it logs. -/
def parse? (text : String) : Option (Grant × List LogLine) := do
  let tree ← Json.Tree.parse text
  match ← tree.fields? ["access_token", "access_token_expires_at", "refresh_token"] with
  | [some token, expiry, refresh] =>
    let accessToken ← token.string?
    let expiry ← match expiry with
      | none => some none
      | some tree => tree.fieldValue?.map some
    let refreshToken ← match refresh with
      | none => some none
      | some tree => tree.stringOrNull?
    let (expiry, lines) := readExpiryField expiry
    return (⟨accessToken, expiry, refreshToken⟩, lines)
  | _ => none

/-- Reads a grant from a value, with the lines that are logged until it is read or refused. -/
def ofValue (v : Json.Value) : Except Json.Mismatch Grant × List LogLine :=
  match v.fields "TokenGrant" 3 with
  | .error m => (.error m, [])
  | .ok f =>
    match f.read "access_token" 0 Json.Value.toString? with
    | .error m => (.error m, [])
    | .ok token =>
      let (expiry, lines) := readExpiryField (f.get? "access_token_expires_at" 1)
      let rest : Except Json.Mismatch Grant := do
        let refresh ← f.read "refresh_token" 2 Json.Value.toStringOrNull?
        let token ← f.require "access_token" 0 token
        f.finish
        return ⟨token, expiry, refresh.join⟩
      (rest, lines)

def describe (g : Grant) : String :=
  Text.describedInPart "TokenGrant" [
    ("access_token_expires_at", Text.optional (g.expiry.map Expiry.describe)),
    ("has_refresh_token", if g.refreshToken.isSome then "true" else "false")]

end Grant
end Courier
