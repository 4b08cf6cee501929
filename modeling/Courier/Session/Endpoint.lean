import Courier.Http.Base
import Courier.Text.Percent

/-!
The address of the real-time channel, derived from the base URL of the backend and the access token.
-/

namespace Courier.Session

/-- The socket scheme that belongs to a base URL, and the rest of the URL. -/
def splitScheme? (base : String) : Option (String × List Char) :=
  match Http.afterScheme? "https://" base with
  | some rest => some ("wss://", rest)
  | none =>
    match Http.afterScheme? "http://" base with
    | some rest => some ("ws://", rest)
    | none =>
      match Http.afterScheme? "wss://" base with
      | some rest => some ("wss://", rest)
      | none => (Http.afterScheme? "ws://" base).map (("ws://", ·))

/-- The address to dial: the token is the only parameter, and strictly encoded. -/
def endpoint (base token : String) : Outcome String :=
  match splitScheme? base with
  | none => .error (Http.wrongScheme base)
  | some (scheme, rest) =>
    match Text.dropEnd '/' rest with
    | [] => .error (.config "base_url has no host")
    | host =>
      .ok (scheme ++ String.ofList host ++ "/v1/ws?token=" ++ Text.Percent.encode token)

end Courier.Session
