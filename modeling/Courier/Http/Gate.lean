import Courier.Http.Request
import Courier.Log

/-!
The gate that requests pass on their way out. When the check of the credentials has settled, the
request gets the access token that is stored then, and nothing else about it changes. The gate lets
every request through.
-/

namespace Courier.Http.Gate

/-- The headers with the stored access token in place of any authorization, and what is logged. A
token that no header can carry is left out. -/
def authorize (token : Option String) (headers : List Header) : List Header × List LogLine :=
  match token with
  | none => (headers, [])
  | some token =>
    if isHeaderValue token then
      (Headers.set headers ⟨"authorization", "Bearer " ++ token, true⟩, [])
    else
      (headers, [.warn "Access token is not a valid header value; sending without it"])

def checkLines : Outcome Unit → List LogLine
  | .ok () => []
  | .error e => [.warn ("Credential check failed before request: " ++ e.message)]

/-- The headers that go out once the check has settled, and what is logged. -/
def pass (checked : Outcome Unit) (token : Option String) (headers : List Header) :
    List Header × List LogLine :=
  let (headers, lines) := authorize token headers
  (headers, checkLines checked ++ lines)

end Courier.Http.Gate
