import Courier.Error
import Courier.Text.Cut

/-!
Base URLs of a backend.
-/

namespace Courier.Http

def afterScheme? (scheme : String) (url : String) : Option (List Char) :=
  scheme.toList.isPrefixOf? url.toList

def wrongScheme (url : String) : Error :=
  .config ("base_url must start with http:// or https://, got: " ++ url)

/-- The base URL of an API client: it starts with `http://` or `https://` and loses the slashes at
its end. -/
def checkBase (url : String) : Outcome String :=
  if (afterScheme? "http://" url).isSome || (afterScheme? "https://" url).isSome then
    .ok (String.ofList (Text.dropEnd '/' url.toList))
  else .error (wrongScheme url)

def requireBase : Option String → Outcome String
  | none => .error (.config "base_url is required")
  | some url => .ok url

end Courier.Http
