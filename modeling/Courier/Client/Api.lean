import Courier.Http.Base
import Courier.Text.Described
import Courier.Text.Quoted

/-!
The client of the backend's API.
-/

namespace Courier

structure ApiClient where
  baseUrl : String

namespace ApiClient

/-- A client for a base URL, which has to be given and to be one. -/
def build (baseUrl : Option String) : Outcome ApiClient := do
  let url ← Http.requireBase baseUrl
  return ⟨← Http.checkBase url⟩

def describe (c : ApiClient) : String :=
  Text.describedInPart "ApiClient" [
    ("base_url", Text.quoted c.baseUrl),
    ("middleware_executor", Text.optional none)]

end ApiClient
end Courier
