import Courier.Error
import Courier.Http.Headers
import Courier.Http.Url
import Courier.Json.Value
import Courier.Text.Base64

/-!
Requests of the API client. The address of a request is the base URL of the client with a path
behind it; a user and password in it become a header.
-/

namespace Courier.Http

inductive Method where
  | get
  | post
deriving DecidableEq

def Method.text : Method → String
  | get => "GET"
  | post => "POST"

structure Request where
  method : Method
  url : Url
  headers : List Header
  body : Option String

namespace Request

/-- The value of a header that carries a user and password, if both are texts. -/
def basicAuthorization? (info : UserInfo) : Option String := do
  let decode (s : String) : Option String := Host.decodeUtf8? (Host.percentDecode s.toList)
  let user ← decode info.user
  let password := (info.password.bind decode).getD ""
  return "Basic " ++ Text.Base64.encode (user ++ ":" ++ password)

/-- A request to an address, none when the address is malformed. -/
def to? (method : Method) (address : String) : Option Request := do
  let url ← Url.parse? address
  let authorization := (url.userInfo.bind basicAuthorization?).map fun v =>
    (⟨"authorization", v, true⟩ : Header)
  return ⟨method, { url with userInfo := none }, authorization.toList, none⟩

/-- A request that reads, with pairs added to the query. -/
def get (base path : String) (query : List (String × String)) : Outcome Request :=
  match to? .get (base ++ path) with
  | none => .error (.httpRequest .unbuildable)
  | some r => .ok { r with url := r.url.addPairs query }

def post (base path body : String) : Outcome Request :=
  match to? .post (base ++ path) with
  | none => .error (.httpRequest .unbuildable)
  | some r =>
    let contentType : Header := ⟨"content-type", "application/json", false⟩
    .ok { r with headers := Headers.append r.headers contentType, body := some body }

def address (r : Request) : String := r.url.text

end Request
end Courier.Http
