import Courier.Coordinator.Machine
import Courier.Http.Answer
import Courier.Http.Request

/-!
The two exchanges that yield a token grant: of a refresh token, and of a login code.
-/

namespace Courier.Exchange

def refreshPath : String := "/v1/auth/refresh"

def loginPath : String := "/v1/auth/wechat/login"

def refreshBody (token : String) : String :=
  Json.recordText [("refresh_token", .string token)]

def loginBody (code : String) (device : Device) : String :=
  Json.recordText [("code", .string code), ("device_id", .string device.id),
    ("device_type", .string device.kind)]

/-- A grant with an empty access token is none. -/
def check (g : Grant) : Outcome Grant :=
  if g.accessToken = "" then
    .error (.invalidAccessToken "backend returned an empty access_token")
  else .ok g

/-- The grant in a reply to a request to `url`, and what reading it logs. -/
def grant (url : String) (reply : Http.Reply) : Outcome Grant × List LogLine :=
  match reply.payload url with
  | .error e => (.error e, [])
  | .ok v =>
    match Grant.ofValue v with
    | (.error m, lines) => (.error (.httpDecode m.message), lines)
    | (.ok g, lines) => (check g, lines)

end Courier.Exchange

namespace Courier.Coordinator

/-- The request that is made for an effect: its exchange is posted to the backend. -/
def Effect.request? (base : String) (device : Device) : Effect → Option (Outcome Http.Request)
  | .sendRefresh _ token =>
    some (Http.Request.post base Exchange.refreshPath (Exchange.refreshBody token))
  | .sendLogin _ code =>
    some (Http.Request.post base Exchange.loginPath (Exchange.loginBody code device))
  | _ => none

end Courier.Coordinator
