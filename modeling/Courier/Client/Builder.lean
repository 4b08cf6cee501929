import Courier.Client.Api
import Courier.Coordinator.Machine
import Courier.Session.Link

/-!
Building a client of everything: the API, the coordinator of the credentials, and the session.
-/

namespace Courier

structure Client where
  api : ApiClient
  config : Coordinator.Config
  coordinator : Coordinator.State
  session : Session.Link

namespace Client

-- the name `Client.Client` stays in use beside `Client`
set_option linter.all false in
export Courier (Client)

structure Builder where
  baseUrl : Option String := none
  timeout : Option Time.Span := none
  connectTimeout : Option Time.Span := none
  coordinator : Option Coordinator.Config := none
  verbose : Bool := false
  /-- Whether there is a native login. -/
  hasLogin : Bool := false

namespace Builder

def describe (b : Builder) : String :=
  Text.describedInPart "MpClientBuilder" [
    ("base_url", Text.optional (b.baseUrl.map Text.quoted)),
    ("timeout", Text.optional (b.timeout.map Time.Span.text)),
    ("connect_timeout", Text.optional (b.connectTimeout.map Time.Span.text)),
    ("coordinator_config", Text.optional (b.coordinator.map Coordinator.Config.describe)),
    ("verbose_logging", if b.verbose then "true" else "false")]

def requireLogin (b : Builder) : Outcome Unit :=
  if b.hasLogin then .ok () else .error (.config "native_login is required")

/-- The client, with an empty store and a session that was never connected. A missing base URL is
reported before a missing login, and this before a base URL that is none. -/
def build (b : Builder) : Outcome Client := do
  let url ← Http.requireBase b.baseUrl
  b.requireLogin
  let api ← ApiClient.build (some url)
  return {
    api := api
    config := b.coordinator.getD {}
    coordinator := {}
    session := .ofConfig { baseUrl := api.baseUrl } }

end Builder
end Client
end Courier
