import Courier.Error
import Courier.Json.Read

/-!
Answers to requests. An answer with an error status is an error whatever its body is. Any other
body must be JSON; an envelope around the payload is taken off, and a code in it that does not mean
success is an error of the API.
-/

namespace Courier.Http

/-- What came back for a request. -/
inductive Reply where
  | answer (status : Nat) (body : String)
  | fault (f : RequestFault)

def successCodes : List Int := [0, 200]

def envelopeMessage (v : Json.Value) : String :=
  let member := match v.get? "message" with
    | some m => some m
    | none => v.get? "msg"
  (member.bind Json.Value.asString?).getD "unknown error"

/-- The payload of an envelope: a member `data` that is not null, else the whole value. -/
def payload (v : Json.Value) : Json.Value :=
  match v.get? "data" with
  | some data => if data.isNull then v else data
  | none => v

def unwrap (v : Json.Value) : Outcome Json.Value :=
  match (v.get? "code").bind Json.Value.asInt64? with
  | some code =>
    if successCodes.contains code then .ok (payload v) else .error (.api code (envelopeMessage v))
  | none => .ok (payload v)

def Reply.payload (url : String) : Reply → Outcome Json.Value
  | .fault f => .error (.httpRequest f)
  | .answer status body =>
    if isClientError status || isServerError status then
      .error (.httpRequest (.status status url))
    else
      match Json.Value.parse? body with
      | none => .error (.httpRequest .undecodableBody)
      | some v => unwrap v

end Courier.Http
