import Courier.Http.Request
import Courier.Log
import Courier.Redaction

/-!
The log of requests. Each request is logged before it is sent, and its answer or its failure
afterwards. The time that an answer took differs from run to run; a star stands for it.
-/

namespace Courier.Http.Traffic

def phrase : Nat → String
  | 200 => "OK"
  | 201 => "Created"
  | 204 => "No Content"
  | 400 => "Bad Request"
  | 401 => "Unauthorized"
  | 403 => "Forbidden"
  | 404 => "Not Found"
  | 429 => "Too Many Requests"
  | 500 => "Internal Server Error"
  | 502 => "Bad Gateway"
  | 503 => "Service Unavailable"
  | 504 => "Gateway Timeout"
  | _ => ""

def requestLine (verbose : Bool) (method : Method) (url : String) : LogLine :=
  if verbose then .debug ("[MpClient] >>> " ++ method.text ++ " " ++ Redaction.url url)
  else .info ("[MpClient] " ++ method.text ++ " " ++ Redaction.url url)

def answerLine (verbose : Bool) (status : Nat) : LogLine :=
  if verbose then
    .debug ("[MpClient] <<< " ++ toString status ++ " - " ++ phrase status ++ " (*)")
  else .info ("[MpClient] " ++ toString status ++ " (*)")

def failureLine (method : Method) (url : String) (fault : RequestFault) : LogLine :=
  .warn ("[MpClient] " ++ method.text ++ " " ++ Redaction.url url ++ " failed: " ++ fault.message)

end Courier.Http.Traffic
