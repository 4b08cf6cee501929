import Courier.Http.Status

/-!
What can go wrong, by cause, and the text of each error.
-/

namespace Courier

/-- Why a request got no usable answer. -/
inductive RequestFault where
  /-- The backend answered with an error status. -/
  | status (code : Nat) (url : String)
  /-- The body of the answer is no JSON text. -/
  | undecodableBody
  /-- The request could not be made. -/
  | unbuildable
  /-- The request could not be sent. -/
  | unsent (url : String)
deriving DecidableEq

def RequestFault.message : RequestFault → String
  | .status code url =>
    (if Http.isClientError code then "HTTP status client error (" else "HTTP status server error (")
      ++ Http.statusText code ++ ") for url (" ++ url ++ ")"
  | .undecodableBody => "error decoding response body"
  | .unbuildable => "builder error"
  | .unsent url => "error sending request for url (" ++ url ++ ")"

inductive Error where
  /-- A request failed or got an error status. -/
  | httpRequest (fault : RequestFault)
  /-- The answer has not the expected shape. -/
  | httpDecode (detail : String)
  /-- A text is no JSON. -/
  | json (detail : String)
  /-- The backend reported a code of its own. -/
  | api (code : Int) (detail : String)
  | connection (detail : String)
  | protocol (detail : String)
  | auth (detail : String)
  | timeout (detail : String)
  | config (detail : String)
  | invalidAccessToken (detail : String)
deriving DecidableEq

namespace Error

def message : Error → String
  | httpRequest fault => "HTTP error: request failed: " ++ fault.message
  | httpDecode detail => "HTTP error: response decode failed: " ++ detail
  | json detail => "JSON serialization error: " ++ detail
  | api code detail => "API error (code=" ++ toString code ++ "): " ++ detail
  | connection detail => "connection error: " ++ detail
  | protocol detail => "protocol error: " ++ detail
  | auth detail => "authentication error: " ++ detail
  | timeout detail => "timed out: " ++ detail
  | config detail => "configuration error: " ++ detail
  | invalidAccessToken detail => "invalid access token: " ++ detail

def isTransient : Error → Bool
  | httpRequest _ | connection _ | timeout _ => true
  | _ => false

def isAuth : Error → Bool
  | auth _ => true
  | _ => false

end Error

instance : Inhabited Error := ⟨.protocol ""⟩

abbrev Outcome (α : Type) := Except Error α

end Courier
