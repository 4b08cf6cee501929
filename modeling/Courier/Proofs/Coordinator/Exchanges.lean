import Courier.Coordinator.Exchange
import Courier.Proofs.Coordinator.Ledger
import Courier.Proofs.Json.RoundTrip

/-! The requests of a chain. Each exchange posts one JSON record to a path behind the base URL: the refresh token, or
the login code with the device that it is for. -/

namespace Courier.Coordinator

open Http (Header Request Url)
open Json (Value Ascending Reads)

variable {base path : String} {device : Device} {members : List (String × Value)}

theorem mem_append (headers : List Header) (h : Header) : h ∈ Http.Headers.append headers h := by
  induction headers with
  | nil => exact .head _
  | cons first rest ih =>
    rw [Http.Headers.append]
    split
    · exact .tail _ (.head _)
    · exact .tail _ ih

end Courier.Coordinator
