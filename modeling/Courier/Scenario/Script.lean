import Courier.Coordinator.Config
import Courier.Coordinator.Login
import Courier.Http.Base
import Courier.Json.Value
import Courier.Session.Config
import Courier.Session.Status

/-!
Scenarios: a scripted backend, scripted peers of the sockets, a scripted login, and the steps that
users of the library take.
-/

namespace Courier.Scenario

open Time (Span)

/-- The entry for the n-th use of a script; its last entry repeats. -/
def scripted? (script : List α) (n : Nat) : Option α :=
  match script[n]? with
  | some a => some a
  | none => script.getLast?

/-- What a peer does with its socket. -/
inductive PeerMove where
  | text (s : String)
  | close (code : Option Nat) (reason : String)
  | fail (detail : String)
  /-- Drops its end. -/
  | drop

structure PeerAction where
  delay : Option Span
  move : PeerMove

structure Dial where
  delay : Option Span := none
  refusal : Option String := none
  /-- What the peer does when it is asked to close. -/
  onClose : List PeerAction := []

structure Service where
  status : Nat := 200
  body : String := ""
  delay : Option Span := none
  /-- The request fails on its way. -/
  fail : Bool := false

structure LoginCall where
  delay : Option Span
  result : LoginCode

inductive LoginScript where
  | fixed (code : Option String)
  | calls (script : List LoginCall)

/-- Credentials as a script writes them: the expiry counts from the moment they are stored. -/
structure Grantee where
  accessToken : String
  expiresInMillis : Int
  refreshToken : Option String

structure Backend where
  refresh : List Service := []
  login : List Service := []
  location : List Service := []
  other : List Service := []

structure Setup where
  /-- Whether the steps go through the client facade; no backend is reachable then. -/
  facade : Bool
  credentials : Option Grantee
  login : LoginScript
  device : Device
  coordinator : Coordinator.Config
  session : Session.Config
  poll : Span
  apiBase : String
  backend : Backend
  connector : List Dial
  /-- Whether API requests pass the gate and the log. -/
  gated : Bool
  /-- Whether requests are logged in detail. -/
  verbose : Bool

/-- Something that takes time until it has a result. -/
inductive Call where
  | connect
  | close
  | ensureValid (force : Bool)
  | accessToken
  | login
  | logout
  | location (order : String)
  | get (path : String) (query : List (String × String))
  | post (path body : String)
  | waitState (phase : Session.Phase)
  | next (order : String)
  | gateHeaders (headers : List (String × String))

/-- How many milliseconds a call is awaited unless a step says otherwise. -/
def patience : Nat := 3600000

inductive Step where
  /-- A call, awaited for so many milliseconds or left running. -/
  | call (c : Call) (background : Bool) (within : Nat)
  | send (kind : String) (data : Json.Value) (channel : Option String)
  | subscribe (channels : List String)
  | unsubscribe (channels : List String)
  | peer (attempt : Option Nat) (actions : List PeerAction)
  | track (order : String)
  | untrack (order : String)
  | setCredentials (c : Option Grantee)
  | credentials
  | debug
  | listen (name : String)
  | read (name : String) (max : Option Nat) (stream : Bool)
  | dropSession
  | advance (ms : Nat)
  | batch (steps : List Step)

instance : Inhabited Step := ⟨.debug⟩

end Courier.Scenario
