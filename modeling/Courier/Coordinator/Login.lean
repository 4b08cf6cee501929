import Courier.Error

/-!
The native login of the device: it hands out one-time codes that the backend exchanges for
credentials.
-/

namespace Courier

structure Device where
  id : String
  kind : String
deriving DecidableEq

/-- What a call of the native login comes to. -/
inductive LoginCode where
  | code (text : String)
  | failed (e : Error)
  /-- The login itself broke down, and whoever called it with it; what the runtime says of that,
  where it is told. -/
  | crashed (detail : Option String := none)
deriving DecidableEq

/-- A login that always hands out the same code, or never one. -/
def fixedLogin (code : Option String) : Outcome String :=
  match code with
  | some code => .ok code
  | none => .error (.auth "native login unavailable")

end Courier
