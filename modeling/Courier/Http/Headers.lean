import Courier.Text.Percent

/-!
Headers of a request. A name stands for one or more values, which stay together; names are in lower
case. Values may hold any bytes but control characters.
-/

namespace Courier.Http

structure Header where
  name : String
  value : String
  /-- Whether the value is a secret. -/
  sensitive : Bool
deriving DecidableEq

def isHeaderValue (s : String) : Bool :=
  s.toList.all fun c => c == '\t' || (0x20 ≤ c.toNat && c.toNat != 0x7F)

/-- Whether a value consists of visible ASCII characters, blanks and tabs. -/
def isVisible (s : String) : Bool :=
  s.toList.all fun c => c == '\t' || (0x20 ≤ c.toNat && c.toNat < 0x7F)

namespace Headers

def append (headers : List Header) (h : Header) : List Header :=
  match headers with
  | [] => [h]
  | first :: rest =>
    if first.name = h.name ∧ ¬ rest.any (·.name == h.name) then first :: h :: rest
    else first :: append rest h

/-- Puts one value in place of all values of its name. -/
def set (headers : List Header) (h : Header) : List Header :=
  if headers.any (·.name == h.name) then
    let before := headers.takeWhile (·.name != h.name)
    let after := (headers.dropWhile (·.name != h.name)).filter (·.name != h.name)
    before ++ h :: after
  else headers ++ [h]

def get? (headers : List Header) (name : String) : Option Header :=
  headers.find? (·.name == name)

end Headers
end Courier.Http
