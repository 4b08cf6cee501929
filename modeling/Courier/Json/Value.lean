import Courier.Decimal.Reading
import Courier.Decimal.Shortest
import Courier.Text.Digits
import Courier.Text.Quoted

/-!
JSON values and their text. Integers stay integers as long as they fit a 64-bit word. The members of
an object are kept in ascending order of their names, each name once; so two objects with the same
members are equal, and the text of a value is determined by the value.
-/

namespace Courier.Json

export Decimal (Number)

inductive Value where
  | null
  | bool (b : Bool)
  | number (n : Number)
  | string (s : String)
  | array (items : List Value)
  | object (members : List (String × Value))

instance : Inhabited Value := ⟨.null⟩

/-- Puts a member into its place among members in ascending order; an old one of that name goes. -/
def insertMember (name : String) (value : Value) :
    List (String × Value) → List (String × Value)
  | [] => [(name, value)]
  | (other, old) :: rest =>
    if name < other then (name, value) :: (other, old) :: rest
    else if name = other then (name, value) :: rest
    else (other, old) :: insertMember name value rest

namespace Value

/-- The object with these members; of several with one name the last one stays. -/
def ofMembers (members : List (String × Value)) : Value :=
  .object (members.foldl (fun ms m => insertMember m.1 m.2 ms) [])

def ofNat (n : Nat) : Value := .number (.integer n)

def ofInt (n : Int) : Value := .number (.integer n)

def get? (name : String) : Value → Option Value
  | .object members => (members.find? (·.1 == name)).map (·.2)
  | _ => none

def isNull : Value → Bool
  | .null => true
  | _ => false

def asInt64? : Value → Option Int
  | .number (.integer n) => if -0x8000000000000000 ≤ n ∧ n < 0x8000000000000000 then some n else none
  | _ => none

def asString? : Value → Option String
  | .string s => some s
  | _ => none

end Value

def numberText : Number → String
  | .integer n => toString n
  | .float x => Decimal.text x

/-- One character inside a string: quotes, backslashes and control characters are escaped. -/
def escape (c : Char) : String :=
  match c with
  | '"' => "\\\""
  | '\\' => "\\\\"
  | '\n' => "\\n"
  | '\r' => "\\r"
  | '\t' => "\\t"
  | '\x08' => "\\b"
  | '\x0c' => "\\f"
  | c => if c.toNat < 0x20 then "\\u" ++ Text.hex 4 c.toNat else c.toString

def stringText (s : String) : String :=
  "\"" ++ String.join (s.toList.map escape) ++ "\""

mutual

def Value.text : Value → String
  | .null => "null"
  | .bool true => "true"
  | .bool false => "false"
  | .number n => numberText n
  | .string s => stringText s
  | .array items => "[" ++ itemsText items ++ "]"
  | .object members => "\x7b" ++ membersText members ++ "\x7d"

def itemsText : List Value → String
  | [] => ""
  | [v] => v.text
  | v :: vs => v.text ++ "," ++ itemsText vs

def membersText : List (String × Value) → String
  | [] => ""
  | [(name, v)] => stringText name ++ ":" ++ v.text
  | (name, v) :: ms => stringText name ++ ":" ++ v.text ++ "," ++ membersText ms

end

def recordText (members : List (String × Value)) : String :=
  "\x7b" ++ membersText members ++ "\x7d"

end Courier.Json
