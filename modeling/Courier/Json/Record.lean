import Courier.Json.Value
import Courier.Json.Read

/-!
Reading records from generic values, with the reason when a value has the wrong shape. The fields
are read in their order; after them absent ones are reported, last surplus elements of an array.
-/

namespace Courier.Json

/-- Why a value has not the expected shape. -/
inductive Mismatch where
  | wrongType (found expected : String)
  | missingField (name : String)
  | wrongLength (length : Nat) (expected : String)
deriving DecidableEq

def Mismatch.message : Mismatch → String
  | .wrongType found expected => "invalid type: " ++ found ++ ", expected " ++ expected
  | .missingField name => "missing field `" ++ name ++ "`"
  | .wrongLength length expected =>
    "invalid length " ++ toString length ++ ", expected " ++ expected

def Value.kindText : Value → String
  | .null => "null"
  | .bool b => "boolean `" ++ (if b then "true" else "false") ++ "`"
  | .number (.integer n) => "integer `" ++ toString n ++ "`"
  | .number (.float x) => "floating point `" ++ Decimal.text x ++ "`"
  | .string s => "string " ++ Text.quoted s
  | .array _ => "sequence"
  | .object _ => "map"

def Value.mismatch (v : Value) (expected : String) : Mismatch :=
  .wrongType v.kindText expected

def Value.toString? : Value → Except Mismatch String
  | .string s => .ok s
  | v => .error (v.mismatch "a string")

def Value.toStringOrNull? : Value → Except Mismatch (Option String)
  | .null => .ok none
  | v => v.toString?.map some

def Value.toFloat? : Value → Except Mismatch Float
  | .number (.integer n) => .ok (Tree.float?.floatOfInteger n)
  | .number (.float x) => .ok x
  | v => .error (v.mismatch "f64")

/-- The fields of a record before they are read. -/
structure Fields where
  /-- The value of the field with this name and position, if there is one. -/
  get? : String → Nat → Option Value
  /-- What is wrong when a field that must be there is not. -/
  absent : String → Nat → Mismatch
  /-- What is wrong with elements that belong to no field. -/
  surplus : Option Mismatch

/-- The fields of a record of the given name and number of fields. -/
def Value.fields (name : String) (count : Nat) : Value → Except Mismatch Fields
  | .object members =>
    .ok ⟨fun field _ => (Value.object members).get? field, fun field _ => .missingField field, none⟩
  | .array items =>
    .ok
      { get? := fun _ i => items[i]?
        absent := fun _ i =>
          .wrongLength i ("struct " ++ name ++ " with " ++ toString count ++ " elements")
        surplus :=
          if count < items.length then
            some (.wrongLength items.length "fewer elements in array")
          else none }
  | v => .error (v.mismatch ("struct " ++ name))

def Fields.read (f : Fields) (field : String) (i : Nat) (as : Value → Except Mismatch α) :
    Except Mismatch (Option α) :=
  match f.get? field i with
  | none => .ok none
  | some v => (as v).map some

def Fields.require (f : Fields) (field : String) (i : Nat) : Option α → Except Mismatch α
  | none => .error (f.absent field i)
  | some a => .ok a

/-- Fails when there are elements that belong to no field. -/
def Fields.finish (f : Fields) : Except Mismatch Unit :=
  match f.surplus with
  | none => .ok ()
  | some m => .error m

end Courier.Json
