import Courier.Json.Tree
import Courier.Json.Value

/-!
Reading trees. A tree is read as a generic value, or as a record with known fields.

A generic value must have valid strings, numbers in range and at most 127 levels of nesting; of
members with one name the last one counts. A record is an object, whose unknown members are
ignored and whose known ones stand at most once, or an array with the fields in their order.
-/

namespace Courier.Json

/-- The number of levels that arrays and objects may nest. -/
def depthLimit : Nat := 127

/-- The string that pieces spell, none when a surrogate has no partner. -/
def spell : List Piece → Option (List Char)
  | [] => some []
  | .char c :: ps => (spell ps).map (c :: ·)
  | .unit u :: .unit v :: ps =>
    if 0xD800 ≤ u ∧ u < 0xDC00 then
      if 0xDC00 ≤ v ∧ v < 0xE000 then
        (spell ps).map (Char.ofNat (0x10000 + (u - 0xD800) * 0x400 + (v - 0xDC00)) :: ·)
      else none
    else if 0xDC00 ≤ u ∧ u < 0xE000 then none
    else (spell (.unit v :: ps)).map (Char.ofNat u :: ·)
  | .unit u :: ps =>
    if 0xD800 ≤ u ∧ u < 0xE000 then none else (spell ps).map (Char.ofNat u :: ·)

def spell? (pieces : List Piece) : Option String := (spell pieces).map String.ofList

mutual

/-- The value of a tree that may have `depth` more levels of nesting. -/
def Tree.toValue? (depth : Nat) : Tree → Option Value
  | .null => some .null
  | .bool b => some (.bool b)
  | .number l => (Decimal.read? l).map .number
  | .string ps => (spell? ps).map .string
  | .array items =>
    if depth = 0 then none else (itemsToValues? (depth - 1) items).map .array
  | .object members =>
    if depth = 0 then none else (membersToValues? (depth - 1) members).map .ofMembers

def itemsToValues? (depth : Nat) : List Tree → Option (List Value)
  | [] => some []
  | t :: ts => do
    let v ← t.toValue? depth
    let vs ← itemsToValues? depth ts
    return v :: vs

def membersToValues? (depth : Nat) : List (List Piece × Tree) → Option (List (String × Value))
  | [] => some []
  | (name, t) :: ms => do
    let name ← spell? name
    let v ← t.toValue? depth
    let vs ← membersToValues? depth ms
    return (name, v) :: vs

end

def Value.parse? (text : String) : Option Value := do
  let tree ← Tree.parse text
  tree.toValue? depthLimit

def Tree.string? : Tree → Option String
  | .string ps => spell? ps
  | _ => none

def Tree.stringOrNull? : Tree → Option (Option String)
  | .null => some none
  | t => t.string?.map some

def Tree.float? : Tree → Option Float
  | .number l =>
    match Decimal.read? l with
    | some (.integer n) => some (floatOfInteger n)
    | some (.float x) => some x
    | none => none
  | _ => none
where
  floatOfInteger (n : Int) : Float :=
    if n < 0 then -(UInt64.ofNat n.natAbs).toFloat else (UInt64.ofNat n.natAbs).toFloat

/-- Reads the value of a record's field, one level below the record. -/
def Tree.fieldValue? (t : Tree) : Option Value := t.toValue? (depthLimit - 1)

/-- The names of members, in order, none when one is no valid string. -/
def memberNames? (members : List (List Piece × Tree)) : Option (List (String × Tree)) :=
  members.mapM fun m => (spell? m.1).map (·, m.2)

/-- The fields of a record, by the known names: absent ones are none. -/
def Tree.fields? (names : List String) : Tree → Option (List (Option Tree))
  | .object members => do
    let members ← memberNames? members
    names.mapM fun name =>
      match members.filter (·.1 == name) with
      | [] => some none
      | [m] => some (some m.2)
      | _ => none
  | .array items =>
    if items.length ≤ names.length then
      some (items.map some ++ List.replicate (names.length - items.length) none)
    else none
  | _ => none

end Courier.Json
