import Courier.Decimal.Reading
import Courier.Text.Digits

/-!
The syntax of JSON texts. A tree keeps what the text says before anything is made of it: numbers as
literals, strings as pieces, members in their order with repetitions. Parsing is strict about the
grammar and about nothing else: the range of numbers, surrogates in strings and the depth of
nesting matter only when a part of the tree is read as a value.
-/

namespace Courier.Json

/-- A piece of a string: a character, or a UTF-16 unit written as an escape. -/
inductive Piece where
  | char (c : Char)
  | unit (code : Nat)
deriving DecidableEq

inductive Tree where
  | null
  | bool (b : Bool)
  | number (literal : Decimal.Literal)
  | string (pieces : List Piece)
  | array (items : List Tree)
  | object (members : List (List Piece × Tree))

namespace Reader

def skip (cs : List Char) : List Char :=
  cs.dropWhile fun c => c == ' ' || c == '\n' || c == '\r' || c == '\t'

def digits : List Char → List Nat × List Char
  | [] => ([], [])
  | c :: cs =>
    match Text.digitValue? c with
    | some d => let (ds, rest) := digits cs; (d :: ds, rest)
    | none => ([], c :: cs)

def digits1 (cs : List Char) : Option (List Nat × List Char) :=
  match digits cs with
  | ([], _) => none
  | found => some found

/-- The digits after a point, if there is one. -/
def fractionPart : List Char → Option (Option (List Nat) × List Char)
  | '.' :: cs => do let (ds, cs) ← digits1 cs; return (some ds, cs)
  | cs => some (none, cs)

/-- The sign of an exponent, true for minus, and its digits, if there is one. -/
def exponentPart : List Char → Option (Option (Bool × List Nat) × List Char)
  | c :: cs =>
    if c = 'e' ∨ c = 'E' then
      match cs with
      | '+' :: cs => do let (ds, cs) ← digits1 cs; return (some (false, ds), cs)
      | '-' :: cs => do let (ds, cs) ← digits1 cs; return (some (true, ds), cs)
      | cs => do let (ds, cs) ← digits1 cs; return (some (false, ds), cs)
    else some (none, c :: cs)
  | [] => some (none, [])

/-- A number without its sign; no zero stands before another digit. -/
def unsigned (negative : Bool) (cs : List Char) : Option (Decimal.Literal × List Char) := do
  let (whole, cs) ← digits1 cs
  if whole.head? = some 0 ∧ whole ≠ [0] then none
  else
    let (fraction, cs) ← fractionPart cs
    let (exponent, cs) ← exponentPart cs
    return (⟨negative, whole, fraction, exponent⟩, cs)

def number : List Char → Option (Decimal.Literal × List Char)
  | '-' :: cs => unsigned true cs
  | cs => unsigned false cs

def escaped? : Char → Option Char
  | '"' => some '"'
  | '\\' => some '\\'
  | '/' => some '/'
  | 'b' => some '\x08'
  | 'f' => some '\x0c'
  | 'n' => some '\n'
  | 'r' => some '\r'
  | 't' => some '\t'
  | _ => none

/-- Puts a piece in front of the pieces of a string. -/
def andThen (p : Piece) : List Piece × List Char → List Piece × List Char
  | (ps, rest) => (p :: ps, rest)

/-- The pieces of a string up to its closing quote, after the opening one. -/
def pieces : List Char → Option (List Piece × List Char)
  | [] => none
  | '"' :: cs => some ([], cs)
  | '\\' :: 'u' :: a :: b :: c :: d :: cs =>
    match Text.hexValue? a, Text.hexValue? b, Text.hexValue? c, Text.hexValue? d with
    | some a, some b, some c, some d =>
      (pieces cs).map (andThen (.unit (((a * 16 + b) * 16 + c) * 16 + d)))
    | _, _, _, _ => none
  | '\\' :: c :: cs =>
    match escaped? c with
    | some e => (pieces cs).map (andThen (.char e))
    | none => none
  | c :: cs => if c.toNat < 0x20 ∨ c = '\\' then none else (pieces cs).map (andThen (.char c))

mutual

/-- A value at the start of a text, and what follows it. The first argument bounds the steps. -/
def value : Nat → List Char → Option (Tree × List Char)
  | 0, _ => none
  | steps + 1, cs =>
    match skip cs with
    | 'n' :: 'u' :: 'l' :: 'l' :: cs => some (.null, cs)
    | 't' :: 'r' :: 'u' :: 'e' :: cs => some (.bool true, cs)
    | 'f' :: 'a' :: 'l' :: 's' :: 'e' :: cs => some (.bool false, cs)
    | '"' :: cs => do let (ps, cs) ← pieces cs; return (.string ps, cs)
    | '[' :: cs =>
      match skip cs with
      | ']' :: cs => some (.array [], cs)
      | cs => do let (items, cs) ← items steps cs; return (.array items, cs)
    | '{' :: cs =>
      match skip cs with
      | '}' :: cs => some (.object [], cs)
      | cs => do let (members, cs) ← members steps cs; return (.object members, cs)
    | cs => do let (literal, cs) ← number cs; return (.number literal, cs)

def items : Nat → List Char → Option (List Tree × List Char)
  | 0, _ => none
  | steps + 1, cs => do
    let (item, cs) ← value steps cs
    match skip cs with
    | ',' :: cs => let (rest, cs) ← items steps cs; return (item :: rest, cs)
    | ']' :: cs => return ([item], cs)
    | _ => none

def members : Nat → List Char → Option (List (List Piece × Tree) × List Char)
  | 0, _ => none
  | steps + 1, cs =>
    match skip cs with
    | '"' :: cs => do
      let (name, cs) ← pieces cs
      match skip cs with
      | ':' :: cs =>
        let (item, cs) ← value steps cs
        match skip cs with
        | ',' :: cs => let (rest, cs) ← members steps cs; return ((name, item) :: rest, cs)
        | '}' :: cs => return ([(name, item)], cs)
        | _ => none
      | _ => none
    | _ => none

end

end Reader

/-- The tree of a whole text: one value with blanks around it. Every two steps take at least one
character. -/
def Tree.parse (text : String) : Option Tree := do
  let cs := text.toList
  let (tree, rest) ← Reader.value (2 * cs.length + 2) cs
  if Reader.skip rest = [] then return tree else none

end Courier.Json
