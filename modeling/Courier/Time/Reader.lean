import Courier.Text.Blank
import Courier.Text.Digits
import Courier.Time.Instant

/-!
Reading dates. The form is RFC 3339 with some freedom: fields may have fewer digits, blanks may
stand before a field, before a separator, before the offset and at the end, date and time are
separated by `T`, `t` or one space, the offset may be written `UTC`, without a colon or with the
minus sign U+2212, and digits of the fraction after the ninth are dropped. Second 60 is a leap
second.
-/

namespace Courier.Time.Reader

open Text

def skipBlanks (cs : List Char) : List Char := cs.dropWhile isBlank

/-- At most `width` leading digits and what follows them. -/
def takeDigits : Nat → List Char → List Nat × List Char
  | 0, cs => ([], cs)
  | _, [] => ([], [])
  | width + 1, c :: cs =>
    match digitValue? c with
    | some d => let (ds, rest) := takeDigits width cs; (d :: ds, rest)
    | none => ([], c :: cs)

def number (width : Nat) (cs : List Char) : Option (Nat × List Char) :=
  match takeDigits width cs with
  | ([], _) => none
  | (ds, rest) => some (ofDigits ds, rest)

def field (cs : List Char) : Option (Nat × List Char) :=
  number 2 (skipBlanks cs)

def separator (c : Char) (cs : List Char) : Option (List Char) :=
  match skipBlanks cs with
  | d :: rest => if d = c then some rest else none
  | [] => none

/-- A year: up to four digits, or a sign and any number of digits. -/
def year (cs : List Char) : Option (Int × List Char) :=
  match skipBlanks cs with
  | '-' :: rest => do let (n, rest) ← number rest.length rest; return (-(n : Int), rest)
  | '+' :: rest => do let (n, rest) ← number rest.length rest; return ((n : Int), rest)
  | rest => do let (n, rest) ← number 4 rest; return ((n : Int), rest)

def date (cs : List Char) : Option (Date × List Char) := do
  let (y, cs) ← year cs
  let cs ← separator '-' cs
  let (m, cs) ← field cs
  let cs ← separator '-' cs
  let (d, cs) ← field cs
  let date : Date := ⟨y, m, d⟩
  if date.isValid then return (date, cs) else none

/-- The fraction of a second in nanoseconds; no fraction counts as zero. -/
def fraction (cs : List Char) : Option (Nat × List Char) :=
  match cs with
  | '.' :: rest =>
    match takeDigits 9 rest with
    | ([], _) => none
    | (ds, rest) =>
      some (ofDigits ds * Nat.pow 10 (9 - ds.length), rest.dropWhile fun c => (digitValue? c).isSome)
  | cs => some (0, cs)

/-- A time of day as whole seconds, at most one short of a minute's end, and nanoseconds. -/
def timeOfDay (cs : List Char) : Option (Nat × Nat × List Char) := do
  let (h, cs) ← field cs
  let cs ← separator ':' cs
  let (m, cs) ← field cs
  let cs ← separator ':' cs
  let (s, cs) ← field cs
  let (nanos, cs) ← fraction cs
  if h ≤ 23 ∧ m ≤ 59 ∧ s ≤ 60 then
    if s = 60 then return (h * 3600 + m * 60 + 59, nanos + 1000000000, cs)
    else return (h * 3600 + m * 60 + s, nanos, cs)
  else none

def pair (cs : List Char) : Option (Nat × List Char) :=
  match takeDigits 2 cs with
  | ([a, b], rest) => some (a * 10 + b, rest)
  | _ => none

/-- Hours and minutes of an offset, in seconds: two digits each, with colons or blanks between. -/
def offsetSize (cs : List Char) : Option (Nat × List Char) := do
  let (h, cs) ← pair cs
  let (m, cs) ← pair (cs.dropWhile fun c => c == ':' || isBlank c)
  if m ≤ 59 ∧ h ≤ 23 then return (h * 3600 + m * 60, cs) else none

def offset (cs : List Char) : Option (Int × List Char) :=
  match cs with
  | 'Z' :: rest => some (0, rest)
  | 'z' :: rest => some (0, rest)
  | '+' :: rest => do let (n, rest) ← offsetSize rest; return ((n : Int), rest)
  | '-' :: rest => do let (n, rest) ← offsetSize rest; return (-(n : Int), rest)
  | '\u2212' :: rest => do let (n, rest) ← offsetSize rest; return (-(n : Int), rest)
  | a :: b :: c :: rest =>
    if [a, b, c].map Char.toUpper = ['U', 'T', 'C'] then some (0, rest) else none
  | _ => none

/-- A date with time and offset, and nothing after it but blanks. -/
def instant (cs : List Char) : Option Instant := do
  let (date, cs) ← date cs
  let cs ← match cs with
    | 'T' :: cs => some cs
    | 't' :: cs => some cs
    | ' ' :: cs => some cs
    | _ => none
  let (ofDay, nanos, cs) ← timeOfDay cs
  let (shift, cs) ← offset (skipBlanks cs)
  if skipBlanks cs ≠ [] then none
  else Instant.make? (date.toDays * 86400 + ofDay - shift) nanos

end Courier.Time.Reader

namespace Courier.Time

/-- The instant that a text writes, if it is a date. -/
def Instant.read? (s : String) : Option Instant := Reader.instant s.toList

end Courier.Time
