import Courier.Http.Punycode
import Courier.Text.Cut
import Courier.Text.Digits
import Courier.Text.Percent

/-!
Hosts of URLs: domains, IPv4 addresses in all their spellings, and IPv6 addresses in brackets. A
host is read into its normal form. Domains are case-folded; labels outside ASCII become Punycode.
-/

namespace Courier.Http.Host

/-- Decodes percent triples into bytes; anything else stands for its UTF-8 bytes. -/
def percentDecode : List Char → List UInt8
  | '%' :: a :: b :: cs =>
    match Text.hexValue? a, Text.hexValue? b with
    | some x, some y => UInt8.ofNat (x * 16 + y) :: percentDecode cs
    | _, _ => 37 :: percentDecode (a :: b :: cs)
  | c :: cs => String.utf8EncodeChar c ++ percentDecode cs
  | [] => []
termination_by cs => cs.length

def decodeUtf8? (bytes : List UInt8) : Option String :=
  String.fromUTF8? ⟨bytes.toArray⟩

/-- The character or characters that a character of a domain is folded to. -/
def fold (c : Char) : List Char :=
  let n := c.toNat
  if n < 0x80 then [c.toLower]
  else if n = 0xAD ∨ n = 0x200B ∨ n = 0x2060 ∨ n = 0xFEFF then []
  else if n = 0x3002 ∨ n = 0xFF0E ∨ n = 0xFF61 then ['.']
  else if 0xFF01 ≤ n ∧ n ≤ 0xFF5E then [(Char.ofNat (n - 0xFEE0)).toLower]
  else if (0xC0 ≤ n ∧ n ≤ 0xDE ∧ n ≠ 0xD7) ∨ (0x391 ≤ n ∧ n ≤ 0x3A9) ∨ (0x410 ≤ n ∧ n ≤ 0x42F) then
    [Char.ofNat (n + 32)]
  else if 0x400 ≤ n ∧ n ≤ 0x40F then [Char.ofNat (n + 80)]
  else if (0x100 ≤ n ∧ n ≤ 0x12F) ∧ n % 2 = 0 then [Char.ofNat (n + 1)]
  else [c]

def isForbidden (c : Char) : Bool :=
  c.toNat ≤ 0x20 || c.toNat == 0x7F || "%#/:<>?@[\\]^|".toList.contains c

def asciiLabel (label : List Char) : List Char :=
  if label.all fun c => c.toNat < 0x80 then label else "xn--".toList ++ Punycode.encode label

/-- The normal form of a domain, none when it holds a forbidden character. -/
def domain? (s : String) : Option (List Char) :=
  let folded := s.toList.flatMap fold
  let labels := (Text.cutAll '.' folded).map asciiLabel
  let ascii := Text.joinWith '.' labels
  if ascii.any isForbidden then none else some ascii

/-- A number of an IPv4 address: decimal, octal after `0`, or hexadecimal after `0x`. -/
def ipv4Number? (part : List Char) : Option Nat :=
  let ofBase (base : Nat) (cs : List Char) : Option Nat :=
    cs.foldlM (fun n c => do
      let d ← Text.hexValue? c
      if d < base then some (n * base + d) else none) 0
  match part with
  | [] => none
  | '0' :: 'x' :: cs => ofBase 16 cs
  | '0' :: 'X' :: cs => ofBase 16 cs
  | '0' :: c :: cs => ofBase 8 (c :: cs)
  | cs => ofBase 10 cs

/-- The labels of a domain, without an empty one at its end. -/
def labels (domain : List Char) : List (List Char) :=
  let parts := Text.cutAll '.' domain
  match parts.reverse with
  | [] :: rest => if rest.isEmpty then parts else rest.reverse
  | _ => parts

/-- Whether the last label is a number, so that the host must be an IPv4 address. -/
def endsInNumber (domain : List Char) : Bool :=
  match (labels domain).getLast? with
  | none => false
  | some last =>
    (!last.isEmpty && last.all fun c => (Text.digitValue? c).isSome) ||
      (match last with
        | '0' :: x :: cs => (x == 'x' || x == 'X') && cs.all fun c => (Text.hexValue? c).isSome
        | _ => false)

/-- An IPv4 address: up to three numbers below 256, then one for all bytes that are left. -/
def ipv4? (domain : List Char) : Option String := do
  let parts := labels domain
  if 4 < parts.length then none
  else
    let numbers ← parts.mapM ipv4Number?
    match numbers.reverse with
    | [] => none
    | last :: front =>
      let front := front.reverse
      if front.any (255 < ·) || Nat.pow 256 (4 - front.length) ≤ last then none
      else
        let value := front.foldl (fun n b => n * 256 + b) 0 * Nat.pow 256 (4 - front.length) + last
        return ".".intercalate
          [toString (value / 0x1000000), toString (value / 0x10000 % 256),
            toString (value / 256 % 256), toString (value % 256)]

/-- One group of an IPv6 address: one to four hexadecimal digits. -/
def group? (cs : List Char) : Option Nat :=
  if cs.isEmpty || 4 < cs.length then none
  else cs.foldlM (fun n c => (Text.hexValue? c).map (n * 16 + ·)) 0

/-- The two groups that an IPv4 address in plain decimal notation stands for. -/
def embedded? (cs : List Char) : Option (List Nat) := do
  let parts := Text.cutAll '.' cs
  if parts.length ≠ 4 then none
  else
    let bytes ← parts.mapM fun p =>
      if p.isEmpty || (p.head? == some '0' && 1 < p.length) then none
      else do
        let ds ← p.mapM Text.digitValue?
        if Text.ofDigits ds ≤ 255 then some (Text.ofDigits ds) else none
    match bytes with
    | [a, b, c, d] => return [a * 256 + b, c * 256 + d]
    | _ => none

/-- Groups with colons between them; the last may be an IPv4 address. -/
def groups? (cs : List Char) : Option (List Nat) :=
  if cs.isEmpty then some []
  else
    let parts := Text.cutAll ':' cs
    match parts.reverse with
    | [] => none
    | last :: front => do
      let front ← front.reverse.mapM group?
      if last.contains '.' then return front ++ (← embedded? last)
      else return front ++ [← group? last]

/-- What stands before and after the first pair of colons. -/
def cutPair : List Char → Option (List Char × List Char)
  | ':' :: ':' :: cs => some ([], cs)
  | c :: cs => (cutPair cs).map fun (before, after) => (c :: before, after)
  | [] => none

def ipv6Groups? (cs : List Char) : Option (List Nat) :=
  match cutPair cs with
  | none => do
    let groups ← groups? cs
    if groups.length = 8 then some groups else none
  | some (before, after) => do
    if before.contains '.' then none
    else
      let before ← groups? before
      let after ← groups? after
      if before.length + after.length < 8 then
        some (before ++ List.replicate (8 - before.length - after.length) 0 ++ after)
      else none

/-- The lengths of the runs of zeros that start at each place. -/
def zeroRuns : List Nat → List Nat
  | [] => []
  | g :: gs =>
    let rest := zeroRuns gs
    (if g = 0 then rest.headD 0 + 1 else 0) :: rest

/-- The normal form of an IPv6 address: the first longest run of two or more zeros is left out. -/
def ipv6Text (groups : List Nat) : String :=
  let runs := zeroRuns groups
  let longest := runs.foldl max 0
  let hex (gs : List Nat) := ":".intercalate (gs.map (Text.hex 1))
  if longest < 2 then hex groups
  else
    let start := runs.findIdx (· == longest)
    hex (groups.take start) ++ "::" ++ hex (groups.drop (start + longest))

/-- The normal form of a host, none when it is malformed. -/
def parse? (cs : List Char) : Option String :=
  match cs with
  | '[' :: rest =>
    match rest.reverse with
    | ']' :: inner =>
      (ipv6Groups? inner.reverse).map fun groups => "[" ++ ipv6Text groups ++ "]"
    | _ => none
  | cs => do
    let decoded ← decodeUtf8? (percentDecode cs)
    let domain ← domain? decoded
    if domain.isEmpty then none
    else if endsInNumber domain then ipv4? domain
    else some (String.ofList domain)

end Courier.Http.Host
