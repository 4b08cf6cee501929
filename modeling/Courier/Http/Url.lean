import Courier.Http.Host

/-!
URLs with the schemes `http` and `https`, read as the URL standard says and kept in normal form.
Credentials in front of the host are kept apart, since requests carry them in a header.
-/

namespace Courier.Http

/-- A user and password in front of a host, still percent-encoded. -/
structure UserInfo where
  user : String
  password : Option String
deriving DecidableEq

structure Url where
  scheme : String
  userInfo : Option UserInfo
  host : String
  port : Option Nat
  /-- The segments of the path; there is at least one. -/
  path : List String
  query : Option String
  fragment : Option String
deriving DecidableEq

namespace Url

/-- The text of a URL without its user and password. -/
def text (u : Url) : String :=
  u.scheme ++ "://" ++ u.host ++
    (match u.port with | none => "" | some p => ":" ++ toString p) ++
    String.join (u.path.map ("/" ++ ·)) ++
    (match u.query with | none => "" | some q => "?" ++ q) ++
    (match u.fragment with | none => "" | some f => "#" ++ f)

def pathText (u : Url) : String := String.join (u.path.map ("/" ++ ·))

/-- Encodes a character if it is outside printable ASCII or among `extra`. -/
def encodeChar (extra : String) (c : Char) : List Char :=
  if c.toNat < 0x20 || 0x7E < c.toNat || extra.toList.contains c then
    (String.utf8EncodeChar c).flatMap Text.Percent.encodeByte
  else [c]

def encodeAll (extra : String) (cs : List Char) : String :=
  String.ofList (cs.flatMap (encodeChar extra))

/-- The printable ASCII characters that are encoded in each part of a URL. -/
def fragmentSet : String := " \"<>`"
def pathSet : String := " \"<>`#?\x7b\x7d"
def querySet : String := " \"#<>'"
def userInfoSet : String := " \"<>`#?\x7b\x7d/:;=@[\\]^|"

def isSlash (c : Char) : Bool := c == '/' || c == '\\'

/-- Whether the part of a URL with host and user ends here. -/
def endsAuthority (c : Char) : Bool := isSlash c || c == '?' || c == '#'

def isSingleDot (segment : String) : Bool :=
  segment == "." || segment.map Char.toLower == "%2e"

def isDoubleDot (segment : String) : Bool :=
  let s := segment.map Char.toLower
  s == ".." || s == ".%2e" || s == "%2e." || s == "%2e%2e"

/-- The path that segments lead to, with dots resolved; `done` is what has been walked, last segment
first. -/
def resolve (done : List String) : List String → List String
  | [] => done.reverse
  | [last] =>
    if isDoubleDot last then ("" :: done.tail).reverse
    else if isSingleDot last then ("" :: done).reverse
    else (last :: done).reverse
  | segment :: rest =>
    if isDoubleDot segment then resolve done.tail rest
    else if isSingleDot segment then resolve done rest
    else resolve (segment :: done) rest

def parsePath (cs : List Char) : List String :=
  let unified := cs.map fun c => if c == '\\' then '/' else c
  resolve [] ((Text.cutAll '/' unified).map (encodeAll pathSet))

/-- The user and password before the last `@`, and the rest. -/
def splitUserInfo (authority : List Char) : Option (List Char) × List Char :=
  let tail := (authority.reverse.takeWhile (· != '@')).reverse
  if tail.length = authority.length then (none, authority)
  else (some (authority.take (authority.length - tail.length - 1)), tail)

def parseUserInfo (cs : List Char) : Option UserInfo :=
  let (user, password) := match Text.cutFirst ':' cs with
    | none => (cs, [])
    | some parts => parts
  if user.isEmpty && password.isEmpty then none
  else
    some ⟨encodeAll userInfoSet user,
      if password.isEmpty then none else some (encodeAll userInfoSet password)⟩

def splitPort (inBrackets : Bool) : List Char → List Char × Option (List Char)
  | [] => ([], none)
  | c :: cs =>
    if c == ':' && !inBrackets then ([], some cs)
    else
      let inBrackets := c == '[' || (inBrackets && c != ']')
      let (host, port) := splitPort inBrackets cs
      (c :: host, port)

/-- A port; the scheme's own port and an empty one count as none. -/
def parsePort (scheme : String) : Option (List Char) → Option (Option Nat)
  | none => some none
  | some cs => do
    let digits ← cs.mapM Text.digitValue?
    let port := Text.ofDigits digits
    if 65535 < port then none
    else if digits.isEmpty || port == (if scheme == "http" then 80 else 443) then some none
    else some (some port)

def parseRest (scheme : String) (cs : List Char) : Option Url := do
  let cs := cs.dropWhile isSlash
  let authority := cs.takeWhile fun c => !endsAuthority c
  let rest := cs.dropWhile fun c => !endsAuthority c
  let (userInfo, hostPort) := splitUserInfo authority
  let (host, port) := splitPort false hostPort
  if host.isEmpty then none
  else
    let host ← Host.parse? host
    let port ← parsePort scheme port
    let (rest, fragment) := match Text.cutFirst '#' rest with
      | none => (rest, none)
      | some (rest, fragment) => (rest, some (encodeAll fragmentSet fragment))
    let (path, query) := match Text.cutFirst '?' rest with
      | none => (rest, none)
      | some (path, query) => (path, some (encodeAll querySet query))
    return {
      scheme := scheme
      userInfo := userInfo.bind parseUserInfo
      host := host
      port := port
      path := parsePath (path.drop 1)
      query := query
      fragment := fragment }

/-- The URL that a text writes, none when it is malformed or has another scheme. -/
def parse? (s : String) : Option Url :=
  let isTrimmed (c : Char) : Bool := c.toNat ≤ 0x20
  let cs := ((s.toList.dropWhile isTrimmed).reverse.dropWhile isTrimmed).reverse
  let cs := cs.filter fun c => c != '\t' && c != '\n' && c != '\r'
  match Text.cutFirst ':' cs with
  | none => none
  | some (scheme, rest) =>
    let scheme := String.ofList (scheme.map Char.toLower)
    if scheme == "http" || scheme == "https" then parseRest scheme rest else none

def addPairs (u : Url) (pairs : List (String × String)) : Url :=
  let added := pairs.map fun p => Text.Percent.encodeForm p.1 ++ "=" ++ Text.Percent.encodeForm p.2
  let old := match u.query with
    | none => []
    | some q => if q.isEmpty then [] else [q]
  let query := "&".intercalate (old ++ added)
  { u with query := if query.isEmpty then none else some query }

end Url
end Courier.Http
