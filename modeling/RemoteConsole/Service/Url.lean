import RemoteConsole.Service.Host

/-!
# Addresses

An address names a server and a place on it. What may not stand in an address is
written with percent signs, and steps up the path are taken at once, so that an
address has one text.

* `Url` — an address, with `Url.text` and the `Url.target` that the server sees.
* `Url.parse?` — the address that a text writes.
* `Url.resolve?` — what a reference names that is found at an address.
-/

namespace RemoteConsole

/-- How the server of an address is spoken to. -/
inductive UrlScheme where
  | http
  | https
  deriving DecidableEq, Repr

/-- The name of a scheme. -/
def UrlScheme.text : UrlScheme → String
  | http => "http"
  | https => "https"

/-- The usual port of a scheme. -/
def UrlScheme.port : UrlScheme → Nat
  | http => 80
  | https => 443

/-- An address. -/
structure Url where
  /-- How its server is spoken to. -/
  scheme : UrlScheme
  /-- The host in its one text. -/
  host : String
  /-- The port, unless it is the usual one. -/
  port : Option Nat
  /-- The segments of the path. -/
  path : List String
  /-- What stands behind a question mark. -/
  query : Option String
  /-- What stands behind a number sign. -/
  fragment : Option String
  deriving DecidableEq, Repr

namespace Url

/-! ## Escapes -/

/-- A character as the bytes of its escape. -/
def escape (c : Char) : List Char :=
  (Utf8.encodeChar c).flatMap fun b => '%' :: Hex.upper 2 b.toNat

/-- A text with the characters escaped that are not printable or stand in a
list. -/
def escaped (also : String) (text : List Char) : String :=
  String.ofList <| text.flatMap fun c =>
    if c.toNat ≤ 0x20 || 0x7F ≤ c.toNat || also.toList.contains c then escape c else [c]

/-! ## Paths -/

/-- Whether a segment stays where it is. -/
def isHere (segment : String) : Bool :=
  segment.toLower == "." || segment.toLower == "%2e"

/-- Whether a segment is a step up. -/
def isUp (segment : String) : Bool :=
  ["..", ".%2e", "%2e.", "%2e%2e"].contains segment.toLower

/-- The segments of a path with its steps taken. A step at the end leaves an
empty segment. -/
def walk (done : List String) : List String → List String
  | [] => done
  | segment :: more =>
    -- a step at the end leaves the slash before it
    let here := if more.isEmpty then [""] else []
    -- there is nothing above the root
    if isUp segment then walk (done.dropLast ++ here) more
    else if isHere segment then walk (done ++ here) more
    else walk (done ++ [segment]) more

/-- The segments that a path writes; both kinds of slash part segments. -/
def segments (path : List Char) : List String :=
  match Separated.split '/' (path.map fun c => if c = '\\' then '/' else c) with
  | [] :: first :: more => walk [] ((first :: more).map (escaped "\"<>\x60\x7b\x7d"))
  | _ => [""]

/-! ## Reading -/

/-- The port that digits write: `none` for no digits and for the usual one. -/
def port? (scheme : UrlScheme) (digits : List Char) : Option (Option Nat) :=
  if digits.all Char.isDigit then
    match Host.numberIn? 10 digits with
    | none => none
    | some n =>
      if 65536 ≤ n then none
      -- the usual port is left out of the one text
      else if digits.isEmpty ∨ n = scheme.port then some none
      else some (some n)
  else none

/-- A host and what stands behind it. Colons inside brackets belong to the
host. -/
def splitHost (bracketed : Bool) : List Char → List Char × List Char
  | [] => ([], [])
  | c :: more =>
    if c = ':' ∧ !bracketed then ([], c :: more)
    else
      let (host, rest) := splitHost (c = '[' || (bracketed && c ≠ ']')) more
      (c :: host, rest)

/-- Whether an authority ends before a character. -/
def endsAuthority (c : Char) : Bool :=
  c == '/' || c == '\\' || c == '?' || c == '#'

/-- A text before a character and, if the character is there, behind it. -/
def splitAt (mark : Char) (text : List Char) : List Char × Option (List Char) :=
  (text.takeWhile (· ≠ mark), (text.dropWhile (· ≠ mark)).tail?)

/-- The host and the port of an authority, without what stands before the last
at sign. -/
def authority? (scheme : UrlScheme) (text : List Char) : Option (String × Option Nat) := do
  -- an account before the at sign is not part of the place
  let bare := (text.reverse.takeWhile (· ≠ '@')).reverse
  let (host, rest) := splitHost false bare
  return (← Host.normal? host, ← port? scheme rest.tail)

/-- The address that stands behind its scheme. -/
def ofTail? (scheme : UrlScheme) (text : List Char) : Option Url := do
  let text := text.dropWhile fun c => c == '/' || c == '\\'
  let (host, port) ← authority? scheme (text.takeWhile (!endsAuthority ·))
  let (place, fragment) := splitAt '#' (text.dropWhile (!endsAuthority ·))
  let (path, query) := splitAt '?' place
  return {
    scheme, host, port
    path := segments path
    query := query.map (escaped "\"#<>'")
    fragment := fragment.map (escaped "\"<>\x60") }

/-- Whether a character is dropped wherever it stands. -/
def isDropped (c : Char) : Bool :=
  c == '\t' || c == '\n' || c == '\r'

/-- The scheme that a text begins with, in small letters, and what stands behind
its colon. -/
def schemeName? (text : List Char) : Option (String × List Char) :=
  match splitAt ':' text with
  | (first :: more, some behind) =>
    if first.isAlpha && more.all (fun c => c.isAlphanum || "+-.".toList.contains c) then
      some (String.ofList ((first :: more).map Char.toLower), behind)
    else none
  | _ => none

/-- The address that a text writes. -/
def parse? (text : String) : Option Url :=
  let text := (text.toList.reverse.dropWhile (·.toNat ≤ 0x20)).reverse.filter (!isDropped ·)
  match schemeName? text with
  | some ("http", rest) => ofTail? .http rest
  | some ("https", rest) => ofTail? .https rest
  | _ => none

/-! ## Writing -/

/-- A text behind a mark, or nothing. -/
def optional (mark : String) : Option String → String
  | some text => mark ++ text
  | none => ""

/-- The path as a text. -/
def pathText (segments : List String) : String :=
  String.join (segments.map ("/" ++ ·))

/-- What the server sees of an address. -/
def target (u : Url) : String :=
  pathText u.path ++ optional "?" u.query

/-- The server of an address. -/
def origin (u : Url) : String :=
  u.scheme.text ++ "://" ++ u.host ++ optional ":" (u.port.map toString)

/-- The one text of an address. -/
def text (u : Url) : String :=
  u.origin ++ u.target ++ optional "#" u.fragment

/-- The greatest length of an address in a request. -/
def maxLength : Nat := 65534

/-- Whether a request can carry an address. A host may hold signs that no
request may. -/
def isSendable (u : Url) : Bool :=
  u.text.length ≤ maxLength && !u.host.toList.any "\"\x60\x7b\x7d".toList.contains

/-- The one text of the address that a text writes, or the text itself. -/
def normalText (text : String) : String :=
  ((parse? text).map (·.text)).getD text

/-! ## References -/

/-- The port of the server. -/
def portNumber (u : Url) : Nat :=
  u.port.getD u.scheme.port

/-- Whether two addresses are at one server. -/
def sharesServer (u v : Url) : Bool :=
  u.host == v.host && u.portNumber == v.portNumber

/-- What a reference names. -/
inductive Named where
  /-- An address. -/
  | address (u : Url)
  /-- Something under another scheme. -/
  | other (text : String)
  deriving DecidableEq, Repr

/-- The text of the address that a reference without a scheme stands for where
it is found. -/
def joined (u : Url) (reference : List Char) : String :=
  let text := String.ofList reference
  match reference with
  | '/' :: '/' :: _ => u.scheme.text ++ ":" ++ text
  | '/' :: _ => u.origin ++ text
  | '?' :: _ => u.origin ++ pathText u.path ++ text
  | '#' :: _ | [] => u.origin ++ u.target ++ text
  -- the last segment of the path gives way to the reference
  | _ => u.origin ++ pathText u.path.dropLast ++ "/" ++ text

/-- What a reference names that is found at an address, if it names anything. A
request does not look for a place within what it asks for. -/
def resolve? (u : Url) (reference : String) : Option Named :=
  let whole (text : String) : Option Named :=
    (parse? text).map fun v => .address { v with fragment := none }
  match schemeName? reference.toList with
  | some ("http", _) | some ("https", _) => whole reference
  | some _ => some (.other reference)
  | none => whole (u.joined reference.toList)

end Url

end RemoteConsole
