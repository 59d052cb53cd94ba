import RemoteConsole.Text.Blank
import RemoteConsole.Text.Quoted

/-!
# Session ids

A session has a positive number of at most 64 bits, given by the service. The
number is in the type, so that no operation has to check it again.

* `SessionId.ofNat` — the id with a number.
* `SessionId.parse` — the id written in a text, with white space around it.
* `SessionId.text` — its decimal text.
-/

namespace RemoteConsole

/-- The number of a session. -/
structure SessionId where
  /-- The number itself. -/
  value : Nat
  /-- No session has the number zero. -/
  pos : 0 < value
  /-- The number has at most 64 bits. -/
  lt : value < UInt64.size
  deriving DecidableEq, Repr

/-- A text that is no session id. -/
structure InvalidSessionId where
  /-- The text without the white space around it. -/
  text : String
  deriving DecidableEq, Repr

/-- The report on a text that is no session id. -/
def InvalidSessionId.message (e : InvalidSessionId) : String :=
  "invalid session id: " ++ Quoted.quote e.text

/-- The number that decimal digits write, `none` if one of the characters is no
digit or there is none. -/
def decimal? (digits : List Char) : Option Nat :=
  if digits.isEmpty || !digits.all Char.isDigit then none
  else some (digits.foldl (fun n d => n * 10 + (d.toNat - 48)) 0)

namespace SessionId

/-- The id with a number of 64 bits; zero is none. -/
def ofNat (n : Nat) (lt : n < UInt64.size) : Except InvalidSessionId SessionId :=
  if h : 0 < n then .ok ⟨n, h, lt⟩ else .error ⟨"0"⟩

/-- The id written in a text: decimal digits, possibly with a plus sign in
front. -/
def parse (text : String) : Except InvalidSessionId SessionId :=
  let trimmed := Blank.trim text.toList
  -- a sign is read, and stays in the report on a text that is no id
  let digits := match trimmed with
    | '+' :: rest => rest
    | other => other
  match decimal? digits with
  | some n => if lt : n < UInt64.size then ofNat n lt else .error ⟨String.ofList trimmed⟩
  | none => .error ⟨String.ofList trimmed⟩

/-- The decimal text of an id. -/
def text (id : SessionId) : String :=
  toString id.value

end SessionId

instance : ToString SessionId := ⟨SessionId.text⟩

end RemoteConsole
