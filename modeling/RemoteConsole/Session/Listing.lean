import RemoteConsole.Json.Record
import RemoteConsole.Json.Value
import RemoteConsole.Session.Id

/-!
# The listing of sessions

The service answers a request for all sessions with an object that holds a list
of ids and engines.

* `Listing` — the sessions in the order of the answer.
* `Listing.decode` — reads an answer; `SessionId.decode` reads a single id.
* `Listing.text` — the listing in the form of the answer, indented.
-/

namespace RemoteConsole

open Json (Decoder Malformed Shape Member Value)

/-- One session of a listing. -/
structure SessionSummary where
  /-- The session. -/
  id : SessionId
  /-- The script engine behind it. -/
  engine : String
  deriving DecidableEq, Repr

/-- All sessions of a service. -/
structure Listing where
  /-- The sessions, in the order of the service. -/
  sessions : List SessionSummary
  deriving DecidableEq, Repr

/-! ## Reading -/

namespace SessionId

/-- The id with a number that may be too large for any. -/
def ofNat? (n : Nat) : Except InvalidSessionId SessionId :=
  -- numbers that are read have 64 bits; the other branch keeps the function
  -- total
  if lt : n < UInt64.size then ofNat n lt else .error ⟨toString n⟩

/-- An id: a number that is not zero. -/
def decoder : Decoder SessionId := do
  match ofNat? (← Decoder.natural) with
  | .ok id => pure id
  | .error e => Decoder.mismatch (.refused e.message)

/-- Reads a document that is an id. -/
def decode (document : List UInt8) : Except Malformed SessionId :=
  decoder.run document

end SessionId

namespace SessionSummary

/-- The fields of a summary that have been read. -/
structure Draft where
  id : Option SessionId := none
  engine : Option String := none

/-- What to do with a member of a summary. -/
def member (d : Draft) (key : String) : Member Draft :=
  if key = "id" then
    if d.id.isSome then .repeated
    else .field do return { d with id := some (← SessionId.decoder) }
  else if key = "engine" then
    if d.engine.isSome then .repeated
    else .field do return { d with engine := some (← Decoder.string) }
  else .unknown

/-- The summary with all its fields. -/
def build (d : Draft) : Except Mismatch SessionSummary :=
  match d.id, d.engine with
  | none, _ => .error (.missingField "id")
  | some _, none => .error (.missingField "engine")
  | some id, some engine => .ok ⟨id, engine⟩

/-- How a summary is written. -/
def shape : Shape Draft SessionSummary where
  name := "SessionSummary"
  start := {}
  member := member
  build := build
  inOrder := do
    let id ← Decoder.fieldInOrder "SessionSummary" 0 2 SessionId.decoder
    let engine ← Decoder.fieldInOrder "SessionSummary" 1 2 Decoder.string
    pure ⟨id, engine⟩

/-- A summary. -/
def decoder : Decoder SessionSummary :=
  Decoder.record shape

/-- A summary as it is written. -/
def toValue (s : SessionSummary) : Value :=
  .object [("id", .number s.id.value), ("engine", .string s.engine)]

end SessionSummary

namespace Listing

/-- What to do with a member of a listing. -/
def member (d : Option (List SessionSummary)) (key : String) :
    Member (Option (List SessionSummary)) :=
  if key = "sessions" then
    if d.isSome then .repeated
    else .field do return some (← Decoder.list SessionSummary.decoder)
  else .unknown

/-- The listing with its field. -/
def build (d : Option (List SessionSummary)) : Except Mismatch Listing :=
  match d with
  | none => .error (.missingField "sessions")
  | some sessions => .ok ⟨sessions⟩

/-- How a listing is written. -/
def shape : Shape (Option (List SessionSummary)) Listing where
  name := "SessionList"
  start := none
  member := member
  build := build
  inOrder := do
    return ⟨← Decoder.fieldInOrder "SessionList" 0 1 (Decoder.list SessionSummary.decoder)⟩

/-- A listing. -/
def decoder : Decoder Listing :=
  Decoder.record shape

/-- Reads a document that is a listing. -/
def decode (document : List UInt8) : Except Malformed Listing :=
  decoder.run document

/-! ## Writing -/

/-- A listing as it is written. -/
def toValue (l : Listing) : Value :=
  .object [("sessions", .list (l.sessions.map SessionSummary.toValue))]

/-- The indented text of a listing. -/
def text (l : Listing) : String :=
  String.ofList l.toValue.indented

end Listing

end RemoteConsole
