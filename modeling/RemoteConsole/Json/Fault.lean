import RemoteConsole.Mismatch

/-!
# Faults of a JSON document

A fault says what is wrong and where. While a document is read a place is the
bytes that are left behind it; `Position` turns it into a line and a column of
the whole document.

* `Problem` — what is wrong with a document, with `Problem.message`.
* `Fault` — a problem during reading.
* `Malformed` — a problem of a whole document, with `Malformed.message`.
-/

namespace RemoteConsole.Json

/-- What is wrong with a document. -/
inductive Problem where
  | eofList | eofObject | eofString | eofValue
  | expectedColon | expectedListEnd | expectedObjectEnd | expectedIdent | expectedValue
  | invalidEscape | invalidNumber | numberOutOfRange | invalidCodePoint
  | controlCharacter | keyMustBeString | loneSurrogate | unexpectedEndOfHex
  | trailingComma | trailingCharacters
  /-- The document is well formed here and has the wrong shape. -/
  | mismatch (m : Mismatch)
  deriving DecidableEq, Repr

/-- A problem in words. -/
def Problem.message : Problem → String
  | eofList => "EOF while parsing a list"
  | eofObject => "EOF while parsing an object"
  | eofString => "EOF while parsing a string"
  | eofValue => "EOF while parsing a value"
  | expectedColon => "expected " ++ ticked ":"
  | expectedListEnd => "expected " ++ ticked "," ++ " or " ++ ticked "]"
  | expectedObjectEnd => "expected " ++ ticked "," ++ " or " ++ ticked "\x7d"
  | expectedIdent => "expected ident"
  | expectedValue => "expected value"
  | invalidEscape => "invalid escape"
  | invalidNumber => "invalid number"
  | numberOutOfRange => "number out of range"
  | invalidCodePoint => "invalid unicode code point"
  | controlCharacter => "control character (\\u0000-\\u001F) found while parsing a string"
  | keyMustBeString => "key must be a string"
  | loneSurrogate => "lone leading surrogate in hex escape"
  | unexpectedEndOfHex => "unexpected end of hex escape"
  | trailingComma => "trailing comma"
  | trailingCharacters => "trailing characters"
  | mismatch m => m.message

/-- A problem met while reading. -/
structure Fault where
  /-- What is wrong. -/
  problem : Problem
  /-- The bytes behind the place that the report names; `none` until a place is
  known. -/
  place : Option (List UInt8)
  /-- The bytes not yet read. -/
  rest : List UInt8
  deriving DecidableEq, Repr

/-- A line, counted from one, and the number of bytes before a place on it. -/
structure Position where
  line : Nat
  column : Nat
  deriving DecidableEq, Repr

/-- The code of a line feed. -/
def lineFeed : UInt8 := 10

/-- The position behind the bytes already read. -/
def Position.after (read : List UInt8) : Position :=
  { line := read.count lineFeed + 1
    column := (read.reverse.takeWhile (· != lineFeed)).length }

/-- A document that is not what is asked for. -/
structure Malformed where
  /-- What is wrong. -/
  problem : Problem
  /-- Where, if that is known. -/
  position : Option Position
  deriving DecidableEq, Repr

/-- The fault as a report on the whole document. -/
def Fault.within (f : Fault) (document : List UInt8) : Malformed :=
  { problem := f.problem
    position := f.place.map fun left =>
      .after (document.take (document.length - left.length)) }

/-- The report on a document. -/
def Malformed.message (m : Malformed) : String :=
  match m.position with
  | none => m.problem.message
  | some p =>
    m.problem.message ++ " at line " ++ toString p.line ++ " column " ++ toString p.column

end RemoteConsole.Json
