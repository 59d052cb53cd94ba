import RemoteConsole.Json.Number
import RemoteConsole.Json.Text

/-!
# Primitive values

Decoders for the values without parts. One that finds something else reads it,
as far as it has no parts, and reports both.

* `Decoder.found`, `Decoder.unexpected` — what stands at the front, and the
  report on it.
* `Decoder.natural`, `Decoder.string`, `Decoder.unit`, `Decoder.optional` — the
  values.
-/

namespace RemoteConsole.Json.Decoder

/-- What stands at the front. Lists and objects are not read. -/
def found : Decoder Found := do
  match ← peek with
  | none => failAhead .expectedValue
  | some b =>
    if b == 'n'.toUInt8 then
      advance
      ident ['u', 'l', 'l']
      pure .null
    else if b == 't'.toUInt8 then
      advance
      ident ['r', 'u', 'e']
      pure (.boolean true)
    else if b == 'f'.toUInt8 then
      advance
      ident ['a', 'l', 's', 'e']
      pure (.boolean false)
    else if b == '-'.toUInt8 then
      advance
      return (← number true).found
    else if isDigit b then
      return (← number false).found
    else if b == '"'.toUInt8 then
      advance
      return .string (← stringBody)
    else if b == '['.toUInt8 then pure .sequence
    else if b == '\x7b'.toUInt8 then pure .map
    else failAhead .expectedValue

/-- The report on a value that is not of the expected kind. -/
def unexpected {α : Type} (expected : String) : Decoder α := do
  mismatch (.type (← found) expected)

/-- The byte that a value starts with. -/
def valueStart : Decoder UInt8 := do
  match ← token with
  | none => failAhead .eofValue
  | some b => pure b

/-- A natural number of 64 bits. -/
def natural : Decoder Nat :=
  placed do
    let b ← valueStart
    if b == '-'.toUInt8 || isDigit b then
      if b == '-'.toUInt8 then advance
      match ← number (b == '-'.toUInt8) with
      | .natural n => pure n
      | .negative n => mismatch (.value (Number.negative n).found "u64")
      | .float f => mismatch (.type (Number.float f).found "u64")
    else unexpected "u64"

/-- A string. -/
def string : Decoder String :=
  placed do
    let b ← valueStart
    if b == '"'.toUInt8 then
      advance
      stringBody
    else unexpected "a string"

/-- The value `null`, which stands for nothing. -/
def unit : Decoder Unit :=
  placed do
    let b ← valueStart
    if b == 'n'.toUInt8 then
      advance
      ident ['u', 'l', 'l']
    else unexpected "unit"

/-- A value or `null`. -/
def optional {α : Type} (d : Decoder α) : Decoder (Option α) := do
  match ← token with
  | some b =>
    if b == 'n'.toUInt8 then
      advance
      ident ['u', 'l', 'l']
      pure none
    else return some (← d)
  | none => return some (← d)

end RemoteConsole.Json.Decoder
