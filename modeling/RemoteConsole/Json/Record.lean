import RemoteConsole.Json.Primitive
import RemoteConsole.Json.Skip

/-!
# Lists, records and alternatives

A record is written as an object with named members, or as a list of its fields
in order. Members of other names are skipped.

* `Decoder.list` — a list of values of one kind.
* `Shape` — how a record is put together from either form; `Decoder.record`
  reads it.
* `Decoder.alternative` — one of several names.
-/

namespace RemoteConsole.Json

namespace Decoder

/-! ## Lists -/

/-- The end of a list. -/
def endList : Decoder Unit := do
  match ← token with
  | none => failAhead .eofList
  | some b =>
    if b == ']'.toUInt8 then advance
    else if b == ','.toUInt8 then
      advance
      if (← token) == some ']'.toUInt8 then failAhead .trailingComma
      else failAhead .trailingCharacters
    else failAhead .trailingCharacters

/-- The next member of a list, `none` before its end. -/
def nextElement {α : Type} (first : Bool) (item : Decoder α) : Decoder (Option α) := do
  match ← token with
  | none => failAhead .eofList
  | some b =>
    if b == ']'.toUInt8 then pure none
    -- no comma stands before the first member
    else if first then return some (← item)
    else if b == ','.toUInt8 then
      advance
      match ← token with
      | none => failAhead .eofValue
      | some c => if c == ']'.toUInt8 then failAhead .trailingComma else return some (← item)
    else failAhead .expectedListEnd

/-- The members of a list. Every turn reads at least one byte, so that the bytes
left bound the turns. -/
def elements {α : Type} (item : Decoder α) (first : Bool) : Nat → Decoder (List α)
  | 0 => failAhead .eofList
  | fuel + 1 => do
    match ← nextElement first item with
    | none => pure []
    | some a => return a :: (← elements item false fuel)

/-- A list of values of one kind. -/
def list {α : Type} (item : Decoder α) : Decoder (List α) :=
  placed do
    let b ← valueStart
    if b == '['.toUInt8 then
      advance
      within endList fun rest => elements item true (rest.length + 1) rest
    else unexpected "a sequence"

/-! ## Objects -/

/-- The end of an object. -/
def endObject : Decoder Unit := do
  match ← token with
  | none => failAhead .eofObject
  | some b =>
    if b == '\x7d'.toUInt8 then advance
    -- after all members a comma can only be one too many
    else if b == ','.toUInt8 then failAhead .trailingComma
    else failAhead .trailingCharacters

/-- The key of the next member of an object, `none` before its end. -/
def nextKey (first : Bool) : Decoder (Option String) := do
  match ← token with
  | none => failAhead .eofObject
  | some b =>
    if b == '\x7d'.toUInt8 then pure none
    else if first then
      if b == '"'.toUInt8 then
        advance
        return some (← stringBody)
      else failAhead .keyMustBeString
    else if b == ','.toUInt8 then
      advance
      match ← token with
      | none => failAhead .eofValue
      | some c =>
        if c == '"'.toUInt8 then
          advance
          return some (← stringBody)
        else if c == '\x7d'.toUInt8 then failAhead .trailingComma
        else failAhead .keyMustBeString
    else failAhead .expectedObjectEnd

/-- The colon behind a key. -/
def colon : Decoder Unit := do
  match ← token with
  | none => failAhead .eofObject
  | some b => if b == ':'.toUInt8 then advance else failAhead .expectedColon

end Decoder

/-- What a record does with the member of a key. -/
inductive Member (σ : Type) where
  /-- The member is a field, whose value changes what is known of the record. -/
  | field (value : Decoder σ)
  /-- The field has been there before. -/
  | repeated
  /-- The key names no field. -/
  | unknown

/-- How a record is put together. -/
structure Shape (σ α : Type) where
  /-- The name of the record in reports. -/
  name : String
  /-- What is known before the first member. -/
  start : σ
  /-- What to do with the member of a key. -/
  member : σ → String → Member σ
  /-- The record, or what it lacks. -/
  build : σ → Except Mismatch α
  /-- The record from a list of its fields. -/
  inOrder : Decoder α

namespace Decoder

/-- The members of an object, as far as the record knows them. -/
def members {σ : Type} (member : σ → String → Member σ) (s : σ) (first : Bool) :
    Nat → Decoder σ
  | 0 => failAhead .eofObject
  | fuel + 1 => do
    match ← nextKey first with
    | none => pure s
    | some key =>
      match member s key with
      | .field value =>
        colon
        members member (← value) false fuel
      -- the value of a repeated field is not read
      | .repeated => mismatch (.duplicateField key)
      | .unknown =>
        colon
        skip
        members member s false fuel

/-- A record from an object. -/
def named {σ α : Type} (shape : Shape σ α) : Decoder α := fun rest =>
  (do
    let s ← members shape.member shape.start true (rest.length + 1)
    match shape.build s with
    | .ok a => pure a
    | .error m => mismatch m : Decoder α) rest

/-- A record. -/
def record {σ α : Type} (shape : Shape σ α) : Decoder α :=
  placed do
    let b ← valueStart
    if b == '['.toUInt8 then
      advance
      within endList shape.inOrder
    else if b == '\x7b'.toUInt8 then
      advance
      within endObject (named shape)
    else unexpected ("struct " ++ shape.name)

/-- A field of a record that is a list; there are `count` of them and this is
number `index`. -/
def fieldInOrder {α : Type} (name : String) (index count : Nat) (item : Decoder α) :
    Decoder α := do
  match ← nextElement (index == 0) item with
  | some a => pure a
  | none =>
    mismatch (.length index ("struct " ++ name ++ " with " ++ toString count
      ++ (if count = 1 then " element" else " elements")))

/-- A field of a record that is a list, with a value for the case that the list
is shorter. -/
def fieldInOrderD {α : Type} (fallback : α) (item : Decoder α) : Decoder α := do
  return (← nextElement false item).getD fallback

/-! ## Alternatives -/

/-- The name of an alternative. -/
def alternativeName {α : Type} (ofText? : String → Option α) (first second : String) :
    Decoder α :=
  placed do
    let name ← string
    match ofText? name with
    | some a => pure a
    | none => mismatch (.variant name first second)

/-- One of two alternatives: its name, or an object with the name as its only
key and nothing as its value. -/
def alternative {α : Type} (ofText? : String → Option α) (first second : String) :
    Decoder α := do
  let b ← valueStart
  if b == '"'.toUInt8 then alternativeName ofText? first second
  else if b == '\x7b'.toUInt8 then
    advance
    match ← token with
    | none => failAhead .eofObject
    | some key =>
      if key == '"'.toUInt8 then
        let a ← alternativeName ofText? first second
        colon
        unit
        match ← token with
        | none => fail .eofObject
        | some c =>
          if c == '\x7d'.toUInt8 then
            advance
            pure a
          else fail .expectedValue
      else if key == '\x7d'.toUInt8 then failAhead .expectedValue
      else failAhead .keyMustBeString
  else failAhead .expectedValue

end Decoder

end RemoteConsole.Json
