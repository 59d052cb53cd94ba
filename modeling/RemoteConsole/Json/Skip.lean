import RemoteConsole.Json.Number
import RemoteConsole.Json.Text

/-!
# Values that are skipped

A value that nobody asks for is read as far as it takes to find its end. Numbers
may be of any size and strings may hold any bytes and any escaped codes.

* `Frame` — the lists and objects around the place reached.
* `Decoder.skip` — skips one value.
-/

namespace RemoteConsole.Json

/-- What a value stands in. -/
inductive Frame where
  | list | object
  deriving DecidableEq, Repr

/-- The byte that ends a frame. -/
def Frame.closer : Frame → UInt8
  | list => ']'.toUInt8
  | object => '\x7d'.toUInt8

/-- The problem of a document that ends within a frame. -/
def Frame.eof : Frame → Problem
  | list => .eofList
  | object => .eofObject

/-- The problem of a member that is followed by neither a comma nor the end. -/
def Frame.expectedEnd : Frame → Problem
  | list => .expectedListEnd
  | object => .expectedObjectEnd

namespace Text

/-- What follows a string that is skipped, behind its opening mark. -/
def skip (bytes : List UInt8) : Except Fault (List UInt8) :=
  match bytes with
  | [] => fault .eofString []
  | b :: rest =>
    if b == '"'.toUInt8 then .ok rest
    else if b == '\\'.toUInt8 then
      match rest with
      | [] => fault .eofString []
      | e :: rest =>
        if (letter? e).isSome then skip rest
        else if e == 'u'.toUInt8 then
          match _h : hex rest with
          | .ok (_, rest') => skip rest'
          | .error f => .error f
        else fault .invalidEscape rest
    else if b < 0x20 then fault .controlCharacter (b :: rest)
    else skip rest
termination_by bytes.length
decreasing_by
  · simp only [List.length_cons]
    omega
  · have := length_hex _h
    simp only [List.length_cons]
    omega
  · simp only [List.length_cons]
    omega

end Text

namespace Decoder

/-- Skips a string behind its opening mark. -/
def skipString : Decoder Unit := fun rest =>
  match Text.skip rest with
  | .ok rest => .ok ((), rest)
  | .error f => .error f

/-- Skips an exponent, from its mark on. -/
def skipExponent : Decoder Unit := do
  advance
  let sign ← peek
  if sign == some '+'.toUInt8 || sign == some '-'.toUInt8 then advance
  match ← peek with
  | none => fail .invalidNumber
  | some b =>
    if isDigit b then
      let _ ← digits
      pure ()
    else
      advance
      fail .invalidNumber

/-- Skips a fraction, from its point on. -/
def skipFraction : Decoder Unit := do
  advance
  if (← digits).isEmpty then failAhead .invalidNumber
  else if isExponentMark (← peek) then skipExponent

/-- Skips what follows the integer part of a number. -/
def skipAfterInteger : Decoder Unit := do
  let next ← peek
  if next == some '.'.toUInt8 then skipFraction
  else if isExponentMark next then skipExponent

/-- Skips a number behind its minus sign, if it has one. -/
def skipNumber : Decoder Unit := do
  match ← peek with
  | none => fail .invalidNumber
  | some b =>
    if b == '0'.toUInt8 then
      advance
      match ← peek with
      | some d => if isDigit d then failAhead .invalidNumber else skipAfterInteger
      | none => pure ()
    else if isDigit b then
      let _ ← digits
      skipAfterInteger
    else
      advance
      fail .invalidNumber

/-- Skips a value without parts, or enters a list or an object. -/
def skipStart : Decoder (Option Frame) := do
  match ← token with
  | none => failAhead .eofValue
  | some b =>
    if b == 'n'.toUInt8 then
      advance
      ident ['u', 'l', 'l']
      pure none
    else if b == 't'.toUInt8 then
      advance
      ident ['r', 'u', 'e']
      pure none
    else if b == 'f'.toUInt8 then
      advance
      ident ['a', 'l', 's', 'e']
      pure none
    else if b == '-'.toUInt8 then
      advance
      skipNumber
      pure none
    else if isDigit b then
      skipNumber
      pure none
    else if b == '"'.toUInt8 then
      advance
      skipString
      pure none
    else if b == '['.toUInt8 then
      advance
      pure (some .list)
    else if b == '\x7b'.toUInt8 then
      advance
      pure (some .object)
    else failAhead .expectedValue

/-- Leaves the frames that end here. A comma is taken only behind a member. The
answer is the frames around the next member. -/
def skipEnds (behindMember : Bool) : List Frame → Decoder (List Frame)
  | [] => pure []
  | frame :: outer => do
    match ← token with
    | none => failAhead frame.eof
    | some b =>
      -- behind a comma another member has to come, which the next turn reads
      if b == ','.toUInt8 && behindMember then
        advance
        pure (frame :: outer)
      else if b == frame.closer then
        advance
        skipEnds true outer
      else if behindMember then failAhead frame.expectedEnd
      else pure (frame :: outer)

/-- Skips a key and its colon. -/
def skipKey : Decoder Unit := do
  match ← token with
  | none => failAhead .eofObject
  | some b =>
    if b == '"'.toUInt8 then
      advance
      skipString
      match ← token with
      | none => failAhead .eofObject
      | some c => if c == ':'.toUInt8 then advance else failAhead .expectedColon
    else failAhead .keyMustBeString

/-- Skips a value inside frames and all that follows it up to their end. Every
turn reads at least one byte, so that the bytes left bound the turns. -/
def skipWithin (frames : List Frame) : Nat → Decoder Unit
  | 0 => failAhead .eofValue
  | fuel + 1 => do
    let frames ← match ← skipStart with
      | some frame => skipEnds false (frame :: frames)
      | none => skipEnds true frames
    match frames with
    | [] => pure ()
    | .list :: _ => skipWithin frames fuel
    | .object :: _ =>
      skipKey
      skipWithin frames fuel

/-- Skips one value. -/
def skip : Decoder Unit := fun rest =>
  skipWithin [] (rest.length + 1) rest

end Decoder

end RemoteConsole.Json
