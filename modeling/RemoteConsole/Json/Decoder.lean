import RemoteConsole.Json.Fault

/-!
# Decoders

A decoder reads a value from the front of a document and leaves the bytes behind
it. It stops at the first fault.

* `Decoder` — a reader of bytes that may fail; `fail`, `failAhead` and
  `mismatch` are its faults, at the place reached, one byte further on, and
  without a place.
* `placed` — gives a fault without a place the place reached.
* `within` — reads what stands between two brackets; the closing one is looked
  for even after a fault, which moves the place of a fault that has none yet.
* `Decoder.run` — reads a whole document.
-/

namespace RemoteConsole.Json

/-- A reader of a value at the front of a document. -/
abbrev Decoder (α : Type) := StateT (List UInt8) (Except Fault) α

namespace Decoder

/-- A fault at the place reached. -/
def fail {α : Type} (p : Problem) : Decoder α := fun rest =>
  .error ⟨p, some rest, rest⟩

/-- A fault at the byte that would be read next. -/
def failAhead {α : Type} (p : Problem) : Decoder α := fun rest =>
  .error ⟨p, some (rest.drop 1), rest⟩

/-- A value of the wrong shape, whose place is found later. -/
def mismatch {α : Type} (m : Mismatch) : Decoder α := fun rest =>
  .error ⟨.mismatch m, none, rest⟩

/-- The byte that would be read next. -/
def peek : Decoder (Option UInt8) := fun rest =>
  .ok (rest.head?, rest)

/-- Goes one byte forward. -/
def advance : Decoder Unit := fun rest =>
  .ok ((), rest.drop 1)

/-- Whether a byte is white space between values. -/
def isSpace (b : UInt8) : Bool :=
  b == ' '.toUInt8 || b == '\n'.toUInt8 || b == '\t'.toUInt8 || b == '\r'.toUInt8

/-- Skips white space. -/
def skipSpace : Decoder Unit := fun rest =>
  .ok ((), rest.dropWhile isSpace)

/-- The byte that starts what comes next. -/
def token : Decoder (Option UInt8) := do
  skipSpace
  peek

/-- Gives a fault without a place the place reached. -/
def placed {α : Type} (d : Decoder α) : Decoder α := fun rest =>
  match d rest with
  | .ok result => .ok result
  | .error f => .error { f with place := some (f.place.getD f.rest) }

/-- Reads a body and then its end. After a fault in the body the end is still
looked for. -/
def within {α : Type} (close : Decoder Unit) (body : Decoder α) : Decoder α := fun rest =>
  match body rest with
  | .ok (a, rest) =>
    match close rest with
    | .ok (_, rest) => .ok (a, rest)
    | .error f => .error f
  | .error f =>
    -- the end moves the place of a fault that has none of its own yet
    match close f.rest with
    | .ok (_, rest) => .error { f with rest := rest }
    | .error g => .error { f with rest := g.rest }

/-- The letters of a fixed word behind its first one. -/
def ident : List Char → Decoder Unit
  | [] => pure ()
  | c :: more => do
    match ← peek with
    | none => fail .eofValue
    | some b =>
      advance
      if b == c.toUInt8 then ident more else fail .expectedIdent

/-- Nothing but white space is left. -/
def finish : Decoder Unit := do
  match ← token with
  | none => pure ()
  | some _ => failAhead .trailingCharacters

/-- Reads a whole document. -/
def run {α : Type} (d : Decoder α) (document : List UInt8) : Except Malformed α :=
  match (do let a ← d; finish; pure a : Decoder α) document with
  | .ok (a, _) => .ok a
  | .error f => .error (f.within document)

end Decoder

end RemoteConsole.Json
