import RemoteConsole.Text.Utf8

/-!
# Readers

A reader takes characters from the front of a document and may refuse; after a
refusal another reader can be tried at the same place. The place is known in
bytes, because that is how reports count.

* `Cursor` — what is left of a document, and how many bytes have been read.
* `Reader` — a reader of a part of a document; `satisfy`, `exactly`, `span` and
  `many` make them.
* `spanned` — a part together with the bytes it stands on.
-/

namespace RemoteConsole.Toml

/-- A place in a document. -/
structure Cursor where
  /-- The characters not yet read. -/
  rest : List Char
  /-- The number of bytes read. -/
  offset : Nat := 0
  deriving DecidableEq, Repr

/-- A run of bytes of a document. -/
structure Span where
  /-- The number of bytes before it. -/
  start : Nat
  /-- The number of bytes before its end. -/
  stop : Nat
  deriving DecidableEq, Repr

/-- A reader of a part of a document. -/
abbrev Reader (α : Type) := StateT Cursor Option α

namespace Reader

/-- Refuses. -/
def refuse {α : Type} : Reader α := fun _ =>
  none

/-- The character that would be read next. -/
def peek : Reader (Option Char) := fun c =>
  some (c.rest.head?, c)

/-- The place behind some characters. -/
def skipped (c : Cursor) (read rest : List Char) : Cursor :=
  ⟨rest, c.offset + (Utf8.encode read).length⟩

/-- The next character, if it satisfies a test. -/
def satisfy (p : Char → Bool) : Reader Char := fun c =>
  match c.rest with
  | [] => none
  | d :: rest => if p d then some (d, skipped c [d] rest) else none

/-- A fixed character. -/
def one (d : Char) : Reader Char :=
  satisfy (· == d)

/-- A fixed text. -/
def exactly : List Char → Reader Unit
  | [] => pure ()
  | d :: more => do
    let _ ← one d
    exactly more

/-- The characters up to the first that fails a test. -/
def span (p : Char → Bool) : Reader (List Char) := fun c =>
  some (c.rest.takeWhile p, skipped c (c.rest.takeWhile p) (c.rest.dropWhile p))

/-- A part, if it is there. -/
def optional {α : Type} (r : Reader α) : Reader (Option α) := fun c =>
  match r c with
  | some (a, c) => some (some a, c)
  | none => some (none, c)

/-- Nothing is left. -/
def finish : Reader Unit := fun c =>
  if c.rest.isEmpty then some ((), c) else none

/-- A part as often as it is there, at most so many times. -/
def upTo {α : Type} (r : Reader α) : Nat → Reader (List α)
  | 0 => pure []
  | fuel + 1 => do
    match ← optional r with
    | none => pure []
    | some a => return a :: (← upTo r fuel)

/-- A part as often as it is there. A part takes at least one character, so that
the characters left bound the number. -/
def many {α : Type} (r : Reader α) : Reader (List α) := fun c =>
  upTo r (c.rest.length + 1) c

/-- A part with the bytes it stands on. -/
def spanned {α : Type} (r : Reader α) : Reader (α × Span) := fun c =>
  match r c with
  | some (a, c') => some ((a, ⟨c.offset, c'.offset⟩), c')
  | none => none

/-! ## Blanks, line ends and comments -/

/-- Whether a character is a blank within a line. -/
def isBlank (c : Char) : Bool :=
  c == ' ' || c == '\t'

/-- Blanks within a line. -/
def blanks : Reader Unit := do
  let _ ← span isBlank
  pure ()

/-- A line feed, with a carriage return before it or not. -/
def lineEnd : Reader Unit :=
  exactly ['\n'] <|> exactly ['\r', '\n']

/-- Whether a character may stand in a comment. -/
def inComment (c : Char) : Bool :=
  c == '\t' || (' ' ≤ c && c != '\x7f')

/-- A comment. -/
def comment : Reader Unit := do
  let _ ← one '#'
  let _ ← span inComment
  pure ()

/-- The rest of a line behind its content. -/
def lineRest : Reader Unit := do
  blanks
  let _ ← optional comment
  lineEnd <|> finish

/-- One blank, line end or comment between the items of a list. -/
def gap : Reader Unit :=
  (do let _ ← satisfy isBlank; pure ()) <|> lineEnd <|> comment

/-- Blanks, line ends and comments between the items of a list. -/
def gaps : Reader Unit := do
  let _ ← many gap
  pure ()

end Reader

end RemoteConsole.Toml
