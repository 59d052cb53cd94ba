import RemoteConsole.Statement.Verdict

/-!
# The line buffer

Lines are collected until they form a statement. Each line is kept without the
line break it was typed with.

* `Buffer.push` — appends a line; `Buffer.verdict` is the verdict on the whole.
* `Buffer.text` — the lines with line feeds between them.
* `Buffer.take` — the text, and an empty buffer.
-/

namespace RemoteConsole.Statement

/-- Lines that do not form a finished statement yet. -/
structure Buffer where
  /-- How the verdict on the lines is reached. -/
  mode : Mode
  /-- The lines, first one first. -/
  lines : List (List Char) := []
  deriving DecidableEq, Repr

namespace Buffer

/-- Whether a character belongs to a line break. -/
def isLineBreak (c : Char) : Bool :=
  c == '\r' || c == '\n'

/-- A typed line without its line break. -/
def stripBreak (line : List Char) : List Char :=
  Blank.dropEndWhile isLineBreak line

/-- Appends one line. -/
def push (b : Buffer) (line : List Char) : Buffer :=
  { b with lines := b.lines ++ [stripBreak line] }

/-- The lines joined by line feeds. -/
def text (b : Buffer) : List Char :=
  List.intercalate ['\n'] b.lines

/-- The verdict on the lines. -/
def verdict (b : Buffer) : Verdict :=
  classify b.mode b.text

/-- The number of lines. -/
def size (b : Buffer) : Nat :=
  b.lines.length

/-- Whether there is no line. -/
def isEmpty (b : Buffer) : Bool :=
  b.lines.isEmpty

/-- The buffer without its lines. -/
def clear (b : Buffer) : Buffer :=
  { b with lines := [] }

/-- The text of the buffer, and the buffer without it. -/
def take (b : Buffer) : List Char × Buffer :=
  (b.text, b.clear)

end Buffer

end RemoteConsole.Statement
