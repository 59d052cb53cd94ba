import RemoteConsole.Statement.SyntaxError

/-!
# Block structure

Indentation groups lines into blocks. A header must be followed by a deeper
line, any other line must stand at the level of an open block, and a line that
returns to an outer level closes the blocks inside it.

* `Blocks` — the levels of the open blocks, and the header that still waits for
  its block.
* `Blocks.accept` — takes one logical line into the structure, or says why it
  does not fit.
* `indentation` — the width of a line's blanks and what follows them.
-/

namespace RemoteConsole.Statement

/-- The open blocks. -/
structure Blocks where
  /-- Their indentation widths, innermost first. -/
  levels : List Nat := [0]
  /-- The header whose block has not begun. -/
  header : Option Header := none
  deriving DecidableEq, Repr

namespace Blocks

/-- The width of the innermost block. -/
def innermost (b : Blocks) : Nat :=
  b.levels.headD 0

/-- The blocks that stay open at an indentation width. -/
def closeDeeper (levels : List Nat) (indent : Nat) : List Nat :=
  levels.dropWhile (indent < ·)

/-- Takes in a logical line with an indentation width that starts at `line`. -/
def accept (b : Blocks) (indent line : Nat) : Except SyntaxError Blocks :=
  match b.header with
  | some header =>
    -- a header takes any deeper line, which sets the level of its block
    if b.innermost < indent then .ok ⟨indent :: b.levels, none⟩
    else .error ⟨.expectedBlock header, line⟩
  | none =>
    if b.innermost < indent then .error ⟨.unexpectedIndent, line⟩
    -- after all deeper blocks are closed the level has to be one that is open
    else if (closeDeeper b.levels indent).headD 0 = indent then
      .ok ⟨closeDeeper b.levels indent, none⟩
    else .error ⟨.inconsistentDedent, line⟩

/-- Makes the line just taken in a header that waits for its block. -/
def await (b : Blocks) (header : Header) : Blocks :=
  { b with header := some header }

end Blocks

/-- The indentation width reached after the blanks of a line, and what follows
them. A tab goes on to the next multiple of eight, and a form feed starts again
at zero. -/
def indentationFrom (width : Nat) : List Char → Nat × List Char
  | ' ' :: rest => indentationFrom (width + 1) rest
  | '\t' :: rest => indentationFrom ((width / 8 + 1) * 8) rest
  | '\x0c' :: rest => indentationFrom 0 rest
  | rest => (width, rest)

/-- The indentation width of a line and what follows its blanks. -/
def indentation (text : List Char) : Nat × List Char :=
  indentationFrom 0 text

end RemoteConsole.Statement
