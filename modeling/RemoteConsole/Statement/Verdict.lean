import RemoteConsole.Statement.Scanner
import RemoteConsole.Text.Blank
import RemoteConsole.Text.Lines

/-!
# The verdict on a buffer

A buffer is complete when it can be sent as it stands, incomplete when at least
one more line is needed, and invalid when no further line can help.

* `classify` — the verdict on a text.
-/

namespace RemoteConsole.Statement

/-- What is known of a buffer. -/
inductive Verdict where
  /-- Ready to be evaluated. -/
  | complete
  /-- Needs at least one more line. -/
  | incomplete
  /-- No further line can make it valid. -/
  | invalid (e : SyntaxError)
  deriving DecidableEq, Repr

/-- Whether a buffer ends in a line without content. -/
def endsBlank (physical : List (List Char)) : Bool :=
  Blank.isBlankText (physical.getLast?.getD [])

/-- The verdict at the end of a buffer of `count` lines. A header or a decorator
that still waits is an error once a blank line has ended the statement. -/
def Scanner.verdict (mode : Mode) (s : Scanner) (count : Nat) (blankEnd : Bool) : Verdict :=
  if s.isOpen then .incomplete
  else
    match s.blocks.header with
    -- a blank line says that no block will come
    | some header =>
      if mode = .interactive ∧ blankEnd then .invalid ⟨.expectedBlock header, count⟩
      else .incomplete
    | none =>
      if s.top.awaitsDecorated then
        if mode = .interactive ∧ blankEnd then .invalid ⟨.invalidSyntax, count⟩ else .incomplete
      -- a compound statement could go on with another clause
      else if mode = .interactive ∧ s.top.compound ∧ blankEnd = false then .incomplete
      else .complete

/-- The verdict on physical lines. -/
def classifyLines (mode : Mode) (physical : List (List Char)) : Verdict :=
  match Scanner.scanLines mode {} 1 physical with
  | .error e => .invalid e
  | .ok s => s.verdict mode physical.length (endsBlank physical)

/-- The verdict on a text. -/
def classify (mode : Mode) (text : List Char) : Verdict :=
  classifyLines mode ((Lines.split text).map Lines.dropReturn)

end RemoteConsole.Statement
