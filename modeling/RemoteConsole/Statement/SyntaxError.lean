import RemoteConsole.Statement.Keyword
import RemoteConsole.Text.Hex

/-!
# Syntax errors

Why a buffer can never become a statement, and the line that shows it. A cause
names what is wrong; its wording is in `SyntaxError.message` alone.

* `Bracket` — the three kinds of brackets.
* `Header` — a line that ends in a colon and waits for its block.
* `SyntaxError` — a cause at a line, `SyntaxError.message` its description and
  `SyntaxError.display` the description with the line.
-/

namespace RemoteConsole.Statement

/-- The kinds of brackets. -/
inductive Bracket where
  | round | square | curly
  deriving DecidableEq, Repr

namespace Bracket

/-- The character that opens a bracket. -/
def openChar : Bracket → Char
  | round => '('
  | square => '['
  | curly => '{'

/-- The character that closes a bracket. -/
def closeChar : Bracket → Char
  | round => ')'
  | square => ']'
  | curly => '}'

/-- The bracket that a character opens. -/
def ofOpen? : Char → Option Bracket
  | '(' => some round
  | '[' => some square
  | '{' => some curly
  | _ => none

/-- The bracket that a character closes. -/
def ofClose? : Char → Option Bracket
  | ')' => some round
  | ']' => some square
  | '}' => some curly
  | _ => none

/-- A bracket is read back from its opening character. -/
@[simp] theorem ofOpen?_openChar (b : Bracket) : ofOpen? b.openChar = some b := by
  cases b <;> rfl

/-- A bracket is read back from its closing character. -/
@[simp] theorem ofClose?_closeChar (b : Bracket) : ofClose? b.closeChar = some b := by
  cases b <;> rfl

end Bracket

/-- A line that ends in a colon and needs an indented block below it. -/
structure Header where
  /-- The line of the header within the buffer. -/
  line : Nat
  /-- The word that the header starts with. -/
  keyword : Keyword
  deriving DecidableEq, Repr

/-- A header in words. -/
def Header.describe (h : Header) : String :=
  match h.keyword with
  | .defWord => "function definition on line " ++ toString h.line
  | .classWord => "class definition on line " ++ toString h.line
  | k => "'" ++ k.text ++ "' statement on line " ++ toString h.line

/-- What is wrong with a buffer. -/
inductive Cause where
  /-- The statement cannot be continued to a valid one. -/
  | invalidSyntax
  /-- A character beyond ASCII that belongs to no word. -/
  | invalidCharacter (c : Char)
  /-- A backslash that is not the last character of its line. -/
  | afterContinuation
  /-- A closing bracket where none is open. -/
  | unmatched (close : Bracket)
  /-- A closing bracket of another kind than the innermost open one. -/
  | mismatched (close opened : Bracket) (openLine : Nat)
  /-- A string literal that ends neither on its line nor at a backslash. -/
  | unterminatedLiteral (detectedAt : Nat)
  /-- A statement whose word asks for a colon and has none. -/
  | expectedColon
  /-- A header without an indented line below it. -/
  | expectedBlock (header : Header)
  /-- A line indented deeper than the one above for no reason. -/
  | unexpectedIndent
  /-- A line that returns to an indentation that no open block has. -/
  | inconsistentDedent
  /-- A second statement at the outermost level. -/
  | multipleStatements
  deriving DecidableEq, Repr

/-- A syntax error found before anything is sent. -/
structure SyntaxError where
  /-- What is wrong. -/
  cause : Cause
  /-- The line within the buffer, counted from one. -/
  line : Nat
  deriving DecidableEq, Repr

namespace SyntaxError

/-- The description of a syntax error. -/
def message (e : SyntaxError) : String :=
  match e.cause with
  | .invalidSyntax => "invalid syntax"
  | .invalidCharacter c =>
    "invalid character '" ++ String.singleton c ++ "' (U+" ++ String.ofList (Hex.upper 4 c.toNat)
      ++ ")"
  | .afterContinuation => "unexpected character after line continuation character"
  | .unmatched close => "unmatched '" ++ String.singleton close.closeChar ++ "'"
  | .mismatched close opened openLine =>
    "closing parenthesis '" ++ String.singleton close.closeChar
      ++ "' does not match opening parenthesis '" ++ String.singleton opened.openChar ++ "'"
      ++ (if openLine = e.line then "" else " on line " ++ toString openLine)
  | .unterminatedLiteral detectedAt =>
    "unterminated string literal (detected at line " ++ toString detectedAt ++ ")"
  | .expectedColon => "expected ':'"
  | .expectedBlock header => "expected an indented block after " ++ header.describe
  | .unexpectedIndent => "unexpected indent"
  | .inconsistentDedent => "unindent does not match any outer indentation level"
  | .multipleStatements => "multiple statements found while compiling a single statement"

/-- The description together with the line. -/
def display (e : SyntaxError) : String :=
  e.message ++ " (line " ++ toString e.line ++ ")"

end SyntaxError

end RemoteConsole.Statement
