import RemoteConsole.Text.Hex
import RemoteConsole.Toml.Reader

/-!
# Strings

There are four forms: in quotation marks with escapes, in apostrophes without,
and both in triples, which may go over several lines. A line end in a string is
a line feed, however it is written.

* `Reader.basic`, `Reader.literal` — a string on one line.
* `Reader.text` — a string in any form.
-/

namespace RemoteConsole.Toml.Reader

/-- Whether a character may stand in a string: no controls but the tab. -/
def inText (c : Char) : Bool :=
  c == '\t' || (' ' ≤ c && c != '\x7f')

/-- So many hexadecimal digits as a character. -/
def code (n : Nat) : Reader Char := fun c =>
  let digits := c.rest.take n
  if digits.length = n then
    match Hex.number? (digits.map Char.toNat) with
    | some code =>
      if code.isValidChar then
        some (Char.ofNat code, skipped c digits (c.rest.drop n))
      else none
    | none => none
  else none

/-- An escape, behind its backslash. -/
def escapeBody : Reader Char := do
  match ← satisfy fun _ => true with
  | 'b' => pure '\x08'
  | 't' => pure '\t'
  | 'n' => pure '\n'
  | 'f' => pure '\x0c'
  | 'r' => pure '\r'
  | '"' => pure '"'
  | '\\' => pure '\\'
  | 'u' => code 4
  | 'U' => code 8
  | _ => refuse

/-- An escape. -/
def escape : Reader Char := do
  let _ ← one '\\'
  escapeBody

/-- A string in quotation marks. -/
def basic : Reader (List Char) := do
  let _ ← one '"'
  let text ← many (satisfy (fun c => inText c && c != '"' && c != '\\') <|> escape)
  let _ ← one '"'
  pure text

/-- A string in apostrophes. -/
def literal : Reader (List Char) := do
  let _ ← one '\''
  let text ← span fun c => inText c && c != '\''
  let _ ← one '\''
  pure text

/-- A line end as it counts in a string. -/
def textLineEnd : Reader (List Char) := do
  lineEnd
  pure ['\n']

/-- A backslash at the end of a line, which takes all blanks and line ends
behind it with it. -/
def lineEndEscape : Reader (List Char) := do
  let _ ← one '\\'
  blanks
  lineEnd
  let _ ← many ((do let _ ← satisfy isBlank; pure ()) <|> lineEnd)
  pure []

/-- One piece of a string in triple quotation marks, other than a mark. -/
def basicPiece : Reader (List Char) :=
  (do return [← satisfy fun c => inText c && c != '"' && c != '\\'])
    <|> lineEndEscape <|> (do return [← escape]) <|> textLineEnd

/-- One piece of a string in triple apostrophes, other than an apostrophe. -/
def literalPiece : Reader (List Char) :=
  (do return [← satisfy fun c => inText c && c != '\'']) <|> textLineEnd

/-- One or two marks that do not end a string in triple marks. -/
def innerMarks (mark : Char) : Reader (List Char) := fun c =>
  let marks := c.rest.takeWhile (· == mark)
  if marks.length = 1 ∨ marks.length = 2 then
    some (marks, skipped c marks (c.rest.drop marks.length))
  else none

/-- The marks that end a string in triple marks; up to two more belong to the
string. -/
def lastMarks (mark : Char) : Reader (List Char) := fun c =>
  let marks := c.rest.takeWhile (· == mark)
  if 3 ≤ marks.length ∧ marks.length ≤ 5 then
    some (marks.drop 3, skipped c marks (c.rest.drop marks.length))
  else none

/-- A string in triple marks. -/
def tripled (mark : Char) (piece : Reader (List Char)) : Reader (List Char) := do
  exactly [mark, mark, mark]
  -- a line end right behind the opening marks is no text of the string
  let _ ← optional lineEnd
  let pieces ← many (piece <|> innerMarks mark)
  let last ← lastMarks mark
  pure (pieces.flatten ++ last)

/-- A string. -/
def text : Reader (List Char) :=
  tripled '"' basicPiece <|> basic <|> tripled '\'' literalPiece <|> literal

end RemoteConsole.Toml.Reader
