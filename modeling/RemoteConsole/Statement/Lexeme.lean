import RemoteConsole.Statement.Literal
import RemoteConsole.Statement.SyntaxError

/-!
# Lexemes of a line

A physical line, read from left to right, is a run of lexemes with blanks
between them; a number sign starts a comment that goes to the end of the line.
The three last kinds of lexeme take all that is left of their line.

* `Lexeme` — words, values, operators, brackets, colons, separators, and the
  three that end a line.
* `Lexeme.read` — the first lexeme of a text that starts with no blank, and what
  follows it.
* `lexemes` — all lexemes of a text; `lexemes_gap`, `lexemes_comment` and
  `lexemes_cons` say what it does with a blank, with a comment and with a
  lexeme.
-/

namespace RemoteConsole.Statement

/-- The smallest units of a statement. -/
inductive Lexeme where
  /-- An identifier or a reserved word. -/
  | word (text : List Char)
  /-- A number, an ellipsis or a string literal that ends on this line. -/
  | value
  /-- A run of operator signs or a point; `lone` for an at sign by itself. -/
  | operator (lone : Bool)
  /-- An opening bracket. -/
  | opening (b : Bracket)
  /-- A closing bracket. -/
  | closing (b : Bracket)
  /-- A colon. -/
  | colon
  /-- A comma or a semicolon. -/
  | separator
  /-- A string literal that goes on on the next line. -/
  | openLiteral (lit : Literal)
  /-- A backslash at the end of the line. -/
  | continuation
  /-- Text that belongs to no lexeme. -/
  | failure (cause : Cause)
  deriving DecidableEq, Repr

/-- The signs that operators are made of. -/
def operatorSigns : List Char :=
  ['+', '-', '*', '/', '%', '=', '<', '>', '!', '&', '|', '^', '~', '@']

/-- Whether a character is an operator sign. -/
def isOperatorSign (c : Char) : Bool :=
  operatorSigns.contains c

/-- Whether a character only separates lexemes: space, tab or form feed. -/
def isGap (c : Char) : Bool :=
  c == ' ' || c == '\t' || c == '\x0c'

namespace Lexeme

/-- The string literal whose opening quote has just been read. -/
def readLiteral (line : Nat) (quote : Quote) (rest : List Char) : Lexeme × List Char :=
  let triple := [quote.char, quote.char].isPrefixOf rest
  let lit : Literal := ⟨quote, triple, line⟩
  -- the other two opening quotes are not text of the literal
  match lit.close (if triple then rest.drop 2 else rest) with
  | .closed rest' => (value, rest')
  | .carried => (openLiteral lit, [])
  | .unterminated => (failure (.unterminatedLiteral line), [])

/-- The word that starts with `c`, or the literal that it marks. -/
def readWord (line : Nat) (c : Char) (rest : List Char) : Lexeme × List Char :=
  let text := c :: rest.takeWhile continuesWord
  match rest.dropWhile continuesWord with
  | [] => (word text, [])
  | d :: rest' =>
    match Quote.ofChar? d with
    | some q => if isLiteralMark text then readLiteral line q rest' else (word text, d :: rest')
    | none => (word text, d :: rest')

/-- What a point starts: an ellipsis, a number or an operator. -/
def readPoint (rest : List Char) : Lexeme × List Char :=
  match rest with
  -- three points are one value
  | '.' :: '.' :: rest' => (value, rest')
  | d :: rest' =>
    if d.isDigit then (value, rest'.dropWhile continuesNumber) else (operator false, d :: rest')
  | [] => (operator false, [])

/-- What a colon starts: an assignment sign or a colon by itself. -/
def readColon (rest : List Char) : Lexeme × List Char :=
  match rest with
  | '=' :: rest' => (operator false, rest')
  | _ => (colon, rest)

/-- What a backslash starts: nothing may follow it on its line. -/
def readBackslash (rest : List Char) : Lexeme × List Char :=
  if rest.isEmpty then (continuation, []) else (failure .afterContinuation, [])

/-- The operator that starts with the sign `c`. -/
def readOperator (c : Char) (rest : List Char) : Lexeme × List Char :=
  -- operators are not told apart, so the longest run is one lexeme
  (operator (c == '@' && (rest.takeWhile isOperatorSign).isEmpty), rest.dropWhile isOperatorSign)

/-- The lexeme that starts with a character which belongs to no bracket and no
literal. -/
def readPlain (line : Nat) (c : Char) (rest : List Char) : Lexeme × List Char :=
  if c = '\\' then readBackslash rest
  else if c = ':' then readColon rest
  else if c = ',' ∨ c = ';' then (separator, rest)
  else if c = '.' then readPoint rest
  else if c.isDigit then (value, rest.dropWhile continuesNumber)
  else if startsWord c then readWord line c rest
  else if isOperatorSign c then readOperator c rest
  -- a sign of ASCII without a meaning is no invalid character, only out of
  -- place
  else if c.toNat < 128 then (failure .invalidSyntax, [])
  else (failure (.invalidCharacter c), [])

/-- The lexeme that starts with `c`, and what follows it on the line. -/
def read (line : Nat) (c : Char) (rest : List Char) : Lexeme × List Char :=
  match Quote.ofChar? c, Bracket.ofOpen? c, Bracket.ofClose? c with
  | some q, _, _ => readLiteral line q rest
  | _, some b, _ => (opening b, rest)
  | _, _, some b => (closing b, rest)
  | _, _, _ => readPlain line c rest

/-! ## Reading goes forward -/

/-- What is left after dropping a run of characters is no longer than before. -/
theorem length_dropWhile_le (p : Char → Bool) (cs : List Char) :
    (cs.dropWhile p).length ≤ cs.length :=
  (List.dropWhile_sublist p).length_le

theorem length_readLiteral (line : Nat) (q : Quote) (rest : List Char) :
    (readLiteral line q rest).2.length ≤ rest.length := by
  unfold readLiteral
  simp only
  split
  · next h =>
    have := Literal.close_length_lt h
    split at this <;> simp at this ⊢ <;> omega
  · simp
  · simp

theorem length_readWord (line : Nat) (c : Char) (rest : List Char) :
    (readWord line c rest).2.length ≤ rest.length := by
  have hle := length_dropWhile_le continuesWord rest
  unfold readWord
  simp only
  split
  · simp
  · next d rest' h =>
    rw [h, List.length_cons] at hle
    split
    · split
      · exact Nat.le_trans (length_readLiteral line _ rest') (by omega)
      · simpa using hle
    · simpa using hle

theorem length_readPoint (rest : List Char) : (readPoint rest).2.length ≤ rest.length := by
  unfold readPoint
  split
  · simp; omega
  · next d rest' _ =>
    split
    · exact Nat.le_trans (length_dropWhile_le _ _) (by simp)
    · simp
  · simp

theorem length_readColon (rest : List Char) : (readColon rest).2.length ≤ rest.length := by
  unfold readColon
  split <;> simp

theorem length_readBackslash (rest : List Char) :
    (readBackslash rest).2.length ≤ rest.length := by
  unfold readBackslash
  split <;> simp

theorem length_readPlain (line : Nat) (c : Char) (rest : List Char) :
    (readPlain line c rest).2.length ≤ rest.length := by
  unfold readPlain
  split
  · exact length_readBackslash rest
  split
  · exact length_readColon rest
  split
  · exact Nat.le_refl _
  split
  · exact length_readPoint rest
  split
  · exact length_dropWhile_le _ _
  split
  · exact length_readWord line c rest
  split
  · exact length_dropWhile_le _ _
  split <;> simp

/-- A lexeme leaves no more than what follows its first character. -/
theorem length_read (line : Nat) (c : Char) (rest : List Char) :
    (read line c rest).2.length ≤ rest.length := by
  unfold read
  split
  · exact length_readLiteral line _ rest
  · exact Nat.le_refl _
  · exact Nat.le_refl _
  · exact length_readPlain line c rest

end Lexeme

/-! ## All lexemes of a text -/

/-- The lexemes of a text on a line, up to its end or a comment. -/
def lexemes (line : Nat) (text : List Char) : List Lexeme :=
  match text with
  | [] => []
  | c :: rest =>
    if isGap c then lexemes line rest
    else if c = '#' then []
    else (Lexeme.read line c rest).1 :: lexemes line (Lexeme.read line c rest).2
termination_by text.length
decreasing_by
  · simp only [List.length_cons]
    omega
  · have := Lexeme.length_read line c rest
    simp only [List.length_cons]
    omega

@[simp] theorem lexemes_nil (line : Nat) : lexemes line [] = [] := by
  rw [lexemes]

/-- A blank between lexemes leaves no trace. -/
theorem lexemes_gap {line : Nat} {c : Char} {rest : List Char} (h : isGap c) :
    lexemes line (c :: rest) = lexemes line rest := by
  rw [lexemes, if_pos h]

/-- A comment leaves no trace. -/
@[simp] theorem lexemes_comment (line : Nat) (rest : List Char) :
    lexemes line ('#' :: rest) = [] := by
  rw [lexemes, if_neg (by decide), if_pos rfl]

/-- Any other character starts a lexeme. -/
theorem lexemes_cons {line : Nat} {c : Char} {rest : List Char} (hg : isGap c = false)
    (hc : c ≠ '#') :
    lexemes line (c :: rest) =
      (Lexeme.read line c rest).1 :: lexemes line (Lexeme.read line c rest).2 := by
  rw [lexemes, if_neg (by simp [hg]), if_neg hc]

end RemoteConsole.Statement
