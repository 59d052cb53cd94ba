import RemoteConsole.Statement.Blocks
import RemoteConsole.Statement.Lexeme

/-!
# The scanner

The scanner takes a buffer line by line. Physical lines joined by brackets,
literals or backslashes form one logical line; when it ends, its last token, its
colon, its indentation and its place among the outermost statements are checked.

* `Logical` — the logical line being read.
* `TopLevel` — what is known of the statement at the outermost level.
* `Scanner.scanLine` — one physical line; `Scanner.scanLines` — several.
* `Scanner.isOpen` — whether the logical line goes on on the next physical line.
-/

namespace RemoteConsole.Statement

/-- How the end of the text is understood. -/
inductive Mode where
  /-- The end of the text closes every open block. -/
  | source
  /-- A compound statement ends with a blank line, and a buffer holds one
  statement. -/
  | interactive
  deriving DecidableEq, Repr

instance : Inhabited Mode := ⟨.interactive⟩

/-- The class of the last lexeme on a logical line. -/
inductive Token where
  | value | operator | opening | colon | separator
  deriving DecidableEq, Repr

/-- A logical line: physical lines joined by brackets, literals or
backslashes. -/
structure Logical where
  /-- The physical line it starts on. -/
  line : Nat
  /-- The physical line of its last token. -/
  endLine : Nat
  /-- Its indentation width. -/
  indent : Nat
  /-- What it starts with. -/
  opening : Opening := .other
  /-- Its last token so far. -/
  last : Option Token := none
  /-- Whether it has a colon outside brackets. -/
  topColon : Bool := false
  deriving DecidableEq, Repr

/-- Appends a token; the first one decides what the line opens with. -/
def Logical.add (l : Logical) (line : Nat) (token : Token) (opening : Opening) : Logical :=
  { l with
    opening := if l.last.isNone then opening else l.opening
    last := some token
    endLine := line }

/-! ## The outermost level -/

/-- What is known of the logical lines at indentation zero. -/
structure TopLevel where
  /-- What the last of them opened with. -/
  previous : Option Opening := none
  /-- Whether the first of them began a compound statement. -/
  compound : Bool := false
  deriving DecidableEq, Repr

namespace TopLevel

/-- Whether a line continues the statement above it: a clause of a compound
statement, or what a decorator stands before. -/
def continues (compound : Bool) (previous opening : Opening) : Bool :=
  match opening with
  | .keyword k => compound && k.isClause || decide (previous = .decorator) && k.isDecorated
  | .decorator => decide (previous = .decorator)
  | .other => false

/-- Takes in a logical line at indentation zero. -/
def accept (mode : Mode) (t : TopLevel) (opening : Opening) (isHeader : Bool) (line : Nat) :
    Except SyntaxError TopLevel :=
  match t.previous with
  | none => .ok ⟨some opening, isHeader || opening.opensBlock⟩
  | some previous =>
    -- only an interactive buffer is held to one statement
    if mode = .interactive ∧ continues t.compound previous opening = false then
      .error ⟨.multipleStatements, line⟩
    else .ok { t with previous := some opening }

/-- Whether a decorator still waits for what it decorates. -/
def awaitsDecorated (t : TopLevel) : Bool :=
  decide (t.previous = some .decorator)

end TopLevel

/-! ## State of the scanner -/

/-- All that the scanner knows after some lines. -/
structure Scanner where
  /-- The open brackets with their lines, innermost first. -/
  brackets : List (Bracket × Nat) := []
  /-- The string literal carried over from the last line. -/
  literal : Option Literal := none
  /-- Whether the last line ended in a backslash. -/
  continued : Bool := false
  /-- The logical line being read. -/
  logical : Option Logical := none
  /-- The open blocks. -/
  blocks : Blocks := {}
  /-- The outermost level. -/
  top : TopLevel := {}
  deriving DecidableEq, Repr

namespace Scanner

/-- Whether the logical line goes on on the next physical line. -/
def isOpen (s : Scanner) : Bool :=
  s.literal.isSome || s.continued || !s.brackets.isEmpty

/-- Appends a token to the logical line. -/
def add (s : Scanner) (line : Nat) (token : Token) (opening : Opening) : Scanner :=
  { s with logical := s.logical.map fun l => l.add line token opening }

/-- Takes in a closing bracket. -/
def closeBracket (s : Scanner) (line : Nat) (close : Bracket) : Except SyntaxError Scanner :=
  match s.brackets with
  | [] => .error ⟨.unmatched close, line⟩
  | (opened, openLine) :: outer =>
    -- what stands in brackets is a value to what follows it
    if opened = close then .ok ({ s with brackets := outer }.add line .value .other)
    else .error ⟨.mismatched close opened openLine, line⟩

/-- Takes in a colon, which counts for its statement when it stands outside
brackets. -/
def addColon (s : Scanner) (line : Nat) : Scanner :=
  let s := s.add line .colon .other
  if s.brackets.isEmpty then
    { s with logical := s.logical.map fun l => { l with topColon := true } }
  else s

/-- Takes in one lexeme. -/
def absorb (line : Nat) (s : Scanner) : Lexeme → Except SyntaxError Scanner
  | .word text =>
    .ok (s.add line (if canEndStatement text then .value else .operator) (.ofWord text))
  | .value => .ok (s.add line .value .other)
  -- an at sign by itself is a decorator only where a line starts
  | .operator lone => .ok (s.add line .operator (if lone then .decorator else .other))
  | .opening b => .ok ({ s with brackets := (b, line) :: s.brackets }.add line .opening .other)
  | .closing b => s.closeBracket line b
  | .colon => .ok (s.addColon line)
  | .separator => .ok (s.add line .separator .other)
  | .openLiteral lit => .ok { s.add line .value .other with literal := some lit }
  | .continuation => .ok { s with continued := true }
  | .failure cause => .error ⟨cause, line⟩

/-! ## The end of a logical line -/

/-- Checks a logical line by itself: it does not stop at an operator, a final
colon belongs to a word that heads a block, and a word that asks for a colon has
one. The answer is the header that the line is, if it is one. -/
def checkShape (l : Logical) : Except SyntaxError (Option Header) :=
  match l.last with
  | some .operator => .error ⟨.invalidSyntax, l.endLine⟩
  | some .colon =>
    match l.opening with
    | .keyword k =>
      -- the last colon may stand inside brackets, which asks for another one
      if l.topColon = false ∧ k.needsColon then .error ⟨.expectedColon, l.endLine⟩
      else .ok (some ⟨l.line, k⟩)
    | _ => .error ⟨.invalidSyntax, l.endLine⟩
  | _ =>
    if l.topColon = false ∧ l.opening.needsColon then .error ⟨.expectedColon, l.endLine⟩
    else .ok none

/-- Takes a logical line with at least one token into the block structure and
the outermost level. -/
def settle (mode : Mode) (s : Scanner) (l : Logical) : Except SyntaxError Scanner :=
  match checkShape l with
  | .error e => .error e
  | .ok header =>
    match s.blocks.accept l.indent l.line with
    | .error e => .error e
    | .ok blocks =>
      -- the line has its own place before it asks for a block
      let blocks := match header with
        | some h => blocks.await h
        | none => blocks
      if l.indent = 0 then
        match s.top.accept mode l.opening header.isSome l.line with
        | .error e => .error e
        | .ok top => .ok { s with logical := none, blocks := blocks, top := top }
      else .ok { s with logical := none, blocks := blocks }

/-- Ends the logical line. -/
def finishLogical (mode : Mode) (s : Scanner) : Except SyntaxError Scanner :=
  match s.logical with
  | none => .ok s
  -- a line of backslashes alone has no tokens and leaves no trace
  | some l => if l.last.isNone then .ok { s with logical := none } else s.settle mode l

/-! ## Physical lines -/

/-- Takes in the code of a line, and ends the logical line unless something
holds it open. -/
def scanCode (mode : Mode) (s : Scanner) (line : Nat) (code : List Char) :
    Except SyntaxError Scanner :=
  match (lexemes line code).foldlM (absorb line) s with
  | .error e => .error e
  | .ok s => if s.isOpen then .ok s else s.finishLogical mode

/-- Whether there is nothing but a comment after a line's indentation. -/
def isIdle (code : List Char) : Bool :=
  code.head?.all (· == '#')

/-- Takes in a line at whose start no logical line is open. -/
def startLine (mode : Mode) (s : Scanner) (line : Nat) (text : List Char) :
    Except SyntaxError Scanner :=
  let (indent, code) := indentation text
  if isIdle code then .ok s
  else
    scanCode mode { s with logical := some { line := line, endLine := line, indent := indent } }
      line code

/-- Takes in a line that goes on with an open logical line. -/
def continueLine (mode : Mode) (s : Scanner) (line : Nat) (text : List Char) :
    Except SyntaxError Scanner :=
  match s.literal with
  | none => scanCode mode { s with continued := false } line text
  | some lit =>
    match lit.close text with
    | .closed rest => scanCode mode { s with continued := false, literal := none } line rest
    | .carried => .ok { s with continued := false }
    | .unterminated => .error ⟨.unterminatedLiteral line, lit.line⟩

/-- Takes in one physical line. -/
def scanLine (mode : Mode) (s : Scanner) (line : Nat) (text : List Char) :
    Except SyntaxError Scanner :=
  match s.logical with
  | none => s.startLine mode line text
  | some _ => s.continueLine mode line text

/-- Takes in physical lines, the first of which has the given number. -/
def scanLines (mode : Mode) (s : Scanner) (line : Nat) :
    List (List Char) → Except SyntaxError Scanner
  | [] => .ok s
  | text :: rest =>
    match s.scanLine mode line text with
    | .error e => .error e
    | .ok s => scanLines mode s (line + 1) rest

/-- Lines scanned in two parts are scanned one after the other. -/
theorem scanLines_append (mode : Mode) (s : Scanner) (line : Nat) (a b : List (List Char)) :
    s.scanLines mode line (a ++ b) =
      (s.scanLines mode line a).bind fun s => s.scanLines mode (line + a.length) b := by
  induction a generalizing s line with
  | nil => rfl
  | cons text rest ih =>
    simp only [List.cons_append, scanLines]
    split
    · rfl
    · rw [ih, List.length_cons, Nat.add_assoc, Nat.add_comm 1]

end Scanner

end RemoteConsole.Statement
