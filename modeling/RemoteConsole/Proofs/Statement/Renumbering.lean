import RemoteConsole.Proofs.Statement.LogicalLine

/-!
# Renumbered lines

The scanner takes down the numbers of lines and names them in its faults, but it
never reckons with them. Nor does it look at the open blocks or at the outermost
level before a logical line ends. So a line that is read elsewhere, under
another number and below other statements, is read in the same way, and
everything that is taken down of it is renumbered.

* `Lexeme.renumber`, `SyntaxError.renumber`, `Logical.renumber` — the same with
  other numbers.
* `lexemes_renumber` — the lexemes of a renumbered line.
* `Scanner.elsewhere`, `Scanner.absorbLine_elsewhere` — a line that is read
  elsewhere.
-/

namespace RemoteConsole.Statement

variable (f : Nat → Nat)

/-- A literal that starts on another line. -/
def Literal.renumber (lit : Literal) : Literal :=
  { lit with line := f lit.line }

/-- A header on another line. -/
def Header.renumber (header : Header) : Header :=
  { header with line := f header.line }

/-- A cause with all line numbers in it replaced. -/
def Cause.renumber : Cause → Cause
  | mismatched close opened openLine => mismatched close opened (f openLine)
  | unterminatedLiteral detectedAt => unterminatedLiteral (f detectedAt)
  | expectedBlock header => expectedBlock (header.renumber f)
  | cause => cause

/-- A fault on another line, with the lines that its cause names. -/
def SyntaxError.renumber (e : SyntaxError) : SyntaxError :=
  ⟨e.cause.renumber f, f e.line⟩

/-- What becomes of a result elsewhere: another value, or the same fault with
other line numbers. -/
def landed {α : Type} (g : α → α) : Except SyntaxError α → Except SyntaxError α
  | .error e => .error (e.renumber f)
  | .ok a => .ok (g a)

/-- A lexeme with another line in it: only a literal that goes on and a fault
hold one. -/
def Lexeme.renumber : Lexeme → Lexeme
  | openLiteral lit => openLiteral (lit.renumber f)
  | failure cause => failure (cause.renumber f)
  | x => x

/-- A logical line that starts and ends elsewhere. -/
def Logical.renumber (l : Logical) : Logical :=
  { l with line := f l.line, endLine := f l.endLine }

/-- The indentation of a logical line is a width and stays, as do its first
word, its last token and its colon. -/
@[simp] theorem Logical.indent_renumber (l : Logical) : (l.renumber f).indent = l.indent := rfl

@[simp] theorem Logical.opening_renumber (l : Logical) : (l.renumber f).opening = l.opening := rfl

@[simp] theorem Logical.last_renumber (l : Logical) : (l.renumber f).last = l.last := rfl

@[simp] theorem Logical.topColon_renumber (l : Logical) :
    (l.renumber f).topColon = l.topColon := rfl

/-! ## Lexemes -/

/-- Where a literal ends has nothing to do with the line it starts on. -/
theorem Literal.close_renumber (lit : Literal) (text : List Char) :
    (lit.renumber f).close text = lit.close text := by
  fun_induction close lit text with
  | case1 hTriple | case2 hTriple => simp [close, renumber, hTriple]
  | case3 => rw [close]
  | case4 c rest ih => rw [close, ih]
  -- a quote or another character is judged by the same tests
  | case5 | case6 | case7 | case8 => simp_all [close, renumber]

namespace Lexeme

variable (line : Nat)

/-- A literal on another line is read with its lines renumbered. It holds its
line when it goes on below. -/
theorem readLiteral_renumber (q : Quote) (rest : List Char) :
    readLiteral (f line) q rest =
      ((readLiteral line q rest).1.renumber f, (readLiteral line q rest).2) := by
  unfold readLiteral
  dsimp only
  have hClose := Literal.close_renumber f ⟨q, [q.char, q.char].isPrefixOf rest, line⟩
    (if [q.char, q.char].isPrefixOf rest then rest.drop 2 else rest)
  rw [Literal.renumber] at hClose
  rw [hClose]
  split <;> rfl

/-- So is a word, which may mark a literal. -/
theorem readWord_renumber (c : Char) (rest : List Char) :
    readWord (f line) c rest = ((readWord line c rest).1.renumber f, (readWord line c rest).2) := by
  unfold readWord
  dsimp only
  split
  · rfl
  · split
    · split
      · exact readLiteral_renumber f line _ _
      · rfl
    · rfl

/-- What reads no line number gives a lexeme that holds none; among what starts
with no quote and no bracket, only a word can, by the literal behind it. -/
theorem readPlain_renumber (c : Char) (rest : List Char) :
    readPlain (f line) c rest =
      ((readPlain line c rest).1.renumber f, (readPlain line c rest).2) := by
  unfold readPlain
  -- the tests of the reader look at the character only
  split
  · unfold readBackslash
    split <;> rfl
  split
  · unfold readColon
    split <;> rfl
  split
  · rfl
  split
  · unfold readPoint
    split
    · rfl
    · split <;> rfl
    · rfl
  split
  · rfl
  split
  · exact readWord_renumber f line c rest
  split
  · rfl
  split <;> rfl

/-- Every lexeme on another line is read with its lines renumbered. -/
theorem read_renumber (c : Char) (rest : List Char) :
    read (f line) c rest = ((read line c rest).1.renumber f, (read line c rest).2) := by
  unfold read
  split
  · exact readLiteral_renumber f line _ rest
  · rfl
  · rfl
  · exact readPlain_renumber f line c rest

end Lexeme

/-- The lexemes of a line on another line are those of the line, renumbered.
What is left of the line behind a lexeme is the same, so the induction is along
the line. -/
theorem lexemes_renumber (line : Nat) (text : List Char) :
    lexemes (f line) text = (lexemes line text).map (Lexeme.renumber f) := by
  fun_induction lexemes line text with
  | case1 => rw [lexemes_nil, List.map_nil]
  | case2 c rest hGap ih => rw [lexemes_gap hGap, ih]
  | case3 rest => rw [lexemes_comment, List.map_nil]
  | case4 c rest hGap hComment ih =>
    rw [lexemes_cons (by simpa using hGap) hComment, Lexeme.read_renumber, ih, List.map_cons]

/-! ## Lines -/

namespace Scanner

/-- The scanner elsewhere: with other line numbers, other open blocks and
another outermost level. -/
def elsewhere (blocks : Blocks) (top : TopLevel) (s : Scanner) : Scanner where
  brackets := s.brackets.map fun b => (b.1, f b.2)
  literal := s.literal.map (Literal.renumber f)
  continued := s.continued
  logical := s.logical.map (Logical.renumber f)
  blocks := blocks
  top := top

variable (blocks : Blocks) (top : TopLevel)

/-- Whether something is open does not depend on where it was opened. -/
@[simp] theorem isOpen_elsewhere (s : Scanner) : (s.elsewhere f blocks top).isOpen = s.isOpen := by
  simp [isOpen, elsewhere]

/-- A token joins its logical line elsewhere as it does here. -/
theorem add_elsewhere (s : Scanner) (line : Nat) (token : Token) (opening : Opening) :
    (s.elsewhere f blocks top).add (f line) token opening =
      (s.add line token opening).elsewhere f blocks top := by
  obtain ⟨brackets, literal, continued, logical, _, _⟩ := s
  cases logical <;> rfl

/-- A bracket closes its partner elsewhere, or it is refused with the partner's
line renumbered. -/
theorem closeBracket_elsewhere (s : Scanner) (line : Nat) (close : Bracket) :
    (s.elsewhere f blocks top).closeBracket (f line) close =
      landed f (elsewhere f blocks top) (s.closeBracket line close) := by
  obtain ⟨brackets, literal, continued, logical, _, _⟩ := s
  cases brackets with
  | nil => rfl
  | cons inner outer =>
    -- the brackets have to match, whatever their lines are
    by_cases hSame : inner.1 = close
    · simp only [closeBracket, elsewhere, List.map_cons, hSame, if_true]
      exact congrArg Except.ok
        (add_elsewhere f blocks top ⟨outer, literal, continued, logical, _, _⟩ line .value .other)
    · simp only [closeBracket, elsewhere, List.map_cons, hSame, if_false]
      rfl

/-- A colon is taken down elsewhere as it is here. -/
theorem addColon_elsewhere (s : Scanner) (line : Nat) :
    (s.elsewhere f blocks top).addColon (f line) =
      (s.addColon line).elsewhere f blocks top := by
  obtain ⟨brackets, literal, continued, logical, _, _⟩ := s
  cases brackets <;> cases logical <;> rfl

/-- A lexeme is taken in elsewhere as it is here. The cases are the lexemes;
blocks and the outermost level are touched by none of them. -/
theorem absorb_elsewhere (line : Nat) (s : Scanner) (x : Lexeme) :
    absorb (f line) (s.elsewhere f blocks top) (x.renumber f) =
      landed f (elsewhere f blocks top) (absorb line s x) := by
  unfold absorb Lexeme.renumber
  cases x with
  | closing b => exact closeBracket_elsewhere f blocks top s line b
  | colon => exact congrArg Except.ok (addColon_elsewhere f blocks top s line)
  | continuation | failure => rfl
  | opening b =>
    exact congrArg Except.ok
      (add_elsewhere f blocks top { s with brackets := (b, line) :: s.brackets } line .opening .other)
  -- the literal is noted with its line, which is renumbered with it
  | openLiteral lit =>
    dsimp only
    rw [add_elsewhere]
    rfl
  | word | value | operator | separator =>
    exact congrArg Except.ok (add_elsewhere f blocks top s line _ _)

/-- So are all lexemes of a line, up to the first that is refused. -/
theorem foldlM_absorb_elsewhere (line : Nat) (s : Scanner) (xs : List Lexeme) :
    (xs.map (Lexeme.renumber f)).foldlM (absorb (f line)) (s.elsewhere f blocks top) =
      landed f (elsewhere f blocks top) (xs.foldlM (absorb line) s) := by
  induction xs generalizing s with
  | nil => rfl
  | cons x rest ih =>
    rw [List.map_cons, List.foldlM_cons, List.foldlM_cons, absorb_elsewhere]
    cases absorb line s x with
    | error e => rfl
    | ok next => exact ih next

/-- So is the code of a line. -/
theorem absorbCode_elsewhere (line : Nat) (s : Scanner) (code : List Char) :
    (s.elsewhere f blocks top).absorbCode (f line) code =
      landed f (elsewhere f blocks top) (s.absorbCode line code) := by
  unfold absorbCode
  rw [lexemes_renumber, foldlM_absorb_elsewhere]

/-- A line that is read elsewhere is read in the same way, up to the point where
its logical line may end. -/
theorem absorbLine_elsewhere (line : Nat) (s : Scanner) (text : List Char) :
    (s.elsewhere f blocks top).absorbLine (f line) text =
      landed f (elsewhere f blocks top) (s.absorbLine line text) := by
  obtain ⟨brackets, literal, continued, logical, _, _⟩ := s
  unfold absorbLine
  cases logical with
  | none =>
    dsimp only [elsewhere, Option.map_none]
    split
    · rfl
    -- the logical line that starts here, which is renumbered with it
    · let l : Logical := { line := line, endLine := line, indent := (indentation text).1 }
      exact absorbCode_elsewhere f blocks top line
        ⟨brackets, literal, continued, some l, _, _⟩ (indentation text).2
  | some l =>
    cases literal with
    | none =>
      exact absorbCode_elsewhere f blocks top line ⟨brackets, none, false, some l, _, _⟩ text
    | some lit =>
      -- within a literal the line starts with the rest of it
      dsimp only [elsewhere, Option.map_some]
      rw [Literal.close_renumber]
      cases lit.close text with
      | closed rest =>
        exact absorbCode_elsewhere f blocks top line ⟨brackets, none, false, some l, _, _⟩ rest
      | carried => rfl
      | unterminated => rfl

/-- A colon is missing elsewhere exactly if it is missing here. -/
theorem ite_expectedColon_renumber (missing : Prop) [Decidable missing] (line : Nat)
    (header : Option Header) :
    (if missing then .error ⟨.expectedColon, f line⟩ else .ok (header.map (Header.renumber f))) =
      landed f (Option.map (Header.renumber f))
        (if missing then .error ⟨.expectedColon, line⟩ else .ok header) := by
  split <;> rfl

/-- The shape of a logical line is judged without its line numbers. -/
theorem checkShape_renumber (l : Logical) :
    checkShape (l.renumber f) = landed f (Option.map (Header.renumber f)) (checkShape l) := by
  unfold checkShape
  simp only [Logical.last_renumber, Logical.topColon_renumber, Logical.opening_renumber]
  -- the fault, if there is one, is on the last line of the logical line
  cases l.last with
  | none => exact ite_expectedColon_renumber f _ l.endLine none
  | some token =>
    cases token with
    | operator => rfl
    | colon =>
      dsimp only
      cases l.opening with
      | keyword k => exact ite_expectedColon_renumber f _ l.endLine (some ⟨l.line, k⟩)
      | decorator | other => rfl
    | value | opening | separator => exact ite_expectedColon_renumber f _ l.endLine none

end Scanner

end RemoteConsole.Statement
