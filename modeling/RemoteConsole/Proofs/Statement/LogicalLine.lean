import RemoteConsole.Proofs.Statement.PhysicalLine

/-!
# Logical lines

A physical line is taken in by halves. Its lexemes go on with the logical line,
whatever the end of a text means; then the logical line ends, unless something
holds it open. Only the second half looks at blocks and at the outermost level,
and it looks at little of the logical line: where it starts, how far it is
indented and what it opens with. All of that is settled by the first lexeme.

* `Scanner.scanLine_eq` — a physical line is taken in by halves.
* `Scanner.Extends` — what lexemes leave alone.
* `Scanner.exists_grows_of_absorbLine` — what a line leaves alone of a logical
  line that is open.
-/

namespace RemoteConsole.Statement

namespace Scanner

/-! ## The two halves of a physical line -/

/-- Takes in code up to the point where the logical line may end. -/
def absorbCode (s : Scanner) (line : Nat) (code : List Char) : Except SyntaxError Scanner :=
  (lexemes line code).foldlM (absorb line) s

/-- Takes in a physical line up to the point where the logical line may end. -/
def absorbLine (s : Scanner) (line : Nat) (text : List Char) : Except SyntaxError Scanner :=
  match s.logical with
  | none =>
    let (indent, code) := indentation text
    if isIdle code then .ok s
    else
      absorbCode { s with logical := some { line := line, endLine := line, indent := indent } }
        line code
  | some _ =>
    match s.literal with
    | none => absorbCode { s with continued := false } line text
    | some lit =>
      match lit.close text with
      | .closed rest => absorbCode { s with continued := false, literal := none } line rest
      | .carried => .ok { s with continued := false }
      | .unterminated => .error ⟨.unterminatedLiteral line, lit.line⟩

/-- Ends the logical line unless something holds it open. -/
def endLine (mode : Mode) (s : Scanner) : Except SyntaxError Scanner :=
  if s.isOpen then .ok s else s.finishLogical mode

/-- Code is taken in by halves. The mode decides about the second half alone, so
that what is proved of lexemes is proved for both modes at once. -/
theorem scanCode_eq (mode : Mode) (s : Scanner) (line : Nat) (code : List Char) :
    s.scanCode mode line code = (s.absorbCode line code).bind (endLine mode) := by
  unfold scanCode absorbCode
  cases (lexemes line code).foldlM (absorb line) s with
  | error e => rfl
  | ok next => rfl

/-- A physical line is taken in by halves: first its characters, up to where the
logical line may end, and then that end if nothing holds it open. -/
theorem scanLine_eq (mode : Mode) (s : Scanner) (line : Nat) (text : List Char) :
    s.scanLine mode line text = (s.absorbLine line text).bind (endLine mode) := by
  obtain ⟨brackets, literal, continued, logical, blocks, top⟩ := s
  unfold scanLine absorbLine
  cases logical with
  | none =>
    unfold startLine
    dsimp only
    split
    · -- a line without code ends nothing, since nothing has begun
      exact (ite_self _).symm
    · exact scanCode_eq ..
  | some l =>
    unfold continueLine
    cases literal with
    | none => exact scanCode_eq ..
    | some lit =>
      dsimp only
      cases lit.close text with
      | closed rest => exact scanCode_eq ..
      | carried =>
        -- the literal that is carried over holds the line open
        have hEnd : endLine mode ⟨brackets, some lit, false, some l, blocks, top⟩ = .ok _ := if_pos rfl
        exact hEnd.symm
      | unterminated => rfl

/-- A fault that is found within a line is the same in both modes: the mode is
not looked at before the line has been taken in. -/
theorem scanLine_of_absorbLine_error {mode : Mode} {s : Scanner} {line : Nat} {text : List Char}
    {e : SyntaxError} (h : s.absorbLine line text = .error e) :
    s.scanLine mode line text = .error e := by
  rw [scanLine_eq, h]
  rfl

/-- Once a line has been taken in, all that is left of it is the question
whether its logical line ends here. -/
theorem scanLine_of_absorbLine {s next : Scanner} {line : Nat} {text : List Char}
    (h : s.absorbLine line text = .ok next) (mode : Mode) :
    s.scanLine mode line text = next.endLine mode := by
  rw [scanLine_eq, h]
  rfl

/-- A line that has been taken in altogether has passed both halves. This is the
way into the halves for everything that is proved of lines that succeed. -/
theorem exists_absorbLine_of_scanLine {mode : Mode} {s s' : Scanner} {line : Nat} {text : List Char}
    (h : s.scanLine mode line text = .ok s') :
    ∃ read, s.absorbLine line text = .ok read ∧ read.endLine mode = .ok s' := by
  rw [scanLine_eq] at h
  cases hAbsorb : s.absorbLine line text with
  | error e =>
    rw [hAbsorb] at h
    cases h
  | ok read =>
    rw [hAbsorb] at h
    exact ⟨read, rfl, h⟩

end Scanner

/-! ## What lexemes leave alone -/

/-- Tokens on a physical line go on with a logical line: it starts where it did,
and it opens with what it did once it has a token. -/
structure Logical.Grows (line : Nat) (l l' : Logical) : Prop where
  line_eq : l'.line = l.line
  indent_eq : l'.indent = l.indent
  endLine_eq : l'.endLine = l.endLine ∨ l'.endLine = line
  opening_eq : l.last.isSome = true → l'.last.isSome = true ∧ l'.opening = l.opening

namespace Logical

theorem Grows.refl (line : Nat) (l : Logical) : Grows line l l :=
  ⟨rfl, rfl, .inl rfl, fun h => ⟨h, rfl⟩⟩

/-- Growing is transitive, so that what one lexeme leaves alone is left alone by
all lexemes of a line. The opening is kept only once there is a token, and the
first token is never taken back. -/
theorem Grows.trans {line : Nat} {l₁ l₂ l₃ : Logical} (h : Grows line l₁ l₂)
    (h' : Grows line l₂ l₃) : Grows line l₁ l₃ where
  line_eq := h'.line_eq.trans h.line_eq
  indent_eq := h'.indent_eq.trans h.indent_eq
  endLine_eq := by
    -- the last token decides: either it stands on this line, or nothing has
    -- moved the end
    rcases h'.endLine_eq with hEnd | hEnd
    · rw [hEnd]
      exact h.endLine_eq
    · exact .inr hEnd
  opening_eq hToken := by
    obtain ⟨hNext, hOpening⟩ := h.opening_eq hToken
    obtain ⟨hLast, hOpening'⟩ := h'.opening_eq hNext
    exact ⟨hLast, hOpening'.trans hOpening⟩

/-- One more token changes the line on which the logical line ends, and what it
opens with if it is the first one. -/
theorem grows_add (l : Logical) (line : Nat) (token : Token) (opening : Opening) :
    Grows line l (l.add line token opening) where
  line_eq := rfl
  indent_eq := rfl
  endLine_eq := .inr rfl
  opening_eq hToken := by
    obtain ⟨t, ht⟩ := Option.isSome_iff_exists.mp hToken
    simp [add, ht]

end Logical

namespace Scanner

/-- What lexemes on a physical line leave alone: blocks and outermost level
altogether, and of the logical line what `Logical.Grows` says. -/
structure Extends (line : Nat) (s s' : Scanner) : Prop where
  blocks_eq : s'.blocks = s.blocks
  top_eq : s'.top = s.top
  logical : Option.Rel (Logical.Grows line) s.logical s'.logical

variable {line : Nat}

/-- A scanner that has the same logical line, blocks and outermost level extends
the other one, whatever it holds of brackets, literals and backslashes. -/
theorem Extends.of_logical_eq {s s' : Scanner} (hBlocks : s'.blocks = s.blocks)
    (hTop : s'.top = s.top) (hLogical : s'.logical = s.logical) : Extends line s s' where
  blocks_eq := hBlocks
  top_eq := hTop
  logical := by
    rw [hLogical]
    cases s.logical with
    | none => exact .none
    | some l => exact .some (.refl line l)

/-- Brackets, literal and backslash do not matter. -/
theorem Extends.of_eq {s s₁ s' : Scanner} (h : Extends line s₁ s') (hBlocks : s₁.blocks = s.blocks)
    (hTop : s₁.top = s.top) (hLogical : s₁.logical = s.logical) : Extends line s s' where
  blocks_eq := h.blocks_eq.trans hBlocks
  top_eq := h.top_eq.trans hTop
  logical := hLogical ▸ h.logical

/-- Extending is transitive, which makes it an invariant of the fold over the
lexemes of a line. -/
theorem Extends.trans {s₁ s₂ s₃ : Scanner} (h : Extends line s₁ s₂) (h' : Extends line s₂ s₃) :
    Extends line s₁ s₃ where
  blocks_eq := h'.blocks_eq.trans h.blocks_eq
  top_eq := h'.top_eq.trans h.top_eq
  logical := by
    have hFirst := h.logical
    have hSecond := h'.logical
    generalize s₁.logical = first at hFirst ⊢
    generalize s₂.logical = middle at hFirst hSecond
    generalize s₃.logical = last at hSecond ⊢
    -- there is a logical line in all three scanners or in none
    cases hFirst with
    | none => exact hSecond
    | some hGrows =>
      cases hSecond with
      | some hGrows' => exact .some (hGrows.trans hGrows')

/-- What is known of a logical line behind some lexemes goes back to the one in
front of them. -/
theorem Extends.exists_grows {s s' : Scanner} (h : Extends line s s') {l' : Logical}
    (hl' : l' ∈ s'.logical) : ∃ l ∈ s.logical, l.Grows line l' := by
  have hRel := h.logical
  generalize s.logical = before at hRel ⊢
  generalize s'.logical = after at hRel hl'
  cases hRel with
  | none => cases hl'
  | some hGrows => exact ⟨_, rfl, Option.some.inj hl' ▸ hGrows⟩

/-- A logical line in front of some lexemes is still there behind them: no
lexeme ends it, only the end of a line does. -/
theorem Extends.exists_grows_right {s s' : Scanner} (h : Extends line s s') {l : Logical}
    (hl : l ∈ s.logical) : ∃ l' ∈ s'.logical, l.Grows line l' := by
  have hRel := h.logical
  generalize s.logical = before at hRel hl
  generalize s'.logical = after at hRel ⊢
  cases hRel with
  | none => cases hl
  | some hGrows => exact ⟨_, rfl, Option.some.inj hl ▸ hGrows⟩

/-- A change of the logical line alone extends the scanner if it lets every
logical line grow. -/
theorem extends_map {s : Scanner} {f : Logical → Logical} (h : ∀ l, Logical.Grows line l (f l)) :
    Option.Rel (Logical.Grows line) s.logical (s.logical.map f) := by
  cases s.logical with
  | none => exact .none
  | some l => exact .some (h l)

theorem extends_add (s : Scanner) (token : Token) (opening : Opening) :
    Extends line s (s.add line token opening) :=
  ⟨rfl, rfl, extends_map fun l => l.grows_add line token opening⟩

/-- A colon is a token like any other. That it may be the one that ends a header
is noted beside the token. -/
theorem extends_addColon (s : Scanner) : Extends line s (s.addColon line) := by
  have hAdd : Extends line s (s.add line .colon .other) := s.extends_add .colon .other
  unfold addColon
  dsimp only
  split
  · -- outside brackets the colon is marked as well, which moves nothing
    refine hAdd.trans ⟨rfl, rfl, extends_map fun l => ?_⟩
    exact ⟨rfl, rfl, .inl rfl, fun h => ⟨h, rfl⟩⟩
  · exact hAdd

/-- No lexeme looks at blocks or at the outermost level, and none moves the
start of a logical line. A closing bracket that matches none and a failure are
refused, so nothing is to be shown of them. -/
theorem extends_absorb {s s' : Scanner} {x : Lexeme} (h : absorb line s x = .ok s') :
    Extends line s s' := by
  unfold absorb at h
  cases x with
  | failure cause => cases h
  | closing b =>
    -- a closing bracket is a token only if it matches the bracket that was
    -- opened last
    dsimp only [closeBracket] at h
    split at h
    · cases h
    · split at h
      · rw [← Except.ok.inj h]
        exact (extends_add _ _ _).of_eq rfl rfl rfl
      · cases h
  | colon =>
    rw [← Except.ok.inj h]
    exact extends_addColon s
  | continuation =>
    rw [← Except.ok.inj h]
    exact .of_logical_eq rfl rfl rfl
  | openLiteral lit =>
    rw [← Except.ok.inj h]
    exact (extends_add ..).trans (.of_logical_eq rfl rfl rfl)
  | opening b =>
    rw [← Except.ok.inj h]
    exact (extends_add _ _ _).of_eq rfl rfl rfl
  | word | value | operator | separator =>
    rw [← Except.ok.inj h]
    exact extends_add ..

/-- The lexemes of a line together extend the scanner, by induction on the fold
over them. -/
theorem extends_absorbCode {s s' : Scanner} {code : List Char}
    (h : s.absorbCode line code = .ok s') : Extends line s s' :=
  foldlM_absorb_induction (fun _ _ _ _ hx hBefore => hBefore.trans (extends_absorb hx))
    (.of_logical_eq rfl rfl rfl) h

/-- A physical line goes on with its logical line, or with a new one that starts
on it. The second case is only where none was open. -/
theorem extends_absorbLine {s s' : Scanner} {text : List Char}
    (h : s.absorbLine line text = .ok s') :
    Extends line s s' ∨ s.logical = none ∧
      Extends line { s with logical := some ⟨line, line, (indentation text).1, .other, none, false⟩ }
        s' := by
  unfold absorbLine at h
  split at h
  · next hNone =>
    dsimp only at h
    split at h
    · rw [← Except.ok.inj h]
      exact .inl (.of_logical_eq rfl rfl rfl)
    · exact .inr ⟨hNone, extends_absorbCode h⟩
  · left
    split at h
    -- the flag for a continued line is no part of what is compared
    · exact (extends_absorbCode h).of_eq rfl rfl rfl
    · split at h
      · exact (extends_absorbCode h).of_eq rfl rfl rfl
      · rw [← Except.ok.inj h]
        exact .of_logical_eq rfl rfl rfl
      · cases h

/-- The logical line behind a physical line is the one in front of it, or a new
one, with more tokens. -/
theorem exists_grows_of_absorbLine {s s' : Scanner} {text : List Char}
    (h : s.absorbLine line text = .ok s') {l' : Logical} (hl' : l' ∈ s'.logical) :
    ∃ l, (l ∈ s.logical ∨ l = ⟨line, line, (indentation text).1, .other, none, false⟩) ∧
      l.Grows line l' := by
  -- a line either goes on with the logical line that is open or begins one at
  -- its own indentation
  rcases extends_absorbLine h with hExtends | ⟨-, hExtends⟩
  · obtain ⟨l, hl, hGrows⟩ := hExtends.exists_grows hl'
    exact ⟨l, .inl hl, hGrows⟩
  · obtain ⟨l, hl, hGrows⟩ := hExtends.exists_grows hl'
    exact ⟨l, .inr (Option.some.inj hl).symm, hGrows⟩

/-- Blocks are looked at when a logical line ends, never before. -/
theorem blocks_absorbLine {s s' : Scanner} {text : List Char}
    (h : s.absorbLine line text = .ok s') : s'.blocks = s.blocks := by
  rcases extends_absorbLine h with hExtends | ⟨-, hExtends⟩
  · exact hExtends.blocks_eq
  · exact hExtends.blocks_eq

/-- What the outermost level remembers is looked at when a logical line ends,
never before. -/
theorem top_absorbLine {s s' : Scanner} {text : List Char}
    (h : s.absorbLine line text = .ok s') : s'.top = s.top := by
  rcases extends_absorbLine h with hExtends | ⟨-, hExtends⟩
  · exact hExtends.top_eq
  · exact hExtends.top_eq

end Scanner

/-! ## Lexemes speak of their own line -/

/-- A cause that is found on a physical line before its logical line ends, in
the characters or at a closing bracket. -/
def Cause.IsEarly (line : Nat) : Cause → Prop
  | invalidSyntax | invalidCharacter _ | afterContinuation | unmatched _ | mismatched .. => True
  | unterminatedLiteral detectedAt => detectedAt = line
  | expectedColon | expectedBlock _ | unexpectedIndent | inconsistentDedent | multipleStatements =>
    False

namespace Lexeme

/-- A lexeme speaks of no other line than its own. -/
def IsLocal (line : Nat) : Lexeme → Prop
  | openLiteral lit => lit.line = line
  | failure cause => cause.IsEarly line
  | _ => True

variable (line : Nat)

/-- A literal that is opened starts on its own line, and one that ends
unfinished is reported there. -/
theorem isLocal_readLiteral (q : Quote) (rest : List Char) :
    (readLiteral line q rest).1.IsLocal line := by
  unfold readLiteral
  dsimp only
  split
  · trivial
  · exact rfl
  · exact rfl

/-- A word speaks of its line only where it is the prefix of a literal. -/
theorem isLocal_readWord (c : Char) (rest : List Char) : (readWord line c rest).1.IsLocal line := by
  unfold readWord
  dsimp only
  split
  · trivial
  · split
    · split
      · exact isLocal_readLiteral line _ _
      · trivial
    · trivial

theorem isLocal_readPoint (rest : List Char) : (readPoint rest).1.IsLocal line := by
  unfold readPoint
  split
  · trivial
  · split <;> trivial
  · trivial

/-- Whatever a character begins, it is a lexeme of its own line. The cases are
those of the reader: a backslash, a colon, a separator, a point, a digit, a
word, an operator, and what is none of these. -/
theorem isLocal_readPlain (c : Char) (rest : List Char) :
    (readPlain line c rest).1.IsLocal line := by
  -- the splits follow the tests of the reader, in its order
  unfold readPlain
  split
  · unfold readBackslash
    split <;> trivial
  split
  · unfold readColon
    split <;> trivial
  split
  · trivial
  split
  · exact isLocal_readPoint line rest
  split
  · trivial
  split
  · exact isLocal_readWord line c rest
  split
  · trivial
  split <;> trivial

theorem isLocal_read (c : Char) (rest : List Char) : (read line c rest).1.IsLocal line := by
  unfold read
  split
  · exact isLocal_readLiteral line _ rest
  · trivial
  · trivial
  · exact isLocal_readPlain line c rest

end Lexeme

/-- All lexemes of a line speak of that line, by induction on the reader that
skips gaps and stops at a comment. -/
theorem isLocal_of_mem_lexemes {line : Nat} {text : List Char} {x : Lexeme}
    (hx : x ∈ lexemes line text) : x.IsLocal line := by
  fun_induction lexemes line text with
  | case1 => cases hx
  | case2 c rest hGap ih => exact ih hx
  | case3 => cases hx
  | case4 c rest hGap hComment ih =>
    rcases List.mem_cons.mp hx with rfl | hRest
    · exact Lexeme.isLocal_read line c rest
    · exact ih hRest

namespace Scanner

variable {line : Nat}

/-- A lexeme that is refused is refused on its own line. -/
theorem of_absorb_eq_error {s : Scanner} {x : Lexeme} {e : SyntaxError} (hx : x.IsLocal line)
    (h : absorb line s x = .error e) :
    e.line = line ∧ e.cause.IsEarly line := by
  unfold absorb at h
  cases x with
  | failure cause =>
    rw [← Except.error.inj h]
    exact ⟨rfl, hx⟩
  | closing b =>
    -- the two ways to refuse a closing bracket: none is open, or another kind
    -- is
    dsimp only [closeBracket] at h
    split at h
    · rw [← Except.error.inj h]
      exact ⟨rfl, trivial⟩
    · split at h
      · cases h
      · rw [← Except.error.inj h]
        exact ⟨rfl, trivial⟩
  | word | value | operator | opening | colon | separator | openLiteral | continuation => cases h

/-- Code that is refused is refused for one of its lexemes. -/
theorem exists_absorb_eq_error {s : Scanner} {xs : List Lexeme} {e : SyntaxError}
    (h : xs.foldlM (absorb line) s = .error e) : ∃ x ∈ xs, ∃ next, absorb line next x = .error e := by
  induction xs generalizing s with
  | nil => cases h
  | cons x rest ih =>
    -- the fold stops at the first lexeme that is refused, with the scanner that
    -- the ones before it have left
    rw [List.foldlM_cons] at h
    cases hx : absorb line s x with
    | error e' =>
      rw [hx] at h
      cases h
      exact ⟨x, List.mem_cons_self, s, hx⟩
    | ok next =>
      rw [hx] at h
      obtain ⟨y, hy, hError⟩ := ih h
      exact ⟨y, List.mem_cons_of_mem _ hy, hError⟩

/-- A fault before the end of a logical line is a fault of the characters or of
the brackets. It lies on the physical line being read, or where the literal
starts that does not survive it. -/
theorem of_absorbLine_eq_error {s : Scanner} {text : List Char} {e : SyntaxError}
    (h : s.absorbLine line text = .error e) :
    (e.line = line ∨ ∃ lit ∈ s.literal, e = ⟨.unterminatedLiteral line, lit.line⟩) ∧
      e.cause.IsEarly line := by
  -- code speaks of its own line; only a literal that ends unfinished speaks of
  -- another one
  have hCode : ∀ {s₁ : Scanner} {code : List Char}, s₁.absorbCode line code = .error e →
      e.line = line ∧ e.cause.IsEarly line := by
    intro s₁ code hError
    obtain ⟨x, hx, next, hAbsorb⟩ := exists_absorb_eq_error hError
    exact of_absorb_eq_error (isLocal_of_mem_lexemes hx) hAbsorb
  unfold absorbLine at h
  split at h
  · dsimp only at h
    split at h
    · cases h
    · exact ⟨.inl (hCode h).1, (hCode h).2⟩
  · split at h
    · exact ⟨.inl (hCode h).1, (hCode h).2⟩
    · next lit hLiteral =>
      split at h
      · exact ⟨.inl (hCode h).1, (hCode h).2⟩
      · cases h
      -- the one fault that is found before any lexeme is read: a literal that
      -- must end on its line does not
      · rw [← Except.error.inj h]
        exact ⟨.inr ⟨lit, hLiteral, rfl⟩, rfl⟩

/-- A literal that is open behind a lexeme was open in front of it, or the
lexeme has opened it. No lexeme closes one: that is done before lexemes are read
at all. -/
theorem literal_absorb {s s' : Scanner} {x : Lexeme} (hx : x.IsLocal line)
    (h : absorb line s x = .ok s') : ∀ lit ∈ s'.literal, lit ∈ s.literal ∨ lit.line = line := by
  unfold absorb at h
  cases x with
  | failure cause => cases h
  | closing b =>
    dsimp only [closeBracket] at h
    split at h
    · cases h
    · split at h
      -- brackets leave literals alone
      · rw [← Except.ok.inj h]
        exact fun lit hLit => .inl hLit
      · cases h
  | colon =>
    rw [← Except.ok.inj h]
    unfold addColon
    dsimp only
    split <;> exact fun lit hLit => .inl hLit
  -- the new literal is noted with this line
  | openLiteral new =>
    rw [← Except.ok.inj h]
    intro lit hLit
    right
    rw [← Option.some.inj hLit]
    exact hx
  | word | value | operator | opening | separator | continuation =>
    rw [← Except.ok.inj h]
    exact fun lit hLit => .inl hLit

/-- A literal that is open behind a physical line was open before, or it starts
on that line. -/
theorem literal_absorbLine {s s' : Scanner} {text : List Char}
    (h : s.absorbLine line text = .ok s') : ∀ lit ∈ s'.literal, lit ∈ s.literal ∨ lit.line = line := by
  -- for code the lexemes are taken in one after the other, each of this line
  have hCode : ∀ {s₁ : Scanner} {code : List Char}, s₁.absorbCode line code = .ok s' →
      ∀ lit ∈ s'.literal, lit ∈ s₁.literal ∨ lit.line = line := by
    intro s₁ code hFold
    refine foldlM_absorb_induction (P := fun s => ∀ lit ∈ s.literal, lit ∈ s₁.literal ∨ lit.line = line)
      ?_ (fun lit hLit => .inl hLit) hFold
    intro x hx s s' hAbsorb hBefore lit hLit
    rcases literal_absorb (isLocal_of_mem_lexemes hx) hAbsorb lit hLit with hOld | hNew
    · exact hBefore lit hOld
    · exact .inr hNew
  unfold absorbLine at h
  split at h
  · dsimp only at h
    split at h
    · rw [← Except.ok.inj h]
      exact fun lit hLit => .inl hLit
    · have hLiteral := hCode h
      exact hLiteral
  · split at h
    · have hLiteral := hCode h
      exact hLiteral
    · split at h
      · -- the literal that ends on the line is no longer open
        intro lit hLit
        rcases hCode h lit hLit with hOld | hNew
        · cases hOld
        · exact .inr hNew
      · rw [← Except.ok.inj h]
        exact fun lit hLit => .inl hLit
      · cases h

/-! ## The end of a logical line -/

/-- Behind a physical line the logical line is still being read, or there is
none. -/
theorem endLine_eq_ok {mode : Mode} {s s' : Scanner} (h : s.endLine mode = .ok s') :
    (s.isOpen = true ∧ s' = s) ∨
      (s.isOpen = false ∧ ∃ blocks top, s' = { s with logical := none, blocks := blocks, top := top }) := by
  unfold endLine at h
  split at h
  · next hOpen => exact .inl ⟨hOpen, (Except.ok.inj h).symm⟩
  · next hOpen => exact .inr ⟨by simpa using hOpen, finishLogical_eq h⟩

/-- Behind a line that has been taken in, the others are scanned from what it
leaves, one line further on. -/
theorem scanLines_cons_of_ok {mode : Mode} {s next : Scanner} {line : Nat} {text : List Char}
    (h : s.scanLine mode line text = .ok next) (rest : List (List Char)) :
    s.scanLines mode line (text :: rest) = next.scanLines mode (line + 1) rest := by
  rw [scanLines, h]

/-- A line that is refused ends the scan, and no line behind it is looked at. -/
theorem scanLines_cons_of_error {mode : Mode} {s : Scanner} {line : Nat} {text : List Char}
    {e : SyntaxError} (h : s.scanLine mode line text = .error e) (rest : List (List Char)) :
    s.scanLines mode line (text :: rest) = .error e := by
  rw [scanLines, h]

end Scanner

end RemoteConsole.Statement
