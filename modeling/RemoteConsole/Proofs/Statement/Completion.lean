import RemoteConsole.Proofs.Statement.Continuation
import RemoteConsole.Proofs.Statement.Outline

/-!
# Completing an unfinished text

Where a logical line starts and what it opens with is settled by its first
token, but whether it may stand there is looked at only when it ends. A text
that ends within a logical line is unfinished, also if that line can never be
taken in: such a text is *misplaced*, and whatever follows, it is never
finished. Every other unfinished text can be finished. Its last logical line is
brought to an end by closing what is open and by a colon with a word behind it,
a header that waits gets a line, a decorator gets a class, and a blank line ends
it all.

* `Scanner.Regular` — what is always true between physical lines.
* `Scanner.IsStuck`, `IsMisplaced` — the logical line that is open can never be
  taken in.
* `exists_complete_iff_not_isMisplaced` — an unfinished text can be finished
  exactly if it is not misplaced.
-/

namespace RemoteConsole.Statement

/-! ## What is always true -/

/-- The outermost level remembers the last line that it has taken in, and
nothing of the ones before it. -/
theorem TopLevel.previous_of_accept {t t' : TopLevel} {mode : Mode} {opening : Opening}
    {isHeader : Bool} {line : Nat} (h : t.accept mode opening isHeader line = .ok t') :
    t'.previous = some opening := by
  unfold accept at h
  split at h
  · rw [← Except.ok.inj h]
  · split at h
    · cases h
    · rw [← Except.ok.inj h]

/-- A decorator opens no block, even if its line ends in a colon. -/
theorem Logical.header?_of_decorator {l : Logical} (h : l.opening = .decorator) :
    l.header? = none := by
  unfold header?
  rw [h]
  split
  · next hKeyword => cases hKeyword
  · rfl

/-- No block is open around one at the left margin, since the levels of nested
blocks decrease outwards. -/
theorem Blocks.Nested.levels_eq_of_cons_zero {b : Blocks} (h : b.Nested) {outer : List Nat}
    (hLevels : b.levels = 0 :: outer) : b.levels = [0] := by
  have hDecreasing := h.decreasing
  rw [hLevels, List.pairwise_cons] at hDecreasing
  cases outer with
  | nil => exact hLevels
  | cons n more =>
    have hLess := hDecreasing.1 n List.mem_cons_self
    omega

namespace Scanner

/-- What is true of a scanner between physical lines, together with
`Scanner.AtLineEnd`: blocks are nested, a decorator that waits is the last line
of the outermost block, and what is open in brackets or a literal has a
token. -/
structure Regular (s : Scanner) : Prop where
  nested : s.blocks.Nested
  decorated : s.top.awaitsDecorated = true → s.blocks.levels = [0] ∧ s.blocks.header = none
  tokens : (s.literal = none ∧ s.brackets = []) ∨ ∃ l ∈ s.logical, l.last.isSome = true

/-- A new scanner is regular: the one block is the outermost, and nothing waits
or is open. -/
theorem regular_start : Regular {} where
  nested := Blocks.nested_start
  decorated _ := ⟨rfl, rfl⟩
  tokens := .inl ⟨rfl, rfl⟩

variable {line : Nat} {mode : Mode}

theorem exists_token_add {s : Scanner} (hLogical : s.logical ≠ none) (line : Nat) (token : Token)
    (opening : Opening) : ∃ l ∈ (s.add line token opening).logical, l.last.isSome = true := by
  obtain ⟨l, hl⟩ := Option.ne_none_iff_exists'.mp hLogical
  exact ⟨l.add line token opening, by simp [add, hl], rfl⟩

/-- What brackets and literals need is kept by every lexeme of a logical
line. -/
theorem tokens_absorb {s s' : Scanner} {x : Lexeme} (hLogical : s.logical ≠ none)
    (hBefore : (s.literal = none ∧ s.brackets = []) ∨ ∃ l ∈ s.logical, l.last.isSome = true)
    (h : absorb line s x = .ok s') :
    (s'.literal = none ∧ s'.brackets = []) ∨ ∃ l ∈ s'.logical, l.last.isSome = true := by
  unfold absorb at h
  cases x with
  | failure cause => cases h
  | continuation =>
    rw [← Except.ok.inj h]
    exact hBefore
  | closing b =>
    -- a bracket that is closed leaves a token behind, even if it was the last
    -- one
    dsimp only [closeBracket] at h
    split at h
    · cases h
    · split at h
      · rw [← Except.ok.inj h]
        exact .inr (exists_token_add hLogical ..)
      · cases h
  | colon =>
    rw [← Except.ok.inj h]
    -- whether or not the colon counts, it is a token
    obtain ⟨l, hl, hToken⟩ := exists_token_add hLogical line .colon .other
    right
    unfold addColon
    dsimp only
    split
    · exact ⟨{ l with topColon := true }, by rw [hl]; rfl, hToken⟩
    · exact ⟨l, hl, hToken⟩
  | word | value | operator | opening | separator | openLiteral =>
    rw [← Except.ok.inj h]
    exact .inr (exists_token_add hLogical ..)

/-- What brackets and literals need is kept by all lexemes of a line. The
induction carries along that a logical line is open, without which a token would
go nowhere. -/
theorem tokens_absorbCode {s s' : Scanner} {code : List Char}
    (h : s.absorbCode line code = .ok s') (hLogical : s.logical.isSome = true)
    (hBefore : (s.literal = none ∧ s.brackets = []) ∨ ∃ l ∈ s.logical, l.last.isSome = true) :
    (s'.literal = none ∧ s'.brackets = []) ∨ ∃ l ∈ s'.logical, l.last.isSome = true := by
  have hAfter := foldlM_absorb_induction
    (P := fun s => s.logical.isSome = true ∧
      ((s.literal = none ∧ s.brackets = []) ∨ ∃ l ∈ s.logical, l.last.isSome = true))
    (fun x _ s s' hx hs => ⟨(isSome_absorb hx).trans hs.1,
      tokens_absorb (Option.isSome_iff_ne_none.mp hs.1) hs.2 hx⟩) ⟨hLogical, hBefore⟩ h
  exact hAfter.2

/-- Taking in a physical line keeps a scanner regular. Blocks and decorators are
not touched, so that only what is open in brackets or a literal is to be looked
at. -/
theorem Regular.absorbLine {s s' : Scanner} {text : List Char} (h : s.Regular)
    (hAbsorb : s.absorbLine line text = .ok s') : s'.Regular where
  nested := by
    rw [blocks_absorbLine hAbsorb]
    exact h.nested
  decorated := by
    rw [blocks_absorbLine hAbsorb, top_absorbLine hAbsorb]
    exact h.decorated
  tokens := by
    unfold Scanner.absorbLine at hAbsorb
    split at hAbsorb
    · next hNone =>
      dsimp only at hAbsorb
      split at hAbsorb
      · rw [← Except.ok.inj hAbsorb]
        exact h.tokens
      · -- nothing is open where a logical line starts
        rcases h.tokens with hClosed | ⟨l, hl, -⟩
        · exact tokens_absorbCode hAbsorb rfl (.inl hClosed)
        · rw [hNone] at hl
          cases hl
    · next l hLogical =>
      have hSome : s.logical.isSome = true := by rw [hLogical]; rfl
      split at hAbsorb
      · exact tokens_absorbCode hAbsorb hSome h.tokens
      · split at hAbsorb
        · refine tokens_absorbCode hAbsorb hSome ?_
          -- a literal that ends leaves the brackets as they are
          exact h.tokens.imp_left fun hClosed => ⟨rfl, hClosed.2⟩
        · rw [← Except.ok.inj hAbsorb]
          exact h.tokens
        · cases hAbsorb

/-- A decorator that has just been taken in is the last line of the outermost
block. -/
theorem Regular.settle {s s' : Scanner} {l : Logical} (h : s.Regular)
    (hTokens : s.literal = none ∧ s.brackets = []) (hSettle : s.settle mode l = .ok s') :
    s'.Regular := by
  obtain ⟨-, hTake, hMeet, hNext⟩ := settle_eq_ok hSettle
  refine ⟨h.nested.take hTake, fun hAwaits => ?_, .inl (by rw [hNext]; exact hTokens)⟩
  obtain ⟨a, hAccept, hBlocks⟩ := Blocks.take_eq_ok.mp hTake
  obtain ⟨hNested, hNone, outer, hLevels⟩ := h.nested.accept hAccept
  unfold TopLevel.meet at hMeet
  split at hMeet
  · next hOutermost =>
    -- the line that has been taken in is what the outermost level remembers
    have hOpening : l.opening = .decorator := by
      simpa [TopLevel.awaitsDecorated, TopLevel.previous_of_accept hMeet] using hAwaits
    rw [Logical.placed, hOutermost] at hLevels
    rw [hBlocks, Logical.placed, Logical.header?_of_decorator hOpening, Blocks.awaitAny]
    exact ⟨hNested.levels_eq_of_cons_zero hLevels, hNone⟩
  · next hInner =>
    -- behind a decorator nothing is taken in but a line of the outermost block
    rw [← Except.ok.inj hMeet] at hAwaits
    obtain ⟨hZero, hNoHeader⟩ := h.decorated hAwaits
    simp [Blocks.accept, hNoHeader, Blocks.innermost, hZero, Logical.placed,
      Nat.pos_of_ne_zero hInner] at hAccept

/-- The end of a logical line keeps a scanner regular: either it is held open
and nothing changes, or nothing is open in brackets or a literal any more. -/
theorem Regular.endLine {s s' : Scanner} (h : s.Regular) (hEnd : s.endLine mode = .ok s') :
    s'.Regular := by
  unfold Scanner.endLine at hEnd
  -- a line without a token leaves no trace, and any other has to settle
  split at hEnd
  · rwa [← Except.ok.inj hEnd]
  next hClosed =>
  -- what holds a logical line open is all that `tokens` speaks of
  have hTokens : s.literal = none ∧ s.brackets = [] := by
    simp only [isOpen, Bool.or_eq_true, not_or, Bool.not_eq_true, Option.isSome_eq_false_iff,
      Option.isNone_iff_eq_none, Bool.not_eq_false', List.isEmpty_iff] at hClosed
    exact ⟨hClosed.1.1, hClosed.2⟩
  unfold finishLogical at hEnd
  split at hEnd
  · rwa [← Except.ok.inj hEnd]
  · split at hEnd
    · rw [← Except.ok.inj hEnd]
      exact ⟨h.nested, h.decorated, .inl hTokens⟩
    · exact h.settle hTokens hEnd

theorem Regular.scanLine {s s' : Scanner} {text : List Char} (h : s.Regular)
    (hScan : s.scanLine mode line text = .ok s') : s'.Regular := by
  obtain ⟨read, hAbsorb, hEnd⟩ := exists_absorbLine_of_scanLine hScan
  exact (h.absorbLine hAbsorb).endLine hEnd

/-- A scanner is regular behind any lines that it has taken in. -/
theorem Regular.scanLines {s s' : Scanner} {lines : List (List Char)} (h : s.Regular)
    (hScan : s.scanLines mode line lines = .ok s') : s'.Regular :=
  scanLines_induction Regular.scanLine h hScan

/-! ## Logical lines that can never be taken in -/

/-- A logical line stands where none can: no open block has its indentation, or
it begins a second statement of an interactive text. -/
def Misplaces (mode : Mode) (s : Scanner) (l : Logical) : Prop :=
  (∃ e, s.blocks.accept l.indent l.line = .error e) ∨
    (l.indent = 0 ∧ ∃ e, s.top.accept mode l.opening false l.line = .error e)

/-- The logical line that is open has a token and can never be taken in. -/
def IsStuck (mode : Mode) (s : Scanner) : Prop :=
  s.isOpen = true ∧ ∃ l ∈ s.logical, l.last.isSome = true ∧ s.Misplaces mode l

/-- Whether the outermost level refuses a line does not depend on whether the
line is a header: that is only noted for later. -/
theorem accept_eq_error_iff {t : TopLevel} {opening : Opening} {isHeader isHeader' : Bool} :
    (∃ e, t.accept mode opening isHeader line = .error e) ↔
      ∃ e, t.accept mode opening isHeader' line = .error e := by
  unfold TopLevel.accept
  cases t.previous with
  | none => simp
  | some previous => rfl

/-- The place of a logical line is not good enough exactly if it does not pass
the last two checks. -/
theorem misplaces_iff {s : Scanner} {l : Logical} :
    s.Misplaces mode l ↔
      (∃ e, s.blocks.take l.placed = .error e) ∨ ∃ e, s.top.meet mode l = .error e := by
  unfold Misplaces
  -- the header that a line may wait with changes neither check
  refine or_congr ?_ ?_
  · unfold Blocks.take Logical.placed
    cases s.blocks.accept l.indent l.line <;> simp [Except.map]
  · unfold TopLevel.meet
    by_cases hOutermost : l.indent = 0
    · rw [if_pos hOutermost, and_iff_right hOutermost]
      exact accept_eq_error_iff
    · simp [hOutermost]

/-- More tokens do not bring a logical line to another place. -/
theorem misplaces_iff_of_grows {s : Scanner} {l l' : Logical} (hGrows : l.Grows line l')
    (hToken : l.last.isSome = true) : s.Misplaces mode l' ↔ s.Misplaces mode l := by
  unfold Misplaces
  rw [hGrows.line_eq, hGrows.indent_eq, (hGrows.opening_eq hToken).2]

/-- A logical line that stands where it may passes the last two checks, whatever
it holds. -/
theorem exists_take_and_meet {s : Scanner} {l : Logical} (h : ¬ s.Misplaces mode l) :
    (∃ blocks, s.blocks.take l.placed = .ok blocks) ∧ ∃ top, s.top.meet mode l = .ok top := by
  rw [misplaces_iff, not_or] at h
  constructor
  · cases hTake : s.blocks.take l.placed with
    | error e => exact absurd ⟨e, hTake⟩ h.1
    | ok blocks => exact ⟨blocks, rfl⟩
  · cases hMeet : s.top.meet mode l with
    | error e => exact absurd ⟨e, hMeet⟩ h.2
    | ok top => exact ⟨top, rfl⟩

/-- A misplaced logical line is refused when it ends, if not for its place then
for an earlier fault. -/
theorem Misplaces.settle_ne_ok {s s' : Scanner} {l : Logical} (h : s.Misplaces mode l) :
    s.settle mode l ≠ .ok s' := by
  intro hSettle
  obtain ⟨-, hTake, hMeet, -⟩ := settle_eq_ok hSettle
  rcases misplaces_iff.mp h with ⟨e, hError⟩ | ⟨e, hError⟩
  · rw [hTake] at hError
    cases hError
  · rw [hMeet] at hError
    cases hError

/-- More text on a misplaced logical line leaves it misplaced: it keeps its
start and its opening, and blocks and outermost level are those that refuse
it. -/
theorem IsStuck.absorbLine {s read : Scanner} {text : List Char} (h : s.IsStuck mode)
    (hAbsorb : s.absorbLine line text = .ok read) :
    ∃ l ∈ read.logical, l.last.isSome = true ∧ read.Misplaces mode l := by
  obtain ⟨-, l, hl, hToken, hMisplaces⟩ := h
  rcases extends_absorbLine hAbsorb with hExtends | ⟨hNone, -⟩
  · obtain ⟨l', hl', hGrows⟩ := hExtends.exists_grows_right hl
    refine ⟨l', hl', (hGrows.opening_eq hToken).1, ?_⟩
    have hStill := (misplaces_iff_of_grows hGrows hToken).mpr hMisplaces
    unfold Misplaces at hStill ⊢
    rwa [hExtends.blocks_eq, hExtends.top_eq]
  · rw [hNone] at hl
    cases hl

/-- A scanner that is stuck stays stuck as long as lines are taken in, since the
line that ends the logical line is refused. -/
theorem IsStuck.scanLine {s s' : Scanner} {text : List Char} (h : s.IsStuck mode)
    (hScan : s.scanLine mode line text = .ok s') : s'.IsStuck mode := by
  obtain ⟨read, hAbsorb, hEnd⟩ := exists_absorbLine_of_scanLine hScan
  obtain ⟨l, hl, hToken, hMisplaces⟩ := h.absorbLine hAbsorb
  unfold endLine at hEnd
  split at hEnd
  -- an open logical line goes on and is still misplaced
  · next hOpen =>
    obtain rfl := Except.ok.inj hEnd
    exact ⟨hOpen, l, hl, hToken, hMisplaces⟩
  · -- when the line ends it is refused
    unfold finishLogical at hEnd
    rw [Option.mem_def.mp hl] at hEnd
    dsimp only at hEnd
    rw [if_neg (by simpa [← Option.isSome_iff_ne_none] using hToken)] at hEnd
    exact absurd hEnd hMisplaces.settle_ne_ok

/-- Whatever lines are taken in behind a misplaced logical line, it is still
open and still misplaced. -/
theorem IsStuck.scanLines {s s' : Scanner} {lines : List (List Char)} (h : s.IsStuck mode)
    (hScan : s.scanLines mode line lines = .ok s') : s'.IsStuck mode :=
  scanLines_induction IsStuck.scanLine h hScan

/-! ## Bringing a logical line to its end -/

end Scanner

/-- The quotes that end a literal. -/
def Literal.ending (lit : Literal) : List Char :=
  if lit.triple then [lit.quote.char, lit.quote.char, lit.quote.char] else [lit.quote.char]

/-- A literal ends at the first of its own quotes, three of them if it is
triple-quoted. -/
theorem Literal.close_ending (lit : Literal) (rest : List Char) :
    lit.close (lit.ending ++ rest) = .closed rest := by
  obtain ⟨quote, triple, line⟩ := lit
  unfold ending
  cases triple <;> cases quote <;> cases rest <;> rfl

/-- The brackets that close the open ones. -/
def closers (brackets : List (Bracket × Nat)) : List Char :=
  brackets.map fun b => b.1.closeChar

/-- A closing bracket is a lexeme of its own, whatever stands behind it. -/
theorem lexemes_closeChar (line : Nat) (b : Bracket) (rest : List Char) :
    lexemes line (b.closeChar :: rest) = .closing b :: lexemes line rest := by
  have hRead : Lexeme.read line b.closeChar rest = (.closing b, rest) := by
    cases b <;> rfl
  rw [lexemes_cons (by cases b <;> decide) (by cases b <;> decide), hRead]

theorem lexemes_x (line : Nat) : lexemes line ['x'] = [.word ['x']] := by
  have hRead : Lexeme.read line 'x' [] = (.word ['x'], []) := rfl
  rw [lexemes_cons (by decide) (by decide), hRead, lexemes_nil]

theorem lexemes_colon_x (line : Nat) : lexemes line [':', 'x'] = [.colon, .word ['x']] := by
  have hRead : Lexeme.read line ':' ['x'] = (.colon, ['x']) := rfl
  rw [lexemes_cons (by decide) (by decide), hRead, lexemes_x]

theorem lexemes_class (line : Nat) :
    lexemes line ['c', 'l', 'a', 's', 's', ' ', 'x', ':', 'x'] =
      [.word ['c', 'l', 'a', 's', 's'], .word ['x'], .colon, .word ['x']] := by
  have hClass : Lexeme.read line 'c' ['l', 'a', 's', 's', ' ', 'x', ':', 'x'] =
      (.word ['c', 'l', 'a', 's', 's'], [' ', 'x', ':', 'x']) := rfl
  have hName : Lexeme.read line 'x' [':', 'x'] = (.word ['x'], [':', 'x']) := rfl
  rw [lexemes_cons (by decide) (by decide), hClass, lexemes_gap (by decide),
    lexemes_cons (by decide) (by decide), hName, lexemes_colon_x]

namespace Scanner

/-- A line that closes what is open, and gives the statement a colon and a last
word. -/
def finishing (s : Scanner) : List Char :=
  s.literal.elim [] Literal.ending ++ (closers s.brackets ++ [':', 'x'])

/-- What brings a logical line to its end stands on one line: it has no line
break, and a word at its end. -/
theorem isLine_finishing (s : Scanner) : IsLine s.finishing := by
  unfold finishing
  constructor
  -- the quotes that close a literal and the closing brackets are no line breaks
  · have hEnding : ∀ lit : Literal, '\n' ∉ lit.ending := by
      intro lit
      obtain ⟨quote, triple, line⟩ := lit
      cases triple <;> cases quote <;> simp [Literal.ending, Quote.char]
    have hClosers : '\n' ∉ closers s.brackets := by
      unfold closers
      intro hMem
      obtain ⟨⟨b, n⟩, -, hChar⟩ := List.mem_map.mp hMem
      cases b <;> cases hChar
    have hLiteral : '\n' ∉ s.literal.elim [] Literal.ending := by
      cases s.literal with
      | none => simp
      | some lit => exact hEnding lit
    simp [hLiteral, hClosers]
  · rw [← List.append_assoc, List.getLast?_append]
    simp

/-- Closing brackets take the open ones away, and the logical line grows by a
token for each. The induction is on the open brackets, with the innermost one
first. -/
theorem foldlM_closers {brackets : List (Bracket × Nat)} {s : Scanner} {l : Logical}
    (hBrackets : s.brackets = brackets) (hLogical : s.logical = some l) (line : Nat)
    (rest : List Char) :
    ∃ l', l.Grows line l' ∧
      (lexemes line (closers brackets ++ rest)).foldlM (absorb line) s =
        (lexemes line rest).foldlM (absorb line) { s with brackets := [], logical := some l' } := by
  -- each closing bracket takes the innermost open one away, and leaves the rest
  -- of the line as it is
  induction brackets generalizing s l with
  | nil =>
    refine ⟨l, .refl line l, ?_⟩
    obtain ⟨brackets, literal, continued, logical, blocks, top⟩ := s
    subst hBrackets hLogical
    rfl
  | cons b outer ih =>
    obtain ⟨b, openLine⟩ := b
    -- the innermost bracket is closed by its partner, which is written first
    have hClose : absorb line s (.closing b) = .ok ({ s with brackets := outer }.add line .value .other) := by
      unfold absorb closeBracket
      rw [hBrackets]
      exact if_pos rfl
    obtain ⟨l', hGrows, hFold⟩ := ih (s := { s with brackets := outer }.add line .value .other)
      (l := l.add line .value .other) rfl (by simp [add, hLogical])
    refine ⟨l', (l.grows_add line .value .other).trans hGrows, ?_⟩
    change (lexemes line (b.closeChar :: (closers outer ++ rest))).foldlM (absorb line) s = _
    rw [lexemes_closeChar, List.foldlM_cons, hClose]
    exact hFold

/-- A colon and a word make a logical line a finished one. -/
theorem absorbCode_colon_x {s : Scanner} {l : Logical} (hBrackets : s.brackets = [])
    (hLogical : s.logical = some l) :
    ∃ l', l.Grows line l' ∧ l'.last = some .value ∧ l'.topColon = true ∧
      s.absorbCode line [':', 'x'] = .ok { s with logical := some l' } := by
  refine ⟨{ l.add line .colon .other with topColon := true }.add line .value (.ofWord ['x']), ?_, rfl,
    rfl, ?_⟩
  -- neither the colon nor the word moves the line or changes how it opens
  · have hColon : Logical.Grows line (l.add line .colon .other)
        { l.add line .colon .other with topColon := true } :=
      ⟨rfl, rfl, .inl rfl, fun h => ⟨h, rfl⟩⟩
    exact ((l.grows_add ..).trans hColon).trans (Logical.grows_add ..)
  · obtain ⟨brackets, literal, continued, logical, blocks, top⟩ := s
    subst hBrackets hLogical
    have hEnd : canEndStatement ['x'] = true := by decide
    unfold absorbCode
    rw [lexemes_colon_x]
    simp [absorb, addColon, add, hEnd, pure, Except.pure, bind, Except.bind]

/-- The line that ends a logical line takes everything open away: the literal
first, then the brackets, and the line is left with a colon and a word at its
end. -/
theorem absorbLine_finishing {s : Scanner} {l : Logical} (hLogical : s.logical = some l)
    (line : Nat) :
    ∃ l', l.Grows line l' ∧ l'.last = some .value ∧ l'.topColon = true ∧
      s.absorbLine line s.finishing =
        .ok { s with brackets := [], literal := none, continued := false, logical := some l' } := by
  -- behind the end of the literal, if there is one, the brackets are next
  have hCode : s.absorbLine line s.finishing =
      absorbCode { s with literal := none, continued := false } line
        (closers s.brackets ++ [':', 'x']) := by
    unfold absorbLine finishing
    rw [hLogical]
    dsimp only
    cases hLiteral : s.literal with
    | none => rfl
    | some lit =>
      dsimp only [Option.elim_some]
      rw [lit.close_ending]
  rw [hCode]
  obtain ⟨l₁, hGrows, hFold⟩ := foldlM_closers (s := { s with literal := none, continued := false })
    rfl hLogical line [':', 'x']
  obtain ⟨l₂, hGrows', hLast, hColon, hRest⟩ := absorbCode_colon_x
    (s := { s with brackets := [], literal := none, continued := false, logical := some l₁ }) rfl rfl
  exact ⟨l₂, hGrows.trans hGrows', hLast, hColon, hFold.trans hRest⟩

/-- A line that passes all checks is taken in. -/
theorem scanLine_of_checks {s read : Scanner} {l : Logical} {text : List Char}
    {header : Option Header} {blocks : Blocks} {top : TopLevel}
    (hAbsorb : s.absorbLine line text = .ok read) (hOpen : read.isOpen = false)
    (hLogical : read.logical = some l) (hToken : l.last.isSome = true)
    (hShape : checkShape l = .ok header) (hTake : read.blocks.take l.placed = .ok blocks)
    (hMeet : read.top.meet mode l = .ok top) :
    s.scanLine mode line text = .ok { read with logical := none, blocks := blocks, top := top } := by
  -- the line has a token, so it is one to be settled
  have hNone : ¬ l.last.isNone = true := by
    simpa [← Option.isSome_iff_ne_none] using hToken
  rw [scanLine_of_absorbLine hAbsorb]
  unfold endLine finishLogical
  rw [if_neg (by simp [hOpen]), hLogical]
  dsimp only
  rw [if_neg hNone, settle_eq_bind, hShape, hTake, hMeet]
  rfl

/-- A blank line ends a logical line that consists of backslashes. Without a
token there is nothing to check. -/
theorem scanLine_nil_of_last_eq_none {s : Scanner} {l : Logical} (hLogical : s.logical = some l)
    (hLast : l.last = none) (hLiteral : s.literal = none) (hBrackets : s.brackets = []) :
    s.scanLine mode line [] = .ok { s with continued := false, logical := none } := by
  obtain ⟨brackets, literal, continued, logical, blocks, top⟩ := s
  subst hLogical hLiteral hBrackets
  rw [scanLine_eq]
  simp [absorbLine, absorbCode, endLine, isOpen, finishLogical, hLast, pure, Except.pure, Except.bind]

/-- A logical line that can be taken in can be brought to its end. A line
without a token ends by an empty line, and any other by the quotes and brackets
that it lacks, a colon and a word; these do not move it, so it is in its place
as before. -/
theorem exists_scanLine_isOpen_eq_false {s : Scanner} (hEnd : s.AtLineEnd) (hRegular : s.Regular)
    (hNot : ¬ s.IsStuck mode) :
    ∃ text, IsLine text ∧ ∀ line, ∃ s', s.scanLine mode line text = .ok s' ∧ s'.isOpen = false := by
  by_cases hOpen : s.isOpen = true
  case neg =>
    rw [Bool.not_eq_true] at hOpen
    -- nothing is open already, and an empty line keeps it so
    have hNone := logical_of_isOpen_eq_false hEnd hOpen
    exact ⟨[], isLine_nil, fun line => ⟨s, scanLine_nil hNone mode line, hOpen⟩⟩
  obtain ⟨l, hLogical⟩ : ∃ l, s.logical = some l :=
    Option.isSome_iff_exists.mp (hEnd.trans hOpen)
  cases hLast : l.last with
  | none =>
    -- a line of backslashes alone leaves no trace
    obtain ⟨hLiteral, hBrackets⟩ : s.literal = none ∧ s.brackets = [] := by
      rcases hRegular.tokens with hClosed | ⟨l', hl', hToken⟩
      · exact hClosed
      · obtain rfl := Option.some.inj (hLogical.symm.trans hl')
        rw [hLast] at hToken
        cases hToken
    refine ⟨[], isLine_nil, fun line =>
      ⟨_, scanLine_nil_of_last_eq_none hLogical hLast hLiteral hBrackets, ?_⟩⟩
    simp [isOpen, hLiteral, hBrackets]
  | some token =>
    have hToken : l.last.isSome = true := by rw [hLast]; rfl
    -- the line keeps its place, and a word behind a colon suits every opening
    refine ⟨s.finishing, s.isLine_finishing, fun line => ?_⟩
    obtain ⟨l', hGrows, hValue, hColon, hAbsorb⟩ := absorbLine_finishing hLogical line
    have hShape : checkShape l' = .ok none := by
      simp [checkShape, hValue, hColon]
    have hPlace : ¬ s.Misplaces mode l' := by
      rw [misplaces_iff_of_grows hGrows hToken]
      exact fun hMisplaces => hNot ⟨hOpen, l, hLogical, hToken, hMisplaces⟩
    obtain ⟨⟨blocks, hTake⟩, top, hMeet⟩ := exists_take_and_meet hPlace
    exact ⟨_, scanLine_of_checks hAbsorb rfl rfl (by rw [hValue]; rfl) hShape hTake hMeet, rfl⟩

/-! ## Giving what waits its body -/

/-- Every blank is one column. -/
theorem indentationFrom_replicate (width n : Nat) :
    indentationFrom width (List.replicate n ' ' ++ ['x']) = (width + n, ['x']) := by
  induction n generalizing width with
  | zero => rfl
  | succ n ih =>
    rw [List.replicate_succ, List.cons_append, indentationFrom, ih, Nat.add_right_comm, Nat.add_assoc]

/-- A word that can end a statement counts as a value. -/
theorem absorb_word {text : List Char} (h : canEndStatement text = true) (s : Scanner) :
    absorb line s (.word text) = .ok (s.add line .value (.ofWord text)) := by
  unfold absorb
  dsimp only
  rw [if_pos h]

/-- A header that waits takes a line one column deeper than the innermost
block. -/
theorem scanLine_body {s : Scanner} {header : Header} (hHeader : s.blocks.header = some header)
    (hLogical : s.logical = none) (hOpen : s.isOpen = false) :
    s.scanLine mode line (List.replicate (s.blocks.innermost + 1) ' ' ++ ['x']) =
      .ok { s with blocks := ⟨(s.blocks.innermost + 1) :: s.blocks.levels, none⟩ } := by
  -- the blanks are one more than the width of the innermost block
  have hIndentation := indentationFrom_replicate 0 (s.blocks.innermost + 1)
  rw [Nat.zero_add] at hIndentation
  have hAbsorb : s.absorbLine line (List.replicate (s.blocks.innermost + 1) ' ' ++ ['x']) =
      .ok { s with
        logical := some ⟨line, line, s.blocks.innermost + 1, .other, some .value, false⟩ } := by
    unfold absorbLine indentation absorbCode
    rw [hLogical, hIndentation]
    dsimp only
    rw [if_neg (by decide), lexemes_x, List.foldlM_cons, absorb_word (by decide)]
    rfl
  -- the deeper line opens the block that the header waits for
  have hTake : s.blocks.take ⟨s.blocks.innermost + 1, line, none⟩ =
      .ok ⟨(s.blocks.innermost + 1) :: s.blocks.levels, none⟩ := by
    simp [Blocks.take, Blocks.accept, hHeader, Except.map, Blocks.awaitAny]
  rw [scanLine_of_checks hAbsorb hOpen rfl rfl rfl hTake rfl, ← hLogical]

/-- A decorator takes a class with its body on the same line. So nothing waits
any more behind that line. -/
theorem scanLine_class {s : Scanner} (hLevels : s.blocks.levels = [0]) (hHeader : s.blocks.header = none)
    (hWaits : s.top.awaitsDecorated = true) (hLogical : s.logical = none) (hOpen : s.isOpen = false) :
    s.scanLine mode line ['c', 'l', 'a', 's', 's', ' ', 'x', ':', 'x'] =
      .ok { s with top := { s.top with previous := some (.keyword .classWord) } } := by
  have hOpening : Opening.ofWord ['c', 'l', 'a', 's', 's'] = .keyword .classWord := by decide
  -- with no bracket open the colon counts, and the class has its body behind it
  have hBrackets : s.brackets = [] := by
    simp only [isOpen, Bool.or_eq_false_iff, Bool.not_eq_false', List.isEmpty_iff] at hOpen
    exact hOpen.2
  have hAbsorb : s.absorbLine line ['c', 'l', 'a', 's', 's', ' ', 'x', ':', 'x'] =
      .ok { s with logical := some ⟨line, line, 0, .keyword .classWord, some .value, true⟩ } := by
    have hStart : s.absorbLine line ['c', 'l', 'a', 's', 's', ' ', 'x', ':', 'x'] =
        absorbCode { s with logical := some { line := line, endLine := line, indent := 0 } } line
          ['c', 'l', 'a', 's', 's', ' ', 'x', ':', 'x'] := by
      unfold absorbLine
      rw [hLogical]
      rfl
    have hWord : canEndStatement ['x'] = true := by decide
    rw [hStart, absorbCode, lexemes_class, List.foldlM_cons, absorb_word (by decide), hOpening]
    simp [absorb, hWord, addColon, add, Logical.add, hBrackets, pure, Except.pure, bind, Except.bind]
  have hTake : s.blocks.take ⟨0, line, none⟩ = .ok s.blocks := by
    obtain ⟨brackets, literal, continued, logical, ⟨levels, header⟩, top⟩ := s
    subst hLevels hHeader
    rfl
  -- behind a decorator a class is what may come
  have hMeet : s.top.meet mode ⟨line, line, 0, .keyword .classWord, some .value, true⟩ =
      .ok { s.top with previous := some (.keyword .classWord) } := by
    have hDecorator : s.top.previous = some .decorator := of_decide_eq_true hWaits
    simp [TopLevel.meet, TopLevel.accept, hDecorator, TopLevel.continues, Keyword.isDecorated]
  rw [scanLine_of_checks hAbsorb hOpen rfl rfl rfl hTake hMeet, ← hLogical]

/-- Where no logical line is open, one line gives what waits its body: a deeper
line to a header, a class to a decorator, and an empty line if nothing waits. -/
theorem exists_scanLine_isSettled {s : Scanner} (hEnd : s.AtLineEnd) (hRegular : s.Regular)
    (hOpen : s.isOpen = false) (mode : Mode) :
    ∃ text, IsLine text ∧
      ∀ line, ∃ s', s.scanLine mode line text = .ok s' ∧ s'.isSettled = true := by
  have hLogical := logical_of_isOpen_eq_false hEnd hOpen
  -- three things can be left: a header without a body, a decorator without a
  -- class, or nothing
  cases hHeader : s.blocks.header with
  | some header =>
    refine ⟨List.replicate (s.blocks.innermost + 1) ' ' ++ ['x'], by simp [IsLine], fun line =>
      ⟨_, scanLine_body hHeader hLogical hOpen, ?_⟩⟩
    -- a header cannot wait together with a decorator
    have hWaits : s.top.awaitsDecorated = false := by
      cases hWaits : s.top.awaitsDecorated with
      | false => rfl
      | true =>
        rw [(hRegular.decorated hWaits).2] at hHeader
        cases hHeader
    -- what was open is open still, which is nothing
    have hStill :
        isOpen { s with blocks := ⟨(s.blocks.innermost + 1) :: s.blocks.levels, none⟩ } = false := hOpen
    simp [isSettled, awaitsBody, hStill, hWaits]
  | none =>
    by_cases hWaits : s.top.awaitsDecorated = true
    · obtain ⟨hLevels, -⟩ := hRegular.decorated hWaits
      refine ⟨['c', 'l', 'a', 's', 's', ' ', 'x', ':', 'x'], by simp [IsLine], fun line =>
        ⟨_, scanLine_class hLevels hHeader hWaits hLogical hOpen, ?_⟩⟩
      have hStill :
          isOpen { s with top := { s.top with previous := some (.keyword .classWord) } } = false := hOpen
      simp [isSettled, awaitsBody, hStill, hHeader, TopLevel.awaitsDecorated]
    · refine ⟨[], isLine_nil, fun line => ⟨s, scanLine_nil hLogical mode line, ?_⟩⟩
      simp [isSettled, awaitsBody, hOpen, hHeader, hWaits]

end Scanner

/-! ## Texts -/

/-- The logical line that is open at the end of a text can never be taken in. -/
def IsMisplaced (mode : Mode) (text : List Char) : Prop :=
  ∃ s, Scanner.scanLines mode {} 1 (physical text) = .ok s ∧ s.IsStuck mode

/-- Nothing finishes a misplaced text. -/
theorem IsMisplaced.classify_ne_complete {mode : Mode} {text : List Char} (h : IsMisplaced mode text)
    (more : List Char) : classify mode (text ++ '\n' :: more) ≠ .complete := by
  obtain ⟨s, hScan, hStuck⟩ := h
  intro hComplete
  rw [classify_eq, physical_append, classifyLines, Scanner.scanLines_append, hScan] at hComplete
  dsimp only [Except.bind] at hComplete
  -- the lines behind the text are refused, or they are taken in
  cases hMore : s.scanLines mode (1 + (physical text).length) (physical more) with
  | error e =>
    rw [hMore] at hComplete
    cases hComplete
  | ok s' =>
    rw [hMore] at hComplete
    -- the scanner is still stuck at the end of the whole text, and so its
    -- logical line is open
    have hOpen := (hStuck.scanLines hMore).1
    rw [Scanner.isOpen_of_isSettled (Scanner.isSettled_of_verdict hComplete)] at hOpen
    cases hOpen

/-- A text that is taken in and not misplaced can be finished. Three lines are
enough: the first one ends the logical line that is open, the second one gives
what waits its body, and the last one is blank. -/
theorem exists_classify_eq_complete {mode : Mode} {text : List Char} {s : Scanner}
    (hScan : Scanner.scanLines mode {} 1 (physical text) = .ok s) (hNot : ¬ s.IsStuck mode) :
    ∃ more, classify mode (text ++ '\n' :: more) = .complete := by
  have hEnd := Scanner.scanLines_atLineEnd Scanner.atLineEnd_start hScan
  have hRegular := Scanner.regular_start.scanLines hScan
  -- the logical line ends, what waits gets its body, and a blank line ends the
  -- statement
  obtain ⟨last, hLast, hFinish⟩ := Scanner.exists_scanLine_isOpen_eq_false hEnd hRegular hNot
  obtain ⟨s₁, hScan₁, hOpen⟩ := hFinish (1 + (physical text).length)
  obtain ⟨body, hBody, hGive⟩ := Scanner.exists_scanLine_isSettled
    (Scanner.scanLine_atLineEnd hEnd hScan₁) (hRegular.scanLine hScan₁) hOpen mode
  obtain ⟨s₂, hScan₂, hSettled⟩ := hGive (1 + (physical text).length + 1)
  have hNone : s₂.logical = none :=
    Scanner.logical_of_isOpen_eq_false
      (Scanner.scanLine_atLineEnd (Scanner.scanLine_atLineEnd hEnd hScan₁) hScan₂)
      (Scanner.isOpen_of_isSettled hSettled)
  have hLines : ∀ text ∈ [last, body, []], IsLine text := by
    simp [hLast, hBody, isLine_nil]
  obtain ⟨more, hMore⟩ := exists_physical_eq (by simp) hLines
  -- a blank line is added, as only that ends an interactive statement with a
  -- block
  have hThree : s.scanLines mode (1 + (physical text).length) (physical more) = .ok s₂ := by
    rw [hMore, Scanner.scanLines_cons_of_ok hScan₁, Scanner.scanLines_cons_of_ok hScan₂,
      Scanner.scanLines_cons_of_ok (Scanner.scanLine_nil hNone ..)]
    rfl
  refine ⟨more, ?_⟩
  have hBlank : endsBlank (physical more) = true := by
    rw [hMore]
    exact endsBlank_concat_nil [last, body]
  rw [classify_append_of_ok hScan hThree, hBlank, Scanner.verdict_of_isSettled hSettled]
  simp

/-- **Unfinished means that more can help**, unless the logical line that is
open stands where it never can: an unfinished text has a continuation that is
complete exactly if it is not misplaced. -/
theorem exists_complete_iff_not_isMisplaced (mode : Mode) (text : List Char)
    (h : classify mode text = .incomplete) :
    (∃ more, classify mode (text ++ '\n' :: more) = .complete) ↔ ¬ IsMisplaced mode text := by
  constructor
  · rintro ⟨more, hComplete⟩ hMisplaced
    exact hMisplaced.classify_ne_complete more hComplete
  · intro hNot
    -- an unfinished text has been taken in, so there is a scanner to go on from
    obtain ⟨s, hScan, -⟩ := exists_scanLines_of_classify h (by simp)
    exact exists_classify_eq_complete hScan fun hStuck => hNot ⟨s, hScan, hStuck⟩

/-- A bracket that is open in a line which stands where it may can still be
closed. -/
theorem not_isMisplaced_of_bracket :
    classify .source ['x', '=', '('] = .incomplete ∧ ¬ IsMisplaced .source ['x', '=', '('] := by
  have h : classify .source ['x', '=', '('] = .incomplete := by decide +kernel
  exact ⟨h, (exists_complete_iff_not_isMisplaced .source _ h).mp ⟨[')'], by decide +kernel⟩⟩

/-- A bracket that is open in a line which starts where none can is not closed
by anything. -/
theorem incomplete_of_misplaced_bracket :
    classify .source [' ', '('] = .incomplete ∧
      ∀ more, classify .source ([' ', '('] ++ '\n' :: more) ≠ .complete := by
  refine ⟨by decide +kernel, fun more => IsMisplaced.classify_ne_complete ?_ more⟩
  -- one column in, where no block is open
  let l : Logical := ⟨1, 1, 1, .other, some .opening, false⟩
  have hLexemes : lexemes 1 ['('] = [.opening .round] := by
    rw [lexemes_cons (by decide) (by decide)]
    exact congrArg _ (lexemes_nil 1)
  have hAbsorb : Scanner.absorbLine {} 1 [' ', '('] =
      .ok { brackets := [(.round, 1)], logical := some l } := by
    change (lexemes 1 ['(']).foldlM (Scanner.absorb 1) _ = _
    rw [hLexemes]
    rfl
  -- stuck: the bracket is open, and when it is closed the line is refused
  refine ⟨{ brackets := [(.round, 1)], logical := some l }, ?_, rfl, l, rfl, rfl, ?_⟩
  · rw [physical_of_isLine (by simp [IsLine]), Scanner.scanLines, Scanner.scanLine_of_absorbLine hAbsorb]
    rfl
  · exact .inl ⟨⟨.unexpectedIndent, 1⟩, rfl⟩

end RemoteConsole.Statement
