import RemoteConsole.Proofs.Statement.Reading

/-!
# The scanner agrees with the reading

What the scanner holds open after some lines is what a reading of their
characters holds open. The proof is a simulation along the scanner's recursion:
`Scanner.view` forgets the lines of brackets and literals, the logical line and
the blocks, and a lexeme, the lexemes of a line, a line and a text that the
scanner takes in are read with the same outcome. The other direction fails by
design: the reading knows nothing of words and blocks, so it goes on where the
scanner has found a fault.

* `Scanner.view` — what the scanner holds open.
* `Lexeme.agrees_read` — a lexeme that is taken in is read with the same
  outcome.
* `Scanner.scanLines_reads` — so are lines.
* `classify_agrees` — a fault of the reading makes a text invalid, and what is
  open at the end of a text makes it unfinished.
-/

namespace RemoteConsole.Statement

namespace Scanner

/-- What the scanner holds open: it has the lines on which brackets and literals
were opened besides, which no reading needs. -/
def view (s : Scanner) : Reading where
  brackets := s.brackets.map Prod.fst
  literal := s.literal.map fun lit => (lit.quote, lit.triple)
  continued := s.continued

/-- The scanner stands in code within a line. -/
def InCode (s : Scanner) : Prop :=
  s.literal = none ∧ s.continued = false

@[simp] theorem view_add (s : Scanner) (line : Nat) (token : Token) (opening : Opening) :
    (s.add line token opening).view = s.view := rfl

@[simp] theorem view_addColon (s : Scanner) (line : Nat) : (s.addColon line).view = s.view := by
  unfold addColon
  dsimp only
  split <;> rfl

/-- Something is open in the view exactly if it is in the scanner. -/
@[simp] theorem view_isOpen (s : Scanner) : s.view.isOpen = s.isOpen := by
  simp [view, Reading.isOpen, isOpen]

/-- Whether the scanner stands in code can be told from what it holds open. -/
theorem inCode_of_view_eq {s s' : Scanner} (h : s'.view = s.view) (hCode : s.InCode) :
    s'.InCode := by
  simp only [view, Reading.mk.injEq] at h
  obtain ⟨-, hLiteral, hContinued⟩ := h
  rw [hCode.1] at hLiteral
  exact ⟨by simpa using hLiteral, hContinued.trans hCode.2⟩

end Scanner

/-! ## One lexeme -/

namespace Lexeme

/-- What is read of a text and what is left of it go together with a reading of
the characters: the reading goes on in code behind the lexeme, or the line ends
with it. The second case is that of a backslash at the end of a line and of a
literal that goes on below, which the next line takes up again. -/
def Agrees (line : Nat) (s : Scanner) (text : List Char) (found : Lexeme × List Char) : Prop :=
  ∀ s', Scanner.absorb line s found.1 = .ok s' →
    (s'.InCode ∧ Reading.readLine s.view.brackets none 0 text =
        Reading.readLine s'.view.brackets none 0 found.2) ∨
      (found.2 = [] ∧ Reading.readLine s.view.brackets none 0 text = some s'.view)

variable {line : Nat} {s : Scanner}

/-- A lexeme that is refused is not taken in, so nothing is asked of it. -/
theorem agrees_failure (text rest : List Char) (cause : Cause) :
    Agrees line s text (failure cause, rest) := by
  intro s' h
  cases h

/-- Whether a lexeme opens and closes nothing, so that only the characters it
takes up matter here. -/
def isPassed : Lexeme → Bool
  | word _ | value | operator _ | colon | separator => true
  | opening _ | closing _ | openLiteral _ | continuation | failure _ => false

/-- A lexeme that opens and closes nothing leaves what is open as it was. -/
theorem view_absorb {x : Lexeme} {s' : Scanner} (hPassed : x.isPassed = true)
    (h : Scanner.absorb line s x = .ok s') : s'.view = s.view := by
  cases x with
  | word | value | operator | separator => rw [← Except.ok.inj h, Scanner.view_add]
  | colon => rw [← Except.ok.inj h, Scanner.view_addColon]
  | opening | closing | openLiteral | continuation | failure => simp [isPassed] at hPassed

/-- A lexeme that opens and closes nothing agrees if the reading may go on
behind it: what is left of the text to show is that its characters are passed
over. -/
theorem agrees_of_isPassed {text : List Char} {found : Lexeme × List Char} (hCode : s.InCode)
    (hPassed : found.1.isPassed = true)
    (hRead : Reading.readLine s.view.brackets none 0 found.2 =
      Reading.readLine s.view.brackets none 0 text) : Agrees line s text found := by
  intro s' h
  have hView := view_absorb hPassed h
  left
  rw [hView, hRead]
  exact ⟨Scanner.inCode_of_view_eq hView hCode, rfl⟩

/-- A literal ends where the reading ends it, and carries over what the reading
carries over. Two quotes behind the first make it triple in the scanner and in
the reading alike, and the search for its end is the same from there on. -/
theorem agrees_readLiteral (hCode : s.InCode) (q : Quote) (rest : List Char) :
    Agrees line s (q.char :: rest) (readLiteral line q rest) := by
  intro s' h
  unfold readLiteral at h ⊢
  dsimp only at h ⊢
  generalize hTriple : [q.char, q.char].isPrefixOf rest = triple at h ⊢
  have hRead := Reading.readLine_quote s.view.brackets q rest
  -- both kinds of literal are read as the scanner closes them
  have hText : Reading.readLine s.view.brackets none 0 (q.char :: rest) =
      Reading.readLine s.view.brackets (some (q, triple)) 0 (if triple then rest.drop 2 else rest) := by
    -- the reading drops the two other quotes as the scanner does
    rw [hRead, hTriple]
    cases triple <;> rfl
  have hClose := Reading.readLine_literal s.view.brackets ⟨q, triple, line⟩
    (if triple then rest.drop 2 else rest)
  rw [hText, hClose]
  -- `readLine_literal` follows the same search, so the three outcomes
  -- correspond
  cases hEnd : Literal.close ⟨q, triple, line⟩ (if triple then rest.drop 2 else rest) with
  | closed rest' =>
    rw [hEnd] at h
    have hView := view_absorb rfl h
    left
    rw [hView]
    exact ⟨Scanner.inCode_of_view_eq hView hCode, rfl⟩
  | carried =>
    rw [hEnd] at h
    right
    rw [← Except.ok.inj h]
    refine ⟨rfl, ?_⟩
    simp [Scanner.view, Scanner.add, hCode.2]
  | unterminated =>
    rw [hEnd] at h
    cases h

/-- A lexeme behind a run of characters that are no marks agrees if it does
without them. Words, numbers and operators take up such runs. -/
theorem agrees_of_dropWhile {p : Char → Bool} (hp : Reading.marks.any p = false)
    {c : Char} (hc : c ∉ Reading.marks) {rest : List Char} {found : Lexeme × List Char}
    (h : Agrees line s (rest.dropWhile p) found) : Agrees line s (c :: rest) found := by
  unfold Agrees at h ⊢
  rwa [Reading.readLine_of_not_mem hc, ← Reading.readLine_dropWhile hp]

/-- No mark goes on a word; the table of letters and digits beyond ASCII is
searched by evaluation. -/
theorem any_marks_continuesWord : Reading.marks.any continuesWord = false := by
  decide +kernel

theorem any_marks_continuesNumber : Reading.marks.any continuesNumber = false := by
  decide +kernel

theorem any_marks_isOperatorSign : Reading.marks.any isOperatorSign = false := by
  decide

/-- A character that is taken for a quote is that quote. -/
theorem quote_of_ofChar? {c : Char} {q : Quote} (h : Quote.ofChar? c = some q) : c = q.char := by
  unfold Quote.ofChar? at h
  split at h
  · rw [← Option.some.inj h, Quote.char]
  · rw [← Option.some.inj h, Quote.char]
  · cases h

/-- A word agrees with the reading, the literal behind a prefix included.
Whether the word is a prefix decides what the scanner does, but either way the
quote behind it is where the reading opens the literal. -/
theorem agrees_readWord (hCode : s.InCode) {c : Char} (hc : c ∉ Reading.marks)
    (rest : List Char) : Agrees line s (c :: rest) (readWord line c rest) := by
  apply agrees_of_dropWhile any_marks_continuesWord hc
  unfold readWord
  dsimp only
  -- a quote behind the word opens a literal whether the word marks it or not
  split
  · next hEnd =>
    rw [hEnd]
    exact agrees_of_isPassed hCode rfl rfl
  · next d rest' hEnd =>
    rw [hEnd]
    split
    · next q hQuote =>
      split
      · rw [quote_of_ofChar? hQuote]
        exact agrees_readLiteral hCode q rest'
      · exact agrees_of_isPassed hCode rfl rfl
    · exact agrees_of_isPassed hCode rfl rfl

/-- A point agrees with the reading whether it is an ellipsis, starts a number
or stands alone. -/
theorem agrees_readPoint (hCode : s.InCode) (rest : List Char) :
    Agrees line s ('.' :: rest) (readPoint rest) := by
  have hPoint : '.' ∉ Reading.marks := by decide
  unfold readPoint
  split
  · refine agrees_of_isPassed hCode rfl ?_
    rw [Reading.readLine_of_not_mem hPoint, Reading.readLine_of_not_mem hPoint,
      Reading.readLine_of_not_mem hPoint]
  · next d rest' _ =>
    split
    · next hDigit =>
      refine agrees_of_isPassed hCode rfl ?_
      -- a digit is no mark, so the reading passes over the whole number
      have hMarks : Reading.marks.any Char.isDigit = false := by decide
      have hd : d ∉ Reading.marks := fun hMem => List.any_eq_false.mp hMarks d hMem hDigit
      rw [Reading.readLine_of_not_mem hPoint, Reading.readLine_of_not_mem hd,
        Reading.readLine_dropWhile any_marks_continuesNumber]
    · refine agrees_of_isPassed hCode rfl ?_
      rw [Reading.readLine_of_not_mem hPoint]
  · refine agrees_of_isPassed hCode rfl ?_
    rw [Reading.readLine_of_not_mem hPoint]

/-- A colon and a walrus agree with the reading. -/
theorem agrees_readColon (hCode : s.InCode) (rest : List Char) :
    Agrees line s (':' :: rest) (readColon rest) := by
  unfold readColon
  split
  · refine agrees_of_isPassed hCode rfl ?_
    rw [Reading.readLine_of_not_mem (by decide), Reading.readLine_of_not_mem (by decide)]
  · refine agrees_of_isPassed hCode rfl ?_
    rw [Reading.readLine_of_not_mem (by decide)]

/-- A backslash at the end of a line carries the line over in the scanner and in
the reading, and any other is refused. -/
theorem agrees_readBackslash (hCode : s.InCode) (rest : List Char) :
    Agrees line s ('\\' :: rest) (readBackslash rest) := by
  unfold readBackslash
  split
  · next hEnd =>
    rw [List.isEmpty_iff] at hEnd
    intro s' h
    right
    rw [hEnd, Reading.readLine_backslash, ← Except.ok.inj h]
    refine ⟨rfl, ?_⟩
    simp [Scanner.view, hCode.1]
  · exact agrees_failure _ _ _

/-- What starts with a character of no bracket and no literal agrees with the
reading. The cases are the branches of the scanner in their order; only the
backslash is a mark. -/
theorem agrees_readPlain (hCode : s.InCode) {c : Char} (hMarks : c ≠ '\\' → c ∉ Reading.marks)
    (rest : List Char) : Agrees line s (c :: rest) (readPlain line c rest) := by
  unfold readPlain
  split
  · next hBackslash =>
    subst hBackslash
    exact agrees_readBackslash hCode rest
  next hBackslash =>
  -- all that is left starts with a character that the reading passes over
  have hc : c ∉ Reading.marks := hMarks hBackslash
  split
  · next hColon =>
    subst hColon
    exact agrees_readColon hCode rest
  split
  · refine agrees_of_isPassed hCode rfl ?_
    rw [Reading.readLine_of_not_mem hc]
  split
  · next hPoint =>
    subst hPoint
    exact agrees_readPoint hCode rest
  split
  · refine agrees_of_isPassed hCode rfl ?_
    rw [Reading.readLine_of_not_mem hc, Reading.readLine_dropWhile any_marks_continuesNumber]
  split
  · exact agrees_readWord hCode hc rest
  split
  · refine agrees_of_isPassed hCode rfl ?_
    rw [Reading.readLine_of_not_mem hc]
    exact Reading.readLine_dropWhile any_marks_isOperatorSign ..
  split
  · exact agrees_failure _ _ _
  · exact agrees_failure _ _ _

/-- A closing bracket that the scanner takes in is the partner of the innermost
open one, which the reading asks for too. -/
theorem agrees_closing (hCode : s.InCode) (b : Bracket) (rest : List Char) :
    Agrees line s (b.closeChar :: rest) (closing b, rest) := by
  intro s' h
  change s.closeBracket line b = .ok s' at h
  unfold Scanner.closeBracket at h
  split at h
  · cases h
  · next inner openLine outer hBrackets =>
    split at h
    -- the kinds agree, or the bracket is refused
    · next hSame =>
      left
      rw [← Except.ok.inj h]
      refine ⟨hCode, ?_⟩
      -- the view has the same innermost bracket, without its line
      have hTop : s.view.brackets = b :: outer.map Prod.fst := by
        simp [Scanner.view, hBrackets, hSame]
      rw [hTop, Reading.readLine_close]
      rfl
    · cases h

/-- An opening bracket becomes the innermost one in the scanner and in the
reading. -/
theorem agrees_opening (hCode : s.InCode) (b : Bracket) (rest : List Char) :
    Agrees line s (b.openChar :: rest) (opening b, rest) := by
  intro s' h
  left
  rw [← Except.ok.inj h, Reading.readLine_open]
  exact ⟨hCode, rfl⟩

/-- A character that is taken for an opening bracket is that bracket's. -/
theorem bracket_of_ofOpen? {c : Char} {b : Bracket} (h : Bracket.ofOpen? c = some b) :
    c = b.openChar := by
  unfold Bracket.ofOpen? at h
  split at h
  · rw [← Option.some.inj h, Bracket.openChar]
  · rw [← Option.some.inj h, Bracket.openChar]
  · rw [← Option.some.inj h, Bracket.openChar]
  · cases h

/-- A character that is taken for a closing bracket is that bracket's. -/
theorem bracket_of_ofClose? {c : Char} {b : Bracket} (h : Bracket.ofClose? c = some b) :
    c = b.closeChar := by
  unfold Bracket.ofClose? at h
  split at h
  · rw [← Option.some.inj h, Bracket.closeChar]
  · rw [← Option.some.inj h, Bracket.closeChar]
  · rw [← Option.some.inj h, Bracket.closeChar]
  · cases h

/-- A character that starts no comment, no continuation, no literal and is no
bracket is no mark: the scanner's own tests cover all of the reading's marks. -/
theorem not_mem_marks {c : Char} (hComment : c ≠ '#') (hBackslash : c ≠ '\\')
    (hQuote : Quote.ofChar? c = none) (hOpen : Bracket.ofOpen? c = none)
    (hClose : Bracket.ofClose? c = none) : c ∉ Reading.marks := by
  intro hMem
  simp only [Reading.marks, List.mem_cons, List.not_mem_nil, or_false] at hMem
  rcases hMem with rfl | rfl | rfl | rfl | rfl | rfl | rfl | rfl | rfl | rfl
  · exact hComment rfl
  · exact hBackslash rfl
  · cases hQuote
  · cases hQuote
  · cases hOpen
  · cases hClose
  · cases hOpen
  · cases hClose
  · cases hOpen
  · cases hClose

/-- A lexeme that is taken in is read with the same outcome. A comment is left
out here, as it is no lexeme and the scanner drops it before. -/
theorem agrees_read (hCode : s.InCode) {c : Char} (hComment : c ≠ '#') (rest : List Char) :
    Agrees line s (c :: rest) (read line c rest) := by
  unfold read
  split
  · next hQuote =>
    -- a quote, an opening and a closing bracket, and anything else
    rw [quote_of_ofChar? hQuote]
    exact agrees_readLiteral hCode _ rest
  · next hOpen _ =>
    rw [bracket_of_ofOpen? hOpen]
    exact agrees_opening hCode _ rest
  · next hClose _ _ =>
    rw [bracket_of_ofClose? hClose]
    exact agrees_closing hCode _ rest
  · next hQuote hOpen hClose =>
    refine agrees_readPlain hCode (fun hBackslash => ?_) rest
    exact not_mem_marks hComment hBackslash (Option.eq_none_iff_forall_ne_some.mpr hQuote)
      (Option.eq_none_iff_forall_ne_some.mpr hOpen) (Option.eq_none_iff_forall_ne_some.mpr hClose)

end Lexeme

namespace Scanner

/-! ## Lines -/

variable {mode : Mode} {line : Nat}

theorem any_marks_isGap : Reading.marks.any isGap = false := by
  decide

/-- Lexemes that are taken in are read with the same outcome, by the scanner's
recursion along a line. The reading is of the whole line from the start, so each
lexeme's agreement is used to move it on. -/
theorem foldlM_reads {s s' : Scanner} {text : List Char} (hCode : s.InCode)
    (h : (lexemes line text).foldlM (absorb line) s = .ok s') :
    Reading.readLine s.view.brackets none 0 text = some s'.view := by
  -- along the lexemes: nothing left, a blank, a comment, or a lexeme and what
  -- it leaves
  fun_induction lexemes line text generalizing s with
  | case1 =>
    rw [← Except.ok.inj h]
    simp [Reading.readLine, view, hCode.1, hCode.2]
  | case2 c rest hGap ih =>
    have hc : c ∉ Reading.marks := fun hMem =>
      List.any_eq_false.mp any_marks_isGap c hMem hGap
    -- a blank between lexemes opens and closes nothing
    rw [Reading.readLine_of_not_mem hc]
    exact ih hCode h
  | case3 =>
    rw [← Except.ok.inj h, Reading.readLine_comment]
    simp [view, hCode.1, hCode.2]
  | case4 c rest _ hComment ih =>
    rw [List.foldlM_cons] at h
    cases hNext : absorb line s (Lexeme.read line c rest).1 with
    | error e =>
      rw [hNext] at h
      cases h
    | ok next =>
      rw [hNext] at h
      -- the reading goes on behind the lexeme, or the line ended with it
      rcases Lexeme.agrees_read hCode hComment rest next hNext with ⟨hCode', hRead⟩ | ⟨hEnd, hRead⟩
      · rw [hRead]
        exact ih hCode' h
      · -- the lexeme has taken the rest of the line, so no other follows it
        rw [hEnd, lexemes_nil] at h
        rw [hRead, ← Except.ok.inj h]

/-- The end of a logical line opens and closes no bracket and no literal; it is
about blocks. -/
theorem view_of_finishLogical {s s' : Scanner} (h : s.finishLogical mode = .ok s') :
    s'.view = s.view := by
  obtain ⟨blocks, top, rfl⟩ := finishLogical_eq h
  rfl

/-- Code that is taken in is read with the same outcome, whether the logical
line ends with it or goes on. -/
theorem scanCode_reads {s s' : Scanner} {code : List Char} (hCode : s.InCode)
    (h : s.scanCode mode line code = .ok s') :
    Reading.readLine s.view.brackets none 0 code = some s'.view := by
  unfold scanCode at h
  split at h
  · cases h
  · next next hFold =>
    rw [foldlM_reads hCode hFold]
    split at h
    · rw [← Except.ok.inj h]
    · rw [view_of_finishLogical h]

/-- A line without code is read as such: it leaves the brackets and opens
nothing. -/
theorem readLine_of_isIdle {code : List Char} (h : isIdle code = true) (brackets : List Bracket) :
    Reading.readLine brackets none 0 code = some ⟨brackets, none, false⟩ := by
  cases code with
  | nil => rfl
  | cons c rest =>
    have hComment : c = '#' := by simpa [isIdle] using h
    rw [hComment, Reading.readLine_comment]

/-- A line that is taken in is read with the same outcome. A line starts in one
of three ways, with a logical line, within one or within a literal, and the
reading tells them apart by what is open. -/
theorem scanLine_reads {s s' : Scanner} {text : List Char} (hBefore : s.AtLineEnd)
    (h : s.scanLine mode line text = .ok s') : s.view.next text = some s'.view := by
  unfold scanLine at h
  split at h
  · next hLogical =>
    -- nothing is open where a logical line starts
    have hOpen : s.literal = none ∧ s.continued = false ∧ s.brackets = [] := by
      unfold AtLineEnd at hBefore
      simpa [hLogical, isOpen, and_assoc] using hBefore.symm
    obtain ⟨hLiteral, hContinued, hBrackets⟩ := hOpen
    have hNext : s.view.next text = Reading.readLine s.view.brackets none 0 (indentation text).2 := by
      rw [indentation_snd, Reading.readLine_dropWhile any_marks_isGap]
      simp [Reading.next, view, hLiteral]
    rw [hNext]
    unfold startLine at h
    dsimp only at h
    split at h
    · next hIdle =>
      -- a blank line or a comment, of which neither takes anything in
      rw [readLine_of_isIdle hIdle, ← Except.ok.inj h]
      simp [view, hLiteral, hContinued]
    · have hRead := scanCode_reads (by exact ⟨hLiteral, hContinued⟩) h
      exact hRead
  -- a logical line goes on, behind a line end in code or within a literal
  · unfold continueLine at h
    split at h
    · next hLiteral =>
      have hNext : s.view.next text = Reading.readLine s.view.brackets none 0 text := by
        simp [Reading.next, view, hLiteral]
      rw [hNext]
      have hRead := scanCode_reads (by exact ⟨hLiteral, rfl⟩) h
      exact hRead
    · next lit hLiteral =>
      have hNext : s.view.next text =
          Reading.readLine s.view.brackets (some (lit.quote, lit.triple)) 0 text := by
        simp [Reading.next, view, hLiteral]
      rw [hNext, Reading.readLine_literal]
      -- the literal ends on this line and code follows, or it goes on
      cases hEnd : lit.close text with
      | closed rest =>
        rw [hEnd] at h
        have hRead := scanCode_reads ⟨rfl, rfl⟩ h
        exact hRead
      | carried =>
        rw [hEnd] at h
        rw [← Except.ok.inj h]
        simp [view, hLiteral]
      | unterminated =>
        rw [hEnd] at h
        cases h

/-- Lines that are taken in are read with the same outcome. The induction is on
the lines; what is carried along is that nothing is open between logical
lines. -/
theorem scanLines_reads {s s' : Scanner} {lines : List (List Char)} (hBefore : s.AtLineEnd)
    (h : s.scanLines mode line lines = .ok s') :
    lines.foldlM Reading.next s.view = some s'.view := by
  induction lines generalizing s line with
  | nil => rw [← Except.ok.inj h]; rfl
  | cons text rest ih =>
    rw [scanLines] at h
    split at h
    · cases h
    · next next hLine =>
      rw [List.foldlM_cons, scanLine_reads hBefore hLine]
      exact ih (scanLine_atLineEnd hBefore hLine) h

end Scanner

/-! ## Texts -/

/-- A text that is taken in is read with the same outcome, since both start with
nothing open. -/
theorem reading_of_scanLines {mode : Mode} {text : List Char} {s : Scanner}
    (h : Scanner.scanLines mode {} 1 (physical text) = .ok s) : reading text = some s.view :=
  Scanner.scanLines_reads Scanner.atLineEnd_start h

/-- **Agreement with the reading.** A text whose reading meets a closing bracket
without its partner, or a line end that a literal does not survive, is invalid.
A text that is not invalid has a reading, and it is unfinished if something is
open at its end. So nothing is open at the end of a finished one. -/
theorem classify_agrees (mode : Mode) (text : List Char) :
    (reading text = none → ∃ e, classify mode text = .invalid e) ∧
      ((∀ e, classify mode text ≠ .invalid e) → ∃ r, reading text = some r ∧
        (r.isOpen = true → classify mode text = .incomplete)) ∧
      (classify mode text = .complete → reading text = some {}) := by
  rw [classify_eq, classifyLines]
  cases hScan : Scanner.scanLines mode {} 1 (physical text) with
  | error e =>
    -- a text with a fault is invalid, and the other two parts say nothing of it
    refine ⟨fun _ => ⟨e, rfl⟩, fun hValid => absurd rfl (hValid e), ?_⟩
    intro hComplete
    cases hComplete
  | ok s =>
    have hRead := reading_of_scanLines hScan
    dsimp only
    rw [hRead]
    refine ⟨?_, fun _ => ⟨s.view, rfl, ?_⟩, ?_⟩
    · intro hNone
      cases hNone
    · intro hOpen
      rw [Scanner.view_isOpen] at hOpen
      rw [Scanner.verdict, if_pos hOpen]
    · intro hComplete
      -- a complete verdict is given only if nothing is open
      have hOpen : s.isOpen = false := by
        by_cases h : s.isOpen = true
        · rw [Scanner.verdict, if_pos h] at hComplete
          cases hComplete
        · simpa using h
      simp only [Scanner.isOpen, Bool.or_eq_false_iff, Option.isSome_eq_false_iff,
        Option.isNone_iff_eq_none, Bool.not_eq_false', List.isEmpty_iff] at hOpen
      obtain ⟨⟨hLiteral, hContinued⟩, hBrackets⟩ := hOpen
      simp [Scanner.view, hLiteral, hContinued, hBrackets]

-- what stands in a comment or a literal opens nothing
example : reading "f('''a\n(''', [1, # (\n".toList = some ⟨[.square, .round], none, false⟩ := by
  decide

end RemoteConsole.Statement
