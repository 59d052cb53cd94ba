import RemoteConsole.Proofs.Statement.PhysicalLine

/-!
# Faults stay

The scanner stops at the first fault, so a fault found while lines are scanned
is found again whatever lines follow, with the same message and line. The one
fault that is not found in this way is seen only at the end of an interactive
text: a blank line says that the block after a header, or the definition after a
decorator, will not come. More lines take that back.

* `Scanner.scanLines_source` — what an interactive text may hold, any text may
  hold.
* `AwaitsBody` — a text scans, ends in a blank line, and a header or a decorator
  waits.
* `invalid_final` — an invalid text stays invalid in the same way exactly if it
  is not an interactive one that awaits a body; as a source such a text is only
  unfinished.
-/

namespace RemoteConsole.Statement

/-! ## Interactive and other texts -/

/-- An interactive text is held to one statement, and any text may hold one. -/
theorem TopLevel.accept_source {mode : Mode} {t t' : TopLevel} {opening : Opening} {isHeader : Bool}
    {line : Nat} (h : t.accept mode opening isHeader line = .ok t') :
    t.accept .source opening isHeader line = .ok t' := by
  unfold accept at h ⊢
  cases hPrevious : t.previous with
  | none =>
    rw [hPrevious] at h
    exact h
  | some previous =>
    rw [hPrevious] at h
    dsimp only at h
    -- something that may not follow, or a second statement, of which only the
    -- first is refused in a source
    split at h
    · cases h
    · simpa using h

namespace Scanner

/-- What may end in an interactive text may end in a source. The checks of the
two modes differ only at the outermost level. -/
theorem settle_source {mode : Mode} {s s' : Scanner} {l : Logical}
    (h : s.settle mode l = .ok s') : s.settle .source l = .ok s' := by
  unfold settle at h ⊢
  cases hShape : checkShape l with
  | error e =>
    rw [hShape] at h
    cases h
  | ok header =>
    cases hBlocks : s.blocks.accept l.indent l.line with
    | error e =>
      rw [hShape, hBlocks] at h
      cases h
    | ok blocks =>
      rw [hShape, hBlocks] at h
      dsimp only at h ⊢
      -- only the outermost level looks at the mode
      by_cases hOutermost : l.indent = 0
      · rw [if_pos hOutermost] at h ⊢
        cases hTop : s.top.accept mode l.opening header.isSome l.line with
        | error e =>
          rw [hTop] at h
          cases h
        | ok top =>
          rw [TopLevel.accept_source hTop]
          rwa [hTop] at h
      · rwa [if_neg hOutermost] at h ⊢

/-- A logical line that is finished in an interactive text is finished in a
source. -/
theorem finishLogical_source {mode : Mode} {s s' : Scanner} (h : s.finishLogical mode = .ok s') :
    s.finishLogical .source = .ok s' := by
  unfold finishLogical at h ⊢
  split at h
  · exact h
  · split at h
    · next hEmpty => rw [if_pos hEmpty, h]
    · next hTokens =>
      rw [if_neg hTokens]
      exact settle_source h

/-- Code that is taken in by an interactive text is taken in by a source. -/
theorem scanCode_source {mode : Mode} {s s' : Scanner} {line : Nat} {code : List Char}
    (h : s.scanCode mode line code = .ok s') : s.scanCode .source line code = .ok s' := by
  unfold scanCode at h ⊢
  split at h
  · cases h
  · next next hFold =>
    split at h
    · next hOpen => rw [if_pos hOpen, h]
    · next hClosed =>
      rw [if_neg hClosed]
      exact finishLogical_source h

/-- A line that is taken in by an interactive text is taken in by a source. -/
theorem scanLine_source {mode : Mode} {s s' : Scanner} {line : Nat} {text : List Char}
    (h : s.scanLine mode line text = .ok s') : s.scanLine .source line text = .ok s' := by
  unfold scanLine at h ⊢
  split at h
  · unfold startLine at h ⊢
    dsimp only at h ⊢
    split at h
    · next hIdle => rw [if_pos hIdle, h]
    · next hCode =>
      rw [if_neg hCode]
      exact scanCode_source h
  · unfold continueLine at h ⊢
    split at h
    · exact scanCode_source h
    · split at h
      · exact scanCode_source h
      · exact h
      · cases h

/-- What an interactive text may hold, any text may hold. -/
theorem scanLines_source {mode : Mode} {s s' : Scanner} {line : Nat} {lines : List (List Char)}
    (h : s.scanLines mode line lines = .ok s') : s.scanLines .source line lines = .ok s' := by
  induction lines generalizing s line with
  | nil => exact h
  | cons text rest ih =>
    rw [scanLines] at h ⊢
    split at h
    · cases h
    · next hLine =>
      rw [scanLine_source hLine]
      exact ih h

/-! ## The fault at the end of a text -/

/-- A header or a decorator at the outermost level waits for what has to follow
it. -/
def awaitsBody (s : Scanner) : Bool :=
  s.blocks.header.isSome || s.top.awaitsDecorated

/-- At the end of a text there is a fault only if a blank line ends an
interactive statement that awaits its body, and its line is the last one. -/
theorem of_verdict_eq_invalid {mode : Mode} {s : Scanner} {count : Nat} {blankEnd : Bool}
    {e : SyntaxError} (h : s.verdict mode count blankEnd = .invalid e) :
    mode = .interactive ∧ blankEnd = true ∧ s.isOpen = false ∧ s.awaitsBody = true ∧
      e.line = count := by
  unfold verdict at h
  split at h
  · cases h
  · next hOpen =>
    rw [Bool.not_eq_true] at hOpen
    split at h
    -- a header without its body, or a decorator without its definition
    · next header hHeader =>
      split at h
      · next hEnd =>
        rw [← Verdict.invalid.inj h]
        exact ⟨hEnd.1, hEnd.2, hOpen, by simp [awaitsBody, hHeader], rfl⟩
      · cases h
    · split at h
      · next hDecorator =>
        split at h
        · next hEnd =>
          rw [← Verdict.invalid.inj h]
          exact ⟨hEnd.1, hEnd.2, hOpen, by simp [awaitsBody, hDecorator], rfl⟩
        · cases h
      · split at h <;> cases h

/-- A source that awaits a body is unfinished. -/
theorem verdict_source_of_awaitsBody {s : Scanner} (h : s.awaitsBody = true) (count : Nat)
    (blankEnd : Bool) : s.verdict .source count blankEnd = .incomplete := by
  unfold verdict
  split
  · rfl
  · split
    · rw [if_neg (by simp)]
    · next hHeader =>
      have hDecorator : s.top.awaitsDecorated = true := by
        simpa [awaitsBody, hHeader] using h
      rw [if_pos hDecorator, if_neg (by simp)]

end Scanner

/-! ## Invalid texts -/

/-- A text scans without fault as an interactive one, its last line is blank,
and a header or a decorator waits for what has to follow it. -/
def AwaitsBody (text : List Char) : Prop :=
  ∃ s : Scanner, Scanner.scanLines .interactive {} 1 (physical text) = .ok s ∧
    endsBlank (physical text) = true ∧ s.awaitsBody = true

/-- A fault that is found while lines are scanned is found whatever follows. -/
theorem classify_append_of_error {mode : Mode} {text : List Char} {e : SyntaxError}
    (h : Scanner.scanLines mode {} 1 (physical text) = .error e) (more : List Char) :
    classify mode (text ++ '\n' :: more) = .invalid e := by
  rw [classify_eq, physical_append, classifyLines, Scanner.scanLines_append, h]
  rfl

/-- A blank line more moves a fault at the end of a text to another line. -/
theorem line_of_classify_append {mode : Mode} {text : List Char} {s : Scanner} {e : SyntaxError}
    (hScan : Scanner.scanLines mode {} 1 (physical text) = .ok s) (hOpen : s.isOpen = false)
    (h : classify mode (text ++ ['\n']) = .invalid e) : e.line = (physical text).length + 1 := by
  have hEnd := Scanner.scanLines_atLineEnd Scanner.atLineEnd_start hScan
  have hLogical : s.logical = none := by
    rw [Scanner.AtLineEnd, hOpen] at hEnd
    simpa using hEnd
  -- the empty line behind the text changes nothing of the scanner
  have hBlank : ∀ line, s.scanLines mode line [[]] = .ok s := by
    intro line
    simp [Scanner.scanLines, Scanner.scanLine, hLogical, Scanner.startLine, indentation,
      indentationFrom, Scanner.isIdle]
  have hAppend : Scanner.scanLines mode {} 1 (physical (text ++ ['\n'])) = .ok s := by
    rw [physical_append, Scanner.scanLines_append, hScan]
    exact hBlank _
  rw [classify_eq, classifyLines, hAppend] at h
  -- so the fault is one of the end, on the last line
  obtain ⟨-, -, -, -, hLine⟩ := Scanner.of_verdict_eq_invalid h
  rw [hLine, physical_append, List.length_append]
  rfl

/-- **Invalid is final.** Whatever lines follow an invalid text, it stays
invalid with the same message and line. The only exception is an interactive
text that awaits a body after its last, blank line: it always has a continuation
that takes its fault back, and as a source it is unfinished. -/
theorem invalid_final (mode : Mode) (text : List Char) (e : SyntaxError)
    (h : classify mode text = .invalid e) :
    ((∀ more, classify mode (text ++ '\n' :: more) = .invalid e) ↔
        ¬ (mode = .interactive ∧ AwaitsBody text)) ∧
      (AwaitsBody text → classify .source text = .incomplete) := by
  refine ⟨⟨?_, ?_⟩, ?_⟩
  · rintro hFinal ⟨rfl, s, hScan, hBlank, hAwaits⟩
    rw [classify_eq, classifyLines, hScan] at h
    obtain ⟨-, -, hOpen, -, hLine⟩ := Scanner.of_verdict_eq_invalid h
    -- one more blank line leaves the fault, but on a later line
    have hNext := line_of_classify_append hScan hOpen (hFinal [])
    omega
  · intro hNot more
    cases hScan : Scanner.scanLines mode {} 1 (physical text) with
    | error e' =>
      rw [classify_eq, classifyLines, hScan] at h
      rw [← Verdict.invalid.inj h]
      exact classify_append_of_error hScan more
    | ok s =>
      rw [classify_eq, classifyLines, hScan] at h
      obtain ⟨rfl, hBlank, -, hAwaits, -⟩ := Scanner.of_verdict_eq_invalid h
      exact absurd ⟨rfl, s, hScan, hBlank, hAwaits⟩ hNot
  · rintro ⟨s, hScan, -, hAwaits⟩
    rw [classify_eq, classifyLines, Scanner.scanLines_source hScan]
    exact Scanner.verdict_source_of_awaitsBody hAwaits _ _

-- a block that comes after all takes the fault back
example : classify .interactive "if x:\n".toList = .invalid ⟨.expectedBlock ⟨1, .ifWord⟩, 2⟩ ∧
    classify .interactive "if x:\n\n y\n".toList = .complete := by decide +kernel

/-- Nothing closes a bracket that was never opened. -/
theorem invalid_final_of_unmatched :
    classify .interactive [')'] = .invalid ⟨.unmatched .round, 1⟩ ∧
      ∀ more, classify .interactive (')' :: '\n' :: more) = .invalid ⟨.unmatched .round, 1⟩ := by
  have h : classify .interactive [')'] = .invalid ⟨.unmatched .round, 1⟩ := by decide +kernel
  refine ⟨h, (invalid_final .interactive [')'] _ h).1.mpr ?_⟩
  rintro ⟨-, s, -, hBlank, -⟩
  exact absurd hBlank (by decide)

end RemoteConsole.Statement
