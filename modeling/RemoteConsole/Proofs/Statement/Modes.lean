import RemoteConsole.Proofs.Statement.Continuation
import RemoteConsole.Proofs.Statement.Outline

/-!
# The two modes

An interactive text is held to one statement, and that is all the scanner knows
of its mode. So both scans of a text go together line by line until the
interactive one finds a second statement. It finds that where a logical line
ends, and names the line on which it starts. Whatever the other scan finds later
lies on a later line, as a fault is never reported in front of the logical line
that is being read.

* `Scanner.Since` — a scanner that speaks of no line in front of a given one.
* `Scanner.scanLines_modes` — both scans agree, or the interactive one finds a
  second statement first.
* `classify_modes` — what the verdicts in the two modes have to do with each
  other.
-/

namespace RemoteConsole.Statement

namespace Scanner

/-! ## Faults lie in the logical line being read -/

/-- A scanner that speaks of no line in front of a given one. -/
structure Since (first : Nat) (s : Scanner) : Prop where
  logical : ∀ l ∈ s.logical, first ≤ l.line ∧ first ≤ l.endLine
  literal : ∀ lit ∈ s.literal, first ≤ lit.line

/-- Where neither a logical line nor a literal is open nothing is spoken of. -/
theorem since_of_eq_none {s : Scanner} (hLogical : s.logical = none) (hLiteral : s.literal = none)
    (first : Nat) : Since first s where
  logical l hl := by simp [hLogical] at hl
  literal lit hLit := by simp [hLiteral] at hLit

/-- A line that is taken in is a later one, so what is spoken of behind it is no
earlier. The logical line keeps its first line and ends on this one, or it
starts here. -/
theorem Since.absorbLine {first line : Nat} {s s' : Scanner} {text : List Char} (h : Since first s)
    (hLine : first ≤ line) (hAbsorb : s.absorbLine line text = .ok s') : Since first s' where
  logical l' hl' := by
    obtain ⟨l, hl, hGrows⟩ := exists_grows_of_absorbLine hAbsorb hl'
    -- the logical line was there before, or it starts on this line
    have hBefore : first ≤ l.line ∧ first ≤ l.endLine := by
      rcases hl with hOld | rfl
      · exact h.logical l hOld
      · exact ⟨hLine, hLine⟩
    rw [hGrows.line_eq]
    rcases hGrows.endLine_eq with hSame | hNew
    · exact ⟨hBefore.1, hSame ▸ hBefore.2⟩
    · exact ⟨hBefore.1, hNew ▸ hLine⟩
  literal lit hLit := by
    rcases literal_absorbLine hAbsorb lit hLit with hOld | hNew
    · exact h.literal lit hOld
    · exact hNew ▸ hLine

/-- The end of a logical line is spoken of no more. -/
theorem Since.endLine {first : Nat} {mode : Mode} {s s' : Scanner} (h : Since first s)
    (hEnd : s.endLine mode = .ok s') : Since first s' := by
  rcases endLine_eq_ok hEnd with ⟨-, rfl⟩ | ⟨-, blocks, top, rfl⟩
  · exact h
  · exact ⟨fun l hl => (by cases hl), h.literal⟩

/-- A fault within a line lies on it, or it is that of a literal opened
before. -/
theorem Since.le_line_of_absorbLine {first line : Nat} {s : Scanner} {text : List Char}
    {e : SyntaxError} (h : Since first s) (hLine : first ≤ line)
    (hError : s.absorbLine line text = .error e) : first ≤ e.line := by
  rcases (of_absorbLine_eq_error hError).1 with hHere | ⟨lit, hLit, rfl⟩
  · exact hHere ▸ hLine
  · exact h.literal lit hLit

/-- A fault at the end of a logical line lies on its first line or on its
last. -/
theorem Since.le_line_of_endLine {first : Nat} {mode : Mode} {s : Scanner} {e : SyntaxError}
    (h : Since first s) (hError : s.endLine mode = .error e) : first ≤ e.line := by
  obtain ⟨l, hLogical, hSettle⟩ := exists_settle_of_endLine hError
  obtain ⟨hStart, hEnd⟩ := h.logical l hLogical
  -- the three checks of a logical line, each with a line of its own
  rcases settle_eq_error hSettle with hShape | ⟨-, hTake | ⟨-, hMeet⟩⟩
  · exact (checkShape_eq_error hShape).1 ▸ hEnd
  · exact (Blocks.take_eq_error hTake).1 ▸ hStart
  · exact (TopLevel.meet_eq_error hMeet).2 ▸ hStart

/-- A fault is never reported in front of the logical line that is being read.
The induction is on the lines. -/
theorem Since.le_line_of_scanLines {first line : Nat} {mode : Mode} {s : Scanner}
    {lines : List (List Char)} {e : SyntaxError} (h : Since first s) (hLine : first ≤ line)
    (hError : s.scanLines mode line lines = .error e) : first ≤ e.line := by
  induction lines generalizing s line with
  | nil => cases hError
  | cons text rest ih =>
    cases hAbsorb : s.absorbLine line text with
    | error e' =>
      rw [scanLines_cons_of_error (scanLine_of_absorbLine_error hAbsorb)] at hError
      obtain rfl := Except.error.inj hError
      exact h.le_line_of_absorbLine hLine hAbsorb
    | ok read =>
      -- the line has been taken in, so the fault is at its end or on a later
      -- line
      have hRead := h.absorbLine hLine hAbsorb
      have hScan := scanLine_of_absorbLine hAbsorb mode
      cases hNext : read.endLine mode with
      | error e' =>
        rw [scanLines_cons_of_error (hScan.trans hNext)] at hError
        obtain rfl := Except.error.inj hError
        exact hRead.le_line_of_endLine hNext
      | ok next =>
        rw [scanLines_cons_of_ok (hScan.trans hNext)] at hError
        exact ih (hRead.endLine hNext) (by omega) hError

/-! ## Both scans of a text -/

end Scanner

/-- The outermost level refuses a second statement in interactive mode, and
otherwise it does the same in both. -/
theorem TopLevel.meet_modes (t : TopLevel) (l : Logical) :
    t.meet .interactive l = t.meet .source l ∨
      (t.meet .interactive l = .error ⟨.multipleStatements, l.line⟩ ∧
        ∃ t', t.meet .source l = .ok t') := by
  unfold meet accept
  split
  · split
    · exact .inl rfl
    · next previous _ =>
      -- the mode is looked at only where the line does not go on with the
      -- statement
      by_cases hSecond : continues t.compound previous l.opening = false
      · right
        rw [if_pos ⟨rfl, hSecond⟩, if_neg (by simp)]
        exact ⟨rfl, _, rfl⟩
      · left
        rw [if_neg (by simp [hSecond]), if_neg (by simp)]
  · exact .inl rfl

namespace Scanner

/-- So a logical line comes to the same in both modes, unless it is a second
statement with no fault of its own. -/
theorem settle_modes (s : Scanner) (l : Logical) :
    s.settle .interactive l = s.settle .source l ∨
      (s.settle .interactive l = .error ⟨.multipleStatements, l.line⟩ ∧
        ∃ s', s.settle .source l = .ok s') := by
  rw [settle_eq_bind, settle_eq_bind]
  -- shape and blocks are checked first, and without the mode
  cases checkShape l with
  | error e => exact .inl rfl
  | ok header =>
    cases s.blocks.take l.placed with
    | error e => exact .inl rfl
    | ok blocks =>
      -- the outermost level comes last, so nothing is wrong with the line but
      -- its place
      rcases s.top.meet_modes l with hSame | ⟨hError, t', hOk⟩
      · rw [hSame]
        exact .inl rfl
      · rw [hError, hOk]
        exact .inr ⟨rfl, _, rfl⟩

/-- The same at the end of a physical line, where nothing is open any more if a
second statement is found. -/
theorem endLine_modes (s : Scanner) :
    s.endLine .interactive = s.endLine .source ∨
      ∃ l, s.logical = some l ∧ s.endLine .interactive = .error ⟨.multipleStatements, l.line⟩ ∧
        s.isOpen = false ∧ ∃ s', s.endLine .source = .ok s' := by
  unfold endLine finishLogical
  cases hOpen : s.isOpen with
  | true => exact .inl rfl
  | false =>
    cases hLogical : s.logical with
    | none => exact .inl rfl
    | some l =>
      -- a line without a token is no statement in either mode
      cases hToken : l.last.isNone with
      | true => exact .inl (by simp [hToken])
      | false =>
        rcases s.settle_modes l with hSame | ⟨hError, s', hOk⟩
        · exact .inl (by simp [hToken, hSame])
        · exact .inr ⟨l, rfl, by simp [hToken, hError], rfl, s', by simp [hToken, hOk]⟩

/-- Both scans agree, or the interactive one finds a second statement in front
of all faults of the other. The induction is on the lines. As long as the scans
agree they hold the same scanner; where they part, the other one goes on with
nothing open, so all that it finds later lies on later lines. -/
theorem scanLines_modes {s : Scanner} {line : Nat} (hLine : ∀ l ∈ s.logical, l.line < line)
    (lines : List (List Char)) :
    s.scanLines .interactive line lines = s.scanLines .source line lines ∨
      ∃ n, s.scanLines .interactive line lines = .error ⟨.multipleStatements, n⟩ ∧
        ∀ e, s.scanLines .source line lines = .error e → n < e.line := by
  induction lines generalizing s line with
  | nil => exact .inl rfl
  | cons text rest ih =>
    cases hAbsorb : s.absorbLine line text with
    | error e =>
      left
      rw [scanLines_cons_of_error (scanLine_of_absorbLine_error hAbsorb),
        scanLines_cons_of_error (scanLine_of_absorbLine_error hAbsorb)]
    | ok read =>
      -- the logical line being read has started on this line or before
      have hRead : ∀ l ∈ read.logical, l.line ≤ line := by
        intro l' hl'
        obtain ⟨l, hl, hGrows⟩ := exists_grows_of_absorbLine hAbsorb hl'
        rw [hGrows.line_eq]
        rcases hl with hOld | rfl
        · exact Nat.le_of_lt (hLine l hOld)
        · exact Nat.le_refl _
      have hInteractive := scanLine_of_absorbLine hAbsorb .interactive
      have hSource := scanLine_of_absorbLine hAbsorb .source
      rcases read.endLine_modes with hSame | ⟨l, hLogical, hError, hOpen, next, hNext⟩
      -- both scans go on with the same scanner, or both stop
      · rw [hSame] at hInteractive
        cases hNext : read.endLine .source with
        | error e =>
          left
          rw [scanLines_cons_of_error (hInteractive.trans hNext),
            scanLines_cons_of_error (hSource.trans hNext)]
        | ok next =>
          rw [scanLines_cons_of_ok (hInteractive.trans hNext),
            scanLines_cons_of_ok (hSource.trans hNext)]
          apply ih
          intro l hl
          rcases endLine_eq_ok hNext with ⟨-, rfl⟩ | ⟨-, blocks, top, rfl⟩
          · have hLe := hRead l hl
            omega
          · cases hl
      -- the interactive scan stops at a second statement, the other one goes on
      · right
        rw [scanLines_cons_of_error (hInteractive.trans hError), scanLines_cons_of_ok (hSource.trans hNext)]
        refine ⟨l.line, rfl, fun e he => ?_⟩
        -- behind this logical line nothing is open, and all else lies on later
        -- lines
        have hSince : Since (line + 1) next := by
          rcases endLine_eq_ok hNext with ⟨hStill, -⟩ | ⟨-, blocks, top, rfl⟩
          · rw [hOpen] at hStill
            cases hStill
          · refine since_of_eq_none ?_ ?_ _
            · rfl
            · exact literal_of_isOpen_eq_false hOpen
        have hAfter := hSince.le_line_of_scanLines (Nat.le_refl _) he
        have hBefore := hRead l hLogical
        omega

end Scanner

/-! ## Both verdicts on a text -/

/-- Both scans of a text agree, or the interactive one finds a second statement
first. -/
theorem scanLines_physical_modes (text : List Char) :
    Scanner.scanLines .interactive {} 1 (physical text) = Scanner.scanLines .source {} 1 (physical text) ∨
      ∃ n, Scanner.scanLines .interactive {} 1 (physical text) = .error ⟨.multipleStatements, n⟩ ∧
        ∀ e, Scanner.scanLines .source {} 1 (physical text) = .error e → n < e.line :=
  Scanner.scanLines_modes (fun l hl => by cases hl) (physical text)

/-- What is finished as an interactive text is finished as a source: the scanner
ends in the same place, and a source asks for less there. -/
theorem classify_source_of_interactive {text : List Char}
    (h : classify .interactive text = .complete) : classify .source text = .complete := by
  obtain ⟨s, hScan, hVerdict⟩ := exists_scanLines_of_classify h (by simp)
  rw [classify_eq, classifyLines, Scanner.scanLines_source hScan]
  dsimp only
  rw [Scanner.verdict_of_isSettled (Scanner.isSettled_of_verdict hVerdict), if_neg (by simp)]

/-- A fault of a source is one of the interactive text, unless a second
statement comes first. -/
theorem classify_interactive_of_source_invalid {text : List Char} {e : SyntaxError}
    (h : classify .source text = .invalid e) :
    classify .interactive text = .invalid e ∨
      ∃ line < e.line, classify .interactive text = .invalid ⟨.multipleStatements, line⟩ := by
  rw [classify_eq, classifyLines] at h
  cases hScan : Scanner.scanLines .source {} 1 (physical text) with
  | ok s =>
    -- a source is never invalid for what it ends in
    rw [hScan] at h
    obtain ⟨hMode, -⟩ := Scanner.of_verdict_eq_invalid h
    cases hMode
  | error e' =>
    rw [hScan] at h
    obtain rfl := Verdict.invalid.inj h
    rw [classify_eq, classifyLines]
    rcases scanLines_physical_modes text with hSame | ⟨n, hError, hBefore⟩
    · left
      rw [hSame, hScan]
    · right
      exact ⟨n, hBefore e' hScan, by rw [hError]⟩

/-- A finished source is refused as an interactive text for a second statement
only, since its own scan has found nothing. -/
theorem cause_of_source_complete {text : List Char} {e : SyntaxError}
    (hComplete : classify .source text = .complete) (h : classify .interactive text = .invalid e) :
    e.cause = .multipleStatements := by
  obtain ⟨s, hScan, hVerdict⟩ := exists_scanLines_of_classify hComplete (by simp)
  rw [classify_eq, classifyLines] at h
  rcases scanLines_physical_modes text with hSame | ⟨n, hError, -⟩
  · rw [hSame, hScan] at h
    dsimp only at h
    rw [Scanner.verdict_of_isSettled (Scanner.isSettled_of_verdict hVerdict)] at h
    split at h <;> cases h
  · rw [hError] at h
    rw [← Verdict.invalid.inj h]

/-- A finished source that is unfinished as an interactive text is finished by a
blank line. What it lacks is the blank line behind a compound statement, and
that is all an interactive text asks for in addition. -/
theorem classify_concat_of_source_complete {text : List Char}
    (hComplete : classify .source text = .complete)
    (h : classify .interactive text = .incomplete) :
    classify .interactive (text ++ ['\n']) = .complete := by
  obtain ⟨s, hSource, hVerdict⟩ := exists_scanLines_of_classify hComplete (by simp)
  obtain ⟨s', hScan, -⟩ := exists_scanLines_of_classify h (by simp)
  have hSettled := Scanner.isSettled_of_verdict hVerdict
  -- both scans have ended in the same scanner
  obtain rfl : s' = s := by
    have hAgain := Scanner.scanLines_source hScan
    rw [hSource] at hAgain
    exact (Except.ok.inj hAgain).symm
  have hLogical := Scanner.logical_of_isOpen_eq_false
    (Scanner.scanLines_atLineEnd Scanner.atLineEnd_start hScan) (Scanner.isOpen_of_isSettled hSettled)
  -- a blank line behind it leaves the scanner where it is
  have hBlank : s'.scanLines .interactive (1 + (physical text).length) (physical []) = .ok s' :=
    Scanner.scanLines_cons_of_ok (Scanner.scanLine_nil hLogical _ _) []
  rw [classify_append_of_ok hScan hBlank, Scanner.verdict_of_isSettled hSettled, if_neg]
  rintro ⟨-, -, hEnd⟩
  cases hEnd

/-- **The two modes.** What is finished as an interactive text is finished as a
source. A source that is invalid is invalid in the same way as an interactive
text, unless a second statement is found on a line in front of the fault. A
finished source is invalid as an interactive text only for a second statement,
and if it is unfinished then a blank line finishes it. -/
theorem classify_modes (text : List Char) :
    (classify .interactive text = .complete → classify .source text = .complete) ∧
      (∀ e, classify .source text = .invalid e →
        classify .interactive text = .invalid e ∨
          ∃ line < e.line, classify .interactive text = .invalid ⟨.multipleStatements, line⟩) ∧
      (∀ e, classify .source text = .complete → classify .interactive text = .invalid e →
        e.cause = .multipleStatements) ∧
      (classify .source text = .complete → classify .interactive text = .incomplete →
        classify .interactive (text ++ ['\n']) = .complete) :=
  ⟨classify_source_of_interactive, fun _ => classify_interactive_of_source_invalid,
    fun _ => cause_of_source_complete, classify_concat_of_source_complete⟩

end RemoteConsole.Statement
