import RemoteConsole.Proofs.Statement.BlankText
import RemoteConsole.Proofs.Statement.Insertion
import RemoteConsole.Proofs.Statement.Wording
import RemoteConsole.Proofs.Text.Separated

/-!
# Lines that are reported

The scanner takes down the numbers of lines and names them much later, but it
never reckons with them. So a number that it names is one that it was given: all
numbers but those of the lines could be others, and the verdict would still be
the same. What comes first in a text is taken down first. A header that waits
stands in front of the logical line being read, and a bracket was opened no
later than on the line being read.

* `classifyLines_renumber_eq_self` — the verdict on lines holds no numbers but
  theirs.
* `Scanner.Placed` — a scanner in which the header stands in front of the
  logical line.
* `reported_lines_exist` — the lines that a fault and its message name.
-/

namespace RemoteConsole.Statement

/-! ## No other numbers -/

variable {f : Nat → Nat}

/-- An error that a renumbering leaves alone holds only numbers that it leaves
alone: its own line and the lines that its message mentions. -/
theorem SyntaxError.of_renumber_eq_self {e : SyntaxError} (h : e.renumber f = e) :
    f e.line = e.line ∧ ∀ k ∈ e.mentioned, f k = k := by
  obtain ⟨cause, line⟩ := e
  obtain ⟨hCause, hLine⟩ := SyntaxError.mk.inj h
  refine ⟨hLine, ?_⟩
  intro k hk
  cases cause with
  | mismatched close opened openLine =>
    -- the number is held in the cause whether the message mentions it or not
    have hOpen : f openLine = openLine := by simpa [Cause.renumber] using hCause
    obtain rfl : k = openLine := by
      unfold mentioned at hk
      dsimp only at hk
      split at hk
      · cases hk
      · exact List.mem_singleton.mp hk
    exact hOpen
  | unterminatedLiteral detectedAt =>
    obtain rfl : k = detectedAt := by simpa [mentioned] using hk
    simpa [Cause.renumber] using hCause
  | expectedBlock header =>
    obtain rfl : k = header.line := by simpa [mentioned] using hk
    exact congrArg Header.line (Cause.expectedBlock.inj hCause)
  | _ => cases hk

/-- The verdict on lines holds no numbers but theirs: a renumbering that leaves
these alone leaves the verdict alone, whatever it does to all others. -/
theorem classifyLines_renumber_eq_self {lines : List (List Char)} (hSome : lines ≠ [])
    (hLines : ∀ k, 1 ≤ k → k ≤ lines.length → f k = k) (mode : Mode) :
    (classifyLines mode lines).renumber f = classifyLines mode lines := by
  have hSame : ∀ i < lines.length, f (1 + i) = 1 + i := fun i hi => hLines _ (by omega) (by omega)
  have hCount : f lines.length = lines.length :=
    hLines _ (List.length_pos_iff.mpr hSome) (Nat.le_refl _)
  -- a scanner that has taken in nothing holds no number, so it is its own
  -- renumbering
  have hScan : Scanner.scanLines mode {} 1 lines =
      landed f (Scanner.renumber f) (Scanner.scanLines mode {} 1 lines) :=
    Scanner.scanLines_renumber hSame mode {}
  unfold classifyLines
  cases hResult : Scanner.scanLines mode {} 1 lines with
  | error e =>
    rw [hResult] at hScan
    exact congrArg Verdict.invalid (Except.error.inj hScan).symm
  | ok s =>
    rw [hResult] at hScan
    have hFixed : s = s.renumber f := Except.ok.inj hScan
    -- the number of the last line is the only one that the end may add
    have hVerdict := s.verdict_renumber (f := f) mode lines.length (endsBlank lines)
    rw [← hFixed, hCount] at hVerdict
    exact hVerdict.symm

/-- A fault and its message name no lines but those of the text. -/
theorem bounds_of_classifyLines {mode : Mode} {lines : List (List Char)} {e : SyntaxError}
    (hSome : lines ≠ []) (h : classifyLines mode lines = .invalid e) :
    (1 ≤ e.line ∧ e.line ≤ lines.length) ∧ ∀ k ∈ e.mentioned, 1 ≤ k ∧ k ≤ lines.length := by
  -- all numbers but those of the lines are moved
  let f k := if 1 ≤ k ∧ k ≤ lines.length then k else k + 1
  have hFixed : ∀ k, f k = k ↔ 1 ≤ k ∧ k ≤ lines.length := by
    intro k
    show (if _ then _ else _) = k ↔ _
    split <;> simp_all
  have hSame := classifyLines_renumber_eq_self hSome (fun k hFirst hLast => (hFixed k).mpr ⟨hFirst, hLast⟩) mode
  rw [h] at hSame
  obtain ⟨hLine, hMentioned⟩ := SyntaxError.of_renumber_eq_self (Verdict.invalid.inj hSame)
  exact ⟨(hFixed _).mp hLine, fun k hk => (hFixed k).mp (hMentioned k hk)⟩

/-! ## What comes first is taken down first -/

/-- Only the header that waits is said to lack its block. -/
theorem Blocks.header_of_take_error {b : Blocks} {x : Blocks.Line} {e : SyntaxError} {header : Header}
    (h : b.take x = .error e) (hCause : e.cause = .expectedBlock header) : header ∈ b.header := by
  have hAccept := take_eq_error_iff.mp h
  unfold accept at hAccept
  split at hAccept
  · next waiting hWaits =>
    split at hAccept
    · cases hAccept
    -- the fault names the header that was waiting
    · rw [← Except.error.inj hAccept] at hCause
      rw [hWaits, Cause.expectedBlock.inj hCause]
      rfl
  · -- without a header that waits, the line stands too deep or at no level
    split at hAccept
    · rw [← Except.error.inj hAccept] at hCause
      cases hCause
    · split at hAccept
      · cases hAccept
      · rw [← Except.error.inj hAccept] at hCause
        cases hCause

namespace Scanner

/-- A scanner behind the first `n` lines, in which a header that waits stands in
front of the logical line being read. -/
structure Placed (n : Nat) (s : Scanner) : Prop extends Upto n s where
  headerFirst : ∀ header ∈ s.blocks.header, ∀ l ∈ s.logical, header.line < l.line

variable {n : Nat} {mode : Mode} {s s' : Scanner} {text : List Char} {e : SyntaxError}

/-- The next line is taken in one line further down. A header that waits stands
in front of the logical line that is read then, be it an older one or a new
one. -/
theorem Placed.absorbLine (h : s.Placed n) (hAbsorb : s.absorbLine (n + 1) text = .ok s') :
    s'.Placed (n + 1) where
  toUpto := h.toUpto.absorbLine hAbsorb
  headerFirst header hHeader l' hl' := by
    rw [blocks_absorbLine hAbsorb] at hHeader
    obtain ⟨l, hl, hGrows⟩ := exists_grows_of_absorbLine hAbsorb hl'
    rw [hGrows.line_eq]
    rcases hl with hOld | rfl
    · exact h.headerFirst header hHeader l hOld
    · -- a logical line that starts here starts behind everything taken down before
      exact Nat.lt_succ_of_le (h.header header hHeader)

/-- The end of a logical line leaves either the line or nothing at all for a
header to stand in front of. -/
theorem Placed.endLine (h : s.Placed n) (hEnd : s.endLine mode = .ok s') : s'.Placed n where
  toUpto := h.toUpto.endLine hEnd
  headerFirst := by
    rcases endLine_eq_ok hEnd with ⟨-, rfl⟩ | ⟨-, blocks, top, rfl⟩
    · exact h.headerFirst
    · intro header hHeader l hl
      cases hl

theorem Placed.scanLine (h : s.Placed n) (hScan : s.scanLine mode (n + 1) text = .ok s') :
    s'.Placed (n + 1) := by
  obtain ⟨read, hAbsorb, hEnd⟩ := exists_absorbLine_of_scanLine hScan
  exact (h.absorbLine hAbsorb).endLine hEnd

/-- Behind the first lines of a text the scanner is placed behind them. -/
theorem placed_of_scanLines {lines : List (List Char)} (h : scanLines mode {} 1 lines = .ok s) :
    s.Placed lines.length := by
  have hStart : Placed 0 {} :=
    ⟨⟨fun l hl => (by cases hl), fun header hHeader => (by cases hHeader)⟩,
      fun header hHeader => (by cases hHeader)⟩
  have hLines : s.Placed (0 + lines.length) := scanLines_induction_counted Placed.scanLine hStart h
  rwa [Nat.zero_add] at hLines

/-! ## Faults of one line -/

/-- What a fault says of lines when it is found on the line with the given
number: a header without its block stands in front of it, and brackets are
compared here. -/
structure FoundAt (line : Nat) (e : SyntaxError) : Prop where
  header : ∀ header, e.cause = .expectedBlock header → header.line < e.line
  bracket : ∀ close opened openLine, e.cause = .mismatched close opened openLine → e.line = line

/-- A fault within a line lacks no block, and a closing bracket that matches no
open one is reported on its own line. -/
theorem foundAt_of_absorbLine (hError : s.absorbLine n text = .error e) : FoundAt n e := by
  obtain ⟨hLine, hEarly⟩ := of_absorbLine_eq_error hError
  constructor
  · intro header hCause
    rw [hCause] at hEarly
    exact hEarly.elim
  · intro close opened openLine hCause
    rcases hLine with hHere | ⟨lit, -, rfl⟩
    · exact hHere
    · cases hCause

/-- A fault at the end of a logical line is found where the line starts or ends,
and the header that it names stands in front of that. -/
theorem Placed.foundAt_of_endLine (h : s.Placed n) (hError : s.endLine mode = .error e) : FoundAt n e := by
  obtain ⟨l, hl, hSettle⟩ := exists_settle_of_endLine hError
  rcases settle_eq_error hSettle with hShape | ⟨-, hTake | ⟨-, hMeet⟩⟩
  · -- the shape of a logical line is judged without headers and brackets
    obtain ⟨-, hCause | hCause⟩ := checkShape_eq_error hShape
    all_goals exact ⟨by simp [hCause], by simp [hCause]⟩
  · constructor
    · intro header hCause
      -- the fault is reported where the logical line starts, and the header
      -- stands in front of that
      have hWaits : header ∈ s.blocks.header := Blocks.header_of_take_error hTake hCause
      rw [(Blocks.take_eq_error hTake).1]
      exact h.headerFirst header hWaits l hl
    · intro close opened openLine hCause
      have hIndentation := (Blocks.take_eq_error hTake).2
      rw [hCause] at hIndentation
      cases hIndentation
  -- a second statement names no line but its own
  · obtain ⟨-, rfl⟩ := TopLevel.meet_eq_error hMeet
    exact ⟨by simp, by simp⟩

theorem Placed.foundAt_of_scanLine (h : s.Placed n) (hError : s.scanLine mode (n + 1) text = .error e) :
    FoundAt (n + 1) e := by
  rw [scanLine_eq] at hError
  cases hAbsorb : s.absorbLine (n + 1) text with
  | error e' =>
    rw [hAbsorb] at hError
    rw [← Except.error.inj hError]
    exact foundAt_of_absorbLine hAbsorb
  | ok read =>
    rw [hAbsorb] at hError
    exact (h.absorbLine hAbsorb).foundAt_of_endLine hError

/-- Lines that are refused are refused at one of them. -/
theorem exists_scanLine_of_scanLines {line : Nat} {lines : List (List Char)}
    (h : s.scanLines mode line lines = .error e) :
    ∃ before text after next, lines = before ++ text :: after ∧
      s.scanLines mode line before = .ok next ∧ next.scanLine mode (line + before.length) text = .error e := by
  induction lines generalizing s line with
  | nil => cases h
  | cons text rest ih =>
    -- either this line is refused, or one of the lines behind it
    cases hLine : s.scanLine mode line text with
    | error e' =>
      rw [scanLines_cons_of_error hLine] at h
      rw [← Except.error.inj h]
      exact ⟨[], text, rest, s, rfl, rfl, hLine⟩
    | ok next =>
      rw [scanLines_cons_of_ok hLine] at h
      obtain ⟨before, culprit, after, last, rfl, hScan, hError⟩ := ih h
      refine ⟨text :: before, culprit, after, last, rfl, ?_, ?_⟩
      · rw [scanLines_cons_of_ok hLine, hScan]
      · rwa [List.length_cons, Nat.add_comm before.length, ← Nat.add_assoc]

/-- A text is refused at one of its lines, whatever follows. -/
theorem exists_foundAt_of_scanLines {lines : List (List Char)} (h : scanLines mode {} 1 lines = .error e) :
    ∃ before text, FoundAt (before.length + 1) e ∧ scanLines mode {} 1 (before ++ [text]) = .error e := by
  obtain ⟨before, text, after, s, -, hBefore, hError⟩ := exists_scanLine_of_scanLines h
  have hPlaced : s.Placed before.length := placed_of_scanLines hBefore
  refine ⟨before, text, ?_, ?_⟩
  · rw [Nat.add_comm] at hError
    exact hPlaced.foundAt_of_scanLine hError
  · rw [scanLines_append_of_ok hBefore, scanLines_cons_of_error hError]

/-! ## Faults at the end -/

/-- All lines are taken in when the last one is taken in behind the others. -/
theorem exists_scanLine_of_scanLines_concat {line : Nat} {init : List (List Char)}
    (h : s.scanLines mode line (init ++ [text]) = .ok s') :
    ∃ before, s.scanLines mode line init = .ok before ∧
      before.scanLine mode (line + init.length) text = .ok s' := by
  rw [scanLines_append] at h
  -- the lines in front have been taken in, as otherwise all would have been
  -- refused
  cases hInit : s.scanLines mode line init with
  | error e =>
    rw [hInit] at h
    cases h
  | ok before =>
    rw [hInit] at h
    cases hText : before.scanLine mode (line + init.length) text with
    | error e =>
      cases (scanLines_cons_of_error hText []).symm.trans h
    | ok last =>
      obtain rfl : last = s' := Except.ok.inj ((scanLines_cons_of_ok hText []).symm.trans h)
      exact ⟨before, rfl, hText⟩

/-- A blank line starts no logical line, so what is taken down behind it lies in
front of it. -/
theorem Upto.of_isBlankText {line : Nat} (h : s.Upto n) (hBlank : Blank.isBlankText text = true)
    (hScan : s.scanLine mode line text = .ok s') : s'.Upto n := by
  cases hLogical : s.logical with
  | none =>
    -- between logical lines it leaves no trace
    rcases scanLine_of_isBlankText hBlank mode hLogical line with hSame | ⟨e, hError⟩
    · rw [hSame] at hScan
      rwa [← Except.ok.inj hScan]
    · rw [hError] at hScan
      cases hScan
  | some l =>
    obtain ⟨read, hAbsorb, hEnd⟩ := exists_absorbLine_of_scanLine hScan
    -- the line goes on with the logical line that is open
    have hExtends : Extends line s read := by
      rcases extends_absorbLine hAbsorb with hExtends | ⟨hNone, -⟩
      · exact hExtends
      · rw [hLogical] at hNone
        cases hNone
    have hRead : read.Upto n := by
      constructor
      · intro l' hl'
        obtain ⟨l, hl, hGrows⟩ := hExtends.exists_grows hl'
        rw [hGrows.line_eq]
        exact h.logical l hl
      · rw [hExtends.blocks_eq]
        exact h.header
    exact hRead.endLine hEnd

/-- At the end of a text the fault is a header that still waits, or a
decorator. -/
theorem cause_of_verdict {count : Nat} {blankEnd : Bool} (h : s.verdict mode count blankEnd = .invalid e) :
    (∃ header ∈ s.blocks.header, e.cause = .expectedBlock header) ∨ e.cause = .invalidSyntax := by
  unfold verdict at h
  split at h
  · cases h
  split at h
  -- a header first; the decorator is looked at only where no header waits
  · next header hHeader =>
    split at h
    · rw [← Verdict.invalid.inj h]
      exact .inl ⟨header, hHeader, rfl⟩
    · cases h
  · split at h
    · split at h
      · rw [← Verdict.invalid.inj h]
        exact .inr rfl
      · cases h
    · split at h <;> cases h

end Scanner

/-! ## Verdicts -/

/-- A header that lacks its block stands in front of the line that is
reported. -/
theorem header_lt_of_classifyLines {mode : Mode} {lines : List (List Char)} {e : SyntaxError} {header : Header}
    (hSome : lines ≠ []) (h : classifyLines mode lines = .invalid e) (hCause : e.cause = .expectedBlock header) :
    header.line < e.line := by
  unfold classifyLines at h
  cases hScan : Scanner.scanLines mode {} 1 lines with
  | error e' =>
    rw [hScan] at h
    obtain rfl := Verdict.invalid.inj h
    -- refused at a line: there the header stands in front of it
    obtain ⟨before, text, hFound, -⟩ := Scanner.exists_foundAt_of_scanLines hScan
    exact hFound.header header hCause
  | ok s =>
    rw [hScan] at h
    obtain ⟨-, hBlank, -, -, hLine⟩ := Scanner.of_verdict_eq_invalid h
    have hWaits : header ∈ s.blocks.header := by
      rcases Scanner.cause_of_verdict h with ⟨waiting, hWaiting, hSame⟩ | hOther
      · rw [hCause] at hSame
        rwa [Cause.expectedBlock.inj hSame]
      · cases hCause.symm.trans hOther
    -- the last line is blank, so the header stands on an earlier one
    obtain ⟨init, last, rfl⟩ := (List.eq_nil_or_concat' lines).resolve_left hSome
    obtain ⟨before, hInit, hText⟩ := Scanner.exists_scanLine_of_scanLines_concat hScan
    have hLast : Blank.isBlankText last = true := by
      rw [endsBlank_append (by simp)] at hBlank
      exact hBlank
    -- whatever waits behind the other lines stands on one of them, and a blank
    -- line adds no header
    have hUpto : before.Upto init.length := (Scanner.placed_of_scanLines hInit).toUpto
    have hBefore : header.line ≤ init.length := (hUpto.of_isBlankText hLast hText).header header hWaits
    rw [hLine, List.length_append]
    exact Nat.lt_succ_of_le hBefore

/-- A bracket that does not match and stands on another line was opened in front
of the line that is reported. -/
theorem openLine_lt_of_classifyLines {mode : Mode} {lines : List (List Char)} {e : SyntaxError}
    {close opened : Bracket} {openLine : Nat} (h : classifyLines mode lines = .invalid e)
    (hCause : e.cause = .mismatched close opened openLine) (hOther : openLine ≠ e.line) : openLine < e.line := by
  -- at the end of a text no brackets are compared
  have hScan : Scanner.scanLines mode {} 1 lines = .error e := by
    unfold classifyLines at h
    cases hScan : Scanner.scanLines mode {} 1 lines with
    | error e' =>
      rw [hScan] at h
      rw [Verdict.invalid.inj h]
    | ok s =>
      rw [hScan] at h
      rcases Scanner.cause_of_verdict h with ⟨header, -, hEnd⟩ | hEnd
      all_goals cases hCause.symm.trans hEnd
  obtain ⟨before, text, hFound, hRefused⟩ := Scanner.exists_foundAt_of_scanLines hScan
  have hLine : e.line = before.length + 1 := hFound.bracket close opened openLine hCause
  -- the lines up to this one are refused in the same way, and no other line can
  -- be named
  have hPrefix : classifyLines mode (before ++ [text]) = .invalid e := by
    rw [classifyLines, hRefused]
  have hMentioned : openLine ∈ e.mentioned := by simp [SyntaxError.mentioned, hCause, hOther]
  have hBound : openLine ≤ (before ++ [text]).length :=
    ((bounds_of_classifyLines (by simp) hPrefix).2 openLine hMentioned).2
  rw [List.length_append, List.length_singleton] at hBound
  omega

/-- A text has one line more than line feeds. -/
theorem length_physical (text : List Char) : (physical text).length = text.count '\n' + 1 := by
  rw [physical, List.length_map]
  exact Separated.length_split '\n' text

/-- **Reported lines exist.** The line of a fault is a line of the text, and so
is every line that its message names. The message names the header that lacks
its block, the bracket that was opened on another line, and the line on which a
literal is found unfinished; header and bracket stand in front of the line that
is reported. -/
theorem reported_lines_exist (mode : Mode) (text : List Char) (e : SyntaxError)
    (h : classify mode text = .invalid e) :
    let count := text.count '\n' + 1
    let named := linesNamed e.message.toList
    (1 ≤ e.line ∧ e.line ≤ count) ∧ (∀ k ∈ named, 1 ≤ k ∧ k ≤ count) ∧
      (∀ header, e.cause = .expectedBlock header → named = [header.line] ∧ header.line < e.line) ∧
      (∀ close opened openLine, e.cause = .mismatched close opened openLine → openLine ≠ e.line →
        named = [openLine] ∧ openLine < e.line) ∧
      ∀ detectedAt, e.cause = .unterminatedLiteral detectedAt → named = [detectedAt] := by
  intro count named
  -- the text of the message is read back once, and from there on only its cause
  -- matters
  have hNamed : named = e.mentioned := e.linesNamed_message
  have hSome : physical text ≠ [] := List.ne_nil_of_length_pos (by rw [length_physical]; omega)
  have hBounds := bounds_of_classifyLines hSome h
  rw [length_physical] at hBounds
  rw [hNamed]
  refine ⟨hBounds.1, hBounds.2, ?_, ?_, ?_⟩
  · intro header hCause
    exact ⟨by simp [SyntaxError.mentioned, hCause], header_lt_of_classifyLines hSome h hCause⟩
  · intro close opened openLine hCause hOther
    exact ⟨by simp [SyntaxError.mentioned, hCause, hOther], openLine_lt_of_classifyLines h hCause hOther⟩
  · intro detectedAt hCause
    simp [SyntaxError.mentioned, hCause]

/-- Behind two lines of open brackets the inner one is closed as if it were the
outer one. -/
theorem reported_lines_exist_of_brackets :
    let e : SyntaxError := ⟨.mismatched .round .square 2, 3⟩
    classify .interactive "f(\n [1,\n 2)\n".toList = .invalid e ∧
      linesNamed e.message.toList = [2] ∧ 2 < e.line := by
  intro e
  have h : classify .interactive "f(\n [1,\n 2)\n".toList = .invalid e := by decide +kernel
  have hLines := reported_lines_exist .interactive _ e h
  exact ⟨h, hLines.2.2.2.1 .round .square 2 rfl (by decide)⟩

end RemoteConsole.Statement
