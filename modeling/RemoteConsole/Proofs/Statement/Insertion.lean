import RemoteConsole.Proofs.Statement.Modes
import RemoteConsole.Proofs.Statement.Renumbering

/-!
# A line put in between

Between two logical lines a line without code leaves no trace, but all lines
behind it are numbered anew. The scanner takes these lines in as before: what it
takes down of them and of their faults is renumbered, and the header that may
still wait for its block stands in front of the new line and keeps its number.

* `past` — the numbers of lines when one more is put in between.
* `Scanner.renumber` — a scanner with other line numbers.
* `Scanner.scanLines_renumber` — lines are taken in under other numbers as they
  are under their own.
* `classifyLines_insert` — the verdict on lines with one more in between.
-/

namespace RemoteConsole.Statement

/-- The number of a line after one more has been put in behind the first `n`. -/
def past (n line : Nat) : Nat :=
  if line ≤ n then line else line + 1

theorem past_of_le {n line : Nat} (h : line ≤ n) : past n line = line :=
  if_pos h

theorem past_of_lt {n line : Nat} (h : n < line) : past n line = line + 1 :=
  if_neg (by omega)

/-- A verdict with another line number in its fault. -/
def Verdict.renumber (f : Nat → Nat) : Verdict → Verdict
  | complete => complete
  | incomplete => incomplete
  | invalid e => invalid (e.renumber f)

variable {f : Nat → Nat}

/-- Whether a logical line is a header does not depend on its number. -/
theorem Logical.header?_renumber (l : Logical) :
    (l.renumber f).header? = l.header?.map (Header.renumber f) := by
  unfold header?
  rw [last_renumber, opening_renumber]
  split <;> rfl

/-! ## Blocks and the outermost level -/

namespace Blocks

/-- Blocks whose waiting header has another number; the levels are widths and
stay. -/
def renumber (f : Nat → Nat) (b : Blocks) : Blocks :=
  ⟨b.levels, b.header.map (Header.renumber f)⟩

/-- Blocks take a line in by its width, whatever its number. The number is only
for the fault, and the number of the header only for the fault of a missing
body. -/
theorem accept_renumber (b : Blocks) (indent line : Nat) :
    (b.renumber f).accept indent (f line) = landed f (renumber f) (b.accept indent line) := by
  obtain ⟨levels, header⟩ := b
  cases header with
  | some header =>
    unfold accept
    show (if innermost ⟨levels, none⟩ < indent then _ else _) = landed f _ (if _ then _ else _)
    -- a header asks for a deeper line, and that is all it asks for
    by_cases hDeeper : innermost ⟨levels, none⟩ < indent
    · rw [if_pos hDeeper, if_pos (show innermost ⟨levels, some header⟩ < indent from hDeeper)]
      rfl
    · rw [if_neg hDeeper, if_neg (show ¬ innermost ⟨levels, some header⟩ < indent from hDeeper)]
      rfl
  | none =>
    show accept ⟨levels, none⟩ indent (f line) = landed f _ (accept ⟨levels, none⟩ indent line)
    unfold accept
    dsimp only
    -- the same width is met by the same levels
    split
    · rfl
    · split <;> rfl

/-- Blocks take a logical line in, with the header it may be, as they do under
other numbers. -/
theorem take_renumber (b : Blocks) (l : Logical) :
    (b.renumber f).take (l.renumber f).placed = landed f (renumber f) (b.take l.placed) := by
  have hAccept := b.accept_renumber (f := f) l.indent l.line
  unfold take Logical.placed
  dsimp only [Logical.indent_renumber]
  rw [show (l.renumber f).line = f l.line from rfl, hAccept, Logical.header?_renumber]
  cases b.accept l.indent l.line with
  | error e => rfl
  | ok a => cases l.header? <;> rfl

/-- A line that is taken in is the only one that may wait now: a header that
waited has found its body in it. -/
theorem header_of_take {b b' : Blocks} {x : Line} (h : b.take x = .ok b') :
    b'.header = x.header := by
  obtain ⟨a, hAccept, rfl⟩ := take_eq_ok.mp h
  have hNone : a.header = none := by
    unfold accept at hAccept
    split at hAccept
    · split at hAccept
      · rw [← Except.ok.inj hAccept]
      · cases hAccept
    · split at hAccept
      · cases hAccept
      · split at hAccept
        · rw [← Except.ok.inj hAccept]
        · cases hAccept
  -- the line itself is all that may wait
  cases hHeader : x.header with
  | none => exact hNone
  | some header => rfl

end Blocks

/-- The outermost level tells logical lines apart by their first words, which
have no numbers. -/
theorem TopLevel.meet_renumber (mode : Mode) (t : TopLevel) (l : Logical) :
    t.meet mode (l.renumber f) = landed f id (t.meet mode l) := by
  unfold meet accept
  rw [Logical.header?_renumber, Option.isSome_map, Logical.indent_renumber, Logical.opening_renumber]
  split
  · split
    · rfl
    · split <;> rfl
  · rfl

/-! ## Scanners -/

namespace Scanner

/-- The scanner with other line numbers, in what is open as well as in its
blocks. -/
def renumber (f : Nat → Nat) (s : Scanner) : Scanner :=
  s.elsewhere f (s.blocks.renumber f) s.top

/-- The lexemes of a line are taken in under another number as they are under
their own. -/
theorem absorbLine_renumber (s : Scanner) (line : Nat) (text : List Char) :
    (s.renumber f).absorbLine (f line) text = landed f (renumber f) (s.absorbLine line text) := by
  unfold renumber
  rw [absorbLine_elsewhere]
  cases hAbsorb : s.absorbLine line text with
  | error e => rfl
  | ok read =>
    -- what a line takes from the blocks it takes only when its logical line
    -- ends
    rw [← blocks_absorbLine hAbsorb, ← top_absorbLine hAbsorb]
    rfl

/-- A logical line ends under other numbers as it does under its own. The three
checks that it has to pass keep their order, so the first fault is the same
one. -/
theorem settle_renumber (mode : Mode) (s : Scanner) (l : Logical) :
    (s.renumber f).settle mode (l.renumber f) = landed f (renumber f) (s.settle mode l) := by
  have hTake := s.blocks.take_renumber (f := f) l
  have hMeet := s.top.meet_renumber (f := f) mode l
  rw [settle_eq_bind, settle_eq_bind, checkShape_renumber]
  -- the shape, the blocks and the outermost level, each of which renumbers
  show (landed f _ (checkShape l)).bind (fun _ => ((s.blocks.renumber f).take _).bind fun blocks =>
    (s.top.meet mode _).bind fun top => _) = _
  rw [hTake, hMeet]
  -- the first check that fails gives the fault, under its new number
  cases checkShape l with
  | error e => rfl
  | ok header =>
    cases s.blocks.take l.placed with
    | error e => rfl
    | ok blocks =>
      cases s.top.meet mode l with
      | error e => rfl
      | ok top => rfl

/-- The end of a line is the end of its logical line under other numbers too:
what is open is the same. -/
theorem endLine_renumber (mode : Mode) (s : Scanner) :
    (s.renumber f).endLine mode = landed f (renumber f) (s.endLine mode) := by
  have hOpen : (s.renumber f).isOpen = s.isOpen := isOpen_elsewhere ..
  have hLogical : (s.renumber f).logical = s.logical.map (Logical.renumber f) := rfl
  unfold endLine finishLogical
  rw [hOpen, hLogical]
  -- held open, without a token, or settled
  split
  · rfl
  · cases s.logical with
    | none => rfl
    | some l =>
      dsimp only [Option.map_some]
      rw [Logical.last_renumber]
      split
      · rfl
      · exact s.settle_renumber mode l

/-- A line is taken in under another number as it is under its own. -/
theorem scanLine_renumber (mode : Mode) (s : Scanner) (line : Nat) (text : List Char) :
    (s.renumber f).scanLine mode (f line) text = landed f (renumber f) (s.scanLine mode line text) := by
  rw [scanLine_eq, scanLine_eq, absorbLine_renumber]
  cases s.absorbLine line text with
  | error e => rfl
  | ok read => exact read.endLine_renumber mode

/-- Lines are taken in under other numbers as they are under their own, if the
other numbers follow each other too. The induction is on the lines, with the
first number of either kind being any. -/
theorem scanLines_renumber {line other : Nat} {lines : List (List Char)}
    (hLines : ∀ i < lines.length, f (line + i) = other + i) (mode : Mode) (s : Scanner) :
    (s.renumber f).scanLines mode other lines =
      landed f (renumber f) (s.scanLines mode line lines) := by
  induction lines generalizing s line other with
  | nil => rfl
  | cons text rest ih =>
    have hFirst : f line = other := hLines 0 (by simp)
    have hText := s.scanLine_renumber (f := f) mode line text
    rw [hFirst] at hText
    cases hScan : s.scanLine mode line text with
    | error e =>
      rw [hScan] at hText
      rw [scanLines_cons_of_error hText, scanLines_cons_of_error hScan]
      rfl
    | ok next =>
      rw [hScan] at hText
      rw [scanLines_cons_of_ok hText, scanLines_cons_of_ok hScan]
      apply ih
      -- the numbers of the remaining lines follow each other as well
      intro i hi
      have hNext : f (line + (i + 1)) = other + (i + 1) := hLines (i + 1) (by simpa using hi)
      rw [Nat.add_assoc, Nat.add_comm 1 i, hNext]
      omega

/-- The verdict at the end is the same but for the numbers, since the last
line's is the only one it adds. -/
theorem verdict_renumber (mode : Mode) (s : Scanner) (count : Nat) (blankEnd : Bool) :
    (s.renumber f).verdict mode (f count) blankEnd = (s.verdict mode count blankEnd).renumber f := by
  have hOpen : (s.renumber f).isOpen = s.isOpen := isOpen_elsewhere ..
  have hHeader : (s.renumber f).blocks.header = s.blocks.header.map (Header.renumber f) := rfl
  have hTop : (s.renumber f).top = s.top := rfl
  unfold verdict
  rw [hOpen, hHeader, hTop]
  split
  · rfl
  -- a header that waits makes the text unfinished or faulty; without one the
  -- end decides
  · cases s.blocks.header with
    | some header =>
      dsimp only [Option.map_some]
      split <;> rfl
    | none =>
      dsimp only [Option.map_none]
      split
      · split <;> rfl
      · split <;> rfl

/-! ## What is taken down lies in front of the next line -/

/-- A scanner that has taken down no line behind the first `n`. -/
structure Upto (n : Nat) (s : Scanner) : Prop where
  logical : ∀ l ∈ s.logical, l.line ≤ n
  header : ∀ h ∈ s.blocks.header, h.line ≤ n

/-- Behind a further line the scanner has taken down no later one: a logical
line keeps the number it has started with, and the blocks are left alone. -/
theorem Upto.absorbLine {n : Nat} {s s' : Scanner} {text : List Char} (h : s.Upto n)
    (hAbsorb : s.absorbLine (n + 1) text = .ok s') : s'.Upto (n + 1) where
  logical l' hl' := by
    obtain ⟨l, hl, hGrows⟩ := exists_grows_of_absorbLine hAbsorb hl'
    rw [hGrows.line_eq]
    rcases hl with hOld | rfl
    · have := h.logical l hOld
      omega
    · exact Nat.le_refl _
  header header hHeader := by
    rw [blocks_absorbLine hAbsorb] at hHeader
    have := h.header header hHeader
    omega

/-- The end of a line takes nothing down, except that the logical line may be
the header that waits. -/
theorem Upto.endLine {n : Nat} {mode : Mode} {s s' : Scanner} (h : s.Upto n)
    (hEnd : s.endLine mode = .ok s') : s'.Upto n := by
  unfold Scanner.endLine finishLogical at hEnd
  split at hEnd
  · rwa [← Except.ok.inj hEnd]
  split at hEnd
  · rwa [← Except.ok.inj hEnd]
  next l hLogical =>
  split at hEnd
  · rw [← Except.ok.inj hEnd]
    exact ⟨fun l hl => (by cases hl), h.header⟩
  -- the line has settled, and no logical line is left
  · obtain ⟨-, hTake, -, hNext⟩ := settle_eq_ok hEnd
    refine ⟨fun l' hl' => ?_, fun header hHeader => ?_⟩
    · rw [hNext] at hl'
      cases hl'
    · -- a header that waits now is the logical line that has just ended
      have hLine : header ∈ l.header? := by
        rw [Blocks.header_of_take hTake] at hHeader
        exact hHeader
      have hNumber : header.line = l.line := by
        unfold Logical.header? at hLine
        split at hLine
        · rw [← Option.some.inj hLine]
        · cases hLine
      have := h.logical l hLogical
      omega

theorem Upto.scanLine {n : Nat} {mode : Mode} {s s' : Scanner} {text : List Char} (h : s.Upto n)
    (hScan : s.scanLine mode (n + 1) text = .ok s') : s'.Upto (n + 1) := by
  obtain ⟨read, hAbsorb, hEnd⟩ := exists_absorbLine_of_scanLine hScan
  exact (h.absorbLine hAbsorb).endLine hEnd

/-- Behind some lines the scanner has taken down none that is still to come. -/
theorem Upto.scanLines {n : Nat} {mode : Mode} {s s' : Scanner} {lines : List (List Char)}
    (h : s.Upto n) (hScan : s.scanLines mode (n + 1) lines = .ok s') :
    s'.Upto (n + lines.length) :=
  scanLines_induction_counted Upto.scanLine h hScan

/-- Between logical lines, a scanner that has taken down no later line keeps all
its numbers. The header that waits is the only number it has there. -/
theorem renumber_past_eq {n : Nat} {s : Scanner} (hUpto : s.Upto n) (hEnd : s.AtLineEnd)
    (hOpen : s.isOpen = false) : s.renumber (past n) = s := by
  have hLogical := logical_of_isOpen_eq_false hEnd hOpen
  obtain ⟨brackets, literal, continued, logical, ⟨levels, header⟩, top⟩ := s
  obtain rfl : logical = none := hLogical
  simp only [isOpen, Bool.or_eq_false_iff, Option.isSome_eq_false_iff, Option.isNone_iff_eq_none,
    Bool.not_eq_false', List.isEmpty_iff] at hOpen
  obtain ⟨⟨rfl, rfl⟩, rfl⟩ := hOpen
  -- the number of the header is one of those that are kept
  have hHeader : header.map (Header.renumber (past n)) = header := by
    cases header with
    | none => rfl
    | some header =>
      have hLine : past n header.line = header.line := past_of_le (hUpto.header header rfl)
      simp [Header.renumber, hLine]
  simp [renumber, elsewhere, Blocks.renumber, hHeader]

/-- A line without code leaves no trace between logical lines. -/
theorem scanLine_of_isIdle {s : Scanner} {text : List Char} (hLogical : s.logical = none)
    (hIdle : isIdle (indentation text).2 = true) (mode : Mode) (line : Nat) :
    s.scanLine mode line text = .ok s := by
  unfold scanLine startLine
  rw [hLogical]
  dsimp only
  rw [if_pos hIdle]

end Scanner

/-! ## Verdicts -/

/-- Lines behind others that have been taken in go on from the scanner these
have left. -/
theorem Scanner.scanLines_append_of_ok {mode : Mode} {before : List (List Char)} {s : Scanner}
    (hScan : scanLines mode {} 1 before = .ok s) (after : List (List Char)) :
    scanLines mode {} 1 (before ++ after) = s.scanLines mode (1 + before.length) after := by
  rw [scanLines_append, hScan]
  rfl

/-- A line without code, put in between where no logical line is open, renumbers
the verdict. It is no news at the end either: the text may not end with it, as a
blank line at the end may finish a statement. -/
theorem classifyLines_insert {mode : Mode} {before after : List (List Char)} {idle : List Char}
    {s : Scanner} (hScan : Scanner.scanLines mode {} 1 before = .ok s) (hOpen : s.isOpen = false)
    (hIdle : Scanner.isIdle (indentation idle).2 = true) (hAfter : after ≠ []) :
    classifyLines mode (before ++ idle :: after) =
      (classifyLines mode (before ++ after)).renumber (past before.length) := by
  have hEnd := Scanner.scanLines_atLineEnd Scanner.atLineEnd_start hScan
  have hUpto : s.Upto before.length := by
    have hStart : Scanner.Upto 0 {} :=
      ⟨fun l hl => (by cases hl), fun header hHeader => (by cases hHeader)⟩
    simpa using hStart.scanLines hScan
  have hSame := Scanner.renumber_past_eq hUpto hEnd hOpen
  have hLogical := Scanner.logical_of_isOpen_eq_false hEnd hOpen
  have hSkip := Scanner.scanLine_of_isIdle hLogical hIdle mode (1 + before.length)
  -- behind the new line the scanner stands where it stood, one line further
  -- down
  have hRest : s.scanLines mode (1 + before.length + 1) after =
      landed (past before.length) (Scanner.renumber (past before.length))
        (s.scanLines mode (1 + before.length) after) := by
    have hMoved : ∀ i < after.length,
        past before.length (1 + before.length + i) = 1 + before.length + 1 + i := by
      intro i hi
      rw [past_of_lt (by omega)]
      omega
    have hLines := Scanner.scanLines_renumber hMoved mode s
    rwa [hSame] at hLines
  have hInserted : Scanner.scanLines mode {} 1 (before ++ idle :: after) =
      s.scanLines mode (1 + before.length + 1) after := by
    rw [Scanner.scanLines_append_of_ok hScan]
    exact Scanner.scanLines_cons_of_ok hSkip after
  have hBlank : endsBlank (before ++ idle :: after) = endsBlank (before ++ after) := by
    rw [endsBlank_append (by simp), endsBlank_append hAfter,
      show idle :: after = [idle] ++ after from rfl, endsBlank_append hAfter]
  -- the last line moves on as well, since some line follows the new one
  have hLength : (before ++ idle :: after).length =
      past before.length (before ++ after).length := by
    have hSome : 0 < after.length := List.length_pos_iff.mpr hAfter
    rw [past_of_lt (by rw [List.length_append]; omega)]
    simp only [List.length_append, List.length_cons]
    omega
  unfold classifyLines
  rw [hInserted, Scanner.scanLines_append_of_ok hScan, hRest, hBlank, hLength]
  cases s.scanLines mode (1 + before.length) after with
  | error e => rfl
  | ok last => exact last.verdict_renumber mode _ _

/-- Faults behind lines that leave no logical line open lie behind these lines.
They lie in a logical line that has started there, or they are of the end of the
text. -/
theorem lt_line_of_classifyLines {mode : Mode} {before after : List (List Char)} {s : Scanner}
    {e : SyntaxError} (hScan : Scanner.scanLines mode {} 1 before = .ok s) (hOpen : s.isOpen = false)
    (hAfter : after ≠ []) (h : classifyLines mode (before ++ after) = .invalid e) :
    before.length < e.line := by
  have hEnd := Scanner.scanLines_atLineEnd Scanner.atLineEnd_start hScan
  unfold classifyLines at h
  rw [Scanner.scanLines_append_of_ok hScan] at h
  cases hRest : s.scanLines mode (1 + before.length) after with
  | error e' =>
    rw [hRest] at h
    obtain rfl := Verdict.invalid.inj h
    -- nothing open comes from before, so the fault is no earlier than the first
    -- new line
    have hSince : Scanner.Since (1 + before.length) s :=
      Scanner.since_of_eq_none (Scanner.logical_of_isOpen_eq_false hEnd hOpen)
        (Scanner.literal_of_isOpen_eq_false hOpen) _
    have := hSince.le_line_of_scanLines (Nat.le_refl _) hRest
    omega
  | ok last =>
    -- a fault at the end lies on the last line
    rw [hRest] at h
    obtain ⟨-, -, -, -, hLine⟩ := Scanner.of_verdict_eq_invalid h
    have hSome : 0 < after.length := List.length_pos_iff.mpr hAfter
    rw [hLine, List.length_append]
    omega

end RemoteConsole.Statement
