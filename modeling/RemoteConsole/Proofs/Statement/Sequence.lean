import RemoteConsole.Proofs.Statement.Completion
import RemoteConsole.Proofs.Statement.Renumbering

/-!
# One source after another

A finished source leaves traces in the scanner: the widths of blocks that have
never been closed, what the last outermost line opened with, and the count of
lines. A source that is valid alone starts at the outermost width, so its first
line closes all blocks that are left, and from there on both scans have the same
open blocks. What the line before it opened with only matters if that was a
decorator, and a finished source ends in none.

* `Blocks.Resembles`, `Scanner.Resembles` — the same but for line numbers and
  what a finished source leaves.
* `Scanner.Resembles.scanLines` — what a scanner takes in, each one that
  resembles it takes in.
* `classify_source_append` — behind a finished source, every valid source has
  the verdict that it has alone.
-/

namespace RemoteConsole.Statement

variable {f : Nat → Nat}

/-! ## Blocks -/

namespace Blocks

/-- The line as it is met elsewhere. -/
def Line.renumber (f : Nat → Nat) (x : Line) : Line :=
  ⟨x.indent, f x.line, x.header.map (Header.renumber f)⟩

/-- Other open blocks are the same with other line numbers, or they are left
behind by lines that are over, where the given ones have taken in nothing
yet. -/
inductive Resembles (f : Nat → Nat) (b : Blocks) : Blocks → Prop
  | same : Resembles f b ⟨b.levels, b.header.map (Header.renumber f)⟩
  | left {levels : List Nat} (hFresh : b = {}) (hNested : Nested ⟨levels, none⟩) :
      Resembles f b ⟨levels, none⟩

/-- A line at zero closes all blocks that are left. -/
theorem Nested.closeDeeper_zero {b : Blocks} (h : b.Nested) :
    Blocks.closeDeeper b.levels 0 = [0] := by
  have hClosed := h.closeDeeper 0
  have hHead := List.head?_dropWhile_not (decide <| 0 < ·) b.levels
  unfold Blocks.closeDeeper at hClosed ⊢
  cases hLevels : b.levels.dropWhile (decide <| 0 < ·) with
  | nil =>
    rw [hLevels] at hClosed
    cases hClosed.outermost
  | cons n outer =>
    rw [hLevels] at hClosed hHead
    obtain rfl : n = 0 := by simpa using hHead
    exact hClosed.levels_eq_of_cons_zero rfl

/-- Blocks that resemble given ones take in what these take in, and no line
number is left of it. -/
theorem Resembles.accept {b a b' : Blocks} (h : b.Resembles f b') {i line : Nat}
    (hAccept : b.accept i line = .ok a) :
    a.header = none ∧ b'.accept i (f line) = .ok a := by
  cases h with
  | same =>
    obtain ⟨levels, header⟩ := b
    unfold Blocks.accept at hAccept ⊢
    unfold innermost at hAccept ⊢
    -- the same levels on both sides, so the same test decides
    cases header with
    | none =>
      dsimp only [Option.map_none] at hAccept ⊢
      split at hAccept
      · cases hAccept
      · next hLevel =>
        split at hAccept
        · next hOpen =>
          rw [if_neg hLevel, if_pos hOpen]
          rw [← Except.ok.inj hAccept]
          exact ⟨rfl, rfl⟩
        · cases hAccept
    | some header =>
      dsimp only [Option.map_some] at hAccept ⊢
      split at hAccept
      · next hDeeper =>
        rw [if_pos hDeeper, ← Except.ok.inj hAccept]
        exact ⟨rfl, rfl⟩
      · cases hAccept
  | left hFresh hNested =>
    subst hFresh
    -- nothing but a line at zero is taken in first
    have hZero : i = 0 := by
      cases i with
      | zero => rfl
      | succ n => cases hAccept
    subst hZero
    have hAll := hNested.closeDeeper_zero
    dsimp only at hAll
    have hStart : a = ⟨[0], none⟩ := (Except.ok.inj hAccept).symm
    subst hStart
    refine ⟨rfl, ?_⟩
    unfold Blocks.accept
    dsimp only
    rw [if_neg (Nat.not_lt_zero _), hAll]
    rfl

/-- Blocks that resemble given ones take in a line that these take in, and
resemble them behind it. -/
theorem Resembles.take {b a b' : Blocks} (h : b.Resembles f b') {x : Line}
    (hTake : b.take x = .ok a) : ∃ a', b'.take (x.renumber f) = .ok a' ∧ a.Resembles f a' := by
  obtain ⟨k, hAccept, rfl⟩ := take_eq_ok.mp hTake
  obtain ⟨hNone, hAccept'⟩ := h.accept hAccept
  refine ⟨_, take_eq_ok.mpr ⟨k, hAccept', rfl⟩, ?_⟩
  obtain ⟨levels, header⟩ := k
  obtain rfl : header = none := hNone
  -- the line keeps its place, and a header waits on both sides
  cases hHeader : x.header with
  | none =>
    have hSame : Resembles f ⟨levels, none⟩ ⟨levels, none⟩ := .same
    simpa [awaitAny, Line.renumber, hHeader] using hSame
  | some header =>
    have hSame : Resembles f ⟨levels, some header⟩ ⟨levels, some (header.renumber f)⟩ := .same
    simpa [awaitAny, await, Line.renumber, hHeader] using hSame

end Blocks

/-! ## Logical lines -/

theorem Logical.placed_renumber (l : Logical) : (l.renumber f).placed = l.placed.renumber f := by
  obtain ⟨line, endLine, indent, opening, last, topColon⟩ := l
  unfold placed header?
  dsimp only [renumber]
  cases last with
  | none => rfl
  | some token =>
    cases token with
    | colon => cases opening <;> rfl
    | value | operator | opening | separator => rfl

/-- A source may hold any outermost line, and it only matters whether that is a
decorator. -/
theorem TopLevel.exists_meet_source (t : TopLevel) (l : Logical) :
    ∃ t', t.meet .source l = .ok t' ∧ t'.awaitsDecorated =
      if l.indent = 0 then decide (l.opening = .decorator) else t.awaitsDecorated := by
  unfold meet
  by_cases hOutermost : l.indent = 0
  · rw [if_pos hOutermost, if_pos hOutermost]
    obtain ⟨t', hAccept⟩ : ∃ t', t.accept .source l.opening l.header?.isSome l.line = .ok t' := by
      unfold accept
      -- a source is never held to one statement
      cases t.previous with
      | none => exact ⟨_, rfl⟩
      | some previous => exact ⟨_, if_neg (by simp)⟩
    refine ⟨t', hAccept, ?_⟩
    rw [awaitsDecorated, previous_of_accept hAccept]
    simp
  · rw [if_neg hOutermost, if_neg hOutermost]
    exact ⟨t, rfl, rfl⟩

/-! ## Scanners -/

namespace Scanner

/-- Another scanner is the same but for line numbers and for what a finished
source leaves behind. -/
inductive Resembles (f : Nat → Nat) (s : Scanner) : Scanner → Prop
  | intro {blocks : Blocks} {top : TopLevel} (hBlocks : s.blocks.Resembles f blocks)
      (hTop : top.awaitsDecorated = s.top.awaitsDecorated) : Resembles f s (s.elsewhere f blocks top)

variable {s s' t : Scanner}

/-- What a line opens and closes does not depend on the blocks around it. -/
theorem Resembles.absorbLine {line : Nat} {text : List Char} (h : s.Resembles f t)
    (hAbsorb : s.absorbLine line text = .ok s') :
    ∃ t', t.absorbLine (f line) text = .ok t' ∧ s'.Resembles f t' := by
  cases h with
  | intro hBlocks hTop =>
    rw [absorbLine_elsewhere, hAbsorb]
    rw [← blocks_absorbLine hAbsorb] at hBlocks
    rw [← top_absorbLine hAbsorb] at hTop
    exact ⟨_, rfl, .intro hBlocks hTop⟩

/-- A logical line that is taken in is taken in behind a finished source. -/
theorem Resembles.settle {blocks : Blocks} {top : TopLevel} {l : Logical}
    (hBlocks : s.blocks.Resembles f blocks) (hTop : top.awaitsDecorated = s.top.awaitsDecorated)
    (hSettle : s.settle .source l = .ok s') :
    ∃ t', (s.elsewhere f blocks top).settle .source (l.renumber f) = .ok t' ∧ s'.Resembles f t' := by
  obtain ⟨⟨header, hShape⟩, hTake, hMeet, hNext⟩ := settle_eq_ok hSettle
  obtain ⟨blocks', hTake', hBlocks'⟩ := hBlocks.take hTake
  obtain ⟨top', hMeet', hTop'⟩ := top.exists_meet_source (l.renumber f)
  -- both levels have met the same line, so the same waits behind them
  have hAwaits : top'.awaitsDecorated = s'.top.awaitsDecorated := by
    obtain ⟨u, hu, hAwaits⟩ := s.top.exists_meet_source l
    obtain rfl : u = s'.top := Except.ok.inj (hu.symm.trans hMeet)
    rw [hTop', hAwaits, hTop]
    rfl
  refine ⟨s'.elsewhere f blocks' top', ?_, .intro hBlocks' hAwaits⟩
  rw [settle_eq_bind, checkShape_renumber, hShape, Logical.placed_renumber]
  dsimp only [landed, Except.bind, elsewhere]
  rw [hTake', hMeet', hNext]
  rfl

/-- A logical line that ends well ends well behind a finished source. Whether it
is held open and whether it has a token is the same on both sides; only its end
looks at blocks. -/
theorem Resembles.endLine (h : s.Resembles f t) (hEnd : s.endLine .source = .ok s') :
    ∃ t', t.endLine .source = .ok t' ∧ s'.Resembles f t' := by
  cases h with
  | @intro blocks top hBlocks hTop =>
  unfold Scanner.endLine at hEnd ⊢
  rw [isOpen_elsewhere]
  split at hEnd
  · next hOpen =>
    rw [if_pos hOpen, ← Except.ok.inj hEnd]
    exact ⟨_, rfl, .intro hBlocks hTop⟩
  next hOpen =>
  rw [if_neg hOpen]
  have hLogical : (s.elsewhere f blocks top).logical = s.logical.map (Logical.renumber f) := rfl
  unfold finishLogical at hEnd ⊢
  rw [hLogical]
  cases hLine : s.logical with
  | none =>
    rw [hLine] at hEnd
    rw [← Except.ok.inj hEnd]
    exact ⟨_, rfl, .intro hBlocks hTop⟩
  | some l =>
    rw [hLine] at hEnd
    dsimp only [Option.map_some] at hEnd ⊢
    rw [Logical.last_renumber]
    split at hEnd
    · next hEmpty =>
      rw [if_pos hEmpty, ← Except.ok.inj hEnd]
      exact ⟨_, rfl, .intro (s := { s with logical := none }) hBlocks hTop⟩
    · next hTokens =>
      rw [if_neg hTokens]
      exact Resembles.settle hBlocks hTop hEnd

/-- A line that is taken in is taken in behind a finished source, and what is
left is alike. -/
theorem Resembles.scanLine {line : Nat} {text : List Char} (h : s.Resembles f t)
    (hScan : s.scanLine .source line text = .ok s') :
    ∃ t', t.scanLine .source (f line) text = .ok t' ∧ s'.Resembles f t' := by
  obtain ⟨read, hAbsorb, hEnd⟩ := exists_absorbLine_of_scanLine hScan
  obtain ⟨read', hAbsorb', hRead⟩ := h.absorbLine hAbsorb
  obtain ⟨t', hEnd', hNext⟩ := hRead.endLine hEnd
  exact ⟨t', (scanLine_of_absorbLine hAbsorb' .source).trans hEnd', hNext⟩

/-- What a scanner takes in of a source, each one that resembles it takes in so
many lines further down. -/
theorem Resembles.scanLines {n line : Nat} {lines : List (List Char)}
    (h : s.Resembles (· + n) t) (hScan : s.scanLines .source line lines = .ok s') :
    ∃ t', t.scanLines .source (line + n) lines = .ok t' ∧ s'.Resembles (· + n) t' := by
  induction lines generalizing s t line with
  | nil =>
    rw [← Except.ok.inj hScan]
    exact ⟨t, rfl, h⟩
  | cons text rest ih =>
    rw [Scanner.scanLines] at hScan
    split at hScan
    · cases hScan
    · next next hLine =>
      -- the first line, and the others one line further down each
      obtain ⟨u, hLine', hNext⟩ := h.scanLine hLine
      obtain ⟨t', hRest, hLast⟩ := ih hNext hScan
      refine ⟨t', ?_, hLast⟩
      rw [scanLines_cons_of_ok hLine', ← hRest, Nat.add_right_comm]

/-- The verdict on a source asks whether something is open or waits, and not on
which line. -/
theorem Resembles.verdict_eq (h : s.Resembles f t) (count count' : Nat) (blankEnd blankEnd' : Bool) :
    t.verdict .source count' blankEnd' = s.verdict .source count blankEnd := by
  cases h with
  | @intro blocks top hBlocks hTop =>
  -- a header waits on both sides or on neither
  have hHeader : blocks.header.isSome = s.blocks.header.isSome := by
    cases hBlocks with
    | same => simp
    | left hFresh => rw [hFresh]
  have hTopEq : (s.elsewhere f blocks top).top = top := rfl
  have hBlocksEq : (s.elsewhere f blocks top).blocks = blocks := rfl
  unfold verdict
  rw [isOpen_elsewhere, hTopEq, hBlocksEq, hTop]
  cases hOpen : s.isOpen with
  | true => rfl
  | false =>
    cases hWaits : s.blocks.header with
    | none =>
      have hNone : blocks.header = none := by simpa [hWaits] using hHeader
      simp [hNone]
    | some header =>
      obtain ⟨header', hSome⟩ : ∃ header', blocks.header = some header' :=
        Option.isSome_iff_exists.mp (by rw [hHeader, hWaits]; rfl)
      simp [hSome]

/-- What a finished source leaves behind resembles a scanner that has taken in
nothing. -/
theorem resembles_of_isSettled (hSettled : s.isSettled = true) (hEnd : s.AtLineEnd)
    (hRegular : s.Regular) : Resembles f {} s := by
  obtain ⟨brackets, literal, continued, logical, ⟨levels, header⟩, top⟩ := s
  have hLogical := logical_of_isOpen_eq_false hEnd (isOpen_of_isSettled hSettled)
  simp only [isSettled, isOpen, awaitsBody, Bool.and_eq_true, Bool.not_eq_true',
    Bool.or_eq_false_iff, Option.isSome_eq_false_iff, Option.isNone_iff_eq_none,
    Bool.not_eq_false', List.isEmpty_iff] at hSettled
  obtain ⟨⟨⟨rfl, rfl⟩, rfl⟩, rfl, hTop⟩ := hSettled
  obtain rfl : logical = none := hLogical
  exact .intro (.left rfl hRegular.nested) hTop

end Scanner

/-- **Sources are put one after another.** Behind a finished source, a source
that is not invalid has the verdict that it has alone. -/
theorem classify_source_append (a b : List Char) (ha : classify .source a = .complete)
    (hb : ∀ e, classify .source b ≠ .invalid e) :
    classify .source (a ++ '\n' :: b) = classify .source b := by
  obtain ⟨left, hScanA, hVerdictA⟩ := exists_scanLines_of_classify ha (by simp)
  obtain ⟨s, hScanB, hVerdictB⟩ := exists_scanLines_of_classify (v := classify .source b) rfl hb
  have hStart : Scanner.Resembles (· + (physical a).length) {} left :=
    Scanner.resembles_of_isSettled (Scanner.isSettled_of_verdict hVerdictA)
      (Scanner.scanLines_atLineEnd Scanner.atLineEnd_start hScanA)
      (Scanner.regular_start.scanLines hScanA)
  obtain ⟨t, hScan, hSame⟩ := hStart.scanLines hScanB
  rw [classify_append_of_ok hScanA hScan, ← hVerdictB]
  exact hSame.verdict_eq _ _ _ _

/-- Behind a block that has never been closed, another source is unfinished in
the way it is alone. -/
theorem classify_source_append_of_block :
    classify .source "if x:\n  y".toList = .complete ∧
      (∀ e, classify .source "@d\ndef f(z,".toList ≠ .invalid e) ∧
      classify .source ("if x:\n  y".toList ++ '\n' :: "@d\ndef f(z,".toList) =
        classify .source "@d\ndef f(z,".toList := by
  have hBlock : classify .source "if x:\n  y".toList = .complete := by decide +kernel
  have hOpen : classify .source "@d\ndef f(z,".toList = .incomplete := by decide +kernel
  have hValid : ∀ e, classify .source "@d\ndef f(z,".toList ≠ .invalid e := by
    intro e hInvalid
    rw [hOpen] at hInvalid
    cases hInvalid
  exact ⟨hBlock, hValid, classify_source_append _ _ hBlock hValid⟩

end RemoteConsole.Statement
