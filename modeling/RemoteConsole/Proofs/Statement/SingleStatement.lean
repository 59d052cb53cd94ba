import Mathlib.Data.List.Chain
import RemoteConsole.Proofs.Statement.Completion
import RemoteConsole.Proofs.Statement.Modes

/-!
# Interactive texts hold one statement

A source that is finished is finished as an interactive text exactly if its
logical lines are one statement that has come to its end. Whether they are one
is told by the lines alone: nothing at all, a single line that begins no
compound statement, or a compound statement with its clauses and decorators and
a blank line behind it. The outermost level of the scanner sees much less, only
what the last line at indentation zero opened with and a mark that the first one
has set. The blocks make up for it: a line that begins no compound statement has
nothing deeper below it, and neither has a decorator.

* `SingleStatement` — logical lines that are one statement.
* `TopLevel.meetAll_iff_isChain` — what the outermost level takes in behind the
  first line of a compound statement.
* `classify_interactive_eq_complete_iff` — an interactive text is finished
  exactly if it is a finished source of one statement.
-/

namespace RemoteConsole.Statement

/-! ## One statement -/

namespace Logical

/-- A line that begins a compound statement: it ends in a colon, or it starts
with an at sign or with a word that can begin nothing else. -/
def BeginsCompound (l : Logical) : Prop :=
  l.last = some .colon ∨ l.opening = .decorator ∨
    ∃ k ∈ [Keyword.ifWord, .whileWord, .forWord, .tryWord, .withWord, .defWord, .classWord, .asyncWord],
      l.opening = .keyword k

/-- A line at indentation zero that goes on with the statement of the line in
front of it: it starts with the word of a clause, or that line is a decorator at
indentation zero and this one is what it stands before. -/
def GoesOn (before l : Logical) : Prop :=
  (∃ k ∈ [Keyword.elifWord, .elseWord, .exceptWord, .finallyWord], l.opening = .keyword k) ∨
    before.indent = 0 ∧ before.opening = .decorator ∧
      (l.opening = .decorator ∨
        ∃ k ∈ [Keyword.defWord, .classWord, .asyncWord], l.opening = .keyword k)

/-- What has to be true of a line and the one in front of it within one compound
statement. -/
def Follows (before l : Logical) : Prop :=
  l.indent = 0 → before.GoesOn l

end Logical

/-- Logical lines that are one statement, which has come to its end. -/
inductive SingleStatement (blankEnd : Bool) : List Logical → Prop
  | nothing : SingleStatement blankEnd []
  | simple {l : Logical} (indent_eq : l.indent = 0) (not_compound : ¬ l.BeginsCompound) :
      SingleStatement blankEnd [l]
  | compound {first : Logical} {rest : List Logical} (ends : blankEnd = true)
      (indent_eq : first.indent = 0) (begins : first.BeginsCompound)
      (follows : (first :: rest).IsChain Logical.Follows)
      (decorated : ∀ l, ((first :: rest).filter (·.indent = 0)).getLast? = some l →
        l.opening ≠ .decorator) : SingleStatement blankEnd (first :: rest)

/-- The openings that begin a compound statement, one by one. -/
theorem Opening.opensBlock_iff (opening : Opening) :
    opening.opensBlock = true ↔ opening = .decorator ∨
      ∃ k ∈ [Keyword.ifWord, .whileWord, .forWord, .tryWord, .withWord, .defWord, .classWord, .asyncWord],
        opening = .keyword k := by
  cases opening with
  | decorator | other => simp [opensBlock]
  | keyword k => cases k <;> simp [opensBlock, Keyword.opensBlock]

/-- The openings that go on with a compound statement: the words of clauses
behind anything, and what may be decorated behind a decorator. -/
theorem TopLevel.continues_iff (previous opening : Opening) :
    continues true previous opening = true ↔
      (∃ k ∈ [Keyword.elifWord, .elseWord, .exceptWord, .finallyWord], opening = .keyword k) ∨
        previous = .decorator ∧ (opening = .decorator ∨
          ∃ k ∈ [Keyword.defWord, .classWord, .asyncWord], opening = .keyword k) := by
  cases opening with
  | decorator | other => simp [continues]
  | keyword k => cases k <;> simp [continues, Keyword.isClause, Keyword.isDecorated]

/-- A line of the right shape that ends in a colon is a header, since a colon is
refused behind anything but a keyword. So what makes the scanner mark a
statement as compound is what begins a compound one. -/
theorem Logical.beginsCompound_iff {l : Logical} {header : Option Header}
    (hShape : Scanner.checkShape l = .ok header) :
    (l.header?.isSome || l.opening.opensBlock) = true ↔ l.BeginsCompound := by
  -- a colon behind another first word has been refused, so a colon makes a
  -- header
  have hColon : l.header?.isSome = true ↔ l.last = some .colon := by
    unfold header?
    unfold Scanner.checkShape at hShape
    cases hLast : l.last with
    | none => simp
    | some token =>
      cases token with
      | value | operator | opening | separator => simp
      | colon =>
        rw [hLast] at hShape
        -- a keyword in front, or the colon is at fault
        cases hOpening : l.opening with
        | keyword k => simp
        | decorator | other =>
          rw [hOpening] at hShape
          cases hShape
  rw [Bool.or_eq_true, hColon, Opening.opensBlock_iff]
  rfl

/-! ## The outermost level and the blocks -/

namespace TopLevel

/-- Takes in logical lines one after the other. -/
def meetAll (mode : Mode) (t : TopLevel) (lines : List Logical) : Except SyntaxError TopLevel :=
  lines.foldlM (meet mode) t

variable {mode : Mode} {t t' : TopLevel} {before l : Logical} {lines : List Logical}

/-- The outermost level takes in the first line and then the others. -/
theorem meetAll_cons (mode : Mode) (t : TopLevel) (l : Logical) (lines : List Logical) :
    t.meetAll mode (l :: lines) = (t.meet mode l).bind fun t => t.meetAll mode lines := by
  unfold meetAll
  rw [List.foldlM_cons]
  rfl

/-- It takes in lines behind others from where these have left it. -/
theorem meetAll_append (mode : Mode) (t : TopLevel) (a b : List Logical) :
    t.meetAll mode (a ++ b) = (t.meetAll mode a).bind fun t => t.meetAll mode b := by
  unfold meetAll
  rw [List.foldlM_append]
  rfl

theorem meetAll_singleton (mode : Mode) (t : TopLevel) (l : Logical) :
    t.meetAll mode [l] = t.meet mode l := by
  rw [meetAll_cons]
  cases t.meet mode l <;> rfl

/-- What an interactive text is held to does not change what is known. -/
theorem meetAll_source (h : t.meetAll .interactive lines = .ok t') :
    t.meetAll .source lines = .ok t' := by
  induction lines generalizing t with
  | nil => exact h
  | cons l rest ih =>
    rw [meetAll_cons] at h ⊢
    -- the modes differ only where the interactive one refuses
    rcases t.meet_modes l with hSame | ⟨hError, -⟩
    · rw [← hSame]
      -- both modes have met the first line in the same way
      cases hMeet : t.meet .interactive l with
      | error e =>
        rw [hMeet] at h
        cases h
      | ok next =>
        rw [hMeet] at h
        exact ih h
    · rw [hError] at h
      cases h

/-- What the last line at indentation zero opened with is known. The induction
is on the lines, from the first; deeper lines leave what is known. -/
theorem previous_of_meetAll (h : t.meetAll mode lines = .ok t') :
    t'.previous = ((lines.filter (·.indent = 0)).getLast?.map Logical.opening).or t.previous := by
  induction lines generalizing t with
  | nil =>
    rw [← Except.ok.inj h]
    rfl
  | cons l rest ih =>
    rw [meetAll_cons] at h
    cases hMeet : t.meet mode l with
    | error e =>
      rw [hMeet] at h
      cases h
    | ok next =>
      rw [hMeet] at h
      have hRest := ih h
      unfold meet at hMeet
      split at hMeet
      -- a line at the outermost level is the last one so far
      · next hZero =>
        rw [hRest, previous_of_accept hMeet, List.filter_cons_of_pos (by simpa using hZero),
          List.getLast?_cons]
        cases (rest.filter (·.indent = 0)).getLast? <;> rfl
      · next hInner =>
        rw [hRest, List.filter_cons_of_neg (by simpa using hInner), Except.ok.inj hMeet]

/-- Behind the first line the mark of a compound statement stays as it is, and
some opening is known. -/
theorem compound_of_meet {first : Opening} (hPrevious : t.previous = some first)
    (h : t.meet mode l = .ok t') : t'.compound = t.compound ∧ ∃ opening, t'.previous = some opening := by
  unfold meet accept at h
  rw [hPrevious] at h
  dsimp only at h
  split at h
  · split at h
    · cases h
    · rw [← Except.ok.inj h]
      exact ⟨rfl, _, rfl⟩
  · rw [← Except.ok.inj h]
    exact ⟨rfl, _, hPrevious⟩

/-- The mark that the first line has set stays. -/
theorem compound_of_meetAll {first : Opening} (hPrevious : t.previous = some first)
    (h : t.meetAll mode lines = .ok t') : t'.compound = t.compound := by
  induction lines generalizing t first with
  | nil => rw [← Except.ok.inj h]
  | cons l rest ih =>
    rw [meetAll_cons] at h
    cases hMeet : t.meet mode l with
    | error e =>
      rw [hMeet] at h
      cases h
    | ok next =>
      rw [hMeet] at h
      -- something is known behind the next line as well
      obtain ⟨hSame, opening, hNext⟩ := compound_of_meet hPrevious hMeet
      rw [ih hNext h, hSame]

end TopLevel

namespace Blocks

variable {b b' : Blocks} {x : Line} {lines : List Line}

/-- Blocks take in the first line and then the others. -/
theorem takeAll_cons_eq_ok :
    b.takeAll (x :: lines) = .ok b' ↔ ∃ next, b.take x = .ok next ∧ next.takeAll lines = .ok b' := by
  unfold takeAll
  rw [List.foldlM_cons]
  cases b.take x <;> simp [bind, Except.bind]

/-- Where only the outermost block is open and no header waits, a line stands at
indentation zero. -/
theorem indent_eq_zero_of_take (hLevels : b.levels = [0]) (hHeader : b.header = none)
    (h : b.take x = .ok b') : x.indent = 0 := by
  obtain ⟨a, hAccept, -⟩ := take_eq_ok.mp h
  rcases Nat.eq_zero_or_pos x.indent with hZero | hInner
  · exact hZero
  · simp [accept, hHeader, innermost, hLevels, hInner] at hAccept

/-- A line at indentation zero that is no header leaves only the outermost block
open. -/
theorem Nested.levels_of_take (h : b.Nested) (hTake : b.take x = .ok b') (hZero : x.indent = 0)
    (hHeader : x.header = none) : b'.levels = [0] ∧ b'.header = none := by
  obtain ⟨a, hAccept, rfl⟩ := take_eq_ok.mp hTake
  obtain ⟨hNested, hNone, outer, hLevels⟩ := h.accept hAccept
  rw [hZero] at hLevels
  rw [hHeader]
  exact ⟨hNested.levels_eq_of_cons_zero hLevels, hNone⟩

end Blocks

namespace TopLevel

variable {t t' : TopLevel} {b b' : Blocks} {before l : Logical} {lines : List Logical}

/-- The outermost level behind a line of a compound statement. It remembers a
decorator exactly while that is the last line, since nothing else is open
then. -/
structure Behind (before : Logical) (b : Blocks) (t : TopLevel) : Prop where
  nested : b.Nested
  compound : t.compound = true
  known : t.previous ≠ none
  decorator : t.previous = some .decorator ↔ before.indent = 0 ∧ before.opening = .decorator
  blocks : t.previous = some .decorator → b.levels = [0] ∧ b.header = none

/-- A line is taken in behind another one exactly if it goes on with the same
statement. -/
theorem Behind.meet_iff (h : Behind before b t) (l : Logical) :
    (∃ t', t.meet .interactive l = .ok t') ↔ before.Follows l := by
  obtain ⟨previous, hPrevious⟩ := Option.ne_none_iff_exists'.mp h.known
  have hDecorator := h.decorator
  rw [hPrevious, Option.some_inj] at hDecorator
  unfold meet accept Logical.Follows Logical.GoesOn
  rw [hPrevious, h.compound]
  -- only a line at indentation zero is looked at
  by_cases hZero : l.indent = 0
  · have hContinues := continues_iff previous l.opening
    rw [hDecorator, and_assoc] at hContinues
    rw [← hContinues]
    cases hSame : continues true previous l.opening <;> simp [hZero, hSame]
  · simp [hZero]

/-- What the outermost level knows behind a line is right behind the next one,
if blocks and level take it in. A deeper line is none of the level's business,
but behind a decorator there is none. -/
theorem Behind.next (h : Behind before b t) (hMeet : t.meet .interactive l = .ok t')
    (hTake : b.take l.placed = .ok b') : Behind l b' t' := by
  obtain ⟨previous, hPrevious⟩ := Option.ne_none_iff_exists'.mp h.known
  obtain ⟨hCompound, opening, hOpening⟩ := compound_of_meet hPrevious hMeet
  have hNested := h.nested.take hTake
  have hSome : t'.previous ≠ none := by
    rw [hOpening]
    simp
  unfold meet at hMeet
  split at hMeet
  -- an outermost line; if it is a decorator, only the outermost block is open
  -- behind it
  · next hZero =>
    have hLast := previous_of_accept hMeet
    refine ⟨hNested, hCompound.trans h.compound, hSome, by simp [hLast, hZero], fun hDecorator => ?_⟩
    rw [hLast, Option.some_inj] at hDecorator
    exact h.nested.levels_of_take hTake hZero (Logical.header?_of_decorator hDecorator)
  · next hInner =>
    -- behind a decorator there is no deeper line
    obtain rfl := Except.ok.inj hMeet
    have hPlain : t.previous ≠ some .decorator := by
      intro hDecorator
      obtain ⟨hLevels, hHeader⟩ := h.blocks hDecorator
      exact hInner (Blocks.indent_eq_zero_of_take hLevels hHeader hTake)
    exact ⟨hNested, h.compound, hSome, by simp [hPlain, hInner], fun hDecorator =>
      absurd hDecorator hPlain⟩

/-- Behind the first line of a compound statement those lines are taken in of
which each goes on with the statement of the one in front of it. The induction
is on the lines, and `Behind` is the invariant. -/
theorem meetAll_iff_isChain (h : Behind before b t)
    (hTake : b.takeAll (lines.map Logical.placed) = .ok b') :
    (∃ t', t.meetAll .interactive lines = .ok t') ↔ (before :: lines).IsChain Logical.Follows := by
  induction lines generalizing before b t with
  | nil => exact iff_of_true ⟨t, rfl⟩ (.singleton before)
  | cons l rest ih =>
    obtain ⟨next, hNext, hRest⟩ := Blocks.takeAll_cons_eq_ok.mp hTake
    rw [List.isChain_cons_cons, ← h.meet_iff l, meetAll_cons]
    cases hMeet : t.meet .interactive l with
    | error e => simp [Except.bind]
    | ok t' => simpa [Except.bind] using ih (h.next hMeet hNext) hRest

/-- Behind a line that begins no compound statement nothing is taken in. -/
theorem eq_nil_of_meetAll {previous : Opening} (hPrevious : t.previous = some previous)
    (hPlain : previous ≠ .decorator) (hCompound : t.compound = false) (hLevels : b.levels = [0])
    (hHeader : b.header = none) (hTake : b.takeAll (lines.map Logical.placed) = .ok b')
    (hMeet : t.meetAll .interactive lines = .ok t') : lines = [] := by
  cases lines with
  | nil => rfl
  | cons l rest =>
    obtain ⟨next, hNext, -⟩ := Blocks.takeAll_cons_eq_ok.mp hTake
    have hZero : l.indent = 0 := Blocks.indent_eq_zero_of_take hLevels hHeader hNext
    have hSecond : continues false previous l.opening = false := by
      cases hOpening : l.opening <;> simp [continues, hPlain]
    rw [meetAll_cons, meet, accept, hPrevious, hCompound] at hMeet
    simp [hZero, hSecond, Except.bind] at hMeet

end TopLevel

/-! ## Lines that are one statement -/

variable {lines : List Logical} {b : Blocks} {blankEnd : Bool}

/-- Lines that fit into blocks are one statement exactly if the outermost level
takes them in, no decorator waits behind them, and a compound statement is
followed by a blank line. -/
theorem singleStatement_iff (hShape : ∀ l ∈ lines, ∃ header, Scanner.checkShape l = .ok header)
    (hTake : Blocks.takeAll {} (lines.map Logical.placed) = .ok b) :
    SingleStatement blankEnd lines ↔
      ∃ t, TopLevel.meetAll .interactive {} lines = .ok t ∧ t.awaitsDecorated = false ∧
        (t.compound = true → blankEnd = true) := by
  cases lines with
  | nil => exact iff_of_true .nothing ⟨{}, rfl, rfl, by simp⟩
  | cons first rest =>
    obtain ⟨next, hNext, hRest⟩ := Blocks.takeAll_cons_eq_ok.mp hTake
    have hZero : first.indent = 0 := Blocks.indent_eq_zero_of_take rfl rfl hNext
    obtain ⟨header, hHeader⟩ := hShape first List.mem_cons_self
    have hBegins := Logical.beginsCompound_iff hHeader
    generalize hMark : (first.header?.isSome || first.opening.opensBlock) = mark at hBegins
    -- nothing refuses a first line, and it sets the mark
    have hFirst : TopLevel.meet .interactive {} first = .ok ⟨some first.opening, mark⟩ := by
      rw [TopLevel.meet, if_pos hZero, TopLevel.accept, hMark]
    rw [TopLevel.meetAll_cons, hFirst]
    cases mark with
    | false =>
      -- one line, as nothing is taken in behind it
      obtain ⟨hPlainHeader, hPlainOpening⟩ := Bool.or_eq_false_iff.mp hMark
      have hPlain : first.opening ≠ .decorator := by
        intro hDecorator
        simp [hDecorator, Opening.opensBlock] at hPlainOpening
      have hSimple : ¬ first.BeginsCompound := by
        rw [← hBegins]
        simp
      obtain ⟨hLevels, hNone⟩ := Blocks.nested_start.levels_of_take hNext hZero
        (by simpa [Logical.placed] using hPlainHeader)
      constructor
      · intro h
        cases h with
        | simple => exact ⟨_, rfl, by simpa [TopLevel.awaitsDecorated] using hPlain, by simp⟩
        | compound _ _ begins => exact absurd begins hSimple
      · rintro ⟨t, hMeet, -, -⟩
        obtain rfl := TopLevel.eq_nil_of_meetAll rfl hPlain rfl hLevels hNone hRest hMeet
        exact .simple hZero hSimple
    | true =>
      have hCompound := hBegins.mp rfl
      have hBehind : TopLevel.Behind first next ⟨some first.opening, true⟩ := by
        refine ⟨Blocks.nested_start.take hNext, rfl, by simp, by simp [hZero], fun hDecorator => ?_⟩
        exact Blocks.nested_start.levels_of_take hNext hZero
          (Logical.header?_of_decorator (Option.some.inj hDecorator))
      -- behind it the level takes in what goes on with the statement
      have hChain := TopLevel.meetAll_iff_isChain hBehind hRest
      have hLast : ∀ {t}, TopLevel.meetAll .interactive ⟨some first.opening, true⟩ rest = .ok t →
          (t.awaitsDecorated = false ↔
            ∀ l, ((first :: rest).filter (·.indent = 0)).getLast? = some l → l.opening ≠ .decorator) := by
        intro t hMeet
        have hPrevious := TopLevel.previous_of_meetAll hMeet
        rw [List.filter_cons_of_pos (by simpa using hZero), List.getLast?_cons]
        cases hInner : (rest.filter (·.indent = 0)).getLast? <;>
          simp [TopLevel.awaitsDecorated, hPrevious, hInner]
      constructor
      · intro h
        cases h with
        | simple _ not_compound => exact absurd hCompound not_compound
        | compound ends _ _ follows decorated =>
          obtain ⟨t, hMeet⟩ := hChain.mpr follows
          exact ⟨t, hMeet, (hLast hMeet).mpr decorated, fun _ => ends⟩
      · rintro ⟨t, hMeet, hDecorated, hEnds⟩
        have hMark := TopLevel.compound_of_meetAll rfl hMeet
        exact .compound (hEnds hMark) hZero hCompound (hChain.mp ⟨t, hMeet⟩)
          ((hLast hMeet).mp hDecorated)

/-! ## Texts -/

namespace Scanner

variable {mode : Mode} {s s' : Scanner} {line : Nat}

/-- A logical line that has ended has passed the check of its shape. -/
theorem shape_of_mem_ended {l : Logical} (h : l ∈ s.ended) : ∃ header, checkShape l = .ok header := by
  unfold ended at h
  split at h
  · cases h
  split at h
  · cases h
  split at h
  · cases h
  split at h
  · cases h
  · next header hShape =>
    rw [List.mem_singleton] at h
    exact ⟨header, h ▸ hShape⟩

/-- The logical lines of a text have passed the check of their shape. -/
theorem shape_of_mem_outline {lines : List (List Char)} {l : Logical}
    (h : l ∈ s.outline mode line lines) : ∃ header, checkShape l = .ok header := by
  induction lines generalizing s line with
  | nil => cases h
  | cons text rest ih =>
    rw [outline] at h
    split at h
    · cases h
    · rcases List.mem_append.mp h with hHere | hLater
      · exact shape_of_mem_ended hHere
      · split at hLater
        · cases hLater
        · exact ih hLater

/-- The end of a logical line takes it into the outermost level, which keeps it
only if it stands at indentation zero. Nothing else changes the outermost
level. -/
theorem endLine_top (h : s.endLine mode = .ok s') :
    s.top.meetAll mode s.ended = .ok s'.top := by
  unfold endLine at h
  unfold ended
  split at h
  · next hOpen =>
    rw [if_pos hOpen, ← Except.ok.inj h]
    rfl
  next hClosed =>
  rw [if_neg hClosed]
  unfold finishLogical at h
  cases hLogical : s.logical with
  | none =>
    rw [hLogical] at h
    rw [← Except.ok.inj h]
    rfl
  | some l =>
    rw [hLogical] at h
    dsimp only at h ⊢
    by_cases hEmpty : l.last.isNone
    · rw [if_pos hEmpty] at h ⊢
      rw [← Except.ok.inj h]
      rfl
    · rw [if_neg hEmpty] at h ⊢
      -- the line has settled, so the outermost level has met it
      obtain ⟨⟨header, hShape⟩, -, hMeet, -⟩ := settle_eq_ok h
      rw [hShape]
      dsimp only
      rw [TopLevel.meetAll_singleton, hMeet]

/-- A logical line that ends well in a source ends well in an interactive text
if the outermost level takes it in. -/
theorem endLine_interactive_of_meetAll {t : TopLevel} (h : s.endLine .source = .ok s')
    (hMeet : s.top.meetAll .interactive s.ended = .ok t) : s.endLine .interactive = .ok s' := by
  rcases s.endLine_modes with hSame | ⟨l, hLogical, hError, hOpen, -⟩
  · rw [hSame, h]
  · -- the line that is refused is the one that ends
    exfalso
    unfold endLine finishLogical at h hError
    unfold ended at hMeet
    simp only [hOpen, hLogical, Bool.false_eq_true, if_false] at h hError hMeet
    split at h
    · next hEmpty =>
      rw [if_pos hEmpty] at hError
      cases hError
    · next hToken =>
      obtain ⟨⟨header, hShape⟩, hTake, -, -⟩ := settle_eq_ok h
      rw [if_neg hToken, hShape] at hMeet
      dsimp only at hMeet
      rw [TopLevel.meetAll_singleton] at hMeet
      rw [if_neg hToken, settle_eq_bind, hShape, hTake, hMeet] at hError
      cases hError

/-- A source that is scanned without a fault is scanned so as an interactive
text exactly if the outermost level takes in its logical lines. -/
theorem scanLines_interactive_iff {lines : List (List Char)}
    (h : s.scanLines .source line lines = .ok s') :
    s.scanLines .interactive line lines = .ok s' ↔
      ∃ t, s.top.meetAll .interactive (s.outline .source line lines) = .ok t := by
  induction lines generalizing s line with
  | nil => exact iff_of_true h ⟨s.top, rfl⟩
  | cons text rest ih =>
    rw [scanLines] at h
    rw [scanLines, outline]
    cases hAbsorb : s.absorbLine line text with
    | error e =>
      rw [scanLine_of_absorbLine_error hAbsorb] at h
      cases h
    | ok read =>
      rw [scanLine_of_absorbLine hAbsorb] at h ⊢
      rw [← top_absorbLine hAbsorb]
      dsimp only
      cases hNext : read.endLine .source with
      | error e =>
        rw [hNext] at h
        cases h
      | ok next =>
        rw [hNext] at h
        dsimp only at h ⊢
        rw [TopLevel.meetAll_append]
        -- the line that ends here is taken in, or both sides fail with it
        cases hMeet : read.top.meetAll .interactive read.ended with
        | ok t =>
          have hInteractive := endLine_interactive_of_meetAll hNext hMeet
          have hTop := endLine_top hInteractive
          rw [hMeet] at hTop
          rw [hInteractive, Except.ok.inj hTop]
          exact ih h
        | error e =>
          -- if the line had ended well, the outermost level would have taken it
          -- in
          refine iff_of_false (fun hScan => ?_) (by simp [Except.bind])
          cases hInteractive : read.endLine .interactive with
          | error e' =>
            rw [hInteractive] at hScan
            cases hScan
          | ok other =>
            rw [endLine_top hInteractive] at hMeet
            cases hMeet

/-- The outermost level of the scanner is that of its outline. The induction is
on the physical lines, each of which adds the logical lines that end on it. -/
theorem top_of_scanLines {lines : List (List Char)} (h : s.scanLines mode line lines = .ok s') :
    s.top.meetAll mode (s.outline mode line lines) = .ok s'.top := by
  induction lines generalizing s line with
  | nil =>
    rw [← Except.ok.inj h]
    rfl
  | cons text rest ih =>
    rw [scanLines] at h
    rw [outline]
    cases hAbsorb : s.absorbLine line text with
    | error e =>
      rw [scanLine_of_absorbLine_error hAbsorb] at h
      cases h
    | ok read =>
      rw [scanLine_of_absorbLine hAbsorb] at h
      rw [← top_absorbLine hAbsorb]
      dsimp only
      -- the line ends well, since all lines are taken in
      cases hNext : read.endLine mode with
      | error e =>
        rw [hNext] at h
        cases h
      | ok next =>
        rw [hNext] at h
        dsimp only at h ⊢
        rw [TopLevel.meetAll_append, endLine_top hNext]
        exact ih h

/-- Whatever the outermost level comes to in an interactive text, it comes to
the same in the source. -/
theorem eq_top_of_meetAll {lines : List (List Char)} {t : TopLevel}
    (h : s.scanLines .source line lines = .ok s')
    (hMeet : s.top.meetAll .interactive (s.outline .source line lines) = .ok t) : t = s'.top := by
  have hSource := TopLevel.meetAll_source hMeet
  rw [top_of_scanLines h] at hSource
  exact (Except.ok.inj hSource).symm

/-- Only what is settled is finished, and a compound statement only behind a
blank line. -/
theorem verdict_interactive_eq_complete_iff (s : Scanner) (count : Nat) (blankEnd : Bool) :
    s.verdict .interactive count blankEnd = .complete ↔
      s.isSettled = true ∧ (s.top.compound = true → blankEnd = true) := by
  constructor
  · intro h
    have hSettled := isSettled_of_verdict h
    rw [verdict_of_isSettled hSettled] at h
    refine ⟨hSettled, fun hCompound => ?_⟩
    -- an interactive compound statement is held open for its blank line
    by_contra hEnd
    simp [hCompound, hEnd] at h
  · rintro ⟨hSettled, hEnds⟩
    rw [verdict_of_isSettled hSettled, if_neg]
    rintro ⟨-, hCompound, hEnd⟩
    rw [hEnds hCompound] at hEnd
    cases hEnd

end Scanner

/-- A source behind which nothing is open and nothing is missing is one
statement exactly if it is finished as an interactive text. -/
theorem singleStatement_iff_of_isSettled {text : List Char} {s : Scanner}
    (hScan : Scanner.scanLines .source {} 1 (physical text) = .ok s) (hSettled : s.isSettled = true) :
    SingleStatement (endsBlank (physical text)) (outline .source text) ↔
      classify .interactive text = .complete := by
  have hTake := (Scanner.follows_outline .source {} 1 (physical text)).ok s hScan
  have hMeets := Scanner.scanLines_interactive_iff hScan
  refine (singleStatement_iff (fun l => Scanner.shape_of_mem_outline) hTake).trans ⟨?_, fun h => ?_⟩
  · rintro ⟨t, hMeet, -, hEnds⟩
    obtain rfl := Scanner.eq_top_of_meetAll hScan hMeet
    -- the interactive scan ends in the same scanner, and the blank line decides
    rw [classify_eq, classifyLines, hMeets.mpr ⟨_, hMeet⟩]
    exact (s.verdict_interactive_eq_complete_iff _ _).mpr ⟨hSettled, hEnds⟩
  · obtain ⟨s', hInteractive, hVerdict⟩ := exists_scanLines_of_classify h (by simp)
    -- both scans have ended in the same scanner
    obtain rfl : s' = s := by
      have hAgain := Scanner.scanLines_source hInteractive
      rw [hScan] at hAgain
      exact (Except.ok.inj hAgain).symm
    obtain ⟨t, hMeet⟩ := hMeets.mp hInteractive
    obtain rfl := Scanner.eq_top_of_meetAll hScan hMeet
    refine ⟨_, hMeet, ?_, ((s'.verdict_interactive_eq_complete_iff _ _).mp hVerdict).2⟩
    simp only [Scanner.isSettled, Scanner.awaitsBody, Bool.and_eq_true, Bool.not_eq_true',
      Bool.or_eq_false_iff] at hSettled
    exact hSettled.2.2

/-- **One statement at a time.** An interactive text is finished exactly if it
is a finished source and its logical lines are one statement: none at all, a
single line that begins no compound statement, or the lines of one compound
statement with a blank line behind them. -/
theorem classify_interactive_eq_complete_iff (text : List Char) :
    classify .interactive text = .complete ↔
      classify .source text = .complete ∧
        SingleStatement (endsBlank (physical text)) (outline .source text) := by
  constructor
  · intro h
    -- what is finished interactively is a finished source, and so it is settled
    have hSource := classify_source_of_interactive h
    obtain ⟨s, hScan, hVerdict⟩ := exists_scanLines_of_classify hSource (by simp)
    have hSettled := Scanner.isSettled_of_verdict hVerdict
    exact ⟨hSource, (singleStatement_iff_of_isSettled hScan hSettled).mpr h⟩
  · rintro ⟨hSource, hSingle⟩
    obtain ⟨s, hScan, hVerdict⟩ := exists_scanLines_of_classify hSource (by simp)
    have hSettled := Scanner.isSettled_of_verdict hVerdict
    exact (singleStatement_iff_of_isSettled hScan hSettled).mp hSingle

end RemoteConsole.Statement
