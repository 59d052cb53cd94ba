import RemoteConsole.Proofs.Statement.BlockStructure

/-!
# The outline of a text

The outline of a text is the list of its logical lines with tokens. The scanner
takes them into the open blocks one after the other, and nothing else touches
the blocks or finds an indentation fault. So what is proved of lines and blocks
is true of texts.

* `Scanner.outline` — the logical lines that end, up to the first fault.
* `Scanner.follows_outline` — the blocks of the scanner are those of its
  outline.
* `takeAll_iff_items` — lines are taken in exactly if they begin a list of
  items, and they leave no header waiting exactly if they are one.
-/

namespace RemoteConsole.Statement

/-! ## One logical line -/

namespace Logical

/-- The header that a logical line is when its last token is a colon: the
keyword that it starts with, and its line. A line with another first word is
none, and a colon at its end is a fault. -/
def header? (l : Logical) : Option Header :=
  match l.last, l.opening with
  | some .colon, .keyword k => some ⟨l.line, k⟩
  | _, _ => none

/-- A logical line as the open blocks meet it. -/
def placed (l : Logical) : Blocks.Line :=
  ⟨l.indent, l.line, l.header?⟩

end Logical

/-- Whether a fault lies in how far lines are indented. -/
def Cause.isIndentation : Cause → Bool
  | expectedBlock _ | unexpectedIndent | inconsistentDedent => true
  | _ => false

/-- A fault that is found within a physical line is none of indentation, which
is judged at the end. -/
theorem Cause.IsEarly.isIndentation_eq_false {line : Nat} {cause : Cause} (h : cause.IsEarly line) :
    cause.isIndentation = false := by
  cases cause with
  | expectedBlock | unexpectedIndent | inconsistentDedent => exact False.elim h
  | _ => rfl

namespace Scanner

/-- A logical line that is of the right shape is the header that its first word
and its last token make it. -/
theorem checkShape_eq_ok {l : Logical} {header : Option Header} (h : checkShape l = .ok header) :
    header = l.header? := by
  unfold checkShape at h
  unfold Logical.header?
  cases hLast : l.last with
  | none =>
    rw [hLast] at h
    dsimp only at h
    split at h
    · cases h
    · exact (Except.ok.inj h).symm
  | some token =>
    rw [hLast] at h
    cases token with
    -- an operator at the end is refused, so nothing is to be shown
    | operator => cases h
    | colon =>
      dsimp only at h
      -- without a keyword in front a colon at the end is a fault
      split at h
      · next k hOpening =>
        rw [hOpening]
        split at h
        · cases h
        · exact (Except.ok.inj h).symm
      · cases h
    | value | opening | separator =>
      dsimp only at h
      split at h
      · cases h
      · exact (Except.ok.inj h).symm

/-- A fault of shape lies on the line on which the logical line ends, and it is
a missing colon or a line that stops where no line may. -/
theorem checkShape_eq_error {l : Logical} {e : SyntaxError} (h : checkShape l = .error e) :
    e.line = l.endLine ∧ (e.cause = .invalidSyntax ∨ e.cause = .expectedColon) := by
  -- the three branches in which a logical line is refused
  unfold checkShape at h
  split at h
  · rw [← Except.error.inj h]
    exact ⟨rfl, .inl rfl⟩
  · split at h
    · split at h
      · rw [← Except.error.inj h]
        exact ⟨rfl, .inr rfl⟩
      · cases h
    · rw [← Except.error.inj h]
      exact ⟨rfl, .inl rfl⟩
  · split at h
    · rw [← Except.error.inj h]
      exact ⟨rfl, .inr rfl⟩
    · cases h

end Scanner

/-- Blocks refuse a line for its indentation only. -/
theorem Blocks.accept_eq_error {b : Blocks} {i line : Nat} {e : SyntaxError}
    (h : b.accept i line = .error e) : e.line = line ∧ e.cause.isIndentation = true := by
  unfold accept at h
  split at h
  · split at h
    · cases h
    · rw [← Except.error.inj h]
      exact ⟨rfl, rfl⟩
  · split at h
    · rw [← Except.error.inj h]
      exact ⟨rfl, rfl⟩
    · split at h
      · cases h
      · rw [← Except.error.inj h]
        exact ⟨rfl, rfl⟩

/-- Whether a line is refused does not depend on the header it may be. -/
theorem Blocks.take_eq_error_iff {b : Blocks} {x : Blocks.Line} {e : SyntaxError} :
    b.take x = .error e ↔ b.accept x.indent x.line = .error e := by
  unfold take
  cases b.accept x.indent x.line with
  | error e' => rfl
  | ok a => exact iff_of_false nofun nofun

/-- A line that is refused is refused for its indentation. -/
theorem Blocks.take_eq_error {b : Blocks} {x : Blocks.Line} {e : SyntaxError}
    (h : b.take x = .error e) : e.line = x.line ∧ e.cause.isIndentation = true :=
  accept_eq_error (take_eq_error_iff.mp h)

namespace TopLevel

/-- Takes in a logical line, which only matters to the outermost level at
indentation zero. -/
def meet (mode : Mode) (t : TopLevel) (l : Logical) : Except SyntaxError TopLevel :=
  if l.indent = 0 then t.accept mode l.opening l.header?.isSome l.line else .ok t

/-- The outermost level refuses a line only in interactive mode, as a second
statement. -/
theorem meet_eq_error {mode : Mode} {t : TopLevel} {l : Logical} {e : SyntaxError}
    (h : t.meet mode l = .error e) : mode = .interactive ∧ e = ⟨.multipleStatements, l.line⟩ := by
  unfold meet accept at h
  split at h
  · split at h
    · cases h
    · split at h
      · next hSecond => exact ⟨hSecond.1, (Except.error.inj h).symm⟩
      · cases h
  · cases h

end TopLevel

namespace Scanner

/-- A logical line has to pass three checks: its own shape, the blocks, and the
outermost level. The proofs about the end of a line start from here and not from
the scanner's code. -/
theorem settle_eq_bind (mode : Mode) (s : Scanner) (l : Logical) :
    s.settle mode l =
      (checkShape l).bind fun _ => (s.blocks.take l.placed).bind fun blocks =>
        (s.top.meet mode l).bind fun top =>
          .ok { s with logical := none, blocks := blocks, top := top } := by
  unfold settle TopLevel.meet Blocks.take Logical.placed
  dsimp only
  cases hShape : checkShape l with
  | error e => rfl
  | ok header =>
    -- the header that waits afterwards can be told from the line alone
    rw [checkShape_eq_ok hShape]
    cases s.blocks.accept l.indent l.line with
    | error e => rfl
    | ok blocks =>
      dsimp only [Except.map, Except.bind]
      split
      · cases s.top.accept mode l.opening l.header?.isSome l.line with
        | error e => rfl
        | ok top => cases l.header? <;> rfl
      · cases l.header? <;> rfl

/-- A logical line that ends has passed all three checks, and it leaves what
they leave. -/
theorem settle_eq_ok {mode : Mode} {s s' : Scanner} {l : Logical} (h : s.settle mode l = .ok s') :
    (∃ header, checkShape l = .ok header) ∧ s.blocks.take l.placed = .ok s'.blocks ∧
      s.top.meet mode l = .ok s'.top ∧ s' = { s with logical := none, blocks := s'.blocks, top := s'.top } := by
  rw [settle_eq_bind] at h
  cases hShape : checkShape l with
  | error e => simp [hShape, Except.bind] at h
  | ok header =>
    cases hTake : s.blocks.take l.placed with
    | error e => simp [hShape, hTake, Except.bind] at h
    | ok blocks =>
      cases hMeet : s.top.meet mode l with
      | error e => simp [hShape, hTake, hMeet, Except.bind] at h
      | ok top =>
        -- all three have passed, and the scanner that is left is made of what
        -- they leave
        simp only [hShape, hTake, hMeet, Except.bind, Except.ok.injEq] at h
        subst h
        exact ⟨⟨header, rfl⟩, rfl, rfl, rfl⟩

/-- The fault of a logical line is that of the first check that it does not
pass. -/
theorem settle_eq_error {mode : Mode} {s : Scanner} {l : Logical} {e : SyntaxError}
    (h : s.settle mode l = .error e) :
    checkShape l = .error e ∨
      ((∃ header, checkShape l = .ok header) ∧
        (s.blocks.take l.placed = .error e ∨
          ((∃ blocks, s.blocks.take l.placed = .ok blocks) ∧ s.top.meet mode l = .error e))) := by
  rw [settle_eq_bind] at h
  cases hShape : checkShape l with
  | error e' => simpa [hShape, Except.bind] using h
  | ok header =>
    refine .inr ⟨⟨header, rfl⟩, ?_⟩
    cases hTake : s.blocks.take l.placed with
    | error e' => simpa [hShape, hTake, Except.bind] using h
    | ok blocks =>
      refine .inr ⟨⟨blocks, rfl⟩, ?_⟩
      cases hMeet : s.top.meet mode l with
      | error e' => simpa [hShape, hTake, hMeet, Except.bind] using h
      | ok top => simp [hShape, hTake, hMeet, Except.bind] at h

/-- A fault that is found behind a physical line is a fault of the logical line
that ends there. -/
theorem exists_settle_of_endLine {mode : Mode} {s : Scanner} {e : SyntaxError}
    (h : s.endLine mode = .error e) : ∃ l ∈ s.logical, s.settle mode l = .error e := by
  unfold endLine finishLogical at h
  split at h
  · cases h
  split at h
  · cases h
  next l hLogical =>
  split at h
  · cases h
  · exact ⟨l, hLogical, h⟩

/-! ## All logical lines -/

/-- The logical line that ends behind what has been taken in, if one does that
has a token and is of the right shape. -/
def ended (s : Scanner) : List Logical :=
  if s.isOpen then []
  else
    match s.logical with
    | none => []
    | some l =>
      if l.last.isNone then []
      else
        match checkShape l with
        | .error _ => []
        | .ok _ => [l]

/-- The logical lines that end on physical lines, up to the first fault. -/
def outline (mode : Mode) (s : Scanner) (line : Nat) : List (List Char) → List Logical
  | [] => []
  | text :: rest =>
    match s.absorbLine line text with
    | .error _ => []
    | .ok read =>
      read.ended ++
        match read.endLine mode with
        | .error _ => []
        | .ok next => outline mode next (line + 1) rest

/-- What the blocks come to goes together with what the scanner comes to: the
same blocks as long as all goes well, and the same fault exactly if it is one of
indentation. Other faults leave blocks without one. -/
structure Follows (taken : Except SyntaxError Blocks) (scanned : Except SyntaxError Scanner) :
    Prop where
  ok : ∀ s, scanned = .ok s → taken = .ok s.blocks
  error : ∀ e, taken = .error e ↔ scanned = .error e ∧ e.cause.isIndentation = true

theorem follows_of_ok {b : Blocks} {s : Scanner} (h : b = s.blocks) : Follows (.ok b) (.ok s) where
  ok s' hs := by
    rw [h, Except.ok.inj hs]
  error e := by simp

/-- A fault of indentation is one of both. -/
theorem follows_of_error {e : SyntaxError} (h : e.cause.isIndentation = true) :
    Follows (.error e) (.error e) where
  ok s hs := by cases hs
  error e' := by
    constructor
    · intro he
      obtain rfl := Except.error.inj he
      exact ⟨rfl, h⟩
    · rintro ⟨he, -⟩
      rw [Except.error.inj he]

/-- Another fault is the scanner's alone. -/
theorem follows_of_other_error {b : Blocks} {e : SyntaxError} (h : e.cause.isIndentation = false) :
    Follows (.ok b) (.error e) where
  ok s hs := by cases hs
  error e' := by
    refine iff_of_false (by simp) ?_
    rintro ⟨he, hIndentation⟩
    rw [← Except.error.inj he, h] at hIndentation
    cases hIndentation

theorem takeAll_singleton (b : Blocks) (x : Blocks.Line) : b.takeAll [x] = b.take x := by
  unfold Blocks.takeAll
  rw [List.foldlM_cons]
  cases b.take x <;> rfl

/-- Lines behind others go on from the blocks these have left. -/
theorem takeAll_append (b : Blocks) (xs ys : List Blocks.Line) :
    b.takeAll (xs ++ ys) = (b.takeAll xs).bind fun b => b.takeAll ys := by
  unfold Blocks.takeAll
  rw [List.foldlM_append]
  rfl

/-- A logical line of the right shape is taken in by the blocks as the scanner
does it; the outermost level may refuse it afterwards, which is no matter of the
blocks. -/
theorem settle_follows (mode : Mode) (s : Scanner) {l : Logical} {header : Option Header}
    (hShape : checkShape l = .ok header) :
    Follows (s.blocks.take l.placed) (s.settle mode l) := by
  cases hSettle : s.settle mode l with
  | ok s' =>
    obtain ⟨-, hTake, -, -⟩ := settle_eq_ok hSettle
    rw [hTake]
    exact follows_of_ok rfl
  | error e =>
    rcases settle_eq_error hSettle with hError | ⟨-, hTake | ⟨⟨blocks, hTake⟩, hMeet⟩⟩
    · rw [hShape] at hError
      cases hError
    · rw [hTake]
      exact follows_of_error (Blocks.take_eq_error hTake).2
    -- refused for its place among statements, which is no fault of indentation
    · rw [hTake, (TopLevel.meet_eq_error hMeet).2]
      exact follows_of_other_error rfl

/-- The end of a logical line takes it into the open blocks. If it is refused
for its indentation the blocks refuse it too, and any other fault is no matter
of theirs. -/
theorem endLine_follows (mode : Mode) (s : Scanner) :
    Follows (s.blocks.takeAll (s.ended.map Logical.placed)) (s.endLine mode) := by
  unfold endLine ended
  split
  · exact follows_of_ok rfl
  unfold finishLogical
  cases hLogical : s.logical with
  | none => exact follows_of_ok rfl
  | some l =>
    dsimp only
    -- a logical line without a token ends without a trace
    by_cases hEmpty : l.last.isNone = true
    · rw [if_pos hEmpty, if_pos hEmpty]
      exact follows_of_ok rfl
    · rw [if_neg hEmpty, if_neg hEmpty]
      cases hShape : checkShape l with
      | ok header =>
        rw [List.map_singleton, takeAll_singleton]
        exact settle_follows mode s hShape
      | error e =>
        -- a fault of shape comes before the blocks are asked
        have hSettle : s.settle mode l = .error e := by
          rw [settle_eq_bind, hShape]
          rfl
        rw [hSettle]
        apply follows_of_other_error
        rcases (checkShape_eq_error hShape).2 with hCause | hCause <;> rw [hCause] <;> rfl

/-- The blocks of the scanner are those of its outline, and it finds the same
indentation fault. The induction is on the physical lines; the outline stops
where the scanner does. -/
theorem follows_outline (mode : Mode) (s : Scanner) (line : Nat) (lines : List (List Char)) :
    Follows (s.blocks.takeAll ((s.outline mode line lines).map Logical.placed))
      (s.scanLines mode line lines) := by
  induction lines generalizing s line with
  | nil => exact follows_of_ok rfl
  | cons text rest ih =>
    rw [outline, scanLines]
    cases hAbsorb : s.absorbLine line text with
    | error e =>
      rw [scanLine_of_absorbLine_error hAbsorb]
      exact follows_of_other_error (of_absorbLine_eq_error hAbsorb).2.isIndentation_eq_false
    | ok read =>
      -- taking the line in has not touched the blocks
      have hEnd := endLine_follows mode read
      rw [blocks_absorbLine hAbsorb] at hEnd
      rw [scanLine_of_absorbLine hAbsorb]
      dsimp only
      -- the logical line that ends here, if one does, decides
      cases hNext : read.endLine mode with
      | error e =>
        rw [hNext] at hEnd
        dsimp only
        rwa [List.append_nil]
      | ok next =>
        dsimp only
        rw [List.map_append, takeAll_append, hEnd.ok next hNext]
        exact ih next (line + 1)

end Scanner

/-! ## Texts -/

/-- The logical lines of a text, up to its first fault. -/
def outline (mode : Mode) (text : List Char) : List Logical :=
  Scanner.outline mode {} 1 (physical text)

/-- **Lines make up blocks.** Lines are taken in exactly if they begin a list of
items, and they leave no header waiting exactly if they are one. So it is with
the logical lines of a text: the scanner takes them in one after the other, and
it finds an indentation fault exactly where they cannot be taken in. -/
theorem takeAll_iff_items :
    (∀ lines : List Blocks.Line,
      ((∃ b, Blocks.takeAll {} lines = .ok b) ↔
          ∃ whole, Items 0 whole ∧ lines.map Blocks.Line.shape <+: whole) ∧
        ((∃ b, Blocks.takeAll {} lines = .ok b ∧ b.header = none) ↔
          Items 0 (lines.map Blocks.Line.shape))) ∧
      ∀ (mode : Mode) (text : List Char),
        (∀ s, Scanner.scanLines mode {} 1 (physical text) = .ok s →
          Blocks.takeAll {} ((outline mode text).map Logical.placed) = .ok s.blocks) ∧
          ∀ e : SyntaxError, Blocks.takeAll {} ((outline mode text).map Logical.placed) = .error e ↔
            Scanner.scanLines mode {} 1 (physical text) = .error e ∧ e.cause.isIndentation = true := by
  refine ⟨fun lines => ⟨?_, ?_⟩, fun mode text => ?_⟩
  · constructor
    · rintro ⟨b, hTake⟩
      -- whatever brings the blocks to their end completes the list of items
      obtain ⟨rest, hRest⟩ := b.exists_completes
      have hWhole := (Blocks.completes_append_iff Blocks.nested_start lines rest).mpr ⟨b, hTake, hRest⟩
      exact ⟨_, (Blocks.completes_start_iff _).mp hWhole, List.prefix_append _ _⟩
    -- the other way round, what begins a list of items is taken in with all of
    -- it
    · rintro ⟨whole, hItems, rest, rfl⟩
      have hWhole := (Blocks.completes_start_iff _).mpr hItems
      obtain ⟨b, hTake, -⟩ := (Blocks.completes_append_iff Blocks.nested_start lines rest).mp hWhole
      exact ⟨b, hTake⟩
  · rw [← Blocks.completes_start_iff, ← List.append_nil (lines.map Blocks.Line.shape),
      Blocks.completes_append_iff Blocks.nested_start]
    simp only [Blocks.completes_nil_iff]
  · have hFollows := Scanner.follows_outline mode {} 1 (physical text)
    exact ⟨hFollows.ok, hFollows.error⟩

end RemoteConsole.Statement
