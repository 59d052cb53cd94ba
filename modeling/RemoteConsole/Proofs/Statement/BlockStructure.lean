import RemoteConsole.Proofs.Statement.LogicalLine

/-!
# Block structure

The logical lines of a text make up blocks: a line that ends in a colon has a
block of deeper lines below it, and all lines of a block stand at one width.
`Items` says so as a grammar, without a stack. The stack of open blocks is a
reading of this grammar from left to right. What may still come behind the lines
read so far is `Blocks.Completes`: a list of items for each open block, the
innermost one first, and in front of them the block of a header that waits. A
line is taken in exactly if some such rest begins with it, and what is left of
the rest may then come behind the line.

* `Items` — lists of items at a width.
* `Blocks.completes_cons_iff` — taking in a line takes it off what may come.
-/

namespace RemoteConsole.Statement

/-- A list of items at a width: lines with their widths, each together with
whether it is a header. An item is a line that is no header, or a header and the
items of a block that stands deeper. -/
inductive Items : Nat → List (Nat × Bool) → Prop
  | nil {n : Nat} : Items n []
  | plain {n : Nat} {rest : List (Nat × Bool)} (h : Items n rest) : Items n ((n, false) :: rest)
  | block {n m : Nat} {body rest : List (Nat × Bool)} (hDeeper : n < m) (hBody : body ≠ [])
      (h : Items m body) (hRest : Items n rest) : Items n ((n, true) :: (body ++ rest))

/-- The first item of a list stands at the width of the list. -/
theorem Items.width_eq {n i : Nat} {isHeader : Bool} {rest : List (Nat × Bool)}
    (h : Items n ((i, isHeader) :: rest)) : i = n := by
  cases h with
  | plain | block => rfl

namespace Blocks

/-! ## Items for all open blocks -/

/-- Lists of items for all open blocks, the innermost one first. -/
inductive Closes : List Nat → List (Nat × Bool) → Prop
  | nil : Closes [] []
  | cons {n : Nat} {outer : List Nat} {items rest : List (Nat × Bool)} (h : Items n items)
      (hRest : Closes outer rest) : Closes (n :: outer) (items ++ rest)

theorem closes_nil (levels : List Nat) : Closes levels [] := by
  induction levels with
  | nil => exact .nil
  | cons n outer ih => exact .cons .nil ih

/-- The first line behind some blocks belongs to the innermost one, or it closes
that block. -/
theorem Closes.cases_cons {n i : Nat} {outer : List Nat} {isHeader : Bool}
    {rest : List (Nat × Bool)} (h : Closes (n :: outer) ((i, isHeader) :: rest)) :
    (∃ items more, Items n ((i, isHeader) :: items) ∧ Closes outer more ∧ rest = items ++ more) ∨
      Closes outer ((i, isHeader) :: rest) := by
  generalize hLines : (i, isHeader) :: rest = lines at h
  cases h with
  | @cons _ _ items more hItems hMore =>
    cases items with
    | nil => exact .inr hMore
    | cons x items =>
      obtain ⟨rfl, rfl⟩ := List.cons.inj hLines
      exact .inl ⟨items, more, hItems, hMore, rfl⟩

/-- The next line stands at the width of one of the open blocks. -/
theorem Closes.mem_levels {i : Nat} {levels : List Nat} {isHeader : Bool}
    {rest : List (Nat × Bool)} (h : Closes levels ((i, isHeader) :: rest)) : i ∈ levels := by
  induction levels with
  | nil => cases h
  | cons n outer ih =>
    rcases h.cases_cons with ⟨items, more, hItems, -, -⟩ | hOuter
    · exact hItems.width_eq ▸ List.mem_cons_self
    · exact List.mem_cons_of_mem _ (ih hOuter)

/-- A line closes the blocks that are deeper than itself. What may come then is
what might have come before, as the deeper blocks have no item at its width. -/
theorem closes_closeDeeper {i : Nat} {levels : List Nat} {isHeader : Bool}
    {rest : List (Nat × Bool)} :
    Closes (closeDeeper levels i) ((i, isHeader) :: rest) ↔
      Closes levels ((i, isHeader) :: rest) := by
  induction levels with
  | nil => rfl
  | cons n outer ih =>
    unfold closeDeeper at ih ⊢
    -- a deeper block ends in front of the line, as none of its items stands
    -- there
    by_cases hDeeper : i < n
    · rw [List.dropWhile_cons_of_pos (by simpa using hDeeper), ih]
      constructor
      · exact fun h => .cons .nil h
      · intro h
        rcases h.cases_cons with ⟨items, more, hItems, -, -⟩ | hOuter
        -- an item of the deeper block would stand at its width
        · have hWidth := hItems.width_eq
          omega
        · exact hOuter
    · rw [List.dropWhile_cons_of_neg (by simpa using hDeeper)]

/-- A line at the width of the innermost block belongs to it. -/
theorem Closes.items_of_cons {n : Nat} {outer : List Nat} {isHeader : Bool}
    {rest : List (Nat × Bool)} (hOuter : ∀ k ∈ outer, k < n)
    (h : Closes (n :: outer) ((n, isHeader) :: rest)) :
    ∃ items more, Items n ((n, isHeader) :: items) ∧ Closes outer more ∧ rest = items ++ more := by
  rcases h.cases_cons with hItems | hClosed
  · exact hItems
  · have hLess := hOuter n hClosed.mem_levels
    omega

/-- A line that is no header is an item of the innermost block by itself. -/
theorem closes_cons_plain {n : Nat} {outer : List Nat} {rest : List (Nat × Bool)}
    (hOuter : ∀ k ∈ outer, k < n) :
    Closes (n :: outer) ((n, false) :: rest) ↔ Closes (n :: outer) rest := by
  constructor
  · intro h
    obtain ⟨items, more, hItems, hMore, rfl⟩ := h.items_of_cons hOuter
    cases hItems with
    | plain hItems => exact .cons hItems hMore
  · intro h
    cases h with
    | cons hItems hMore => exact .cons (.plain hItems) hMore

/-- A header is an item together with a block of its own, so the items of that
block come between it and what else belongs to the open ones. -/
theorem closes_cons_block {n : Nat} {outer : List Nat} {rest : List (Nat × Bool)}
    (hOuter : ∀ k ∈ outer, k < n) :
    Closes (n :: outer) ((n, true) :: rest) ↔
      ∃ m body more, n < m ∧ body ≠ [] ∧ Items m body ∧ Closes (n :: outer) more ∧
        rest = body ++ more := by
  constructor
  · intro h
    -- the header is an item of the innermost block, and its block is the first
    -- part of what comes
    obtain ⟨items, more, hItems, hMore, rfl⟩ := h.items_of_cons hOuter
    cases hItems with
    | @block _ m body items hDeeper hBody hItems hRest =>
      exact ⟨m, body, items ++ more, hDeeper, hBody, hItems, .cons hRest hMore,
        List.append_assoc ..⟩
  · rintro ⟨m, body, more, hDeeper, hBody, hItems, hMore, rfl⟩
    cases hMore with
    -- the header and its block join the items of the block around them
    | @cons _ _ items rest hRest hOuterMost =>
      have hBlock := Closes.cons (Items.block hDeeper hBody hItems hRest) hOuterMost
      rwa [List.cons_append, List.append_assoc] at hBlock

/-! ## Open blocks -/

/-- The open blocks lie one within the other, and the outermost one stands at
zero. -/
structure Nested (b : Blocks) : Prop where
  decreasing : b.levels.Pairwise (· > ·)
  outermost : 0 ∈ b.levels

/-- At the start only the block at zero is open. -/
theorem nested_start : Nested {} :=
  ⟨List.pairwise_singleton _ _, List.mem_singleton_self 0⟩

/-- No open block is deeper than the innermost one. -/
theorem Nested.le_innermost {b : Blocks} (h : b.Nested) {n : Nat} (hn : n ∈ b.levels) :
    n ≤ b.innermost := by
  obtain ⟨levels, header⟩ := b
  cases levels with
  | nil => simp at hn
  | cons inner outer =>
    rcases List.mem_cons.mp hn with rfl | hOuter
    · exact Nat.le_refl _
    · exact Nat.le_of_lt (List.rel_of_pairwise_cons h.decreasing hOuter)

/-- The block that stands at zero is never closed. -/
theorem Nested.zero_mem_closeDeeper {b : Blocks} (h : b.Nested) (i : Nat) :
    0 ∈ closeDeeper b.levels i := by
  have hZero : 0 ∈ b.levels.takeWhile (i < ·) ++ b.levels.dropWhile (i < ·) := by
    rw [List.takeWhile_append_dropWhile]
    exact h.outermost
  rcases List.mem_append.mp hZero with hClosed | hOpen
  · have hDeeper := List.all_eq_true.mp List.all_takeWhile 0 hClosed
    simp at hDeeper
  · exact hOpen

theorem Nested.closeDeeper {b : Blocks} (h : b.Nested) (i : Nat) :
    Nested ⟨closeDeeper b.levels i, none⟩ where
  decreasing := h.decreasing.sublist (List.dropWhile_sublist _)
  outermost := h.zero_mem_closeDeeper i

/-- A line that is taken in stands in the innermost block then open. It has
opened that block as the body of a header, or the deeper ones have been closed
for it. -/
theorem Nested.accept {b b' : Blocks} {i line : Nat} (h : b.Nested)
    (hAccept : b.accept i line = .ok b') :
    b'.Nested ∧ b'.header = none ∧ ∃ outer, b'.levels = i :: outer := by
  unfold Blocks.accept at hAccept
  split at hAccept
  · split at hAccept
    -- a header waits and the line is deeper, so it opens the block
    · next hDeeper =>
      rw [← Except.ok.inj hAccept]
      refine ⟨⟨List.pairwise_cons.mpr ⟨fun n hn => ?_, h.decreasing⟩,
        List.mem_cons_of_mem _ h.outermost⟩, rfl, _, rfl⟩
      have hLe := h.le_innermost hn
      omega
    · cases hAccept
  · split at hAccept
    · cases hAccept
    · split at hAccept
      -- deeper blocks are closed, and one is left at the width of the line
      · next hLevel =>
        rw [← Except.ok.inj hAccept]
        refine ⟨h.closeDeeper i, rfl, ?_⟩
        have hZero := h.zero_mem_closeDeeper i
        dsimp only
        cases hLevels : Blocks.closeDeeper b.levels i with
        | nil => simp [hLevels] at hZero
        | cons n outer =>
          rw [hLevels] at hLevel
          exact ⟨outer, by rw [← hLevel]; rfl⟩
      · cases hAccept

/-! ## Lines -/

/-- A logical line as the open blocks meet it. -/
structure Line where
  /-- Its indentation width. -/
  indent : Nat
  /-- The physical line it starts on. -/
  line : Nat
  /-- The header that it is, if it is one. -/
  header : Option Header

/-- The width of a line, and whether it is a header. -/
def Line.shape (x : Line) : Nat × Bool :=
  (x.indent, x.header.isSome)

/-- Waits for the block of a header. -/
def awaitAny (b : Blocks) (header : Option Header) : Blocks :=
  match header with
  | some h => b.await h
  | none => b

/-- Takes in a line, and waits for its block if it is a header. -/
def take (b : Blocks) (x : Line) : Except SyntaxError Blocks :=
  (b.accept x.indent x.line).map fun b => b.awaitAny x.header

/-- Takes in lines one after the other. -/
def takeAll (b : Blocks) (lines : List Line) : Except SyntaxError Blocks :=
  lines.foldlM take b

/-- A line that is taken in is accepted by its width, and then waited for if it
is a header. -/
theorem take_eq_ok {b b' : Blocks} {x : Line} :
    b.take x = .ok b' ↔ ∃ a, b.accept x.indent x.line = .ok a ∧ b' = a.awaitAny x.header := by
  unfold take
  cases b.accept x.indent x.line with
  | error e => simp [Except.map]
  | ok a => simp [Except.map, eq_comm]

/-- Waiting for a block opens none. -/
theorem Nested.awaitAny {b : Blocks} (h : b.Nested) (header : Option Header) :
    (b.awaitAny header).Nested := by
  cases header with
  | none => exact h
  | some _ => exact ⟨h.decreasing, h.outermost⟩

theorem Nested.take {b b' : Blocks} {x : Line} (h : b.Nested) (hTake : b.take x = .ok b') :
    b'.Nested := by
  obtain ⟨a, hAccept, rfl⟩ := take_eq_ok.mp hTake
  exact (h.accept hAccept).1.awaitAny x.header

/-! ## What may come -/

/-- What may come behind the lines taken in so far, up to the end of all blocks.
A header that waits wants a block of its own first. -/
def Completes (b : Blocks) (rest : List (Nat × Bool)) : Prop :=
  match b.header with
  | none => Closes b.levels rest
  | some _ => ∃ m body more, b.innermost < m ∧ body ≠ [] ∧ Items m body ∧ Closes b.levels more ∧
      rest = body ++ more

/-- A line may come next exactly if it is accepted, whatever comes behind it. A
header that waits wants a deeper line; without one the line has to stand at the
width of an open block. -/
theorem completes_cons_iff_accept {b : Blocks} (h : b.Nested) (i line : Nat) (isHeader : Bool)
    (rest : List (Nat × Bool)) :
    b.Completes ((i, isHeader) :: rest) ↔
      ∃ a, b.accept i line = .ok a ∧ Closes a.levels ((i, isHeader) :: rest) := by
  unfold Completes Blocks.accept
  cases hHeader : b.header with
  | some header =>
    dsimp only
    constructor
    · rintro ⟨m, body, more, hDeeper, hBody, hItems, hMore, hRest⟩
      obtain ⟨first, body, rfl⟩ := List.exists_cons_of_ne_nil hBody
      obtain ⟨rfl, rfl⟩ := List.cons.inj hRest
      -- the first line sets the width of the block
      obtain rfl := hItems.width_eq
      rw [if_pos hDeeper]
      exact ⟨_, rfl, .cons hItems hMore⟩
    · rintro ⟨a, hAccept, hCloses⟩
      split at hAccept
      · next hDeeper =>
        rw [← Except.ok.inj hAccept] at hCloses
        -- the block that is opened is deeper than those around it
        have hOuter : ∀ k ∈ b.levels, k < i := fun k hk =>
          Nat.lt_of_le_of_lt (h.le_innermost hk) hDeeper
        obtain ⟨items, more, hItems, hMore, rfl⟩ := hCloses.items_of_cons hOuter
        exact ⟨i, _, more, hDeeper, List.cons_ne_nil _ _, hItems, hMore, rfl⟩
      · cases hAccept
  | none =>
    dsimp only
    rw [← closes_closeDeeper]
    constructor
    · intro hCloses
      have hMem := hCloses.mem_levels
      have hLe := h.le_innermost ((List.dropWhile_sublist _).mem hMem)
      -- the innermost block left open is not deeper than the line, and holds it
      have hLevel : (closeDeeper b.levels i).headD 0 = i := by
        have hInner := (h.closeDeeper i).le_innermost hMem
        have hNot := List.head?_dropWhile_not (decide <| i < ·) b.levels
        unfold closeDeeper innermost at *
        cases hLevels : b.levels.dropWhile (decide <| i < ·) with
        | nil => simp [hLevels] at hMem
        | cons n outer =>
          rw [hLevels] at hInner hNot
          simp at hInner hNot ⊢
          omega
      rw [if_neg (by omega), if_pos hLevel]
      exact ⟨_, rfl, hCloses⟩
    · rintro ⟨a, hAccept, hCloses⟩
      split at hAccept
      · cases hAccept
      · split at hAccept
        · rwa [← Except.ok.inj hAccept] at hCloses
        · cases hAccept

/-- Taking in a line takes it off what may come. If it is a header, a block of
its own has to come first. -/
theorem completes_cons_iff {b : Blocks} (h : b.Nested) (x : Line) (rest : List (Nat × Bool)) :
    b.Completes (x.shape :: rest) ↔ ∃ b', b.take x = .ok b' ∧ b'.Completes rest := by
  unfold Line.shape
  rw [completes_cons_iff_accept h x.indent x.line]
  simp only [take_eq_ok]
  have hStep : ∀ a, b.accept x.indent x.line = .ok a →
      (Closes a.levels ((x.indent, x.header.isSome) :: rest) ↔
        (a.awaitAny x.header).Completes rest) := by
    intro a hAccept
    obtain ⟨hNested, hNone, outer, hLevels⟩ := h.accept hAccept
    -- the line stands in the innermost block, so all others are less deep
    have hOuter : ∀ k ∈ outer, k < x.indent := by
      have hDecreasing := hNested.decreasing
      rw [hLevels, List.pairwise_cons] at hDecreasing
      exact hDecreasing.1
    -- behind a line that is no header its block goes on; a header wants its own
    -- block first
    cases x.header with
    | none =>
      rw [hLevels, Option.isSome_none, closes_cons_plain hOuter]
      simp [awaitAny, Completes, hNone, hLevels]
    | some header =>
      rw [hLevels, Option.isSome_some, closes_cons_block hOuter]
      simp [awaitAny, await, Completes, innermost, hLevels]
  constructor
  · rintro ⟨a, hAccept, hCloses⟩
    exact ⟨_, ⟨a, hAccept, rfl⟩, (hStep a hAccept).mp hCloses⟩
  · rintro ⟨_, ⟨a, hAccept, rfl⟩, hCompletes⟩
    exact ⟨a, hAccept, (hStep a hAccept).mpr hCompletes⟩

/-- Taking in lines takes them off what may come. The induction is on the lines,
with the blocks nested as each line leaves them. -/
theorem completes_append_iff {b : Blocks} (h : b.Nested) (lines : List Line)
    (rest : List (Nat × Bool)) :
    b.Completes (lines.map Line.shape ++ rest) ↔
      ∃ b', b.takeAll lines = .ok b' ∧ b'.Completes rest := by
  unfold takeAll
  induction lines generalizing b with
  | nil => simp [pure, Except.pure]
  | cons x lines ih =>
    rw [List.map_cons, List.cons_append, completes_cons_iff h, List.foldlM_cons]
    -- what the first line leaves decides about the others
    cases hTake : b.take x with
    | error e => simp [bind, Except.bind]
    | ok next =>
      have hNext := ih (h.take hTake)
      simpa [bind, Except.bind] using hNext

/-- Nothing need come exactly if no header waits. -/
theorem completes_nil_iff (b : Blocks) : b.Completes [] ↔ b.header = none := by
  unfold Completes
  cases b.header with
  | none => exact iff_of_true (closes_nil _) rfl
  | some header =>
    refine iff_of_false ?_ (by simp)
    rintro ⟨m, body, more, -, hBody, -, -, hNil⟩
    exact hBody (List.append_eq_nil_iff.mp hNil.symm).1

/-- Every statement can still be brought to its end: a single deeper line does
for a header that waits. -/
theorem exists_completes (b : Blocks) : ∃ rest, b.Completes rest := by
  unfold Completes
  cases b.header with
  | none => exact ⟨[], closes_nil _⟩
  | some header =>
    exact ⟨_, b.innermost + 1, [(b.innermost + 1, false)], [], by omega, by simp, .plain .nil,
      closes_nil _, rfl⟩

/-- At the start a list of items at zero may come. -/
theorem completes_start_iff (rest : List (Nat × Bool)) :
    Completes {} rest ↔ Items 0 rest := by
  constructor
  · intro h
    cases h with
    | cons hItems hRest =>
      cases hRest with
      | nil => rwa [List.append_nil]
  · intro h
    have hCloses := Closes.cons h .nil
    rwa [List.append_nil] at hCloses

end Blocks

end RemoteConsole.Statement
