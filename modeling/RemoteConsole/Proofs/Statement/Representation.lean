import RemoteConsole.Proofs.Statement.Agreement
import RemoteConsole.Proofs.Statement.Insertion
import RemoteConsole.Proofs.Statement.SingleStatement

/-!
# What a scanner is between physical lines

The parts of a scanner are not independent of each other. Behind any lines that
it has taken in, a logical line is being read exactly if something holds it
open; a literal and a backslash never hold it open together; the brackets are
such as have been opened on their lines; the levels of the open blocks increase
from zero; and a header that waits is the last logical line with a token that
has ended. A logical line may also be without a token, where a backslash stands
alone in front of lines without code. Such a line is open as any other, but it
ends without a trace, and a header waits on.

What literals and backslashes come to is read off the characters, so that it is
proved for `Reading` and carried over; blocks and headers are those of the
outline.

* `Scanner.Represents` — all of this, for a scanner and the lines that it has
  taken in.
* `Scanner.represents_of_scanLines` — it holds behind any lines.
* `Scanner.header_not_last_of_backslash` — a logical line without a token may
  have ended below a header.
-/

namespace RemoteConsole.Statement

/-! ## Literals and backslashes -/

namespace Reading

/-- What a line may end with: a literal or a backslash of its code, and not
both; and a literal that is not triple-quoted only with a backslash. -/
structure EndsLine (r : Reading) (text : List Char) : Prop where
  not_continued : r.literal.isSome = true → r.continued = false
  backslash : ∀ q, r.literal = some (q, false) → text.getLast? = some '\\'

/-- What a line ends with does not depend on what stands in front. -/
theorem EndsLine.cons {r : Reading} {text : List Char} (h : r.EndsLine text) (c : Char) :
    r.EndsLine (c :: text) where
  not_continued := h.not_continued
  backslash q hq := by
    rw [List.getLast?_cons, h.backslash q hq]
    rfl

/-- Every reading of a line ends in this way. The induction is along the
reading: it stops in three places, and wherever it goes on the end of the line
is the end of what is left. -/
theorem endsLine_of_readLine {brackets : List Bracket} {literal : Option (Quote × Bool)} {skip : Nat}
    {text : List Char} {r : Reading} (h : readLine brackets literal skip text = some r) :
    r.EndsLine text := by
  -- the reading stops at the end of the line, at a comment or at a backslash,
  -- or it goes on
  fun_induction readLine brackets literal skip text with
  | case1 brackets literal skip hTriple =>
    obtain rfl := Option.some.inj h
    refine ⟨fun _ => rfl, fun q hq => ?_⟩
    dsimp only at hq
    rw [hq] at hTriple
    cases hTriple
  -- a comment, or a literal whose line ends with a backslash
  | case4 | case5 =>
    obtain rfl := Option.some.inj h
    exact ⟨nofun, nofun⟩
  | case13 =>
    obtain rfl := Option.some.inj h
    exact ⟨fun _ => rfl, fun _ _ => rfl⟩
  | case2 | case10 | case11 => cases h
  | _ =>
    rename_i ih
    exact (ih h).cons _

end Reading

namespace Scanner

variable {mode : Mode} {line : Nat} {lines : List (List Char)} {s s' : Scanner}

/-- The last line that a scanner has taken in ends in this way, as what is open
then is what a reading holds open. -/
theorem endsLine_of_scanLines (h : scanLines mode {} line lines = .ok s) :
    ∀ last ∈ lines.getLast?, s.view.EndsLine last := by
  have hRead := scanLines_reads atLineEnd_start h
  intro last hLast
  -- the reading of the lines is that of the last one behind the others
  obtain ⟨init, rfl⟩ := List.getLast?_eq_some_iff.mp hLast
  rw [List.foldlM_append, Option.bind_eq_bind, Option.bind_eq_some_iff] at hRead
  obtain ⟨r, -, hNext⟩ := hRead
  have hLine : r.next last = some s.view := by simpa using hNext
  exact Reading.endsLine_of_readLine hLine

end Scanner

/-! ## Brackets -/

/-- What stands behind a literal is the end of the line. -/
theorem Literal.close_suffix {lit : Literal} {text rest : List Char} (h : lit.close text = .closed rest) :
    rest <:+ text := by
  fun_induction Literal.close lit text with
  | case1 | case2 | case3 => cases h
  -- an escape is two characters
  | case4 d tail ih => exact (ih h).trans ((List.suffix_cons d tail).trans (List.suffix_cons _ _))
  | case5 =>
    obtain rfl := Literal.End.closed.inj h
    exact (List.drop_suffix 2 _).trans (List.suffix_cons _ _)
  | case7 =>
    obtain rfl := Literal.End.closed.inj h
    exact List.suffix_cons _ _
  | case6 | case8 =>
    rename_i ih
    exact (ih h).trans (List.suffix_cons _ _)

namespace Lexeme

variable (line : Nat)

/-- What a literal leaves of the line is its end. -/
theorem readLiteral_suffix (q : Quote) (rest : List Char) : (readLiteral line q rest).2 <:+ rest := by
  have hText : (if [q.char, q.char].isPrefixOf rest then rest.drop 2 else rest) <:+ rest := by
    split
    · exact List.drop_suffix 2 rest
    · exact List.suffix_refl rest
  unfold readLiteral
  dsimp only
  split
  · next hClose => exact (Literal.close_suffix hClose).trans hText
  · exact List.nil_suffix
  · exact List.nil_suffix

/-- What a word leaves of the line is its end, the literal that it may mark
included. -/
theorem readWord_suffix (c : Char) (rest : List Char) : (readWord line c rest).2 <:+ rest := by
  have hDrop := List.dropWhile_suffix (p := continuesWord) (l := rest)
  unfold readWord
  dsimp only
  split
  · exact List.nil_suffix
  · next d more hMore =>
    rw [hMore] at hDrop
    split
    · split
      · exact (readLiteral_suffix line _ more).trans ((List.suffix_cons d more).trans hDrop)
      · exact hDrop
    · exact hDrop

/-- What a point leaves of the line is its end, be it alone, of a number or of
an ellipsis. -/
theorem readPoint_suffix (rest : List Char) : (readPoint rest).2 <:+ rest := by
  unfold readPoint
  split
  · exact (List.suffix_cons _ _).trans (List.suffix_cons _ _)
  · split
    · exact (List.dropWhile_suffix _).trans (List.suffix_cons _ _)
    · exact List.suffix_refl _
  · exact List.suffix_refl _

/-- What stands for no bracket and no literal leaves the end of the line, in
every branch of the scanner. -/
theorem readPlain_suffix (c : Char) (rest : List Char) : (readPlain line c rest).2 <:+ rest := by
  unfold readPlain
  split
  · unfold readBackslash
    split <;> exact List.nil_suffix
  split
  · unfold readColon
    split
    · exact List.suffix_cons _ _
    · exact List.suffix_refl _
  split
  · exact List.suffix_refl _
  split
  · exact readPoint_suffix rest
  split
  -- what goes on with a number is dropped from the front
  · exact List.dropWhile_suffix _
  split
  · exact readWord_suffix line c rest
  split
  · exact List.dropWhile_suffix _
  split <;> exact List.nil_suffix

/-- What a lexeme leaves of a line is the end of the line. -/
theorem read_suffix (c : Char) (rest : List Char) : (read line c rest).2 <:+ rest := by
  unfold read
  split
  · exact readLiteral_suffix line _ rest
  · exact List.suffix_refl _
  · exact List.suffix_refl _
  · exact readPlain_suffix line c rest

/-- A literal is no bracket. -/
theorem readLiteral_ne_opening (q : Quote) (rest : List Char) (b : Bracket) :
    (readLiteral line q rest).1 ≠ opening b := by
  unfold readLiteral
  dsimp only
  split <;> exact nofun

/-- A word is no bracket, nor is a literal that it marks. -/
theorem readWord_ne_opening (c : Char) (rest : List Char) (b : Bracket) :
    (readWord line c rest).1 ≠ opening b := by
  unfold readWord
  dsimp only
  -- nothing behind the word, a literal that it marks, or the word alone
  split
  · intro h
    cases h
  · split
    · split
      · exact readLiteral_ne_opening line _ _ b
      · intro h
        cases h
    · intro h
      cases h

/-- Only the branch for brackets gives the lexeme of one. In all branches of
this reader the lexeme is of another kind. -/
theorem readPlain_ne_opening (c : Char) (rest : List Char) (b : Bracket) :
    (readPlain line c rest).1 ≠ opening b := by
  -- in every branch it is another lexeme that is given
  unfold readPlain
  split
  · unfold readBackslash
    split <;> exact nofun
  split
  · unfold readColon
    split <;> exact nofun
  split
  · exact nofun
  split
  · unfold readPoint
    split
    · exact nofun
    · split <;> exact nofun
    · exact nofun
  split
  · exact nofun
  split
  · exact readWord_ne_opening line c rest b
  split
  · exact nofun
  split <;> exact nofun

/-- The lexeme of an opening bracket is read where the bracket stands. -/
theorem eq_openChar_of_read {c : Char} {rest : List Char} {b : Bracket}
    (h : (read line c rest).1 = opening b) : c = b.openChar := by
  unfold read at h
  -- a literal, the two kinds of bracket, and everything else
  split at h
  · exact absurd h (readLiteral_ne_opening line _ rest b)
  · next hOpen _ =>
    rw [bracket_of_ofOpen? hOpen, opening.inj h]
  · cases h
  · exact absurd h (readPlain_ne_opening line c rest b)

end Lexeme

/-- An opening bracket among the lexemes of a text stands in the text. What
follows a lexeme is the end of the text, so a bracket that is found there stands
in the text as well. -/
theorem openChar_mem_of_mem_lexemes {line : Nat} {text : List Char} {b : Bracket}
    (h : .opening b ∈ lexemes line text) : b.openChar ∈ text := by
  fun_induction lexemes line text with
  | case1 => cases h
  | case2 c rest hGap ih => exact List.mem_cons_of_mem c (ih h)
  | case3 => cases h
  | case4 c rest hGap hComment ih =>
    rcases List.mem_cons.mp h with hFirst | hRest
    · rw [Lexeme.eq_openChar_of_read line hFirst.symm]
      exact List.mem_cons_self
    · exact List.mem_cons_of_mem c ((Lexeme.read_suffix line c rest).mem (ih hRest))

namespace Scanner

variable {mode : Mode} {line : Nat} {lines : List (List Char)} {s s' : Scanner}

/-- A bracket that is open behind a lexeme was open before, or the lexeme has
opened it. A closing bracket takes one away and adds none. -/
theorem brackets_absorb {x : Lexeme} (h : absorb line s x = .ok s') :
    ∀ b ∈ s'.brackets, b ∈ s.brackets ∨ x = .opening b.1 ∧ b.2 = line := by
  unfold absorb at h
  -- only brackets matter, so all other lexemes are alike
  cases x with
  | failure cause => cases h
  | closing b =>
    dsimp only [closeBracket] at h
    split at h
    · cases h
    -- the bracket that was opened last is taken away
    · next hBrackets =>
      split at h
      · rw [← Except.ok.inj h, hBrackets]
        exact fun b hb => .inl (List.mem_cons_of_mem _ hb)
      · cases h
  | colon =>
    rw [← Except.ok.inj h]
    unfold addColon
    dsimp only
    split <;> exact fun b hb => .inl hb
  | opening new =>
    rw [← Except.ok.inj h]
    intro b hb
    rcases List.mem_cons.mp hb with rfl | hOld
    · exact .inr ⟨rfl, rfl⟩
    · exact .inl hOld
  | word | value | operator | separator | openLiteral | continuation =>
    rw [← Except.ok.inj h]
    exact fun b hb => .inl hb

/-- A bracket that is open behind some code was open before, or it stands in the
code. -/
theorem brackets_absorbCode {code : List Char} (h : s.absorbCode line code = .ok s') :
    ∀ b ∈ s'.brackets, b ∈ s.brackets ∨ b.1.openChar ∈ code ∧ b.2 = line := by
  refine foldlM_absorb_induction
    (P := fun next => ∀ b ∈ next.brackets, b ∈ s.brackets ∨ b.1.openChar ∈ code ∧ b.2 = line)
    ?_ (fun b hb => .inl hb) h
  intro x hx next next' hAbsorb hBefore b hb
  rcases brackets_absorb hAbsorb b hb with hOld | ⟨rfl, hLine⟩
  · exact hBefore b hOld
  · exact .inr ⟨openChar_mem_of_mem_lexemes hx, hLine⟩

/-- A bracket that is open behind a physical line was open before, or it stands
on the line. The line may start with the rest of a literal or with an
indentation; what is left is the end of it. -/
theorem brackets_absorbLine {text : List Char} (h : s.absorbLine line text = .ok s') :
    ∀ b ∈ s'.brackets, b ∈ s.brackets ∨ b.1.openChar ∈ text ∧ b.2 = line := by
  -- the code of a line is an end of the line
  have hCode : ∀ {s₁ : Scanner} {code : List Char}, s₁.absorbCode line code = .ok s' →
      s₁.brackets = s.brackets → code <:+ text →
      ∀ b ∈ s'.brackets, b ∈ s.brackets ∨ b.1.openChar ∈ text ∧ b.2 = line := by
    intro s₁ code hAbsorb hBrackets hSuffix b hb
    rw [← hBrackets]
    exact (brackets_absorbCode hAbsorb b hb).imp_right (And.imp_left fun hMem => hSuffix.mem hMem)
  unfold absorbLine at h
  split at h
  · dsimp only at h
    split at h
    · rw [← Except.ok.inj h]
      exact fun b hb => .inl hb
    -- a logical line starts behind its blanks
    · refine hCode h rfl ?_
      rw [indentation_snd]
      exact List.dropWhile_suffix _
  · split at h
    · exact hCode h rfl (List.suffix_refl text)
    · split at h
      · next hClose => exact hCode h rfl (Literal.close_suffix hClose)
      · rw [← Except.ok.inj h]
        exact fun b hb => .inl hb
      · cases h

/-- The end of a logical line changes no bracket, so the same holds behind
it. -/
theorem brackets_scanLine {text : List Char} (h : s.scanLine mode line text = .ok s') :
    ∀ b ∈ s'.brackets, b ∈ s.brackets ∨ b.1.openChar ∈ text ∧ b.2 = line := by
  obtain ⟨read, hAbsorb, hEnd⟩ := exists_absorbLine_of_scanLine h
  have hBrackets : s'.brackets = read.brackets := by
    rcases endLine_eq_ok hEnd with ⟨-, rfl⟩ | ⟨-, blocks, top, rfl⟩ <;> rfl
  rw [hBrackets]
  exact brackets_absorbLine hAbsorb

/-- Every bracket that is open stands on the line that is noted with it. The
induction is on the lines, from the number of the first one. -/
theorem brackets_scanLines (h : s.scanLines mode line lines = .ok s') :
    ∀ b ∈ s'.brackets, b ∈ s.brackets ∨
      ∃ i text, b.2 = line + i ∧ lines[i]? = some text ∧ b.1.openChar ∈ text := by
  induction lines generalizing s line with
  | nil =>
    rw [← Except.ok.inj h]
    exact fun b hb => .inl hb
  | cons text rest ih =>
    rw [scanLines] at h
    split at h
    · cases h
    next next hLine =>
    intro b hb
    -- it stands on a later line, on this one, or was open before
    rcases ih h b hb with hBefore | ⟨i, later, hNumber, hLater, hMem⟩
    · rcases brackets_scanLine hLine b hBefore with hOld | ⟨hMem, hNumber⟩
      · exact .inl hOld
      · exact .inr ⟨0, text, hNumber, rfl, hMem⟩
    · exact .inr ⟨i + 1, later, by omega, by simpa using hLater, hMem⟩

end Scanner

/-! ## Blocks and headers -/

namespace Blocks

/-- Blocks stay nested behind any lines that they take in. -/
theorem Nested.takeAll {b b' : Blocks} {lines : List Line} (h : b.Nested)
    (hTake : b.takeAll lines = .ok b') : b'.Nested := by
  induction lines generalizing b with
  | nil => rwa [← Except.ok.inj hTake]
  | cons x rest ih =>
    obtain ⟨next, hNext, hRest⟩ := takeAll_cons_eq_ok.mp hTake
    exact ih (h.take hNext) hRest

/-- The levels of the open blocks, outermost first, start with zero. -/
theorem Nested.head?_reverse {b : Blocks} (h : b.Nested) : b.levels.reverse.head? = some 0 := by
  rw [List.head?_reverse]
  cases hLevels : b.levels.getLast? with
  | none =>
    have hZero := h.outermost
    rw [List.getLast?_eq_none_iff.mp hLevels] at hZero
    cases hZero
  | some outermost =>
    obtain ⟨inner, hInner⟩ := List.getLast?_eq_some_iff.mp hLevels
    have hZero := h.outermost
    have hDecreasing := h.decreasing
    rw [hInner] at hZero hDecreasing
    -- zero is among the levels, which decrease, so it can only be the last
    rcases List.mem_append.mp hZero with hAbove | hLast
    · -- nothing lies below zero
      have hLess := (List.pairwise_append.mp hDecreasing).2.2 0 hAbove outermost (List.mem_singleton_self _)
      exact absurd hLess (Nat.not_lt_zero _)
    · rw [List.mem_singleton.mp hLast]

theorem Nested.pairwise_reverse {b : Blocks} (h : b.Nested) : b.levels.reverse.Pairwise (· < ·) :=
  List.pairwise_reverse.mpr h.decreasing

/-- Behind lines that have been taken in, no header waits but the last line. Any
other has found its body in the next line or has been refused. -/
theorem header_of_takeAll {b b' : Blocks} {lines : List Line} (h : b.takeAll lines = .ok b') :
    b'.header = lines.getLast?.elim b.header Line.header := by
  -- the last line decides, so the lines are taken apart at their end
  rcases List.eq_nil_or_concat' lines with rfl | ⟨init, x, rfl⟩
  · rw [← Except.ok.inj h]
    rfl
  · rw [Scanner.takeAll_append] at h
    cases hInit : b.takeAll init with
    | error e =>
      rw [hInit] at h
      cases h
    | ok next =>
      rw [hInit] at h
      -- the lines in front do not matter, only what the last one leaves
      have hTake : next.take x = .ok b' := (Scanner.takeAll_singleton next x).symm.trans h
      rw [header_of_take hTake, List.getLast?_concat]
      rfl

end Blocks

/-! ## All together -/

namespace Scanner

/-- What is true of a scanner behind physical lines that it has taken in. -/
structure Represents (mode : Mode) (lines : List (List Char)) (s : Scanner) : Prop where
  /-- A logical line is being read exactly if something holds it open. Here it
  need not have a token: a backslash alone on its line holds one open that is
  still empty. -/
  logical_iff : s.logical.isSome = true ↔
    s.literal.isSome = true ∨ s.continued = true ∨ s.brackets ≠ []
  /-- Where a literal is open no backslash continues the code. -/
  not_continued : s.literal.isSome = true → s.continued = false
  /-- A literal that is not triple-quoted has been carried over by a backslash
  just now. -/
  carried : ∀ lit ∈ s.literal, lit.triple = false →
    ∃ last ∈ lines.getLast?, last.getLast? = some '\\'
  /-- The brackets are opening ones, each with the number of a line on which it
  stands. -/
  opened : ∀ b ∈ s.brackets, ∃ i text, b.2 = 1 + i ∧ lines[i]? = some text ∧ b.1.openChar ∈ text
  /-- The outermost block stands at zero. -/
  levels_head : s.blocks.levels.reverse.head? = some 0
  /-- Every other block is deeper than the one around it. -/
  levels_increasing : s.blocks.levels.reverse.Pairwise (· < ·)
  /-- No line closes all blocks. -/
  levels_left : ∀ indent, Blocks.closeDeeper s.blocks.levels indent ≠ []
  /-- A header that waits is the last logical line with a token that has ended:
  the outline has the lines with tokens only, and those without one may have
  ended below the header. -/
  header_last : ∀ header ∈ s.blocks.header,
    ∃ l ∈ (outline mode {} 1 lines).getLast?, l.header? = some header

/-- A literal that is open has been opened on some line, so there is a last line
and it ends as lines do. -/
theorem exists_getLast?_of_literal {mode : Mode} {line : Nat} {lines : List (List Char)} {s : Scanner}
    (h : scanLines mode {} line lines = .ok s) (hLiteral : s.literal.isSome = true) :
    ∃ last ∈ lines.getLast?, s.view.EndsLine last := by
  cases hLast : lines.getLast? with
  | none =>
    -- where no line has been taken in nothing is open
    rw [List.getLast?_eq_none_iff.mp hLast] at h
    rw [← Except.ok.inj h] at hLiteral
    cases hLiteral
  | some last => exact ⟨last, rfl, endsLine_of_scanLines h last hLast⟩

/-- **What a scanner is between physical lines.** Behind any lines that it has
taken in from the start, what it holds of literals, backslashes, brackets,
blocks, headers and the logical line goes together. The parts come from three
sources: the reading of the characters, the blocks of the outline, and the lines
themselves. -/
theorem represents_of_scanLines {mode : Mode} {lines : List (List Char)} {s : Scanner}
    (h : scanLines mode {} 1 lines = .ok s) : s.Represents mode lines := by
  have hTake := (follows_outline mode {} 1 lines).ok s h
  have hNested := Blocks.nested_start.takeAll hTake
  constructor
  case logical_iff =>
    -- what a line leaves behind is a logical line exactly if it is not finished
    have hEnd : s.logical.isSome = s.isOpen := scanLines_atLineEnd atLineEnd_start h
    rw [hEnd]
    simp [isOpen, or_assoc]
  case not_continued =>
    intro hLiteral
    -- the last line has been read up to within a literal, so no backslash
    -- counts in code
    obtain ⟨last, -, hEnds⟩ := exists_getLast?_of_literal h hLiteral
    exact hEnds.not_continued (by simpa [view] using hLiteral)
  case carried =>
    intro lit hLit hTriple
    obtain ⟨last, hLast, hEnds⟩ := exists_getLast?_of_literal h (Option.isSome_of_mem hLit)
    refine ⟨last, hLast, hEnds.backslash lit.quote ?_⟩
    rw [view, Option.mem_def.mp hLit, ← hTriple]
    rfl
  case opened =>
    intro b hb
    -- no bracket was open at the start
    exact (brackets_scanLines h b hb).resolve_left List.not_mem_nil
  case levels_head => exact hNested.head?_reverse
  case levels_increasing => exact hNested.pairwise_reverse
  case levels_left =>
    intro indent
    exact List.ne_nil_of_mem (hNested.zero_mem_closeDeeper indent)
  case header_last =>
    intro header hHeader
    -- blocks only see logical lines, so the header is that of the last one in
    -- the outline
    have hWaits := Blocks.header_of_takeAll hTake
    rw [Option.mem_def.mp hHeader, List.getLast?_map] at hWaits
    cases hLast : (outline mode {} 1 lines).getLast? with
    | none =>
      rw [hLast] at hWaits
      cases hWaits
    | some l =>
      rw [hLast] at hWaits
      exact ⟨l, rfl, hWaits.symm⟩

/-- A literal carried over by a backslash, within a bracket, under a header that
waits. -/
theorem represents_of_carried_literal :
    let lines := ["if x:".toList, "  f(a, 'b\\".toList]
    let s : Scanner := {
      brackets := [(.round, 2)]
      literal := some ⟨.single, false, 2⟩
      logical := some { line := 2, endLine := 2, indent := 2, last := some .value }
      blocks := { header := some ⟨1, .ifWord⟩ }
      top := { previous := some (.keyword .ifWord), compound := true } }
    scanLines .interactive {} 1 lines = .ok s ∧ s.Represents .interactive lines := by
  intro lines s
  have h : scanLines .interactive {} 1 lines = .ok s := by decide +kernel
  exact ⟨h, represents_of_scanLines h⟩

/-- A header may wait on although a logical line has been opened and has ended
below it. The line is a backslash and what it goes on with, which is nothing: it
has no token, and so it is no body for the header. -/
theorem header_not_last_of_backslash :
    ¬ ∀ (mode : Mode) (lines more : List (List Char)) (s s' : Scanner) (header : Header),
      scanLines mode {} 1 lines = .ok s → s.blocks.header = some header → s.logical.isSome = true →
      s.scanLines mode (1 + lines.length) more = .ok s' → s'.logical = none →
      s'.blocks.header ≠ some header := by
  intro h
  let blocks : Blocks := { header := some ⟨1, .ifWord⟩ }
  let top : TopLevel := { previous := some (.keyword .ifWord), compound := true }
  let s : Scanner :=
    { continued := true, logical := some { line := 2, endLine := 2, indent := 0 }, blocks, top }
  let s' : Scanner := { blocks, top }
  -- the header on the first line, the backslash on the second one: a logical
  -- line is open
  have hOpen : scanLines .source {} 1 ["if x:".toList, ['\\']] = .ok s := by decide +kernel
  -- the empty line ends it, and nothing has become of the header
  have hEnded : s.scanLines .source 3 [[]] = .ok s' := by decide +kernel
  exact h .source _ _ s s' ⟨1, .ifWord⟩ hOpen rfl rfl hEnded rfl rfl

end Scanner

end RemoteConsole.Statement
