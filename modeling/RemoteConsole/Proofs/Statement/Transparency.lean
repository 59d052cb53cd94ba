import RemoteConsole.Proofs.Statement.Comment
import RemoteConsole.Proofs.Statement.Insertion
import RemoteConsole.Proofs.Text.Separated

/-!
# Blank lines and comments

Lines and comments may be put into a source without changing what it is. A line
without code goes in front of any line at whose start no logical line is open,
and a comment goes behind any line that is not blank and ends in code. In the
first case all that follows stands one line further down.

* `Lines.extend` — text at the end of a line, in front of its carriage return.
* `classify_transparent` — the verdict on a source with such a line, or such a
  comment, in it.
-/

namespace RemoteConsole

/-! ## Lines -/

namespace Lines

/-- A line with more text at its end, which stands in front of the carriage
return if there is one. -/
def extend (line more : List Char) : List Char :=
  if line.getLast? = some '\r' then line.dropLast ++ more ++ ['\r'] else line ++ more

theorem mem_of_mem_extend {line more : List Char} {c : Char} (h : c ∈ extend line more) :
    c ∈ line ∨ c ∈ more := by
  unfold extend at h
  split at h
  · next hReturn =>
    rw [List.mem_append, List.mem_append, List.mem_singleton] at h
    rcases h with (hLine | hMore) | rfl
    · exact .inl (List.dropLast_subset line hLine)
    · exact .inr hMore
    · exact .inl (List.mem_of_getLast? hReturn)
  · exact List.mem_append.mp h

end Lines

namespace Statement

/-- Behind these lines, which the scanner takes in, nothing is open. -/
def StandsFree (mode : Mode) (lines : List (List Char)) : Prop :=
  ∃ s, Scanner.scanLines mode {} 1 lines = .ok s ∧ s.isOpen = false

instance (mode : Mode) (lines : List (List Char)) : Decidable (StandsFree mode lines) :=
  match hScan : Scanner.scanLines mode {} 1 lines with
  | .error e => .isFalse fun ⟨s, hOk, _⟩ => by
    rw [hScan] at hOk
    cases hOk
  | .ok s => decidable_of_iff (s.isOpen = false) {
      mp := fun hOpen => ⟨s, hScan, hOpen⟩
      mpr := fun ⟨s', hOk, hOpen⟩ => by
        rw [hScan] at hOk
        rwa [Except.ok.inj hOk] }

/-- Blanks, with or without a comment behind them. -/
def IsIdleText (text : List Char) : Prop :=
  ∃ blanks comment, text = blanks ++ comment ∧ (∀ c ∈ blanks, isGap c = true) ∧
    comment.head?.all (· == '#') = true

/-- A line of blanks, perhaps with a comment, has no code. -/
theorem IsIdleText.isIdle {text : List Char} (h : IsIdleText text) :
    Scanner.isIdle (indentation text).2 = true := by
  obtain ⟨blanks, comment, rfl, hBlanks, hComment⟩ := h
  rw [indentation_snd, List.dropWhile_append_of_pos hBlanks]
  cases comment with
  | nil => rfl
  | cons c rest =>
    obtain rfl : c = '#' := by simpa using hComment
    rfl

/-- A comment without the last character of its text is a comment. -/
theorem IsTrailer.dropLast {tail : List Char} (h : IsTrailer tail) (hLast : tail.getLast? ≠ some '#') :
    IsTrailer tail.dropLast := by
  obtain ⟨blanks, comment, rfl, hBlanks⟩ := h
  have hSome : comment ≠ [] := by
    rintro rfl
    simp at hLast
  refine ⟨blanks, comment.dropLast, ?_, hBlanks⟩
  rw [List.dropLast_append_of_ne_nil (by simp), List.dropLast_cons_of_ne_nil hSome]

/-- Without its carriage return, a line with a comment at its end is the line
without its carriage return and a comment behind it. -/
theorem IsTrailer.exists_dropReturn_extend {tail : List Char} (hTail : IsTrailer tail)
    (line : List Char) :
    ∃ tail', IsTrailer tail' ∧
      Lines.dropReturn (Lines.extend line tail) = Lines.dropReturn line ++ tail' := by
  unfold Lines.extend
  by_cases hLine : line.getLast? = some '\r'
  -- the carriage return is put behind the comment and is dropped there
  · refine ⟨tail, hTail, ?_⟩
    rw [if_pos hLine, Lines.dropReturn, Lines.dropReturn, if_pos hLine, if_pos (by simp),
      List.dropLast_concat]
  · have hSome : tail ≠ [] := by
      obtain ⟨c, rest, rfl, -⟩ := hTail.exists_cons
      exact List.cons_ne_nil c rest
    have hLast : (line ++ tail).getLast? = tail.getLast? := by
      rw [List.getLast?_append, List.getLast?_eq_some_getLast hSome, Option.some_or]
    rw [if_neg hLine, Lines.dropReturn, Lines.dropReturn, if_neg hLine, hLast]
    split
    · next hReturn =>
      -- the carriage return is the last character of the comment
      refine ⟨tail.dropLast, hTail.dropLast (by rw [hReturn]; decide), ?_⟩
      rw [List.dropLast_append_of_ne_nil hSome]
    · exact ⟨tail, hTail, rfl⟩

/-! ## Sources -/

/-- The verdict on a text in which one line stands in the place of some. -/
theorem classify_replace {text : List Char} {before old after : List (List Char)} {line : List Char}
    (hText : Lines.split text = before ++ old ++ after) (hLine : '\n' ∉ line) (mode : Mode) :
    classify mode (Separated.join '\n' (before ++ line :: after)) =
      classifyLines mode (before.map Lines.dropReturn ++
        Lines.dropReturn line :: after.map Lines.dropReturn) := by
  -- none of the parts has a line feed, so joining and splitting them is no loss
  have hParts : ∀ part ∈ before ++ line :: after, '\n' ∉ part := by
    intro part hPart
    have hOld : part ∈ before ++ old ++ after → '\n' ∉ part := by
      rw [← hText]
      exact Separated.not_mem_of_mem_split
    rw [List.mem_append, List.mem_cons] at hPart
    rcases hPart with hBefore | rfl | hAfter
    · exact hOld (List.mem_append_left _ (List.mem_append_left _ hBefore))
    · exact hLine
    · exact hOld (List.mem_append_right _ hAfter)
  unfold classify Lines.split
  rw [Separated.split_join (by simp) hParts, List.map_append, List.map_cons]

/-- A line without code, put in where nothing is open, keeps the kind of the
verdict, and a fault is found one line further down. -/
theorem classify_insert {mode : Mode} {text idle : List Char} {before after : List (List Char)}
    (hText : Lines.split text = before ++ after) (hAfter : after ≠ [])
    (hFree : StandsFree mode (before.map Lines.dropReturn)) (hBreak : '\n' ∉ idle)
    (hIdle : IsIdleText (Lines.dropReturn idle)) :
    classify mode (Separated.join '\n' (before ++ idle :: after)) =
        (classify mode text).renumber (past before.length) ∧
      ∀ e, classify mode text = .invalid e → past before.length e.line = e.line + 1 := by
  obtain ⟨s, hScan, hOpen⟩ := hFree
  have hSome : after.map Lines.dropReturn ≠ [] := by simpa using hAfter
  have hPlain : classify mode text =
      classifyLines mode (before.map Lines.dropReturn ++ after.map Lines.dropReturn) := by
    rw [classify, hText, List.map_append]
  constructor
  · have hInsert := classifyLines_insert hScan hOpen hIdle.isIdle hSome
    rw [List.length_map] at hInsert
    -- the new line stands in the place of none
    have hReplace : Lines.split text = before ++ [] ++ after := by rwa [List.append_nil]
    rw [classify_replace hReplace hBreak, hInsert, hPlain]
  · intro e hError
    rw [hPlain] at hError
    -- nothing is open in front of the new line, so a fault lies behind it
    have hBehind := lt_line_of_classifyLines hScan hOpen hSome hError
    rw [List.length_map] at hBehind
    exact past_of_lt hBehind

/-- A comment put behind a line that is not blank and ends in code leaves the
verdict alone. -/
theorem classify_extend {text line tail : List Char} {before after : List (List Char)}
    (hText : Lines.split text = before ++ line :: after)
    (hBlank : Blank.isBlankText (Lines.dropReturn line) = false)
    (hEnds : ∀ r, (before.map Lines.dropReturn).foldlM Reading.next {} = some r →
      r.EndsInCode (Lines.dropReturn line))
    (hBreak : '\n' ∉ tail) (hTail : IsTrailer tail) (mode : Mode) :
    classify mode (Separated.join '\n' (before ++ Lines.extend line tail :: after)) =
      classify mode text := by
  have hLine : '\n' ∉ line := by
    apply Separated.not_mem_of_mem_split
    show line ∈ Lines.split text
    rw [hText]
    exact List.mem_append_right _ List.mem_cons_self
  -- what is added is one line still
  have hExtended : '\n' ∉ Lines.extend line tail := by
    intro h
    rcases Lines.mem_of_mem_extend h with hOld | hNew
    · exact hLine hOld
    · exact hBreak hNew
  obtain ⟨tail', hTail', hExtend⟩ := hTail.exists_dropReturn_extend line
  have hReplace : Lines.split text = before ++ [line] ++ after := by simpa using hText
  rw [classify_replace hReplace hExtended, hExtend,
    classifyLines_trailer hTail' hBlank hEnds, classify, hText, List.map_append, List.map_cons]

/-- **Blank lines and comments.** A line of blanks, perhaps with a comment, put
in front of a line at whose start nothing is open keeps the kind of the verdict,
and a fault is found exactly one line further down. Blanks and a comment put
behind a line that is not blank and ends in code or in a comment change
nothing. -/
theorem classify_transparent (mode : Mode) (text : List Char) (before after : List (List Char)) :
    (∀ idle, Lines.split text = before ++ after → after ≠ [] →
      StandsFree mode (before.map Lines.dropReturn) →
      '\n' ∉ idle → IsIdleText (Lines.dropReturn idle) →
      let text' := Separated.join '\n' (before ++ idle :: after)
      (classify mode text = .complete → classify mode text' = .complete) ∧
      (classify mode text = .incomplete → classify mode text' = .incomplete) ∧
      ∀ e, classify mode text = .invalid e →
        classify mode text' = .invalid ⟨e.cause.renumber (past before.length), e.line + 1⟩) ∧
    (∀ line tail, Lines.split text = before ++ line :: after →
      Blank.isBlankText (Lines.dropReturn line) = false →
      (∀ r, (before.map Lines.dropReturn).foldlM Reading.next {} = some r →
        r.EndsInCode (Lines.dropReturn line)) →
      '\n' ∉ tail → IsTrailer tail →
      classify mode (Separated.join '\n' (before ++ Lines.extend line tail :: after)) =
        classify mode text) := by
  constructor
  · intro idle hText hAfter hFree hBreak hIdle
    obtain ⟨hVerdict, hLine⟩ := classify_insert hText hAfter hFree hBreak hIdle
    dsimp only
    rw [hVerdict]
    -- a renumbered verdict is of the same kind
    refine ⟨?_, ?_, ?_⟩
    · intro hComplete
      rw [hComplete]
      rfl
    · intro hIncomplete
      rw [hIncomplete]
      rfl
    · intro e hInvalid
      rw [hInvalid, ← hLine e hInvalid]
      rfl
  · intro line tail hText hBlank hEnds hBreak hTail
    exact classify_extend hText hBlank hEnds hBreak hTail mode

/-- A bracket that has no partner is found one line further down when a comment
stands between the lines, and where it was when the comment stands behind the
line it was opened on. -/
theorem classify_transparent_mismatch :
    classify .interactive "if x:\r\n  f('#'\r\n]".toList = .invalid ⟨.mismatched .square .round 2, 3⟩ ∧
      classify .interactive "if x:\r\n  # [\n  f('#'\r\n]".toList =
        .invalid ⟨.mismatched .square .round 3, 4⟩ ∧
      classify .interactive "if x:\r\n  f('#'\t# (\r\n]".toList =
        .invalid ⟨.mismatched .square .round 2, 3⟩ := by
  have hInvalid : classify .interactive "if x:\r\n  f('#'\r\n]".toList =
      .invalid ⟨.mismatched .square .round 2, 3⟩ := by decide +kernel
  have hFree : StandsFree .interactive ["if x:".toList] := by decide +kernel
  have hInsert := (classify_transparent .interactive "if x:\r\n  f('#'\r\n]".toList ["if x:\r".toList]
    ["  f('#'\r".toList, "]".toList]).1 "  # [".toList (by decide +kernel) (by decide) hFree
    (by decide)
    ⟨"  ".toList, "# [".toList, by decide, List.all_eq_true.mp rfl, rfl⟩
  have hEnds : ∀ r, ["if x:".toList].foldlM Reading.next {} = some r →
      r.EndsInCode "  f('#'".toList := by
    intro r hRead
    obtain rfl : {} = r := Option.some.inj hRead
    decide
  have hExtend := (classify_transparent .interactive "if x:\r\n  f('#'\r\n]".toList ["if x:\r".toList]
    ["]".toList]).2 "  f('#'\r".toList "\t# (".toList (by decide +kernel) (by decide) hEnds
    (by decide)
    ⟨['\t'], " (".toList, by decide, List.all_eq_true.mp rfl⟩
  refine ⟨hInvalid, ?_, ?_⟩
  · exact hInsert.2.2 _ hInvalid
  · rw [← hInvalid]
    exact hExtend

end Statement

end RemoteConsole
