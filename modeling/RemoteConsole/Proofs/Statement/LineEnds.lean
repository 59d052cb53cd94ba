import Mathlib.Data.List.DropRight
import Mathlib.Data.List.Induction
import RemoteConsole.Proofs.Statement.Continuation
import RemoteConsole.Proofs.Text.Blank
import RemoteConsole.Proofs.Text.Separated
import RemoteConsole.Statement.Buffer

/-!
# Line ends

A line feed may have a carriage return in front of it, and so may the end of a
text. A typed line may have any line breaks behind it. Line breaks are taken off
in two ways, one carriage return for each line of a text and all breaks behind a
line that is typed, and both leave the same lines. So the verdict depends on the
lines alone.

* `assembled` — lines as a text, each with or without a carriage return.
* `physical_assembled` — the lines of such a text.
* `Buffer.Operation`, `Buffer.perform`, `Buffer.after` — what is done to a
  buffer, and what is left behind it.
* `Buffer.collected` — the lines that are pushed after a buffer has last been
  emptied.
* `classify_of_line_ends` — the verdict on lines, however they end and however
  they come together.
-/

namespace RemoteConsole.Statement

/-! ## Lines of a text -/

/-- A line with or without a carriage return at its end. -/
def returned : List Char × Bool → List Char
  | (line, false) => line
  | (line, true) => line ++ ['\r']

/-- Lines as a text, each with or without a carriage return. -/
def assembled (lines : List (List Char × Bool)) : List Char :=
  List.intercalate ['\n'] (lines.map returned)

/-- A line that is assembled with a carriage return is the line again without
it. -/
theorem dropReturn_returned {l : List Char × Bool} (h : IsLine l.1) :
    Lines.dropReturn (returned l) = l.1 := by
  obtain ⟨line, hasReturn⟩ := l
  cases hasReturn with
  | false => exact if_neg h.2
  | true =>
    show Lines.dropReturn (line ++ ['\r']) = line
    rw [Lines.dropReturn, if_pos List.getLast?_concat, List.dropLast_concat]

theorem feed_notMem_returned {l : List Char × Bool} (h : IsLine l.1) : '\n' ∉ returned l := by
  obtain ⟨line, hasReturn⟩ := l
  cases hasReturn with
  | false => exact h.1
  | true =>
    show '\n' ∉ line ++ ['\r']
    rw [List.mem_append, not_or]
    exact ⟨h.1, by decide⟩

/-- A text is made of its lines, however they end. -/
theorem physical_assembled {lines : List (List Char × Bool)} (hSome : lines ≠ [])
    (h : ∀ l ∈ lines, IsLine l.1) : physical (assembled lines) = lines.map Prod.fst := by
  have hParts : ∀ part ∈ lines.map returned, '\n' ∉ part := by
    intro part hPart
    obtain ⟨l, hl, rfl⟩ := List.mem_map.mp hPart
    exact feed_notMem_returned (h l hl)
  have hSplit : Lines.split (assembled lines) = lines.map returned := by
    rw [assembled, ← Separated.join_eq_intercalate]
    exact Separated.split_join (by simpa using hSome) hParts
  rw [physical, hSplit, List.map_map]
  apply List.map_congr_left
  intro l hl
  exact dropReturn_returned (h l hl)

/-- The verdict on a text is the verdict on its lines, however they end. -/
theorem classify_assembled (mode : Mode) {lines : List (List Char × Bool)} (h : ∀ l ∈ lines, IsLine l.1) :
    classify mode (assembled lines) = classify mode (List.intercalate ['\n'] (lines.map Prod.fst)) := by
  -- without lines both texts are empty
  by_cases hSome : lines = []
  · rw [hSome]
    rfl
  · -- without any carriage return the lines are assembled as they are
    have hPlain : List.intercalate ['\n'] (lines.map Prod.fst) =
        assembled (lines.map fun l => (l.1, false)) := by
      rw [assembled, List.map_map]
      rfl
    have hPlainLines : ∀ l ∈ lines.map fun l => (l.1, false), IsLine l.1 := by
      intro l hl
      obtain ⟨l', hl', rfl⟩ := List.mem_map.mp hl
      exact h l' hl'
    rw [hPlain, classify_eq, classify_eq, physical_assembled hSome h,
      physical_assembled (by simpa using hSome) hPlainLines, List.map_map]
    rfl

/-! ## Lines of a buffer -/

namespace Buffer

/-- What is done to a buffer. -/
inductive Operation where
  /-- A line is typed, with breaks behind it. -/
  | push (line breaks : List Char)
  /-- The text is taken out. -/
  | take
  /-- The lines are dropped. -/
  | clear
  deriving DecidableEq, Repr

/-- What is answered. -/
inductive Reply where
  | verdict (v : Verdict)
  | text (text : List Char)
  | nothing
  deriving DecidableEq, Repr

namespace Operation

/-- The line that is typed. -/
def line? : Operation → Option (List Char)
  | push line _ => some line
  | take | clear => none

/-- What is typed is one line, and nothing but line breaks stands behind it. -/
def IsTyped : Operation → Prop
  | push line breaks => IsLine line ∧ ∀ c ∈ breaks, c = '\r' ∨ c = '\n'
  | take | clear => True

end Operation

/-- One operation, with what it answers. -/
def perform (b : Buffer) : Operation → Reply × Buffer
  | .push line breaks => (.verdict (b.push (line ++ breaks)).verdict, b.push (line ++ breaks))
  | .take => (.text b.take.1, b.take.2)
  | .clear => (.nothing, b.clear)

/-- A new buffer after operations. -/
def after (mode : Mode) (ops : List Operation) : Buffer :=
  ops.foldl (fun b op => (b.perform op).2) { mode := mode }

/-- The lines that are typed after the buffer has last been emptied. -/
def collected (ops : List Operation) : List (List Char) :=
  (ops.rtakeWhile fun op => op.line?.isSome).filterMap Operation.line?

/-- Breaks behind a line are taken off, and no more than that. -/
theorem stripBreak_append {line breaks : List Char} (hLine : IsLine line)
    (hBreaks : ∀ c ∈ breaks, c = '\r' ∨ c = '\n') : stripBreak (line ++ breaks) = line := by
  apply Blank.dropEndWhile_append_of_forall
  · intro c hc
    simpa [isLineBreak] using hBreaks c hc
  · intro c hc
    have hReturn : c ≠ '\r' := by
      rintro rfl
      exact hLine.2 hc
    have hFeed : c ≠ '\n' := by
      rintro rfl
      exact hLine.1 (List.mem_of_getLast? hc)
    simp [isLineBreak, hReturn, hFeed]

theorem collected_push (ops : List Operation) (line breaks : List Char) :
    collected (ops ++ [.push line breaks]) = collected ops ++ [line] := by
  rw [collected, List.rtakeWhile_concat_pos _ _ _ rfl, List.filterMap_append]
  rfl

theorem collected_of_line?_eq_none (ops : List Operation) {op : Operation} (h : op.line? = none) :
    collected (ops ++ [op]) = [] := by
  rw [collected, List.rtakeWhile_concat_neg _ _ _ (by simp [h])]
  rfl

/-- A buffer holds the lines that have been typed since it was last emptied, in
their order and without their line breaks. -/
theorem after_eq (mode : Mode) {ops : List Operation} (h : ∀ op ∈ ops, op.IsTyped) :
    after mode ops = { mode := mode, lines := collected ops } := by
  induction ops using List.reverseRecOn with
  | nil => rfl
  | append_singleton ops op ih =>
    have hBefore := ih fun op hOp => h op (List.mem_append_left _ hOp)
    have hStep : after mode (ops ++ [op]) = ((after mode ops).perform op).2 := by
      unfold after
      rw [List.foldl_append]
      rfl
    -- the last operation pushes a line, or it leaves the buffer empty
    rw [hStep, hBefore]
    cases op with
    | push line breaks =>
      obtain ⟨hLine, hBreaks⟩ := h (.push line breaks) (by simp)
      rw [collected_push]
      show push ⟨mode, collected ops⟩ (line ++ breaks) = _
      rw [push, stripBreak_append hLine hBreaks]
    | take | clear =>
      rw [collected_of_line?_eq_none ops rfl]
      rfl

/-- What has been collected is free of line ends, as what is typed is. -/
theorem isLine_of_mem_collected {ops : List Operation} (h : ∀ op ∈ ops, op.IsTyped) :
    ∀ line ∈ collected ops, IsLine line := by
  intro line hLine
  obtain ⟨op, hOp, hTyped⟩ := List.mem_filterMap.mp hLine
  have hMem : op ∈ ops := (List.rtakeWhile_suffix _ ops).subset hOp
  cases op with
  | push typed breaks =>
    obtain rfl := Option.some.inj hTyped
    exact (h _ hMem).1
  | take | clear => cases hTyped

end Buffer

/-- **Line ends do not matter.** The verdict on a text depends on its lines
alone, whether a carriage return stands in front of a line feed or of the end of
the text or not. So it is with a buffer after any operations. It holds the lines
that have been typed since it was last emptied, without the breaks that were
typed behind them: its text and what is taken out of it are these lines with
line feeds between them, their number is its size, and one more line is answered
with the verdict on all of them, however they are assembled. -/
theorem classify_of_line_ends (mode : Mode) :
    (∀ lines : List (List Char × Bool), (∀ l ∈ lines, IsLine l.1) →
      classify mode (assembled lines) = classify mode (List.intercalate ['\n'] (lines.map Prod.fst))) ∧
    ∀ ops : List Buffer.Operation, (∀ op ∈ ops, op.IsTyped) →
      let b := Buffer.after mode ops
      let lines := Buffer.collected ops
      b.text = List.intercalate ['\n'] lines ∧ b.size = lines.length ∧
      (b.perform .take).1 = .text (List.intercalate ['\n'] lines) ∧
      ∀ line breaks, (Buffer.Operation.push line breaks).IsTyped →
        ∀ lines' : List (List Char × Bool), lines'.map Prod.fst = lines ++ [line] →
          (b.perform (.push line breaks)).1 = .verdict (classify mode (assembled lines')) := by
  constructor
  · intro lines hLines
    exact classify_assembled mode hLines
  · intro ops hOps b lines
    have hBuffer : b = { mode := mode, lines := lines } := Buffer.after_eq mode hOps
    have hText : b.text = List.intercalate ['\n'] lines := by rw [hBuffer]; rfl
    refine ⟨hText, ?_, ?_, ?_⟩
    · rw [hBuffer]
      rfl
    · show Buffer.Reply.text b.text = _
      rw [hText]
    · intro line breaks hTyped lines' hSame
      -- all lines of the buffer are free of line breaks, so their ends do not
      -- matter
      have hLines' : ∀ l ∈ lines', IsLine l.1 := by
        intro l hl
        have hMem : l.1 ∈ lines ++ [line] := by
          rw [← hSame]
          exact List.mem_map_of_mem hl
        rcases List.mem_append.mp hMem with hOld | hNew
        · exact Buffer.isLine_of_mem_collected hOps _ hOld
        · rw [List.mem_singleton.mp hNew]
          exact hTyped.1
      -- the breaks that were typed behind the line are stripped before it is
      -- kept
      have hPush : b.push (line ++ breaks) = { mode := mode, lines := lines ++ [line] } := by
        rw [hBuffer, Buffer.push, Buffer.stripBreak_append hTyped.1 hTyped.2]
      show Buffer.Reply.verdict (b.push (line ++ breaks)).verdict = _
      rw [hPush, classify_assembled mode hLines', hSame]
      rfl

/-- A string that goes on behind a backslash and a carriage return, typed after
a statement that has been taken out. -/
theorem classify_of_line_ends_after_take :
    let ops : List Buffer.Operation := [.push "x".toList "\n".toList, .take, .push "'\\".toList "\r\r\n".toList]
    (Buffer.after .interactive ops).text = "'\\".toList ∧
      ((Buffer.after .interactive ops).perform (.push "'".toList [])).1 =
        .verdict (classify .interactive "'\\\r\n'\r".toList) := by
  intro ops
  have hOps : ∀ op ∈ ops, op.IsTyped := by
    intro op hOp
    simp only [ops, List.mem_cons, List.not_mem_nil, or_false] at hOp
    rcases hOp with rfl | rfl | rfl
    · exact ⟨⟨by decide, by decide⟩, by simp⟩
    · trivial
    · exact ⟨⟨by decide, by decide⟩, by simp⟩
  have h := (classify_of_line_ends .interactive).2 ops hOps
  exact ⟨h.1, h.2.2.2 "'".toList [] ⟨⟨by decide, by decide⟩, by simp⟩
    [("'\\".toList, true), ("'".toList, true)] rfl⟩

end RemoteConsole.Statement
