import RemoteConsole.Proofs.Statement.Finality
import RemoteConsole.Proofs.Statement.LogicalLine

/-!
# Texts that go on

A text goes on behind a line feed with other lines, of which there is at least
one. The verdict on the whole is reached from where the scanner stands behind
the first part, and whether the last line is blank depends on the second part
alone.

* `exists_physical_eq` — any lines without line breaks are the lines of a text.
* `classify_append_of_ok` — the verdict on a text that goes on.
* `Scanner.verdict_of_isSettled` — the verdict when nothing is open and nothing
  is missing.
-/

namespace RemoteConsole

namespace Statement

/-! ## Lines of a text -/

theorem physical_ne_nil (text : List Char) : physical text ≠ [] := by
  unfold physical
  rw [ne_eq, List.map_eq_nil_iff]
  exact Separated.split_ne_nil '\n' text

/-- A line without a line break. -/
def IsLine (text : List Char) : Prop :=
  '\n' ∉ text ∧ text.getLast? ≠ some '\r'

theorem isLine_nil : IsLine [] := by
  simp [IsLine]

theorem physical_of_isLine {text : List Char} (h : IsLine text) : physical text = [text] := by
  unfold physical Lines.split
  rw [Separated.split_of_not_mem h.1, List.map_singleton, Lines.dropReturn, if_neg h.2]

/-- Lines without line breaks are the lines of a text: of the one that has line
feeds between them. The induction is on the lines. -/
theorem exists_physical_eq {lines : List (List Char)} (hLines : lines ≠ [])
    (h : ∀ text ∈ lines, IsLine text) : ∃ text, physical text = lines := by
  induction lines with
  | nil => exact absurd rfl hLines
  | cons first rest ih =>
    have hFirst := physical_of_isLine (h first List.mem_cons_self)
    cases rest with
    | nil => exact ⟨first, hFirst⟩
    | cons second more =>
      obtain ⟨text, hText⟩ := ih (by simp) fun text hMem => h text (List.mem_cons_of_mem _ hMem)
      refine ⟨first ++ '\n' :: text, ?_⟩
      rw [physical_append, hFirst, hText]
      rfl

/-- Whether the last line is blank depends on the lines behind, if there are
any. -/
theorem endsBlank_append {a b : List (List Char)} (h : b ≠ []) : endsBlank (a ++ b) = endsBlank b := by
  unfold endsBlank
  rw [List.getLast?_append, List.getLast?_eq_some_getLast h, Option.some_or]

theorem endsBlank_concat_nil (lines : List (List Char)) : endsBlank (lines ++ [[]]) = true := by
  rw [endsBlank_append (by simp)]
  rfl

/-! ## Verdicts -/

/-- The verdict on a text that goes on: the scanner starts the other lines where
it has come to, one line number further on, and how the text ends is seen from
them. -/
theorem classify_append_of_ok {mode : Mode} {text more : List Char} {s s' : Scanner}
    (hScan : Scanner.scanLines mode {} 1 (physical text) = .ok s)
    (hMore : s.scanLines mode (1 + (physical text).length) (physical more) = .ok s') :
    classify mode (text ++ '\n' :: more) =
      s'.verdict mode ((physical text).length + (physical more).length) (endsBlank (physical more)) := by
  have hWhole : Scanner.scanLines mode {} 1 (physical text ++ physical more) = .ok s' := by
    rw [Scanner.scanLines_append, hScan]
    exact hMore
  rw [classify_eq, physical_append, classifyLines, hWhole, List.length_append,
    endsBlank_append (physical_ne_nil more)]

/-- A text that is not invalid has been taken in, and the verdict is that of the
scanner at its end. -/
theorem exists_scanLines_of_classify {mode : Mode} {text : List Char} {v : Verdict}
    (h : classify mode text = v) (hValid : ∀ e, v ≠ .invalid e) :
    ∃ s, Scanner.scanLines mode {} 1 (physical text) = .ok s ∧
      s.verdict mode (physical text).length (endsBlank (physical text)) = v := by
  rw [classify_eq, classifyLines] at h
  cases hScan : Scanner.scanLines mode {} 1 (physical text) with
  | error e =>
    rw [hScan] at h
    exact absurd h.symm (hValid e)
  | ok s =>
    rw [hScan] at h
    exact ⟨s, rfl, h⟩

namespace Scanner

/-- Nothing is open, and no header and no decorator waits. -/
def isSettled (s : Scanner) : Bool :=
  !s.isOpen && !s.awaitsBody

/-- The verdict when nothing is open and nothing is missing. -/
theorem verdict_of_isSettled {s : Scanner} (h : s.isSettled = true) (mode : Mode) (count : Nat)
    (blankEnd : Bool) :
    s.verdict mode count blankEnd =
      if mode = .interactive ∧ s.top.compound ∧ blankEnd = false then .incomplete else .complete := by
  simp only [isSettled, awaitsBody, Bool.and_eq_true, Bool.not_eq_true', Bool.or_eq_false_iff,
    Option.isSome_eq_false_iff, Option.isNone_iff_eq_none] at h
  obtain ⟨hOpen, hHeader, hDecorator⟩ := h
  unfold verdict
  simp [hOpen, hHeader, hDecorator]

/-- Only what is settled is finished. -/
theorem isSettled_of_verdict {mode : Mode} {s : Scanner} {count : Nat} {blankEnd : Bool}
    (h : s.verdict mode count blankEnd = .complete) : s.isSettled = true := by
  unfold verdict at h
  unfold isSettled awaitsBody
  -- what is open, a header and a decorator are asked about in this order
  split at h
  · cases h
  · next hOpen =>
    split at h
    · split at h <;> cases h
    · next hHeader =>
      split at h
      · split at h <;> cases h
      · next hDecorator => simp [hOpen, hHeader, hDecorator]

/-- An empty line leaves no trace between logical lines. -/
theorem scanLine_nil {s : Scanner} (h : s.logical = none) (mode : Mode) (line : Nat) :
    s.scanLine mode line [] = .ok s := by
  unfold scanLine startLine
  rw [h]
  rfl

theorem isOpen_of_isSettled {s : Scanner} (h : s.isSettled = true) : s.isOpen = false := by
  simp only [isSettled, Bool.and_eq_true, Bool.not_eq_true'] at h
  exact h.1

theorem logical_of_isOpen_eq_false {s : Scanner} (hEnd : s.AtLineEnd) (h : s.isOpen = false) :
    s.logical = none := by
  rw [AtLineEnd, h] at hEnd
  simpa using hEnd

theorem literal_of_isOpen_eq_false {s : Scanner} (h : s.isOpen = false) : s.literal = none := by
  simp only [isOpen, Bool.or_eq_false_iff, Option.isSome_eq_false_iff, Option.isNone_iff_eq_none] at h
  exact h.1.1

end Scanner

end Statement

end RemoteConsole
