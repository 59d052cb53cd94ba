import RemoteConsole.Proofs.Statement.PhysicalLine
import RemoteConsole.Statement.Buffer

/-!
# Blank text

White space of Unicode is wider than the blanks that may stand between the
lexemes of a line: a line of a no-break space is blank, and no lexeme starts
with it. So blank text is either a finished statement or no statement at all. It
is never unfinished.

* `CodePoints.mem_points` — a finite set of code points, point by point.
* `startsLexeme_of_isBlank` — white space other than the blanks of a line starts
  no lexeme.
* `classify_ne_incomplete_of_isBlankText` — blank text is not unfinished.
* `Buffer.isBlankText_text` — a buffer is blank when all its lines are.
-/

namespace RemoteConsole

/-! ## White space, point by point -/

namespace CodePoints

/-- The code points of a set whose changes come in pairs. -/
def points : List Nat → List Nat
  | a :: b :: rest => List.range' a (b - a) ++ points rest
  | _ => []

/-- A character of such a set is one of its code points. A set is given by the
codes at which it begins and ends by turns, so that an odd number of them lies
at or below a member. -/
theorem mem_points {changes : List Nat} {c : Char} (hEven : changes.length % 2 = 0)
    (h : mem ⟨changes⟩ c = true) : c.toNat ∈ points changes := by
  fun_induction points changes with
  | case1 a b rest ih =>
    rw [List.mem_append, List.mem_range'_1]
    -- behind this range, within it, or in front of it
    by_cases hb : b ≤ c.toNat
    · right
      by_cases ha : a ≤ c.toNat
      · simp only [List.length_cons] at hEven
        apply ih (by omega)
        simp only [mem, List.takeWhile, ha, hb, decide_true, List.length_cons, beq_iff_eq] at h ⊢
        omega
      · simp [mem, List.takeWhile, ha] at h
    · left
      by_cases ha : a ≤ c.toNat
      · omega
      · simp [mem, List.takeWhile, ha] at h
  | case2 changes hShape =>
    rcases changes with _ | ⟨a, _ | ⟨b, rest⟩⟩
    · simp [mem] at h
    · simp at hEven
    · exact absurd rfl (hShape a b rest)

end CodePoints

namespace Statement

/-- Whether a character may start something else than a run of blanks. -/
def startsLexeme (c : Char) : Bool :=
  (Quote.ofChar? c).isSome || (Bracket.ofOpen? c).isSome || (Bracket.ofClose? c).isSome ||
    c == '\\' || c == ':' || c == ',' || c == ';' || c == '.' || c.isDigit || startsWord c ||
    isOperatorSign c

/-- No white space starts a lexeme or a comment. -/
theorem startsLexeme_of_isBlank {c : Char} (h : Blank.isBlank c = true) :
    startsLexeme c = false ∧ c ≠ '#' := by
  have hPoint := CodePoints.mem_points (by decide) h
  have hAll : ∀ n ∈ CodePoints.points Blank.whiteSpace.changes,
      startsLexeme (Char.ofNat n) = false ∧ Char.ofNat n ≠ '#' := by
    decide +kernel
  have hChar := hAll c.toNat hPoint
  rwa [Char.ofNat_toNat] at hChar

/-- A character that starts no lexeme leaves nothing but a failure to read. -/
theorem Lexeme.read_of_startsLexeme_eq_false {c : Char} (h : startsLexeme c = false) (line : Nat)
    (rest : List Char) : ∃ cause, Lexeme.read line c rest = (.failure cause, []) := by
  simp only [startsLexeme, Bool.or_eq_false_iff, Option.isSome_eq_false_iff, Option.isNone_iff_eq_none,
    beq_eq_false_iff_ne, ne_eq] at h
  unfold Lexeme.read Lexeme.readPlain
  simp only [h, if_false, Bool.false_eq_true, or_self]
  split <;> exact ⟨_, rfl⟩

/-! ## Blank text is not unfinished -/

/-- A blank line outside a statement leaves no trace or is refused. It is
refused if one of its blanks is no gap to the scanner. -/
theorem Scanner.scanLine_of_isBlankText {text : List Char} (h : Blank.isBlankText text = true)
    (mode : Mode) {s : Scanner} (hLogical : s.logical = none) (line : Nat) :
    s.scanLine mode line text = .ok s ∨ ∃ e, s.scanLine mode line text = .error e := by
  unfold scanLine startLine
  rw [hLogical]
  dsimp only
  rw [indentation_snd]
  cases hCode : text.dropWhile isGap with
  | nil => exact .inl (by simp [isIdle])
  | cons c rest =>
    -- a blank that is no gap is left, and it starts no lexeme
    have hBlank : Blank.isBlank c = true := by
      apply List.all_eq_true.mp h
      apply (List.dropWhile_sublist isGap).mem
      rw [hCode]
      exact List.mem_cons_self
    have hGap : isGap c = false := by
      have hHead := List.head?_dropWhile_not isGap text
      rw [hCode] at hHead
      simpa using hHead
    obtain ⟨hStarts, hHash⟩ := startsLexeme_of_isBlank hBlank
    obtain ⟨cause, hRead⟩ := Lexeme.read_of_startsLexeme_eq_false hStarts line rest
    right
    rw [if_neg (by simpa [isIdle] using hHash)]
    unfold scanCode
    rw [lexemes_cons hGap hHash, hRead]
    exact ⟨_, rfl⟩

/-- Blank lines leave no trace or are refused. -/
theorem Scanner.scanLines_of_isBlankText {lines : List (List Char)}
    (h : ∀ text ∈ lines, Blank.isBlankText text = true) (mode : Mode) {s : Scanner}
    (hLogical : s.logical = none) (line : Nat) :
    s.scanLines mode line lines = .ok s ∨ ∃ e, s.scanLines mode line lines = .error e := by
  induction lines generalizing line with
  | nil => exact .inl rfl
  | cons text rest ih =>
    rw [scanLines]
    rcases scanLine_of_isBlankText (h text (by simp)) mode hLogical line with hLine | ⟨e, hLine⟩
    · rw [hLine]
      exact ih (fun text hText => h text (List.mem_cons_of_mem _ hText)) (line + 1)
    · rw [hLine]
      exact .inr ⟨e, rfl⟩

end Statement

/-- The parts of a text hold nothing but its characters. -/
theorem Separated.mem_of_mem_split {separator : Char} {text part : List Char} {c : Char}
    (hPart : part ∈ split separator text) (hc : c ∈ part) : c ∈ text := by
  rw [← join_split separator text]
  generalize split separator text = parts at hPart
  fun_induction join separator parts with
  | case1 => simp at hPart
  | case2 only =>
    rw [List.mem_singleton] at hPart
    exact hPart ▸ hc
  | case3 first more hMore ih =>
    rcases List.mem_cons.mp hPart with rfl | hRest
    · exact List.mem_append_left _ hc
    · exact List.mem_append_right _ (List.mem_cons_of_mem _ (ih hRest))

namespace Statement

/-- Blank text is a finished statement or none at all. Its lines are blank too,
so the scanner ends as it has begun or is stopped. -/
theorem classify_ne_incomplete_of_isBlankText {text : List Char}
    (h : Blank.isBlankText text = true) (mode : Mode) : classify mode text ≠ .incomplete := by
  -- every line of the text is blank, without its line end
  have hLines : ∀ line ∈ (Lines.split text).map Lines.dropReturn,
      Blank.isBlankText line = true := by
    intro line hLine
    obtain ⟨part, hPart, rfl⟩ := List.mem_map.mp hLine
    unfold Blank.isBlankText at h ⊢
    rw [List.all_eq_true] at h ⊢
    intro c hc
    apply h
    apply Separated.mem_of_mem_split hPart
    unfold Lines.dropReturn at hc
    split at hc
    · exact (List.dropLast_sublist part).mem hc
    · exact hc
  unfold classify classifyLines
  rcases Scanner.scanLines_of_isBlankText hLines mode (s := {}) rfl 1 with hScan | ⟨e, hScan⟩
  · rw [hScan]
    simp [Scanner.verdict, Scanner.isOpen, TopLevel.awaitsDecorated]
  · rw [hScan]
    simp

/-! ## Blank buffers -/

/-- Lines joined by line feeds are blank when all of them are. -/
theorem isBlankText_intercalate (lines : List (List Char)) :
    Blank.isBlankText (List.intercalate ['\n'] lines) = lines.all Blank.isBlankText := by
  induction lines with
  | nil => rfl
  | cons line rest ih =>
    cases rest with
    | nil => simp [List.intercalate]
    | cons next more =>
      rw [List.intercalate_cons_cons, List.all_cons, ← ih]
      have hFeed : Blank.isBlank '\n' = true := by decide
      simp [Blank.isBlankText, hFeed]

/-- A line is blank with or without its line break. -/
theorem isBlankText_stripBreak (line : List Char) :
    Blank.isBlankText (Buffer.stripBreak line) = Blank.isBlankText line := by
  have hParts : line.all Blank.isBlank =
      ((line.reverse.takeWhile Buffer.isLineBreak).all Blank.isBlank &&
        (line.reverse.dropWhile Buffer.isLineBreak).all Blank.isBlank) := by
    rw [← List.all_append, List.takeWhile_append_dropWhile, List.all_reverse]
  -- the break itself is made of blanks
  have hBreak : (line.reverse.takeWhile Buffer.isLineBreak).all Blank.isBlank = true := by
    rw [List.all_eq_true]
    intro c hc
    have hc := List.all_eq_true.mp List.all_takeWhile c hc
    simp only [Buffer.isLineBreak, Bool.or_eq_true, beq_iff_eq] at hc
    rcases hc with rfl | rfl <;> decide
  unfold Buffer.stripBreak Blank.dropEndWhile Blank.isBlankText
  rw [hParts, hBreak, Bool.true_and, List.all_reverse]

/-- A buffer is blank when all its lines are. -/
theorem Buffer.isBlankText_text (b : Buffer) :
    Blank.isBlankText b.text = b.lines.all Blank.isBlankText :=
  isBlankText_intercalate b.lines

/-- A line that is pushed makes a buffer blank only if both are. -/
theorem Buffer.isBlankText_push (b : Buffer) (line : List Char) :
    Blank.isBlankText (b.push line).text =
      (Blank.isBlankText b.text && Blank.isBlankText line) := by
  rw [isBlankText_text, isBlankText_text, push, List.all_append]
  simp [isBlankText_stripBreak]

end Statement

end RemoteConsole
