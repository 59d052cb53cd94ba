import RemoteConsole.Statement.Verdict

/-!
# Physical lines

A text that is put behind another one with a line feed between them adds its
physical lines to the ones of the first. The scanner takes them one by one, and
between two of them it is reading a logical line exactly if something holds that
line open: a bracket, a literal or a backslash.

* `physical`, `physical_append` — the lines of a text, and of two texts.
* `indentation_snd` — the code of a line is what stands behind its blanks.
* `Scanner.finishLogical_eq` — the end of a logical line leaves brackets,
  literal and backslash alone.
* `Scanner.scanLines_atLineEnd` — a logical line is being read exactly if it is
  held open.
-/

namespace RemoteConsole

namespace Statement

/-- The physical lines of a text. -/
def physical (text : List Char) : List (List Char) :=
  (Lines.split text).map Lines.dropReturn

/-- The lines of a text are those in front of a line feed and those behind
it. -/
theorem physical_append (s t : List Char) : physical (s ++ '\n' :: t) = physical s ++ physical t := by
  unfold physical Lines.split
  rw [Separated.split_append, List.map_append]

theorem classify_eq (mode : Mode) (text : List Char) :
    classify mode text = classifyLines mode (physical text) := rfl

theorem eq_of_isGap {c : Char} (h : isGap c = true) : c = ' ' ∨ c = '\t' ∨ c = '\x0c' := by
  simpa [isGap, or_assoc] using h

/-- The code of a line is what stands behind its blanks, however wide they
are. -/
theorem indentation_snd (text : List Char) : (indentation text).2 = text.dropWhile isGap := by
  unfold indentation
  generalize 0 = width
  fun_induction indentationFrom width text with
  | case1 width rest ih | case2 width rest ih | case3 width rest ih =>
    rw [ih, List.dropWhile_cons_of_pos (by decide)]
  | case4 width text hSpace hTab hFeed =>
    cases text with
    | nil => rfl
    | cons c rest =>
      -- where the count of blanks ends no gap stands
      have hGap : isGap c = false := by
        simp only [isGap, Bool.or_eq_false_iff, beq_eq_false_iff_ne, ne_eq]
        refine ⟨⟨?_, ?_⟩, ?_⟩
        · rintro rfl
          exact hSpace rest rfl
        · rintro rfl
          exact hTab rest rfl
        · rintro rfl
          exact hFeed rest rfl
      rw [List.dropWhile_cons_of_neg (by simp [hGap])]

namespace Scanner

/-! ## The end of a logical line -/

/-- The logical line is taken into the blocks and the outermost level, and
nothing else changes. -/
theorem settle_eq {mode : Mode} {s s' : Scanner} {l : Logical} (h : s.settle mode l = .ok s') :
    ∃ blocks top, s' = { s with logical := none, blocks := blocks, top := top } := by
  unfold settle at h
  split at h
  · cases h
  split at h
  · cases h
  dsimp only at h
  -- only a line at the outermost level meets the statement before it
  split at h
  · split at h
    · cases h
    · exact ⟨_, _, (Except.ok.inj h).symm⟩
  · exact ⟨_, _, (Except.ok.inj h).symm⟩

/-- The end of a logical line leaves brackets, literal and backslash alone. -/
theorem finishLogical_eq {mode : Mode} {s s' : Scanner} (h : s.finishLogical mode = .ok s') :
    ∃ blocks top, s' = { s with logical := none, blocks := blocks, top := top } := by
  unfold finishLogical at h
  split at h
  · next hNone =>
    refine ⟨s.blocks, s.top, ?_⟩
    rw [← Except.ok.inj h, ← hNone]
  · split at h
    · exact ⟨_, _, (Except.ok.inj h).symm⟩
    · exact settle_eq h

/-! ## Between physical lines -/

/-- A logical line is being read exactly if something holds it open. -/
def AtLineEnd (s : Scanner) : Prop :=
  s.logical.isSome = s.isOpen

theorem isSome_add (s : Scanner) (line : Nat) (token : Token) (opening : Opening) :
    (s.add line token opening).logical.isSome = s.logical.isSome := by
  simp [add]

/-- No lexeme begins or ends a logical line. A token is added to the line that
is there, and brackets, literals and continuations do not touch it. -/
theorem isSome_absorb {line : Nat} {s s' : Scanner} {x : Lexeme} (h : absorb line s x = .ok s') :
    s'.logical.isSome = s.logical.isSome := by
  unfold absorb at h
  cases x with
  | failure cause => cases h
  | closing b =>
    -- a bracket is closed by a token, and tokens are added to the logical line
    -- that is there
    dsimp only [closeBracket] at h
    split at h
    · cases h
    · split at h
      · rw [← Except.ok.inj h, isSome_add]
      · cases h
  | colon =>
    rw [← Except.ok.inj h]
    unfold addColon
    dsimp only
    split
    · simp [isSome_add]
    · exact isSome_add ..
  | continuation => rw [← Except.ok.inj h]
  | word | value | operator | opening | separator | openLiteral =>
    rw [← Except.ok.inj h]
    simp [add]

/-- What every lexeme keeps, code keeps. -/
theorem foldlM_absorb_induction {P : Scanner → Prop} {line : Nat} {xs : List Lexeme}
    {s s' : Scanner} (hStep : ∀ x ∈ xs, ∀ {s s'}, absorb line s x = .ok s' → P s → P s')
    (hBefore : P s) (h : xs.foldlM (absorb line) s = .ok s') : P s' := by
  induction xs generalizing s with
  | nil => rwa [← Except.ok.inj h]
  | cons x rest ih =>
    rw [List.foldlM_cons] at h
    cases hx : absorb line s x with
    | error e =>
      rw [hx] at h
      cases h
    | ok next =>
      rw [hx] at h
      -- the first lexeme keeps the property, and the rest goes by induction
      exact ih (fun y hy => hStep y (List.mem_cons_of_mem _ hy))
        (hStep x List.mem_cons_self hx hBefore) h

/-- Code neither begins nor ends a logical line; only its end does. -/
theorem isSome_foldlM {line : Nat} {s s' : Scanner} {xs : List Lexeme}
    (h : xs.foldlM (absorb line) s = .ok s') : s'.logical.isSome = s.logical.isSome :=
  foldlM_absorb_induction (P := fun next => next.logical.isSome = s.logical.isSome)
    (fun _ _ _ _ hx hBefore => (isSome_absorb hx).trans hBefore) rfl h

/-- Code ends the logical line unless it leaves it open. -/
theorem scanCode_atLineEnd {mode : Mode} {s s' : Scanner} {line : Nat} {code : List Char}
    (hLogical : s.logical.isSome = true) (h : s.scanCode mode line code = .ok s') :
    s'.AtLineEnd := by
  unfold scanCode at h
  split at h
  · cases h
  · next next hFold =>
    -- reading the code has left the logical line there
    rw [← isSome_foldlM hFold] at hLogical
    split at h
    · next hOpen =>
      rw [← Except.ok.inj h]
      unfold AtLineEnd
      rw [hLogical, hOpen]
    · next hClosed =>
      obtain ⟨blocks, top, rfl⟩ := finishLogical_eq h
      simp only [Bool.not_eq_true] at hClosed
      exact hClosed.symm

/-- Every physical line ends with a logical line exactly if it leaves it
open. -/
theorem scanLine_atLineEnd {mode : Mode} {s s' : Scanner} {line : Nat} {text : List Char}
    (hBefore : s.AtLineEnd) (h : s.scanLine mode line text = .ok s') : s'.AtLineEnd := by
  unfold scanLine at h
  split at h
  · unfold startLine at h
    dsimp only at h
    split at h
    -- a blank line between logical lines leaves all as it is
    · rwa [← Except.ok.inj h]
    · exact scanCode_atLineEnd rfl h
  · next l hLogical =>
    unfold continueLine at h
    split at h
    · exact scanCode_atLineEnd (by simp [hLogical]) h
    · next lit hLiteral =>
      split at h
      · exact scanCode_atLineEnd (by simp [hLogical]) h
      · -- the literal that is carried over holds the line open
        rw [← Except.ok.inj h]
        simp [AtLineEnd, isOpen, hLogical, hLiteral]
      · cases h

/-- What every physical line keeps, all lines keep. -/
theorem scanLines_induction {P : Scanner → Prop} {mode : Mode} {s s' : Scanner} {line : Nat}
    {lines : List (List Char)}
    (hStep : ∀ {line text s s'}, P s → s.scanLine mode line text = .ok s' → P s') (hBefore : P s)
    (h : s.scanLines mode line lines = .ok s') : P s' := by
  induction lines generalizing s line with
  | nil => rwa [← Except.ok.inj h]
  | cons text rest ih =>
    rw [scanLines] at h
    split at h
    · cases h
    · next hLine => exact ih (hStep hBefore hLine) h

/-- So it is with what has to do with the number of lines behind which the
scanner stands. -/
theorem scanLines_induction_counted {P : Nat → Scanner → Prop} {mode : Mode} {s s' : Scanner} {n : Nat}
    {lines : List (List Char)}
    (hStep : ∀ {n text s s'}, P n s → s.scanLine mode (n + 1) text = .ok s' → P (n + 1) s')
    (hBefore : P n s) (h : s.scanLines mode (n + 1) lines = .ok s') : P (n + lines.length) s' := by
  induction lines generalizing s n with
  | nil => rwa [← Except.ok.inj h]
  | cons text rest ih =>
    rw [scanLines] at h
    split at h
    · cases h
    · next hLine =>
      have hRest : P (n + 1 + rest.length) s' := ih (hStep hBefore hLine) h
      rwa [List.length_cons, Nat.add_comm rest.length 1, ← Nat.add_assoc]

theorem scanLines_atLineEnd {mode : Mode} {s s' : Scanner} {line : Nat} {lines : List (List Char)}
    (hBefore : s.AtLineEnd) (h : s.scanLines mode line lines = .ok s') : s'.AtLineEnd :=
  scanLines_induction scanLine_atLineEnd hBefore h

theorem atLineEnd_start : AtLineEnd {} := rfl

end Scanner

end Statement

end RemoteConsole
