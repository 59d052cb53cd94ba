import Mathlib.Algebra.Ring.Parity
import Mathlib.Data.List.DropRight
import Mathlib.Order.Bounds.Defs
import RemoteConsole.Proofs.Statement.Completion
import RemoteConsole.Proofs.Statement.Reading

/-!
# The end of a literal

A literal ends behind the first of its endings that is not escaped, and a place
is escaped when an odd number of backslashes stands directly before it. The
scanner never looks at such a number: it takes a backslash together with the
character behind it. So it is a matter of parity, and the proof goes along the
scanner's own steps. A step over one character that is no backslash changes no
number behind it, and a step over a backslash and its companion changes none
from odd to even.

* `backslashes` — the number of backslashes directly before a place.
* `Literal.EndsAt` — an ending that is not escaped.
* `Literal.Meets` — what a literal has to come to on a line.
* `literal_ends_first` — what it comes to, where it is carried over from another
  line and where it begins.
-/

namespace RemoteConsole.Statement

/-- The number of backslashes in a row that stand directly before a place of a
text. What stands before `start` does not count. -/
def backslashes (text : List Char) (start place : Nat) : Nat :=
  (((text.drop start).take (place - start)).rtakeWhile (· == '\\')).length

/-! ## Parity -/

/-- A run at the end of a text goes on with one more character in front only if
it is the whole text. -/
theorem length_rtakeWhile_cons (p : Char → Bool) (c : Char) (text : List Char) :
    ((c :: text).rtakeWhile p).length =
      if (text.rtakeWhile p).length = text.length ∧ p c = true then text.length + 1
      else (text.rtakeWhile p).length := by
  simp only [List.rtakeWhile, List.reverse_cons, List.takeWhile_append, List.length_reverse]
  split
  -- the run reaches the front, so the new character may join it
  · next hWhole =>
    by_cases hc : p c = true
    · simp [hWhole, hc]
    · simp [hWhole, hc]
  · next hPart => simp [hPart]

theorem length_rtakeWhile_le (p : Char → Bool) (text : List Char) :
    (text.rtakeWhile p).length ≤ text.length :=
  List.rtakeWhile_suffix p text |>.length_le

/-- Backslashes are counted in what is read, so what stands in front of it does
not matter. -/
theorem backslashes_drop (text : List Char) (start place : Nat) :
    backslashes text start place = backslashes (text.drop start) 0 (place - start) := by
  simp [backslashes]

theorem backslashes_cons {c : Char} (h : c ≠ '\\') (rest : List Char) (place : Nat) :
    backslashes (c :: rest) 0 (place + 1) = backslashes rest 0 place := by
  simp [backslashes, length_rtakeWhile_cons, h]

/-- A backslash together with the character behind it changes no number from odd
to even. The number changes at all only where backslashes reach from the place
up to the two, and then by two or not at all. -/
theorem odd_backslashes_escape (d : Char) (rest : List Char) (place : Nat) :
    Odd (backslashes ('\\' :: d :: rest) 0 (place + 2)) ↔ Odd (backslashes rest 0 place) := by
  simp only [backslashes, List.drop_zero, Nat.sub_zero, List.take_succ_cons, length_rtakeWhile_cons]
  generalize rest.take place = before
  have hLe := length_rtakeWhile_le (· == '\\') before
  by_cases hWhole : (before.rtakeWhile (· == '\\')).length = before.length
  · by_cases hd : d = '\\'
    · simp [hWhole, hd, Nat.odd_add]
    · simp [hWhole, hd]
  · have hPart : (before.rtakeWhile (· == '\\')).length ≠ before.length + 1 := by omega
    simp [hWhole, hPart]

namespace Literal

/-! ## Endings -/

theorem ending_ne_nil (lit : Literal) : lit.ending ≠ [] := by
  unfold ending
  split <;> exact List.cons_ne_nil _ _

/-- What is read from `start` on holds an ending of a literal at a place that is
not escaped. -/
structure EndsAt (lit : Literal) (text : List Char) (start place : Nat) : Prop where
  start_le : start ≤ place
  unescaped : ¬ Odd (backslashes text start place)
  ending : lit.ending <+: text.drop place

/-- Reading may start at the front of what is left, so that the proofs below
need no start. -/
theorem endsAt_drop_iff {lit : Literal} {text : List Char} {start place : Nat} :
    lit.EndsAt text start place ↔ start ≤ place ∧ lit.EndsAt (text.drop start) 0 (place - start) := by
  constructor
  · intro h
    refine ⟨h.start_le, Nat.zero_le _, ?_, ?_⟩
    · rw [← backslashes_drop]
      exact h.unescaped
    · rw [List.drop_drop, Nat.add_sub_cancel' h.start_le]
      exact h.ending
  · rintro ⟨hLe, h⟩
    refine ⟨hLe, ?_, ?_⟩
    · rw [backslashes_drop]
      exact h.unescaped
    · have hEnding := h.ending
      rwa [List.drop_drop, Nat.add_sub_cancel' hLe] at hEnding

/-- An ending lies behind the start of what is read, and within the text. -/
theorem EndsAt.bounds {lit : Literal} {text : List Char} {start place : Nat}
    (h : lit.EndsAt text start place) :
    start < place + lit.ending.length ∧ place + lit.ending.length ≤ text.length := by
  have hSome := List.length_pos_of_ne_nil lit.ending_ne_nil
  have hLength := h.ending.length_le
  have hStart := h.start_le
  rw [List.length_drop] at hLength
  omega

/-- What a literal has to come to on a line that is read from `start` on. -/
structure Meets (lit : Literal) (text : List Char) (start : Nat) (outcome : Literal.End) : Prop where
  closed : ∀ place, IsLeast {i | lit.EndsAt text start i} place →
    outcome = .closed (text.drop (place + lit.ending.length))
  carried : (∀ i, ¬ lit.EndsAt text start i) →
    lit.triple = true ∨ Odd (backslashes text start text.length) → outcome = .carried
  unterminated : (∀ i, ¬ lit.EndsAt text start i) →
    lit.triple = false → ¬ Odd (backslashes text start text.length) → outcome = .unterminated

/-! ## Along the text -/

variable {lit : Literal} {rest : List Char} {outcome : Literal.End}

/-- Characters that change no parity behind them change no ending behind
them. -/
theorem endsAt_append_iff {skipped : List Char}
    (hParity : ∀ i, Odd (backslashes (skipped ++ rest) 0 (i + skipped.length)) ↔ Odd (backslashes rest 0 i))
    (i : Nat) : lit.EndsAt (skipped ++ rest) 0 (i + skipped.length) ↔ lit.EndsAt rest 0 i := by
  have hDrop : (skipped ++ rest).drop (i + skipped.length) = rest.drop i := by
    rw [Nat.add_comm, List.drop_length_add_append]
  constructor
  · intro h
    exact ⟨Nat.zero_le _, (hParity i).not.mp h.unescaped, hDrop ▸ h.ending⟩
  · intro h
    exact ⟨Nat.zero_le _, (hParity i).not.mpr h.unescaped, hDrop ▸ h.ending⟩

/-- Characters that hold no ending and change no number behind them from odd to
even are passed over. -/
theorem Meets.append (skipped : List Char) (h : lit.Meets rest 0 outcome)
    (hSkipped : ∀ i < skipped.length, ¬ lit.EndsAt (skipped ++ rest) 0 i)
    (hParity : ∀ i, Odd (backslashes (skipped ++ rest) 0 (i + skipped.length)) ↔ Odd (backslashes rest 0 i)) :
    lit.Meets (skipped ++ rest) 0 outcome := by
  have hEnds : ∀ i, lit.EndsAt (skipped ++ rest) 0 (i + skipped.length) ↔ lit.EndsAt rest 0 i :=
    endsAt_append_iff hParity
  have hNone : (∀ i, ¬ lit.EndsAt (skipped ++ rest) 0 i) → ∀ i, ¬ lit.EndsAt rest 0 i :=
    fun hNone i => (hEnds i).not.mp (hNone _)
  -- the parity at the end of the line is what carries a literal over
  have hLength : Odd (backslashes (skipped ++ rest) 0 (skipped ++ rest).length) ↔
      Odd (backslashes rest 0 rest.length) := by
    rw [List.length_append, Nat.add_comm]
    exact hParity rest.length
  constructor
  · intro place hLeast
    -- the first ending lies behind the characters that are passed over
    obtain ⟨i, rfl⟩ : ∃ i, place = i + skipped.length := by
      refine Nat.exists_eq_add_of_le' (Nat.le_of_not_lt fun hLess => ?_)
      exact hSkipped place hLess hLeast.1
    have hLeast' : IsLeast {i | lit.EndsAt rest 0 i} i := by
      refine ⟨(hEnds i).mp hLeast.1, fun j hj => ?_⟩
      have hLe := hLeast.2 ((hEnds j).mpr hj)
      omega
    rw [h.closed i hLeast', Nat.add_right_comm, Nat.add_comm _ skipped.length, List.drop_length_add_append]
  · intro hNo hOpen
    exact h.carried (hNone hNo) (hOpen.imp_right hLength.mp)
  · intro hNo hTriple hEven
    exact h.unterminated (hNone hNo) hTriple (hLength.not.mp hEven)

/-- A character that is no backslash and starts no ending is passed over. -/
theorem Meets.cons {c : Char} (h : lit.Meets rest 0 outcome) (hBackslash : c ≠ '\\')
    (hEnding : ¬ lit.ending <+: c :: rest) : lit.Meets (c :: rest) 0 outcome := by
  refine Meets.append [c] h (fun i hi hEnds => ?_) fun i => ?_
  · obtain rfl : i = 0 := Nat.lt_one_iff.mp hi
    exact hEnding hEnds.ending
  · exact iff_of_eq (congrArg Odd (backslashes_cons hBackslash rest i))

/-- No ending starts with a backslash. -/
theorem not_ending_prefix_backslash (lit : Literal) (rest : List Char) : ¬ lit.ending <+: '\\' :: rest := by
  intro h
  unfold ending at h
  split at h
  all_goals exact Reading.quote_ne_backslash _ (List.cons_prefix_cons.mp h).1

/-- A backslash is passed over with the character behind it: neither of the two
may start an ending. -/
theorem Meets.escape {d : Char} (h : lit.Meets rest 0 outcome) :
    lit.Meets ('\\' :: d :: rest) 0 outcome := by
  refine Meets.append ['\\', d] h (fun i hi hEnds => ?_) fun i => odd_backslashes_escape d rest i
  -- the backslash is no quote, and the character behind it is escaped
  match i, hi with
  | 0, _ => exact lit.not_ending_prefix_backslash _ hEnds.ending
  | 1, _ => exact hEnds.unescaped (by decide : Odd 1)

/-- An ending starts with the quote, and it is three of them if the literal is
triple-quoted. -/
theorem ending_prefix_cons_iff {c : Char} :
    lit.ending <+: c :: rest ↔ c = lit.quote.char ∧ (lit.triple = true → [c, c] <+: rest) := by
  unfold ending
  cases lit.triple with
  | false => simp [List.cons_prefix_cons, eq_comm]
  | true =>
    rw [if_pos rfl, List.cons_prefix_cons]
    constructor
    · rintro ⟨rfl, h⟩
      exact ⟨rfl, fun _ => h⟩
    · rintro ⟨rfl, h⟩
      exact ⟨rfl, h rfl⟩

/-- A literal that ends where a text starts ends nowhere before that. -/
theorem meets_of_ending_prefix {text : List Char} (h : lit.ending <+: text) :
    lit.Meets text 0 (.closed (text.drop lit.ending.length)) := by
  have hEnds : lit.EndsAt text 0 0 := ⟨Nat.le_refl 0, by simp [backslashes], h⟩
  constructor
  · intro place hLeast
    obtain rfl : place = 0 := Nat.le_zero.mp (hLeast.2 hEnds)
    rw [Nat.zero_add]
  · intro hNone
    exact absurd hEnds (hNone 0)
  · intro hNone
    exact absurd hEnds (hNone 0)

/-- Where nothing is left no literal ends. -/
theorem not_endsAt_nil (i : Nat) : ¬ lit.EndsAt [] 0 i := by
  intro h
  have hBounds := h.bounds
  rw [List.length_nil] at hBounds
  omega

/-- Nor does one end in a single backslash. -/
theorem not_endsAt_backslash (i : Nat) : ¬ lit.EndsAt ['\\'] 0 i := by
  intro h
  cases i with
  | zero => exact lit.not_ending_prefix_backslash _ h.ending
  | succ i =>
    have hNil : lit.ending = [] := by simpa using h.ending
    exact lit.ending_ne_nil hNil

/-- What the scanner comes to from the front of a text is what it has to come
to. The induction is the scanner's own recursion, one case for each of its
branches; only the ends of the line look at the whole parity. -/
theorem meets_close_zero (lit : Literal) (text : List Char) : lit.Meets text 0 (lit.close text) := by
  -- along the steps of the scanner: the end of the line, escapes, and quotes
  fun_induction close lit text with
  -- the line ends where the literal is still open
  | case1 hTriple =>
    exact ⟨fun i hLeast => absurd hLeast.1 (not_endsAt_nil i), fun _ _ => rfl, fun _ hSingle => by
      rw [hTriple] at hSingle
      cases hSingle⟩
  | case2 hTriple =>
    refine ⟨fun i hLeast => absurd hLeast.1 (not_endsAt_nil i), fun _ hOpen => ?_, fun _ _ _ => rfl⟩
    rcases hOpen with hTriple' | hOdd
    · exact absurd hTriple' hTriple
    · simp [backslashes] at hOdd
  -- the last character of the line is a backslash that nothing escapes
  | case3 =>
    exact ⟨fun i hLeast => absurd hLeast.1 (not_endsAt_backslash i), fun _ _ => rfl,
      fun _ _ hEven => absurd (by decide : Odd 1) hEven⟩
  -- a backslash and its companion
  | case4 d rest ih => exact ih.escape
  -- a quote of a triple-quoted literal, with two more behind it or not
  | case5 rest hTriple _ _ hThree =>
    have hEnding : lit.ending <+: lit.quote.char :: rest :=
      ending_prefix_cons_iff.mpr ⟨rfl, fun _ => List.isPrefixOf_iff_prefix.mp hThree⟩
    have hMeets := meets_of_ending_prefix hEnding
    rwa [ending, if_pos hTriple] at hMeets
  | case6 rest hTriple _ _ hThree ih =>
    refine ih.cons (Reading.quote_ne_backslash _) fun hEnding => hThree ?_
    exact List.isPrefixOf_iff_prefix.mpr ((ending_prefix_cons_iff.mp hEnding).2 hTriple)
  -- a quote ends any other literal
  | case7 rest hTriple =>
    have hEnding : lit.ending <+: lit.quote.char :: rest :=
      ending_prefix_cons_iff.mpr ⟨rfl, fun hTriple' => absurd hTriple' hTriple⟩
    have hMeets := meets_of_ending_prefix hEnding
    rwa [ending, if_neg hTriple] at hMeets
  -- any other character is passed over
  | case8 c rest hLast hEscape hQuote ih =>
    have hBackslash : c ≠ '\\' := by
      rintro rfl
      cases rest with
      | nil => exact hLast rfl rfl
      | cons d rest => exact hEscape d rest rfl rfl
    exact ih.cons hBackslash fun hEnding => hQuote (ending_prefix_cons_iff.mp hEnding).1

/-- A literal comes to what it has to come to, wherever on a line it is read
from. This moves the start to the front of what is left. -/
theorem meets_close (lit : Literal) (text : List Char) (start : Nat) :
    lit.Meets text start (lit.close (text.drop start)) := by
  have hZero := lit.meets_close_zero (text.drop start)
  -- a place is counted from the front of the line on one side, and from the
  -- start of what is left on the other
  have hShift : ∀ i, lit.EndsAt text start (start + i) ↔ lit.EndsAt (text.drop start) 0 i := by
    intro i
    rw [endsAt_drop_iff, Nat.add_sub_cancel_left]
    exact and_iff_right (Nat.le_add_right start i)
  have hNone : (∀ i, ¬ lit.EndsAt text start i) → ∀ i, ¬ lit.EndsAt (text.drop start) 0 i :=
    fun hNone i => (hShift i).not.mp (hNone _)
  have hLength : backslashes text start text.length =
      backslashes (text.drop start) 0 (text.drop start).length := by
    rw [backslashes_drop, List.length_drop]
  constructor
  · intro place hLeast
    obtain ⟨i, rfl⟩ := Nat.exists_eq_add_of_le hLeast.1.start_le
    -- the first ending is the first one after the shift as well
    have hLeast' : IsLeast {i | lit.EndsAt (text.drop start) 0 i} i := by
      refine ⟨(hShift i).mp hLeast.1, fun j hj => ?_⟩
      exact Nat.le_of_add_le_add_left (hLeast.2 ((hShift j).mpr hj))
    rw [hZero.closed i hLeast', List.drop_drop, Nat.add_assoc]
  · intro hNo hOpen
    rw [hLength] at hOpen
    exact hZero.carried (hNone hNo) hOpen
  · intro hNo hTriple hEven
    rw [hLength] at hEven
    exact hZero.unterminated (hNone hNo) hTriple hEven

/-! ## Where a literal begins -/

/-- A literal begins at a place of a line: its quote stands there, and three of
them exactly if it is a triple-quoted one. -/
structure BeginsAt (lit : Literal) (text : List Char) (place : Nat) : Prop where
  quote : [lit.quote.char] <+: text.drop place
  triple : lit.triple = true ↔ [lit.quote.char, lit.quote.char, lit.quote.char] <+: text.drop place

/-- A literal that begins is read from behind its opening quotes on. Two quotes
behind the first make it triple, in the reader as in `BeginsAt`. -/
theorem BeginsAt.read_eq {text : List Char} {place : Nat} (h : lit.BeginsAt text place) :
    Lexeme.read lit.line lit.quote.char (text.drop (place + 1)) =
      match lit.close (text.drop (place + lit.ending.length)) with
      | .closed rest => (.value, rest)
      | .carried => (.openLiteral lit, [])
      | .unterminated => (.failure (.unterminatedLiteral lit.line), []) := by
  obtain ⟨quote, triple, line⟩ := lit
  have hTriple : [quote.char, quote.char].isPrefixOf (text.drop (place + 1)) = triple := by
    obtain ⟨rest, hRest⟩ := h.quote
    have hTail : text.drop (place + 1) = rest := by
      rw [← List.drop_drop, ← hRest]
      rfl
    have hThree := h.triple
    rw [← hRest, List.singleton_append, List.cons_prefix_cons, and_iff_right rfl,
      ← List.isPrefixOf_iff_prefix] at hThree
    rw [hTail, Bool.eq_iff_iff]
    exact hThree.symm
  -- a quote is read as a literal, whichever of the two it is
  have hRead : Lexeme.read line quote.char (text.drop (place + 1)) =
      Lexeme.readLiteral line quote (text.drop (place + 1)) := by
    cases quote <;> rfl
  -- behind a triple quote two more characters have been read
  have hBehind : (if triple then (text.drop (place + 1)).drop 2 else text.drop (place + 1)) =
      text.drop (place + (ending ⟨quote, triple, line⟩).length) := by
    cases triple <;> simp [ending]
  rewrite [hRead, Lexeme.readLiteral, hTriple, hBehind]
  cases Literal.close ⟨quote, triple, line⟩ (text.drop _) <;> rfl

end Literal

/-- **A literal ends at the first ending that is not escaped.** Read from any
place of a line on, it ends behind the first ending in front of which no odd
number of backslashes stands; where there is none, it is carried over if it is
triple-quoted or an odd number of backslashes ends the line, and is at fault
otherwise. What is left of the line lies behind the place that the reading
started from. The scanner does so with the literal that it has carried over,
which is then open no longer, or still open as it was, or at fault where it
began; and so it does with a literal that begins on the line, from behind the
opening quotes on. -/
theorem literal_ends_first (lit : Literal) (text : List Char) (start : Nat) :
    lit.Meets text start (lit.close (text.drop start)) ∧
      (∀ place, lit.EndsAt text start place →
        start < place + lit.ending.length ∧ place + lit.ending.length ≤ text.length) ∧
      (∀ (mode : Mode) (s : Scanner) (line : Nat), s.logical.isSome = true → s.literal = some lit →
        ∃ outcome, lit.Meets text 0 outcome ∧
          s.scanLine mode line text =
            match outcome with
            | .closed rest => Scanner.scanCode mode { s with continued := false, literal := none } line rest
            | .carried => .ok { s with continued := false }
            | .unterminated => .error ⟨.unterminatedLiteral line, lit.line⟩) ∧
      ∀ (s : Scanner) (place : Nat), lit.BeginsAt text place →
        ∃ outcome, lit.Meets text (place + lit.ending.length) outcome ∧
          let (found, left) := Lexeme.read lit.line lit.quote.char (text.drop (place + 1))
          (s.absorb lit.line found, left) =
            match outcome with
            | .closed rest => (.ok (s.add lit.line .value .other), rest)
            | .carried => (.ok { s.add lit.line .value .other with literal := some lit }, [])
            | .unterminated => (.error ⟨.unterminatedLiteral lit.line, lit.line⟩, []) := by
  refine ⟨lit.meets_close text start, fun place h => h.bounds, ?_, ?_⟩
  · intro mode s line hLogical hLiteral
    -- the scanner closes the literal from the front of the line
    refine ⟨lit.close text, lit.meets_close_zero text, ?_⟩
    obtain ⟨brackets, literal, continued, logical, blocks, top⟩ := s
    obtain ⟨l, rfl⟩ := Option.isSome_iff_exists.mp hLogical
    obtain rfl : literal = some lit := hLiteral
    cases hClose : lit.close text <;> simp only [Scanner.scanLine, Scanner.continueLine, hClose]
  · intro s place hBegins
    refine ⟨_, lit.meets_close text (place + lit.ending.length), ?_⟩
    rewrite [hBegins.read_eq]
    cases lit.close (text.drop (place + lit.ending.length)) <;> rfl

/-- A literal that begins behind an equals sign, with an escaped quote in it. -/
theorem literal_ends_first_of_escape :
    let lit : Literal := ⟨.single, false, 1⟩
    let text := "x='a\\'b'+y".toList
    lit.BeginsAt text 2 ∧ lit.EndsAt text 3 7 ∧ 3 < 7 + lit.ending.length ∧ 7 + lit.ending.length ≤ text.length ∧
      ∃ outcome, lit.Meets text 3 outcome ∧
        (Lexeme.read 1 '\'' (text.drop 3)).2 = (match outcome with | .closed rest => rest | _ => []) := by
  intro lit text
  have hBegins : lit.BeginsAt text 2 := ⟨by decide, by decide⟩
  have hEnds : lit.EndsAt text 3 7 := ⟨by decide, by decide, by decide⟩
  obtain ⟨-, hBounds, -, hRead⟩ := literal_ends_first lit text 3
  obtain ⟨outcome, hOutcome, hRest⟩ := hRead {} 2 hBegins
  refine ⟨hBegins, hEnds, (hBounds 7 hEnds).1, (hBounds 7 hEnds).2, outcome, hOutcome,
    (congrArg Prod.snd hRest).trans ?_⟩
  cases outcome <;> rfl

-- the second of two backslashes is the companion of the first, so the quote
-- behind them ends the literal
example : Literal.close ⟨.single, false, 1⟩ "a\\\\'b".toList = .closed ['b'] := by decide

end RemoteConsole.Statement
