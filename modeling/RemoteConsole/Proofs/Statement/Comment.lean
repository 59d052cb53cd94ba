import RemoteConsole.Proofs.Statement.Agreement
import RemoteConsole.Proofs.Statement.Continuation
import RemoteConsole.Proofs.Statement.LogicalLine

/-!
# A comment behind the code

Blanks and a comment behind the code of a line leave no trace, unless the line
ends within a literal or in a backslash: there they would be text of the
literal, or follow the backslash. How a line ends is said by a reading of its
characters, and brackets have no say in it. No word, number or operator goes on
with a blank or a number sign, so each lexeme of the line is read as before and
leaves the comment to the end.

* `Reading.EndsInCode` — where a comment may be put behind a line.
* `IsTrailer` — blanks and a comment.
* `Lexeme.undisturbed_read`, `lexemes_trailer` — lexemes with a comment behind
  them.
* `classifyLines_trailer` — the verdict on lines with a comment behind one of
  them.
-/

namespace RemoteConsole.Statement

/-! ## How a line ends -/

/-- A character with brackets blanked out. -/
def unbracket (c : Char) : Char :=
  if (Bracket.ofOpen? c).isSome || (Bracket.ofClose? c).isSome then ' ' else c

/-- The line ends in code or in a comment, and no backslash continues it. -/
def Reading.EndsInCode (r : Reading) (line : List Char) : Prop :=
  readLine [] r.literal 0 (line.map unbracket) = some {}

instance (r : Reading) (line : List Char) : Decidable (r.EndsInCode line) :=
  inferInstanceAs (Decidable (_ = _))

/-- Text in code whose line ends in code or in a comment, and not in a
backslash. -/
def Outside (text : List Char) : Prop :=
  Reading.readLine [] none 0 (text.map unbracket) = some {}

/-- Nothing is text in code, so a comment may stand alone behind the code that
is read already. -/
theorem outside_nil : Outside [] := rfl

theorem unbracket_openChar (b : Bracket) : unbracket b.openChar = ' ' := by
  cases b <;> rfl

theorem unbracket_closeChar (b : Bracket) : unbracket b.closeChar = ' ' := by
  cases b <;> rfl

/-- Blanking out brackets turns nothing into a character that is neither a blank
nor a bracket, and leaves those that are alone. -/
theorem unbracket_eq_iff {c d : Char} (hSpace : d ≠ ' ') (hOpen : Bracket.ofOpen? d = none)
    (hClose : Bracket.ofClose? d = none) : unbracket c = d ↔ c = d := by
  unfold unbracket
  split
  · next hBracket =>
    constructor
    · intro h
      exact absurd h.symm hSpace
    · rintro rfl
      simp [hOpen, hClose] at hBracket
  · exact Iff.rfl

/-- A quote is none of the brackets, so it is a quote before and after. -/
theorem unbracket_eq_quote (q : Quote) (c : Char) : unbracket c = q.char ↔ c = q.char := by
  cases q <;> exact unbracket_eq_iff (by decide) rfl rfl

theorem unbracket_eq_backslash (c : Char) : unbracket c = '\\' ↔ c = '\\' :=
  unbracket_eq_iff (by decide) rfl rfl

/-- Whether three quotes stand in a row does not depend on brackets. Two of them
are looked for, behind the first one. -/
theorem isPrefixOf_map_unbracket (q : Quote) (text : List Char) :
    [q.char, q.char].isPrefixOf (text.map unbracket) = [q.char, q.char].isPrefixOf text := by
  have hQuote (c : Char) : (q.char == unbracket c) = (q.char == c) := by
    rw [Bool.eq_iff_iff, beq_iff_eq, beq_iff_eq, eq_comm, unbracket_eq_quote, eq_comm]
  rcases text with _ | ⟨a, _ | ⟨b, rest⟩⟩
  · rfl
  · simp [List.isPrefixOf]
  · simp [List.isPrefixOf, hQuote]

namespace Literal

/-- The patterns of `Literal.close` put a backslash at the end and one in front
of a character into cases of their own. What is left over is no backslash. -/
theorem ne_backslash {c : Char} {rest : List Char} (hLast : c = '\\' → rest = [] → False)
    (hEscape : ∀ d more, c = '\\' → rest = d :: more → False) : c ≠ '\\' := by
  intro hc
  cases rest with
  | nil => exact hLast hc rfl
  | cons d more => exact hEscape d more hc rfl

/-- A character that is no backslash ends a literal, begins its end or is passed
over. -/
theorem close_cons (lit : Literal) {c : Char} (h : c ≠ '\\') (rest : List Char) :
    lit.close (c :: rest) =
      if c = lit.quote.char then
        if lit.triple then
          if [c, c].isPrefixOf rest then .closed (rest.drop 2) else lit.close rest
        else .closed rest
      else lit.close rest := by
  rw [close]
  · intro hLast
    exact absurd hLast h
  · intro d tail hEscape
    exact absurd hEscape h

/-- What follows a literal with brackets blanked out. -/
def End.unbracket : End → End
  | closed rest => closed (rest.map Statement.unbracket)
  | carried => carried
  | unterminated => unterminated

/-- Brackets have no say in where a literal ends. Blanking them out touches
neither quotes nor backslashes, which are all that the search looks at. -/
theorem close_map_unbracket (lit : Literal) (text : List Char) :
    lit.close (text.map Statement.unbracket) = (lit.close text).unbracket := by
  have hBackslash : lit.quote.char ≠ '\\' := Reading.quote_ne_backslash lit.quote
  have hQuote : Statement.unbracket lit.quote.char = lit.quote.char :=
    (unbracket_eq_quote lit.quote _).mpr rfl
  -- the cases are those of the reader: the end of the line, a backslash, three
  -- quotes, one quote, and the rest
  fun_induction close lit text with
  | case1 hTriple => simp [close, hTriple, End.unbracket]
  | case2 hTriple => simp [close, hTriple, End.unbracket]
  | case3 => rfl
  | case4 d rest ih =>
    rw [← ih]
    rfl
  | case5 rest hTriple _ _ hThree =>
    rw [List.map_cons, hQuote, close_cons lit hBackslash, if_pos rfl, if_pos hTriple,
      isPrefixOf_map_unbracket, if_pos hThree, ← List.map_drop]
    rfl
  | case6 rest hTriple _ _ hThree ih =>
    rw [List.map_cons, hQuote, close_cons lit hBackslash, if_pos rfl, if_pos hTriple,
      isPrefixOf_map_unbracket, if_neg hThree, ih]
  | case7 rest hTriple =>
    rw [List.map_cons, hQuote, close_cons lit hBackslash, if_pos rfl, if_neg hTriple]
    rfl
  | case8 c rest hLast hEscape hOther ih =>
    have hPlain : c ≠ '\\' := ne_backslash hLast hEscape
    rw [List.map_cons, close_cons lit (mt (unbracket_eq_backslash c).mp hPlain),
      if_neg (mt (unbracket_eq_quote _ c).mp hOther), ih]

end Literal

/-! ## Blanks and a comment -/

/-- Blanks and a comment. -/
def IsTrailer (tail : List Char) : Prop :=
  ∃ blanks comment, tail = blanks ++ '#' :: comment ∧ ∀ c ∈ blanks, isGap c = true

/-- The characters that blanks and a comment may start with. -/
def trailerStarts : List Char :=
  [' ', '\t', '\x0c', '#']

theorem mem_trailerStarts_of_isGap {c : Char} (h : isGap c = true) : c ∈ trailerStarts := by
  rcases eq_of_isGap h with rfl | rfl | rfl <;> decide

/-- A comment has its sign, so blanks and a comment are never nothing. -/
theorem IsTrailer.exists_cons {tail : List Char} (h : IsTrailer tail) :
    ∃ c rest, tail = c :: rest ∧ c ∈ trailerStarts := by
  obtain ⟨blanks, comment, rfl, hBlanks⟩ := h
  cases blanks with
  | nil => exact ⟨'#', comment, rfl, by decide⟩
  | cons c rest => exact ⟨c, _, rfl, mem_trailerStarts_of_isGap (hBlanks c List.mem_cons_self)⟩

/-- Blanks and a comment hold no lexeme. -/
theorem IsTrailer.lexemes_eq {tail : List Char} (h : IsTrailer tail) (line : Nat) :
    lexemes line tail = [] := by
  obtain ⟨blanks, comment, rfl, hBlanks⟩ := h
  induction blanks with
  | nil => exact lexemes_comment line comment
  | cons c rest ih =>
    rw [List.cons_append, lexemes_gap (hBlanks c List.mem_cons_self)]
    exact ih fun d hd => hBlanks d (List.mem_cons_of_mem c hd)

variable {tail : List Char}

/-- A property of characters that begins no blank and no comment stops at
them. -/
theorem IsTrailer.head_not {p : Char → Bool} (hTail : IsTrailer tail)
    (hp : trailerStarts.any p = false) : ∃ d rest, tail = d :: rest ∧ p d = false := by
  obtain ⟨d, rest, rfl, hStart⟩ := hTail.exists_cons
  have hd := List.any_eq_false.mp hp d hStart
  exact ⟨d, rest, rfl, by simpa using hd⟩

/-- A run of characters that blanks and comments cannot start with ends in front
of them. -/
theorem IsTrailer.takeWhile_append {p : Char → Bool} (hTail : IsTrailer tail)
    (hp : trailerStarts.any p = false) (text : List Char) :
    (text ++ tail).takeWhile p = text.takeWhile p := by
  obtain ⟨d, rest, rfl, hd⟩ := hTail.head_not hp
  induction text with
  | nil => simp [hd]
  | cons c text ih => rw [List.cons_append, List.takeWhile_cons, List.takeWhile_cons, ih]

/-- What is left behind a run of characters keeps the comment behind it. This is
what makes the readers of words, numbers and operators independent of it. -/
theorem IsTrailer.dropWhile_append {p : Char → Bool} (hTail : IsTrailer tail)
    (hp : trailerStarts.any p = false) (text : List Char) :
    (text ++ tail).dropWhile p = text.dropWhile p ++ tail := by
  obtain ⟨d, rest, rfl, hd⟩ := hTail.head_not hp
  induction text with
  | nil => simp [hd]
  | cons c text ih =>
    rw [List.cons_append, List.dropWhile_cons, List.dropWhile_cons]
    split
    · exact ih
    · rfl

/-- Three quotes in a row do not reach into blanks and a comment. -/
theorem IsTrailer.isPrefixOf_append (hTail : IsTrailer tail) (q : Quote) (text : List Char) :
    [q.char, q.char].isPrefixOf (text ++ tail) = [q.char, q.char].isPrefixOf text := by
  obtain ⟨d, rest, rfl, hd⟩ := hTail.head_not (p := (q.char == ·)) (by cases q <;> decide)
  rcases text with _ | ⟨a, _ | ⟨b, more⟩⟩
  · simp [List.isPrefixOf, hd]
  · simp [List.isPrefixOf, hd]
  · rfl

/-- What stands behind the end of a literal does not change where it ends. A
trailer does not even complete a triple quote that the text has begun. -/
theorem Literal.close_append (hTail : IsTrailer tail) {lit : Literal} {text rest : List Char}
    (h : lit.close text = .closed rest) : lit.close (text ++ tail) = .closed (rest ++ tail) := by
  have hBackslash : lit.quote.char ≠ '\\' := Reading.quote_ne_backslash lit.quote
  -- a literal that is not closed in the text is no case of ours, which settles
  -- the first three
  fun_induction close lit text with
  | case1 | case2 | case3 => cases h
  | case4 d text ih =>
    rw [← ih h]
    rfl
  | case5 text hTriple _ _ hThree =>
    obtain rfl := End.closed.inj h
    rw [List.cons_append, close_cons lit hBackslash, if_pos rfl, if_pos hTriple,
      hTail.isPrefixOf_append, if_pos hThree]
    -- both quotes stand in front of what is put behind
    obtain ⟨more, rfl⟩ := List.isPrefixOf_iff_prefix.mp hThree
    rfl
  | case6 text hTriple _ _ hThree ih =>
    rw [List.cons_append, close_cons lit hBackslash, if_pos rfl, if_pos hTriple,
      hTail.isPrefixOf_append, if_neg hThree, ih h]
  | case7 text hTriple =>
    obtain rfl := End.closed.inj h
    rw [List.cons_append, close_cons lit hBackslash, if_pos rfl, if_neg hTriple]
  | case8 c text hLast hEscape hOther ih =>
    have hPlain : c ≠ '\\' := ne_backslash hLast hEscape
    rw [List.cons_append, close_cons lit hPlain, if_neg hOther, ih h]

/-! ## Text that ends outside -/

/-- A character that no reading looks at may be taken off. -/
theorem Outside.of_cons {c : Char} {rest : List Char} (hc : unbracket c ∉ Reading.marks)
    (h : Outside (c :: rest)) : Outside rest := by
  unfold Outside at h ⊢
  rwa [List.map_cons, Reading.readLine_of_not_mem hc] at h

/-- Blanking out brackets makes no mark of a character that is none. -/
theorem unbracket_not_mem_marks {c : Char} (hc : c ∉ Reading.marks) :
    unbracket c ∉ Reading.marks := by
  unfold unbracket
  split
  · decide
  · exact hc

/-- A character of a kind that no mark is of may be taken off. -/
theorem Outside.behind {p : Char → Bool} (hp : Reading.marks.any p = false) {c : Char} {rest : List Char}
    (hc : p c = true) (h : Outside (c :: rest)) : Outside rest := by
  have hMark : c ∉ Reading.marks := fun hMem => List.any_eq_false.mp hp c hMem hc
  exact h.of_cons (unbracket_not_mem_marks hMark)

/-- Whole runs of such characters may be taken off. -/
theorem Outside.dropWhile {p : Char → Bool} (hp : Reading.marks.any p = false) {text : List Char}
    (h : Outside text) : Outside (text.dropWhile p) := by
  induction text with
  | nil => exact h
  | cons c rest ih =>
    rw [List.dropWhile_cons]
    split
    · next hc => exact ih (h.behind hp hc)
    · exact h

/-- A literal in text that ends outside ends, and so does what follows it. -/
theorem Outside.exists_closed (lit : Literal) {text : List Char}
    (h : Reading.readLine [] (some (lit.quote, lit.triple)) 0 (text.map unbracket) = some {}) :
    ∃ rest, lit.close text = .closed rest ∧ Outside rest := by
  rw [Reading.readLine_literal, Literal.close_map_unbracket] at h
  -- a literal that goes on, or is refused, would not leave the line outside
  cases hClose : lit.close text with
  | closed rest =>
    rw [hClose] at h
    exact ⟨rest, rfl, h⟩
  | carried =>
    rw [hClose] at h
    cases h
  | unterminated =>
    rw [hClose] at h
    cases h

/-! ## Lexemes with a comment behind them -/

namespace Lexeme

/-- What is read of a text with a comment behind it is what is read of the text,
and either the comment is left behind all else or nothing is left at all. -/
def Undisturbed (tail : List Char) (found found' : Lexeme × List Char) : Prop :=
  (found' = (found.1, found.2 ++ tail) ∧ Outside found.2) ∨ found' = found

variable {line : Nat} {rest : List Char}

/-- A literal that ends on its line ends where it did. Where the text ends
outside, its quotes are matched in the text, and the comment stands behind
whatever follows the literal. -/
theorem undisturbed_readLiteral (hTail : IsTrailer tail) {q : Quote}
    (h : Outside (q.char :: rest)) :
    Undisturbed tail (readLiteral line q rest) (readLiteral line q (rest ++ tail)) := by
  unfold readLiteral
  rw [hTail.isPrefixOf_append]
  dsimp only
  generalize hTriple : [q.char, q.char].isPrefixOf rest = triple
  have hQuote : unbracket q.char = q.char := (unbracket_eq_quote q _).mpr rfl
  have hText : Reading.readLine [] (some (q, triple)) 0
      ((if triple then rest.drop 2 else rest).map unbracket) = some {} := by
    unfold Outside at h
    rw [List.map_cons, hQuote, Reading.readLine_quote, isPrefixOf_map_unbracket, hTriple] at h
    cases triple with
    | false => exact h
    | true => rwa [← List.map_drop] at h
  -- the automaton closes the literal within the text, and so does the reader
  obtain ⟨rest', hClose, hOutside⟩ := Outside.exists_closed ⟨q, triple, line⟩ hText
  -- behind a triple quote two characters are dropped, which are in the text
  have hAppend : (if triple then (rest ++ tail).drop 2 else rest ++ tail) =
      (if triple then rest.drop 2 else rest) ++ tail := by
    cases triple with
    | false => rfl
    | true =>
      obtain ⟨more, rfl⟩ := List.isPrefixOf_iff_prefix.mp hTriple
      rfl
  rw [hAppend, Literal.close_append hTail hClose, hClose]
  exact .inl ⟨rfl, hOutside⟩

/-- A word ends where it did, since no blank and no comment sign goes on with
it. Only where it was the last of the text is there something new behind it, and
that is no quote, so that the word does not become the prefix of a literal. -/
theorem undisturbed_readWord (hTail : IsTrailer tail) {c : Char} (h : Outside rest) :
    Undisturbed tail (readWord line c rest) (readWord line c (rest ++ tail)) := by
  have hp : trailerStarts.any continuesWord = false := by decide +kernel
  have hOutside := h.dropWhile any_marks_continuesWord
  unfold readWord
  rw [hTail.takeWhile_append hp, hTail.dropWhile_append hp]
  dsimp only
  cases hEnd : rest.dropWhile continuesWord with
  | nil =>
    -- what follows the word now is no quote
    obtain ⟨d, rest', rfl, hd⟩ := hTail.head_not (p := fun d => (Quote.ofChar? d).isSome) (by decide)
    simp only [Option.isSome_eq_false_iff, Option.isNone_iff_eq_none] at hd
    dsimp only [List.nil_append]
    rw [hd]
    exact .inl ⟨rfl, outside_nil⟩
  | cons d rest' =>
    rw [hEnd] at hOutside
    dsimp only [List.cons_append]
    cases hQuote : Quote.ofChar? d with
    | none => exact .inl ⟨rfl, hOutside⟩
    | some q =>
      dsimp only
      -- a prefix of a literal, whose literal is undisturbed, or a word with a
      -- literal behind it
      split
      · rw [quote_of_ofChar? hQuote] at hOutside
        exact undisturbed_readLiteral hTail hOutside
      · exact .inl ⟨rfl, hOutside⟩

/-- A point that no two points follow is the start of a number or an
operator. -/
theorem readPoint_cons {d : Char} {rest : List Char} (h : d = '.' → rest.head? ≠ some '.') :
    readPoint (d :: rest) =
      if d.isDigit then (value, rest.dropWhile continuesNumber) else (operator false, d :: rest) := by
  unfold readPoint
  split
  · next hPoints =>
    obtain ⟨rfl, rfl⟩ := List.cons.inj hPoints
    exact absurd rfl (h rfl)
  · next hCons =>
    obtain ⟨rfl, rfl⟩ := List.cons.inj hCons
    rfl
  · next hNil => cases hNil

/-- A point is read as it was: neither the second and third point of an ellipsis
nor a digit can come from a comment. -/
theorem undisturbed_readPoint (hTail : IsTrailer tail) (h : Outside rest) :
    Undisturbed tail (readPoint rest) (readPoint (rest ++ tail)) := by
  have hNumber : trailerStarts.any continuesNumber = false := by decide +kernel
  obtain ⟨e, more, hTailEq, he⟩ := hTail.head_not (p := fun d => d == '.' || d.isDigit) (by decide)
  simp only [Bool.or_eq_false_iff, beq_eq_false_iff_ne, ne_eq] at he
  rcases rest with _ | ⟨d, rest⟩
  · -- what follows the point now is neither another point nor a digit
    rw [List.nil_append, hTailEq, readPoint_cons (fun hPoint => absurd hPoint he.1),
      if_neg (by simp [he.2])]
    exact .inl ⟨rfl, outside_nil⟩
  by_cases hPoints : d = '.' ∧ rest.head? = some '.'
  · obtain ⟨rfl, hHead⟩ := hPoints
    obtain ⟨rest, rfl⟩ : ∃ rest', rest = '.' :: rest' := List.head?_eq_some_iff.mp hHead
    have hPoint : unbracket '.' ∉ Reading.marks := by decide
    exact .inl ⟨rfl, (h.of_cons hPoint).of_cons hPoint⟩
  rw [not_and] at hPoints
  -- the point behind the next one does not come from the comment either
  have hBehind : d = '.' → (rest ++ tail).head? ≠ some '.' := by
    intro hd
    cases rest with
    | nil => simpa [hTailEq] using he.1
    | cons a rest => exact hPoints hd
  rw [List.cons_append, readPoint_cons hPoints, readPoint_cons hBehind, hTail.dropWhile_append hNumber]
  split
  · next hDigit =>
    have hRest := h.behind (p := Char.isDigit) (by decide) hDigit
    exact .inl ⟨rfl, hRest.dropWhile any_marks_continuesNumber⟩
  · exact .inl ⟨rfl, h⟩

/-- A colon is read as it was, since no comment begins with the sign that would
make an operator of it. -/
theorem undisturbed_readColon (hTail : IsTrailer tail) (h : Outside rest) :
    Undisturbed tail (readColon rest) (readColon (rest ++ tail)) := by
  obtain ⟨e, more, rfl, he⟩ := hTail.head_not (p := (· == '=')) (by decide)
  -- a colon with no equals sign behind it is read alone
  have hAlone {d : Char} (hd : d ≠ '=') (text : List Char) : readColon (d :: text) = (colon, d :: text) := by
    unfold readColon
    split
    · next hCons => exact absurd (List.cons.inj hCons).1 hd
    · rfl
  rcases rest with _ | ⟨d, rest⟩
  · rw [List.nil_append, hAlone (by simpa using he)]
    exact .inl ⟨rfl, outside_nil⟩
  by_cases hd : d = '='
  · subst hd
    exact .inl ⟨rfl, h.of_cons (by decide)⟩
  · rw [List.cons_append, hAlone hd, hAlone hd]
    exact .inl ⟨rfl, h⟩

/-- Text that ends outside does not end in a backslash, so a backslash in it has
a character behind it and is refused as before. -/
theorem undisturbed_readBackslash (h : Outside ('\\' :: rest)) (tail : List Char) :
    Undisturbed tail (readBackslash rest) (readBackslash (rest ++ tail)) := by
  cases rest with
  | nil => cases h
  | cons d rest => exact .inr rfl

/-- Every other lexeme is read as it was, in the order of the reader's tests.
Each of them goes on as far as certain characters do, and no trailer begins with
one of these. -/
theorem undisturbed_readPlain (hTail : IsTrailer tail) {c : Char}
    (hMarks : c ≠ '\\' → c ∉ Reading.marks) (h : Outside (c :: rest)) :
    Undisturbed tail (readPlain line c rest) (readPlain line c (rest ++ tail)) := by
  unfold readPlain
  -- a backslash is the one mark that may begin a lexeme here, so it comes first
  by_cases hBackslash : c = '\\'
  · subst hBackslash
    rw [if_pos rfl, if_pos rfl]
    exact undisturbed_readBackslash h tail
  have hRest : Outside rest := h.of_cons (unbracket_not_mem_marks (hMarks hBackslash))
  -- nothing that goes on with an operator or a number begins a comment
  have hOperator : trailerStarts.any isOperatorSign = false := by decide
  have hNumber : trailerStarts.any continuesNumber = false := by decide +kernel
  rw [if_neg hBackslash, if_neg hBackslash]
  -- both texts start with the same character
  split
  · exact undisturbed_readColon hTail hRest
  split
  · exact .inl ⟨rfl, hRest⟩
  split
  · exact undisturbed_readPoint hTail hRest
  split
  · rw [hTail.dropWhile_append hNumber]
    exact .inl ⟨rfl, hRest.dropWhile any_marks_continuesNumber⟩
  split
  · exact undisturbed_readWord hTail hRest
  split
  · unfold readOperator
    rw [hTail.takeWhile_append hOperator, hTail.dropWhile_append hOperator]
    exact .inl ⟨rfl, hRest.dropWhile any_marks_isOperatorSign⟩
  split
  · exact .inr rfl
  · exact .inr rfl

/-- A lexeme of text that ends outside is read as before with a comment behind
the text. -/
theorem undisturbed_read (hTail : IsTrailer tail) (line : Nat) {c : Char} (hComment : c ≠ '#')
    (h : Outside (c :: rest)) :
    Undisturbed tail (read line c rest) (read line c (rest ++ tail)) := by
  unfold read
  split
  · next hQuote =>
    -- a quote, where the literal may not reach into the comment
    rw [quote_of_ofChar? hQuote] at h
    exact undisturbed_readLiteral hTail h
  -- a bracket is a lexeme of its own, and blanked out it is no mark
  · next hOpen _ =>
    refine .inl ⟨rfl, h.of_cons ?_⟩
    rw [bracket_of_ofOpen? hOpen, unbracket_openChar]
    decide
  · next hClose _ _ =>
    refine .inl ⟨rfl, h.of_cons ?_⟩
    rw [bracket_of_ofClose? hClose, unbracket_closeChar]
    decide
  · next hQuote hOpen hClose =>
    refine undisturbed_readPlain hTail (fun hBackslash => ?_) h
    exact not_mem_marks hComment hBackslash (Option.eq_none_iff_forall_ne_some.mpr hQuote)
      (Option.eq_none_iff_forall_ne_some.mpr hOpen) (Option.eq_none_iff_forall_ne_some.mpr hClose)

end Lexeme

/-- A comment behind text that ends outside holds no lexeme. -/
theorem lexemes_trailer (hTail : IsTrailer tail) (line : Nat) {text : List Char} (h : Outside text) :
    lexemes line (text ++ tail) = lexemes line text := by
  fun_induction lexemes line text with
  | case1 => exact hTail.lexemes_eq line
  | case2 c rest hGap ih =>
    rw [List.cons_append, lexemes_gap hGap]
    exact ih (h.behind Scanner.any_marks_isGap hGap)
  | case3 rest => exact lexemes_comment line _
  | case4 c rest hGap hComment ih =>
    rw [List.cons_append, lexemes_cons (by simpa using hGap) hComment]
    rcases Lexeme.undisturbed_read hTail line hComment h with ⟨hFound, hLeft⟩ | hFound
    · rw [hFound, ih hLeft]
    · rw [hFound]

/-! ## Lines with a comment behind one of them -/

namespace Scanner

/-- Behind code, the width of a line's blanks is what it was, and the code is
longer by what has been put behind it. -/
theorem indentation_append {text : List Char} (h : text.dropWhile isGap ≠ []) (tail : List Char) :
    indentation (text ++ tail) = ((indentation text).1, (indentation text).2 ++ tail) := by
  unfold indentation
  generalize 0 = width
  fun_induction indentationFrom width text with
  | case1 width rest ih | case2 width rest ih | case3 width rest ih =>
    -- a gap counts for the same in both
    rw [List.dropWhile_cons_of_pos (by decide)] at h
    rw [List.cons_append, indentationFrom, ih h]
  | case4 width text hSpace hTab hFeed =>
    -- the first character that is no gap stands in the text, so the count ends
    -- there
    cases text with
    | nil => exact absurd rfl h
    | cons c rest =>
      rw [List.cons_append, indentationFrom]
      · intro rest' hCons
        exact hSpace rest (by rw [(List.cons.inj hCons).1])
      · intro rest' hCons
        exact hTab rest (by rw [(List.cons.inj hCons).1])
      · intro rest' hCons
        exact hFeed rest (by rw [(List.cons.inj hCons).1])

/-- A comment behind the code of a line leaves no trace. The line may begin a
logical line, go on with one, or begin within a literal that ends on it. -/
theorem absorbLine_trailer (hTail : IsTrailer tail) {s : Scanner} {text : List Char}
    (hBefore : s.AtLineEnd) (hEnds : s.view.EndsInCode text) (hCode : text.dropWhile isGap ≠ [])
    (line : Nat) : s.absorbLine line (text ++ tail) = s.absorbLine line text := by
  unfold Reading.EndsInCode at hEnds
  unfold absorbLine
  cases hLogical : s.logical with
  | none =>
    -- where no logical line goes on, the line starts outside
    have hOpen : s.isOpen = false := by
      rw [← hBefore, hLogical]
      rfl
    have hOutside : Outside text := by
      rwa [show s.view.literal = none by simp [view, literal_of_isOpen_eq_false hOpen]] at hEnds
    have hRest := hOutside.dropWhile any_marks_isGap
    rw [← indentation_snd] at hRest hCode
    rw [indentation_append (by rwa [← indentation_snd])]
    dsimp only
    -- the line has code, so it is not idle, with or without the comment
    have hIdle : isIdle ((indentation text).2 ++ tail) = isIdle (indentation text).2 := by
      obtain ⟨c, rest, hCons⟩ := List.exists_cons_of_ne_nil hCode
      rw [hCons]
      rfl
    rw [hIdle, absorbCode, absorbCode, lexemes_trailer hTail line hRest]
  | some l =>
    dsimp only
    cases hLiteral : s.literal with
    | none =>
      have hOutside : Outside text := by
        rwa [show s.view.literal = none by simp [view, hLiteral]] at hEnds
      dsimp only
      rw [absorbCode, absorbCode, lexemes_trailer hTail line hOutside]
    | some lit =>
      rw [show s.view.literal = some (lit.quote, lit.triple) by simp [view, hLiteral]] at hEnds
      -- the literal ends in the text, and what follows it is outside
      obtain ⟨rest, hClose, hOutside⟩ := Outside.exists_closed lit hEnds
      dsimp only
      rw [Literal.close_append hTail hClose, hClose]
      dsimp only
      rw [absorbCode, absorbCode, lexemes_trailer hTail line hOutside]

end Scanner

/-- A line with a comment is not blank. -/
theorem IsTrailer.isBlankText_append (hTail : IsTrailer tail) (text : List Char) :
    Blank.isBlankText (text ++ tail) = false := by
  obtain ⟨blanks, comment, rfl, -⟩ := hTail
  have hSign : Blank.isBlank '#' = false := by decide
  simp [Blank.isBlankText, hSign]

/-- A line that is not blank has code or a comment behind its blanks. -/
theorem dropWhile_isGap_ne_nil {text : List Char} (h : Blank.isBlankText text = false) :
    text.dropWhile isGap ≠ [] := by
  intro hNil
  have hBlanks : ∀ c ∈ text, Blank.isBlank c = true := by
    intro c hc
    have hAll : text.takeWhile isGap = text := by
      have hParts := List.takeWhile_append_dropWhile (p := isGap) (l := text)
      rwa [hNil, List.append_nil] at hParts
    rw [← hAll] at hc
    have hGap := List.all_eq_true.mp List.all_takeWhile c hc
    rcases eq_of_isGap hGap with rfl | rfl | rfl <;> decide
  rw [Blank.isBlankText, List.all_eq_true.mpr hBlanks] at h
  cases h

/-- **A comment behind a line.** Where a line that is not blank ends in code or
in a comment, a comment put behind it leaves the verdict alone. -/
theorem classifyLines_trailer (hTail : IsTrailer tail) {before after : List (List Char)}
    {text : List Char} (hText : Blank.isBlankText text = false)
    (hEnds : ∀ r, before.foldlM Reading.next {} = some r → r.EndsInCode text) (mode : Mode) :
    classifyLines mode (before ++ (text ++ tail) :: after) =
      classifyLines mode (before ++ text :: after) := by
  have hScan : Scanner.scanLines mode {} 1 (before ++ (text ++ tail) :: after) =
      Scanner.scanLines mode {} 1 (before ++ text :: after) := by
    rw [Scanner.scanLines_append, Scanner.scanLines_append]
    cases hBefore : Scanner.scanLines mode {} 1 before with
    | error e => rfl
    | ok s =>
      -- what has been read up to here is what the condition speaks of
      have hView := hEnds _ (Scanner.scanLines_reads Scanner.atLineEnd_start hBefore)
      have hEnd := Scanner.scanLines_atLineEnd Scanner.atLineEnd_start hBefore
      have hLine := Scanner.absorbLine_trailer hTail hEnd hView (dropWhile_isGap_ne_nil hText)
      show s.scanLines mode _ _ = s.scanLines mode _ _
      rw [Scanner.scanLines, Scanner.scanLines, Scanner.scanLine_eq, Scanner.scanLine_eq, hLine]
  -- the comment stands on a line that is not blank, so it matters to no blank
  -- line at the end
  have hBlank : endsBlank (before ++ (text ++ tail) :: after) =
      endsBlank (before ++ text :: after) := by
    unfold endsBlank
    cases after with
    | nil => simp [hText, hTail.isBlankText_append]
    | cons last rest => simp
  unfold classifyLines
  rw [hScan, hBlank, List.length_append, List.length_append, List.length_cons, List.length_cons]

end RemoteConsole.Statement
