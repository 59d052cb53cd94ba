import RemoteConsole.Proofs.Statement.PhysicalLine

/-!
# A reading of brackets, literals and backslashes

Which brackets and which literal are open can be read off a text character by
character, without words, numbers, indentation or blocks. In code a number sign
starts a comment to the end of the line, a quote opens a literal, and a
backslash at the end of the line continues it. In a literal a backslash takes
the next character with it, or carries the literal over the end of the line. The
reading stops at a closing bracket without its partner, and at a line end that a
literal does not survive.

* `Reading` — what is open at the end of a line.
* `Reading.readLine`, `Reading.next`, `reading` — the reading of a line and of a
  text.
* `Reading.readLine_literal` — an open literal meets a line as the scanner says.
* `Reading.readLine_dropWhile` — characters that are no marks are passed over.
-/

namespace RemoteConsole.Statement

/-- What is open at the end of a line. -/
structure Reading where
  /-- The open brackets, innermost first. -/
  brackets : List Bracket := []
  /-- The open literal: its quote, and whether three of them end it. -/
  literal : Option (Quote × Bool) := none
  /-- Whether the line ends in code with a backslash. -/
  continued : Bool := false
  deriving DecidableEq, Repr

namespace Reading

/-- Whether the next line goes on with something that is open. -/
def isOpen (r : Reading) : Bool :=
  r.literal.isSome || r.continued || !r.brackets.isEmpty

/-- The reading of a line with some brackets and perhaps a literal open, of
which the first `skip` characters have been looked at before. There is none when
a closing bracket has no partner or the line ends within a literal that it
should not end in. -/
def readLine (brackets : List Bracket) (literal : Option (Quote × Bool)) (skip : Nat) :
    List Char → Option Reading
  | [] => if literal.all (·.2) then some ⟨brackets, literal, false⟩ else none
  | c :: rest =>
    match skip, literal with
    | skip + 1, _ => readLine brackets literal skip rest
    | 0, none =>
      if c = '#' then some ⟨brackets, none, false⟩
      else if c = '\\' ∧ rest = [] then some ⟨brackets, none, true⟩
      else
        match Quote.ofChar? c, Bracket.ofOpen? c, Bracket.ofClose? c with
        | some q, _, _ =>
          if [c, c].isPrefixOf rest then readLine brackets (some (q, true)) 2 rest
          else readLine brackets (some (q, false)) 0 rest
        | _, some b, _ => readLine (b :: brackets) none 0 rest
        | _, _, some b =>
          match brackets with
          | inner :: outer => if inner = b then readLine outer none 0 rest else none
          | [] => none
        | _, _, _ => readLine brackets none 0 rest
    | 0, some (q, triple) =>
      if c = '\\' then
        if rest = [] then some ⟨brackets, literal, false⟩ else readLine brackets literal 1 rest
      else if c = q.char then
        if triple then
          if [c, c].isPrefixOf rest then readLine brackets none 2 rest
          else readLine brackets literal 0 rest
        else readLine brackets none 0 rest
      else readLine brackets literal 0 rest

/-- The reading of one more line. -/
def next (r : Reading) (line : List Char) : Option Reading :=
  readLine r.brackets r.literal 0 line

end Reading

/-- The reading of a text. -/
def reading (text : List Char) : Option Reading :=
  (physical text).foldlM Reading.next {}

namespace Reading

/-- Characters that have been looked at before are passed over. -/
theorem readLine_skip (brackets : List Bracket) (literal : Option (Quote × Bool)) (skip : Nat)
    (text : List Char) :
    readLine brackets literal skip text = readLine brackets literal 0 (text.drop skip) := by
  induction text generalizing skip with
  | nil => rw [List.drop_nil, readLine, readLine]
  | cons c rest ih =>
    cases skip with
    | zero => rfl
    | succ skip => rw [readLine, List.drop_succ_cons, ih]

/-! ## Literals -/

theorem quote_ne_backslash (q : Quote) : q.char ≠ '\\' := by
  cases q <;> decide

/-- An open literal meets a line as the scanner says. The reading goes on behind
the end of the literal if that is on the line, carries the literal over, or
fails where the scanner finds it unterminated. -/
theorem readLine_literal (brackets : List Bracket) (lit : Literal) (text : List Char) :
    readLine brackets (some (lit.quote, lit.triple)) 0 text =
      match lit.close text with
      | .closed rest => readLine brackets none 0 rest
      | .carried => some ⟨brackets, some (lit.quote, lit.triple), false⟩
      | .unterminated => none := by
  -- the cases are those of the scanner: the end of the line, escapes, and
  -- quotes
  fun_induction Literal.close lit text with
  | case1 hTriple => simp [readLine, hTriple]
  | case2 hTriple => simp [readLine, hTriple]
  | case3 => simp [readLine]
  -- a backslash takes the next character with it
  | case4 d rest ih =>
    rw [← ih, readLine, if_pos rfl, if_neg (by simp), readLine_skip]
    rfl
  | case5 rest hTriple _ _ hThree =>
    rw [readLine, if_neg (quote_ne_backslash _), if_pos rfl, if_pos hTriple, if_pos hThree,
      readLine_skip]
  | case6 rest hTriple _ _ hThree ih =>
    rw [← ih, readLine, if_neg (quote_ne_backslash _), if_pos rfl, if_pos hTriple, if_neg hThree]
  | case7 rest hTriple =>
    rw [readLine, if_neg (quote_ne_backslash _), if_pos rfl, if_neg hTriple]
  | case8 c rest hLast hEscape hQuote ih =>
    -- a backslash would have been one of the cases before
    have hBackslash : c ≠ '\\' := by
      intro h
      cases rest with
      | nil => exact hLast h rfl
      | cons d rest => exact hEscape d rest h rfl
    rw [← ih, readLine, if_neg hBackslash, if_neg hQuote]

/-! ## Code -/

/-- The characters that mean something to the reading of code. -/
def marks : List Char :=
  ['#', '\\', '\'', '"', '(', ')', '[', ']', '{', '}']

/-- A character that is no mark is passed over. -/
theorem readLine_of_not_mem {c : Char} (h : c ∉ marks) (brackets : List Bracket)
    (rest : List Char) : readLine brackets none 0 (c :: rest) = readLine brackets none 0 rest := by
  simp only [marks, List.mem_cons, List.not_mem_nil, or_false, not_or] at h
  obtain ⟨hComment, hBackslash, hSingle, hDouble, hMarks⟩ := h
  -- it starts no literal, and it is neither an opening nor a closing bracket
  have hQuote : Quote.ofChar? c = none := by
    unfold Quote.ofChar?
    split
    · exact absurd rfl hSingle
    · exact absurd rfl hDouble
    · rfl
  have hOpen : Bracket.ofOpen? c = none := by
    simp [Bracket.ofOpen?, hMarks]
  have hClose : Bracket.ofClose? c = none := by
    simp [Bracket.ofClose?, hMarks]
  rw [readLine, if_neg hComment, if_neg (by simp [hBackslash]), hQuote, hOpen, hClose]

/-- A run of characters that are no marks is passed over. -/
theorem readLine_dropWhile {p : Char → Bool} (h : marks.any p = false)
    (brackets : List Bracket) (text : List Char) :
    readLine brackets none 0 (text.dropWhile p) = readLine brackets none 0 text := by
  induction text with
  | nil => rfl
  | cons c rest ih =>
    rw [List.dropWhile_cons]
    split
    · next hc =>
      have hMark : c ∉ marks := fun hMem => List.any_eq_false.mp h c hMem hc
      rw [readLine_of_not_mem hMark, ih]
    · rfl

theorem readLine_comment (brackets : List Bracket) (rest : List Char) :
    readLine brackets none 0 ('#' :: rest) = some ⟨brackets, none, false⟩ := by
  rw [readLine, if_pos rfl]

theorem readLine_backslash (brackets : List Bracket) :
    readLine brackets none 0 ['\\'] = some ⟨brackets, none, true⟩ := by
  rw [readLine, if_neg (by decide), if_pos ⟨rfl, rfl⟩]

/-- A quote opens a literal, a triple-quoted one when two equal quotes
follow. -/
theorem readLine_quote (brackets : List Bracket) (q : Quote) (rest : List Char) :
    readLine brackets none 0 (q.char :: rest) =
      if [q.char, q.char].isPrefixOf rest then
        readLine brackets (some (q, true)) 0 (rest.drop 2)
      else readLine brackets (some (q, false)) 0 rest := by
  have hQuote : Quote.ofChar? q.char = some q := by
    cases q <;> rfl
  have hComment : q.char ≠ '#' := by
    cases q <;> decide
  rw [readLine, if_neg hComment, if_neg (by simp [quote_ne_backslash]), hQuote]
  dsimp only
  rw [readLine_skip]

theorem readLine_open (brackets : List Bracket) (b : Bracket) (rest : List Char) :
    readLine brackets none 0 (b.openChar :: rest) = readLine (b :: brackets) none 0 rest := by
  cases b <;> rfl

theorem readLine_close (outer : List Bracket) (b : Bracket) (rest : List Char) :
    readLine (b :: outer) none 0 (b.closeChar :: rest) = readLine outer none 0 rest := by
  cases b <;> rfl

end Reading

end RemoteConsole.Statement
