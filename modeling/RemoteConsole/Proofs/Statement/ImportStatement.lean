import RemoteConsole.Proofs.Statement.Continuation

/-!
# Import statements

The scanner refuses a line that stops at an operator, and it knows a sign by its
looks alone. So it refuses `from m import *`, the one import statement whose
last sign is used as an operator elsewhere, and takes in every other one. The
statements are given by their grammar, and a statement is spelled by any text
that writes its pieces one after the other, with blanks between them where two
words would run together.

* `ImportStatement` — the statements; `ImportStatement.pieces` is what they are
  written of.
* `Spells` — a text writes pieces.
* `foldlM_spells` — what the lexemes of such a text come to, which depends on
  the last piece alone.
* `classify_import` — the verdict on an import statement.
-/

namespace RemoteConsole.Statement

/-! ## Words and names -/

/-- Whether a character may stand in a name: a letter or digit of ASCII, or an
underscore. The language knows names with letters beyond ASCII, which the
statements here do without. -/
def isNameChar (c : Char) : Bool :=
  c.isAlphanum || c == '_'

/-- A word: characters of names, of which the first is no digit. -/
structure Word where
  first : Char
  rest : List Char
  first_not_digit : first.isDigit = false
  first_isNameChar : isNameChar first = true
  rest_isNameChar : rest.all isNameChar = true

namespace Word

/-- The characters of a word. -/
def text (w : Word) : List Char :=
  w.first :: w.rest

def importWord : Word :=
  ⟨'i', "mport".toList, by decide, by decide, by decide⟩

def fromWord : Word :=
  ⟨'f', "rom".toList, by decide, by decide, by decide⟩

def asWord : Word :=
  ⟨'a', ['s'], by decide, by decide, by decide⟩

end Word

/-- The words of the scripting language that are no names. -/
def reservedWords : List String :=
  ["False", "None", "True", "and", "as", "assert", "async", "await", "break", "class", "continue", "def",
    "del", "elif", "else", "except", "finally", "for", "from", "global", "if", "import", "in", "is",
    "lambda", "nonlocal", "not", "or", "pass", "raise", "return", "try", "while", "with", "yield"]

/-- A word that is a name. -/
structure Name extends Word where
  not_reserved : (reservedWords.any fun word => word.toList == toWord.text) = false

/-- A statement may stop at a name: the words that it may not stop at are all
reserved. -/
theorem Name.canEndStatement (n : Name) : canEndStatement n.text = true := by
  have hAll : danglingWords.all (reservedWords.contains ·) = true := by decide
  unfold Statement.canEndStatement
  rw [Bool.not_eq_true', List.any_eq_false]
  intro word hDangling
  have hReserved : word ∈ reservedWords := by simpa using List.all_eq_true.mp hAll word hDangling
  exact List.any_eq_false.mp n.not_reserved word hReserved

/-! ## Statements and what they are written of -/

/-- What import statements are written of. -/
inductive Piece where
  | word (w : Word)
  | point
  | comma
  | star
  | opened
  | closed

namespace Piece

/-- How a piece is written. -/
def text : Piece → List Char
  | word w => w.text
  | point => ['.']
  | comma => [',']
  | star => ['*']
  | opened => ['(']
  | closed => [')']

theorem exists_text_eq (p : Piece) : ∃ c rest, p.text = c :: rest := by
  cases p with
  | word w => exact ⟨w.first, w.rest, rfl⟩
  | point | comma | star | opened | closed => exact ⟨_, _, rfl⟩

/-- Whether a piece is a word, a point or a comma. -/
def isPlain : Piece → Bool
  | word _ | point | comma => true
  | star | opened | closed => false

end Piece

/-- A name of a module: names with points between them. -/
structure DottedName where
  first : Name
  more : List Name

def DottedName.pieces (d : DottedName) : List Piece :=
  .word d.first.toWord :: d.more.flatMap fun n => [.point, .word n.toWord]

/-- The name that something is imported under, if it is given one. -/
def aliasPieces : Option Name → List Piece
  | none => []
  | some n => [.word .asWord, .word n.toWord]

/-- A module to import, perhaps under another name. -/
structure ImportedModule where
  module : DottedName
  other : Option Name

def ImportedModule.pieces (i : ImportedModule) : List Piece :=
  i.module.pieces ++ aliasPieces i.other

/-- A member of a module to import, perhaps under another name. -/
structure ImportedMember where
  name : Name
  other : Option Name

def ImportedMember.pieces (i : ImportedMember) : List Piece :=
  .word i.name.toWord :: aliasPieces i.other

/-- Lists of pieces with commas between them. -/
def commaSeparated (first : List Piece) (more : List (List Piece)) : List Piece :=
  first ++ more.flatMap (.comma :: ·)

/-- What is imported of a module. -/
inductive Imported where
  | everything
  | members (first : ImportedMember) (more : List ImportedMember)
  /-- Members in brackets, perhaps with a comma behind the last. -/
  | bracketed (first : ImportedMember) (more : List ImportedMember) (trailing : Bool)

def Imported.pieces : Imported → List Piece
  | everything => [.star]
  | members first more => commaSeparated first.pieces (more.map ImportedMember.pieces)
  | bracketed first more trailing =>
    .opened :: commaSeparated first.pieces (more.map ImportedMember.pieces) ++
      (if trailing then [.comma] else []) ++ [.closed]

/-- An import statement. -/
inductive ImportStatement where
  | modules (first : ImportedModule) (more : List ImportedModule)
  /-- A relative import has points in front of the module, three of which may be
  one ellipsis, and it may have no module at all. -/
  | members (points : Nat) (module : Option DottedName) (given : 0 < points ∨ module.isSome = true)
      (imported : Imported)

namespace ImportStatement

/-- The word that a statement starts with. -/
def keyword : ImportStatement → Word
  | modules _ _ => .importWord
  | members _ _ _ _ => .fromWord

/-- What follows the word that a statement starts with. -/
def body : ImportStatement → List Piece
  | modules first more => commaSeparated first.pieces (more.map ImportedModule.pieces)
  | members points module _ imported =>
    List.replicate points .point ++ (module.map DottedName.pieces).getD [] ++
      .word .importWord :: imported.pieces

def pieces (s : ImportStatement) : List Piece :=
  .word s.keyword :: s.body

/-- Whether everything is imported of a module. -/
def importsEverything : ImportStatement → Bool
  | members _ _ _ .everything => true
  | _ => false

end ImportStatement

/-- A text writes pieces one after the other, with blanks around them as one
likes, so that no word runs on. -/
inductive Spells : List Piece → List Char → Prop
  | nil : Spells [] []
  | blank {pieces : List Piece} {c : Char} {rest : List Char} (gap : isGap c = true)
      (tail : Spells pieces rest) : Spells pieces (c :: rest)
  | piece {p : Piece} {pieces : List Piece} {rest : List Char} (ends : ∀ w, p = .word w →
      rest.head?.any isNameChar = false) (tail : Spells pieces rest) : Spells (p :: pieces) (p.text ++ rest)

/-- A text writes a statement, whose first word stands at the start of the line:
a blank in front of it would be an indentation. -/
def ImportStatement.SpelledBy (s : ImportStatement) (text : List Char) : Prop :=
  Spells s.pieces text ∧ text.head?.any isGap = false

/-- Whether a blank usually stands between two pieces. -/
def Piece.isApart : Piece → Piece → Bool
  | word _, word _ | word _, star | word _, opened | comma, word _ => true
  | _, _ => false

/-- A text that writes pieces, with single blanks between words. -/
def written : List Piece → List Char
  | [] => []
  | [p] => p.text
  | p :: q :: more => p.text ++ if p.isApart q then ' ' :: written (q :: more) else written (q :: more)

/-- Such a text starts as its first piece does. -/
theorem head?_written (p : Piece) (more : List Piece) : (written (p :: more)).head? = p.text.head? := by
  obtain ⟨c, rest, hText⟩ := p.exists_text_eq
  cases more with
  | nil => rfl
  | cons q more =>
    rw [written, hText]
    rfl

/-- Every list of pieces is written so. The induction follows `written`; a blank
stands wherever the next piece could run into the word before it. -/
theorem spells_written (pieces : List Piece) : Spells pieces (written pieces) := by
  fun_induction written pieces with
  | case1 => exact .nil
  | case2 p =>
    have hAlone : Spells [p] (p.text ++ []) := .piece (fun w _ => rfl) .nil
    rwa [List.append_nil] at hAlone
  | case3 p q more ih =>
    -- two words need a blank between them, anything else may stand together
    split
    · exact .piece (fun w _ => rfl) (.blank rfl ih)
    · next hTogether =>
      refine .piece (fun w hWord => ?_) ih
      -- what follows a word directly is a sign
      rw [head?_written]
      cases q with
      | word v =>
        rw [hWord] at hTogether
        exact absurd rfl hTogether
      | point | comma | star | opened | closed => rfl

/-- Every statement is spelled by some text, so nothing said of spelled
statements is about none. -/
theorem ImportStatement.spelledBy_written (s : ImportStatement) : s.SpelledBy (written s.pieces) := by
  refine ⟨spells_written s.pieces, ?_⟩
  unfold ImportStatement.pieces
  rw [head?_written]
  cases s <;> rfl

/-! ## Characters of a spelled text -/

/-- The characters of names are of ASCII, so what is said of all of them can be
evaluated. -/
theorem toNat_lt_of_isNameChar {c : Char} (h : isNameChar c = true) : c.toNat < 128 := by
  -- the last of these characters is the last small letter
  have hLast : c.val ≤ 'z'.val := by
    rcases Bool.or_eq_true_iff.mp h with hAlphanum | hUnderscore
    · rcases Bool.or_eq_true_iff.mp hAlphanum with hLetter | hDigit
      · rcases Bool.or_eq_true_iff.mp hLetter with hUpper | hLower
        · exact UInt32.le_trans (of_decide_eq_true hUpper).2 (by decide)
        · exact of_decide_eq_true (Bool.and_eq_true_iff.mp hLower).2
      · exact UInt32.le_trans (of_decide_eq_true (Bool.and_eq_true_iff.mp hDigit).2) (by decide)
    · rw [beq_iff_eq] at hUnderscore
      rw [hUnderscore]
      decide
  exact Nat.lt_of_le_of_lt (UInt32.le_iff_toNat_le.mp hLast) (by decide)

/-- A word goes on with the characters of names, and no line ends with them. -/
theorem continuesWord_of_isNameChar {c : Char} (h : isNameChar c = true) :
    continuesWord c = true ∧ c ≠ '\n' ∧ c ≠ '\r' := by
  have hAll : ∀ n < 128, isNameChar (Char.ofNat n) = true →
      continuesWord (Char.ofNat n) = true ∧ Char.ofNat n ≠ '\n' ∧ Char.ofNat n ≠ '\r' := by
    decide +kernel
  have hChar := hAll c.toNat (toNat_lt_of_isNameChar h)
  rw [Char.ofNat_toNat] at hChar
  exact hChar h

/-- Whether a character starts a word and nothing else: the scanner looks for
everything else first. -/
def startsWordOnly (c : Char) : Bool :=
  startsWord c && (Quote.ofChar? c).isNone && (Bracket.ofOpen? c).isNone &&
    (Bracket.ofClose? c).isNone && !isGap c && !(['#', '\\', ':', ',', ';', '.'].contains c)

/-- A character of names that is no digit starts a word and nothing else. -/
theorem startsWordOnly_of_isNameChar {c : Char} (h : isNameChar c = true) (hDigit : c.isDigit = false) :
    startsWordOnly c = true := by
  have hAll : ∀ n < 128, isNameChar (Char.ofNat n) = true → (Char.ofNat n).isDigit = false →
      startsWordOnly (Char.ofNat n) = true := by
    decide +kernel
  have hChar := hAll c.toNat (toNat_lt_of_isNameChar h)
  rw [Char.ofNat_toNat] at hChar
  exact hChar h hDigit

/-- The first character of a word starts a word: it is no gap and no comment,
and none of the tests that the scanner makes before the one for words
applies. -/
theorem read_of_isNameChar {c : Char} (h : isNameChar c = true) (hDigit : c.isDigit = false)
    (line : Nat) (rest : List Char) :
    Lexeme.read line c rest = Lexeme.readWord line c rest ∧ isGap c = false ∧ c ≠ '#' := by
  have hStart := startsWordOnly_of_isNameChar h hDigit
  simp only [startsWordOnly, Bool.and_eq_true, Option.isNone_iff_eq_none, Bool.not_eq_true',
    List.contains_cons, Bool.or_eq_false_iff, beq_eq_false_iff_ne] at hStart
  obtain ⟨⟨⟨⟨⟨hWord, hQuote⟩, hOpen⟩, hClose⟩, hGap⟩, hSigns⟩ := hStart
  obtain ⟨hSign, hBackslash, hColon, hComma, hSemicolon, hPoint, -⟩ := hSigns
  refine ⟨?_, hGap, hSign⟩
  unfold Lexeme.read
  rw [hQuote, hOpen, hClose]
  simp [Lexeme.readPlain, hBackslash, hColon, hComma, hSemicolon, hPoint, hDigit, hWord]

namespace Spells

variable {pieces : List Piece} {text : List Char}

/-- What a spelled text starts with: a blank, the first character of a word or a
sign. -/
theorem head (h : Spells pieces text) {c : Char} (hc : c ∈ text.head?) :
    isGap c = true ∨ isNameChar c = true ∧ c.isDigit = false ∨ c ∈ ['.', ',', '*', '(', ')'] := by
  cases h with
  | nil => cases hc
  | blank hGap tail =>
    obtain rfl := Option.some.inj hc
    exact .inl hGap
  | @piece p pieces rest ends tail =>
    cases p with
    | word w =>
      obtain rfl : w.first = c := Option.some.inj hc
      exact .inr (.inl ⟨w.first_isNameChar, w.first_not_digit⟩)
    | point | comma | star | opened | closed =>
      obtain rfl := Option.some.inj hc
      exact .inr (.inr (by decide))

/-- A spelled text starts with no digit, so a point in front of it starts no
number. -/
theorem head_not_digit (h : Spells pieces text) {c : Char} (hc : c ∈ text.head?) :
    c.isDigit = false := by
  rcases h.head hc with hGap | ⟨-, hDigit⟩ | hSign
  · rcases eq_of_isGap hGap with rfl | rfl | rfl <;> rfl
  · exact hDigit
  · have hAll : ['.', ',', '*', '(', ')'].all (!·.isDigit) = true := by decide
    simpa using List.all_eq_true.mp hAll c hSign

/-- Where no name goes on, no word goes on, and no literal begins. The scanner's
words take up more characters than names do, and a quote behind a word could
make it a prefix. -/
theorem stops (h : Spells pieces text) (hEnds : text.head?.any isNameChar = false) {c : Char}
    (hc : c ∈ text.head?) : continuesWord c = false ∧ Quote.ofChar? c = none := by
  rcases h.head hc with hGap | ⟨hName, -⟩ | hSign
  · rcases eq_of_isGap hGap with rfl | rfl | rfl
    all_goals exact ⟨by decide +kernel, rfl⟩
  · rw [show text.head? = some c from hc, Option.any_some, hName] at hEnds
    cases hEnds
  · have hAll : ['.', ',', '*', '(', ')'].all
        (fun c => !continuesWord c && (Quote.ofChar? c).isNone) = true := by decide +kernel
    simpa using List.all_eq_true.mp hAll c hSign

/-- A spelled text is one line, since its blanks and its pieces hold no line
end. -/
theorem isLine (h : Spells pieces text) : IsLine text := by
  have hAll : ∀ c ∈ text, c ≠ '\n' ∧ c ≠ '\r' := by
    induction h with
    | nil => simp
    | blank gap tail ih =>
      rw [List.forall_mem_cons]
      refine ⟨?_, ih⟩
      -- a blank, a tab or a form feed
      rcases eq_of_isGap gap with rfl | rfl | rfl <;> decide
    | @piece p pieces rest ends tail ih =>
      rw [List.forall_mem_append]
      refine ⟨?_, ih⟩
      cases p with
      | word w =>
        show ∀ c ∈ w.first :: w.rest, _
        rw [List.forall_mem_cons]
        exact ⟨(continuesWord_of_isNameChar w.first_isNameChar).2, fun c hc =>
          (continuesWord_of_isNameChar (List.all_eq_true.mp w.rest_isNameChar c hc)).2⟩
      | point | comma | star | opened | closed =>
        intro c hc
        obtain rfl := List.mem_singleton.mp hc
        decide
  -- `IsLine` asks for no break within and no return at the end
  constructor
  · intro hBreak
    exact (hAll _ hBreak).1 rfl
  · intro hReturn
    exact (hAll _ (List.mem_of_getLast? hReturn)).2 rfl

/-- Nothing but a point starts with a point. -/
theorem exists_of_point {rest : List Char} (h : Spells pieces ('.' :: rest)) :
    ∃ more, pieces = .point :: more ∧ Spells more rest := by
  generalize hText : '.' :: rest = text at h
  cases h with
  | nil => cases hText
  | blank gap tail =>
    rw [← (List.cons.inj hText).1] at gap
    cases gap
  | @piece p more rest' ends tail =>
    cases p with
    | word w =>
      have hName := w.first_isNameChar
      rw [← (List.cons.inj hText).1] at hName
      cases hName
    | point =>
      obtain rfl : rest = rest' := (List.cons.inj hText).2
      exact ⟨more, rfl, tail⟩
    | comma | star | opened | closed => cases (List.cons.inj hText).1

end Spells

/-! ## Lexemes of a spelled text -/

/-- A word is read up to where no name goes on, and what is left is read by
itself. -/
theorem lexemes_word (w : Word) {pieces : List Piece} {rest : List Char}
    (hEnds : rest.head?.any isNameChar = false) (h : Spells pieces rest) (line : Nat) :
    lexemes line (w.text ++ rest) = .word w.text :: lexemes line rest := by
  obtain ⟨hRead, hGap, hSign⟩ :=
    read_of_isNameChar w.first_isNameChar w.first_not_digit line (w.rest ++ rest)
  -- all of the word goes on with it
  have hWord : ∀ c ∈ w.rest, continuesWord c = true := fun c hc =>
    (continuesWord_of_isNameChar (List.all_eq_true.mp w.rest_isNameChar c hc)).1
  -- a quote behind the word would be the only other way to read it
  have hFound : Lexeme.readWord line w.first (w.rest ++ rest) = (.word w.text, rest) := by
    unfold Lexeme.readWord
    rw [List.takeWhile_append_of_pos hWord, List.dropWhile_append_of_pos hWord]
    cases rest with
    | nil => simp [Word.text]
    | cons d rest =>
      obtain ⟨hStop, hQuote⟩ := h.stops hEnds (show d ∈ (d :: rest).head? from rfl)
      simp [hStop, hQuote, Word.text]
  show lexemes line (w.first :: (w.rest ++ rest)) = _
  rw [lexemes_cons hGap hSign, hRead, hFound]

/-- A star is read by itself where the text ends behind it; in front of another
sign it could be part of a longer operator. -/
theorem lexemes_star {rest : List Char} (h : Spells [] rest) (line : Nat) :
    lexemes line ('*' :: rest) = .operator false :: lexemes line rest := by
  -- what follows is nothing, or a blank
  have hStop : ∀ c ∈ rest.head?, isOperatorSign c = false := by
    intro c hc
    cases h with
    | nil => cases hc
    | blank gap tail =>
      obtain rfl := Option.some.inj hc
      rcases eq_of_isGap gap with rfl | rfl | rfl <;> rfl
  have hFound : Lexeme.read line '*' rest = (.operator false, rest) := by
    show Lexeme.readOperator '*' rest = _
    unfold Lexeme.readOperator
    cases rest with
    | nil => rfl
    | cons c rest => simp [hStop c rfl]
  rw [lexemes_cons rfl (by decide), hFound]

/-- Three points are read as one value, and any other point by itself. A point
that starts a number is no case, as no piece starts with a digit. -/
theorem lexemes_point {pieces : List Piece} {rest : List Char} (h : Spells pieces rest) (line : Nat) :
    (∃ rest', rest = '.' :: '.' :: rest' ∧
      lexemes line ('.' :: rest) = .value :: lexemes line rest') ∨
    lexemes line ('.' :: rest) = .operator false :: lexemes line rest := by
  rw [lexemes_cons rfl (by decide)]
  show (∃ rest', _ ∧ (Lexeme.readPoint rest).1 :: lexemes line (Lexeme.readPoint rest).2 = _) ∨
    (Lexeme.readPoint rest).1 :: lexemes line (Lexeme.readPoint rest).2 = _
  unfold Lexeme.readPoint
  -- two points more, a digit, or anything else
  split
  · next rest' => exact .inl ⟨rest', rfl, rfl⟩
  · next d rest' _ =>
    right
    rw [if_neg (by simp [h.head_not_digit (show d ∈ (d :: rest').head? from rfl)])]
  · exact .inr rfl

/-- The lexeme that a piece is read as. -/
def Piece.lexeme : Piece → Lexeme
  | word w => .word w.text
  | point | star => .operator false
  | comma => .separator
  | opened => .opening .round
  | closed => .closing .round

/-- A piece is read as its lexeme, but a point with two others behind it is read
with them. Points are why the lexemes of a text are not simply those of its
pieces. -/
theorem lexemes_piece {p : Piece} {pieces : List Piece} {rest : List Char} (h : Spells pieces rest)
    (hEnds : ∀ w, p = .word w → rest.head?.any isNameChar = false) (hStar : p = .star → pieces = [])
    (line : Nat) :
    lexemes line (p.text ++ rest) = p.lexeme :: lexemes line rest ∨
      p = .point ∧ ∃ rest', rest = '.' :: '.' :: rest' ∧
        lexemes line (p.text ++ rest) = .value :: lexemes line rest' := by
  cases p with
  | word w => exact .inl (lexemes_word w (hEnds w rfl) h line)
  | star =>
    rw [hStar rfl] at h
    exact .inl (lexemes_star h line)
  | point =>
    rcases lexemes_point h line with hThree | hOne
    · exact .inr ⟨rfl, hThree⟩
    · exact .inl hOne
  | comma | opened | closed =>
    left
    show lexemes line (_ :: rest) = _
    rw [lexemes_cons rfl (by decide)]
    rfl

/-! ## What a spelled text comes to -/

namespace Piece

/-- The token that a piece is. -/
def token : Piece → Token
  | word w => if canEndStatement w.text then .value else .operator
  | point | star => .operator
  | comma => .separator
  | opened => .opening
  | closed => .value

/-- The brackets that are open behind a piece. -/
def bracketsBehind (brackets : List (Bracket × Nat)) : Piece → Option (List (Bracket × Nat))
  | opened => some ((.round, 1) :: brackets)
  | closed =>
    match brackets with
    | (.round, _) :: outer => some outer
    | _ => none
  | _ => some brackets

end Piece

/-- Pieces with no star in front of others. -/
def StarLast : List Piece → Prop
  | [] => True
  | p :: more => (p = .star → more = []) ∧ StarLast more

/-- The last token is that of the last piece, unless that is a point: three
points in a row leave a value and fewer an operator, so points are left open
here. No statement stops at one. -/
def Leaves (pieces : List Piece) (last last' : Token) : Prop :=
  (pieces = [] → last' = last) ∧ ∀ p ∈ pieces.getLast?, p ≠ .point → last' = p.token

/-- A piece in front of others decides the last token only if there are no
others. -/
theorem Leaves.cons {p : Piece} {pieces : List Piece} {token last last' : Token}
    (hToken : p ≠ .point → token = p.token) (h : Leaves pieces token last') :
    Leaves (p :: pieces) last last' := by
  refine ⟨fun hNil => absurd hNil (List.cons_ne_nil p pieces), fun q hq hPoint => ?_⟩
  cases pieces with
  | nil =>
    obtain rfl : p = q := Option.some.inj hq
    rw [h.1 rfl, hToken hPoint]
  | cons r more => exact h.2 q (by rwa [List.getLast?_cons_cons] at hq) hPoint

/-- A scanner in the import statement on the first line. -/
def importing (brackets : List (Bracket × Nat)) (last : Token) : Scanner where
  brackets := brackets
  logical := some { line := 1, endLine := 1, indent := 0, last := some last }

/-- The scanner takes in the lexeme of a piece that finds the brackets it needs,
and is left with its token. -/
theorem absorb_lexeme {p : Piece} {brackets brackets' : List (Bracket × Nat)}
    (h : p.bracketsBehind brackets = some brackets') (last : Token) :
    Scanner.absorb 1 (importing brackets last) p.lexeme = .ok (importing brackets' p.token) := by
  cases p with
  | closed =>
    -- only a round bracket is closed by the closing piece
    rcases brackets with _ | ⟨⟨_ | _ | _, openLine⟩, outer⟩
    · cases h
    · obtain rfl := Option.some.inj h
      rfl
    · cases h
    · cases h
  -- the others open a bracket or touch none
  | word | point | comma | star | opened =>
    obtain rfl := Option.some.inj h
    rfl

/-- The lexemes of a spelled text open and close the brackets of its pieces, and
leave the token of the last one. What is carried along is that a star has
nothing behind it. -/
theorem foldlM_spells {pieces : List Piece} {text : List Char} (h : Spells pieces text)
    (hStar : StarLast pieces) {brackets brackets' : List (Bracket × Nat)}
    (hBrackets : pieces.foldlM Piece.bracketsBehind brackets = some brackets') (last : Token) :
    ∃ last', (lexemes 1 text).foldlM (Scanner.absorb 1) (importing brackets last) =
        .ok (importing brackets' last') ∧ Leaves pieces last last' := by
  -- on the length of the text, as three points are read at once
  induction hLength : text.length using Nat.strongRecOn generalizing pieces text brackets last with
  | ind n ih =>
  subst hLength
  cases h with
  | nil =>
    obtain rfl := Option.some.inj hBrackets
    exact ⟨last, by rw [lexemes_nil]; rfl, fun _ => rfl, fun p hp => by cases hp⟩
  | @blank _ c rest gap tail =>
    rw [lexemes_gap gap]
    exact ih rest.length (by simp) tail hStar hBrackets last rfl
  | @piece p pieces rest ends tail =>
    rw [List.foldlM_cons] at hBrackets
    obtain ⟨behind, hBehind, hMore⟩ := Option.bind_eq_some_iff.mp hBrackets
    have hShorter : rest.length < (p.text ++ rest).length := by
      obtain ⟨c, more, hText⟩ := p.exists_text_eq
      rw [hText, List.length_append, List.length_cons]
      omega
    -- one lexeme for the piece, or one for it and the two points behind it
    rcases lexemes_piece tail ends hStar.1 1 with hLexemes | ⟨rfl, rest', rfl, hLexemes⟩
    · obtain ⟨last', hFold, hLeaves⟩ := ih rest.length hShorter tail hStar.2 hMore p.token rfl
      refine ⟨last', ?_, hLeaves.cons fun _ => rfl⟩
      rw [hLexemes, List.foldlM_cons, absorb_lexeme hBehind]
      exact hFold
    · -- the two other points are pieces too
      obtain ⟨more, rfl, hSecond⟩ := tail.exists_of_point
      obtain ⟨more, rfl, hThird⟩ := hSecond.exists_of_point
      obtain rfl := Option.some.inj hBehind
      obtain ⟨last', hFold, hLeaves⟩ := ih rest'.length (by simp at hShorter ⊢; omega) hThird
        hStar.2.2.2 hMore .value rfl
      refine ⟨last', ?_, ?_⟩
      · rw [hLexemes, List.foldlM_cons]
        exact hFold
      · have hPoint (token : Token) : Piece.point ≠ .point → token = Piece.point.token :=
          fun h => absurd rfl h
        exact ((hLeaves.cons (hPoint .value)).cons (hPoint .value)).cons (hPoint .value)

/-! ## The pieces of a statement -/

/-- Words, points and commas leave the brackets as they are. -/
theorem foldlM_bracketsBehind_of_isPlain {pieces : List Piece} (h : ∀ p ∈ pieces, p.isPlain = true)
    (brackets : List (Bracket × Nat)) :
    pieces.foldlM Piece.bracketsBehind brackets = some brackets := by
  induction pieces with
  | nil => rfl
  | cons p more ih =>
    have hBehind : p.bracketsBehind brackets = some brackets := by
      have hPlain := h p List.mem_cons_self
      cases p with
      | word | point | comma => rfl
      | star | opened | closed => cases hPlain
    rw [List.foldlM_cons, hBehind]
    exact ih fun q hq => h q (List.mem_cons_of_mem p hq)

/-- Words, points and commas may stand in front of pieces with a star at their
end. -/
theorem starLast_append {pieces : List Piece} (h : ∀ p ∈ pieces, p.isPlain = true) {more : List Piece}
    (hMore : StarLast more) : StarLast (pieces ++ more) := by
  induction pieces with
  | nil => exact hMore
  | cons p rest ih =>
    refine ⟨fun hStar => ?_, ih fun q hq => h q (List.mem_cons_of_mem p hq)⟩
    have hPlain := h p List.mem_cons_self
    rw [hStar] at hPlain
    cases hPlain

/-- Words, points and commas that end in a name. All parts of the grammar
between its signs are of this kind. -/
structure EndsInName (pieces : List Piece) : Prop where
  plain : ∀ p ∈ pieces, p.isPlain = true
  last : ∃ n : Name, pieces.getLast? = some (.word n.toWord)

namespace EndsInName

/-- A name is of this kind. -/
theorem singleton (n : Name) : EndsInName [.word n.toWord] :=
  ⟨by simp [Piece.isPlain], n, rfl⟩

/-- What is written in front of such pieces, without signs, leaves them of this
kind. -/
theorem append (before : List Piece) {pieces : List Piece} (hBefore : ∀ p ∈ before, p.isPlain = true)
    (h : EndsInName pieces) : EndsInName (before ++ pieces) where
  plain := List.forall_mem_append.mpr ⟨hBefore, h.plain⟩
  last := by
    obtain ⟨n, hLast⟩ := h.last
    exact ⟨n, by rw [List.getLast?_append, hLast, Option.some_or]⟩

/-- A list that goes on with such pieces ends in a name whether it does so or
not. -/
theorem append_flatMap {α : Type} {pieces : List Piece} (h : EndsInName pieces) {f : α → List Piece}
    (items : List α) (hItems : ∀ a ∈ items, EndsInName (f a)) :
    EndsInName (pieces ++ items.flatMap f) := by
  induction items generalizing pieces with
  | nil => rwa [List.flatMap_nil, List.append_nil]
  | cons a rest ih =>
    rw [List.flatMap_cons, ← List.append_assoc]
    exact ih (append _ h.plain (hItems a List.mem_cons_self)) fun b hb =>
      hItems b (List.mem_cons_of_mem a hb)

theorem dottedName (d : DottedName) : EndsInName d.pieces :=
  (singleton d.first).append_flatMap d.more fun n _ =>
    append [.point] (by simp [Piece.isPlain]) (singleton n)

/-- An `as` with a name may follow. -/
theorem aliasPieces {pieces : List Piece} (h : EndsInName pieces) (other : Option Name) :
    EndsInName (pieces ++ Statement.aliasPieces other) := by
  cases other with
  | none => rwa [Statement.aliasPieces, List.append_nil]
  | some n =>
    refine append _ h.plain ?_
    exact append [.word .asWord] (by simp [Piece.isPlain]) (singleton n)

/-- A list with commas ends as its last item does. -/
theorem commaSeparated {α : Type} {f : α → List Piece} (h : ∀ a, EndsInName (f a)) (first : α)
    (more : List α) : EndsInName (Statement.commaSeparated (f first) (more.map f)) := by
  refine (h first).append_flatMap _ fun pieces hPieces => ?_
  obtain ⟨a, -, rfl⟩ := List.mem_map.mp hPieces
  exact append [.comma] (by simp [Piece.isPlain]) (h a)

theorem importedModule (i : ImportedModule) : EndsInName i.pieces :=
  (dottedName i.module).aliasPieces i.other

theorem importedMember (i : ImportedMember) : EndsInName i.pieces :=
  (singleton i.name).aliasPieces i.other

end EndsInName

/-- Pieces that leave no bracket open and stop at the given token. The last one
is no point, so the token is that of the scanner as well. -/
structure Finishes (pieces : List Piece) (token : Token) : Prop where
  starLast : StarLast pieces
  brackets : pieces.foldlM Piece.bracketsBehind [] = some []
  last : ∃ p, pieces.getLast? = some p ∧ p ≠ .point ∧ p.token = token

/-- What ends in a name stops at a value. -/
theorem EndsInName.finishes {pieces : List Piece} (h : EndsInName pieces) : Finishes pieces .value where
  starLast := by
    have hAlone : StarLast (pieces ++ []) := starLast_append h.plain trivial
    rwa [List.append_nil] at hAlone
  brackets := foldlM_bracketsBehind_of_isPlain h.plain []
  last := by
    obtain ⟨n, hLast⟩ := h.last
    refine ⟨.word n.toWord, hLast, by simp, ?_⟩
    exact if_pos n.canEndStatement

/-- Words, points and commas in front change nothing of where pieces stop. -/
theorem Finishes.append (before : List Piece) {pieces : List Piece} {token : Token}
    (hBefore : ∀ p ∈ before, p.isPlain = true) (h : Finishes pieces token) :
    Finishes (before ++ pieces) token where
  starLast := starLast_append hBefore h.starLast
  brackets := by
    rw [List.foldlM_append, foldlM_bracketsBehind_of_isPlain hBefore]
    exact h.brackets
  last := by
    obtain ⟨p, hLast, hToken⟩ := h.last
    exact ⟨p, by rw [List.getLast?_append, hLast, Option.some_or], hToken⟩

/-- Pieces in brackets stop at the closing one, which counts as a value. -/
theorem finishes_brackets {inner : List Piece} (h : ∀ p ∈ inner, p.isPlain = true) :
    Finishes (.opened :: inner ++ [.closed]) .value where
  starLast := by
    have hClosed : StarLast [.closed] := ⟨by simp, trivial⟩
    exact ⟨by simp, starLast_append h hClosed⟩
  brackets := by
    rw [List.cons_append, List.foldlM_cons]
    show (inner ++ [Piece.closed]).foldlM Piece.bracketsBehind [(.round, 1)] = _
    rw [List.foldlM_append, foldlM_bracketsBehind_of_isPlain h]
    rfl
  last := ⟨.closed, List.getLast?_concat, by simp, rfl⟩

/-- What is imported stops at a value, unless it is everything: then it stops at
a sign that is an operator anywhere else. -/
theorem Imported.finishes (i : Imported) :
    Finishes i.pieces (match i with | .everything => .operator | _ => .value) := by
  cases i with
  | everything => exact ⟨⟨fun _ => rfl, trivial⟩, rfl, .star, rfl, by simp, rfl⟩
  | members first more => exact (EndsInName.commaSeparated EndsInName.importedMember first more).finishes
  | bracketed first more trailing =>
    -- no bracket and no star stands among the members, with or without the
    -- comma behind the last one
    have hMembers := EndsInName.commaSeparated EndsInName.importedMember first more
    show Finishes (.opened :: Statement.commaSeparated _ _ ++ (if trailing then [.comma] else []) ++ [.closed])
      .value
    rw [List.cons_append]
    refine finishes_brackets (List.forall_mem_append.mpr ⟨hMembers.plain, ?_⟩)
    cases trailing with
    | true => simp [Piece.isPlain]
    | false => simp

/-- Where a statement stops depends on nothing but whether it imports
everything. -/
theorem ImportStatement.finishes (s : ImportStatement) :
    Finishes s.body (if s.importsEverything then .operator else .value) := by
  cases s with
  | modules first more => exact (EndsInName.commaSeparated EndsInName.importedModule first more).finishes
  | members points module given imported =>
    have hImport : ∀ p ∈ [Piece.word .importWord], p.isPlain = true := by simp [Piece.isPlain]
    have hModule : ∀ p ∈ (module.map DottedName.pieces).getD [], p.isPlain = true := by
      cases module with
      | none => simp
      | some d => exact (EndsInName.dottedName d).plain
    -- neither the points nor the names of a module open a bracket or are a star
    have hPoints : ∀ p ∈ List.replicate points Piece.point, p.isPlain = true := by
      intro p hp
      rw [List.eq_of_mem_replicate hp]
      rfl
    -- with the points, the module and the second `import` in front of it, what
    -- is imported decides
    have hImported : Finishes imported.pieces
        (if (members points module given imported).importsEverything then .operator else .value) := by
      have h := imported.finishes
      cases imported <;> exact h
    exact (hImported.append [.word .importWord] hImport).append _
      (List.forall_mem_append.mpr ⟨hPoints, hModule⟩)

/-! ## The verdict -/

/-- The scanner at the first word of a statement on the first line. -/
def starting : Scanner where
  logical := some { line := 1, endLine := 1, indent := 0 }

/-- A line that the scanner has taken in as an import statement is finished,
unless it stops at an operator. The two modes agree here, since the statement
opens no block. -/
theorem classify_of_importing (mode : Mode) {text : List Char} {last : Token} (hLine : IsLine text)
    (hIndent : indentation text = (0, text)) (hCode : Scanner.isIdle text = false)
    (hFold : (lexemes 1 text).foldlM (Scanner.absorb 1) starting = .ok (importing [] last)) :
    (last = .value → classify mode text = .complete) ∧
      (last = .operator → classify mode text = .invalid ⟨.invalidSyntax, 1⟩) := by
  -- the text is one logical line at the outermost level, which ends with it
  have hScan : Scanner.scanLine mode {} 1 text = (importing [] last).finishLogical mode := by
    unfold Scanner.scanLine Scanner.startLine
    dsimp only
    rw [hIndent]
    dsimp only
    rw [if_neg (by simp [hCode])]
    show starting.scanCode mode 1 text = _
    unfold Scanner.scanCode
    rw [hFold]
    rfl
  rw [classify_eq, physical_of_isLine hLine, classifyLines, Scanner.scanLines, hScan]
  constructor
  · rintro rfl
    cases mode <;> rfl
  · rintro rfl
    rfl

/-- **Import statements.** An import statement on one line is finished, in both
modes, unless it imports everything of a module: then its star is taken for an
operator that the line stops at. -/
theorem classify_import {s : ImportStatement} {text : List Char} (h : s.SpelledBy text) (mode : Mode) :
    classify mode text =
      if s.importsEverything then .invalid ⟨.invalidSyntax, 1⟩ else .complete := by
  obtain ⟨hSpells, hHead⟩ := h
  have hLine := hSpells.isLine
  have hFinishes := s.finishes
  obtain ⟨p, hLast, hPoint, hToken⟩ := hFinishes.last
  unfold ImportStatement.pieces at hSpells
  cases hSpells with
  | @blank _ c rest gap tail =>
    -- no blank stands in front of the first word
    rw [List.head?_cons, Option.any_some, gap] at hHead
    cases hHead
  | @piece _ _ rest ends tail =>
    obtain ⟨last, hBody, hLeaves⟩ := foldlM_spells tail hFinishes.starLast hFinishes.brackets .operator
    have hKeyword : Scanner.absorb 1 starting (.word s.keyword.text) = .ok (importing [] .operator) := by
      cases s <;> rfl
    have hFold : (lexemes 1 (s.keyword.text ++ rest)).foldlM (Scanner.absorb 1) starting =
        .ok (importing [] last) := by
      rw [lexemes_word s.keyword (ends _ rfl) tail, List.foldlM_cons, hKeyword]
      exact hBody
    -- the first word is `import` or `from`, so the rest evaluates
    have hIndent : indentation (s.keyword.text ++ rest) = (0, s.keyword.text ++ rest) := by
      cases s <;> rfl
    have hCode : Scanner.isIdle (s.keyword.text ++ rest) = false := by
      cases s <;> rfl
    obtain ⟨hValue, hOperator⟩ := classify_of_importing mode hLine hIndent hCode hFold
    -- the token at the end is that of the last piece, which is no point
    have hEnd : last = if s.importsEverything then .operator else .value := by
      rw [hLeaves.2 p hLast hPoint, hToken]
    split
    · next hEverything => exact hOperator (by rw [hEnd, if_pos hEverything])
    · next hOthers => exact hValue (by rw [hEnd, if_neg hOthers])

/-- The usual form of an import with brackets is finished. -/
theorem classify_import_brackets :
    classify .source "from..p import (a as b, _1,)".toList = .complete ∧
      classify .interactive "from..p import (a as b, _1,)".toList = .complete := by
  let package : DottedName := ⟨⟨⟨'p', [], by decide, by decide, by decide⟩, by decide⟩, []⟩
  let first : ImportedMember := ⟨⟨⟨'a', [], by decide, by decide, by decide⟩, by decide⟩,
    some ⟨⟨'b', [], by decide, by decide, by decide⟩, by decide⟩⟩
  let second : ImportedMember := ⟨⟨⟨'_', ['1'], by decide, by decide, by decide⟩, by decide⟩, none⟩
  let s : ImportStatement := .members 2 (some package) (.inl (by decide)) (.bracketed first [second] true)
  have hSpelled : s.SpelledBy "from..p import (a as b, _1,)".toList := s.spelledBy_written
  exact ⟨classify_import hSpelled .source, classify_import hSpelled .interactive⟩

/-- An import of everything is refused. -/
theorem not_complete_of_star :
    ∃ s : ImportStatement, s.SpelledBy "from m import *".toList ∧
      ∀ mode, classify mode "from m import *".toList = .invalid ⟨.invalidSyntax, 1⟩ := by
  let package : DottedName := ⟨⟨⟨'m', [], by decide, by decide, by decide⟩, by decide⟩, []⟩
  refine ⟨.members 0 (some package) (.inr rfl) .everything, ?_, ?_⟩
  · exact ImportStatement.spelledBy_written _
  · intro mode
    cases mode <;> decide +kernel

end RemoteConsole.Statement
