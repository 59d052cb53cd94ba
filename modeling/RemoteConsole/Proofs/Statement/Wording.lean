import Mathlib.Data.List.Infix
import RemoteConsole.Statement.SyntaxError

/-!
# Lines that a message names

A message names a line by its number behind the word "line". Which lines these
are is read from the text of the message, and it is known beforehand from the
cause that the text puts into words.

* `linesNamed` — the numbers behind the word "line" in a text.
* `Silent`, `linesNamed_append` — a piece of text that names no line, whatever
  stands behind it.
* `linesNamed_marker` — a line that is named behind such a piece.
* `SyntaxError.mentioned` — the lines that the words for a cause name.
* `SyntaxError.linesNamed_message` — these are the lines that the message names.
-/

namespace RemoteConsole.Statement

/-! ## Reading the lines from a text -/

/-- What stands in front of the number of a line. -/
def marker : List Char :=
  ['l', 'i', 'n', 'e', ' ']

/-- The number at the start of a text, if a digit stands there. -/
def leadingNumber? (text : List Char) : Option Nat :=
  let digits := text.takeWhile Char.isDigit
  if digits.isEmpty then none else some (Nat.ofDigitChars 10 digits 0)

/-- The lines that a text names, in the order of the text. -/
def linesNamed : List Char → List Nat
  | [] => []
  | c :: rest =>
    if marker.isPrefixOf (c :: rest) then
      (leadingNumber? ((c :: rest).drop marker.length)).toList ++ linesNamed rest
    else linesNamed rest

/-- A piece of text that names no line, whatever stands behind it. -/
def Silent (piece : List Char) : Prop :=
  ∀ t ∈ piece.tails, t = [] ∨ (¬ marker <+: t ∧ ¬ t <+: marker)

instance (piece : List Char) : Decidable (Silent piece) :=
  inferInstanceAs (Decidable (∀ t ∈ piece.tails, t = [] ∨ (¬ marker <+: t ∧ ¬ t <+: marker)))

@[simp] theorem linesNamed_nil : linesNamed [] = [] := rfl

theorem linesNamed_cons {c : Char} {rest : List Char} (h : ¬ marker <+: c :: rest) :
    linesNamed (c :: rest) = linesNamed rest := by
  rw [linesNamed, if_neg (by simpa using h)]

theorem silent_cons {c : Char} {piece : List Char} :
    Silent (c :: piece) ↔ (¬ marker <+: c :: piece ∧ ¬ c :: piece <+: marker) ∧ Silent piece := by
  simp [Silent]

/-- A silent piece can be left out. -/
theorem linesNamed_append {piece : List Char} (h : Silent piece) (rest : List Char) :
    linesNamed (piece ++ rest) = linesNamed rest := by
  induction piece with
  | nil => rfl
  | cons c piece ih =>
    obtain ⟨⟨hInside, hAcross⟩, hTail⟩ := silent_cons.mp h
    -- the word would end in the piece, or the piece would end in the word
    have hNone : ¬ marker <+: c :: (piece ++ rest) := by
      intro hMarker
      have hPiece : c :: piece <+: c :: (piece ++ rest) := List.prefix_append (c :: piece) rest
      rcases List.prefix_or_prefix_of_prefix hMarker hPiece with hBefore | hBehind
      · exact hInside hBefore
      · exact hAcross hBehind
    rw [List.cons_append, linesNamed_cons hNone, ih hTail]

/-- Text without the first letter of the word is silent. -/
theorem silent_of_notMem {piece : List Char} (h : 'l' ∉ piece) : Silent piece := by
  induction piece with
  | nil => simp [Silent]
  | cons c piece ih =>
    rw [List.mem_cons, not_or] at h
    refine silent_cons.mpr ⟨⟨?_, ?_⟩, ih h.2⟩
    · rintro ⟨more, hMarker⟩
      exact h.1 (List.cons.inj hMarker).1
    · rintro ⟨more, hMarker⟩
      exact h.1 (List.cons.inj hMarker).1.symm

/-! ## Numerals -/

/-- A numeral is read back, up to the first character that is no digit. -/
theorem leadingNumber?_toString (n : Nat) {rest : List Char} (h : ∀ c ∈ rest.head?, c.isDigit = false) :
    leadingNumber? ((toString n).toList ++ rest) = some n := by
  have hDigits : ∀ c ∈ Nat.toDigits 10 n, c.isDigit = true := fun c hc =>
    Nat.isDigit_of_mem_toDigits (by decide) (by decide) hc
  have hRest : rest.takeWhile Char.isDigit = [] := by
    cases rest with
    | nil => rfl
    | cons c rest => simp [h c rfl]
  rw [Nat.toString_eq_repr, Nat.toList_repr, leadingNumber?, List.takeWhile_append_of_pos hDigits, hRest,
    List.append_nil]
  simp [Nat.toDigits_ne_nil]

/-- A number names no line by itself. -/
theorem silent_toString (n : Nat) : Silent (toString n).toList := by
  apply silent_of_notMem
  intro h
  rw [Nat.toString_eq_repr, Nat.toList_repr] at h
  have hDigit := Nat.isDigit_of_mem_toDigits (by decide) (by decide) h
  exact absurd hDigit (by decide)

/-- A line that is named behind a silent piece of text. -/
theorem linesNamed_marker {piece : List Char} (h : Silent piece) (n : Nat) (rest : List Char)
    (hRest : ∀ c ∈ rest.head?, c.isDigit = false) :
    linesNamed (piece ++ (marker ++ ((toString n).toList ++ rest))) = n :: linesNamed rest := by
  -- behind its first letter the word goes on without another one of its kind
  have hMarker : ∀ text, linesNamed (marker ++ text) = (leadingNumber? text).toList ++ linesNamed text :=
    fun text => rfl
  rw [linesNamed_append h, hMarker, leadingNumber?_toString n hRest, linesNamed_append (silent_toString n)]
  rfl

/-! ## Messages -/

/-- A capital letter is not a small one. -/
theorem toUpper_ne (c : Char) : c.toUpper ≠ 'l' := by
  intro h
  unfold Char.toUpper at h
  split at h
  · next hSmall =>
    -- a letter that is changed becomes a capital one
    have hCode := congrArg (fun d : Char => d.val.toNat) h
    simp only [UInt32.le_iff_toNat_le, UInt32.reduceSub, UInt32.toNat_add, UInt32.reduceToNat,
      Char.reduceVal, Char.toNat_val, Nat.reducePow] at hCode hSmall
    omega
  · next hOther =>
    -- a character that is kept is no small letter
    subst h
    exact hOther (by decide)

/-- Hexadecimal digits in capital letters are silent. -/
theorem silent_upper (width n : Nat) : Silent (Hex.upper width n) := by
  apply silent_of_notMem
  intro h
  unfold Hex.upper Hex.pad at h
  rcases List.mem_append.mp h with hZero | hDigit
  · exact absurd (List.eq_of_mem_replicate hZero) (by decide)
  · obtain ⟨c, -, hc⟩ := List.mem_map.mp hDigit
    exact toUpper_ne c hc

/-- A header in words, up to the word "line". -/
def Header.lead : Keyword → String
  | .defWord => "function definition on "
  | .classWord => "class definition on "
  | k => "'" ++ k.text ++ "' statement on "

theorem Header.toList_describe (header : Header) :
    header.describe.toList = (lead header.keyword).toList ++ (marker ++ (toString header.line).toList) := by
  obtain ⟨line, k⟩ := header
  cases k <;> simp [describe, lead, marker]

namespace SyntaxError

/-- The lines that the words for a cause name. A bracket of the same line is
named without its line. -/
def mentioned (e : SyntaxError) : List Nat :=
  match e.cause with
  | .mismatched _ _ openLine => if openLine = e.line then [] else [openLine]
  | .unterminatedLiteral detectedAt => [detectedAt]
  | .expectedBlock header => [header.line]
  | _ => []

/-- The message about a character names no line, whatever the character is. -/
theorem linesNamed_invalidCharacter (c : Char) (line : Nat) :
    linesNamed (message ⟨.invalidCharacter c, line⟩).toList = [] := by
  have hStart : Silent "invalid character '".toList := by decide +kernel
  have hCode : Silent " (U+".toList := by decide +kernel
  -- whatever the character is, the quote behind it is not the second letter of
  -- the word
  have hSign : ¬ marker <+: [c, '\''] ∧ ¬ [c, '\''] <+: marker := by
    constructor
    all_goals
      rintro ⟨more, hMarker⟩
      exact absurd (List.cons.inj (List.cons.inj hMarker).2).1 (by decide)
  have hQuoted : Silent [c, '\''] := silent_cons.mpr ⟨hSign, by decide⟩
  have hText : (message ⟨.invalidCharacter c, line⟩).toList =
      "invalid character '".toList ++ ([c, '\''] ++ (" (U+".toList ++ (Hex.upper 4 c.toNat ++ [')']))) := by
    simp [message]
  rw [hText, linesNamed_append hStart, linesNamed_append hQuoted, linesNamed_append hCode,
    linesNamed_append (silent_upper 4 c.toNat)]
  rfl

/-- The message about two brackets names the line of the opening one, unless
that is the line which is reported. -/
theorem linesNamed_mismatched (close opened : Bracket) (openLine line : Nat) :
    linesNamed (message ⟨.mismatched close opened openLine, line⟩).toList =
      if openLine = line then [] else [openLine] := by
  have hStart : Silent "closing parenthesis '".toList := by decide +kernel
  have hMiddle : Silent "' does not match opening parenthesis '".toList := by decide +kernel
  have hClose : Silent [close.closeChar] := by cases close <;> decide
  have hOpen : Silent [opened.openChar] := by cases opened <;> decide
  -- the message in its parts, of which only the last one may name a line
  have hText : (message ⟨.mismatched close opened openLine, line⟩).toList =
      "closing parenthesis '".toList ++ ([close.closeChar] ++
        ("' does not match opening parenthesis '".toList ++ ([opened.openChar] ++
          ('\'' :: if openLine = line then [] else " on ".toList ++
            (marker ++ (toString openLine).toList))))) := by
    by_cases hSame : openLine = line
    · simp [message, hSame]
    · simp [message, hSame, marker]
  rw [hText, linesNamed_append hStart, linesNamed_append hClose, linesNamed_append hMiddle,
    linesNamed_append hOpen]
  split
  · rfl
  · have hOn : Silent "' on ".toList := by decide +kernel
    have hNamed := linesNamed_marker hOn openLine [] (by simp)
    simpa using hNamed

/-- A message names the lines that its cause is about. The fixed parts of the
messages are silent, so that only a number behind the word is found. -/
theorem linesNamed_message (e : SyntaxError) : linesNamed e.message.toList = e.mentioned := by
  obtain ⟨cause, line⟩ := e
  cases cause with
  | invalidSyntax | afterContinuation | expectedColon | unexpectedIndent | inconsistentDedent |
    multipleStatements =>
    simp only [message, mentioned]
    decide +kernel
  | unmatched close =>
    simp only [message, mentioned]
    cases close <;> decide +kernel
  | invalidCharacter c => exact linesNamed_invalidCharacter c line
  | mismatched close opened openLine => exact linesNamed_mismatched close opened openLine line
  | unterminatedLiteral detectedAt =>
    have hStart : Silent "unterminated string literal (detected at ".toList := by decide +kernel
    have hNamed := linesNamed_marker hStart detectedAt [')'] (by simp)
    have hText : (message ⟨.unterminatedLiteral detectedAt, line⟩).toList =
        "unterminated string literal (detected at ".toList ++
          (marker ++ ((toString detectedAt).toList ++ [')'])) := by
      simp [message, marker]
    rw [hText]
    exact hNamed
  | expectedBlock header =>
    have hStart : Silent "expected an indented block after ".toList := by decide +kernel
    -- the words for a header are fixed by its keyword
    have hLead : Silent (Header.lead header.keyword).toList := by
      cases header.keyword <;> decide +kernel
    have hNamed := linesNamed_marker hLead header.line [] (by simp)
    rw [List.append_nil, ← Header.toList_describe] at hNamed
    rw [message, String.toList_append, linesNamed_append hStart]
    exact hNamed

end SyntaxError

end RemoteConsole.Statement
