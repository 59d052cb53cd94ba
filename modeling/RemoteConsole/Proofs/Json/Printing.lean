import RemoteConsole.Json.Value
import RemoteConsole.Proofs.Json.Records

/-!
# What is written is a document

The text of a value is a document of the grammar, with white space only where
the grammar has it. So every decoder that reads the value reads its text.

* `Value.tree` — what the text of a value holds.
* `Value.document_indented`, `Value.document_compact` — both texts hold it.
-/

namespace RemoteConsole.Json

open Utf8 (encode encodeChar)

/-! ## Strings -/

/-- The bytes of a string between its marks. -/
def content (text : String) : List UInt8 :=
  encode (text.toList.flatMap escape)

/-- Characters of ASCII are written in a byte each. -/
theorem encode_ascii {word : List Char} (h : word.all (·.toNat < 0x80) = true) :
    encode word = ascii word := by
  induction word with
  | nil => rfl
  | cons c word ih =>
    rw [List.all_cons, Bool.and_eq_true, decide_eq_true_eq] at h
    rw [Utf8.encode_cons, ih h.2, Utf8.encodeChar_of_lt h.1]
    rfl

/-- The digits of an escaped control write its code. There are 32 controls, so
they can be tried. -/
theorem fourDigits_lower : ∀ n < 0x20, FourDigits (ascii (Hex.lower 4 n)) n := by
  unfold FourDigits
  decide

theorem hex_ascii : ∀ n < 0x20, (Hex.lower 4 n).all (·.toNat < 0x80) = true := by decide

/-- A character is written as an escape of it or as itself, so with it in front
a text is still spelled. The cases are those of the writer: seven letters, the
other controls, and the rest. -/
theorem spells_escape {raw : List UInt8} {text : List Char} (c : Char) (h : Spells raw text) :
    Spells (encode (escape c) ++ raw) (c :: text) := by
  have hLetter : ∀ {l : Char}, (l, c) ∈ letters → encode ['\\', l] = ascii ['\\', l] →
      Spells (encode ['\\', l] ++ raw) (c :: text) := fun hl hAscii => hAscii ▸ .escape (.letter hl) h
  unfold escape
  -- the seven characters that are written by a letter
  iterate 7
    split
    · next hc => subst hc; exact hLetter (by decide) (by decide)
  split
  · next hControl =>
    have hAscii : encode (['\\', 'u'] ++ Hex.lower 4 c.toNat) = ascii (['\\', 'u'] ++ Hex.lower 4 c.toNat) :=
      encode_ascii (by rw [List.all_append, hex_ascii c.toNat hControl]; decide)
    -- a control is below the halves of pairs
    have hEscapes := Escapes.code (fourDigits_lower c.toNat hControl) (.inl (by omega))
    rw [Char.ofNat_toNat] at hEscapes
    rw [hAscii]
    exact .escape hEscapes h
  · next hMark hSlash _ _ _ _ _ hControl =>
    rw [Utf8.encode_cons, Utf8.encode_nil, List.append_nil]
    exact .plain hMark hSlash (Nat.not_lt.mp hControl) h

/-- What the writer puts between the marks of a string spells its text. -/
theorem spells_content (text : String) : Spells (content text) text.toList := by
  unfold content
  induction text.toList with
  | nil => exact .nil
  | cons c cs ih =>
    rw [List.flatMap_cons, Utf8.encode_append]
    exact spells_escape c ih

theorem encode_quote (text : String) (rest : List UInt8) :
    encode (quote text) ++ rest = '"'.toUInt8 :: (content text ++ '"'.toUInt8 :: rest) := by
  have hMark : encodeChar '"' = ['"'.toUInt8] := by decide
  simp [quote, content, hMark]

/-! ## Numbers -/

/-- Digits by their numbers, which the arithmetic below needs. -/
theorem isDigit_iff (c : Char) : c.isDigit = true ↔ 48 ≤ c.toNat ∧ c.toNat ≤ 57 := by
  simp [Char.isDigit, UInt32.le_iff_toNat_le]

theorem encode_digits {ds : List Char} (h : ∀ d ∈ ds, d.isDigit = true) : encode ds = ascii ds := by
  refine encode_ascii (List.all_eq_true.mpr fun d hd => decide_eq_true ?_)
  have := (isDigit_iff d).mp (h d hd)
  omega

/-- The byte of a digit has the number of its character. -/
theorem toNat_toUInt8 {c : Char} (h : c.isDigit = true) : c.toUInt8.toNat = c.toNat := by
  have := (isDigit_iff c).mp h
  change (UInt8.ofNat c.toNat).toNat = c.toNat
  rw [UInt8.toNat_ofNat']
  omega

/-- Digits have the same value as characters and as bytes. -/
theorem numeral_ascii {ds : List Char} (h : ∀ d ∈ ds, d.isDigit = true) :
    numeral (ascii ds) = Nat.ofDigitChars 10 ds 0 := by
  unfold numeral
  -- for the induction the value so far may be any
  generalize 0 = n
  induction ds generalizing n with
  | nil => rfl
  | cons d ds ih =>
    obtain ⟨hd, hDigits⟩ := List.forall_mem_cons.mp h
    rw [Nat.ofDigitChars_cons, ← ih hDigits]
    change List.foldl _ (n * 10 + (d.toUInt8.toNat - 48)) (ascii ds) = _
    rw [toNat_toUInt8 hd, Nat.mul_comm]
    rfl

theorem isDigit_of_mem_decimal (n : Nat) : ∀ d ∈ decimal n, d.isDigit = true := fun _ hd =>
  Nat.isDigit_of_mem_toDigits (by decide) (by decide) hd

theorem numeral_decimal (n : Nat) : numeral (encode (decimal n)) = n := by
  have hDigits := isDigit_of_mem_decimal n
  rw [encode_digits hDigits, numeral_ascii hDigits]
  exact Nat.ofDigitChars_ten_toDigits

/-- The decimal text of a number has no zeros in front. The induction takes off
the last digit, since it is the first one that is asked for. -/
theorem head?_decimal {n : Nat} (h : 0 < n) : (decimal n).head? ≠ some '0' := by
  unfold decimal
  -- the first digit of a number is that of the number without its last digit
  induction n using Nat.base_induction 10 (by decide) with
  | single m hm =>
    rw [Nat.toDigits_of_lt_base hm, List.head?_cons, ne_eq, Option.some.injEq, Nat.digitChar_eq_zero]
    omega
  | digit m k hk hm ih =>
    rw [← Nat.toDigits_append_toDigits (by decide) hm hk, List.head?_append_of_ne_nil _ Nat.toDigits_ne_nil]
    exact ih hm

/-- The decimal text of a number is an integer of the grammar: a zero alone, or
digits with no zero in front. -/
theorem isInteger_decimal (n : Nat) : IsInteger (encode (decimal n)) := by
  have hDigits := isDigit_of_mem_decimal n
  rw [encode_digits hDigits]
  rcases Nat.eq_zero_or_pos n with rfl | hPos
  · exact .inl rfl
  refine .inr ⟨⟨by simp [ascii, decimal], ?_⟩, ?_⟩
  -- the byte of a digit has the number of the digit
  · intro d hd
    obtain ⟨c, hc, rfl⟩ := List.mem_map.mp hd
    have hRange := (isDigit_iff c).mp (hDigits c hc)
    rw [← toNat_toUInt8 (hDigits c hc)] at hRange
    simp only [isDigit, Bool.and_eq_true, decide_eq_true_eq, UInt8.le_iff_toNat_le]
    exact hRange
  -- the byte in front is a zero only if the digit in front is
  · intro hZero
    have hHead := head?_decimal hPos
    cases hCase : decimal n with
    | nil => rw [hCase] at hZero; cases hZero
    | cons d ds =>
      rw [hCase] at hDigits hHead hZero
      have hByte := congrArg UInt8.toNat (Option.some.inj hZero)
      rw [toNat_toUInt8 (hDigits d List.mem_cons_self)] at hByte
      exact hHead (congrArg some (Char.toNat_inj.mp hByte))

/-! ## White space -/

/-- A new line and its indentation are white space of the grammar. -/
theorem space_newLine (level : Nat) (rest : List UInt8) :
    Space (encode (Value.newLine level) ++ rest) rest := by
  have hBlank : ∀ c ∈ Value.newLine level, c = '\n' ∨ c = ' ' := by
    intro c hc
    rcases List.mem_cons.mp hc with rfl | hc
    · exact .inl rfl
    · exact .inr (List.eq_of_mem_replicate hc)
  refine ⟨_, ?_, rfl⟩
  rw [encode_ascii (List.all_eq_true.mpr fun c hc => by rcases hBlank c hc with rfl | rfl <;> decide)]
  intro b hb
  obtain ⟨c, hc, rfl⟩ := List.mem_map.mp hb
  rcases hBlank c hc with rfl | rfl <;> decide

/-! ## Values -/

namespace Value

mutual

/-- What the text of a value holds. -/
def tree : Value → Tree
  | null => .null
  | number n => .number (encode (decimal n))
  | string text => .string (content text)
  | list values => .list (trees values)
  | object members => .object (entries members)

/-- What the texts of values hold. -/
def trees : List Value → List Tree
  | [] => []
  | v :: more => tree v :: trees more

/-- What the texts of members hold. -/
def entries : List (String × Value) → List (List UInt8 × Tree)
  | [] => []
  | (key, v) :: more => (content key, tree v) :: entries more

end

theorem trees_eq_map (vs : List Value) : trees vs = vs.map tree := by
  induction vs with
  | nil => rfl
  | cons v vs ih => rw [trees, ih, List.map_cons]

/-- The members of an object are written under their keys. -/
theorem named_entries (ms : List (String × Value)) :
    Named (entries ms) (ms.map fun m => (m.1, m.2.tree)) := by
  induction ms with
  | nil => exact .nil
  | cons m ms ih => exact .cons ⟨spells_content m.1, rfl⟩ ih

theorem isString_tree (text : String) : (string text).tree.IsString text :=
  ⟨content text, rfl, spells_content text⟩

theorem isNatural_tree (n : Nat) : (number n).tree.IsNatural n :=
  ⟨_, rfl, (isInteger_decimal n).digits, numeral_decimal n⟩

/-- What stands before a member in a text. -/
def comma (first : Bool) : List UInt8 :=
  if first then [] else [','.toUInt8]

/-- In an indented text every member stands on a line of its own, behind a comma
unless it is the first. -/
theorem lead_newLine (first : Bool) (level : Nat) (start : List UInt8) :
    Lead first (comma first ++ (encode (newLine level) ++ start)) start := by
  cases first with
  | true => exact space_newLine level start
  | false => exact ⟨_, .refl _, space_newLine level start⟩

/-- The text of a list or an object with members: its brackets around them, on a
line of their own. -/
theorem encode_brackets (f : Frame) {opener closer : Char} (hOpener : encodeChar opener = [f.opener])
    (hCloser : encodeChar closer = [f.closer]) (inner : List Char) (level : Nat) (rest : List UInt8) :
    encode ([opener] ++ inner ++ newLine level ++ [closer]) ++ rest =
      f.opener :: (comma true ++ (encode inner ++ (encode (newLine level) ++ f.closer :: rest))) := by
  simp [hOpener, hCloser, comma]

/-- Members of a text stand behind a new line and before a comma. The comma is
the writer's last sign of one member and the grammar's first of the next, so the
two sides group the bytes in different ways. -/
theorem encode_comma (level : Nat) (member more : List Char) (rest : List UInt8) :
    encode (newLine level ++ member ++ [','] ++ more) ++ rest =
      encode (newLine level) ++ (encode member ++ (comma false ++ (encode more ++ rest))) := by
  have hComma : encodeChar ',' = [','.toUInt8] := by decide
  simp [hComma, comma]

/-- A member is its key in quotation marks, a colon and its value, with white
space behind the colon as the text likes: the indented one has a blank there,
and the compact one nothing. -/
theorem partAt_entry (key : String) {gap text : List Char} {t : Tree} {rest : List UInt8}
    (hGap : ∀ more, Space (encode gap ++ more) more) (h : ValueAt (encode text ++ rest) t rest) :
    PartAt .object (encode (quote key ++ ':' :: gap ++ text) ++ rest) (content key, t) rest := by
  have hColon : encode (':' :: gap) = ':'.toUInt8 :: encode gap := by
    rw [Utf8.encode_cons, Utf8.encodeChar_of_lt (by decide)]
    rfl
  have hBytes : encode (quote key ++ ':' :: gap ++ text) ++ rest =
      encode (quote key) ++ (encode (':' :: gap) ++ (encode text ++ rest)) := by
    rw [Utf8.encode_append, Utf8.encode_append, List.append_assoc, List.append_assoc]
  rw [hBytes, encode_quote, hColon]
  exact .entry (spells_content key).isContent (.refl _) (hGap _) h

theorem space_blank (more : List UInt8) : Space (encode [' '] ++ more) more := by
  have hBlank : encode [' '] = [' '.toUInt8] := by decide
  rw [hBlank]
  exact ⟨[' '.toUInt8], List.forall_mem_singleton.mpr (by decide), rfl⟩

mutual

/-- The indented text of a value, at any level, is the value. This and the next
two theorems are proved together, by the recursion of the writer through values,
items and members. -/
theorem valueAt_indentedAt : ∀ (v : Value) (level : Nat) (rest : List UInt8),
    ValueAt (encode (v.indentedAt level) ++ rest) v.tree rest
  | null, level, rest => by
    rw [indentedAt, encode_ascii (by decide)]
    exact .null rest
  | number n, level, rest => by
    rw [indentedAt]
    exact .number rest (isInteger_decimal n).isNumber
  | string text, level, rest => by
    rw [indentedAt, encode_quote]
    exact .string rest (spells_content text).isContent
  | list [], level, rest => by
    rw [indentedAt, encode_ascii (by decide)]
    exact .list (.close (.refl _))
  | list (v :: more), level, rest => by
    have hParts := partsAt_indentedItems (v :: more) (level + 1) true (List.cons_ne_nil _ _)
      (space_newLine level (']'.toUInt8 :: rest))
    -- the brackets stand around the items, and the second on a line of its own
    rw [indentedAt, encode_brackets .list (by decide) (by decide)]
    · exact .of_items hParts
    · exact List.cons_ne_nil _ _
  | object [], level, rest => by
    rw [indentedAt, encode_ascii (by decide)]
    exact .object (.close (.refl _))
  | object (m :: more), level, rest => by
    have hParts := partsAt_indentedMembers (m :: more) (level + 1) true (List.cons_ne_nil _ _)
      (space_newLine level ('\x7d'.toUInt8 :: rest))
    rw [indentedAt, encode_brackets .object (by decide) (by decide)]
    · exact .object hParts
    · exact List.cons_ne_nil _ _

/-- The items of a list, each on its line, up to the bracket behind them. The
writer puts a comma behind every item but the last, so an item alone and an item
with others are different cases. -/
theorem partsAt_indentedItems : ∀ (vs : List Value) (level : Nat) (first : Bool) {close rest : List UInt8},
    vs ≠ [] → Space close (']'.toUInt8 :: rest) →
      PartsAt .list first (comma first ++ (encode (indentedItems level vs) ++ close)) (items (trees vs)) rest
  | [], _, _, _, _, hNil, _ => absurd rfl hNil
  | [v], level, first, close, rest, _, hClose => by
    rw [indentedItems, Utf8.encode_append, List.append_assoc]
    exact .part (lead_newLine first level _) (.item (valueAt_indentedAt v level close)) (.close hClose)
  | v :: w :: more, level, first, close, rest, _, hClose => by
    -- the items behind this one are written with a comma in front
    have hMore := partsAt_indentedItems (w :: more) level false (List.cons_ne_nil _ _) hClose
    have hValue := valueAt_indentedAt v level
      (comma false ++ (encode (indentedItems level (w :: more)) ++ close))
    rw [indentedItems, encode_comma]
    · exact .part (lead_newLine first level _) (.item hValue) hMore
    · exact List.cons_ne_nil _ _

/-- The members of an object, each on its line, up to the bracket behind
them. -/
theorem partsAt_indentedMembers : ∀ (ms : List (String × Value)) (level : Nat) (first : Bool)
    {close rest : List UInt8}, ms ≠ [] → Space close ('\x7d'.toUInt8 :: rest) →
      PartsAt .object first (comma first ++ (encode (indentedMembers level ms) ++ close)) (entries ms) rest
  | [], _, _, _, _, hNil, _ => absurd rfl hNil
  | [(key, v)], level, first, close, rest, _, hClose => by
    have hPart := partAt_entry key space_blank (valueAt_indentedAt v level close)
    -- key and value on one line, the value at this level
    rw [indentedMembers, List.append_assoc, List.append_assoc, ← List.append_assoc (quote key),
      Utf8.encode_append, List.append_assoc]
    exact .part (lead_newLine first level _) hPart (.close hClose)
  | (key, v) :: m :: more, level, first, close, rest, _, hClose => by
    have hMore := partsAt_indentedMembers (m :: more) level false (List.cons_ne_nil _ _) hClose
    have hPart := partAt_entry key space_blank (valueAt_indentedAt v level
      (comma false ++ (encode (indentedMembers level (m :: more)) ++ close)))
    -- `encode_comma` speaks of a member as a whole
    have hMember : newLine level ++ quote key ++ [':', ' '] ++ v.indentedAt level =
        newLine level ++ (quote key ++ [':', ' '] ++ v.indentedAt level) := by
      simp only [List.append_assoc]
    rw [indentedMembers, hMember, encode_comma]
    · exact .part (lead_newLine first level _) hPart hMore
    · exact List.cons_ne_nil _ _

end

/-- The indented text of a value is a document of it, with nothing around it. -/
theorem document_indented (v : Value) : Document (encode v.indented) v.tree := by
  have hValue := valueAt_indentedAt v 0 []
  rw [List.append_nil] at hValue
  exact ⟨_, [], .refl _, hValue, .refl _⟩

/-! ### Without white space -/

theorem space_nil (more : List UInt8) : Space (encode [] ++ more) more :=
  .refl more

theorem lead_comma (first : Bool) (start : List UInt8) : Lead first (comma first ++ start) start := by
  cases first with
  | true => exact .refl start
  | false => exact ⟨start, .refl _, .refl start⟩

theorem encode_closed (f : Frame) {opener closer : Char} (hOpener : encodeChar opener = [f.opener])
    (hCloser : encodeChar closer = [f.closer]) (inner : List Char) (rest : List UInt8) :
    encode ([opener] ++ inner ++ [closer]) ++ rest = f.opener :: (encode inner ++ f.closer :: rest) := by
  simp [hOpener, hCloser]

/-- Members of a text without white space stand before a comma. -/
theorem encode_comma_compact (member more : List Char) (rest : List UInt8) :
    encode (member ++ [','] ++ more) ++ rest =
      encode member ++ (comma false ++ (encode more ++ rest)) := by
  have hComma : encodeChar ',' = [','.toUInt8] := by decide
  simp [hComma, comma]

mutual

/-- The compact text of a value is the value, by the same recursion as the
indented one. -/
theorem valueAt_compact : ∀ (v : Value) (rest : List UInt8), ValueAt (encode v.compact ++ rest) v.tree rest
  | null, rest => by
    rw [compact, encode_ascii (by decide)]
    exact .null rest
  | number n, rest => by
    rw [compact]
    exact .number rest (isInteger_decimal n).isNumber
  | string text, rest => by
    rw [compact, encode_quote]
    exact .string rest (spells_content text).isContent
  | list [], rest => by
    rw [compact, compactItems, encode_closed .list (by decide) (by decide)]
    exact .list (.close (.refl _))
  | list (v :: more), rest => by
    -- no line break in front of the bracket, so nothing has to be skipped there
    have hParts := partsAt_compactItems (v :: more) true rest (List.cons_ne_nil _ _)
    rw [compact, encode_closed .list (by decide) (by decide)]
    exact .of_items hParts
  | object [], rest => by
    rw [compact, compactMembers, encode_closed .object (by decide) (by decide)]
    exact .object (.close (.refl _))
  | object (m :: more), rest => by
    have hParts := partsAt_compactMembers (m :: more) true rest (List.cons_ne_nil _ _)
    rw [compact, encode_closed .object (by decide) (by decide)]
    exact .object hParts

/-- The items of a list up to the bracket behind them. -/
theorem partsAt_compactItems : ∀ (vs : List Value) (first : Bool) (rest : List UInt8), vs ≠ [] →
    PartsAt .list first (comma first ++ (encode (compactItems vs) ++ ']'.toUInt8 :: rest)) (items (trees vs))
      rest
  | [], _, _, hNil => absurd rfl hNil
  | [v], first, rest, _ => by
    have hValue := valueAt_compact v (']'.toUInt8 :: rest)
    rw [compactItems]
    exact .part (lead_comma first _) (.item hValue) (.close (.refl _))
  | v :: w :: more, first, rest, _ => by
    have hMore := partsAt_compactItems (w :: more) false rest (List.cons_ne_nil _ _)
    have hValue := valueAt_compact v
      (comma false ++ (encode (compactItems (w :: more)) ++ ']'.toUInt8 :: rest))
    -- what follows the comma begins with the next item
    rw [compactItems, encode_comma_compact]
    · exact .part (lead_comma first _) (.item hValue) hMore
    · exact List.cons_ne_nil _ _

/-- The members of an object up to the bracket behind them. -/
theorem partsAt_compactMembers : ∀ (ms : List (String × Value)) (first : Bool) (rest : List UInt8), ms ≠ [] →
    PartsAt .object first (comma first ++ (encode (compactMembers ms) ++ '\x7d'.toUInt8 :: rest)) (entries ms)
      rest
  | [], _, _, hNil => absurd rfl hNil
  | [(key, v)], first, rest, _ => by
    have hPart := partAt_entry key space_nil (valueAt_compact v ('\x7d'.toUInt8 :: rest))
    rw [compactMembers]
    exact .part (lead_comma first _) hPart (.close (.refl _))
  | (key, v) :: m :: more, first, rest, _ => by
    have hMore := partsAt_compactMembers (m :: more) false rest (List.cons_ne_nil _ _)
    have hPart := partAt_entry key space_nil (valueAt_compact v
      (comma false ++ (encode (compactMembers (m :: more)) ++ '\x7d'.toUInt8 :: rest)))
    rw [compactMembers, encode_comma_compact]
    · exact .part (lead_comma first _) hPart hMore
    · exact List.cons_ne_nil _ _

end

/-- The compact text of a value is a document of it, with nothing around it. -/
theorem document_compact (v : Value) : Document (encode v.compact) v.tree := by
  have hValue := valueAt_compact v []
  rw [List.append_nil] at hValue
  exact ⟨_, [], .refl _, hValue, .refl _⟩

end Value

end RemoteConsole.Json
