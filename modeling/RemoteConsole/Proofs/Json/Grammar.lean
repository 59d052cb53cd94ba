import Mathlib.Data.List.Basic
import RemoteConsole.Json.Skip

/-!
# The grammar of documents

What a JSON document is, apart from any reader of it. Every part of the grammar
relates bytes to what they hold and to the bytes behind it, so that parts are
put one after the other without cutting lists.

Strings are kept as they stand in the document. A string that somebody asks for
has to be text, which `Spells` says; in a string that nobody asks for any byte
may stand that is no control.

* `Tree` — what a document holds.
* `IsNumber`, `IsContent`, `Spells` — numbers and strings.
* `ValueAt`, `PartAt`, `PartsAt` — a value, a member of a list or an object, and
  all members up to the closing bracket.
* `Document` — a value with white space around it.
-/

namespace RemoteConsole.Json

/-- What a document holds. -/
inductive Tree where
  | null
  | boolean (b : Bool)
  /-- A number, by its digits and signs. -/
  | number (literal : List UInt8)
  /-- A string, by the bytes between its marks. -/
  | string (content : List UInt8)
  | list (items : List Tree)
  /-- An object, by its keys and their values. -/
  | object (members : List (List UInt8 × Tree))

/-- The bytes of a word of ASCII. -/
def ascii (word : List Char) : List UInt8 :=
  word.map Char.toUInt8

/-! ## White space -/

/-- White space leads from the first bytes to the others. -/
def Space (bytes rest : List UInt8) : Prop :=
  ∃ space : List UInt8, (∀ b ∈ space, Decoder.isSpace b = true) ∧ bytes = space ++ rest

/-! ## Numbers -/

/-- One decimal digit or more. -/
def IsDigits (ds : List UInt8) : Prop :=
  ds ≠ [] ∧ ∀ d ∈ ds, isDigit d = true

/-- The integer part of a number has no zeros in front. -/
def IsInteger (ds : List UInt8) : Prop :=
  ds = ['0'.toUInt8] ∨ IsDigits ds ∧ ds.head? ≠ some '0'.toUInt8

/-- The fraction of a number, if it has one. -/
def IsFraction (bytes : List UInt8) : Prop :=
  bytes = [] ∨ ∃ ds, IsDigits ds ∧ bytes = '.'.toUInt8 :: ds

/-- The sign in an exponent, if it has one. -/
def IsSign (bytes : List UInt8) : Prop :=
  bytes = [] ∨ bytes = ['+'.toUInt8] ∨ bytes = ['-'.toUInt8]

/-- The exponent of a number, if it has one. -/
def IsExponent (bytes : List UInt8) : Prop :=
  bytes = [] ∨ ∃ mark sign ds, Decoder.isExponentMark (some mark) = true ∧ IsSign sign ∧
    IsDigits ds ∧ bytes = mark :: (sign ++ ds)

/-- A number without a sign in front. -/
def IsMagnitude (bytes : List UInt8) : Prop :=
  ∃ int fraction exponent, IsInteger int ∧ IsFraction fraction ∧ IsExponent exponent ∧
    bytes = int ++ (fraction ++ exponent)

/-- A number. -/
def IsNumber (literal : List UInt8) : Prop :=
  IsMagnitude literal ∨ ∃ magnitude, IsMagnitude magnitude ∧ literal = '-'.toUInt8 :: magnitude

/-- The value of a run of decimal digits. -/
def numeral (ds : List UInt8) : Nat :=
  ds.foldl (fun n d => n * 10 + digitValue d) 0

/-! ## Strings -/

/-- The letters that may stand behind a backslash, and the characters that they
stand for. -/
def letters : List (Char × Char) :=
  [('"', '"'), ('\\', '\\'), ('/', '/'), ('b', '\x08'), ('f', '\x0c'), ('n', '\n'), ('r', '\r'),
    ('t', '\t')]

/-- Four hexadecimal digits and their number. -/
def FourDigits (ds : List UInt8) (n : Nat) : Prop :=
  ds.length = 4 ∧ Hex.number? (ds.map UInt8.toNat) = some n

/-- A byte that stands for itself in a string: no mark, no backslash and no
control. -/
def IsPlain (b : UInt8) : Prop :=
  b ≠ '"'.toUInt8 ∧ b ≠ '\\'.toUInt8 ∧ 0x20 ≤ b.toNat

/-- An escape behind its backslash. -/
inductive IsEscape : List UInt8 → Prop
  | letter {l c : Char} : (l, c) ∈ letters → IsEscape [l.toUInt8]
  | code {ds : List UInt8} {n : Nat} : FourDigits ds n → IsEscape ('u'.toUInt8 :: ds)

/-- The bytes of a string. -/
inductive IsContent : List UInt8 → Prop
  | nil : IsContent []
  | plain {b : UInt8} {raw : List UInt8} : IsPlain b → IsContent raw → IsContent (b :: raw)
  | escape {e raw : List UInt8} :
      IsEscape e → IsContent raw → IsContent ('\\'.toUInt8 :: (e ++ raw))

/-- The code that the halves of a surrogate pair write: ten bits each of what it
is above 65536. -/
def joined (high low : Nat) : Nat :=
  0x10000 + (high - 0xD800) * 1024 + (low - 0xDC00)

/-- The escapes of a character, behind the first backslash. -/
inductive Escapes : List UInt8 → Char → Prop
  | letter {l c : Char} : (l, c) ∈ letters → Escapes [l.toUInt8] c
  | code {ds : List UInt8} {n : Nat} :
      FourDigits ds n → n < 0xD800 ∨ 0xDFFF < n → Escapes ('u'.toUInt8 :: ds) (Char.ofNat n)
  | pair {hs ls : List UInt8} {high low : Nat} :
      FourDigits hs high → 0xD800 ≤ high ∧ high ≤ 0xDBFF →
      FourDigits ls low → 0xDC00 ≤ low ∧ low ≤ 0xDFFF →
        Escapes ('u'.toUInt8 :: (hs ++ '\\'.toUInt8 :: 'u'.toUInt8 :: ls))
          (Char.ofNat (joined high low))

/-- The bytes of a string that is a text, and the text. A character stands for
itself by all its bytes, or it is escaped. -/
inductive Spells : List UInt8 → List Char → Prop
  | nil : Spells [] []
  | plain {c : Char} {raw : List UInt8} {text : List Char} :
      c ≠ '"' → c ≠ '\\' → 0x20 ≤ c.toNat → Spells raw text →
        Spells (Utf8.encodeChar c ++ raw) (c :: text)
  | escape {c : Char} {e raw : List UInt8} {text : List Char} :
      Escapes e c → Spells raw text → Spells ('\\'.toUInt8 :: (e ++ raw)) (c :: text)

/-- A value is the string of a text. -/
def Tree.IsString (t : Tree) (s : String) : Prop :=
  ∃ raw, t = .string raw ∧ Spells raw s.toList

/-- A value is a natural number, written as an integer. -/
def Tree.IsNatural (t : Tree) (n : Nat) : Prop :=
  ∃ ds, t = .number ds ∧ (∀ d ∈ ds, isDigit d = true) ∧ numeral ds = n

/-! ## Values -/

/-- What stands before a member of a list or an object: a comma, unless it is
the first one. -/
def Lead (first : Bool) (bytes start : List UInt8) : Prop :=
  match first with
  | true => Space bytes start
  | false => ∃ behind, Space bytes (','.toUInt8 :: behind) ∧ Space behind start

mutual

/-- A value at the front of some bytes, and the bytes behind it. -/
inductive ValueAt : List UInt8 → Tree → List UInt8 → Prop
  | null (rest : List UInt8) : ValueAt (ascii ['n', 'u', 'l', 'l'] ++ rest) .null rest
  | isTrue (rest : List UInt8) : ValueAt (ascii ['t', 'r', 'u', 'e'] ++ rest) (.boolean true) rest
  | isFalse (rest : List UInt8) :
      ValueAt (ascii ['f', 'a', 'l', 's', 'e'] ++ rest) (.boolean false) rest
  | number {literal : List UInt8} (rest : List UInt8) :
      IsNumber literal → ValueAt (literal ++ rest) (.number literal) rest
  | string {raw : List UInt8} (rest : List UInt8) :
      IsContent raw → ValueAt ('"'.toUInt8 :: (raw ++ '"'.toUInt8 :: rest)) (.string raw) rest
  | list {bytes rest : List UInt8} {parts : List (List UInt8 × Tree)} :
      PartsAt .list true bytes parts rest →
        ValueAt ('['.toUInt8 :: bytes) (.list (parts.map Prod.snd)) rest
  | object {bytes rest : List UInt8} {parts : List (List UInt8 × Tree)} :
      PartsAt .object true bytes parts rest → ValueAt ('\x7b'.toUInt8 :: bytes) (.object parts) rest

/-- A member of a list or an object. Members of lists have no keys. -/
inductive PartAt : Frame → List UInt8 → List UInt8 × Tree → List UInt8 → Prop
  | item {bytes rest : List UInt8} {t : Tree} :
      ValueAt bytes t rest → PartAt .list bytes ([], t) rest
  | entry {key behind colon start rest : List UInt8} {t : Tree} :
      IsContent key → Space behind (':'.toUInt8 :: colon) → Space colon start →
        ValueAt start t rest →
          PartAt .object ('"'.toUInt8 :: (key ++ '"'.toUInt8 :: behind)) (key, t) rest

/-- The members of a list or an object that are left, up to its closing
bracket. -/
inductive PartsAt : Frame → Bool → List UInt8 → List (List UInt8 × Tree) → List UInt8 → Prop
  | close {f : Frame} {first : Bool} {bytes rest : List UInt8} :
      Space bytes (f.closer :: rest) → PartsAt f first bytes [] rest
  | part {f : Frame} {first : Bool} {bytes start mid rest : List UInt8} {p : List UInt8 × Tree}
      {parts : List (List UInt8 × Tree)} :
      Lead first bytes start → PartAt f start p mid → PartsAt f false mid parts rest →
        PartsAt f first bytes (p :: parts) rest

end

/-- The byte that starts a list or an object. -/
def Frame.opener : Frame → UInt8
  | list => '['.toUInt8
  | object => '\x7b'.toUInt8

/-- Members up to a closing bracket make a value with the bracket that opens
them. -/
theorem PartsAt.exists_value {f : Frame} {bytes rest : List UInt8} {parts : List (List UInt8 × Tree)}
    (h : PartsAt f true bytes parts rest) : ∃ t, ValueAt (f.opener :: bytes) t rest := by
  cases f with
  | list => exact ⟨_, .list h⟩
  | object => exact ⟨_, .object h⟩

/-- A document: a value with nothing but white space around it. -/
def Document (body : List UInt8) (t : Tree) : Prop :=
  ∃ start rest, Space body start ∧ ValueAt start t rest ∧ Space rest []

/-! ## White space leads on -/

namespace Space

theorem refl (bytes : List UInt8) : Space bytes bytes :=
  ⟨[], by simp, rfl⟩

/-- White space goes on with white space. -/
theorem trans {a b c : List UInt8} (h : Space a b) (h' : Space b c) : Space a c := by
  obtain ⟨s, hs, rfl⟩ := h
  obtain ⟨s', hs', rfl⟩ := h'
  exact ⟨s ++ s', List.forall_mem_append.mpr ⟨hs, hs'⟩, (List.append_assoc ..).symm⟩

theorem length_le {bytes rest : List UInt8} (h : Space bytes rest) :
    rest.length ≤ bytes.length := by
  obtain ⟨s, -, rfl⟩ := h
  simp

theorem of_dropWhile (bytes : List UInt8) : Space bytes (bytes.dropWhile Decoder.isSpace) :=
  ⟨bytes.takeWhile Decoder.isSpace, List.all_eq_true.mp List.all_takeWhile,
    List.takeWhile_append_dropWhile.symm⟩

theorem dropWhile_eq {bytes rest : List UInt8} (h : Space bytes rest) :
    bytes.dropWhile Decoder.isSpace = rest.dropWhile Decoder.isSpace := by
  obtain ⟨s, hs, rfl⟩ := h
  exact List.dropWhile_append_of_pos hs

end Space

/-! ## How values start -/

theorem isSpace_iff {b : UInt8} :
    Decoder.isSpace b = true ↔
      b = ' '.toUInt8 ∨ b = '\n'.toUInt8 ∨ b = '\t'.toUInt8 ∨ b = '\r'.toUInt8 := by
  simp [Decoder.isSpace, or_assoc]

theorem isExponentMark_iff {b : UInt8} :
    Decoder.isExponentMark (some b) = true ↔ b = 'e'.toUInt8 ∨ b = 'E'.toUInt8 := by
  simp [Decoder.isExponentMark]

theorem isSpace_of_isDigit {b : UInt8} (h : isDigit b = true) : Decoder.isSpace b = false := by
  rw [← Bool.not_eq_true, isSpace_iff]
  rintro (rfl | rfl | rfl | rfl) <;> exact absurd h (by decide)

/-- An integer starts with a digit. -/
theorem IsInteger.head {ds : List UInt8} (h : IsInteger ds) :
    ∃ d more, ds = d :: more ∧ isDigit d = true := by
  rcases h with rfl | ⟨⟨hNil, hDigits⟩, -⟩
  · exact ⟨_, [], rfl, by decide⟩
  · obtain ⟨d, more, rfl⟩ := List.exists_cons_of_ne_nil hNil
    exact ⟨d, more, rfl, hDigits d List.mem_cons_self⟩

/-- So does a number without a sign. -/
theorem IsMagnitude.head {magnitude : List UInt8} (h : IsMagnitude magnitude) :
    ∃ d more, magnitude = d :: more ∧ isDigit d = true := by
  obtain ⟨int, fraction, exponent, hInt, -, -, rfl⟩ := h
  obtain ⟨d, more, rfl, hd⟩ := hInt.head
  exact ⟨d, _, rfl, hd⟩

/-- A number takes a byte at least. -/
theorem IsNumber.ne_nil {literal : List UInt8} (h : IsNumber literal) : literal ≠ [] := by
  rcases h with hMagnitude | ⟨magnitude, -, rfl⟩
  · obtain ⟨d, more, rfl, -⟩ := hMagnitude.head
    exact List.cons_ne_nil _ _
  · exact List.cons_ne_nil _ _

/-- A value starts with a digit or with one of a few other bytes, which are
neither white space nor closing brackets. So a reader that looks at the next
byte can tell a value from the end of a list or an object. -/
theorem ValueAt.head {bytes rest : List UInt8} {t : Tree} (h : ValueAt bytes t rest) :
    ∃ b more, bytes = b :: more ∧ Decoder.isSpace b = false ∧ ∀ f : Frame, b ≠ f.closer := by
  -- all values but the numbers without a sign start with one of seven bytes
  have hMark : ∀ b ∈ ascii ['-', '"', '[', '\x7b', 'n', 't', 'f'],
      Decoder.isSpace b = false ∧ ∀ f : Frame, b ≠ f.closer := by
    intro b hb
    have hAll : (ascii ['-', '"', '[', '\x7b', 'n', 't', 'f']).all (fun b => Decoder.isSpace b = false ∧
        b ≠ Frame.list.closer ∧ b ≠ Frame.object.closer) = true := by decide
    obtain ⟨hSpace, hList, hObject⟩ := of_decide_eq_true (List.all_eq_true.mp hAll b hb)
    exact ⟨hSpace, fun f => by cases f <;> assumption⟩
  have hDigit : ∀ b, isDigit b = true → Decoder.isSpace b = false ∧ ∀ f : Frame, b ≠ f.closer := by
    refine fun b hb => ⟨isSpace_of_isDigit hb, fun f => ?_⟩
    rintro rfl
    cases f <;> exact absurd hb (by decide)
  -- a number without a sign begins with a digit, and every other value with one
  -- of those bytes
  cases h with
  | number _ hNumber =>
    rcases hNumber with hMagnitude | ⟨magnitude, -, rfl⟩
    · obtain ⟨d, more, rfl, hd⟩ := hMagnitude.head
      exact ⟨d, _, rfl, hDigit d hd⟩
    · exact ⟨_, _, rfl, hMark _ (by decide)⟩
  | _ => exact ⟨_, _, rfl, hMark _ (by decide)⟩

/-- A member starts with its value or with the mark of its key, neither of which
closes the bracket. -/
theorem PartAt.head {f : Frame} {bytes rest : List UInt8} {p : List UInt8 × Tree}
    (h : PartAt f bytes p rest) :
    ∃ b more, bytes = b :: more ∧ Decoder.isSpace b = false ∧ b ≠ f.closer := by
  cases h with
  | item hValue =>
    obtain ⟨b, more, rfl, hb, hCloser⟩ := hValue.head
    exact ⟨b, more, rfl, hb, hCloser _⟩
  | entry => exact ⟨_, _, rfl, by decide, by decide⟩

/-- What stands before a member is led through, not back. -/
theorem Lead.length_le {first : Bool} {bytes start : List UInt8} (h : Lead first bytes start) :
    start.length ≤ bytes.length := by
  cases first with
  | true => exact Space.length_le h
  | false =>
    obtain ⟨behind, hComma, hSpace⟩ := h
    exact Nat.le_trans hSpace.length_le (Nat.le_of_lt hComma.length_le)

mutual

/-- A value takes at least one byte. This is proved together with the same of
members, by the recursion of the grammar, and it is what lets a reader's fuel
last. -/
theorem ValueAt.length_lt : ∀ {bytes rest : List UInt8} {t : Tree}, ValueAt bytes t rest →
    rest.length < bytes.length
  | _, _, _, .null _ | _, _, _, .isTrue _ | _, _, _, .isFalse _ => by simp [ascii]; omega
  | _, _, _, .number _ hNumber => by
    have := List.length_pos_iff.mpr hNumber.ne_nil
    rw [List.length_append]
    omega
  | _, _, _, .string _ _ => by simp; omega
  | _, _, _, .list hParts | _, _, _, .object hParts => by
    have := hParts.length_lt
    rw [List.length_cons]
    omega

/-- A member takes at least one byte. -/
theorem PartAt.length_lt : ∀ {f : Frame} {bytes rest : List UInt8} {p : List UInt8 × Tree},
    PartAt f bytes p rest → rest.length < bytes.length
  | _, _, _, _, .item hValue => hValue.length_lt
  | _, _, _, _, .entry _ hColon hStart hValue => by
    -- the white space around the colon takes bytes or none
    have hLength := hColon.length_le
    have hLength' := hStart.length_le
    have := hValue.length_lt
    simp only [List.length_cons, List.length_append] at hLength ⊢
    omega

/-- Members up to the closing bracket take at least that one byte. -/
theorem PartsAt.length_lt : ∀ {f : Frame} {first : Bool} {bytes rest : List UInt8}
    {parts : List (List UInt8 × Tree)}, PartsAt f first bytes parts rest → rest.length < bytes.length
  | _, _, _, _, _, .close hSpace => hSpace.length_le
  | _, _, _, _, _, .part hLead hPart hParts => by
    have := hLead.length_le
    have := hPart.length_lt
    have := hParts.length_lt
    omega

end

end RemoteConsole.Json
