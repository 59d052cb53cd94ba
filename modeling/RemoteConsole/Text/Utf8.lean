/-!
# UTF-8

Text travels as bytes. Reading is either lossy, with one replacement character
for every run of bytes that starts a character and does not finish it, or
strict, with the place of the first such run.

* `encodeChar`, `encode` — the bytes of a character and of a text.
* `step` — the character that a text of bytes starts with; `length_step` says
  that it goes forward.
* `decodeLossy`, `decode?` — a whole text.
-/

namespace RemoteConsole.Utf8

/-! ## Writing -/

/-- A continuation byte with the lowest six bits of a code. -/
def tailByte (code : Nat) : UInt8 :=
  UInt8.ofNat (0x80 + code % 64)

/-- The bytes of a character. -/
def encodeChar (c : Char) : List UInt8 :=
  let n := c.toNat
  if n < 0x80 then [UInt8.ofNat n]
  else if n < 0x800 then [UInt8.ofNat (0xC0 + n / 64), tailByte n]
  else if n < 0x10000 then [UInt8.ofNat (0xE0 + n / 4096), tailByte (n / 64), tailByte n]
  else
    [UInt8.ofNat (0xF0 + n / 262144), tailByte (n / 4096), tailByte (n / 64), tailByte n]

/-- The bytes of a text. -/
def encode (text : List Char) : List UInt8 :=
  text.flatMap encodeChar

/-- The number of bytes of a text. -/
def size (text : String) : Nat :=
  (encode text.toList).length

/-! ## Reading -/

/-- How a text of bytes starts. -/
inductive Step where
  /-- A character, and the bytes after it. -/
  | char (c : Char) (rest : List UInt8)
  /-- Bytes that finish no character, and those after them. -/
  | malformed (rest : List UInt8)
  /-- The text ends within a character. -/
  | truncated
  deriving DecidableEq, Repr

/-- The bytes that a step leaves. -/
def Step.rest : Step → List UInt8
  | char _ rest => rest
  | malformed rest => rest
  | truncated => []

/-- The number of bytes of the characters that a lead byte starts, zero if there
are none. -/
def width (lead : UInt8) : Nat :=
  if lead < 0xC2 then 0
  else if lead < 0xE0 then 2
  else if lead < 0xF0 then 3
  else if lead < 0xF5 then 4
  else 0

/-- Whether a byte continues a character. -/
def isTail (b : UInt8) : Bool :=
  0x80 ≤ b && b ≤ 0xBF

/-- Whether a byte may follow a lead byte: no overlong forms, no surrogates,
nothing above the last code point. -/
def isSecond (lead b : UInt8) : Bool :=
  if lead = 0xE0 then 0xA0 ≤ b && b ≤ 0xBF
  else if lead = 0xED then 0x80 ≤ b && b ≤ 0x9F
  else if lead = 0xF0 then 0x90 ≤ b && b ≤ 0xBF
  else if lead = 0xF4 then 0x80 ≤ b && b ≤ 0x8F
  else isTail b

/-- The bits that a lead byte contributes. -/
def leadBits (lead : UInt8) : Nat :=
  if lead < 0xE0 then lead.toNat - 0xC0
  else if lead < 0xF0 then lead.toNat - 0xE0
  else lead.toNat - 0xF0

/-- The code with the bits of a continuation byte appended. -/
def append (code : Nat) (b : UInt8) : Nat :=
  code * 64 + (b.toNat - 0x80)

/-- Reads so many continuation bytes. -/
def tails (code : Nat) : Nat → List UInt8 → Step
  | 0, rest => .char (Char.ofNat code) rest
  | _ + 1, [] => .truncated
  | n + 1, b :: rest => if isTail b then tails (append code b) n rest else .malformed (b :: rest)

/-- How a text that starts with a byte goes on. -/
def step (b : UInt8) (rest : List UInt8) : Step :=
  if b < 0x80 then .char (Char.ofNat b.toNat) rest
  else if width b = 0 then .malformed rest
  else
    match rest with
    | [] => .truncated
    | second :: rest' =>
      if isSecond b second then tails (append (leadBits b) second) (width b - 2) rest'
      else .malformed (second :: rest')

theorem length_tails (code n : Nat) (rest : List UInt8) :
    (tails code n rest).rest.length ≤ rest.length := by
  induction n generalizing code rest with
  | zero => simp [tails, Step.rest]
  | succ n ih =>
    cases rest with
    | nil => simp [tails, Step.rest]
    | cons b rest =>
      unfold tails
      split
      · exact Nat.le_trans (ih _ _) (by simp)
      · simp [Step.rest]

/-- A step leaves no more than what follows the first byte. -/
theorem length_step (b : UInt8) (rest : List UInt8) :
    (step b rest).rest.length ≤ rest.length := by
  unfold step
  split
  · simp [Step.rest]
  split
  · simp [Step.rest]
  split
  · simp [Step.rest]
  · split
    · exact Nat.le_trans (length_tails _ _ _) (by simp)
    · simp [Step.rest]

/-- The character that stands for bytes which form none. -/
def replacement : Char := '\uFFFD'

/-- The text of bytes, with a replacement for every run that forms no
character. -/
def decodeLossy : List UInt8 → List Char
  | [] => []
  | b :: rest =>
    -- bytes that cannot go on to a character are replaced together
    (match step b rest with
      | .char c _ => c
      | _ => replacement) :: decodeLossy (step b rest).rest
termination_by bytes => bytes.length
decreasing_by
  have := length_step b rest
  simp only [List.length_cons]
  omega

/-- Where bytes stop being text. -/
structure Malformed where
  /-- The number of bytes before the place. -/
  offset : Nat
  /-- The number of bytes that finish no character; `none` at the end of the
  text. -/
  length : Option Nat
  deriving DecidableEq, Repr

/-- The text of bytes that stand behind `offset` others. -/
def decodeFrom (offset : Nat) : List UInt8 → Except Malformed (List Char)
  | [] => .ok []
  | b :: rest =>
    match step b rest with
    | .char c _ =>
      let rest' := (step b rest).rest
      match decodeFrom (offset + (rest.length + 1 - rest'.length)) rest' with
      | .ok cs => .ok (c :: cs)
      | .error e => .error e
    | .malformed rest' => .error ⟨offset, some (rest.length + 1 - rest'.length)⟩
    | .truncated => .error ⟨offset, none⟩
termination_by bytes => bytes.length
decreasing_by
  have := length_step b rest
  simp only [List.length_cons]
  omega

/-- The text of bytes, if all of them are text. -/
def decode? (bytes : List UInt8) : Except Malformed (List Char) :=
  decodeFrom 0 bytes

/-- A report on bytes that are no text. -/
def Malformed.message (m : Malformed) : String :=
  match m.length with
  | some n =>
    "invalid utf-8 sequence of " ++ toString n ++ " bytes from index " ++ toString m.offset
  | none => "incomplete utf-8 byte sequence from index " ++ toString m.offset

end RemoteConsole.Utf8
