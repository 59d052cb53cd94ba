import RemoteConsole.Json.Decoder
import RemoteConsole.Text.Hex
import RemoteConsole.Text.Utf8

/-!
# Strings

A string is UTF-8 between quotation marks. A backslash starts an escape; a
character beyond the first 65536 is written as two escapes, the halves of a
surrogate pair.

* `Text.escape` — an escape behind its backslash; `length_escape` says that it
  goes forward.
* `Text.body` — a string behind its opening mark.
* `Decoder.stringBody` — the same as a decoder.
-/

namespace RemoteConsole.Json

namespace Text

/-- A fault at the bytes left. -/
def fault {α : Type} (p : Problem) (rest : List UInt8) : Except Fault α :=
  .error ⟨p, some rest, rest⟩

/-- Four hexadecimal digits. -/
def hex : List UInt8 → Except Fault (Nat × List UInt8)
  | a :: b :: c :: d :: rest =>
    match Hex.number? ([a, b, c, d].map UInt8.toNat) with
    | some n => .ok (n, rest)
    | none => fault .invalidEscape rest
  | _ => fault .eofString []

/-- The second half of a surrogate pair, from its backslash on. -/
def lowHalf (high : Nat) : List UInt8 → Except Fault (Char × List UInt8)
  | [] => fault .eofString []
  | slash :: rest =>
    if slash == '\\'.toUInt8 then
      match rest with
      | [] => fault .eofString []
      | u :: rest =>
        if u == 'u'.toUInt8 then
          match hex rest with
          | .error f => .error f
          | .ok (low, rest) =>
            -- each half gives ten bits of what the code is above 0x10000
            if 0xDC00 ≤ low ∧ low ≤ 0xDFFF then
              .ok (Char.ofNat (0x10000 + (high - 0xD800) * 1024 + (low - 0xDC00)), rest)
            else fault .loneSurrogate rest
        else fault .unexpectedEndOfHex rest
    else fault .unexpectedEndOfHex rest

/-- The escape of a code, behind its `u`. -/
def codeEscape (rest : List UInt8) : Except Fault (Char × List UInt8) :=
  match hex rest with
  | .error f => .error f
  | .ok (n, rest) =>
    if 0xDC00 ≤ n ∧ n ≤ 0xDFFF then fault .loneSurrogate rest
    else if 0xD800 ≤ n ∧ n ≤ 0xDBFF then lowHalf n rest
    else .ok (Char.ofNat n, rest)

/-- The character that a letter behind a backslash stands for. -/
def letter? (b : UInt8) : Option Char :=
  if b == '"'.toUInt8 then some '"'
  else if b == '\\'.toUInt8 then some '\\'
  else if b == '/'.toUInt8 then some '/'
  else if b == 'b'.toUInt8 then some '\x08'
  else if b == 'f'.toUInt8 then some '\x0c'
  else if b == 'n'.toUInt8 then some '\n'
  else if b == 'r'.toUInt8 then some '\r'
  else if b == 't'.toUInt8 then some '\t'
  else none

/-- An escape behind its backslash. -/
def escape : List UInt8 → Except Fault (Char × List UInt8)
  | [] => fault .eofString []
  | b :: rest =>
    match letter? b with
    | some c => .ok (c, rest)
    | none => if b == 'u'.toUInt8 then codeEscape rest else fault .invalidEscape rest

theorem length_hex {bytes rest : List UInt8} {n : Nat} (h : hex bytes = .ok (n, rest)) :
    rest.length ≤ bytes.length := by
  unfold hex at h
  split at h
  · split at h
    · cases h; simp; omega
    · simp [fault] at h
  · simp [fault] at h

theorem length_lowHalf {high : Nat} {bytes rest : List UInt8} {c : Char}
    (h : lowHalf high bytes = .ok (c, rest)) : rest.length ≤ bytes.length := by
  unfold lowHalf at h
  split at h
  · simp [fault] at h
  split at h
  · split at h
    · simp [fault] at h
    split at h
    · split at h
      · simp at h
      · next hx =>
        have := length_hex hx
        split at h
        · simp only [Except.ok.injEq, Prod.mk.injEq] at h
          obtain ⟨_, rfl⟩ := h
          simp
          omega
        · simp [fault] at h
    · simp [fault] at h
  · simp [fault] at h

theorem length_codeEscape {bytes rest : List UInt8} {c : Char}
    (h : codeEscape bytes = .ok (c, rest)) : rest.length ≤ bytes.length := by
  unfold codeEscape at h
  split at h
  · simp at h
  · next hx =>
    have := length_hex hx
    repeat' split at h
    · simp [fault] at h
    · have := length_lowHalf h; omega
    · cases h; omega

/-- An escape takes at least one byte. -/
theorem length_escape {bytes rest : List UInt8} {c : Char} (h : escape bytes = .ok (c, rest)) :
    rest.length < bytes.length := by
  unfold escape at h
  split at h
  · simp [fault] at h
  · repeat' split at h
    · cases h; simp
    · have := length_codeEscape h; simp; omega
    · simp [fault] at h

/-- The bytes of a string behind its opening mark, with the characters of its
escapes in their place, and what follows the string. -/
def unescape (bytes : List UInt8) : Except Fault (List UInt8 × List UInt8) :=
  match bytes with
  | [] => fault .eofString []
  | b :: rest =>
    if b == '"'.toUInt8 then .ok ([], rest)
    else if b == '\\'.toUInt8 then
      match _h : escape rest with
      | .error f => .error f
      | .ok (c, rest') =>
        match unescape rest' with
        | .ok (more, rest) => .ok (Utf8.encodeChar c ++ more, rest)
        | .error f => .error f
    else if b < 0x20 then fault .controlCharacter rest
    else
      match unescape rest with
      | .ok (more, rest) => .ok (b :: more, rest)
      | .error f => .error f
termination_by bytes.length
decreasing_by
  · have := length_escape _h
    simp only [List.length_cons]
    omega
  · simp only [List.length_cons]
    omega

/-- A string behind its opening mark. Its bytes have to be text; the report on
bytes that are none names the place which lies as far before the end of the
string as they lie before the end of the text. -/
def body (bytes : List UInt8) : Except Fault (List Char × List UInt8) :=
  match unescape bytes with
  | .error f => .error f
  | .ok (text, rest) =>
    match Utf8.decode? text with
    | .ok cs => .ok (cs, rest)
    | .error m =>
      -- escapes are at least as long as the characters they stand for
      let read := bytes.length - rest.length - (text.length - m.offset)
      fault .invalidCodePoint (bytes.drop read)

end Text

namespace Decoder

/-- A string behind its opening mark. -/
def stringBody : Decoder String := fun rest =>
  match Text.body rest with
  | .ok (cs, rest) => .ok (String.ofList cs, rest)
  | .error f => .error f

end Decoder

end RemoteConsole.Json
