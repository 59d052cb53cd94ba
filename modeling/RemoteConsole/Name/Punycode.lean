/-!
# Punycode

A text of any characters as letters, figures and hyphens. The ASCII characters
come first. Behind a hyphen a row of numerals tells where every other character
goes in, in ascending order: each numeral is the distance from the place of one
insertion to the place of the next one. Numerals need no gaps between them,
because a digit below a threshold ends its numeral, and the thresholds follow
the size of the numbers.

* `Cursor` — where the last character went in; `Cursor.distance` is how far away
  an insertion is, and `Cursor.landing` the insertion that is so far away.
* `encode`, `decode?` — the written form of a text, and the text of a written
  form.
-/

namespace RemoteConsole.Punycode

/-! ## Digits -/

/-- The character of a digit: the letters, then the figures. -/
def digit (d : Nat) : Char :=
  if d < 26 then Char.ofNat ('a'.toNat + d) else Char.ofNat ('0'.toNat + (d - 26))

/-- The digit that a character writes. -/
def digit? (c : Char) : Option Nat :=
  if c.isLower then some (c.toNat - 'a'.toNat)
  else if c.isDigit then some (c.toNat - '0'.toNat + 26)
  else none

/-- The digits from which on a numeral goes on, at a place that grows by 36 from
digit to digit. -/
def threshold (bias place : Nat) : Nat :=
  min 26 (max 1 (place - bias))

theorem one_le_threshold (bias place : Nat) : 1 ≤ threshold bias place := by
  unfold threshold
  omega

/-! ## Bias -/

/-- How often a number has to be divided by 35 until it is small, and what is
left of it. -/
def scale (n : Nat) : Nat × Nat :=
  if 455 < n then
    let (times, rest) := scale (n / 35)
    (times + 1, rest)
  else (0, n)
termination_by n
decreasing_by omega

/-- The bias behind a numeral for `n`, when a text has come to `length`
characters. The first number tells least about the next one. -/
def nextBias (n length : Nat) (isFirst : Bool) : Nat :=
  let part := n / if isFirst then 700 else 2
  let (times, rest) := scale (part + part / length)
  36 * times + 36 * rest / (rest + 38)

/-! ## Insertions -/

/-- A character that goes into a text, given by its code point, and its place
there. -/
structure Insertion where
  /-- The code point. -/
  code : Nat
  /-- The number of characters before it. -/
  place : Nat
  deriving DecidableEq, Repr

/-- How far the insertions have come. -/
structure Cursor where
  /-- The code point of the last character. -/
  code : Nat
  /-- The place behind the last character. -/
  place : Nat
  /-- The number of characters. -/
  length : Nat
  /-- The bias of the next numeral. -/
  bias : Nat
  /-- Whether no character has gone in. -/
  isFresh : Bool
  deriving DecidableEq, Repr

namespace Cursor

/-- Before the first insertion into so many characters. -/
def start (length : Nat) : Cursor :=
  ⟨0x80, 0, length, 72, true⟩

/-- How many places an insertion is away. All places of one code point come
before those of the next. -/
def distance (c : Cursor) (x : Insertion) : Nat :=
  (x.code - c.code) * (c.length + 1) + x.place - c.place

/-- The insertion that is so many places away. -/
def landing (c : Cursor) (n : Nat) : Insertion :=
  ⟨c.code + (c.place + n) / (c.length + 1), (c.place + n) % (c.length + 1)⟩

/-- The cursor behind the insertion that is so many places away. -/
def next (c : Cursor) (n : Nat) : Cursor :=
  ⟨(c.landing n).code, (c.landing n).place + 1, c.length + 1,
    nextBias n (c.length + 1) c.isFresh, false⟩

end Cursor

/-! ## Writing -/

/-- Whether a character is written as itself. -/
def isPlain (c : Char) : Bool :=
  c.toNat < 0x80

/-- The numeral of a number, from a place on. -/
def numeral (bias place n : Nat) : List Char :=
  let t := threshold bias place
  if n < t then [digit n]
  else digit (t + (n - t) % (36 - t)) :: numeral bias (place + 36) ((n - t) / (36 - t))
termination_by n
decreasing_by
  have low := one_le_threshold bias place
  have := Nat.div_le_self (n - threshold bias place) (36 - threshold bias place)
  omega

/-- The insertions of a text behind others, in the order of the text. Those of
greater characters come later, so that a place counts only the characters before
it that are not greater. -/
def insertionsBehind (before : List Char) : List Char → List Insertion
  | [] => []
  | c :: rest =>
    let later := insertionsBehind (c :: before) rest
    if isPlain c then later else ⟨c.toNat, before.countP (·.toNat ≤ c.toNat)⟩ :: later

/-- The insertions of a text in ascending order. -/
def insertions (text : List Char) : List Insertion :=
  (insertionsBehind [] text).mergeSort (·.code ≤ ·.code)

/-- The numerals of insertions. -/
def numerals (c : Cursor) : List Insertion → List Char
  | [] => []
  | x :: rest => numeral c.bias 36 (c.distance x) ++ numerals (c.next (c.distance x)) rest

/-- The written form of a text. -/
def encode (text : List Char) : List Char :=
  let plain := text.filter isPlain
  plain ++ (if plain.isEmpty then [] else ['-'])
    ++ numerals (Cursor.start plain.length) (insertions text)

/-! ## Reading -/

/-- Numbers stay below this bound. -/
def bound : Nat := UInt32.size

/-- Adds the number that a text starts with to another one; every digit counts
`weight` times. -/
def read? (bias place weight n : Nat) : List Char → Option (Nat × List Char)
  | [] => none
  | c :: rest => do
    let d ← digit? c
    let t := threshold bias place
    if bound ≤ n + d * weight then none
    else if d < t then some (n + d * weight, rest)
    else if bound ≤ weight * (36 - t) then none
    else read? bias (place + 36) (weight * (36 - t)) (n + d * weight) rest

/-- A number leaves less than the text that it starts. -/
theorem length_read? {bias place weight n : Nat} {text : List Char} {r : Nat × List Char}
    (h : read? bias place weight n text = some r) : r.2.length < text.length := by
  induction text generalizing place weight n with
  | nil => simp [read?] at h
  | cons c rest ih =>
    simp only [read?, Option.bind_eq_bind, Option.bind_eq_some_iff] at h
    obtain ⟨d, -, h⟩ := h
    split at h
    · simp at h
    split at h
    · simp only [Option.some.injEq] at h
      simp [← h]
    split at h
    · simp at h
    · exact Nat.lt_succ_of_lt (ih h)

/-- A text with the characters that numerals tell of. -/
def insertAll? (c : Cursor) (text numerals : List Char) : Option (List Char) :=
  if numerals.isEmpty then some text
  else
    -- the numeral is added to the place, so that both stay below the bound
    -- together
    match _h : read? c.bias 36 1 c.place numerals with
    | none => none
    | some r =>
      let x := c.landing (r.1 - c.place)
      if x.code.isValidChar then
        insertAll? (c.next (r.1 - c.place)) (text.insertIdx x.place (Char.ofNat x.code)) r.2
      else none
termination_by numerals.length
decreasing_by exact length_read? _h

/-- The text of a written form. A hyphen at its start is no separator. -/
def decode? (written : List Char) : Option (List Char) :=
  let numerals := (written.reverse.takeWhile (· ≠ '-')).reverse
  let plain := written.take (written.length - numerals.length - 1)
  if plain.isEmpty then insertAll? (Cursor.start 0) [] written
  else insertAll? (Cursor.start plain.length) plain numerals

end RemoteConsole.Punycode
