import RemoteConsole.Toml.Reader

/-!
# Numbers and times

Integers have at most 64 bits and may be written in four bases, with underscores
between digits. Floating point numbers are read exactly and rounded once. Of
dates and times only the form matters here.

* `Reader.integer`, `Reader.float` — the numbers.
* `Reader.datetime` — a date, a time or both.
-/

namespace RemoteConsole.Toml

/-- The number that digits write in a base. -/
def valueOf (base : Nat) (digits : List Char) : Nat :=
  digits.foldl (fun n d => n * base + digit d) 0
where
  /-- The value of a digit, in either case. -/
  digit (d : Char) : Nat :=
    if d.isDigit then d.toNat - 48 else d.toLower.toNat - 87

/-- The floating point number `mantissa * 10 ^ exponent`, with all numbers out
of range at once. -/
def nearestFloat (mantissa : Nat) (exponent : Int) : Float :=
  let size := (Nat.toDigits 10 mantissa).length + exponent
  -- powers far out of range are settled before a large number is computed
  if mantissa = 0 ∨ size < -400 then 0.0
  else if 400 < size then 1.0 / 0.0
  else Float.ofScientific mantissa (exponent < 0) exponent.natAbs

namespace Reader

/-- Whether a character is a digit of base sixteen. -/
def isHexDigit (c : Char) : Bool :=
  c.isDigit || ('a' ≤ c && c ≤ 'f') || ('A' ≤ c && c ≤ 'F')

/-- Digits, with single underscores between them or not. -/
def digits (p : Char → Bool) : Reader (List Char) := do
  let first ← satisfy p
  let more ← many (satisfy p <|> do
    let _ ← one '_'
    satisfy p)
  pure (first :: more)

/-- A sign; the answer is whether it is a minus. -/
def sign : Reader Bool := do
  match ← optional (satisfy fun c => c == '+' || c == '-') with
  | some c => pure (c == '-')
  | none => pure false

/-- The digits of a decimal integer, which starts with no zero unless it is
one. -/
def decimalDigits : Reader (List Char) :=
  (do let d ← one '0'; pure [d]) <|> digits Char.isDigit

/-- An integer in the base that a letter behind a zero names. -/
def based (letter : Char) (base : Nat) (p : Char → Bool) : Reader Int := do
  exactly ['0', letter]
  let n := valueOf base (← digits p)
  if n < UInt64.size / 2 then pure n else refuse

/-- An integer. -/
def integer : Reader Int :=
  based 'x' 16 isHexDigit
    <|> based 'o' 8 (fun c => '0' ≤ c && c ≤ '7')
    <|> based 'b' 2 (fun c => c == '0' || c == '1')
    <|> do
      let negative ← sign
      let n := valueOf 10 (← decimalDigits)
      if negative then (if n ≤ UInt64.size / 2 then pure (-(n : Int)) else refuse)
      else if n < UInt64.size / 2 then pure n else refuse

/-- A fraction, from its point on. -/
def fraction : Reader (List Char) := do
  let _ ← one '.'
  digits Char.isDigit

/-- An exponent, from its letter on. -/
def exponent : Reader Int := do
  let _ ← satisfy fun c => c == 'e' || c == 'E'
  let negative ← sign
  let n := valueOf 10 (← digits Char.isDigit)
  pure (if negative then -(n : Int) else n)

/-- A number with a fraction, an exponent or both. A positive number out of
range is refused. -/
def pointed : Reader Float := do
  let negative ← sign
  let whole ← decimalDigits
  let fraction ← optional fraction
  -- without a fraction there has to be an exponent, or it is an integer
  let power ← if fraction.isSome then optional exponent else some <$> exponent
  let fraction := fraction.getD []
  let f := nearestFloat (valueOf 10 (whole ++ fraction)) (power.getD 0 - fraction.length)
  if negative then pure (-f) else if f.isInf then refuse else pure f

/-- A number that has no digits. -/
def special : Reader Float := do
  let negative ← sign
  let f ← (do exactly ['i', 'n', 'f']; pure (1.0 / 0.0))
    <|> (do exactly ['n', 'a', 'n']; pure (0.0 / 0.0))
  pure (if negative then -f else f)

/-- A floating point number. -/
def float : Reader Float :=
  pointed <|> special

/-! ## Dates and times -/

/-- A number of exactly so many digits within bounds. -/
def field (width low high : Nat) : Reader Nat := fun c =>
  let ds := c.rest.take width
  let n := valueOf 10 ds
  if ds.length = width ∧ ds.all Char.isDigit ∧ low ≤ n ∧ n ≤ high then
    some (n, skipped c ds (c.rest.drop width))
  else none

/-- The number of days of a month. -/
def daysIn (year month : Nat) : Nat :=
  if month = 2 then
    if year % 4 = 0 ∧ (year % 100 ≠ 0 ∨ year % 400 = 0) then 29 else 28
  else if month = 4 ∨ month = 6 ∨ month = 9 ∨ month = 11 then 30
  else 31

/-- A date. -/
def date : Reader Unit := do
  let year ← field 4 0 9999
  let _ ← one '-'
  let month ← field 2 1 12
  let _ ← one '-'
  let _ ← field 2 1 (daysIn year month)
  pure ()

/-- A time of day, with a fraction of a second or not. -/
def time : Reader Unit := do
  let _ ← field 2 0 23
  let _ ← one ':'
  let _ ← field 2 0 59
  let _ ← one ':'
  let _ ← field 2 0 60
  let _ ← optional do
    let _ ← one '.'
    let _ ← satisfy Char.isDigit
    span Char.isDigit
  pure ()

/-- The distance of a time from universal time. -/
def zone : Reader Unit := do
  match ← satisfy fun c => c == 'Z' || c == 'z' || c == '+' || c == '-' with
  | 'Z' => pure ()
  | 'z' => pure ()
  | _ =>
    let _ ← field 2 0 23
    let _ ← one ':'
    let _ ← field 2 0 59
    pure ()

/-- A time behind a date. -/
def timeOfDate : Reader Unit := do
  let _ ← satisfy fun c => c == 'T' || c == 't' || c == ' '
  time
  let _ ← optional zone
  pure ()

/-- A date, a time or both. -/
def datetime : Reader Unit :=
  (do date; let _ ← optional timeOfDate; pure ()) <|> time

end Reader

end RemoteConsole.Toml
