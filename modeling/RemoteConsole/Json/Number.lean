import RemoteConsole.Decimal.Layout
import RemoteConsole.Json.Decoder

/-!
# Numbers

An integer that fits 64 bits keeps its value. Any other number becomes a
floating point number: the leading digits that fit 64 bits, times a power of ten
for the digits left out, the fraction and the exponent.

* `Number` — natural, negative or floating point, with `Number.found` its
  description.
* `Decoder.number` — reads a number behind its minus sign, if it has one.
-/

namespace RemoteConsole.Json

/-- A number as it is read. -/
inductive Number where
  /-- An integer from zero on. -/
  | natural (n : Nat)
  /-- An integer below zero, by its distance from it. -/
  | negative (n : Nat)
  /-- Any other number. -/
  | float (f : Float)

/-- The description of a number. -/
def Number.found : Number → Found
  | natural n => .integer n
  | negative n => .integer (-(n : Int))
  | float f => .float (Layout.ranged.number f)

/-- Whether a byte is a decimal digit. -/
def isDigit (b : UInt8) : Bool :=
  '0'.toUInt8 ≤ b && b ≤ '9'.toUInt8

/-- The value of a decimal digit. -/
def digitValue (b : UInt8) : Nat :=
  b.toNat - 48

/-- The largest natural number of 64 bits. -/
def largest : Nat := UInt64.size - 1

/-- Appends digits to a number for as long as it fits 64 bits; the second part
counts the digits left out. -/
def absorb (n : Nat) : List UInt8 → Nat × Nat
  | [] => (n, 0)
  | d :: rest =>
    if n * 10 + digitValue d ≤ largest then absorb (n * 10 + digitValue d) rest
    else (n, rest.length + 1)

/-- A natural number of 64 bits as a floating point number. -/
def toFloat (n : Nat) : Float :=
  (UInt64.ofNat n).toFloat

/-- The floating point power of ten. -/
def powerOfTen (n : Nat) : Float :=
  Float.ofScientific 1 false n

/-- Divides by a power of ten, in steps that are powers themselves. -/
def divide (f : Float) (n : Nat) : Nat → Float
  | 0 => f
  | fuel + 1 =>
    -- the largest power that is a number is 10 ^ 308
    if n ≤ 308 then f / powerOfTen n
    else if f == 0.0 then f
    else divide (f / powerOfTen 308) (n - 308) fuel

/-- A number times a power of ten, `none` if it is too large. -/
def scale? (significand : Nat) (exponent : Int) : Option Float :=
  let f := toFloat significand
  if exponent < 0 then some (divide f exponent.natAbs 4)
  else if exponent ≤ 308 then
    let product := f * powerOfTen exponent.natAbs
    if product.isInf then none else some product
  else if significand = 0 then some f
  else none

namespace Decoder

/-- The decimal digits at the front. -/
def digits : Decoder (List UInt8) := fun rest =>
  .ok (rest.takeWhile isDigit, rest.dropWhile isDigit)

/-- A floating point number from its parts. -/
def parts (isNegative : Bool) (significand : Nat) (exponent : Int) : Decoder Number :=
  match scale? significand exponent with
  | some f => pure (.float (if isNegative then -f else f))
  | none => fail .numberOutOfRange

/-- The largest exponent that is read. -/
def largestExponent : Nat := UInt32.size / 2 - 1

/-- Appends the digits of an exponent; `none` behind the digit that makes it too
large. -/
def exponentDigits (n : Nat) : List UInt8 → Option Nat × List UInt8
  | [] => (some n, [])
  | d :: rest =>
    if isDigit d then
      if n * 10 + digitValue d ≤ largestExponent then
        exponentDigits (n * 10 + digitValue d) rest
      else (none, rest)
    else (some n, d :: rest)

/-- The digits of an exponent and the number that they belong to. -/
def exponentValue (isNegative : Bool) (significand : Nat) (start : Int) (downward : Bool) :
    Decoder Number := fun rest =>
  match exponentDigits 0 rest with
  | (some n, rest) =>
    parts isNegative significand (if downward then start - n else start + n) rest
  | (none, rest) =>
    -- an exponent out of range gives zero, unless it makes the number too large
    if significand ≠ 0 ∧ downward = false then fail .numberOutOfRange rest
    else .ok (.float (if isNegative then -0.0 else 0.0), rest.dropWhile isDigit)

/-- The exponent, from its mark on. -/
def exponent (isNegative : Bool) (significand : Nat) (start : Int) : Decoder Number := do
  advance
  let sign ← peek
  if sign == some '+'.toUInt8 || sign == some '-'.toUInt8 then advance
  match ← peek with
  | none => fail .eofValue
  | some b =>
    if isDigit b then exponentValue isNegative significand start (sign == some '-'.toUInt8)
    else
      advance
      fail .invalidNumber

/-- Whether a byte starts an exponent. -/
def isExponentMark (b : Option UInt8) : Bool :=
  b == some 'e'.toUInt8 || b == some 'E'.toUInt8

/-- The fraction, from its point on. -/
def fraction (isNegative : Bool) (significand : Nat) (start : Int) : Decoder Number := do
  advance
  let ds ← digits
  if ds.isEmpty then
    match ← peek with
    | some _ => failAhead .invalidNumber
    | none => failAhead .eofValue
  else
    let (n, leftOut) := absorb significand ds
    -- digits left out of a fraction do not move the point
    let power := start - (ds.length - leftOut : Nat)
    if isExponentMark (← peek) then exponent isNegative n power else parts isNegative n power

/-- An integer without fraction and exponent. -/
def integer (isNegative : Bool) (n : Nat) : Number :=
  if isNegative = false then .natural n
  -- minus zero is no integer, nor is what does not fit 64 bits with its sign
  else if 0 < n ∧ n ≤ UInt64.size / 2 then .negative n
  else .float (-toFloat n)

/-- What follows the digits of the integer part, of which some may be left
out. -/
def afterInteger (isNegative : Bool) (n leftOut : Nat) : Decoder Number := do
  let next ← peek
  if next == some '.'.toUInt8 then fraction isNegative n leftOut
  else if isExponentMark next then exponent isNegative n leftOut
  else if leftOut = 0 then pure (integer isNegative n)
  else parts isNegative n leftOut

/-- A number behind its minus sign, if it has one. -/
def number (isNegative : Bool) : Decoder Number := do
  match ← peek with
  | none => fail .eofValue
  | some b =>
    if b == '0'.toUInt8 then
      advance
      match ← peek with
      | some d => if isDigit d then failAhead .invalidNumber else afterInteger isNegative 0 0
      | none => afterInteger isNegative 0 0
    else if isDigit b then
      let (n, leftOut) := absorb 0 (← digits)
      afterInteger isNegative n leftOut
    else
      advance
      fail .invalidNumber

end Decoder

end RemoteConsole.Json
