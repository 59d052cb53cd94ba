/-!
# Shortest decimal digits

A binary number is written with the fewest decimal digits that read back as it:
of all decimals with so few digits that lie in the interval of numbers rounding
to it, the nearest one.

* `Binary` — a positive binary fraction, with the half steps to its neighbours.
* `Decimal` — digits and the place of the point before or behind them.
* `Binary.shortest` — the digits of a binary fraction.
-/

namespace RemoteConsole

/-- A decimal number: the point stands `point` places behind the start of the
digits. -/
structure Decimal where
  /-- The digits, without zeros at either end. -/
  digits : List Char
  /-- The place of the point. -/
  point : Int
  deriving DecidableEq, Repr

/-- A positive number `mantissa * 2 ^ exponent` among the binary fractions of a
width. -/
structure Binary where
  /-- The mantissa. -/
  mantissa : Nat
  /-- The power of two. -/
  exponent : Int
  /-- Whether the next smaller number is only half a step away. -/
  narrowBelow : Bool
  deriving DecidableEq, Repr

namespace Binary

/-- The number and the ends of the interval that rounds to it, over one
denominator. -/
structure Interval where
  low : Nat
  value : Nat
  high : Nat
  den : Nat
  /-- Whether the ends round to the number too. -/
  closed : Bool

/-- The interval of a number, in quarters of a step. -/
def interval (b : Binary) : Interval :=
  let up := Nat.pow 2 b.exponent.toNat
  let down := Nat.pow 2 (-b.exponent).toNat
  { low := (4 * b.mantissa - (if b.narrowBelow then 1 else 2)) * up
    value := 4 * b.mantissa * up
    high := (4 * b.mantissa + 2) * up
    den := 4 * down
    closed := b.mantissa % 2 == 0 }

/-- The number of zeros between the point and the first digit of `num / den`. -/
def leadingZeros (num den : Nat) : Nat → Nat
  | 0 => 0
  | fuel + 1 => if num * 10 ≥ den then 0 else leadingZeros (num * 10) den fuel + 1

/-- The place of the point: the least power of ten above the number. -/
def magnitude (i : Interval) : Int :=
  if i.value ≥ i.den then (Nat.toDigits 10 (i.value / i.den)).length
  else -(leadingZeros i.value i.den 400 : Int)

/-- The nearest of the numbers with `n` digits that lie in an interval, in units
of the last digit. -/
def nearest? (i : Interval) (point : Int) (n : Nat) : Option Nat :=
  let up := Nat.pow 10 (n - point).toNat
  let den := i.den * Nat.pow 10 (point - n).toNat
  let below := i.value * up / den
  let above := below + 1
  let fits (c : Nat) : Bool :=
    if i.closed then i.low * up ≤ c * den && c * den ≤ i.high * up
    else i.low * up < c * den && c * den < i.high * up
  -- the two neighbours decide: a point of the grid inside the interval lies
  -- next to the number
  match fits below, fits above with
  | true, true =>
    let twice := 2 * (i.value * up)
    let middle := (below + above) * den
    some (if twice < middle || (twice = middle && below % 2 == 0) then below else above)
  | true, false => some below
  | false, true => some above
  | false, false => none

/-- The first number of digits, from `n` on, with a number in the interval. -/
def firstFit (i : Interval) (point : Int) (n : Nat) : Nat → Decimal
  | 0 => ⟨['0'], 1⟩
  | fuel + 1 =>
    match nearest? i point n with
    | some c =>
      let written := Nat.toDigits 10 c
      -- rounding up can add a digit, which moves the point
      ⟨(written.reverse.dropWhile (· == '0')).reverse, point + (written.length - n)⟩
    | none => firstFit i point (n + 1) fuel

/-- The fewest digits that read back as the number; seventeen always do. -/
def shortest (b : Binary) : Decimal :=
  firstFit b.interval (magnitude b.interval) 1 17

end Binary

end RemoteConsole
