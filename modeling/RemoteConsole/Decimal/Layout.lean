import RemoteConsole.Decimal.Shortest

/-!
# Decimal text of floating point numbers

The digits of a number are laid out with a point among them, or with one digit
before the point and a power of ten behind. Which of the two it is depends on
where the point stands.

* `Layout` — the places of the point for which it stands among the digits.
* `Layout.number` — the text of a floating point number.
* `Layout.ranged`, `Layout.positional` — the two layouts in use.
-/

namespace RemoteConsole

/-- Where the point may stand among the digits. -/
structure Layout where
  /-- The leftmost place, if there is one. -/
  lowest : Option Int
  /-- The rightmost place, if there is one. -/
  highest : Option Int

namespace Layout

/-- The layout that keeps the point among the digits from `0.00001` to below
`10 ^ 16`. -/
def ranged : Layout := ⟨some (-4), some 16⟩

/-- The layout without powers of ten. -/
def positional : Layout := ⟨none, none⟩

/-- Whether a layout keeps the point at a place among the digits. -/
def keeps (l : Layout) (point : Int) : Bool :=
  l.lowest.all (· ≤ point) && l.highest.all (point ≤ ·)

/-- Digits with the point among them; there is a digit on either side of it. -/
def pointed (d : Decimal) : List Char :=
  if d.point ≤ 0 then ['0', '.'] ++ List.replicate (-d.point).toNat '0' ++ d.digits
  else if d.digits.length ≤ d.point.toNat then
    d.digits ++ List.replicate (d.point.toNat - d.digits.length) '0' ++ ['.', '0']
  else d.digits.take d.point.toNat ++ ['.'] ++ d.digits.drop d.point.toNat

/-- Digits with one before the point and a signed power of ten behind. -/
def powered (d : Decimal) : List Char :=
  let power := d.point - 1
  let fraction := d.digits.drop 1
  d.digits.take 1 ++ (if fraction.isEmpty then [] else '.' :: fraction) ++ ['e']
    ++ [if power < 0 then '-' else '+'] ++ Nat.toDigits 10 power.natAbs

/-- The text of a decimal number. -/
def decimal (l : Layout) (d : Decimal) : List Char :=
  if l.keeps d.point then pointed d else powered d

/-- The text of a floating point number. -/
def number (l : Layout) (f : Float) : String :=
  let bits := f.toBits.toNat
  let negative := bits / Nat.pow 2 63 == 1
  let biased : Nat := bits / Nat.pow 2 52 % Nat.pow 2 11
  let fraction := bits % Nat.pow 2 52
  -- the largest biased exponent is kept for what is no number
  if biased = 2047 then
    if fraction = 0 then (if negative then "-inf" else "inf") else "NaN"
  else
    let written :=
      if biased = 0 ∧ fraction = 0 then ['0', '.', '0']
      else
        l.decimal (Binary.shortest
          { mantissa := if biased = 0 then fraction else fraction + Nat.pow 2 52
            exponent := if biased = 0 then -1074 else (biased : Int) - 1075
            narrowBelow := fraction = 0 && biased > 1 })
    String.ofList ((if negative then ['-'] else []) ++ written)

end Layout

end RemoteConsole
