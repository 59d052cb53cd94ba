/-!
# Hexadecimal numerals

* `Hex.lower`, `Hex.upper` — the digits of a number, with zeros in front up to a
  given width.
* `Hex.value?` — the number of a hexadecimal digit, in either case.
* `Hex.ofText`, `Hex.ofRows` — the numbers of a table that is written in
  hexadecimal digits.
-/

namespace RemoteConsole.Hex

/-- Zeros in front of a numeral up to a width. -/
def pad (width : Nat) (digits : List Char) : List Char :=
  List.replicate (width - digits.length) '0' ++ digits

/-- A number in lower-case digits, at least so many of them. -/
def lower (width n : Nat) : List Char :=
  pad width (Nat.toDigits 16 n)

/-- A number in upper-case digits, at least so many of them. -/
def upper (width n : Nat) : List Char :=
  pad width ((Nat.toDigits 16 n).map Char.toUpper)

/-- The value of a hexadecimal digit, given as its code. -/
def value? (code : Nat) : Option Nat :=
  if 48 ≤ code ∧ code ≤ 57 then some (code - 48)
  else if 65 ≤ code ∧ code ≤ 70 then some (code - 55)
  else if 97 ≤ code ∧ code ≤ 102 then some (code - 87)
  else none

/-- The value of a run of hexadecimal digits, given as their codes; `none` if
one is no digit. -/
def number? (codes : List Nat) : Option Nat :=
  codes.foldl (fun acc code => acc.bind fun n => (value? code).map (n * 16 + ·)) (some 0)

/-- The number that a word of hexadecimal digits writes. -/
def ofText (word : String) : Nat :=
  (number? (word.toList.map Char.toNat)).getD 0

/-- The numbers of rows of words. -/
def ofRows (rows : List String) : List Nat :=
  rows.flatMap fun row => (row.splitOn " ").map ofText

end RemoteConsole.Hex
