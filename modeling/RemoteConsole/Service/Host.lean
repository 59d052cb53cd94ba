import RemoteConsole.Name.Ascii
import RemoteConsole.Text.Utf8

/-!
# Hosts of addresses

A host is a name, four numbers with points, or eight groups in brackets. Names
are written in ASCII and numbers in one way, so that a host has one text.

* `Host.address4?` — the address that a name writes as numbers, if its last part
  is a number.
* `Host.address6?` — the address that stands in brackets.
* `Host.normal?` — the one text of a host, if it is one.
-/

namespace RemoteConsole.Host

/-- The number that digits of a base write; no digits write zero. -/
def numberIn? (base : Nat) (digits : List Char) : Option Nat :=
  digits.foldlM
    (fun n c => do
      let d ← Hex.value? c.toNat
      if d < base then some (base * n + d) else none)
    0

/-! ## Four numbers -/

/-- A number of an address: hexadecimal behind `0x`, octal behind `0`, or
decimal. -/
def part4? : List Char → Option Nat
  | [] => none
  | '0' :: 'x' :: digits => numberIn? 16 digits
  | '0' :: 'X' :: digits => numberIn? 16 digits
  | '0' :: digits => numberIn? 8 digits
  | digits => numberIn? 10 digits

/-- The parts of a name, less an empty one at its end. -/
def parts (name : List Char) : List (List Char) :=
  match (Separated.split '.' name).reverse with
  | [] :: first :: more => (first :: more).reverse
  | _ => Separated.split '.' name

/-- Whether the last part of a name is a number, so that the name has to be an
address. -/
def endsInNumber (name : List Char) : Bool :=
  match (parts name).getLast? with
  | none => false
  | some [] => false
  -- digits alone count even where they are no octal number
  | some last => last.all Char.isDigit || (last.head? = some '0' && (part4? last).isSome)

/-- The address of some numbers: all but the last are bytes, and the last fills
what is left. -/
def join4? (ns : List Nat) : Option Nat :=
  match ns.reverse with
  | [] => none
  | last :: rest =>
    if rest.length < 4 ∧ rest.all (· < 256) ∧ last < Nat.pow 256 (4 - rest.length) then
      some (rest.reverse.foldl (fun n b => 256 * n + b) 0 * Nat.pow 256 (4 - rest.length) + last)
    else none

/-- The address that a name writes as numbers. -/
def address4? (name : List Char) : Option Nat :=
  ((parts name).mapM part4?).bind join4?

/-- Four numbers with points. -/
def text4 (address : Nat) : String :=
  String.intercalate "."
    ([3, 2, 1, 0].map fun i => toString (address / Nat.pow 256 i % 256))

/-! ## Eight groups -/

/-- A group: one to four hexadecimal digits. -/
def group? (digits : List Char) : Option Nat :=
  if digits.isEmpty ∨ 4 < digits.length then none else numberIn? 16 digits

/-- A byte in decimal digits without zeros before it. -/
def byte? (digits : List Char) : Option Nat :=
  if digits.isEmpty ∨ (1 < digits.length ∧ digits.head? = some '0') then none
  else (numberIn? 10 digits).filter (· < 256)

/-- Four bytes with points, as two groups. -/
def tail4? (text : List Char) : Option (List Nat) := do
  match ← (Separated.split '.' text).mapM byte? with
  | [a, b, c, d] => some [256 * a + b, 256 * c + d]
  | _ => none

/-- Groups between colons; the last two may be four bytes with points. -/
def groups? : List (List Char) → Option (List Nat)
  | [] => some []
  | [last] => if '.' ∈ last then tail4? last else (group? last).map ([·])
  | first :: more => do return (← group? first) :: (← groups? more)

/-- Groups between colons, or none at all. -/
def someGroups? (text : List Char) : Option (List Nat) :=
  if text.isEmpty then some [] else groups? (Separated.split ':' text)

/-- A text before and behind its first two colons in a row. -/
def splitGap? : List Char → Option (List Char × List Char)
  | ':' :: ':' :: more => some ([], more)
  | c :: more => (splitGap? more).map fun (first, last) => (c :: first, last)
  | [] => none

/-- The eight groups that a text writes. Two colons in a row stand for the
groups that are missing. -/
def address6? (text : List Char) : Option (List Nat) := do
  match splitGap? text with
  | none =>
    let all ← someGroups? text
    if all.length = 8 then some all else none
  | some (first, last) =>
    if '.' ∈ first then none
    else
      let before ← someGroups? first
      let behind ← someGroups? last
      -- the gap stands for at least one group
      let missing := 8 - (before.length + behind.length)
      if missing = 0 then none else some (before ++ List.replicate missing 0 ++ behind)

/-- The number of zeros at the start of some groups. -/
def zeros (groups : List Nat) : Nat :=
  (groups.takeWhile (· == 0)).length

/-- Where the longest run of zeros starts and how long it is. -/
def longestGap (groups : List Nat) : Nat × Nat :=
  (List.range groups.length).foldl
    (fun best i => if best.2 < zeros (groups.drop i) then (i, zeros (groups.drop i)) else best) (0, 0)

/-- Groups with colons between them. -/
def joinGroups (groups : List Nat) : String :=
  String.intercalate ":" (groups.map fun n => String.ofList (Hex.lower 1 n))

/-- Eight groups, with two colons in place of the longest run of zeros. -/
def text6 (groups : List Nat) : String :=
  let (start, length) := longestGap groups
  if length < 2 then joinGroups groups
  else joinGroups (groups.take start) ++ "::" ++ joinGroups (groups.drop (start + length))

/-! ## Hosts -/

/-- The bytes that a text writes when two hexadecimal digits behind a percent
sign are one byte. -/
def percentDecode : List Char → List UInt8
  | [] => []
  | '%' :: a :: b :: more =>
    match Hex.number? [a.toNat, b.toNat] with
    | some n => UInt8.ofNat n :: percentDecode more
    | none => Utf8.encodeChar '%' ++ percentDecode (a :: b :: more)
  | c :: more => Utf8.encodeChar c ++ percentDecode more
termination_by text => text.length

/-- The one text of a name or of an address that is written as one. -/
def name? (text : List Char) : Option String := do
  -- escapes are taken away first, so that they can hide no character
  let name ← Name.ascii? (← (Utf8.decode? (percentDecode text)).toOption)
  if name.isEmpty then none
  else if endsInNumber name then (address4? name).map text4
  else some (String.ofList name)

/-- The one text of a host. -/
def normal? (text : List Char) : Option String :=
  match text with
  | '[' :: inner =>
    if inner.getLast? = some ']' then
      (address6? inner.dropLast).map fun groups => "[" ++ text6 groups ++ "]"
    else none
  | _ => name? text

end RemoteConsole.Host
