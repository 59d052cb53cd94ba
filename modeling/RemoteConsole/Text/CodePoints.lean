/-!
# Sets of code points

A set of characters given by the ascending code points at which membership
changes: the characters before the first point are outside, those from the first
up to the second are inside, and so on. A property of Unicode with hundreds of
ranges is then one plain list.

* `CodePoints.mem` — a character is inside when an odd number of changes lies at
  or below it.
-/

namespace RemoteConsole

/-- A set of characters, as the ascending code points at which membership
changes. -/
structure CodePoints where
  /-- The code points at which membership changes, in ascending order. -/
  changes : List Nat

namespace CodePoints

/-- A character is inside when an odd number of changes lies at or below it. -/
def mem (s : CodePoints) (c : Char) : Bool :=
  (s.changes.takeWhile (· ≤ c.toNat)).length % 2 == 1

end CodePoints

end RemoteConsole
