/-!
# Prompts

What a console shows when it waits for a line.

* `Prompts` — one prompt for the first line of a statement and one for all its
  other lines.
-/

namespace RemoteConsole

/-- The two prompts. -/
structure Prompts where
  /-- The prompt for the first line of a statement. -/
  first : String := ">>> "
  /-- The prompt for every other line. -/
  continuation : String := "... "
  deriving DecidableEq, Repr

end RemoteConsole
