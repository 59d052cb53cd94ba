/-!
# Failures

A run of the program that fails says what it could not do and why.

* `Failure` — what failed, and its cause.
* `Failure.text` — the report.
-/

namespace RemoteConsole

/-- What failed. -/
structure Failure where
  /-- What could not be done. -/
  message : String
  /-- Why, if there is more to say. -/
  cause : Option String := none
  deriving DecidableEq, Repr

namespace Failure

/-- The part of a report that names a cause, with every line of it indented. -/
def causeText (cause : String) : String :=
  "\nCaused by:\n" ++ String.join ((cause.splitOn "\n").map fun line => "    " ++ line ++ "\n")

/-- The report. -/
def text (f : Failure) : String :=
  "Error: " ++ f.message ++ "\n" ++ (f.cause.map causeText).getD ""

end Failure

end RemoteConsole
