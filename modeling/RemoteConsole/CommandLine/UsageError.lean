import RemoteConsole.CommandLine.Argument
import RemoteConsole.Text.ControlSequence

/-!
# Wrong command lines

* `UsageError` — what can be wrong with a command line, with
  `UsageError.message`.
* `UsageError.headline` — the first line of the report.
-/

namespace RemoteConsole

/-- What is wrong with a command line. -/
inductive UsageError where
  /-- A word is neither an option nor expected. -/
  | unexpectedArgument (word : String)
  /-- An option that takes no value has one. -/
  | unexpectedValue (value : String) (p : Argument)
  /-- An option lacks its value. -/
  | missingValue (p : Argument)
  /-- A value is not what the argument takes. -/
  | invalidValue (value : String) (p : Argument) (reason : String)
  /-- An argument is given twice. -/
  | repeated (p : Argument)
  /-- Two arguments exclude each other. -/
  | conflict (p other : Argument)
  /-- There is no host. -/
  | missingHost
  deriving DecidableEq, Repr

namespace UsageError

/-- What a terminal shows of a text, between single quotation marks. -/
def marked (text : String) : String :=
  "'" ++ String.ofList (ControlSequence.strip text.toList) ++ "'"

/-- The report on a wrong command line. -/
def message : UsageError → String
  | unexpectedArgument word => "unexpected argument " ++ marked word ++ " found"
  | unexpectedValue value p =>
    "unexpected value " ++ marked value ++ " for " ++ marked p.label
      ++ " found; no more were expected"
  | missingValue p =>
    "a value is required for " ++ marked p.label ++ " but none was supplied"
  | invalidValue value p reason =>
    "invalid value " ++ marked value ++ " for " ++ marked p.label ++ ": " ++ reason
  | repeated p => "the argument " ++ marked p.label ++ " cannot be used multiple times"
  | conflict p other =>
    "the argument " ++ marked p.label ++ " cannot be used with " ++ marked other.label
  | missingHost => "the following required arguments were not provided:"

/-- The first line of the report on a wrong command line. -/
def headline (e : UsageError) : String :=
  -- a value may hold line ends
  String.ofList (("error: " ++ e.message).toList.takeWhile (· ≠ '\n'))

end UsageError

end RemoteConsole
