import RemoteConsole.Text.Quoted

/-!
# Values of the wrong shape

A document can be well formed and still not hold what is asked for. The reports
name what was found and what was expected; they are the same for every document
format.

* `Found` — a value as a report describes it.
* `Mismatch` — the ways in which a value can fail, with `Mismatch.message`.
-/

namespace RemoteConsole

/-- What stands in a document. -/
inductive Found where
  | null
  | boolean (b : Bool)
  | integer (n : Int)
  /-- A floating point number, by its text. -/
  | float (text : String)
  | string (text : String)
  | sequence
  | map
  deriving DecidableEq, Repr

/-- A text between backquotes. -/
def ticked (text : String) : String :=
  "\x60" ++ text ++ "\x60"

/-- The description of a value. -/
def Found.describe : Found → String
  | null => "null"
  | boolean b => "boolean " ++ ticked (if b then "true" else "false")
  | integer n => "integer " ++ ticked (toString n)
  | float text => "floating point " ++ ticked text
  | string text => "string " ++ Quoted.quote text
  | sequence => "sequence"
  | map => "map"

/-- How a value fails to be what is asked for. -/
inductive Mismatch where
  /-- It is of another kind. -/
  | type (found : Found) (expected : String)
  /-- It is of the right kind and out of range. -/
  | value (found : Found) (expected : String)
  /-- It is a list that is too short. -/
  | length (n : Nat) (expected : String)
  /-- It lacks a field. -/
  | missingField (name : String)
  /-- It has a field twice. -/
  | duplicateField (name : String)
  /-- It names no alternative. -/
  | variant (name : String) (first second : String)
  /-- Its own type refuses it. -/
  | refused (reason : String)
  deriving DecidableEq, Repr

/-- The report on a value. -/
def Mismatch.message : Mismatch → String
  | type found expected => "invalid type: " ++ found.describe ++ ", expected " ++ expected
  | value found expected => "invalid value: " ++ found.describe ++ ", expected " ++ expected
  | length n expected => "invalid length " ++ toString n ++ ", expected " ++ expected
  | missingField name => "missing field " ++ ticked name
  | duplicateField name => "duplicate field " ++ ticked name
  | variant name first second =>
    "unknown variant " ++ ticked name ++ ", expected " ++ ticked first ++ " or " ++ ticked second
  | refused reason => reason

end RemoteConsole
