/-!
# Paths

A path is a text with slashes between its steps. Steps that lead nowhere, an
empty one or a single point, may stand anywhere.

* `Path.steps` — the steps of a path.
* `Path.split?` — the directory and the name of a file.
* `Path.below` — a path inside a directory.
-/

namespace RemoteConsole.Path

/-- The steps of a path. A slash at its start leads to the root, and one at its
end asks for a directory. -/
def steps (path : String) : List String :=
  match path.splitOn "/" with
  | "" :: first :: more => "/" :: (first :: more).map step
  | all => all.map step
where
  /-- A step; two slashes in a row lead nowhere. -/
  step (name : String) : String := if name.isEmpty then "." else name

/-- Steps without those at their end that lead nowhere. -/
def trimSteps (names : List String) : List String :=
  (names.reverse.dropWhile fun n => n == "" || n == ".").reverse

/-- The directory and the name of a file, if a path ends in a name. -/
def split? (path : String) : Option (String × String) :=
  let join := String.intercalate "/"
  match path.splitOn "/" with
  | "" :: rest =>
    -- steps that lead nowhere are dropped behind the name and directly before
    -- it
    match (trimSteps rest).getLast? with
    | none | some ".." => none
    | some name => some ("/" ++ join (trimSteps (trimSteps rest).dropLast), name)
  | first :: rest =>
    match trimSteps rest with
    -- only one step is left, so that the file lies where the program runs
    | [] => if first = "." ∨ first = ".." then none else some ("", first)
    | names =>
      match names.getLast? with
      | none | some ".." => none
      | some name => some (join (first :: trimSteps names.dropLast), name)
  | [] => none

/-- Whether a path starts at the root. -/
def isAbsolute (path : String) : Bool :=
  path.toList.head? == some '/'

/-- A path inside a directory; the empty directory is where the program runs. -/
def below (directory path : String) : String :=
  if directory.isEmpty ∨ directory.toList.getLast? = some '/' then directory ++ path
  else directory ++ "/" ++ path

end RemoteConsole.Path
