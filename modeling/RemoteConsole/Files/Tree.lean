import RemoteConsole.Files.Path

/-!
# Files

A tree of files, seen from the directory in which the program runs. A step up
leaves a directory that must be there, and what lies outside can be made but
holds nothing.

* `Tree` — files and directories.
* `Tree.resolve` — the place that a path leads to.
* `Tree.read` — what reading a path comes to.
* `Tree.makeDirectories`, `Tree.touch` — trees with more in them.
-/

namespace RemoteConsole

/-- Why something cannot be done with a path. -/
inductive FileError where
  | missing
  | occupied
  | notDirectory
  | isDirectory
  deriving DecidableEq, Repr

/-- The report on what cannot be done. -/
def FileError.message : FileError → String
  | missing => "No such file or directory (os error 2)"
  | occupied => "File exists (os error 17)"
  | notDirectory => "Not a directory (os error 20)"
  | isDirectory => "Is a directory (os error 21)"

/-- A tree of files. -/
structure Tree where
  /-- The files by their names from the top, with their texts. -/
  files : List (List String × String) := []
  /-- Directories, beside those that hold files. -/
  directories : List (List String) := []
  deriving DecidableEq, Repr

/-- What is at a place. -/
inductive Place where
  | file (text : String)
  | directory
  | nothing
  deriving DecidableEq, Repr

/-- What reading a path comes to. -/
inductive Lookup where
  /-- There is nothing. -/
  | missing
  /-- There is something that cannot be read. -/
  | unreadable (reason : String)
  /-- There is a text. -/
  | text (s : String)
  deriving DecidableEq, Repr

namespace Tree

/-- What is at a place. The directories above the top, and the root, are always
there. -/
def look (t : Tree) (names : List String) : Place :=
  match t.files.find? (·.1 == names) with
  | some (_, text) => .file text
  | none =>
    if names.all (· == "..") || names == ["/"] then .directory
    -- a file makes every directory above it
    else if (t.files.map (·.1) ++ t.directories).any (names.isPrefixOf ·) then .directory
    else .nothing

/-- The place above another one. -/
def above (names : List String) : List String :=
  if names.all (· == "..") then names ++ [".."]
  else if names = ["/"] then names
  else names.dropLast

/-- The place that steps lead to from a place. -/
def resolve (t : Tree) (names : List String) : List String → Except FileError (List String)
  | [] => .ok names
  | step :: more =>
    match t.look names with
    | .file _ => .error .notDirectory
    | .nothing => .error .missing
    | .directory =>
      if step = "." then resolve t names more
      else if step = ".." then resolve t (above names) more
      else if step = "/" then resolve t ["/"] more
      else resolve t (names ++ [step]) more

/-- What reading a path comes to. -/
def read (t : Tree) (path : String) : Lookup :=
  match t.resolve [] (Path.steps path) with
  | .error _ => .missing
  | .ok names =>
    match t.look names with
    | .file text => .text text
    | .directory => .unreadable FileError.isDirectory.message
    | .nothing => .missing

/-- Whether steps lead to a directory. -/
def isDirectory (t : Tree) (path : List String) : Bool :=
  match t.resolve [] path with
  | .ok names => t.look names = .directory
  | .error _ => false

/-- Makes one directory. -/
def makeDirectory (t : Tree) (path : List String) : Except FileError Tree := do
  let names ← t.resolve [] path.dropLast
  match t.look names with
  | .file _ => .error .notDirectory
  | .nothing => .error .missing
  | .directory =>
    match path.getLast? with
    -- a last step without a name leads to a directory that is there
    | none | some "." | some ".." | some "/" => .error .occupied
    | some name =>
      match t.look (names ++ [name]) with
      | .nothing => .ok { t with directories := t.directories ++ [names ++ [name]] }
      | _ => .error .occupied

/-- Makes the directory that the first `n` steps lead to, and those above it. -/
def makeUpTo (t : Tree) (path : List String) : Nat → Except FileError Tree
  | 0 => .ok t
  | n + 1 =>
    match t.makeDirectory (path.take (n + 1)) with
    | .ok t => .ok t
    -- the directory above is missing: it is made first, and then this one is
    -- tried again
    | .error .missing => do
      let t ← makeUpTo t path n
      match t.makeDirectory (path.take (n + 1)) with
      | .ok t => .ok t
      | .error e => if t.isDirectory (path.take (n + 1)) then .ok t else .error e
    -- a directory that is there is as good as one that is made
    | .error e => if t.isDirectory (path.take (n + 1)) then .ok t else .error e

/-- Makes a directory and those above it, as far as they are not there. -/
def makeDirectories (t : Tree) (path : String) : Except FileError Tree :=
  t.makeUpTo (Path.steps path) (Path.steps path).length

/-- Makes a file in a directory, unless it is there. -/
def touch (t : Tree) (directory name : String) : Except FileError Tree := do
  let names ← t.resolve [] (Path.steps directory ++ [name])
  match t.look names with
  | .file _ => .ok t
  | .directory => .error .isDirectory
  | .nothing => .ok { t with files := t.files ++ [(names, "")] }

end Tree

end RemoteConsole
