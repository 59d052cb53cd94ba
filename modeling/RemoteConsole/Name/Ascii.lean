import RemoteConsole.Name.Label
import RemoteConsole.Text.Separated

/-!
# Names in ASCII

A name is labels with full stops between them. However it is written, it has one
form in ASCII, which is what the names of hosts are compared and looked up by.

* `Name.labels?` — the texts of the labels of a name.
* `Name.isSettled` — whether the labels of a name go together.
* `Name.ascii?` — the ASCII form of a name, if it is one.
-/

namespace RemoteConsole.Name

/-- The texts of the labels of a name. Replacements come first, since they can
make full stops. -/
def labels? (name : List Char) : Option (List (List Char)) := do
  let replaced ← Mapping.replace? name
  (Separated.split '.' (Composition.normal replaced)).mapM Label.read?

/-- Whether labels go together: with a letter from right to left in one of them,
each must have one direction. -/
def isSettled (labels : List (List Char)) : Bool :=
  labels.all Direction.isSettled
    || labels.all (·.all fun c => !Direction.isRightward (Direction.of c))

/-- The ASCII form of a name, if all its labels are proper and go together. -/
def ascii? (name : List Char) : Option (List Char) := do
  let labels ← labels? name
  if labels.all Label.isProper && isSettled labels then
    some (Separated.join '.' (labels.map Label.write))
  else none

end RemoteConsole.Name
