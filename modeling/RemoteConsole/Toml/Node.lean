import RemoteConsole.Toml.Reader

/-!
# Documents as trees

A document is a table whose entries stand in the order in which they are
completed. Tables come from headers, from dotted keys or from braces; which of
them may be entered again by a later key depends on where they come from.

* `Node` — a value of a document with the bytes it stands on.
* `Entries.update` — changes the table at a path.
* `Entries.insert?` — adds an entry under a dotted key, unless something is in
  its way.
-/

namespace RemoteConsole.Toml

/-- A key with the bytes it stands on. -/
structure Key where
  name : String
  span : Span
  deriving DecidableEq, Repr

/-- Where a table comes from. -/
structure Origin where
  /-- The bytes it stands on, if it stands anywhere by itself. -/
  span : Option Span := none
  /-- Whether it is only there because something lies inside it. -/
  implicit : Bool := false
  /-- Whether a dotted key has made it. -/
  dotted : Bool := false
  /-- Whether it is a value in braces, or lies in one. -/
  braced : Bool := false
  deriving DecidableEq, Repr

/-- A value without parts. -/
inductive Scalar where
  | text (s : String)
  | integer (n : Int)
  | float (f : Float)
  | boolean (b : Bool)
  | datetime

/-- A value of a document. -/
inductive Node where
  | scalar (span : Span) (s : Scalar)
  /-- A list in brackets. -/
  | list (span : Span) (items : List Node)
  /-- A table. -/
  | table (origin : Origin) (entries : List (Key × Node))
  /-- The tables of one doubled header, in their order. -/
  | tables (items : List Node)

/-- The entries of a table. -/
abbrev Entries := List (Key × Node)

namespace Node

/-- The bytes of a table. -/
def tableSpan? : Node → Option Span
  | table origin _ => origin.span
  | _ => none

/-- The bytes a value stands on, if it stands anywhere by itself. The tables of
a doubled header stand from the start of the first to the end of the last. -/
def span? : Node → Option Span
  | scalar span _ => some span
  | list span _ => some span
  | table origin _ => origin.span
  | tables items =>
    match items.head?.bind tableSpan?, items.getLast?.bind tableSpan? with
    | some first, some last => some ⟨first.start, last.stop⟩
    | _, _ => none

end Node

namespace Entries

/-- The value of a key. -/
def find? (es : Entries) (name : String) : Option Node :=
  (List.find? (fun e => e.1.name == name) es).map (·.2)

/-- The entries with another value for a key that is there. -/
def replace (es : Entries) (name : String) (node : Node) : Entries :=
  es.map fun e => if e.1.name = name then (e.1, node) else e

/-- The entries without a key. -/
def erase (es : Entries) (name : String) : Entries :=
  es.filter fun e => e.1.name ≠ name

/-- Changes the last of some tables. -/
def updateLast {β : Type} (f : Origin → Entries → Option (β × Entries)) :
    List Node → Option (β × List Node)
  | [] => none
  | [.table origin es] => (f origin es).map fun r => (r.1, [.table origin r.2])
  | [_] => none
  | first :: more => (updateLast f more).map fun r => (r.1, first :: r.2)

/-- Changes the entries of the table at a path, and looks at them. Tables that
are missing are made, and count as made by a dotted key or only as implied. A
dotted key enters no table that has been written out, and no key enters braces
from outside. -/
def update {β : Type} (dotted braced : Bool) (change : Origin → Entries → Option (β × Entries)) :
    List Key → Origin → Entries → Option (β × Entries)
  | [], origin, es => change origin es
  | key :: path, _, es =>
    match find? es key.name with
    | none =>
      let made : Origin := { implicit := true, dotted := dotted, braced := braced }
      (update dotted braced change path made []).map fun r =>
        (r.1, es ++ [(key, .table made r.2)])
    | some (.table origin inner) =>
      -- braces are complete where they end, and dotted keys add only to what
      -- dotted keys made
      if origin.braced ≠ braced ∨ (dotted ∧ origin.implicit = false) then none
      else
        (update dotted braced change path origin inner).map fun r =>
          (r.1, replace es key.name (.table origin r.2))
    -- of the tables of a doubled header the last one is open
    | some (.tables items) =>
      (updateLast (update dotted braced change path) items).map fun r =>
        (r.1, replace es key.name (.tables r.2))
    | some _ => none

/-- Adds an entry whose key is free. -/
def add (key : Key) (node : Node) (es : Entries) : Option Entries :=
  match find? es key.name with
  | some _ => none
  | none => some (es ++ [(key, node)])

/-- Adds an entry under a dotted key. The last table on the way is one that
dotted keys make exactly if the key has several parts. -/
def insert? (braced : Bool) (path : List Key) (key : Key) (node : Node) (origin : Origin)
    (es : Entries) : Option Entries :=
  (update true braced
    (fun origin es =>
      if origin.dotted = path.isEmpty then none else (add key node es).map fun es => ((), es))
    path origin es).map (·.2)

end Entries

end RemoteConsole.Toml
