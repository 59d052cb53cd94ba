import RemoteConsole.Toml.Node
import RemoteConsole.Toml.Number
import RemoteConsole.Toml.Text

/-!
# Reading a document

A document is a sequence of lines: entries, headers that open a table for the
entries below them, and comments. An open table is put in its place when the
next header comes or the document ends.

* `Reader.value` — a value; lists and braces may stand in each other up to a
  fixed depth.
* `Draft` — a document while it is read, with one open table.
* `parse?` — a whole document, if it is well formed.
-/

namespace RemoteConsole.Toml

/-- The depth that lists, braces and dotted keys stay below. -/
def depthLimit : Nat := 80

namespace Reader

/-! ## Keys -/

/-- Whether a character may stand in a key without quotes. -/
def isBare (c : Char) : Bool :=
  c.isAlphanum || c == '_' || c == '-'

/-- A key without quotes. -/
def bare : Reader (List Char) := do
  let name ← span isBare
  if name.isEmpty then refuse else pure name

/-- A key without points. -/
def simpleKey : Reader Key := do
  let (name, span) ← spanned (basic <|> literal <|> bare)
  pure ⟨String.ofList name, span⟩

/-- A key with blanks around it. -/
def paddedKey : Reader Key := do
  blanks
  let key ← simpleKey
  blanks
  pure key

/-- A key with points: the way to an entry, and the key of the entry. -/
def dottedKey : Reader (List Key × Key) := do
  let first ← paddedKey
  let more ← many do
    let _ ← one '.'
    paddedKey
  let path := first :: more
  -- a key with as many parts as the limit is refused like a list as deep
  if path.length < depthLimit then pure (path.dropLast, path.getLast?.getD first) else refuse

/-! ## Values -/

/-- A value without parts. -/
def scalar : Reader Scalar :=
  (do return .text (String.ofList (← text)))
    <|> (do exactly ['t', 'r', 'u', 'e']; pure (.boolean true))
    <|> (do exactly ['f', 'a', 'l', 's', 'e']; pure (.boolean false))
    <|> (do datetime; pure .datetime)
    <|> (do return .float (← float))
    <|> (do return .integer (← integer))

/-- The items of a list, with commas between them and possibly behind them. -/
def items (item : Reader Node) : Reader (List Node) := do
  let padded : Reader Node := do
    gaps
    let node ← item
    gaps
    pure node
  match ← optional padded with
  | none =>
    gaps
    pure []
  | some first =>
    let more ← many do
      let _ ← one ','
      padded
    -- a comma may stand behind the last item of a list, not of a table in
    -- braces
    let _ ← optional (one ',')
    gaps
    pure (first :: more)

/-- An entry: a key, an equals sign and a value. -/
def entry (value : Reader Node) : Reader ((List Key × Key) × Node) := do
  let key ← dottedKey
  let _ ← one '='
  blanks
  let node ← value
  pure (key, node)

/-- The entries in braces, with commas between them. -/
def bracedEntries (value : Reader Node) : Reader (List ((List Key × Key) × Node)) := do
  let padded : Reader ((List Key × Key) × Node) := do
    let e ← entry value
    blanks
    pure e
  let es ← match ← optional padded with
    | none => pure []
    | some first =>
      let more ← many do
        let _ ← one ','
        padded
      pure (first :: more)
  blanks
  pure es

/-- The entries in braces as a table. -/
def bracedTable (es : List ((List Key × Key) × Node)) : Option Entries :=
  es.foldlM (fun table e => Entries.insert? true e.1.1 e.1.2 e.2 { braced := true } table) []

/-- A value, with lists and braces in each other to a depth. -/
def value : Nat → Reader Node
  | 0 => do
    let (s, span) ← spanned scalar
    pure (.scalar span s)
  | depth + 1 => do
    match ← peek with
    | some '[' =>
      let (nodes, span) ← spanned do
        let _ ← one '['
        let nodes ← items (value depth)
        let _ ← one ']'
        pure nodes
      pure (.list span nodes)
    | some '\x7b' =>
      let (es, span) ← spanned do
        let _ ← one '\x7b'
        let es ← bracedEntries (value depth)
        let _ ← one '\x7d'
        match bracedTable es with
        | some es => pure es
        | none => refuse
      pure (.table { span := some span, braced := true } es)
    | _ =>
      let (s, span) ← spanned scalar
      pure (.scalar span s)

end Reader

/-! ## The open table -/

/-- A table that entries are added to. -/
structure Section where
  /-- Its path; the document itself has none. -/
  path : Option (List Key × Key) := none
  /-- Whether its header is doubled. -/
  doubled : Bool := false
  /-- Where it comes from. -/
  origin : Origin := {}
  /-- Its entries. -/
  entries : Entries := []

/-- A document while it is read. -/
structure Draft where
  /-- The tables that are complete. -/
  root : Entries := []
  /-- The table that is open. -/
  current : Section := {}

namespace Draft

/-- Changes the table that the path of a header leads to, and looks at it. -/
def underPath {β : Type} (root : Entries) (path : List Key)
    (change : Entries → Option (β × Entries)) : Option (β × Entries) :=
  Entries.update false false (fun _ es => change es) path {} root

/-- Adds a table to those of a doubled header. -/
def addTable (key : Key) (table : Node) (es : Entries) : Option Entries :=
  match Entries.find? es key.name with
  | none => some (es ++ [(key, .tables [table])])
  | some (.tables items) => some (Entries.replace es key.name (.tables (items ++ [table])))
  | some _ => none

/-- The document with the open table in its place. -/
def complete (d : Draft) : Option Entries :=
  match d.current.path with
  | none => some d.current.entries
  | some (path, key) =>
    let table := Node.table d.current.origin d.current.entries
    (underPath d.root path fun es =>
      (if d.current.doubled then addTable key table es else Entries.add key table es).map
        fun es => ((), es)).map (·.2)

/-- Makes room for a doubled header: its place is free or holds tables of its
kind. -/
def reserve (key : Key) (es : Entries) : Option (Entries × Entries) :=
  match Entries.find? es key.name with
  | none => some ([], es ++ [(key, .tables [])])
  | some (.tables _) => some ([], es)
  | some _ => none

/-- Makes room for a header: its place is free, or holds a table that is only
implied, whose entries go into the table of the header. -/
def free (key : Key) (es : Entries) : Option (Entries × Entries) :=
  match Entries.find? es key.name with
  | none => some ([], es)
  | some (.table origin inner) =>
    -- a header may write out what other headers have only implied
    if origin.implicit && !origin.dotted && !origin.braced then
      some (inner, Entries.erase es key.name)
    else none
  | some _ => none

/-- Opens the table of a header. -/
def openTable (d : Draft) (doubled : Bool) (path : List Key) (key : Key) (span : Span) :
    Option Draft := do
  -- the table that was open so far is put in its place before the next one is
  -- looked for
  let root ← d.complete
  let (entries, root) ← underPath root path (if doubled then reserve key else free key)
  pure
    { root := root
      current :=
        { path := some (path, key), doubled := doubled, origin := { span := some span },
          entries := entries } }

/-- Adds an entry to the open table, which then reaches to the end of the
entry's value. -/
def addEntry (d : Draft) (path : List Key) (key : Key) (node : Node) : Option Draft := do
  let entries ← Entries.insert? false path key node d.current.origin d.current.entries
  -- entries before the first header have no table that stands anywhere by
  -- itself
  let span := match d.current.origin.span, node.span? with
    | some header, some value => some ⟨header.start, value.stop⟩
    | span, _ => span
  pure
    { d with
      current :=
        { d.current with
          entries := entries
          origin := { d.current.origin with span := span } } }

end Draft

/-! ## Lines -/

namespace Reader

/-- What cannot be refused by the form of the document alone. -/
def accepted {α : Type} : Option α → Reader α
  | some a => pure a
  | none => refuse

/-- A header. -/
def header (d : Draft) : Reader Draft := do
  let ((doubled, path, key), span) ← spanned do
    let _ ← one '['
    match ← optional (one '[') with
    | some _ =>
      let key ← dottedKey
      exactly [']', ']']
      pure (true, key)
    | none =>
      let key ← dottedKey
      let _ ← one ']'
      pure (false, key)
  lineRest
  accepted (d.openTable doubled path key span)

/-- A line of a document. -/
def line (d : Draft) : Reader Draft := do
  match ← peek with
  | some '#' =>
    comment
    lineEnd <|> finish
    pure d
  | some '[' => header d
  | some '\n' =>
    lineEnd
    pure d
  | some '\r' =>
    lineEnd
    pure d
  | _ =>
    let ((path, key), node) ← entry (value (depthLimit - 1))
    lineRest
    accepted (d.addEntry path key node)

/-- The lines of a document. Every line takes at least one character, so that
the characters left bound their number. -/
def lines (d : Draft) : Nat → Reader Draft
  | 0 => pure d
  | fuel + 1 => do
    match ← peek with
    | none => pure d
    | some _ =>
      let d ← line d
      blanks
      lines d fuel

/-- A document. A mark of the byte order in front of it is skipped. -/
def document : Reader Entries := do
  let _ ← optional (one '\uFEFF')
  blanks
  let d ← (fun c => lines {} (c.rest.length + 1) c : Reader Draft)
  finish
  accepted d.complete

end Reader

/-- The entries of a document, if it is well formed. -/
def parse? (text : String) : Option Entries :=
  (Reader.document ⟨text.toList, 0⟩).map (·.1)

end RemoteConsole.Toml
