import RemoteConsole.Decimal.Layout
import RemoteConsole.Mismatch
import RemoteConsole.Toml.Node

/-!
# Values of documents by what they should be

A decoder turns a value into what is asked for, or says what is wrong with it
and where. The place is that of the innermost value that stands anywhere by
itself.

* `Fault` — what is wrong, with `Fault.message`.
* `Decoder.text`, `Decoder.natural` — single values.
* `Decoder.record` — a table with known keys, or a list of their values in
  order.
* `Decoder.alternative` — one of two names.
-/

namespace RemoteConsole.Toml

/-- What is wrong with a value. -/
structure Fault where
  mismatch : Mismatch
  /-- Where it is wrong, as far as that is known. -/
  span : Option Span := none
  deriving DecidableEq, Repr

namespace Fault

/-- The fault with a place, if it has none yet. -/
def within (span : Option Span) (f : Fault) : Fault :=
  { f with span := f.span.or span }

/-- The report on a fault. -/
def message (f : Fault) : String :=
  match f.span with
  | some s =>
    f.mismatch.message ++ " (bytes " ++ toString s.start ++ ".." ++ toString s.stop ++ ")"
  | none => f.mismatch.message

end Fault

/-- The kind of a value without parts. -/
def Scalar.kind : Scalar → String
  | text _ => "string"
  | integer _ => "integer"
  | float _ => "float"
  | boolean _ => "boolean"
  | datetime => "datetime"

namespace Node

/-- The value as a report describes it. -/
def found : Node → Found
  | scalar _ (.text s) => .string s
  | scalar _ (.integer n) => .integer n
  | scalar _ (.float f) => .float (Layout.positional.number f)
  | scalar _ (.boolean b) => .boolean b
  | scalar _ .datetime => .map
  | list .. => .sequence
  | tables _ => .sequence
  | table .. => .map

end Node

/-- Turns a value into what is asked for. -/
abbrev Decoder (α : Type) := Node → Except Fault α

namespace Decoder

/-- Refuses a value for a reason. -/
def refuse {α : Type} (m : Mismatch) : Except Fault α :=
  .error { mismatch := m }

/-- Decodes a part, whose place is known. -/
def within {α : Type} (span : Option Span) (r : Except Fault α) : Except Fault α :=
  r.mapError (·.within span)

/-- Decodes a value; a fault without a place is one of the whole value. -/
def placed {α : Type} (decode : Decoder α) : Decoder α := fun node =>
  within node.span? (decode node)

/-! ## Single values -/

/-- A text. -/
def text (expected : String) : Decoder String :=
  placed fun
    | .scalar _ (.text s) => .ok s
    | node => refuse (.type node.found expected)

/-- A text without a meaning of its own. -/
def string : Decoder String :=
  text "a string"

/-- A whole number below a bound. -/
def natural (bound : Nat) (expected : String) : Decoder (Fin bound) :=
  placed fun node =>
    match node with
    | .scalar _ (.integer n) =>
      if h : 0 ≤ n ∧ n.toNat < bound then .ok ⟨n.toNat, h.2⟩
      else refuse (.value node.found expected)
    | _ => refuse (.type node.found expected)

/-! ## Records -/

/-- A field of a record. -/
structure Field (α : Type) where
  /-- Its key. -/
  name : String
  /-- The record with another value for the field. -/
  read : α → Decoder α

/-- A field that holds what a decoder gives. -/
def Field.holding {α β : Type} (name : String) (decode : Decoder β) (put : α → β → α) :
    Field α where
  name := name
  read a node := (decode node).map (put a)

/-- A record from the entries of a table. Keys that name no field are passed
over. -/
def entries {α : Type} (fields : List (Field α)) (a : α) : Entries → Except Fault α
  | [] => .ok a
  | (key, node) :: more =>
    match fields.find? (·.name == key.name) with
    | none => entries fields a more
    | some f => do
      -- a value without a place of its own is reported at its key
      entries fields (← within (node.span?.or (some key.span)) (f.read a node)) more

/-- A record from the values of its first fields. Values beyond the fields are
passed over. -/
def inOrder {α : Type} (fields : List (Field α)) (a : α) (items : List Node) :
    Except Fault α :=
  (fields.zip items).foldlM (fun a (f, node) => f.read a node) a

/-- A record, with values for the fields that are not there. A point in time has
no fields. -/
def record {α : Type} (name : String) (fields : List (Field α)) (start : α) : Decoder α :=
  placed fun
    | .table _ es => entries fields start es
    | .list _ items => inOrder fields start items
    | .tables items => inOrder fields start items
    -- a point in time passes for a table, whose one key names no field
    | .scalar _ .datetime => .ok start
    | node => refuse (.type node.found ("struct " ++ name))

/-! ## Alternatives -/

/-- The alternative that a name names. -/
def named {α : Type} (ofText? : String → Option α) (first second name : String) :
    Except Fault α :=
  match ofText? name with
  | some a => .ok a
  | none => refuse (.variant name first second)

/-- Nothing: a table or a list without members. -/
def nothing : Decoder Unit := fun node =>
  within node.span? <| match node with
    | .table _ es => if es.isEmpty then .ok () else refuse (.refused "expected empty table")
    | .list _ items => if items.isEmpty then .ok () else refuse (.refused "expected empty table")
    | .tables items => if items.isEmpty then .ok () else refuse (.refused "expected empty array")
    | .scalar _ s => refuse (.refused ("expected table, found " ++ s.kind))

/-- One of two alternatives: its name, or a table with the name as its only key
and nothing as its value. -/
def alternative {α : Type} (ofText? : String → Option α) (first second : String) : Decoder α :=
  placed fun
    | .scalar _ (.text name) => named ofText? first second name
    | .table _ [] => refuse (.refused "wanted exactly 1 element, found 0 elements")
    | .table _ [(key, node)] => do
      let a ← within (some key.span) (named ofText? first second key.name)
      nothing node
      return a
    | .table _ _ => refuse (.refused "wanted exactly 1 element, more than 1 element")
    | _ => refuse (.refused "wanted string or table")

end Decoder

end RemoteConsole.Toml
