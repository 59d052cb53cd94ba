import RemoteConsole.Json.Record
import RemoteConsole.Json.Value

/-!
# Process descriptors

A process describes itself with a title, a description and typed inputs and
outputs. Inputs and outputs are declared one after the other; declaring a name
again replaces what was declared before, in its place.

* `Parameter`, `Descriptor` — the records.
* `Parameter.declare` — adds or replaces a parameter; `find?_declare` says what
  a look-up finds afterwards.
* `Descriptor.declare` — takes in one declaration.
* `Descriptor.decode`, `Descriptor.text` — reading and writing; parts that are
  not there are left out.
-/

namespace RemoteConsole

open Json (Decoder Malformed Shape Member Value)

/-- A named input or output of a process. -/
structure Parameter where
  /-- The name that callers use. -/
  name : String
  /-- The type, as the service understands it. -/
  type : String
  /-- A description for people. -/
  description : String
  deriving DecidableEq, Repr

/-- A process and what it says of itself. -/
structure Descriptor where
  /-- The name it is registered under. -/
  name : String
  /-- A short title. -/
  title : Option String := none
  /-- A longer description. -/
  description : Option String := none
  /-- The inputs, in the order of their first declarations. -/
  inputs : List Parameter := []
  /-- The outputs, in the order of their first declarations. -/
  outputs : List Parameter := []
  deriving DecidableEq, Repr

/-! ## Declaring -/

namespace Parameter

/-- The parameter of a name. -/
def find? (name : String) (ps : List Parameter) : Option Parameter :=
  List.find? (fun p => p.name == name) ps

/-- Adds a parameter, or puts it in the place of the one with its name. -/
def declare (p : Parameter) : List Parameter → List Parameter
  | [] => [p]
  -- the place of a name is that of its first declaration
  | q :: rest => if q.name = p.name then p :: rest else q :: declare p rest

/-- After a declaration its name is found as declared, and every other name as
before. -/
theorem find?_declare (p : Parameter) (ps : List Parameter) (name : String) :
    find? name (declare p ps) = if p.name = name then some p else find? name ps := by
  induction ps with
  | nil => by_cases h : p.name = name <;> simp [find?, declare, h]
  | cons q rest ih =>
    unfold declare
    unfold find? at ih ⊢
    split
    · next hq => by_cases h : p.name = name <;> simp [hq, h]
    · next hq =>
      rw [List.find?_cons, List.find?_cons, ih]
      by_cases h : p.name = name
      · have : q.name ≠ name := fun hn => hq (hn.trans h.symm)
        simp [h, beq_eq_false_iff_ne.2 this]
      · simp [h]

end Parameter

/-- What is said of a process. -/
inductive Declaration where
  | title (text : String)
  | description (text : String)
  | input (p : Parameter)
  | output (p : Parameter)
  deriving DecidableEq, Repr

namespace Descriptor

/-- Takes in one declaration. -/
def declare (d : Descriptor) : Declaration → Descriptor
  | .title text => { d with title := some text }
  | .description text => { d with description := some text }
  | .input p => { d with inputs := p.declare d.inputs }
  | .output p => { d with outputs := p.declare d.outputs }

/-- The process of a name, with declarations in their order. -/
def ofDeclarations (name : String) (ds : List Declaration) : Descriptor :=
  ds.foldl declare { name := name }

/-- The input of a name. -/
def findInput? (d : Descriptor) (name : String) : Option Parameter :=
  Parameter.find? name d.inputs

/-- The output of a name. -/
def findOutput? (d : Descriptor) (name : String) : Option Parameter :=
  Parameter.find? name d.outputs

end Descriptor

/-! ## Reading -/

namespace Parameter

/-- The fields of a parameter that have been read. -/
structure Draft where
  name : Option String := none
  type : Option String := none
  description : Option String := none

/-- What to do with a member of a parameter. -/
def member (d : Draft) (key : String) : Member Draft :=
  if key = "name" then
    if d.name.isSome then .repeated
    else .field do return { d with name := some (← Decoder.string) }
  else if key = "type" then
    if d.type.isSome then .repeated
    else .field do return { d with type := some (← Decoder.string) }
  else if key = "description" then
    if d.description.isSome then .repeated
    else .field do return { d with description := some (← Decoder.string) }
  else .unknown

/-- The parameter with all its fields. -/
def build (d : Draft) : Except Mismatch Parameter :=
  match d.name, d.type with
  | none, _ => .error (.missingField "name")
  | some _, none => .error (.missingField "type")
  | some name, some type => .ok ⟨name, type, d.description.getD ""⟩

/-- How a parameter is written. -/
def shape : Shape Draft Parameter where
  name := "Parameter"
  start := {}
  member := member
  build := build
  inOrder := do
    let name ← Decoder.fieldInOrder "Parameter" 0 3 Decoder.string
    let type ← Decoder.fieldInOrder "Parameter" 1 3 Decoder.string
    let description ← Decoder.fieldInOrderD "" Decoder.string
    pure ⟨name, type, description⟩

/-- A parameter. -/
def decoder : Decoder Parameter :=
  Decoder.record shape

/-- A parameter as it is written. -/
def toValue (p : Parameter) : Value :=
  .object
    ([("name", .string p.name), ("type", .string p.type)]
      -- an empty description is as good as none
      ++ if p.description.isEmpty then [] else [("description", .string p.description)])

end Parameter

namespace Descriptor

/-- The fields of a descriptor that have been read; a title or a description may
be read as absent. -/
structure Draft where
  name : Option String := none
  title : Option (Option String) := none
  description : Option (Option String) := none
  inputs : Option (List Parameter) := none
  outputs : Option (List Parameter) := none

/-- What to do with a member of a descriptor. -/
def member (d : Draft) (key : String) : Member Draft :=
  if key = "name" then
    if d.name.isSome then .repeated
    else .field do return { d with name := some (← Decoder.string) }
  else if key = "title" then
    if d.title.isSome then .repeated
    else .field do return { d with title := some (← Decoder.optional Decoder.string) }
  else if key = "description" then
    if d.description.isSome then .repeated
    else .field do return { d with description := some (← Decoder.optional Decoder.string) }
  else if key = "inputs" then
    if d.inputs.isSome then .repeated
    else .field do return { d with inputs := some (← Decoder.list Parameter.decoder) }
  else if key = "outputs" then
    if d.outputs.isSome then .repeated
    else .field do return { d with outputs := some (← Decoder.list Parameter.decoder) }
  else .unknown

/-- The descriptor with all its fields. -/
def build (d : Draft) : Except Mismatch Descriptor :=
  match d.name with
  | none => .error (.missingField "name")
  | some name =>
    .ok
      { name := name
        title := d.title.getD none
        description := d.description.getD none
        inputs := d.inputs.getD []
        outputs := d.outputs.getD [] }

/-- How a descriptor is written. -/
def shape : Shape Draft Descriptor where
  name := "ProcessDescriptor"
  start := {}
  member := member
  build := build
  inOrder := do
    let name ← Decoder.fieldInOrder "ProcessDescriptor" 0 5 Decoder.string
    let title ← Decoder.fieldInOrderD none (Decoder.optional Decoder.string)
    let description ← Decoder.fieldInOrderD none (Decoder.optional Decoder.string)
    let inputs ← Decoder.fieldInOrderD [] (Decoder.list Parameter.decoder)
    let outputs ← Decoder.fieldInOrderD [] (Decoder.list Parameter.decoder)
    pure ⟨name, title, description, inputs, outputs⟩

/-- A descriptor. -/
def decoder : Decoder Descriptor :=
  Decoder.record shape

/-- Reads a document that is a descriptor. -/
def decode (document : List UInt8) : Except Malformed Descriptor :=
  decoder.run document

/-! ## Writing -/

/-- A text that may be absent, as a member. -/
def optionalMember (key : String) : Option String → List (String × Value)
  | none => []
  | some text => [(key, .string text)]

/-- A descriptor as it is written. -/
def toValue (d : Descriptor) : Value :=
  .object
    ([("name", .string d.name)] ++ optionalMember "title" d.title
      ++ optionalMember "description" d.description
      ++ [("inputs", .list (d.inputs.map Parameter.toValue)),
        ("outputs", .list (d.outputs.map Parameter.toValue))])

/-- The compact text of a descriptor. -/
def text (d : Descriptor) : String :=
  String.ofList d.toValue.compact

end Descriptor

/-- The compact text of a parameter. -/
def Parameter.text (p : Parameter) : String :=
  String.ofList p.toValue.compact

end RemoteConsole
