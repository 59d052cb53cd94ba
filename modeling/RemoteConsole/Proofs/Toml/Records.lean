import Mathlib.Data.List.Basic
import RemoteConsole.Toml.Decoder

/-!
# Fields of records

A record takes each of its fields from one part of a value: the value of its key
in a table, or the item at its place in a list. A field for which nothing is
written keeps what it has, whatever becomes of the other fields.

* `Entries.last?`, `Node.key?`, `Node.items`, `Node.item?`, `Node.field?` — the
  parts of a value.
* `Decoder.Takes` — what a field comes to.
* `Decoder.Field.Reads`, `Decoder.Field.Keeps`, `Decoder.Stands` — one field
  among the others of a record.
* `Decoder.record_takes` — a record takes every field from its part.
-/

namespace RemoteConsole.Toml

/-! ## Parts of a value -/

/-- The value of a key. A document has no key twice; if it had, the last one
would count. -/
def Entries.last? (es : Entries) (name : String) : Option Node :=
  (es.reverse.find? (·.1.name == name)).map (·.2)

/-- An entry with the key counts unless a later one has the key too. -/
theorem Entries.last?_cons_self {key : Key} {node : Node} {es : Entries} {name : String} (h : key.name = name) :
    Entries.last? ((key, node) :: es) name = some ((Entries.last? es name).getD node) := by
  unfold Entries.last?
  rw [List.reverse_cons, List.find?_append, List.find?_cons, beq_iff_eq.mpr h]
  cases es.reverse.find? (·.1.name == name) <;> rfl

/-- An entry with another key does not count. -/
theorem Entries.last?_cons_of_ne {key : Key} {node : Node} {es : Entries} {name : String} (h : key.name ≠ name) :
    Entries.last? ((key, node) :: es) name = Entries.last? es name := by
  unfold Entries.last?
  rw [List.reverse_cons, List.find?_append, List.find?_cons, beq_eq_false_iff_ne.mpr h]
  cases es.reverse.find? (·.1.name == name) <;> rfl

namespace Node

/-- The value of a key in a table. -/
def key? (name : String) : Node → Option Node
  | table _ es => Entries.last? es name
  | _ => none

/-- What stands in a list, or in the tables of a doubled header. -/
def items : Node → List Node
  | list _ nodes => nodes
  | tables nodes => nodes
  | _ => []

/-- What stands at a place of a list. -/
def item? (place : Nat) (node : Node) : Option Node :=
  node.items[place]?

/-- What a value holds for a field with a name and a place. -/
def field? (name : String) (place : Nat) (node : Node) : Option Node :=
  (node.key? name).or (node.item? place)

end Node

namespace Decoder

/-- Where a fault is reported does not matter to a value that is decoded. -/
theorem within_eq_ok {α : Type} {span : Option Span} {r : Except Fault α} {a : α} :
    within span r = .ok a ↔ r = .ok a := by
  cases r with
  | error fault => exact iff_of_false nofun nofun
  | ok b => exact Iff.rfl

/-- A decoder that goes on with what another one has decoded succeeds if both
do. -/
theorem bind_eq_ok_iff {α β : Type} {r : Except Fault α} {next : α → Except Fault β} {b : β} :
    r >>= next = .ok b ↔ ∃ a, r = .ok a ∧ next a = .ok b := by
  cases r with
  | error fault => exact iff_of_false nofun nofun
  | ok a => exact ⟨fun h => ⟨a, rfl, h⟩, fun ⟨_, hOk, h⟩ => Except.ok.inj hOk ▸ h⟩

/-! ## One field among others -/

/-- A value is what is decoded from what is written, and the usual one if
nothing is written. -/
def Takes {γ : Type} (decode : Decoder γ) (written : Option Node) (usual value : γ) : Prop :=
  match written with
  | none => value = usual
  | some node => decode node = .ok value

namespace Field

variable {α β γ : Type} {name : String} {decode : Decoder β} {put : α → β → α} {get : α → γ}

/-- Reading a field leaves a value of the record as it is, whatever is read for
it. -/
def Keeps (f : Field α) (get : α → γ) : Prop :=
  ∀ a node a', f.read a node = .ok a' → get a' = get a

/-- Reading a field gives a value to the record: what a decoder makes of the
same node. -/
def Reads (f : Field α) (decode : Decoder γ) (get : α → γ) : Prop :=
  ∀ a node a', f.read a node = .ok a' → decode node = .ok (get a')

/-- A field that holds what its decoder gives puts that into the record. -/
theorem exists_of_holding {a a' : α} {node : Node} (h : (holding name decode put).read a node = .ok a') :
    ∃ b, decode node = .ok b ∧ a' = put a b := by
  change (decode node).map (put a) = .ok a' at h
  cases hDecode : decode node with
  | error fault =>
    rw [hDecode] at h
    cases h
  | ok b =>
    rw [hDecode] at h
    exact ⟨b, rfl, (Except.ok.inj h).symm⟩

@[simp] theorem name_holding : (holding name decode put).name = name := rfl

/-- Such a field keeps every value that its place in the record does not
touch. -/
@[simp] theorem keeps_holding (h : ∀ a b, get (put a b) = get a) : (holding name decode put).Keeps get := by
  intro a node a' hRead
  obtain ⟨b, -, rfl⟩ := exists_of_holding hRead
  exact h a b

/-- Such a field gives what its decoder gives, seen through its place in the
record. -/
theorem reads_holding {part : Decoder γ} (h : ∀ node a b, decode node = .ok b → part node = .ok (get (put a b))) :
    (holding name decode put).Reads part get := by
  intro a node a' hRead
  obtain ⟨b, hDecode, rfl⟩ := exists_of_holding hRead
  exact h node a b hDecode

end Field

/-- A field stands at a place of a record: it gives a value to the record, and
the others have other names and leave the value as it is. -/
structure Stands {α γ : Type} (fields : List (Field α)) (name : String) (place : Nat) (decode : Decoder γ)
    (get : α → γ) : Prop where
  own : ∃ f, fields[place]? = some f ∧ f.name = name ∧ f.Reads decode get
  other : ∀ f ∈ fields.eraseIdx place, f.name ≠ name ∧ f.Keeps get

section Record

variable {α β γ : Type} {fields : List (Field α)} {name : String} {place : Nat} {decode : Decoder γ} {get : α → γ}
  {a a' : α}

/-- A field that holds what its decoder gives stands at its place if the others
leave its value alone. -/
theorem Stands.holding {d : Decoder β} {put : α → β → α} (hField : fields[place]? = some (.holding name d put))
    (hPut : ∀ node a b, d node = .ok b → decode node = .ok (get (put a b)))
    (hOther : ∀ f ∈ fields.eraseIdx place, f.name ≠ name ∧ f.Keeps get) :
    Stands fields name place decode get :=
  ⟨⟨_, hField, rfl, Field.reads_holding hPut⟩, hOther⟩

/-- The fields with another name keep the value, and the only field with the
name gives it. -/
theorem Stands.cases (h : Stands fields name place decode get) {f : Field α} (hf : f ∈ fields) :
    f.name = name ∧ f.Reads decode get ∨ f.name ≠ name ∧ f.Keeps get := by
  obtain ⟨own, hOwn, hName, hReads⟩ := h.own
  obtain ⟨i, hi⟩ := List.mem_iff_getElem?.mp hf
  -- a field is told from the others by its place, not by its name
  by_cases hPlace : i = place
  · rw [hPlace, hOwn] at hi
    obtain rfl := Option.some.inj hi
    exact .inl ⟨hName, hReads⟩
  · exact .inr (h.other f (List.mem_eraseIdx_iff_getElem?.mpr ⟨i, hPlace, hi⟩))

theorem name_of_find? {key : String} {f : Field α} (h : fields.find? (·.name == key) = some f) : f.name = key :=
  beq_iff_eq.mp (List.find?_some (p := fun g : Field α => g.name == key) h)

/-- Under the name of a field it is found, and it gives the value. -/
theorem Stands.reads_of_find? (h : Stands fields name place decode get) :
    ∃ f, fields.find? (·.name == name) = some f ∧ f.Reads decode get := by
  obtain ⟨own, hOwn, hName, -⟩ := h.own
  have hSome : (fields.find? (·.name == name)).isSome = true :=
    List.find?_isSome.mpr ⟨own, List.mem_of_getElem? hOwn, beq_iff_eq.mpr hName⟩
  obtain ⟨f, hFind⟩ := Option.isSome_iff_exists.mp hSome
  rcases h.cases (List.mem_of_find?_eq_some hFind) with ⟨-, hReads⟩ | ⟨hOther, -⟩
  · exact ⟨f, hFind, hReads⟩
  · exact absurd (name_of_find? hFind) hOther

/-- Under another name only fields are found that keep the value. -/
theorem Stands.keeps_of_find? (h : Stands fields name place decode get) {f : Field α} {key : String}
    (hKey : key ≠ name) (hFind : fields.find? (·.name == key) = some f) : f.Keeps get := by
  rcases h.cases (List.mem_of_find?_eq_some hFind) with ⟨hOwn, -⟩ | ⟨-, hKeeps⟩
  · exact absurd ((name_of_find? hFind).symm.trans hOwn) hKey
  · exact hKeeps

/-- A table gives a field the value of its key. The induction is on the entries,
from the first, so that what an entry gives may still be replaced by a later
one. -/
theorem entries_takes (h : Stands fields name place decode get) {es : Entries}
    (hEntries : entries fields a es = .ok a') : Takes decode (Entries.last? es name) (get a) (get a') := by
  induction es generalizing a with
  | nil => exact congrArg get (Except.ok.inj hEntries).symm
  | cons e rest ih =>
    obtain ⟨key, node⟩ := e
    rw [entries] at hEntries
    by_cases hKey : key.name = name
    case pos =>
      -- the key gives the value, unless it comes again
      obtain ⟨f, hFind, hReads⟩ := h.reads_of_find?
      rw [hKey, hFind] at hEntries
      obtain ⟨next, hRead, hRest⟩ := bind_eq_ok_iff.mp hEntries
      have hNext : decode node = .ok (get next) := hReads a node next (within_eq_ok.mp hRead)
      have hTakes := ih hRest
      rw [Entries.last?_cons_self hKey]
      cases hLast : Entries.last? rest name with
      | none =>
        -- no later entry changes what this one has given
        rw [hLast] at hTakes
        exact hNext.trans (congrArg Except.ok hTakes.symm)
      | some later =>
        rw [hLast] at hTakes
        exact hTakes
    case neg =>
      rw [Entries.last?_cons_of_ne hKey]
      cases hFind : fields.find? (·.name == key.name) with
      | none =>
        rw [hFind] at hEntries
        exact ih hEntries
      | some f =>
        rw [hFind] at hEntries
        obtain ⟨next, hRead, hRest⟩ := bind_eq_ok_iff.mp hEntries
        rw [← h.keeps_of_find? hKey hFind a node next (within_eq_ok.mp hRead)]
        exact ih hRest

/-- Items that are read into other fields keep the value. -/
theorem inOrder_keeps (h : ∀ f ∈ fields, f.Keeps get) {items : List Node}
    (hItems : inOrder fields a items = .ok a') : get a' = get a := by
  induction fields generalizing a items with
  | nil => exact congrArg get (Except.ok.inj hItems).symm
  | cons f rest ih =>
    cases items with
    | nil => exact congrArg get (Except.ok.inj hItems).symm
    | cons node items =>
      obtain ⟨next, hRead, hRest⟩ := bind_eq_ok_iff.mp hItems
      rw [ih (fun f hf => h f (List.mem_cons_of_mem _ hf)) hRest]
      exact h f List.mem_cons_self a node next hRead

/-- A list gives a field the item at its place. The induction is on the fields,
which are read in their order; where the items run out, the other fields keep
what they have. -/
theorem inOrder_takes (h : Stands fields name place decode get) {items : List Node}
    (hItems : inOrder fields a items = .ok a') : Takes decode items[place]? (get a) (get a') := by
  induction fields generalizing a place items with
  | nil =>
    obtain ⟨own, hOwn, -⟩ := h.own
    cases hOwn
  | cons f rest ih =>
    cases items with
    | nil => exact congrArg get (Except.ok.inj hItems).symm
    | cons node items =>
      obtain ⟨next, hRead, hRest⟩ := bind_eq_ok_iff.mp hItems
      -- the first field is the one in question, or it stands behind it
      obtain ⟨own, hOwn, hName, hReads⟩ := h.own
      cases place with
      | zero =>
        -- the first item gives the value, and no field behind it changes it
        obtain rfl := Option.some.inj hOwn
        have hKeeps := inOrder_keeps (fun f hf => (h.other f hf).2) hRest
        change decode node = .ok (get a')
        rw [hKeeps]
        exact hReads a node next hRead
      | succ place =>
        -- the first item is another field's, and the place is one nearer among
        -- the others
        have hKeeps := (h.other f List.mem_cons_self).2 a node next hRead
        rw [← hKeeps]
        exact ih ⟨⟨own, hOwn, hName, hReads⟩, fun g hg => h.other g (List.mem_cons_of_mem _ hg)⟩ hRest

/-- **A record takes every field from its part.** What a field comes to depends
on what is written for it alone. The cases are the kinds of node: no scalar is a
record, except that a date counts as one in which nothing is written. -/
theorem record_takes (get : α → γ) (h : Stands fields name place decode get) {title : String} {node : Node}
    (hNode : record title fields a node = .ok a') :
    Takes decode (node.field? name place) (get a) (get a') := by
  have hRecord := within_eq_ok.mp hNode
  -- a table is read by its keys, a list or doubled header by its items
  cases node with
  | table origin es =>
    have hField : (Node.table origin es).field? name place = Entries.last? es name := Option.or_none
    rw [hField]
    exact entries_takes h hRecord
  | list span items => exact inOrder_takes h hRecord
  | tables items => exact inOrder_takes h hRecord
  | scalar span s =>
    cases s with
    | datetime => exact congrArg get (Except.ok.inj hRecord).symm
    | text | integer | float | boolean => cases hRecord

end Record

/-- A part of a part: what is not written leaves what is usual in it. -/
theorem Takes.field {α γ : Type} {decode : Decoder α} {part : Decoder γ} {get : α → γ} {written : Option Node}
    {usual a : α} {name : String} {place : Nat} (h : Takes decode written usual a)
    (hPart : ∀ node b, decode node = .ok b → Takes part (node.field? name place) (get usual) (get b)) :
    Takes part (written.bind (·.field? name place)) (get usual) (get a) := by
  cases written with
  | none => exact congrArg get h
  | some node => exact hPart node a h

end Decoder

end RemoteConsole.Toml
