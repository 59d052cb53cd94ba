import Mathlib.Data.List.Forall2
import RemoteConsole.Process.Descriptor
import RemoteConsole.Proofs.Json.Fields
import RemoteConsole.Proofs.Json.Printing

/-!
# Written descriptors are read back

The text of a descriptor leaves out what the descriptor does not have, and the
decoder puts in for what is left out what the descriptor has had. The two have
to agree field by field: no title is not an empty title, while no description of
a parameter is an empty one.

* `Parameter.Written`, `Descriptor.Written` — the values that are parameters and
  descriptors.
* `Descriptor.decode_eq_ok_iff` — what documents are descriptors.
* `Descriptor.decode_encode` — written descriptors are read back.
-/

namespace RemoteConsole

open Json (Decoder Document Member OrDefault Sets)

/-! ## Parameters -/

namespace Parameter

/-- What the value of a key changes in what is known of a parameter. -/
def effect (d : Draft) (key : String) (t : Json.Tree) (d' : Draft) : Prop :=
  if key = "name" then Sets d.name Json.Tree.IsString (fun s => { d with name := some s }) t d'
  else if key = "type" then Sets d.type Json.Tree.IsString (fun s => { d with type := some s }) t d'
  else if key = "description" then
    Sets d.description Json.Tree.IsString (fun s => { d with description := some s }) t d'
  else d' = d

/-- The record of a parameter takes its three fields and passes over everything
else. -/
theorem member_takes (d : Draft) (key : String) : (member d key).Takes d (effect d key) :=
  Member.takes_ite (fun _ => Member.takes_field Decoder.string_reads _ _ _) fun _ =>
  Member.takes_ite (fun _ => Member.takes_field Decoder.string_reads _ _ _) fun _ =>
  Member.takes_ite (fun _ => Member.takes_field Decoder.string_reads _ _ _) fun _ =>
  Member.takes_unknown d

/-- The fields of a parameter in order. The description may be left out. -/
def InOrder (ts : List Json.Tree) (p : Parameter) : Prop :=
  ∃ name type more, ts = name :: type :: more ∧ name.IsString p.name ∧ type.IsString p.type ∧
    OrDefault Json.Tree.IsString "" more.head? p.description ∧ more.tail = []

/-- A parameter that is written as a list has its fields in order, the last of
which may be left out. -/
theorem inOrder_readsItems : Decoder.ReadsItems true shape.inOrder InOrder := by
  have hFields := Decoder.ReadsItems.field "Parameter" 0 3 Decoder.string_reads fun name =>
    Decoder.ReadsItems.field "Parameter" 1 3 Decoder.string_reads fun type =>
    Decoder.ReadsItems.fieldD "" Decoder.string_reads fun description =>
      .pure false (Parameter.mk name type description)
  refine hFields.congr fun ts p => ⟨?_, ?_⟩
  · rintro ⟨n, _, name, rfl, hName, t, more, type, rfl, hType, description, hDescription, hTail, rfl⟩
    exact ⟨n, t, more, rfl, hName, hType, hDescription, hTail⟩
  · rintro ⟨n, t, more, rfl, hName, hType, hDescription, hTail⟩
    exact ⟨n, _, p.name, rfl, hName, t, more, p.type, rfl, hType, p.description, hDescription, hTail, rfl⟩

/-- The values that are parameters: an object whose members make one, or a list
of the fields. -/
def Written : Json.Tree → Parameter → Prop :=
  shape.Written effect InOrder

/-- The decoder of parameters reads parameters, in either form. -/
theorem decoder_reads : decoder.Reads Written :=
  Decoder.record_reads member_takes inOrder_readsItems

/-- The members of a written parameter make it. -/
theorem written_tree (p : Parameter) : Written p.toValue.tree p := by
  have hName : Json.Writes effect {} [("name", .string p.name)] ⟨some p.name, none, none⟩ :=
    .singleton ⟨rfl, p.name, Json.Value.isString_tree p.name, rfl⟩
  have hType : Json.Writes effect ⟨some p.name, none, none⟩ [("type", .string p.type)]
      ⟨some p.name, some p.type, none⟩ :=
    .singleton ⟨rfl, p.type, Json.Value.isString_tree p.type, rfl⟩
  -- an empty description is left out, and what is left out is empty
  by_cases hEmpty : p.description.isEmpty = true
  · have hBuild : shape.build ⟨some p.name, some p.type, none⟩ = .ok p := by
      show Except.ok (Parameter.mk p.name p.type "") = .ok p
      rw [← String.isEmpty_iff.mp hEmpty]
    unfold toValue
    rw [if_pos hEmpty]
    exact ((hName.append hType).append (.nil _)).written hBuild
  · have hDescription : Json.Writes effect ⟨some p.name, some p.type, none⟩
        [("description", .string p.description)] ⟨some p.name, some p.type, some p.description⟩ :=
      .singleton ⟨rfl, p.description, Json.Value.isString_tree p.description, rfl⟩
    unfold toValue
    rw [if_neg hEmpty]
    exact ((hName.append hType).append hDescription).written rfl

end Parameter

/-! ## Descriptors -/

namespace Descriptor

/-- What the value of a key changes in what is known of a descriptor. -/
def effect (d : Draft) (key : String) (t : Json.Tree) (d' : Draft) : Prop :=
  if key = "name" then Sets d.name Json.Tree.IsString (fun s => { d with name := some s }) t d'
  else if key = "title" then
    Sets d.title (Json.Tree.IsOptional Json.Tree.IsString) (fun o => { d with title := some o }) t d'
  else if key = "description" then
    Sets d.description (Json.Tree.IsOptional Json.Tree.IsString)
      (fun o => { d with description := some o }) t d'
  else if key = "inputs" then
    Sets d.inputs (Json.Tree.IsList Parameter.Written) (fun ps => { d with inputs := some ps }) t d'
  else if key = "outputs" then
    Sets d.outputs (Json.Tree.IsList Parameter.Written) (fun ps => { d with outputs := some ps }) t d'
  else d' = d

/-- A text that may be null is read as a text or as nothing. -/
theorem optionalString_reads :
    (Decoder.optional Decoder.string).Reads (Json.Tree.IsOptional Json.Tree.IsString) :=
  Decoder.optional_reads Decoder.string_reads

theorem parameters_reads :
    (Decoder.list Parameter.decoder).Reads (Json.Tree.IsList Parameter.Written) :=
  Decoder.list_reads Parameter.decoder_reads

/-- The record of a descriptor takes its five fields and passes over everything
else. -/
theorem member_takes (d : Draft) (key : String) : (member d key).Takes d (effect d key) :=
  Member.takes_ite (fun _ => Member.takes_field Decoder.string_reads _ _ _) fun _ =>
  Member.takes_ite (fun _ => Member.takes_field optionalString_reads _ _ _) fun _ =>
  Member.takes_ite (fun _ => Member.takes_field optionalString_reads _ _ _) fun _ =>
  Member.takes_ite (fun _ => Member.takes_field parameters_reads _ _ _) fun _ =>
  Member.takes_ite (fun _ => Member.takes_field parameters_reads _ _ _) fun _ =>
  Member.takes_unknown d

/-- The fields of a descriptor in order. All but the name may be left out, the
last ones first. -/
def InOrder (ts : List Json.Tree) (d : Descriptor) : Prop :=
  ∃ name more, ts = name :: more ∧ name.IsString d.name ∧
    OrDefault (Json.Tree.IsOptional Json.Tree.IsString) none more[0]? d.title ∧
    OrDefault (Json.Tree.IsOptional Json.Tree.IsString) none more[1]? d.description ∧
    OrDefault (Json.Tree.IsList Parameter.Written) [] more[2]? d.inputs ∧
    OrDefault (Json.Tree.IsList Parameter.Written) [] more[3]? d.outputs ∧ more.length ≤ 4

/-- A descriptor that is written as a list has its fields in order. What is left
out at the end is put in, and a sixth item is too many. -/
theorem inOrder_readsItems : Decoder.ReadsItems true shape.inOrder InOrder := by
  have hFields := Decoder.ReadsItems.field "ProcessDescriptor" 0 5 Decoder.string_reads fun name =>
    Decoder.ReadsItems.fieldD none optionalString_reads fun title =>
    Decoder.ReadsItems.fieldD none optionalString_reads fun description =>
    Decoder.ReadsItems.fieldD [] parameters_reads fun inputs =>
    Decoder.ReadsItems.fieldD [] parameters_reads fun outputs =>
      .pure false (Descriptor.mk name title description inputs outputs)
  -- the fields are read one behind the other, and stated by their places
  have hPlaces (more : List Json.Tree) : more.tail.head? = more[1]? ∧ more.tail.tail.head? = more[2]? ∧
      more.tail.tail.tail.head? = more[3]? := by
    simp [List.head?_eq_getElem?]
  have hEnd (more : List Json.Tree) : more.tail.tail.tail.tail = [] ↔ more.length ≤ 4 := by
    rw [← List.length_eq_zero_iff]
    simp only [List.length_tail]
    omega
  -- both sides ask the same of every place; only the way to name the place is
  -- different
  refine hFields.congr fun ts d => ⟨?_, ?_⟩
  · rintro ⟨n, more, name, rfl, hName, title, hTitle, description, hDescription, inputs, hInputs, outputs,
      hOutputs, hTail, rfl⟩
    obtain ⟨hSecond, hThird, hFourth⟩ := hPlaces more
    rw [List.head?_eq_getElem?] at hTitle
    rw [hSecond] at hDescription
    rw [hThird] at hInputs
    rw [hFourth] at hOutputs
    exact ⟨n, more, rfl, hName, hTitle, hDescription, hInputs, hOutputs, (hEnd more).mp hTail⟩
  · rintro ⟨n, more, rfl, hName, hTitle, hDescription, hInputs, hOutputs, hLength⟩
    obtain ⟨hSecond, hThird, hFourth⟩ := hPlaces more
    rw [← List.head?_eq_getElem?] at hTitle
    rw [← hSecond] at hDescription
    rw [← hThird] at hInputs
    rw [← hFourth] at hOutputs
    exact ⟨n, more, d.name, rfl, hName, d.title, hTitle, d.description, hDescription, d.inputs, hInputs,
      d.outputs, hOutputs, (hEnd more).mpr hLength, rfl⟩

/-- The values that are descriptors: an object whose members make one, or a list
of the fields. -/
def Written : Json.Tree → Descriptor → Prop :=
  shape.Written effect InOrder

/-- The decoder of descriptors reads descriptors, in either form. -/
theorem decoder_reads : decoder.Reads Written :=
  Decoder.record_reads member_takes inOrder_readsItems

/-- The documents that are read as a descriptor are those whose value is the
descriptor. -/
theorem decode_eq_ok_iff (document : List UInt8) (d : Descriptor) :
    decode document = .ok d ↔ ∃ t, Document document t ∧ Written t d :=
  decoder_reads.run_eq_ok_iff document d

/-! ## Written descriptors -/

/-- The text of a list of parameters holds that list. -/
theorem isList_tree (ps : List Parameter) :
    (Json.Value.list (ps.map Parameter.toValue)).tree.IsList Parameter.Written ps := by
  rw [Json.Value.tree, Json.Value.trees_eq_map, List.map_map]
  refine ⟨_, rfl, List.forall₂_map_left_iff.mpr (List.forall₂_same.mpr fun p _ => ?_)⟩
  exact p.written_tree

theorem isOptional_tree (text : String) :
    Json.Tree.IsOptional Json.Tree.IsString (Json.Value.string text).tree (some text) :=
  ⟨nofun, Json.Value.isString_tree text⟩

/-- The members of a written descriptor make it, one after the other. A title or
a description that is missing is not written, and is put in as it was left
out. -/
theorem written_tree (d : Descriptor) : Written d.toValue.tree d := by
  obtain ⟨name, title, description, inputs, outputs⟩ := d
  have hName : Json.Writes effect {} [("name", .string name)] ⟨some name, none, none, none, none⟩ :=
    .singleton ⟨rfl, name, Json.Value.isString_tree name, rfl⟩
  -- without a title there is no member, and it is not known that there is none
  have hTitle : Json.Writes effect ⟨some name, none, none, none, none⟩ (optionalMember "title" title)
      ⟨some name, title.map some, none, none, none⟩ := by
    cases title with
    | none => exact .nil _
    | some text => exact .singleton ⟨rfl, some text, isOptional_tree text, rfl⟩
  have hDescription : Json.Writes effect ⟨some name, title.map some, none, none, none⟩
      (optionalMember "description" description)
      ⟨some name, title.map some, description.map some, none, none⟩ := by
    cases description with
    | none => exact .nil _
    | some text => exact .singleton ⟨rfl, some text, isOptional_tree text, rfl⟩
  -- the two lists are written even if they are empty
  have hInputs : Json.Writes effect ⟨some name, title.map some, description.map some, none, none⟩
      [("inputs", .list (inputs.map Parameter.toValue))]
      ⟨some name, title.map some, description.map some, some inputs, none⟩ :=
    .singleton ⟨rfl, inputs, isList_tree inputs, rfl⟩
  have hOutputs : Json.Writes effect ⟨some name, title.map some, description.map some, some inputs, none⟩
      [("outputs", .list (outputs.map Parameter.toValue))]
      ⟨some name, title.map some, description.map some, some inputs, some outputs⟩ :=
    .singleton ⟨rfl, outputs, isList_tree outputs, rfl⟩
  -- what has not been written is put in as it was left out
  have hBuild : shape.build ⟨some name, title.map some, description.map some, some inputs, some outputs⟩ =
      .ok ⟨name, title, description, inputs, outputs⟩ := by
    cases title <;> cases description <;> rfl
  exact (((hName.append hTitle).append hDescription).append (hInputs.append hOutputs)).written hBuild

/-- **Reading undoes writing.** The text of every descriptor is read as that
descriptor. So whatever document is read as a descriptor, the text of what is
read is read as the same descriptor again, which has the same text. -/
theorem decode_encode :
    (∀ d : Descriptor, decode (Utf8.encode d.text.toList) = .ok d) ∧
      ∀ document d, decode document = .ok d →
        ∃ d', decode (Utf8.encode d.text.toList) = .ok d' ∧ d' = d ∧ d'.text = d.text := by
  -- the second part is the first one, for the descriptor that has been read
  have hRead (d : Descriptor) : decode (Utf8.encode d.text.toList) = .ok d := by
    refine (decode_eq_ok_iff _ d).mpr ⟨d.toValue.tree, ?_, d.written_tree⟩
    rw [text, String.toList_ofList]
    exact Json.Value.document_compact d.toValue
  exact ⟨hRead, fun _ d _ => ⟨d, hRead d, rfl, rfl⟩⟩

/-- A document in no particular order: its title is null, an input has no
description, and two outputs have one name. The null title is none, the missing
description is empty, and both outputs are kept in their order. -/
theorem decode_encode_of_parameters :
    let inputs := "[\x7b\"type\":\"Geometry\",\"name\":\"geom\"\x7d]"
    let outputs := "[\x7b\"name\":\"x\",\"type\":\"Float\",\"description\":\"first\"\x7d, " ++
      "\x7b\"name\":\"x\",\"type\":\"String\"\x7d]"
    let document := Utf8.encode
      ("\x7b\"outputs\":" ++ outputs ++ ",\"title\":null,\"name\":\"p\",\"inputs\":" ++ inputs ++ "\x7d").toList
    let d : Descriptor :=
      { name := "p"
        inputs := [⟨"geom", "Geometry", ""⟩]
        outputs := [⟨"x", "Float", "first"⟩, ⟨"x", "String", ""⟩] }
    decode document = .ok d ∧
      ∃ d', decode (Utf8.encode d.text.toList) = .ok d' ∧ d' = d ∧ d'.text = d.text := by
  intro inputs outputs document d
  have hDecode : decode document = .ok d := by decide +kernel
  exact ⟨hDecode, decode_encode.2 document d hDecode⟩

end Descriptor

end RemoteConsole
