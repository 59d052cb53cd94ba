import Mathlib.Data.List.Induction
import Mathlib.Data.List.Nodup
import RemoteConsole.Process.Descriptor

/-!
# Parameters are declared by name

Inputs and outputs are declared one after the other, and a name may be declared
again. What the declarations come to is a map that remembers an order: a name
has the place of its first declaration and the type and the description of its
last one. Each part of a descriptor is made by the declarations of its own kind,
whatever stands between them.

* `Parameter.last?` — the last declaration of a name.
* `Parameter.Declared` — the parameters that some declarations come to.
* `Parameter.Declared.declare` — one declaration more.
* `Descriptor.part_foldl` — a part of a descriptor is made by the declarations
  of its own kind.
* `Descriptor.declared_ofDeclarations` — what a descriptor says of a process.
-/

namespace RemoteConsole

/-! ## Parameters -/

namespace Parameter

/-- The names of parameters, in their order. -/
def names (ps : List Parameter) : List String :=
  ps.map (·.name)

/-- The last declaration of a name. -/
def last? (name : String) (calls : List Parameter) : Option Parameter :=
  (calls.filter fun p => p.name == name).getLast?

/-- What some declarations come to: every declared name once, in the order of
the first declarations, with what its last declaration says. -/
structure Declared (calls ps : List Parameter) : Prop where
  nodup : (names ps).Nodup
  mem_names_iff : ∀ name, name ∈ names ps ↔ name ∈ names calls
  order : (names ps).Pairwise fun a b => (names calls).idxOf a < (names calls).idxOf b
  last_of_mem : ∀ p ∈ ps, last? p.name calls = some p
  find?_eq : ∀ name, find? name ps = last? name calls
  find?_eq_none_iff : ∀ name, find? name ps = none ↔ name ∉ names calls

/-- A name that has its place keeps it, and a new one is put behind all
others. -/
theorem names_declare (p : Parameter) (ps : List Parameter) :
    names (p.declare ps) = if p.name ∈ names ps then names ps else names ps ++ [p.name] := by
  induction ps with
  | nil => rfl
  | cons q rest ih =>
    unfold declare
    by_cases hSame : q.name = p.name
    -- the parameter is replaced where it stands
    · have hMem : p.name ∈ names (q :: rest) := by
        rw [← hSame]
        exact List.mem_cons_self
      rw [if_pos hSame, if_pos hMem]
      show p.name :: names rest = q.name :: names rest
      rw [hSame]
    -- another name in front neither has the place nor changes it
    · have hMem : p.name ∈ names (q :: rest) ↔ p.name ∈ names rest := by
        show p.name ∈ q.name :: names rest ↔ _
        rw [List.mem_cons]
        exact or_iff_right (Ne.symm hSame)
      rw [if_neg hSame]
      show q.name :: names (p.declare rest) = _
      rw [ih]
      simp only [hMem]
      split <;> rfl

theorem last?_concat (name : String) (calls : List Parameter) (p : Parameter) :
    last? name (calls ++ [p]) = if p.name = name then some p else last? name calls := by
  unfold last?
  rw [List.filter_append, List.filter_singleton]
  by_cases hName : p.name = name
  · rw [if_pos hName, beq_iff_eq.mpr hName]
    exact List.getLast?_concat
  · rw [if_neg hName, beq_eq_false_iff_ne.mpr hName]
    show (List.filter _ calls ++ []).getLast? = _
    rw [List.append_nil]

/-- A parameter is found under its name if no other one has that name. -/
theorem find?_of_mem {ps : List Parameter} (hNodup : (names ps).Nodup) {p : Parameter} (hp : p ∈ ps) :
    find? p.name ps = some p := by
  obtain ⟨q, hq⟩ : ∃ q, find? p.name ps = some q := by
    rw [← Option.isSome_iff_exists]
    unfold find?
    rw [List.find?_isSome]
    exact ⟨p, hp, beq_self_eq_true _⟩
  have hMem : q ∈ ps := List.mem_of_find?_eq_some hq
  have hName : q.name = p.name := by
    have hTest := List.find?_some hq
    exact beq_iff_eq.mp hTest
  rw [hq, List.inj_on_of_nodup_map hNodup hMem hp hName]

theorem find?_eq_none_iff_notMem (name : String) (ps : List Parameter) :
    find? name ps = none ↔ name ∉ names ps := by
  unfold find? names
  simp

/-- Nothing has been declared. -/
theorem declared_nil : Declared [] [] where
  nodup := List.nodup_nil
  mem_names_iff _ := Iff.rfl
  order := List.Pairwise.nil
  last_of_mem p hp := by cases hp
  find?_eq _ := rfl
  find?_eq_none_iff _ := find?_eq_none_iff_notMem _ _

/-- One declaration more. A new name is put behind the others, in the list as
among the first declarations, and an old one is replaced at its place; either
way the last declaration of a name is the one that is found. -/
theorem Declared.declare {calls ps : List Parameter} (h : Declared calls ps) (p : Parameter) :
    Declared (calls ++ [p]) (p.declare ps) := by
  have hCalls : names (calls ++ [p]) = names calls ++ [p.name] := by
    unfold names
    rw [List.map_append, List.map_singleton]
  -- a declaration adds its name to what has been declared, once or again
  have hMem : ∀ name, name ∈ names (p.declare ps) ↔ name ∈ names (calls ++ [p]) := by
    intro name
    rw [names_declare, hCalls, List.mem_append, List.mem_singleton, ← h.mem_names_iff]
    split
    · next hOld =>
      constructor
      · exact Or.inl
      · rintro (hName | rfl)
        · exact hName
        · exact hOld
    · rw [List.mem_append, List.mem_singleton]
  -- the names of before have the first places they had
  have hPlace : ∀ name ∈ names ps, (names (calls ++ [p])).idxOf name = (names calls).idxOf name := by
    intro name hName
    rw [hCalls, List.idxOf_append_of_mem ((h.mem_names_iff name).mp hName)]
  have hOrder : (names ps).Pairwise fun a b =>
      (names (calls ++ [p])).idxOf a < (names (calls ++ [p])).idxOf b := by
    refine h.order.imp_of_mem ?_
    intro a b ha hb hLess
    rwa [hPlace a ha, hPlace b hb]
  have hNames : (names (p.declare ps)).Pairwise fun a b =>
      (names (calls ++ [p])).idxOf a < (names (calls ++ [p])).idxOf b := by
    rw [names_declare]
    split
    · exact hOrder
    · next hNew =>
      refine List.pairwise_append.mpr ⟨hOrder, List.pairwise_singleton _ _, ?_⟩
      intro a ha b hb
      obtain rfl := List.mem_singleton.mp hb
      -- the new name comes up behind all that has been declared
      have hFirst : (names calls).idxOf a < (names calls).length :=
        List.idxOf_lt_length_of_mem ((h.mem_names_iff a).mp ha)
      have hLast : (names (calls ++ [p])).idxOf p.name = (names calls).length := by
        rw [h.mem_names_iff] at hNew
        rw [hCalls, List.idxOf_append_of_notMem hNew, List.idxOf_cons_self, Nat.add_zero]
      rw [hPlace a ha, hLast]
      exact hFirst
  -- places in a strict order cannot be shared
  have hNodup : (names (p.declare ps)).Nodup := by
    refine hNames.imp ?_
    rintro a b hLess rfl
    exact Nat.lt_irrefl _ hLess
  -- a look-up finds the parameter just declared under its name, and what it
  -- found before under any other
  have hFind : ∀ name, find? name (p.declare ps) = last? name (calls ++ [p]) := by
    intro name
    rw [find?_declare, last?_concat, h.find?_eq]
  exact {
    nodup := hNodup
    mem_names_iff := hMem
    order := hNames
    last_of_mem := by
      intro q hq
      rw [← hFind]
      exact find?_of_mem hNodup hq
    find?_eq := hFind
    find?_eq_none_iff := by
      intro name
      rw [find?_eq_none_iff_notMem, hMem] }

/-- Declarations one after the other. -/
theorem declared_foldl (calls : List Parameter) :
    Declared calls (calls.foldl (fun ps p => p.declare ps) []) := by
  induction calls using List.reverseRecOn with
  | nil => exact declared_nil
  | append_singleton calls p ih =>
    rw [List.foldl_append]
    exact ih.declare p

end Parameter

/-! ## Descriptors -/

namespace Declaration

/-- The title that is given. -/
def title? : Declaration → Option String
  | title text => some text
  | _ => none

/-- The description that is given. -/
def description? : Declaration → Option String
  | description text => some text
  | _ => none

/-- The input that is declared. -/
def input? : Declaration → Option Parameter
  | input p => some p
  | _ => none

/-- The output that is declared. -/
def output? : Declaration → Option Parameter
  | output p => some p
  | _ => none

end Declaration

namespace Descriptor

/-- A part that only declarations of one kind change is made by the declarations
of that kind. -/
theorem part_foldl {α β : Type} (part : Descriptor → α) (pick : Declaration → Option β) (step : α → β → α)
    (hStep : ∀ d x, part (declare d x) = (pick x).elim (part d) (step (part d)))
    (ds : List Declaration) (d : Descriptor) :
    part (ds.foldl declare d) = (ds.filterMap pick).foldl step (part d) := by
  induction ds generalizing d with
  | nil => rfl
  | cons x rest ih =>
    rw [List.foldl_cons, ih, hStep, List.filterMap_cons]
    cases pick x with
    | none => rfl
    | some b => rfl

/-- Of texts that replace each other the last one stays. -/
theorem foldl_replace (texts : List String) (before : Option String) :
    texts.foldl (fun _ text => some text) before = texts.getLast?.or before := by
  induction texts using List.reverseRecOn with
  | nil => rfl
  | append_singleton texts text ih => simp

variable (name : String) (ds : List Declaration)

/-- The inputs come from the declarations of inputs alone, one after the
other. -/
theorem inputs_ofDeclarations :
    (ofDeclarations name ds).inputs =
      (ds.filterMap Declaration.input?).foldl (fun ps p => p.declare ps) [] :=
  part_foldl inputs Declaration.input? (fun ps p => p.declare ps) (fun d x => by cases x <;> rfl) ds
    { name := name }

/-- The outputs come from the declarations of outputs alone, one after the
other. -/
theorem outputs_ofDeclarations :
    (ofDeclarations name ds).outputs =
      (ds.filterMap Declaration.output?).foldl (fun ps p => p.declare ps) [] :=
  part_foldl outputs Declaration.output? (fun ps p => p.declare ps) (fun d x => by cases x <;> rfl) ds
    { name := name }

/-- No declaration changes the name. -/
theorem name_ofDeclarations : (ofDeclarations name ds).name = name := by
  have hPart := part_foldl Descriptor.name (fun _ => (none : Option String)) (fun before _ => before)
    (fun d x => by cases x <;> rfl) ds { name := name }
  rw [List.filterMap_eq_nil_iff.mpr fun _ _ => rfl] at hPart
  exact hPart

/-- The title is the one that was given last. -/
theorem title_ofDeclarations :
    (ofDeclarations name ds).title = (ds.filterMap Declaration.title?).getLast? := by
  have hPart := part_foldl title Declaration.title? (fun _ text => some text)
    (fun d x => by cases x <;> rfl) ds { name := name }
  rw [foldl_replace] at hPart
  exact hPart.trans Option.or_none

/-- The description is the one that was given last. -/
theorem description_ofDeclarations :
    (ofDeclarations name ds).description = (ds.filterMap Declaration.description?).getLast? := by
  have hPart := part_foldl description Declaration.description? (fun _ text => some text)
    (fun d x => by cases x <;> rfl) ds { name := name }
  rw [foldl_replace] at hPart
  exact hPart.trans Option.or_none

/-- **The last declaration counts.** After any declarations, the inputs are what
the declarations of inputs come to, and the outputs what those of outputs come
to: every declared name once, in the order of the first declarations, with what
the last one says. That is also what a look-up finds, and it finds nothing under
a name that has not been declared on its side. Without all other declarations,
and for a process of any name, the inputs would be the same, and so would the
outputs. Title and description are those that were given last, and the name
stays. -/
theorem declared_ofDeclarations (name : String) (ds : List Declaration) :
    Parameter.Declared (ds.filterMap Declaration.input?) (ofDeclarations name ds).inputs ∧
      Parameter.Declared (ds.filterMap Declaration.output?) (ofDeclarations name ds).outputs ∧
      (∀ n, (ofDeclarations name ds).findInput? n = Parameter.last? n (ds.filterMap Declaration.input?) ∧
        (ofDeclarations name ds).findOutput? n = Parameter.last? n (ds.filterMap Declaration.output?)) ∧
      (∀ n, ((ofDeclarations name ds).findInput? n = none ↔
          n ∉ Parameter.names (ds.filterMap Declaration.input?)) ∧
        ((ofDeclarations name ds).findOutput? n = none ↔
          n ∉ Parameter.names (ds.filterMap Declaration.output?))) ∧
      (∀ name', (ofDeclarations name ds).inputs =
          (ofDeclarations name' ((ds.filterMap Declaration.input?).map .input)).inputs ∧
        (ofDeclarations name ds).outputs =
          (ofDeclarations name' ((ds.filterMap Declaration.output?).map .output)).outputs) ∧
      (ofDeclarations name ds).title = (ds.filterMap Declaration.title?).getLast? ∧
      (ofDeclarations name ds).description = (ds.filterMap Declaration.description?).getLast? ∧
      (ofDeclarations name ds).name = name := by
  let d := ofDeclarations name ds
  let inputCalls := ds.filterMap Declaration.input?
  let outputCalls := ds.filterMap Declaration.output?
  have hInputs : Parameter.Declared inputCalls d.inputs := by
    rw [inputs_ofDeclarations]
    exact Parameter.declared_foldl inputCalls
  have hOutputs : Parameter.Declared outputCalls d.outputs := by
    rw [outputs_ofDeclarations]
    exact Parameter.declared_foldl outputCalls
  -- what is made of the inputs alone is made of the same declarations
  have hInputsAlone : (inputCalls.map Declaration.input).filterMap Declaration.input? = inputCalls := by
    rw [List.filterMap_map]
    exact List.filterMap_some
  have hOutputsAlone :
      (outputCalls.map Declaration.output).filterMap Declaration.output? = outputCalls := by
    rw [List.filterMap_map]
    exact List.filterMap_some
  -- the look-ups are part of what it is to be declared
  refine ⟨hInputs, hOutputs, ?_, ?_, ?_, title_ofDeclarations name ds, description_ofDeclarations name ds,
    name_ofDeclarations name ds⟩
  · intro n
    exact ⟨hInputs.find?_eq n, hOutputs.find?_eq n⟩
  · intro n
    exact ⟨hInputs.find?_eq_none_iff n, hOutputs.find?_eq_none_iff n⟩
  · intro name'
    constructor
    · rw [inputs_ofDeclarations, inputs_ofDeclarations, hInputsAlone]
    · rw [outputs_ofDeclarations, outputs_ofDeclarations, hOutputsAlone]

-- the place is that of the first declaration and the type that of the last one
example :
    (ofDeclarations "buffer" [.input ⟨"geom", "Point", ""⟩, .output ⟨"geom", "Curve", ""⟩,
      .input ⟨"distance", "float", ""⟩, .input ⟨"geom", "Polygon", ""⟩]).inputs =
        [⟨"geom", "Polygon", ""⟩, ⟨"distance", "float", ""⟩] := by
  decide

end Descriptor

end RemoteConsole
