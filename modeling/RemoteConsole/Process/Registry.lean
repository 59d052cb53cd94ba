import RemoteConsole.Process.Descriptor

/-!
# The registry of processes

Processes are registered once, by their names, and stay in the order of their
registration.

* `Registry.register` — adds a process whose name is free, and gives the
  registry back with its answer.
* `Registry.get?` — the process of a name; `get?_register` says how a
  registration changes it.
-/

namespace RemoteConsole

/-- The registered processes. -/
structure Registry where
  /-- The processes, first registered first. -/
  entries : List Descriptor := []
  deriving DecidableEq, Repr

/-- A name that is taken. -/
structure DuplicateProcess where
  /-- The name. -/
  name : String
  deriving DecidableEq, Repr

/-- The report on a name that is taken. -/
def DuplicateProcess.message (e : DuplicateProcess) : String :=
  "process already registered: " ++ e.name

/-- What a registration comes to. -/
structure Registration where
  /-- The registry afterwards. -/
  registry : Registry
  /-- Whether the process has been taken in. -/
  answer : Except DuplicateProcess Unit

namespace Registry

/-- The process of a name. -/
def get? (r : Registry) (name : String) : Option Descriptor :=
  r.entries.find? fun d => d.name == name

/-- Adds a process, unless its name is taken. -/
def register (r : Registry) (d : Descriptor) : Registration :=
  -- the name is looked up before anything is changed
  if (r.get? d.name).isSome then { registry := r, answer := .error ⟨d.name⟩ }
  else { registry := ⟨r.entries ++ [d]⟩, answer := .ok () }

/-- The names, in the order of registration. -/
def names (r : Registry) : List String :=
  r.entries.map (·.name)

/-- The number of processes. -/
def size (r : Registry) : Nat :=
  r.entries.length

/-- Whether there is no process. -/
def isEmpty (r : Registry) : Bool :=
  r.entries.isEmpty

/-- A registration changes no look-up that finds a process, and no look-up of
another name. -/
theorem get?_register (r : Registry) (d : Descriptor) (name : String) :
    (r.register d).registry.get? name =
      (r.get? name).or (if d.name = name then some d else none) := by
  unfold register
  by_cases hName : d.name = name
  · subst hName
    -- the two branches of the call are whether the name has a process
    cases hFound : r.get? d.name with
    | some p => simp [hFound]
    | none =>
      unfold get? at hFound ⊢
      simp [List.find?_append, hFound]
  · rw [if_neg hName, Option.or_none]
    split
    · rfl
    · simp [get?, List.find?_append, hName]

end Registry

end RemoteConsole
