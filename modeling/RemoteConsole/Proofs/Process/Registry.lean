import RemoteConsole.Process.Registry

/-!
# Processes are registered once

A registry is a list that is searched from its start. Seen from outside it is a
map from names to processes that remembers the order in which names came up: a
name belongs to the process that was first submitted under it, and whoever
submits it again is told so and changes nothing.

* `Registry.Takes` — a name has a process.
* `Registry.answer_eq_error_iff`, `Registry.registry_of_error` — when a call is
  refused, and that it changes nothing then.
* `Registry.submitAll`, `Registry.accepted` — the registry behind many calls,
  and the processes of those that succeed.
* `Registry.first_registered_stays` — what is seen of a registry after any
  calls.
-/

namespace RemoteConsole

namespace Registry

/-! ## One call -/

/-- Some process has the name. -/
def Takes (r : Registry) (name : String) : Prop :=
  ∃ p ∈ r.entries, p.name = name

/-- The search by name finds a process exactly if some process has the name. -/
theorem isSome_get?_iff (r : Registry) (name : String) :
    (r.get? name).isSome = true ↔ r.Takes name := by
  unfold get? Takes
  rw [List.find?_isSome]
  simp only [beq_iff_eq]

/-- A refused call: the registry is given back as it came, and the report
carries the name that is taken. -/
theorem register_of_taken {r : Registry} {d : Descriptor} (h : r.Takes d.name) :
    r.register d = { registry := r, answer := .error ⟨d.name⟩ } := by
  rw [← isSome_get?_iff] at h
  rw [register, if_pos h]

/-- A call that succeeds: the process stands behind all others. -/
theorem register_of_free {r : Registry} {d : Descriptor} (h : ¬ r.Takes d.name) :
    r.register d = { registry := ⟨r.entries ++ [d]⟩, answer := .ok () } := by
  rw [← isSome_get?_iff] at h
  rw [register, if_neg h]

/-- A call is refused exactly if the name is taken, and the report carries that
name. Nothing else in the descriptor is ever a reason. -/
theorem answer_eq_error_iff {r : Registry} {d : Descriptor} {e : DuplicateProcess} :
    (r.register d).answer = .error e ↔ r.Takes d.name ∧ e = ⟨d.name⟩ := by
  by_cases hTaken : r.Takes d.name
  · rw [register_of_taken hTaken, Except.error.injEq, eq_comm, and_iff_right hTaken]
  · rw [register_of_free hTaken]
    constructor
    · intro h
      cases h
    · intro h
      exact absurd h.1 hTaken

/-- **A refusal changes nothing.** The registry that comes back beside a report
is the one that was asked. -/
theorem registry_of_error {r : Registry} {d : Descriptor} {e : DuplicateProcess}
    (h : (r.register d).answer = .error e) : (r.register d).registry = r := by
  rw [register_of_taken (answer_eq_error_iff.mp h).1]

/-- No call makes two processes share a name. -/
theorem nodup_register {r : Registry} (h : r.names.Nodup) (d : Descriptor) :
    (r.register d).registry.names.Nodup := by
  by_cases hTaken : r.Takes d.name
  · rwa [register_of_taken hTaken]
  · rw [register_of_free hTaken]
    show ((r.entries ++ [d]).map (·.name)).Nodup
    rw [List.map_append, List.map_singleton]
    refine List.nodup_append.mpr ⟨h, by simp, ?_⟩
    intro a ha b hb hSame
    obtain rfl := List.mem_singleton.mp hb
    subst hSame
    -- the new name would be one of the old ones
    exact hTaken (List.mem_map.mp ha)

/-! ## Many calls -/

/-- The registry behind calls one after the other, each on what the one before
has given back. -/
def submitAll (r : Registry) (ds : List Descriptor) : Registry :=
  ds.foldl (fun r d => (r.register d).registry) r

/-- The processes whose calls succeed, in the order of the calls. -/
def accepted (r : Registry) : List Descriptor → List Descriptor
  | [] => []
  | d :: rest =>
    let call := r.register d
    match call.answer with
    | .ok _ => d :: accepted call.registry rest
    | .error _ => accepted call.registry rest

theorem submitAll_cons (r : Registry) (d : Descriptor) (rest : List Descriptor) :
    r.submitAll (d :: rest) = (r.register d).registry.submitAll rest := rfl

theorem submitAll_concat (r : Registry) (ds : List Descriptor) (d : Descriptor) :
    r.submitAll (ds ++ [d]) = ((r.submitAll ds).register d).registry := by
  unfold submitAll
  rw [List.foldl_append]
  rfl

/-- A registry lists what it held before, and then the processes whose calls
have succeeded. -/
theorem entries_submitAll (r : Registry) (ds : List Descriptor) :
    (r.submitAll ds).entries = r.entries ++ r.accepted ds := by
  induction ds generalizing r with
  | nil =>
    show r.entries = r.entries ++ []
    rw [List.append_nil]
  | cons d rest ih =>
    rw [submitAll_cons, ih, accepted]
    -- a refused call leaves the registry, and an accepted one adds its process
    -- behind the others
    by_cases hTaken : r.Takes d.name
    · rw [register_of_taken hTaken]
    · rw [register_of_free hTaken]
      show r.entries ++ [d] ++ _ = _
      rw [List.append_assoc]
      rfl

/-- The accepted submissions are among all submissions, in their order. -/
theorem accepted_sublist (r : Registry) (ds : List Descriptor) : (r.accepted ds).Sublist ds := by
  induction ds generalizing r with
  | nil => exact List.Sublist.refl []
  | cons d rest ih =>
    unfold accepted
    dsimp only
    split
    · exact (ih _).cons_cons d
    · exact (ih _).cons d

/-- A name belongs to the process that had it before all calls, or else to the
first one submitted under it. Later ones under the same name are refused, so
that the look-up never reaches them. -/
theorem get?_submitAll (r : Registry) (ds : List Descriptor) (name : String) :
    (r.submitAll ds).get? name = (r.get? name).or (ds.find? fun d => d.name == name) := by
  induction ds generalizing r with
  | nil =>
    show r.get? name = (r.get? name).or none
    rw [Option.or_none]
  | cons d rest ih =>
    rw [submitAll_cons, ih, get?_register, Option.or_assoc, List.find?_cons]
    by_cases hName : d.name = name
    · rw [if_pos hName, Option.some_or, beq_iff_eq.mpr hName]
    · rw [if_neg hName, Option.none_or, beq_eq_false_iff_ne.mpr hName]

/-- No submissions put a name into a registry twice. -/
theorem nodup_submitAll {r : Registry} (h : r.names.Nodup) (ds : List Descriptor) :
    (r.submitAll ds).names.Nodup := by
  induction ds generalizing r with
  | nil => exact h
  | cons d rest ih => exact ih (nodup_register h d)

/-- **The first one stays.** After any calls on a new registry, it lists the
processes whose calls have succeeded in the order of the calls, no two of them
under one name, and a name belongs to the process that was first submitted under
it. One more call is refused, for its name and for nothing else, exactly if a
process of that name has been registered, and then the registry that it gives
back is the one it was made on; otherwise the process is put behind all
others. -/
theorem first_registered_stays (ds : List Descriptor) :
    let r := submitAll {} ds
    let registered := accepted {} ds
    r.entries = registered ∧ registered.Sublist ds ∧ (registered.map (·.name)).Nodup ∧
      r.size = registered.length ∧ (∀ name, r.get? name = ds.find? fun d => d.name == name) ∧
      ∀ d : Descriptor,
        (∀ e, (r.register d).answer = .error e ↔ (∃ p ∈ registered, p.name = d.name) ∧ e = ⟨d.name⟩) ∧
        submitAll {} (ds ++ [d]) = (r.register d).registry ∧
        (r.register d).registry =
          if ∃ p ∈ registered, p.name = d.name then r else ⟨registered ++ [d]⟩ := by
  intro r registered
  have hEntries : r.entries = registered := entries_submitAll {} ds
  -- a name is taken if a registered process has it
  have hTakes : ∀ name, r.Takes name ↔ ∃ p ∈ registered, p.name = name := by
    intro name
    unfold Takes
    rw [hEntries]
  have hStart : (names {}).Nodup := List.nodup_nil
  have hNodup : (registered.map (·.name)).Nodup := by
    rw [← hEntries]
    exact nodup_submitAll hStart ds
  refine ⟨hEntries, accepted_sublist {} ds, hNodup, congrArg List.length hEntries, ?_, ?_⟩
  · intro name
    -- nothing has been registered before the first call
    exact get?_submitAll {} ds name
  · intro d
    refine ⟨fun e => ?_, submitAll_concat {} ds d, ?_⟩
    · rw [← hTakes]
      exact answer_eq_error_iff
    · by_cases hTaken : ∃ p ∈ registered, p.name = d.name
      · have hRefused := answer_eq_error_iff.mpr ⟨(hTakes d.name).mpr hTaken, rfl⟩
        rw [if_pos hTaken, registry_of_error hRefused]
      · rw [if_neg hTaken, register_of_free (mt (hTakes d.name).mp hTaken), hEntries]

-- the second "a" is refused, and the name stays with the first one
example :
    let first : Descriptor := { name := "a", title := some "first" }
    let second : Descriptor := { name := "a", title := some "second" }
    submitAll {} [first, { name := "b" }, second] = ⟨[first, { name := "b" }]⟩ := by
  decide

end Registry

end RemoteConsole
