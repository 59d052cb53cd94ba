import RemoteConsole.Text.Separated

/-!
# Parts without separators

A text is split at every separator, so no part holds one, and parts that hold
none are found again in the text that they are joined to.

* `Separated.not_mem_of_mem_split` — no part of a text holds the separator.
* `Separated.length_split` — there is one part more than separators.
* `Separated.split_join` — parts without separators are the parts of their text.
* `Separated.split_flatMap` — parts each of which a separator follows.
* `Separated.join_eq_intercalate` — parts are joined by putting the separator
  between them.
-/

namespace RemoteConsole.Separated

/-- No part of a text holds the separator. The induction is on the text, whose
first character ends a part or belongs to the first one. -/
theorem not_mem_of_mem_split {separator : Char} {text part : List Char}
    (h : part ∈ split separator text) : separator ∉ part := by
  induction text generalizing part with
  | nil =>
    rw [split, List.mem_singleton] at h
    simp [h]
  | cons c rest ih =>
    rw [split] at h
    -- the separator ends a part, and any other character joins the first one of
    -- the rest
    split at h
    · rcases List.mem_cons.mp h with rfl | hRest
      · exact List.not_mem_nil
      · exact ih hRest
    · next hc =>
      obtain ⟨first, more, hParts⟩ := List.exists_cons_of_ne_nil (split_ne_nil separator rest)
      rw [hParts] at h ih
      rcases List.mem_cons.mp h with rfl | hMore
      · rw [List.mem_cons, not_or]
        exact ⟨Ne.symm hc, ih List.mem_cons_self⟩
      · exact ih (List.mem_cons_of_mem _ hMore)

/-- A text has one part more than separators. -/
theorem length_split (separator : Char) (text : List Char) :
    (split separator text).length = text.count separator + 1 := by
  induction text with
  | nil => rfl
  | cons c rest ih =>
    rw [split]
    split
    · next hc =>
      rw [hc, List.count_cons_self, List.length_cons, ih]
    · next hc =>
      obtain ⟨first, more, hParts⟩ := List.exists_cons_of_ne_nil (split_ne_nil separator rest)
      rw [List.count_cons_of_ne hc, ← ih, hParts]
      rfl

/-- Parts without separators are the parts of their text. -/
theorem split_join {separator : Char} {parts : List (List Char)} (hParts : parts ≠ [])
    (h : ∀ part ∈ parts, separator ∉ part) : split separator (join separator parts) = parts := by
  induction parts with
  | nil => exact absurd rfl hParts
  | cons first rest ih =>
    have hFirst := split_of_not_mem (h first List.mem_cons_self)
    cases rest with
    | nil => exact hFirst
    | cons second more =>
      have hRest := ih (by simp) fun part hPart => h part (List.mem_cons_of_mem _ hPart)
      show split separator (first ++ separator :: join separator (second :: more)) = _
      rw [split_append, hFirst, hRest]
      rfl

/-- Where a separator follows every part, an empty part comes last. -/
theorem split_flatMap {separator : Char} {parts : List (List Char)} (h : ∀ part ∈ parts, separator ∉ part) :
    split separator (parts.flatMap (· ++ [separator])) = parts ++ [[]] := by
  induction parts with
  | nil => rfl
  | cons first rest ih =>
    have hRest := ih fun part hPart => h part (List.mem_cons_of_mem _ hPart)
    rw [List.flatMap_cons, List.append_assoc, List.singleton_append, split_append,
      split_of_not_mem (h first List.mem_cons_self), hRest]
    rfl

/-- Joining parts is the library's `intercalate` with a separator of one
character. -/
theorem join_eq_intercalate (separator : Char) (parts : List (List Char)) :
    join separator parts = List.intercalate [separator] parts := by
  induction parts with
  | nil => rfl
  | cons first rest ih =>
    cases rest with
    | nil => simp [join, List.intercalate]
    | cons second more =>
      show first ++ separator :: join separator (second :: more) = _
      rw [ih, List.intercalate_cons_cons]
      simp

end RemoteConsole.Separated
