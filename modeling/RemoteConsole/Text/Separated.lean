/-!
# Separated parts

A text with a separator between its parts. There is always a part, and parts can
be empty.

* `split`, `join` — the parts of a text, and the text of parts.
* `join_split` — splitting loses nothing.
* `split_append` — the parts of two texts with a separator between them.
-/

namespace RemoteConsole.Separated

/-- The parts of a text between separators. -/
def split (separator : Char) : List Char → List (List Char)
  | [] => [[]]
  | c :: rest =>
    if c = separator then [] :: split separator rest
    else
      match split separator rest with
      | [] => [[c]]
      | part :: more => (c :: part) :: more

/-- Parts with a separator between them. -/
def join (separator : Char) : List (List Char) → List Char
  | [] => []
  | [part] => part
  | part :: more => part ++ separator :: join separator more

/-- Every text has a first part. -/
theorem split_ne_nil (separator : Char) (text : List Char) : split separator text ≠ [] := by
  cases text with
  | nil => simp [split]
  | cons c rest => unfold split; split <;> (try split) <;> simp

/-- A character at the start of the first part is at the start of the text. -/
theorem join_cons (separator c : Char) (part : List Char) (more : List (List Char)) :
    join separator ((c :: part) :: more) = c :: join separator (part :: more) := by
  cases more <;> simp [join]

/-- The parts of a text make up the text again. -/
theorem join_split (separator : Char) (text : List Char) :
    join separator (split separator text) = text := by
  induction text with
  | nil => rfl
  | cons c rest ih =>
    have ne := split_ne_nil separator rest
    unfold split
    cases h : split separator rest with
    | nil => exact absurd h ne
    | cons part more =>
      rw [h] at ih
      split
      case isTrue hc => simp [join, ih, hc]
      case isFalse hc => rw [join_cons, ih]

/-- A separator between two texts stands between their parts. -/
theorem split_append (separator : Char) (a b : List Char) :
    split separator (a ++ separator :: b) = split separator a ++ split separator b := by
  induction a with
  | nil => simp [split]
  | cons c rest ih =>
    rw [List.cons_append, split, split]
    by_cases hc : c = separator
    · rw [if_pos hc, if_pos hc, ih]
      rfl
    · rw [if_neg hc, if_neg hc, ih]
      cases hRest : split separator rest with
      | nil => exact absurd hRest (split_ne_nil separator rest)
      | cons part more => rfl

/-- A text without separators is its only part. -/
theorem split_of_not_mem {separator : Char} {text : List Char} (h : separator ∉ text) :
    split separator text = [text] := by
  induction text with
  | nil => rfl
  | cons c rest ih =>
    rw [List.mem_cons, not_or] at h
    rw [split, if_neg (Ne.symm h.1), ih h.2]

end RemoteConsole.Separated
