import Mathlib.Data.List.TakeWhile
import RemoteConsole.Text.Blank

/-!
# Ends of a text

What satisfies a test at either end of a text is dropped from it, and nothing
else. So a text that ends in no such character is found again whatever run of
them is put behind it.

* `Blank.dropWhile_eq_self`, `Blank.dropEndWhile_eq_self` — nothing is dropped
  from a text that starts, or ends, with no such character.
* `Blank.dropEndWhile_append_of_forall` — what is put behind a text is dropped
  again.
-/

namespace RemoteConsole.Blank

variable {p : Char → Bool} {text : List Char}

theorem not_of_mem_head?_dropWhile : ∀ c ∈ (text.dropWhile p).head?, p c = false := by
  intro c hc
  have hHead := List.head?_dropWhile_not p text
  rwa [Option.mem_def.mp hc] at hHead

theorem dropWhile_eq_self (h : ∀ c ∈ text.head?, p c = false) : text.dropWhile p = text := by
  cases text with
  | nil => rfl
  | cons c text => rw [List.dropWhile_cons_of_neg (by rw [h c rfl]; exact Bool.false_ne_true)]

theorem dropEndWhile_append (p : Char → Bool) (text : List Char) :
    dropEndWhile p text ++ (text.reverse.takeWhile p).reverse = text := by
  rw [dropEndWhile, ← List.reverse_append, List.takeWhile_append_dropWhile, List.reverse_reverse]

/-- Nothing is dropped at the end where the last character is not to be
dropped. -/
theorem dropEndWhile_eq_self (h : ∀ c ∈ text.getLast?, p c = false) : dropEndWhile p text = text := by
  have hStart : text.reverse.dropWhile p = text.reverse := by
    apply dropWhile_eq_self
    rwa [List.head?_reverse]
  rw [dropEndWhile, hStart, List.reverse_reverse]

/-- What is put behind a text is dropped again, and no more than that. -/
theorem dropEndWhile_append_of_forall {tail : List Char} (hTail : ∀ c ∈ tail, p c = true)
    (hText : ∀ c ∈ text.getLast?, p c = false) : dropEndWhile p (text ++ tail) = text := by
  have hReverse : ∀ c ∈ tail.reverse, p c = true := by
    intro c hc
    exact hTail c (List.mem_reverse.mp hc)
  rw [dropEndWhile, List.reverse_append, List.dropWhile_append_of_pos hReverse]
  exact dropEndWhile_eq_self hText

end RemoteConsole.Blank
