import Mathlib.Data.List.Forall2
import RemoteConsole.Proofs.Session.Id
import RemoteConsole.Proofs.Text.Separated
import RemoteConsole.Session.Table

/-!
# How wide tables are

The columns of a table stand below each other whatever the engines are called.
The column of the engines is made as wide as the longest name has bytes, but
blanks are put behind a name for the characters that it lacks. So where a name
is not ASCII the table is aligned as well, but it can be wider than its widest
row.

* `Table.IsRow`, `Table.Tabulates` — aligned lines, and a text that is an
  aligned table of sessions.
* `Table.most`, `Table.tight` — the widths that fit the headings and all
  sessions.
* `Listing.tabulates_iff` — what widths the table of a listing has, and when
  they are tight.
-/

namespace RemoteConsole

namespace Table

/-! ## Aligned tables -/

/-- A line of a table: an id that ends where its column ends, two blanks, and an
engine that nothing but blanks follows up to the width of the table. -/
def IsRow (w : Widths) (id engine : String) (line : List Char) : Prop :=
  line.length = w.id + 2 + w.engine ∧
    ∃ before behind, before + id.length = w.id ∧
      line = List.replicate before ' ' ++ id.toList ++ [' ', ' '] ++ (engine.toList ++ List.replicate behind ' ')

/-- A text is the table of sessions with columns of these widths: the heading, a
rule as wide as all rows, one row for each session in their order, an empty line
and the number of sessions. -/
def Tabulates (w : Widths) (sessions : List SessionSummary) (text : String) : Prop :=
  ∃ heading rows,
    Separated.split '\n' text.toList =
      [heading, List.replicate (w.id + 2 + w.engine) '-'] ++ rows ++
        [[], ("Total: " ++ toString sessions.length ++ " session(s)").toList, []] ∧
    IsRow w "ID" "ENGINE" heading ∧
    List.Forall₂ (fun s line => IsRow w s.id.text s.engine line) sessions rows

/-- A text is a table with columns of one pair of widths at most. -/
theorem Tabulates.rule_length_eq {w w' : Widths} {sessions : List SessionSummary} {text : String}
    (h : Tabulates w sessions text) (h' : Tabulates w' sessions text) :
    w.id + 2 + w.engine = w'.id + 2 + w'.engine := by
  obtain ⟨heading, rows, hLines, -⟩ := h
  obtain ⟨heading', rows', hLines', -⟩ := h'
  -- the rule is the second line
  have hRule := congrArg (·[1]?.map List.length) (hLines.symm.trans hLines')
  simpa using hRule

/-! ## Widths -/

/-- The largest number of some sessions, zero where there is no session. -/
def most (measure : SessionSummary → Nat) (sessions : List SessionSummary) : Nat :=
  (sessions.map measure).max?.getD 0

/-- The widths that no column can go below: the characters of its heading and of
its longest entry. -/
def tight (sessions : List SessionSummary) : Widths where
  id := max 2 (most (fun s => s.id.text.length) sessions)
  engine := max 6 (most (fun s => s.engine.length) sessions)

variable {f g : SessionSummary → Nat} {sessions : List SessionSummary}

/-- The largest number is a least bound. -/
theorem most_le_iff {n : Nat} : most f sessions ≤ n ↔ ∀ s ∈ sessions, f s ≤ n := by
  unfold most
  cases hMax : (sessions.map f).max? with
  | none =>
    rw [List.max?_eq_none_iff, List.map_eq_nil_iff] at hMax
    simp [hMax]
  | some m =>
    rw [Option.getD_some, List.max?_le_iff hMax, List.forall_mem_map]

theorem le_most {s : SessionSummary} (h : s ∈ sessions) : f s ≤ most f sessions :=
  most_le_iff.mp (Nat.le_refl _) s h

theorem most_mono (h : ∀ s ∈ sessions, f s ≤ g s) : most f sessions ≤ most g sessions :=
  most_le_iff.mpr fun s hs => (h s hs).trans (le_most hs)

/-- The largest of some numbers and a first one is a least bound of them, too.
Comparing bounds is how the two ways to take a maximum are seen to agree. -/
theorem largest_le_iff {least n : Nat} {ns : List Nat} : largest least ns ≤ n ↔ least ≤ n ∧ ∀ m ∈ ns, m ≤ n := by
  unfold largest
  -- the first number is what the fold has come to
  induction ns generalizing least with
  | nil => simp
  | cons m rest ih =>
    rw [List.foldl_cons, ih, Nat.max_le, List.forall_mem_cons, and_assoc]

/-- The largest number that the table takes is that of the sessions, or the
first one. -/
theorem largest_map {least : Nat} : largest least (sessions.map f) = max least (most f sessions) := by
  refine eq_of_forall_ge_iff fun n => ?_
  rw [largest_le_iff, Nat.max_le, most_le_iff, List.forall_mem_map]

/-- The widths of a table are the largest number of characters of an id and of
bytes of an engine, or those of the headings. -/
theorem ofSessions_eq (sessions : List SessionSummary) :
    Widths.ofSessions sessions =
      ⟨max 2 (most (fun s => s.id.text.length) sessions), max 6 (most (fun s => Utf8.size s.engine) sessions)⟩ := by
  rw [Widths.ofSessions, largest_map, largest_map]

/-- Every character has a byte. -/
theorem length_le_size (text : String) : text.length ≤ Utf8.size text := by
  rw [← String.length_toList, Utf8.size]
  induction text.toList with
  | nil => rfl
  | cons c rest ih =>
    have hSome := List.length_pos_iff.mpr (Utf8.encodeChar_ne_nil c)
    rw [Utf8.encode_cons, List.length_append, List.length_cons]
    omega

/-! ## The lines of the table -/

/-- A row is aligned if both entries fit their columns. -/
theorem isRow_row {w : Widths} {id engine : String} (hId : id.length ≤ w.id)
    (hEngine : engine.length ≤ w.engine) : IsRow w id engine (row w id engine) := by
  rw [← String.length_toList] at hId hEngine
  refine ⟨?_, w.id - id.toList.length, w.engine - engine.toList.length, ?_, rfl⟩
  · simp only [row, padStart, padEnd, List.length_append, List.length_replicate, List.length_cons, List.length_nil]
    omega
  · rw [← String.length_toList]
    omega

theorem newline_not_mem_toString (n : Nat) : '\n' ∉ (toString n).toList := by
  rw [SessionId.toList_toString]
  exact not_mem_decimal (by decide) n

theorem newline_not_mem_row {w : Widths} {id engine : String} (hId : '\n' ∉ id.toList)
    (hEngine : '\n' ∉ engine.toList) : '\n' ∉ row w id engine := by
  simp [row, padStart, padEnd, hId, hEngine]

theorem newline_not_mem_total (n : Nat) : '\n' ∉ (total n).toList := by
  simp only [total, String.toList_append, List.mem_append, not_or]
  exact ⟨⟨by decide, newline_not_mem_toString n⟩, by decide⟩

/-- Where the engines are on one line each, so is everything else. -/
theorem newline_not_mem_of_mem_lines (h : ∀ s ∈ sessions, '\n' ∉ s.engine.toList) :
    ∀ line ∈ lines sessions, '\n' ∉ line := by
  simp only [lines, List.forall_mem_append, List.forall_mem_cons, List.forall_mem_map]
  -- the heading, the rule, the rows, and what stands below them
  refine ⟨⟨⟨?_, ?_, nofun⟩, fun s hs => ?_⟩, List.not_mem_nil, newline_not_mem_total _, nofun⟩
  · exact newline_not_mem_row (by decide) (by decide)
  · simp [rule]
  · exact newline_not_mem_row (newline_not_mem_toString s.id.value) (h s hs)

/-- The table of a listing is aligned, with the widths that it is written with.
An engine is measured in bytes and padded by characters, which fits as there are
no more characters than bytes. -/
theorem tabulates_ofSessions {l : Listing} (hSessions : l.sessions ≠ [])
    (hLines : ∀ s ∈ l.sessions, '\n' ∉ s.engine.toList) :
    Tabulates (Widths.ofSessions l.sessions) l.sessions l.table := by
  have hText : l.table.toList = (lines l.sessions).flatMap (· ++ ['\n']) := by
    rw [Listing.table, if_neg (by simpa using hSessions), String.toList_ofList]
  have hWidths := ofSessions_eq l.sessions
  -- one pair of widths for the heading, the rule and all rows
  generalize hw : Widths.ofSessions l.sessions = w at hWidths ⊢
  refine ⟨row w "ID" "ENGINE", l.sessions.map fun s => row w s.id.text s.engine, ?_, ?_, ?_⟩
  · rw [hText, Separated.split_flatMap (newline_not_mem_of_mem_lines hLines)]
    simp only [lines, hw, rule, Nat.add_right_comm, total, List.append_assoc, List.cons_append, List.nil_append]
  · rw [hWidths]
    exact isRow_row (Nat.le_max_left 2 _) (Nat.le_max_left 6 _)
  · refine List.forall₂_map_right_iff.mpr (List.forall₂_same.mpr fun s hs => ?_)
    -- an id fits by its characters, an engine because it has no more characters
    -- than bytes
    have hId := le_most (f := fun s => s.id.text.length) hs
    have hSize := le_most (f := fun s => Utf8.size s.engine) hs
    rw [hWidths]
    exact isRow_row (hId.trans (Nat.le_max_right 2 _))
      (((length_le_size s.engine).trans hSize).trans (Nat.le_max_right 6 _))

end Table

open Table

/-- **What a table looks like.** The table of a listing is aligned, and the
column of its engines is as wide as the most bytes of an engine. So it is tight
exactly if no engine has more bytes than a tight column. -/
theorem Listing.tabulates_iff {l : Listing} (hSessions : l.sessions ≠ [])
    (hLines : ∀ s ∈ l.sessions, '\n' ∉ s.engine.toList) :
    Tabulates ⟨(tight l.sessions).id, max 6 (most (fun s => Utf8.size s.engine) l.sessions)⟩ l.sessions l.table ∧
      (Tabulates (tight l.sessions) l.sessions l.table ↔
        ∀ s ∈ l.sessions, Utf8.size s.engine ≤ (tight l.sessions).engine) := by
  have hTable := tabulates_ofSessions hSessions hLines
  rw [ofSessions_eq] at hTable
  refine ⟨hTable, fun hTight => ?_, fun hBytes => ?_⟩
  -- the rule has one length, so a tight column is as wide as the bytes need
  · have hWidth := hTable.rule_length_eq hTight
    rw [← most_le_iff]
    have hEngine : max 6 (most (fun s => Utf8.size s.engine) l.sessions) = (tight l.sessions).engine := by
      simp only [tight] at hWidth ⊢
      omega
    exact (Nat.le_max_right 6 _).trans hEngine.le
  -- both maxima are the same where no bytes stick out
  · have hMost := most_le_iff.mpr hBytes
    have hLess := most_mono fun s (_ : s ∈ l.sessions) => length_le_size s.engine
    have hWidths : tight l.sessions =
        ⟨(tight l.sessions).id, max 6 (most (fun s => Utf8.size s.engine) l.sessions)⟩ := by
      simp only [tight, Widths.mk.injEq, true_and] at hMost ⊢
      omega
    rw [hWidths]
    exact hTable

/-- An engine that is not ASCII fits where it has no more bytes than the
heading. -/
theorem Listing.tabulates_of_short :
    let l : Listing := ⟨[⟨⟨7, by decide, by decide⟩, "python"⟩, ⟨⟨4242, by decide, by decide⟩, "püé"⟩]⟩
    Tabulates ⟨4, 6⟩ l.sessions l.table := by
  intro l
  have hTight := (Listing.tabulates_iff (l := l) (by decide) (by decide)).2.mpr (by decide)
  exact hTight

/-- Seven characters of two bytes each are followed by seven blanks. -/
theorem Listing.not_tabulates_of_wide :
    let l : Listing := ⟨[⟨⟨1, by decide, by decide⟩, "ééééééé"⟩]⟩
    l.sessions ≠ [] ∧ (∀ s ∈ l.sessions, '\n' ∉ s.engine.toList) ∧
      ¬ Tabulates (tight l.sessions) l.sessions l.table := by
  intro l
  have hSessions : l.sessions ≠ [] := by decide
  have hLines : ∀ s ∈ l.sessions, '\n' ∉ s.engine.toList := by decide
  refine ⟨hSessions, hLines, fun hTight => ?_⟩
  exact absurd (hTight.rule_length_eq (tabulates_ofSessions hSessions hLines)) (by decide)

end RemoteConsole
