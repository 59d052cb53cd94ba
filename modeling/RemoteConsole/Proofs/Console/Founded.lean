import RemoteConsole.Proofs.Console.Coherence
import RemoteConsole.Proofs.Statement.BlankText

/-!
# What requests are founded on

A request should evaluate lines that were typed for it: those since the last
statement was sent or dropped, each of them once, and at least one of them with
content. `pending` reads these lines off what is seen of a console, without
looking into it, and `Founded` says that every request is about them.

The buffer is emptied before the fallible part of a turn and the phase is set
behind it, so a failure in between leaves a console that stands within a
statement of no content. Such a console is *hollow*. It goes on from there in
the next run, and sends a statement that nobody has typed.

* `pending`, `Founded` — the lines typed for the next request, and requests that
  are about them.
* `Console.Tracks` — the buffer holds the pending lines; every step keeps it.
* `Console.IsHollow` — the console stands within a statement without content.
* `Console.founded_iff_not_isHollow` — a run makes no unfounded request,
  whatever it meets, exactly if it does not begin hollow; and only a run that
  fails or is given up leaves a hollow console.
-/

namespace RemoteConsole

open Statement (Buffer classify)

/-! ## Lines typed for a request -/

/-- The lines that belong to the statement being typed, after one more line. A
blank line in front of a statement does not belong to it, and a line that shows
it to be invalid leaves none. -/
def typedLine (lines : List (List Char)) (text : List Char) : List (List Char) :=
  if lines.isEmpty ∧ Blank.isBlankText text then []
  else
    match classify .interactive (List.intercalate ['\n'] (lines ++ [Buffer.stripBreak text])) with
    | .invalid _ => []
    | _ => lines ++ [Buffer.stripBreak text]

/-- The lines that belong to the statement being typed, after one more entry. An
interrupt at the prompt and a request leave none. -/
def Entry.pending (lines : List (List Char)) : Entry → List (List Char)
  | .read _ (.line text) => typedLine lines text.toList
  | .read _ .interrupt => []
  | .request _ => []
  | _ => lines

/-- The lines that belong to the statement being typed, after some entries. -/
def pending (lines : List (List Char)) (log : List Entry) : List (List Char) :=
  log.foldl Entry.pending lines

/-- A request that evaluates given lines, which are not all blank. -/
def Entry.FoundedOn (lines : List (List Char)) : Entry → Prop
  | .request r =>
    lines ≠ [] ∧ r.body = some (String.ofList (List.intercalate ['\n'] lines)) ∧
      ∃ line ∈ lines, Blank.isBlankText line = false
  | _ => True

/-- Every request evaluates the lines that are typed since the last statement
was sent or dropped, with `lines` typed before. -/
def Founded (lines : List (List Char)) : List Entry → Prop
  | [] => True
  | e :: rest => e.FoundedOn lines ∧ Founded (e.pending lines) rest

instance (lines : List (List Char)) : DecidablePred (Entry.FoundedOn lines)
  | .request r => inferInstanceAs (Decidable (lines ≠ [] ∧ r.body = _ ∧ _))
  | .read .. | .output _ | .interrupted => inferInstanceAs (Decidable True)

instance Founded.decidable : (lines : List (List Char)) → (log : List Entry) →
    Decidable (Founded lines log)
  | _, [] => inferInstanceAs (Decidable True)
  | lines, e :: rest =>
    have := Founded.decidable (e.pending lines) rest
    inferInstanceAs (Decidable (e.FoundedOn lines ∧ _))

theorem pending_cons (lines : List (List Char)) (e : Entry) (rest : List Entry) :
    pending lines (e :: rest) = pending (e.pending lines) rest := rfl

theorem pending_append (lines : List (List Char)) (a b : List Entry) :
    pending lines (a ++ b) = pending (pending lines a) b :=
  List.foldl_append ..

theorem founded_append (lines : List (List Char)) (a b : List Entry) :
    Founded lines (a ++ b) ↔ Founded lines a ∧ Founded (pending lines a) b := by
  induction a generalizing lines with
  | nil => simp [Founded, pending]
  | cons e rest ih =>
    rw [List.cons_append, Founded, Founded, ih, and_assoc]
    rfl

theorem Said.pending_eq {text : String} {out : List Entry} {failure : Option String}
    (h : Said text out failure) (lines : List (List Char)) : pending lines out = lines := by
  obtain ⟨bytes, rfl, -, -⟩ := h
  unfold Entry.written
  split <;> rfl

theorem Said.founded {text : String} {out : List Entry} {failure : Option String}
    (h : Said text out failure) (lines : List (List Char)) : Founded lines out := by
  obtain ⟨bytes, rfl, -, -⟩ := h
  unfold Entry.written
  split
  · trivial
  · exact ⟨trivial, trivial⟩

namespace Console

/-! ## The buffer holds the pending lines -/

/-- The buffer of a console that began with an open client holds the pending
lines. After a blank line at a hollow console it holds that line instead, until
it is sent. -/
structure Tracks (lines : List (List Char)) (k : Console) : Prop where
  coherent : k.Coherent
  isClosed_iff : k.client.isClosed = true ↔ k.phase = .closed
  /-- The buffer holds the pending lines, or a blank line to be sent. -/
  holds : k.phase ≠ .closed → k.buffer.lines = lines ∨
    (lines = [] ∧ k.phase = .dispatching ∧ Blank.isBlankText k.buffer.text = true)
  /-- Pending lines have content. -/
  content : k.phase ≠ .closed → lines ≠ [] → lines.all Blank.isBlankText = false

/-- A console that reads holds just the pending lines. -/
theorem Tracks.lines_eq {lines : List (List Char)} {k : Console} (h : Tracks lines k)
    (hReading : k.isReading) : k.buffer.lines = lines := by
  rcases h.holds hReading.ne_closed with hLines | ⟨-, hPhase, -⟩
  · exact hLines
  · rcases hReading with h | h <;> simp [h] at hPhase

/-- A blank buffer on which nothing is pending is all that a blank statement
comes from. -/
theorem Tracks.blank_iff {lines : List (List Char)} {k : Console} (h : Tracks lines k)
    (hReading : k.isReading) : Blank.isBlankText k.buffer.text = lines.isEmpty := by
  rw [Buffer.isBlankText_text, h.lines_eq hReading]
  cases lines with
  | nil => rfl
  | cons line rest => exact h.content hReading.ne_closed (by simp)

/-- An emptied buffer holds what is pending when nothing is. -/
theorem tracks_nil {k : Console} (hMode : k.buffer.mode = .interactive)
    (hLines : k.buffer.lines = []) (hClosed : k.client.isClosed = true ↔ k.phase = .closed) :
    Tracks [] k where
  coherent := coherent_of_lines_eq_nil hMode hLines
  isClosed_iff := hClosed
  holds _ := .inl hLines
  content _ h := absurd rfl h

theorem Tracks.withService {lines : List (List Char)} {k : Console} (h : Tracks lines k)
    (s : Service) : Tracks lines (k.withService s) where
  coherent := h.coherent.withService s
  isClosed_iff := h.isClosed_iff
  holds := h.holds
  content := h.content

/-- Giving up the statement leaves nothing pending. -/
theorem Tracks.givenUp {lines : List (List Char)} {k : Console} (h : Tracks lines k)
    (hPhase : k.phase ≠ .closed) (failure : Option String) : Tracks [] (k.givenUp failure) := by
  refine tracks_nil h.coherent.mode rfl ?_
  have hClosed := h.isClosed_iff
  cases failure with
  | none => simpa [Console.givenUp, cleared, hPhase] using hClosed
  | some message => exact hClosed

/-- The verdict on the buffer with one more line is the verdict on the pending
lines with it. -/
theorem Tracks.verdict_push {lines : List (List Char)} {k : Console} (h : Tracks lines k)
    (hReading : k.isReading) (text : List Char) :
    (k.buffer.push text).verdict =
      classify .interactive (List.intercalate ['\n'] (lines ++ [Buffer.stripBreak text])) := by
  unfold Buffer.verdict Buffer.text Buffer.push
  dsimp only
  rw [h.lines_eq hReading, h.coherent.mode]

/-- A line that is kept belongs to the statement being typed, unless it is a
blank line that a hollow console has taken for one. -/
theorem Tracks.typedLine_eq {lines : List (List Char)} {k : Console} (h : Tracks lines k)
    (hReading : k.isReading) (text : List Char)
    (hValid : ∀ e, (k.buffer.push text).verdict ≠ .invalid e) :
    (typedLine lines text = (k.buffer.push text).lines ∧
        Blank.isBlankText (k.buffer.push text).text = false) ∨
      (typedLine lines text = [] ∧ Blank.isBlankText (k.buffer.push text).text = true) := by
  -- the buffer has blank text exactly when all lines in it are blank
  have hBlank : Blank.isBlankText (k.buffer.push text).text =
      (lines.isEmpty && Blank.isBlankText text) := by
    rw [Buffer.isBlankText_push, h.blank_iff hReading]
  rw [hBlank, ← Bool.not_eq_true, Bool.and_eq_true]
  unfold typedLine
  -- the test for a blank line in front of a statement is the one the verdict is
  -- about
  by_cases hSkip : lines.isEmpty = true ∧ Blank.isBlankText text = true
  · right
    rw [if_pos hSkip]
    exact ⟨rfl, hSkip⟩
  · left
    refine ⟨?_, hSkip⟩
    rw [if_neg hSkip, ← h.verdict_push hReading]
    cases hVerdict : (k.buffer.push text).verdict with
    | invalid e => exact absurd hVerdict (hValid e)
    | complete | incomplete => rw [← h.lines_eq hReading]; rfl

/-- A line that shows its statement to be invalid leaves nothing pending. -/
theorem Tracks.typedLine_of_invalid {lines : List (List Char)} {k : Console} (h : Tracks lines k)
    (hReading : k.isReading) {text : List Char} {e : Statement.SyntaxError}
    (hVerdict : (k.buffer.push text).verdict = .invalid e) : typedLine lines text = [] := by
  unfold typedLine
  rw [← h.verdict_push hReading, hVerdict, ite_self]

/-- Every step keeps the buffer and the pending lines together. The cases are
the rules of `Step`: a line that is read is pushed on both sides, a statement
that is sent, dropped or given up leaves nothing on either, and all others touch
neither. -/
theorem Tracks.step {lines : List (List Char)} {k k' : Console} {log : List Entry}
    {ending : Option Ending} (hStep : Step k log k' ending) (h : Tracks lines k) :
    Tracks (pending lines log) k' := by
  -- tracking rules out a closed client at an open console, so `barred` and
  -- `refused` cannot occur
  have hOpen : k.phase ≠ .closed → k.client.isClosed = false := fun hPhase => by
    simpa [hPhase] using h.isClosed_iff
  cases hStep with
  | stopped | unread => exact h
  | finished _ hSaid =>
    rw [pending_cons, hSaid.pending_eq]
    exact h
  | interrupted hReading hSaid =>
    rw [pending_cons, hSaid.pending_eq]
    exact h.givenUp hReading.ne_closed _
  -- nothing is pending before a first line, and a blank line there adds nothing
  | skipped hPhase hBlank =>
    have hLines : lines = [] := by
      rw [← h.lines_eq (.inl hPhase), h.coherent.firstLine hPhase]
    subst hLines
    have hPending : pending [] [.read k.prompt (.line _)] = [] := if_pos ⟨rfl, hBlank⟩
    rw [hPending]
    exact h
  | @extended text hReading _ hVerdict =>
    have hClosed := hOpen hReading.ne_closed
    have hCoherent := h.coherent.step (.extended hReading ‹_› hVerdict)
    rcases h.typedLine_eq hReading text.toList (by simp [hVerdict]) with
      ⟨hPending, hContent⟩ | ⟨-, hBlank⟩
    · refine ⟨hCoherent, by simp [hClosed], fun _ => .inl hPending.symm, fun _ _ => ?_⟩
      change (typedLine lines text.toList).all _ = false
      rw [hPending, ← Buffer.isBlankText_text]
      exact hContent
    · -- blank text is not unfinished
      exact absurd hVerdict (Statement.classify_ne_incomplete_of_isBlankText hBlank _)
  | @completed text hReading _ hVerdict hExit =>
    have hClosed := hOpen hReading.ne_closed
    have hCoherent := h.coherent.step (.completed hReading ‹_› hVerdict hExit)
    rcases h.typedLine_eq hReading text.toList (by simp [hVerdict]) with
      ⟨hPending, hContent⟩ | ⟨hPending, hBlank⟩
    -- a hollow console goes on to send a blank line, of which nothing is
    -- pending
    · refine ⟨hCoherent, by simp [hClosed], fun _ => .inl hPending.symm, fun _ _ => ?_⟩
      change (typedLine lines text.toList).all _ = false
      rw [hPending, ← Buffer.isBlankText_text]
      exact hContent
    · exact ⟨hCoherent, by simp [hClosed], fun _ => .inr ⟨hPending, rfl, hBlank⟩,
        fun _ hLines => absurd hPending hLines⟩
  | exited hReading hClient hTaken hVerdict hExit =>
    refine ⟨h.coherent.step (.exited hReading hClient hTaken hVerdict hExit), by simp, ?_, ?_⟩ <;>
      simp
  | barred hReading hClosed =>
    rw [hOpen hReading.ne_closed] at hClosed
    simp at hClosed
  | rejected hReading _ hVerdict hSaid =>
    rw [pending_cons, hSaid.pending_eq, Entry.pending,
      h.typedLine_of_invalid hReading hVerdict]
    exact h.givenUp hReading.ne_closed _
  | answered s hPhase _ hSaid =>
    rw [pending_cons, hSaid.pending_eq]
    exact (h.withService s).givenUp (by simp [hPhase]) _
  | abandoned s hPhase _ hSaid =>
    rw [pending_cons, pending_cons, hSaid.pending_eq]
    exact (h.withService s).givenUp (by simp [hPhase]) _
  | failed | unanswered | unwatched => exact tracks_nil h.coherent.mode rfl h.isClosed_iff
  | refused hPhase hClosed =>
    rw [hOpen (by simp [hPhase])] at hClosed
    simp at hClosed

/-! ## Hollow consoles -/

/-- The console stands within a statement, or before sending one, but the
statement has no content. -/
def IsHollow (k : Console) : Prop :=
  (k.phase = .continuation ∨ k.phase = .dispatching) ∧ Blank.isBlankText k.buffer.text = true

/-- A line that is kept has content when the console is not hollow. -/
theorem isBlankText_push_of_not_isHollow {k : Console} (hReading : k.isReading)
    (h : ¬ k.IsHollow) {text : List Char}
    (hTaken : k.phase = .firstLine → Blank.isBlankText text = false) :
    Blank.isBlankText (k.buffer.push text).text = false := by
  rw [Buffer.isBlankText_push, Bool.and_eq_false_iff]
  rcases hReading with hPhase | hPhase
  · exact .inr (hTaken hPhase)
  · exact .inl (by simpa [IsHollow, hPhase] using h)

/-- A step that makes a console hollow ends the run with a failure or leaves an
evaluation without answer. -/
theorem Step.ending_of_isHollow {k k' : Console} {log : List Entry} {ending : Option Ending}
    (hStep : Step k log k' ending) (h : ¬ k.IsHollow) (h' : k'.IsHollow) :
    ending = some .pending ∨ ∃ e, ending = some (.failed e) := by
  have hGivenUp : ∀ {j : Console} {failure}, (j.givenUp failure).IsHollow →
      ∃ e, Said.ending failure = some (.failed e) := by
    intro j failure hHollow
    cases failure with
    | none => simp [IsHollow, givenUp] at hHollow
    | some message => exact ⟨.terminal message, rfl⟩
  cases hStep with
  | stopped | unread | finished | skipped => exact absurd h' h
  -- something fails in giving notice of a statement that is given up
  | interrupted | rejected | answered | abandoned => exact .inr (hGivenUp h')
  -- a line is taken, and what has been taken has content
  | extended hReading hTaken | completed hReading hTaken =>
    have hContent := isBlankText_push_of_not_isHollow hReading h hTaken
    simp [IsHollow, hContent] at h'
  | exited => simp [IsHollow] at h'
  | unanswered => exact .inl rfl
  | barred | failed | unwatched | refused => exact .inr ⟨_, rfl⟩

/-- What a console that is not hollow evaluates are the pending lines. -/
theorem Tracks.foundedOn_evaluation {lines : List (List Char)} {k : Console} (h : Tracks lines k)
    (hPhase : k.phase = .dispatching) (hHollow : ¬ k.IsHollow) :
    (Entry.request k.evaluation).FoundedOn lines := by
  have hContent : Blank.isBlankText k.buffer.text = false := by
    simpa [IsHollow, hPhase] using hHollow
  rcases h.holds (by simp [hPhase]) with hLines | ⟨-, -, hBlank⟩
  · rw [Buffer.isBlankText_text, hLines, List.all_eq_false] at hContent
    obtain ⟨line, hLine, hNotBlank⟩ := hContent
    refine ⟨List.ne_nil_of_mem hLine, ?_, line, hLine, ?_⟩
    · rw [evaluation, Buffer.text, hLines]
    · simpa using hNotBlank
  · simp [hContent] at hBlank

/-- A step of a console that is not hollow asks for nothing but the pending
lines. -/
theorem Tracks.founded_step {lines : List (List Char)} {k k' : Console} {log : List Entry}
    {ending : Option Ending} (h : Tracks lines k) (hHollow : ¬ k.IsHollow)
    (hStep : Step k log k' ending) : Founded lines log := by
  cases hStep with
  | stopped | refused => trivial
  | unread | skipped | extended | completed | exited | barred => exact ⟨trivial, trivial⟩
  | finished _ hSaid | interrupted _ hSaid | rejected _ _ _ hSaid => exact ⟨trivial, hSaid.founded _⟩
  | answered _ hPhase _ hSaid => exact ⟨h.foundedOn_evaluation hPhase hHollow, hSaid.founded _⟩
  | failed _ hPhase | unanswered _ hPhase =>
    exact ⟨h.foundedOn_evaluation hPhase hHollow, trivial⟩
  | unwatched _ hPhase => exact ⟨h.foundedOn_evaluation hPhase hHollow, trivial, trivial⟩
  | abandoned _ hPhase _ hSaid =>
    exact ⟨h.foundedOn_evaluation hPhase hHollow, trivial, hSaid.founded _⟩

/-! ## Runs -/

/-- The buffer and the pending lines stay together over a sitting, also over one
that begins hollow. -/
theorem Tracks.sit {before : List Entry} {k : Console} (h : Tracks (pending [] before) k)
    (s : Sitting) : Tracks (pending [] (before ++ k.sittingLog s)) (k.sit s).next.console := by
  obtain ⟨_, hAfter, -⟩ := Conversation.runFor_induction
    (P := fun log k _ => Tracks (pending [] log) k)
    (fun h hStep => by rw [pending_append]; exact h.step hStep) s.turns (c := k.within s) before
    (h.withService s.service)
  exact hAfter

/-- A sitting that does not begin hollow makes no unfounded request, and if it
ends hollow, it has failed or is left without answer. -/
theorem Tracks.founded_sit {lines : List (List Char)} {k : Console} (h : Tracks lines k)
    (hHollow : ¬ k.IsHollow) (s : Sitting) :
    Founded lines (k.sittingLog s) ∧ ((k.sit s).next.console.IsHollow →
      (k.sit s).ending = .pending ∨ ∃ e, (k.sit s).ending = .failed e) := by
  -- the invariant of the run: the lines are tracked, all requests so far are
  -- founded, and a console that has become hollow is at its end
  obtain ⟨ending, ⟨-, hFounded, hEnds⟩, hEnding⟩ := Conversation.runFor_induction
    (P := fun log k ending => Tracks (pending lines log) k ∧ Founded lines log ∧
      (k.IsHollow → ending = some .pending ∨ ∃ e, ending = some (.failed e)))
    (by
      intro before k entries k' ending ⟨hTracks, hBefore, hNone⟩ hStep
      -- a hollow console would have ended the run before this step
      have hSolid : ¬ k.IsHollow := fun hHollow => by simpa using hNone hHollow
      refine ⟨?_, ?_, hStep.ending_of_isHollow hSolid⟩
      · rw [pending_append]
        exact hTracks.step hStep
      · rw [founded_append]
        exact ⟨hBefore, hTracks.founded_step hSolid hStep⟩)
    s.turns (c := k.within s) [] ⟨h.withService s.service, trivial, fun h => absurd h hHollow⟩
  refine ⟨hFounded, fun hEnd => ?_⟩
  rcases hEnds hEnd with hPending | ⟨e, hFailed⟩
  · exact .inl (hEnding _ (by simp [hPending]))
  · exact .inr ⟨e, hEnding _ (by simp [hFailed])⟩

/-! ## Unfounded requests -/

/-- An open console that is about to send makes its request in every turn,
whatever the reply is. -/
theorem Step.exists_request {k k' : Console} {log : List Entry} {ending : Option Ending}
    (hStep : Step k log k' ending) (hPhase : k.phase = .dispatching)
    (hOpen : k.client.isClosed = false) : ∃ rest, log = .request k.evaluation :: rest := by
  cases hStep with
  | answered | failed | unanswered | unwatched | abandoned => exact ⟨_, rfl⟩
  | stopped h | skipped h => simp [h] at hPhase
  | unread h | finished h | interrupted h | extended h | completed h | exited h | barred h
    | rejected h => rcases h with h | h <;> simp [h] at hPhase
  | refused _ hClosed => simp [hOpen] at hClosed

/-- A hollow console that is about to send makes an unfounded request in its
next turn. -/
theorem Tracks.not_founded_log {lines : List (List Char)} {c : Conversation}
    (h : Tracks lines c.console) (hPhase : c.console.phase = .dispatching)
    (hBlank : Blank.isBlankText c.console.buffer.text = true) (turns : Nat) :
    ¬ Founded lines (c.log (turns + 1)) := by
  have hOpen : c.console.client.isClosed = false := by
    simpa [hPhase] using h.isClosed_iff
  obtain ⟨rest, hRequest⟩ := c.turn_step.exists_request hPhase hOpen
  -- whether or not the run goes on, its log begins with the request of this
  -- turn
  have hLog : ∃ more, c.log (turns + 1) = .request c.console.evaluation :: more := by
    cases hEnding : c.turn.ending with
    | some e => exact ⟨rest, by rw [Conversation.log_succ_of_ending hEnding, hRequest]⟩
    | none =>
      exact ⟨_, by rw [Conversation.log_succ_of_none hEnding, hRequest, List.cons_append]⟩
  obtain ⟨more, hLog⟩ := hLog
  rw [hLog]
  rintro ⟨⟨-, hBody, line, hLine, hContent⟩, -⟩
  -- the text sent is blank, and so are then the lines it is joined from
  have hText : c.console.buffer.text = List.intercalate ['\n'] lines :=
    String.ofList_inj.mp (Option.some.inj hBody)
  rw [hText, Statement.isBlankText_intercalate, List.all_eq_true] at hBlank
  rw [hBlank line hLine] at hContent
  cases hContent

/-- A hollow console at its continuation prompt takes an empty line for a
statement. -/
theorem Tracks.step_of_empty_line {k k' : Console} {log : List Entry} {ending : Option Ending}
    {prompt : String} (h : Tracks [] k) (hPhase : k.phase = .continuation)
    (hStep : Step k (.read prompt (.line "") :: log) k' ending) :
    k'.phase = .dispatching ∧ Blank.isBlankText k'.buffer.text = true ∧ ending = none := by
  -- with nothing in front of it, an empty line is a complete text, and it is
  -- empty
  have hVerdict : (k.buffer.push "".toList).verdict = .complete := by
    rw [h.verdict_push (.inr hPhase)]
    decide
  have hText : (k.buffer.push "".toList).text = [] := by
    unfold Buffer.text Buffer.push
    rw [h.lines_eq (.inr hPhase)]
    rfl
  -- only one of the steps that read a line agrees with both
  cases hStep with
  | skipped hFirst => simp [hPhase] at hFirst
  | extended _ _ hOther | rejected _ _ hOther =>
    rw [hVerdict] at hOther
    cases hOther
  | completed => exact ⟨rfl, by rw [hText]; rfl, rfl⟩
  | exited _ _ _ _ hExit | barred _ _ _ _ hExit =>
    rw [hText] at hExit
    simp [exitCommand] at hExit

/-- A hollow console makes an unfounded request in some sitting: at once if it
is about to send, and otherwise as soon as an empty line is typed. -/
theorem Tracks.exists_not_founded {lines : List (List Char)} {k : Console} (h : Tracks lines k)
    (hHollow : k.IsHollow) : ∃ s : Sitting, ¬ Founded lines (k.sittingLog s) := by
  obtain ⟨hPhase | hPhase, hBlank⟩ := hHollow
  · -- the reply does not matter: an empty line is typed, and its request follows
    let s : Sitting := ⟨{ inputs := [.line ""] }, ⟨[], .silence⟩, 2⟩
    refine ⟨s, fun hFounded => ?_⟩
    have hLines : lines = [] := by
      rw [h.blank_iff (.inr hPhase)] at hBlank
      simpa using hBlank
    subst hLines
    have hTracks : Tracks [] (k.within s).console := h.withService s.service
    obtain ⟨rest, hLog⟩ := (k.within s).exists_turnLog_of_isReading (.inr hPhase)
    have hStep := (k.within s).turn_step
    have hNext := hTracks.step hStep
    rw [hLog] at hStep
    obtain ⟨hSending, hEmpty, hEnding⟩ := hTracks.step_of_empty_line hPhase hStep
    -- the first turn takes the empty line, and the second one sends it
    rw [sittingLog, Conversation.log_succ_of_none hEnding, founded_append] at hFounded
    exact hNext.not_founded_log hSending hEmpty 0 hFounded.2
  -- it is about to send: one turn without any input is enough
  · let s : Sitting := ⟨{ inputs := [] }, ⟨[], .silence⟩, 1⟩
    have hTracks : Tracks lines (k.within s).console := h.withService s.service
    exact ⟨s, hTracks.not_founded_log hPhase hBlank 0⟩

/-- **What requests are founded on.** After whatever a console on an open client
has gone through, the requests of a further run evaluate lines typed since the
last statement was sent or dropped, each of them once and with content, whatever
the run meets, exactly if the run does not begin hollow. A run that does not
begin hollow can end hollow, but only if it fails or is left without answer. -/
theorem founded_iff_not_isHollow (session : SessionId) (prompts : Prompts) (endpoint : Endpoint)
    (service : Service) (carrier : Carrier) (sittings : List Sitting) :
    let first := start session prompts { endpoint, service, carrier }
    let k := first.after sittings
    ((∀ s : Sitting, Founded (pending [] (first.history sittings)) (k.sittingLog s)) ↔
        ¬ k.IsHollow) ∧
      (¬ k.IsHollow → ∀ s : Sitting, (k.sit s).next.console.IsHollow →
        (k.sit s).ending = .pending ∨ ∃ e, (k.sit s).ending = .failed e) := by
  intro first k
  have hStart : Tracks [] first := tracks_nil rfl rfl (by simp [first, start])
  -- tracking holds at the start and through every sitting; the rest is about
  -- the further run
  have hTracks : Tracks (pending [] (first.history sittings)) k := by
    simpa using history_induction (P := fun log k => Tracks (pending [] log) k)
      (fun h s => h.sit s) sittings [] hStart
  refine ⟨⟨fun hFounded hHollow => ?_, fun hHollow s => (hTracks.founded_sit hHollow s).1⟩,
    fun hHollow s => (hTracks.founded_sit hHollow s).2⟩
  obtain ⟨s, hNot⟩ := hTracks.exists_not_founded hHollow
  exact hNot (hFounded s)

/-- After an evaluation that could not be sent, the next run sends a statement
that nobody has typed. -/
theorem not_founded_of_unreachable :
    let client : Client :=
      { endpoint := ⟨fun p => p, ""⟩, service := ⟨[.unreachable .sending], .silence⟩ }
    let c : Conversation := ⟨start ⟨1, by decide, by decide⟩ {} client, { inputs := [.line "1"] }⟩
    let history := c.console.history (c.sittings 2)
    history.map Entry.event = (c.runs 2).flatMap (·.events) ∧ ¬ Founded [] history := by
  intro client c history
  exact ⟨c.event_history_sittings 2, by decide +kernel⟩

end Console

end RemoteConsole
