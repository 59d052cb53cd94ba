import RemoteConsole.Proofs.Console.Founded
import RemoteConsole.Proofs.Console.Renewal

/-!
# How a console closes its client

The exit command empties the buffer, closes the client and sets the phase, and
the second of these may fail. As it fails only when the client is closed
already, phase and client cannot come apart: an open client is closed by the
exit command and by nothing else, and a console whose client has been closed
before it was made never gets so far.

* `Step.takes_exit` — only the exit command leads to the closed phase.
* `Console.EndsWithExit`, `Console.Closing` — what has been seen when a console
  is closed.
* `Console.Barred` — a console whose client was closed from the start.
* `Console.closes_by_exit` — both kinds of console, over all that they go
  through.
-/

namespace RemoteConsole

open Statement (Buffer)

/-! ## Turns -/

namespace Console

/-- A step to the closed phase reads a line that makes the whole buffer the exit
command, finds the client open and sees nothing else. -/
theorem Step.takes_exit {k k' : Console} {log : List Entry} {ending : Option Ending}
    (hStep : Step k log k' ending) (h : k.phase ≠ .closed) (h' : k'.phase = .closed) :
    k.isReading ∧ k.client.isClosed = false ∧ k'.client.isClosed = true ∧
      ∃ text, log = [.read k.prompt (.line text)] ∧
        (k.buffer.push text.toList).text = exitCommand.toList := by
  -- a statement is given up for a first line, or the phase stays if its notice
  -- fails; neither closes the console
  have hGivenUp : ∀ {j : Console} {failure}, (j.givenUp failure).phase = .closed →
      j.phase = .closed := by
    intro j failure hPhase
    cases failure with
    | none => simp [givenUp] at hPhase
    | some message => exact hPhase
  cases hStep with
  | exited hReading hOpen _ _ hExit => exact ⟨hReading, hOpen, rfl, _, rfl, hExit⟩
  | stopped | unread | finished | skipped | barred | failed | unanswered | unwatched | refused =>
    exact absurd h' h
  | interrupted | rejected | answered | abandoned => exact absurd (hGivenUp h') h
  | extended | completed => simp at h'

end Console

namespace Conversation

/-- A run of a closed console ends at once and leaves everything as it is. -/
theorem runFor_of_closed {c : Conversation} (h : c.console.phase = .closed) {turns : Nat}
    (hTurns : 0 < turns) :
    c.runFor turns = { events := [], next := c, ending := .exited } := by
  have hTurn : c.turn = { events := [], next := c, ending := some .exited } := by
    unfold turn
    rw [h]
  obtain ⟨n, rfl⟩ : ∃ n, turns = n + 1 := ⟨turns - 1, by omega⟩
  rw [runFor_succ_of_ending (e := .exited) (by rw [hTurn]), hTurn]

/-- The next line typed makes the whole buffer the exit command, and the turn
does nothing but read it. -/
def TakesExit (c : Conversation) : Prop :=
  ∃ text rest, c.terminal.inputs = .line text :: rest ∧
    (c.console.buffer.push text.toList).text = exitCommand.toList ∧
    c.turn.events = [.read c.prompt]

/-- Only the exit command leads to the closed phase. -/
theorem takesExit {c : Conversation} (h : c.console.phase ≠ .closed)
    (h' : c.turn.next.console.phase = .closed) : c.TakesExit := by
  obtain ⟨hReading, -, -, text, hLog, hExit⟩ := c.turn_step.takes_exit h h'
  obtain ⟨rest, hRead⟩ := c.exists_turnLog_of_isReading hReading
  have hEvents : c.turn.events = c.turnLog.map Entry.event := (Entry.map_event_ofEvents _ _).symm
  rw [hLog] at hRead hEvents
  -- the log of the turn names what was read, and that is what stands first in
  -- the terminal's inputs
  have hHead : c.terminal.inputs.headD .finish = .line text := by
    injection hRead with hFirst
    injection hFirst with _ hInput
    exact hInput.symm
  cases hInputs : c.terminal.inputs with
  | nil => simp [hInputs] at hHead
  | cons input rest =>
    obtain rfl : input = .line text := by simpa [hInputs] using hHead
    exact ⟨text, rest, hInputs, hExit, hEvents⟩

end Conversation

namespace Console

/-! ## Consoles on an open client -/

/-- The last that is seen is a line which, with the lines typed since the last
statement was sent or dropped, makes up the exit command. -/
def EndsWithExit (log : List Entry) : Prop :=
  ∃ before prompt text, log = before ++ [.read prompt (.line text)] ∧
    List.intercalate ['\n'] (pending [] before ++ [Buffer.stripBreak text.toList]) =
      exitCommand.toList

/-- The console keeps the pending lines and its client as `Tracks` says, and the
exit command was the last thing typed if it is closed. -/
structure Closing (log : List Entry) (k : Console) : Prop where
  tracks : Tracks (pending [] log) k
  ends : k.phase = .closed → EndsWithExit log

/-- A step keeps the relation of a console to the lines that led to it. A closed
console takes no step that shows anything, so what was typed last stays last; a
console that closes does so by the exit command, and the lines it held together
with that line are the command. -/
theorem Closing.step {before log : List Entry} {k k' : Console} {ending : Option Ending}
    (h : Closing before k) (hStep : Step k log k' ending) : Closing (before ++ log) k' := by
  constructor
  · rw [pending_append]
    exact h.tracks.step hStep
  · intro h'
    by_cases hPhase : k.phase = .closed
    · obtain ⟨rfl, -, -⟩ := hStep.of_closed hPhase
      rw [List.append_nil]
      exact h.ends hPhase
    · obtain ⟨hReading, -, -, text, rfl, hExit⟩ := hStep.takes_exit hPhase h'
      refine ⟨before, k.prompt, text, rfl, ?_⟩
      rw [← h.tracks.lines_eq hReading]
      exact hExit

theorem Closing.sit {before : List Entry} {k : Console} (h : Closing before k) (s : Sitting) :
    Closing (before ++ k.sittingLog s) (k.sit s).next.console :=
  sit_induction (fun h s => ⟨h.tracks.withService s, h.ends⟩) (fun h hStep => h.step hStep) s before h

/-! ## Consoles on a closed client -/

/-- A console whose client was closed from the start: nothing has been
requested, and it is not closed itself. -/
structure Barred (log : List Entry) (k : Console) : Prop where
  isClosed : k.client.isClosed = true
  phase : k.phase ≠ .closed
  unasked : ∀ r, Entry.request r ∉ log

/-- A console whose client was closed from the start stays as it is under every
step: it is never closed itself and asks for nothing. The two things that could
change this, the exit command and a request, both find the client open. -/
theorem Barred.step {before log : List Entry} {k k' : Console} {ending : Option Ending}
    (h : Barred before k) (hStep : Step k log k' ending) : Barred (before ++ log) k' := by
  have hPhase : k'.phase ≠ .closed := by
    intro h'
    -- the exit command needs an open client
    obtain ⟨-, hOpen, -⟩ := hStep.takes_exit h.phase h'
    rw [h.isClosed] at hOpen
    cases hOpen
  refine ⟨?_, hPhase, fun r hr => ?_⟩
  · rw [hStep.client_eq hPhase]
    exact h.isClosed
  -- a request of this step would need an open client too
  · rcases List.mem_append.mp hr with hr | hr
    · exact h.unasked r hr
    · obtain ⟨-, hOpen, -⟩ := hStep.request_eq hr
      rw [h.isClosed] at hOpen
      cases hOpen

theorem Barred.sit {before : List Entry} {k : Console} (h : Barred before k) (s : Sitting) :
    Barred (before ++ k.sittingLog s) (k.sit s).next.console :=
  sit_induction (fun h _ => ⟨h.isClosed, h.phase, h.unasked⟩) (fun h hStep => h.step hStep) s before h

/-! ## Both -/

/-- **How a console closes its client.** Whatever a console that began with an
open client has gone through, its client is closed exactly if the console is,
and then the exit command was the last thing typed, and nothing was seen after
it. A run that says that the exit command was typed leaves the client closed,
one that says that input ended or that something failed leaves it open, and in
between it is the exit command that closes it. All runs of a closed console end
at once and change nothing. A console that began with a closed client makes no
request, is never closed, and no run of it says that it is. -/
theorem closes_by_exit (session : SessionId) (prompts : Prompts) (endpoint : Endpoint)
    (service : Service) (carrier : Carrier) (sittings : List Sitting) :
    (let first := start session prompts { endpoint, service, carrier }
      let k := first.after sittings
      (k.client.isClosed = true ↔ k.phase = .closed) ∧
      (k.phase = .closed → EndsWithExit (first.history sittings)) ∧
      ∀ s : Sitting,
        let run := k.sit s
        (run.ending = .exited → run.next.console.client.isClosed = true) ∧
        (run.ending = .endOfInput ∨ (∃ e, run.ending = .failed e) →
          run.next.console.client.isClosed = false) ∧
        (run.next.console.phase ≠ .closed → run.next.turn.next.console.phase = .closed →
          run.next.TakesExit) ∧
        (k.phase = .closed → 0 < s.turns →
          run = { events := [], next := k.within s, ending := .exited })) ∧
    (let first := start session prompts { endpoint, service, carrier, isClosed := true }
      let k := first.after sittings
      (∀ r, Entry.request r ∉ first.history sittings) ∧ k.phase ≠ .closed ∧
      ∀ s : Sitting, (k.sit s).ending ≠ .exited) := by
  constructor
  · intro first k
    -- on an open client the run keeps `Closing`, on a closed one `Barred`; both
    -- are carried through all sittings
    have hStart : Closing [] first :=
      ⟨tracks_nil rfl rfl (by simp [first, start]), by simp [first, start]⟩
    have hClosing : Closing (first.history sittings) k := by
      simpa using history_induction (fun h s => h.sit s) sittings [] hStart
    refine ⟨hClosing.tracks.isClosed_iff, hClosing.ends, fun s => ?_⟩
    intro run
    have hRun : run.next.console.client.isClosed = true ↔ run.next.console.phase = .closed :=
      (hClosing.sit s).tracks.isClosed_iff
    refine ⟨fun hEnding => ?_, fun hEnding => ?_, Conversation.takesExit,
      fun hPhase => Conversation.runFor_of_closed (c := k.within s) hPhase⟩
    · exact hRun.mpr (Conversation.leaves_runFor hEnding (by simp))
    · -- neither of these endings leaves the console closed
      have hPhase : run.next.console.phase ≠ .closed := by
        rcases hEnding with hEnding | ⟨e, hEnding⟩ <;>
          -- the ending names the phase that the run leaves
          exact Conversation.leaves_runFor hEnding (by simp)
      rw [← Bool.not_eq_true, hRun]
      exact hPhase
  · intro first k
    have hStart : Barred [] first := ⟨rfl, by simp [first, start], by simp⟩
    have hBarred : Barred (first.history sittings) k := by
      simpa using history_induction (fun h s => h.sit s) sittings [] hStart
    refine ⟨hBarred.unasked, hBarred.phase, fun s hEnding => ?_⟩
    have hPhase : (k.sit s).next.console.phase = .closed :=
      Conversation.leaves_runFor hEnding (by simp)
    exact (hBarred.sit s).phase hPhase

/-- The exit command closes the client when it stands alone, and is a line of a
block otherwise. -/
example :
    let client : Client := { endpoint := ⟨fun p => p, ""⟩, service := ⟨[], .silence⟩ }
    let after (lines : List String) : Console :=
      (start ⟨1, by decide, by decide⟩ {} client).after
        [⟨{ inputs := lines.map .line }, client.service, 9⟩]
    (after ["", "exit()\r"]).phase = .closed ∧ (after ["if x:", "  exit()"]).phase = .continuation := by
  decide +kernel

end Console

end RemoteConsole
