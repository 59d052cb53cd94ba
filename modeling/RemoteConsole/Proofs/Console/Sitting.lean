import RemoteConsole.Proofs.Console.Step

/-!
# Sittings

A console may be run again after a run has ended, whatever ended it, and a run
may be given up while it waits. A *sitting* is one run in surroundings of its
own: what is typed, what the service answers, the waits and the output meet, and
the number of turns after which the run is given up. What a console goes through
is a list of sittings; as the surroundings may change from one to the next, and
a sitting may be as short as one turn, nothing that can happen to a console is
left out.

* `Conversation.runFor_induction` — what every step keeps, a run keeps.
* `Console.sit_induction`, `Console.history_induction` — what every step keeps,
  a sitting keeps, and what every sitting keeps, a history keeps.
* `Conversation.runFor_eq_run` — a run ends by itself before its turns are used
  up, and `Conversation.runFor_induction_of_turnsLeft_le` is the induction over
  a run that does.
* `Console.Step.leaves`, `Conversation.leaves_runFor` — how a run ends and the
  phase it ends in fit together.
* `Conversation.event_history_sittings` — runs in a row are a history.
-/

namespace RemoteConsole

/-! ## One run -/

namespace Conversation

/-- What is seen of at most so many turns, with what the reads bring. -/
def log (c : Conversation) (turns : Nat) : List Entry :=
  Entry.ofEvents (c.runFor turns).events c.terminal.inputs

@[simp] theorem log_zero (c : Conversation) : c.log 0 = [] := rfl

theorem runFor_succ_of_ending {c : Conversation} {e : Ending} (h : c.turn.ending = some e)
    (n : Nat) :
    c.runFor (n + 1) =
      { events := c.turn.events, legs := c.turn.legs, next := c.turn.next, ending := e } := by
  rw [runFor]
  simp only [h]

theorem runFor_succ_of_none {c : Conversation} (h : c.turn.ending = none) (n : Nat) :
    c.runFor (n + 1) =
      { c.turn.next.runFor n with
        events := c.turn.events ++ (c.turn.next.runFor n).events
        legs := c.turn.legs ++ (c.turn.next.runFor n).legs } := by
  rw [runFor]
  simp only [h]

theorem log_succ_of_ending {c : Conversation} {e : Ending} (h : c.turn.ending = some e)
    (n : Nat) : c.log (n + 1) = c.turnLog := by
  unfold log
  rw [runFor_succ_of_ending h]
  rfl

theorem log_succ_of_none {c : Conversation} (h : c.turn.ending = none) (n : Nat) :
    c.log (n + 1) = c.turnLog ++ c.turn.next.log n := by
  unfold log
  rw [runFor_succ_of_none h, Entry.ofEvents_append, inputs_turn]
  rfl

/-- What holds of a log and a console and is kept by every step holds after a
run. It may hold in another form once the run has ended, so it also speaks of
the ending; there is none when the run is given up. -/
theorem runFor_induction {P : List Entry → Console → Option Ending → Prop}
    (hStep : ∀ {before k entries k' ending}, P before k none → Console.Step k entries k' ending →
      P (before ++ entries) k' ending)
    (turns : Nat) {c : Conversation} (before : List Entry) (h : P before c.console none) :
    ∃ ending, P (before ++ c.log turns) (c.runFor turns).next.console ending ∧
      ∀ e ∈ ending, (c.runFor turns).ending = e := by
  induction turns generalizing c before with
  | zero => exact ⟨none, by simpa [runFor] using h, by simp⟩
  | succ n ih =>
    have hTurn := hStep h c.turn_step
    -- the log splits as the run does: this turn alone, or this turn and a
    -- shorter run
    cases hEnding : c.turn.ending with
    | some e =>
      rw [hEnding] at hTurn
      rw [log_succ_of_ending hEnding, runFor_succ_of_ending hEnding]
      exact ⟨some e, hTurn, by simp⟩
    | none =>
      rw [hEnding] at hTurn
      rw [log_succ_of_none hEnding, runFor_succ_of_none hEnding, ← List.append_assoc]
      exact ih _ hTurn

/-! ## Runs end -/

/-- A bound on the turns that a run can still take: two for each act of typing,
one for an evaluation that is due, and one that ends the run. -/
def turnsLeft (c : Conversation) : Nat :=
  2 * c.terminal.inputs.length + (if c.console.phase = .dispatching then 2 else 1)

/-- A read that does not end the run finds something typed. So every such turn
uses up an input, which is what bounds the number of turns. -/
theorem exists_input_of_none {c : Conversation} (h : c.turn.ending = none)
    (hReading : c.console.isReading) : c.terminal.inputs ≠ [] := by
  -- a turn that goes on has read something other than the end of input
  have hHead : ∃ p input rest, c.turnLog = .read p input :: rest ∧ input ≠ .finish := by
    have hStep := c.turn_step
    rw [h] at hStep
    unfold Console.isReading at hReading
    -- no ending is left to the steps that always end a run
    generalize c.turnLog = log at hStep
    generalize c.turn.next.console = next at hStep
    generalize hEnding : (none : Option Ending) = ending at hStep
    cases hStep with
    | interrupted | skipped | extended | completed | exited | rejected => exact ⟨_, _, _, rfl, by simp⟩
    | answered _ hPhase | abandoned _ hPhase => simp [hPhase] at hReading
    | stopped | unread | finished | barred | failed | unanswered | unwatched | refused =>
      simp at hEnding
  obtain ⟨p, input, rest, hLog, hInput⟩ := hHead
  -- with no input left, the read would have been the end of input
  intro hNil
  unfold turnLog at hLog
  rw [hNil] at hLog
  cases hEvents : c.turn.events with
  | nil => simp [hEvents, Entry.ofEvents] at hLog
  | cons e more =>
    rw [hEvents] at hLog
    cases e <;> simp [Entry.ofEvents] at hLog
    exact hInput hLog.1.2.symm

/-- An evaluation that does not end the run is followed by a read. So there are
at most two turns to an input, one that reads it and one that sends. -/
theorem phase_of_none {c : Conversation} (h : c.turn.ending = none)
    (hReading : ¬ c.console.isReading) :
    c.console.phase = .dispatching ∧ c.turn.next.console.phase = .firstLine := by
  have hStep := c.turn_step
  rw [h] at hStep
  generalize c.turnLog = log at hStep
  generalize c.turn.next.console = next at hStep ⊢
  generalize hEnding : (none : Option Ending) = ending at hStep
  -- only an answer and an interrupted evaluation leave the run going from this
  -- phase
  cases hStep with
  | answered _ hPhase | abandoned _ hPhase =>
    refine ⟨hPhase, ?_⟩
    rename_i failure _ _
    -- the notice has been shown, as otherwise the run would have ended
    cases failure with
    | none => rfl
    | some message => cases hEnding
  | interrupted hPhase | extended hPhase | completed hPhase | exited hPhase | rejected hPhase =>
    exact absurd hPhase hReading
  | skipped hPhase => exact absurd (.inl hPhase) hReading
  | stopped | unread | finished | barred | failed | unanswered | unwatched | refused =>
    simp at hEnding

/-- A turn that does not end the run brings it nearer to its end. -/
theorem turnsLeft_turn {c : Conversation} (h : c.turn.ending = none) :
    c.turn.next.turnsLeft < c.turnsLeft := by
  unfold turnsLeft
  rw [inputs_turn, List.length_drop]
  rcases c.turn_step.reads_eq with ⟨hReading, hReads⟩ | ⟨hReading, hReads⟩
  · -- one act of typing less pays for an evaluation that may be due now
    have hLength := List.length_pos_iff.mpr (exists_input_of_none h hReading)
    rw [hReads]
    split <;> split <;> omega
  · -- the evaluation is over, and a read follows
    obtain ⟨hBefore, hAfter⟩ := phase_of_none h hReading
    rw [hReads, hBefore, hAfter]
    simp

/-- A run that may take more turns than it can does not come to anything
else. -/
theorem runFor_eq_of_turnsLeft_le {n m : Nat} {c : Conversation} (hn : c.turnsLeft ≤ n)
    (hm : c.turnsLeft ≤ m) : c.runFor n = c.runFor m := by
  induction n generalizing c m with
  -- there is at least one turn left in any state, so the bound is not zero
  | zero =>
    unfold turnsLeft at hn
    split at hn <;> omega
  | succ n ih =>
    cases m with
    | zero =>
      unfold turnsLeft at hm
      split at hm <;> omega
    | succ m =>
      cases hEnding : c.turn.ending with
      | some e => rw [runFor_succ_of_ending hEnding, runFor_succ_of_ending hEnding]
      | none =>
        -- one turn has used up one of the turns left, so both bounds still hold
        have hLess := turnsLeft_turn hEnding
        rw [runFor_succ_of_none hEnding, runFor_succ_of_none hEnding,
          ih (show _ ≤ n by omega) (show _ ≤ m by omega)]

theorem turnsLeft_le_turnsNeeded (c : Conversation) : c.turnsLeft ≤ c.turnsNeeded := by
  unfold turnsLeft turnsNeeded
  split <;> omega

/-- A run ends by itself: more turns than it is given change nothing. -/
theorem runFor_eq_run {c : Conversation} {n : Nat} (h : c.turnsNeeded ≤ n) :
    c.runFor n = c.run :=
  runFor_eq_of_turnsLeft_le (Nat.le_trans c.turnsLeft_le_turnsNeeded h) c.turnsLeft_le_turnsNeeded

/-- What every step keeps holds in the form for ended runs when a run has the
turns that it needs. -/
theorem runFor_induction_of_turnsLeft_le {P : List Entry → Console → Option Ending → Prop}
    (hStep : ∀ {before k entries k' ending}, P before k none → Console.Step k entries k' ending →
      P (before ++ entries) k' ending)
    {turns : Nat} {c : Conversation} (hTurns : c.turnsLeft ≤ turns) (before : List Entry)
    (h : P before c.console none) :
    P (before ++ c.log turns) (c.runFor turns).next.console (some (c.runFor turns).ending) := by
  induction turns generalizing c before with
  | zero =>
    -- no state has zero turns left
    unfold turnsLeft at hTurns
    split at hTurns <;> omega
  | succ n ih =>
    have hTurn := hStep h c.turn_step
    cases hEnding : c.turn.ending with
    -- the last turn gives the ending, and the log ends with it
    | some e =>
      rw [hEnding] at hTurn
      rw [log_succ_of_ending hEnding, runFor_succ_of_ending hEnding]
      exact hTurn
    | none =>
      rw [hEnding] at hTurn
      have hLess := turnsLeft_turn hEnding
      rw [log_succ_of_none hEnding, runFor_succ_of_none hEnding, ← List.append_assoc]
      exact ih (by omega) _ hTurn

end Conversation

/-! ## Where runs end -/

/-- The phases that a run can end in, by how it ends. -/
def Ending.Leaves : Ending → Phase → Prop
  | .exited, phase => phase = .closed
  | .pending, phase => phase = .dispatching
  | .endOfInput, phase | .failed _, phase => phase ≠ .closed

namespace Console

/-- A statement that is given up ends the run if its notice is not written. -/
theorem leaves_givenUp {k : Console} {failure : Option String} {e : Ending}
    (hPhase : k.phase ≠ .closed) (hEnding : some e = Said.ending failure) :
    e.Leaves (k.givenUp failure).phase := by
  cases failure with
  | none => cases hEnding
  | some message =>
    cases hEnding
    exact hPhase

/-- A step that ends the run leaves a phase that fits the ending. Only a console
that is closed ends the run as such; whatever else ends it leaves the phase as
it was. -/
theorem Step.leaves {k k' : Console} {log : List Entry} {e : Ending}
    (hStep : Step k log k' (some e)) : e.Leaves k'.phase := by
  generalize hEnding : some e = ending at hStep
  cases hStep with
  | skipped | extended | completed | exited => cases hEnding
  | stopped hPhase | unanswered _ hPhase =>
    cases hEnding
    exact hPhase
  | @finished _ failure hReading =>
    -- with or without a failure, the phase is the one in which the line was
    -- read
    cases failure with
    | none | some message =>
      cases hEnding
      exact hReading.ne_closed
  | unread hReading | barred hReading =>
    cases hEnding
    exact hReading.ne_closed
  -- the statement has been taken from the buffer, but the phase is still that
  -- of sending
  | failed _ hPhase | unwatched _ hPhase | refused hPhase =>
    cases hEnding
    simp [Ending.Leaves, cleared, withService, hPhase]
  | interrupted hReading | rejected hReading => exact leaves_givenUp hReading.ne_closed hEnding
  | answered s hPhase | abandoned s hPhase => exact leaves_givenUp (by simp [hPhase]) hEnding

end Console

/-- A run that has come to its end leaves a phase that fits the ending. -/
theorem Conversation.leaves_runFor {c : Conversation} {turns : Nat} {e : Ending}
    (hEnding : (c.runFor turns).ending = e) (h : e ≠ .pending) :
    e.Leaves (c.runFor turns).next.console.phase := by
  induction turns generalizing c with
  | zero => exact absurd hEnding.symm h
  | succ n ih =>
    cases hTurn : c.turn.ending with
    -- the ending is that of the last turn, and `Step.leaves` is about it
    | some e' =>
      have hStep := c.turn_step
      rw [hTurn] at hStep
      rw [runFor_succ_of_ending hTurn] at hEnding ⊢
      obtain rfl : e' = e := hEnding
      exact hStep.leaves
    | none =>
      rw [runFor_succ_of_none hTurn] at hEnding ⊢
      exact ih hEnding

/-! ## Several runs -/

/-- One run of a console: its surroundings, and the number of turns after which
it is given up if it has not ended by then. -/
structure Sitting where
  /-- What is typed, and what waits and the output meet. -/
  terminal : Terminal
  /-- What the service answers. -/
  service : Service
  /-- The number of turns. -/
  turns : Nat

namespace Console

/-- The console in the surroundings of a sitting. -/
def within (k : Console) (s : Sitting) : Conversation :=
  ⟨k.withService s.service, s.terminal⟩

/-- The run of a sitting. -/
def sit (k : Console) (s : Sitting) : Conversation.Run :=
  (k.within s).runFor s.turns

/-- What is seen of a sitting. -/
def sittingLog (k : Console) (s : Sitting) : List Entry :=
  (k.within s).log s.turns

/-- The console after some sittings. -/
def after (k : Console) : List Sitting → Console
  | [] => k
  | s :: rest => after (k.sit s).next.console rest

/-- What is seen of some sittings. -/
def history (k : Console) : List Sitting → List Entry
  | [] => []
  | s :: rest => k.sittingLog s ++ history (k.sit s).next.console rest

/-- What every step keeps, whatever the service answers, a sitting keeps. -/
theorem sit_induction {P : List Entry → Console → Prop}
    (hService : ∀ {log k}, P log k → ∀ s : Service, P log (k.withService s))
    (hStep : ∀ {before k entries k' ending}, P before k → Step k entries k' ending →
      P (before ++ entries) k')
    (s : Sitting) {k : Console} (before : List Entry) (h : P before k) :
    P (before ++ k.sittingLog s) (k.sit s).next.console := by
  obtain ⟨_, hAfter, -⟩ := Conversation.runFor_induction (P := fun log k _ => P log k)
    (fun hBefore hNext => hStep hBefore hNext) s.turns (c := k.within s) before
    (hService h s.service)
  exact hAfter

/-- What every sitting keeps holds of every history. -/
theorem history_induction {P : List Entry → Console → Prop}
    (hSit : ∀ {before k}, P before k → ∀ s : Sitting,
      P (before ++ k.sittingLog s) (k.sit s).next.console)
    (sittings : List Sitting) {k : Console} (before : List Entry) (h : P before k) :
    P (before ++ k.history sittings) (k.after sittings) := by
  induction sittings generalizing k before with
  | nil => simpa [history, after] using h
  | cons s rest ih =>
    rw [history, after, ← List.append_assoc]
    exact ih _ (hSit h s)

end Console

namespace Conversation

/-- So many runs in a row, as sittings: each begins with what the one before has
left over. -/
def sittings (c : Conversation) : Nat → List Sitting
  | 0 => []
  | n + 1 => ⟨c.terminal, c.console.client.service, c.turnsNeeded⟩ :: sittings c.run.next n

/-- Runs in a row are a history: what is said of histories is said of them. -/
theorem event_history_sittings (c : Conversation) (n : Nat) :
    (c.console.history (c.sittings n)).map Entry.event = (c.runs n).flatMap (·.events) := by
  induction n generalizing c with
  | zero => rfl
  | succ n ih =>
    have hSit : c.console.sit ⟨c.terminal, c.console.client.service, c.turnsNeeded⟩ = c.run := rfl
    have hLog : (c.console.sittingLog ⟨c.terminal, c.console.client.service, c.turnsNeeded⟩).map
        Entry.event = c.run.events := Entry.map_event_ofEvents _ _
    rw [sittings, runs, Console.history, List.map_append, hSit, hLog, ih, List.flatMap_cons]

end Conversation

end RemoteConsole
