import RemoteConsole.Proofs.Console.Coherence

/-!
# Every statement begins anew

A console that waits for the first line of a statement is a new console:
whatever has been typed, sent, reported, interrupted or failed before, all that
is left of it are the replies that are still to come. So nothing of a statement
can be seen in what becomes of the next one.

* `Console.Descends` — what a console keeps of the one that it once was.
* `Console.Descends.eq_start` — before a first line, nothing else is left.
* `Conversation.runFor_add` — a run that stands before a first line goes on as a
  run of its own.
* `Console.goes_on_anew` — from any first line on, a console does what a new one
  does.
-/

namespace RemoteConsole

namespace Console

/-! ## What a console keeps -/

theorem Step.prompts_eq {k k' : Console} {log : List Entry} {ending : Option Ending}
    (hStep : Step k log k' ending) : k'.prompts = k.prompts := by
  cases hStep <;> rfl

/-- A closed console can only stop. -/
theorem Step.of_closed {k k' : Console} {log : List Entry} {ending : Option Ending}
    (hStep : Step k log k' ending) (h : k.phase = .closed) :
    log = [] ∧ k' = k ∧ ending = some .exited := by
  cases hStep with
  | stopped => exact ⟨rfl, rfl, rfl⟩
  | unread hReading | finished hReading | interrupted hReading | extended hReading
    | completed hReading | exited hReading | barred hReading | rejected hReading =>
    exact absurd h hReading.ne_closed
  | skipped hPhase | answered _ hPhase | failed _ hPhase | unanswered _ hPhase
    | unwatched _ hPhase | abandoned _ hPhase | refused hPhase => simp [h] at hPhase

/-- The client loses replies, and apart from that only the exit command changes
it. -/
theorem Step.client_eq {k k' : Console} {log : List Entry} {ending : Option Ending}
    (hStep : Step k log k' ending) (h : k'.phase ≠ .closed) :
    k'.client = { k.client with service := k'.client.service } := by
  cases hStep with
  | exited => simp at h
  | stopped | unread | finished | interrupted | skipped | extended | completed | barred | rejected
    | answered | failed | unanswered | unwatched | abandoned | refused => rfl

/-- What a console keeps of the new console that it once was. -/
structure Descends (session : SessionId) (prompts : Prompts) (client : Client) (k : Console) :
    Prop where
  session_eq : k.session = session
  prompts_eq : k.prompts = prompts
  coherent : k.Coherent
  /-- Until the exit command closes it, the client is the same but for the
  replies it has had. -/
  client_eq : k.phase ≠ .closed → k.client = { client with service := k.client.service }

variable {session : SessionId} {prompts : Prompts} {client : Client} {k k' : Console}

theorem descends_start (session : SessionId) (prompts : Prompts) (client : Client) :
    Descends session prompts client (start session prompts client) :=
  ⟨rfl, rfl, coherent_start _ _ _, fun _ => rfl⟩

theorem Descends.withService (h : Descends session prompts client k) (s : Service) :
    Descends session prompts client (k.withService s) where
  session_eq := h.session_eq
  prompts_eq := h.prompts_eq
  coherent := h.coherent.withService s
  client_eq hPhase := by
    have hClient := h.client_eq hPhase
    unfold Console.withService
    rw [hClient]

theorem Descends.step {log : List Entry} {ending : Option Ending}
    (hStep : Step k log k' ending) (h : Descends session prompts client k) :
    Descends session prompts client k' where
  session_eq := hStep.session_eq.trans h.session_eq
  prompts_eq := hStep.prompts_eq.trans h.prompts_eq
  coherent := h.coherent.step hStep
  client_eq hPhase := by
    have hBefore : k.phase ≠ .closed := by
      intro hClosed
      obtain ⟨-, rfl, -⟩ := hStep.of_closed hClosed
      exact hPhase hClosed
    rw [hStep.client_eq hPhase, h.client_eq hBefore]

/-- **A console before a first line is a new one.** -/
theorem Descends.eq_start (h : Descends session prompts client k) (hPhase : k.phase = .firstLine) :
    k = start session prompts { client with service := k.client.service } := by
  have hClient := h.client_eq (by simp [hPhase])
  have hBuffer : k.buffer = { mode := .interactive } := by
    have hMode := h.coherent.mode
    have hLines := h.coherent.firstLine hPhase
    generalize k.buffer = buffer at hMode hLines
    obtain ⟨mode, lines⟩ := buffer
    cases hMode
    cases hLines
    rfl
  rw [← hClient, start, ← h.session_eq, ← h.prompts_eq, ← hBuffer, ← hPhase]

theorem Descends.sit (h : Descends session prompts client k) (s : Sitting) :
    Descends session prompts client (k.sit s).next.console :=
  sit_induction (P := fun _ k => Descends session prompts client k)
    (fun h s => h.withService s) (fun h hStep => h.step hStep) s [] h

theorem Descends.after (h : Descends session prompts client k) (sittings : List Sitting) :
    Descends session prompts client (k.after sittings) :=
  history_induction (P := fun _ k => Descends session prompts client k)
    (fun h s => h.sit s) sittings [] h

end Console

/-! ## Going on -/

namespace Conversation

/-- A run that stands before a first line, and has not come to its end there,
goes on as a run from there does. -/
theorem runFor_add {c : Conversation} {n : Nat} (hEnding : (c.runFor n).ending = .pending)
    (hPhase : (c.runFor n).next.console.phase = .firstLine) (m : Nat) :
    c.runFor (n + m) =
      { (c.runFor n).next.runFor m with
        events := (c.runFor n).events ++ ((c.runFor n).next.runFor m).events
        legs := (c.runFor n).legs ++ ((c.runFor n).next.runFor m).legs } := by
  induction n generalizing c with
  | zero => simp [runFor]
  | succ n ih =>
    cases hTurn : c.turn.ending with
    | some e =>
      -- the run has come to an end, and not before a first line
      rw [runFor_succ_of_ending hTurn] at hEnding hPhase
      obtain rfl : e = .pending := hEnding
      have hStep := c.turn_step
      rw [hTurn] at hStep
      have hDispatching : c.turn.next.console.phase = .dispatching := hStep.leaves
      rw [hDispatching] at hPhase
      cases hPhase
    -- the first turn is common to both, and the induction hypothesis is about
    -- what follows it
    | none =>
      rw [runFor_succ_of_none hTurn] at hEnding hPhase
      rw [Nat.add_right_comm, runFor_succ_of_none hTurn, runFor_succ_of_none hTurn,
        ih hEnding hPhase]
      simp

/-- So does the whole run. -/
theorem run_eq_of_firstLine {c : Conversation} {n : Nat} (hEnding : (c.runFor n).ending = .pending)
    (hPhase : (c.runFor n).next.console.phase = .firstLine) :
    c.run =
      { (c.runFor n).next.run with
        events := (c.runFor n).events ++ (c.runFor n).next.run.events
        legs := (c.runFor n).legs ++ (c.runFor n).next.run.legs } := by
  -- as many more turns as either run needs
  have hRun := runFor_add hEnding hPhase (c.turnsNeeded + (c.runFor n).next.turnsNeeded)
  rw [runFor_eq_run (by omega), runFor_eq_run (c := (c.runFor n).next) (by omega)] at hRun
  exact hRun

end Conversation

namespace Console

/-- **Nothing leaks from one statement to the next.** After whatever a console
has gone through, in any number of runs of any length and the first turns of a
further one, let it stand before a first line. Then it is, with all that
surrounds it, a new console on the same session; what the run still does, if it
has not ended, is what a run of the new console does, and so are all later runs,
in whatever surroundings. -/
theorem goes_on_anew (session : SessionId) (prompts : Prompts) (client : Client)
    (sittings : List Sitting) (s : Sitting) :
    let c := ((start session prompts client).after sittings).within s
    let done := c.runFor s.turns
    let new := start session prompts { client with service := done.next.console.client.service }
    let anew : Conversation := ⟨new, done.next.terminal⟩
    done.next.console.phase = .firstLine →
      done.next = anew ∧
      (done.ending = .pending →
        c.run = { anew.run with
          events := done.events ++ anew.run.events
          legs := done.legs ++ anew.run.legs } ∧
        ∀ turns, c.runFor (s.turns + turns) =
          { anew.runFor turns with
            events := done.events ++ (anew.runFor turns).events
            legs := done.legs ++ (anew.runFor turns).legs }) ∧
      (∀ n, done.next.runs n = anew.runs n) ∧
      ∀ later : List Sitting, done.next.console.history later = new.history later ∧
        done.next.console.after later = new.after later := by
  intro c done new anew hPhase
  -- whatever has happened, the console descends from the first one, and before
  -- a first line that determines all of it but the service
  have hDescends : Descends session prompts client done.next.console :=
    ((descends_start session prompts client).after sittings).sit s
  have hNew : done.next.console = new := hDescends.eq_start hPhase
  have hAnew : done.next = anew := by
    change (⟨done.next.console, done.next.terminal⟩ : Conversation) = anew
    rw [hNew]
  refine ⟨hAnew, fun hEnding => ⟨?_, fun turns => ?_⟩, fun n => by rw [hAnew],
    fun later => by rw [hNew]; exact ⟨rfl, rfl⟩⟩
  · rw [← hAnew]
    exact Conversation.run_eq_of_firstLine hEnding hPhase
  · rw [← hAnew]
    exact Conversation.runFor_add hEnding hPhase turns

/-- A block is begun and input ends; in the next run it is interrupted, and the
number typed then is all that the run sends. -/
theorem goes_on_anew_after_interrupt :
    let session : SessionId := ⟨1, by decide, by decide⟩
    let client : Client := { endpoint := ⟨fun p => p, ""⟩, service := ⟨[], .silence⟩ }
    let first : Sitting := ⟨{ inputs := [.line "if x:", .line " y"] }, ⟨[], .silence⟩, 9⟩
    let s : Sitting :=
      ⟨{ inputs := [.interrupt, .line "1"] }, ⟨[.response { status := 200, body := [0x31] }], .silence⟩, 1⟩
    let c := ((start session {} client).after [first]).within s
    let anew : Conversation :=
      ⟨start session {} { client with service := s.service }, { inputs := [.line "1"] }⟩
    (c.runFor s.turns).next.console.phase = .firstLine ∧
      c.run.events = (c.runFor s.turns).events ++ anew.run.events := by
  intro session client first s c anew
  let done := c.runFor s.turns
  -- the part of the run that has been done is evaluated; the theorem tells the
  -- rest
  have hPhase : done.next.console.phase = .firstLine := by decide +kernel
  have hEnding : done.ending = .pending := by decide +kernel
  have hService : done.next.console.client.service = s.service := by decide +kernel
  have hTerminal : done.next.terminal = { inputs := [.line "1"] } := by decide +kernel
  have hRun : c.run.events = done.events ++ (⟨start session {}
      { client with service := done.next.console.client.service }, done.next.terminal⟩ :
        Conversation).run.events :=
    congrArg (·.events) ((goes_on_anew session {} client [first] s hPhase).2.1 hEnding).1
  rw [hService, hTerminal] at hRun
  exact ⟨hPhase, hRun⟩

end Console

end RemoteConsole
