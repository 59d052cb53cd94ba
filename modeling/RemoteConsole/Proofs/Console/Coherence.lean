import RemoteConsole.Proofs.Console.Sitting

/-!
# Only finished statements are sent

The phase of a console and its buffer are changed apart from each other, and a
turn may fail between the two changes. `Console.Coherent` says how far they
still belong together: what waits to be sent is a finished statement other than
the exit command, and before a first line nothing is kept. Every step keeps it,
also the ones that fail, since what fails has emptied the buffer before and an
empty buffer is no unfinished statement.

* `Console.Coherent` — the phase and the buffer belong together.
* `Console.Coherent.step` — every step keeps them so.
* `Console.request_complete` — over all runs of a console, every request
  evaluates a finished statement other than the exit command.
-/

namespace RemoteConsole

open Statement (classify)

namespace Console

/-- A new console on a session. -/
def start (session : SessionId) (prompts : Prompts) (client : Client) : Console :=
  { session := session, prompts := prompts, client := client }

/-- The phase and the buffer of a console belong together. -/
structure Coherent (k : Console) : Prop where
  /-- Lines are judged as an interactive console does. -/
  mode : k.buffer.mode = .interactive
  /-- Nothing is kept before a first line. -/
  firstLine : k.phase = .firstLine → k.buffer.lines = []
  /-- What is to be continued is unfinished. The buffer is empty after a notice
  that was not written. -/
  continuation : k.phase = .continuation → k.buffer.lines = [] ∨ k.buffer.verdict = .incomplete
  /-- What is to be sent is finished, and it is not the exit command. -/
  dispatching : k.phase = .dispatching →
    k.buffer.verdict = .complete ∧ k.buffer.text ≠ exitCommand.toList
  /-- Nothing is kept when the client has been closed. -/
  closed : k.phase = .closed → k.buffer.lines = []

theorem coherent_start (session : SessionId) (prompts : Prompts) (client : Client) :
    (start session prompts client).Coherent where
  mode := rfl
  firstLine _ := rfl
  continuation h := by simp [start] at h
  dispatching h := by simp [start] at h
  closed h := by simp [start] at h

theorem Coherent.withService {k : Console} (h : k.Coherent) (s : Service) :
    (k.withService s).Coherent where
  mode := h.mode
  firstLine := h.firstLine
  continuation := h.continuation
  dispatching := h.dispatching
  closed := h.closed

/-- With an empty buffer every phase is coherent: an empty text is a finished
statement. -/
theorem coherent_of_lines_eq_nil {k : Console} (hMode : k.buffer.mode = .interactive)
    (hLines : k.buffer.lines = []) : k.Coherent where
  mode := hMode
  firstLine _ := hLines
  continuation _ := .inl hLines
  dispatching _ := by
    unfold Statement.Buffer.verdict Statement.Buffer.text
    rw [hMode, hLines]
    decide
  closed _ := hLines

/-- Every step keeps a console coherent. Those that empty the buffer leave it
for a first line or for the end; the two that fill it come with the verdict that
the new phase asks for. -/
theorem Coherent.step {k k' : Console} {log : List Entry} {ending : Option Ending}
    (hStep : Step k log k' ending) (h : k.Coherent) : k'.Coherent := by
  cases hStep with
  -- these leave mode, buffer and phase alone
  | stopped | unread | finished | skipped => exact h
  -- the new phase comes with the verdict that `Coherent` asks of it
  | extended _ _ hVerdict =>
    exact {
      mode := h.mode
      firstLine := by simp
      continuation := fun _ => .inr hVerdict
      dispatching := by simp
      closed := by simp }
  | completed _ _ hVerdict hExit =>
    exact {
      mode := h.mode
      firstLine := by simp
      continuation := by simp
      dispatching := fun _ => ⟨hVerdict, hExit⟩
      closed := by simp }
  -- all others have emptied the buffer
  | interrupted | exited | barred | rejected | answered | failed | unanswered | unwatched
    | abandoned | refused => exact coherent_of_lines_eq_nil h.mode rfl

theorem Step.session_eq {k k' : Console} {log : List Entry} {ending : Option Ending}
    (hStep : Step k log k' ending) : k'.session = k.session := by
  cases hStep <;> rfl

/-- The requests of a step are evaluations of the buffer. -/
theorem Step.request_eq {k k' : Console} {log : List Entry} {ending : Option Ending}
    (hStep : Step k log k' ending) {r : Request} (hr : Entry.request r ∈ log) :
    k.phase = .dispatching ∧ k.client.isClosed = false ∧ r = k.evaluation := by
  cases hStep with
  | stopped | unread | skipped | extended | completed | exited | barred | refused => simp at hr
  | finished _ hSaid | interrupted _ hSaid | rejected _ _ _ hSaid =>
    simp [hSaid.request_not_mem] at hr
  | answered _ h hOpen hSaid | abandoned _ h hOpen hSaid =>
    simp [hSaid.request_not_mem] at hr
    exact ⟨h, hOpen, hr⟩
  | failed _ h hOpen | unanswered _ h hOpen | unwatched _ h hOpen =>
    simp at hr
    exact ⟨h, hOpen, hr⟩

/-- A request evaluates a finished statement in a session. -/
def EvaluatesFinished (session : SessionId) (r : Request) : Prop :=
  ∃ code : String, r = ⟨.put, Route.session session, some code⟩ ∧
    classify .interactive code.toList = .complete ∧ code ≠ exitCommand

/-- A coherent console sends finished statements. -/
theorem Coherent.evaluatesFinished {k : Console} (h : k.Coherent)
    (hPhase : k.phase = .dispatching) : EvaluatesFinished k.session k.evaluation := by
  obtain ⟨hVerdict, hExit⟩ := h.dispatching hPhase
  refine ⟨String.ofList k.buffer.text, rfl, ?_, ?_⟩
  · rw [String.toList_ofList, ← h.mode]
    exact hVerdict
  · intro hCode
    rw [← hCode, String.toList_ofList] at hExit
    exact hExit rfl

/-- What has been sent up to now is finished statements, and the console is
coherent. -/
structure SendsFinished (session : SessionId) (log : List Entry) (k : Console) : Prop where
  session_eq : k.session = session
  coherent : k.Coherent
  finished : ∀ r, Entry.request r ∈ log → EvaluatesFinished session r

theorem SendsFinished.step {session : SessionId} {before entries : List Entry} {k k' : Console}
    {ending : Option Ending} (h : SendsFinished session before k)
    (hStep : Step k entries k' ending) : SendsFinished session (before ++ entries) k' where
  session_eq := hStep.session_eq.trans h.session_eq
  coherent := h.coherent.step hStep
  finished := by
    intro r hr
    rcases List.mem_append.mp hr with hr | hr
    · exact h.finished r hr
    · -- what is sent now has been finished by an earlier line
      obtain ⟨hPhase, -, rfl⟩ := hStep.request_eq hr
      exact h.session_eq ▸ h.coherent.evaluatesFinished hPhase

theorem SendsFinished.sit {session : SessionId} {before : List Entry} {k : Console}
    (h : SendsFinished session before k) (s : Sitting) :
    SendsFinished session (before ++ k.sittingLog s) (k.sit s).next.console := by
  have hWithin : SendsFinished session before (k.within s).console :=
    ⟨h.session_eq, h.coherent.withService _, h.finished⟩
  obtain ⟨_, hAfter, -⟩ := Conversation.runFor_induction
    (P := fun log k _ => SendsFinished session log k) (fun h hStep => h.step hStep) s.turns
    before hWithin
  exact hAfter

/-- **Only finished statements are sent.** Whatever is typed, answered and
interrupted, wherever the output fails, and however many runs there are and
however they end, every request of a console puts to its session a text that an
interactive console takes for a finished statement, and never the exit
command. -/
theorem request_complete (session : SessionId) (prompts : Prompts) (client : Client)
    (sittings : List Sitting) (r : Request)
    (hr : Entry.request r ∈ (start session prompts client).history sittings) :
    ∃ code : String, r = ⟨.put, Route.session session, some code⟩ ∧
      classify .interactive code.toList = .complete ∧ code ≠ exitCommand := by
  have hStart : SendsFinished session [] (start session prompts client) :=
    ⟨rfl, coherent_start _ _ _, by simp⟩
  have hEnd := history_induction (fun h s => h.sit s) sittings [] hStart
  exact hEnd.finished r (by simpa using hr)

/-- Two lines typed in a first sitting, with a blank one behind them, are sent
as one statement. -/
theorem request_complete_of_block :
    let session : SessionId := ⟨1, by decide, by decide⟩
    let client : Client := { endpoint := ⟨fun p => p, ""⟩, service := ⟨[], .silence⟩ }
    let typed : Terminal := { inputs := [.line "if x:\r", .line " y", .line "\n"] }
    let r : Request := ⟨.put, Route.session session, some "if x:\n y\n"⟩
    Entry.request r ∈ (start session {} client).history
        [⟨typed, ⟨[.response { status := 200, body := [0x31] }], .silence⟩, 9⟩] ∧
      ∃ code : String, r = ⟨.put, Route.session session, some code⟩ ∧
        classify .interactive code.toList = .complete ∧ code ≠ exitCommand := by
  intro session client typed r
  have hSent : Entry.request r ∈ (start session {} client).history
      [⟨typed, ⟨[.response { status := 200, body := [0x31] }], .silence⟩, 9⟩] := by decide +kernel
  exact ⟨hSent, request_complete session {} client _ r hSent⟩

end Console

end RemoteConsole
