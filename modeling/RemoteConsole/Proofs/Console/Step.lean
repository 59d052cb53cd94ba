import Mathlib.Data.List.TakeDrop
import RemoteConsole.Console.Loop

/-!
# Steps of a console

A turn depends on the console and on what surrounds it: the line that is typed,
the reply that comes back, an interrupt, an output that may be full.
`Console.Step` forgets the surroundings and keeps what they can do, so that a
property of all consoles needs one case for each kind of turn and never looks
into the loop again.

* `Entry`, `Entry.ofEvents` — what is seen of a console, each read together with
  what it brings.
* `Said` — the output of a text, all of it or up to where the output fails.
* `Console.Step` — what one turn can see, leave behind and end in.
* `Conversation.turn_step` — every turn is such a step.
-/

namespace RemoteConsole

open Statement (Buffer SyntaxError)

/-- What is seen of a console, with what each read brings. -/
inductive Entry where
  /-- A prompt is shown, and this is typed. -/
  | read (prompt : String) (input : Input)
  /-- Bytes are written. -/
  | output (bytes : List UInt8)
  /-- A request is made. -/
  | request (r : Request)
  /-- An evaluation under way is interrupted. -/
  | interrupted
  deriving DecidableEq, Repr

namespace Entry

/-- Events with the acts of typing that their reads bring, in order. When all is
typed, a read finds the end of input. -/
def ofEvents : List Event → List Input → List Entry
  | [], _ => []
  | .read p :: rest, inputs => read p (inputs.headD .finish) :: ofEvents rest inputs.tail
  | .output b :: rest, inputs => output b :: ofEvents rest inputs
  | .request r :: rest, inputs => request r :: ofEvents rest inputs
  | .interrupted :: rest, inputs => interrupted :: ofEvents rest inputs

/-- What is seen of an entry from outside. -/
def event : Entry → Event
  | read p _ => .read p
  | output b => .output b
  | request r => .request r
  | interrupted => .interrupted

/-- Nothing but what is typed is added to the events. -/
@[simp] theorem map_event_ofEvents (events : List Event) (inputs : List Input) :
    (ofEvents events inputs).map event = events := by
  induction events generalizing inputs with
  | nil => rfl
  | cons e rest ih => cases e <;> simp [ofEvents, event, ih]

/-- The number of reads. -/
def reads : List Entry → Nat
  | [] => 0
  | .read _ _ :: rest => reads rest + 1
  | _ :: rest => reads rest

/-- Later events are read from what the earlier ones leave over. The induction
is along the earlier ones, each read of which takes an act of typing. -/
theorem ofEvents_append (a b : List Event) (inputs : List Input) :
    ofEvents (a ++ b) inputs =
      ofEvents a inputs ++ ofEvents b (inputs.drop (reads (ofEvents a inputs))) := by
  induction a generalizing inputs with
  | nil => rfl
  | cons e rest ih => cases e <;> simp [ofEvents, reads, ih]

/-- Bytes written, if there are any. -/
def written (bytes : List UInt8) : List Entry :=
  if bytes.isEmpty then [] else [output bytes]

theorem ofEvents_written (bytes : List UInt8) (inputs : List Input) :
    ofEvents (Event.written bytes) inputs = written bytes := by
  unfold Event.written written
  split <;> rfl

theorem reads_written (bytes : List UInt8) : reads (written bytes) = 0 := by
  unfold written
  split <;> rfl

end Entry

/-- What is seen when a text is written, and the failure if there is one: all of
the bytes, unless the output has closed before the last of them. All of them may
be there and the failure come from showing them. -/
def Said (text : String) (out : List Entry) (failure : Option String) : Prop :=
  ∃ bytes, out = Entry.written bytes ∧ bytes <+: Utf8.encode text.toList ∧
    (bytes = Utf8.encode text.toList ∨ failure = some Terminal.closedOutput)

namespace Said

variable {text : String} {out : List Entry} {failure : Option String}

theorem reads_eq_zero (h : Said text out failure) : Entry.reads out = 0 := by
  obtain ⟨bytes, rfl, -, -⟩ := h
  exact Entry.reads_written bytes

theorem request_not_mem (h : Said text out failure) (r : Request) : Entry.request r ∉ out := by
  obtain ⟨bytes, rfl, -, -⟩ := h
  unfold Entry.written
  split <;> simp

/-- How a run goes on after a text is written on the way. -/
def ending (failure : Option String) : Option Ending :=
  failure.map fun message => .failed (.terminal message)

end Said

namespace Console

/-- Whether the console waits for a line. -/
def isReading (k : Console) : Prop :=
  k.phase = .firstLine ∨ k.phase = .continuation

theorem isReading.ne_closed {k : Console} (h : k.isReading) : k.phase ≠ .closed := by
  rcases h with h | h <;> simp [h]

/-- The prompt for the next line. -/
def prompt (k : Console) : String :=
  if k.phase = .firstLine then k.prompts.first else k.prompts.continuation

/-- The request that evaluates what is in the buffer. -/
def evaluation (k : Console) : Request :=
  ⟨.put, Route.session k.session, some (String.ofList k.buffer.text)⟩

/-- The console with a service of other answers. -/
def withService (k : Console) (s : Service) : Console :=
  { k with client := { k.client with service := s } }

@[simp] theorem phase_withService (k : Console) (s : Service) :
    (k.withService s).phase = k.phase := rfl

@[simp] theorem buffer_withService (k : Console) (s : Service) :
    (k.withService s).buffer = k.buffer := rfl

@[simp] theorem isClosed_withService (k : Console) (s : Service) :
    (k.withService s).client.isClosed = k.client.isClosed := rfl

/-- The console without the lines typed so far. -/
def cleared (k : Console) : Console :=
  { k with buffer := k.buffer.clear }

/-- The console after a text that gives up the statement: it goes back to the
first line if all goes well, and stays where it is if not. -/
def givenUp (k : Console) (failure : Option String) : Console :=
  { k.cleared with phase := if failure.isNone then .firstLine else k.phase }

/-- One turn of a console, in any surroundings: what is seen of it, the console
after it, and how the run ends, if it does. There is a rule for each way a turn
can go, and what the surroundings decide is left open in it: the line that is
typed, what comes back from the service, and how far the output gets. -/
inductive Step (k : Console) : List Entry → Console → Option Ending → Prop
  /-- A closed console does nothing more. -/
  | stopped (h : k.phase = .closed) : Step k [] k (some .exited)
  /-- A line cannot be read. -/
  | unread {m : String} (h : k.isReading) :
      Step k [.read k.prompt (.failure m)] k (some (.failed (.terminal m)))
  /-- Input ends, which keeps the lines typed so far. -/
  | finished {out : List Entry} {failure : Option String} (h : k.isReading)
      (hSaid : Said "\n" out failure) :
      Step k (.read k.prompt .finish :: out) k
        (some ((failure.map fun message => .failed (.terminal message)).getD .endOfInput))
  /-- The prompt is interrupted. -/
  | interrupted {out : List Entry} {failure : Option String} (h : k.isReading)
      (hSaid : Said interruptNotice out failure) :
      Step k (.read k.prompt .interrupt :: out) (k.givenUp failure) (Said.ending failure)
  /-- A blank line before a statement is skipped. -/
  | skipped {text : String} (h : k.phase = .firstLine) (hBlank : Blank.isBlankText text.toList) :
      Step k [.read k.prompt (.line text)] k none
  /-- A line leaves its statement unfinished. -/
  | extended {text : String} (h : k.isReading)
      (hTaken : k.phase = .firstLine → Blank.isBlankText text.toList = false)
      (hVerdict : (k.buffer.push text.toList).verdict = .incomplete) :
      Step k [.read k.prompt (.line text)]
        { k with buffer := k.buffer.push text.toList, phase := .continuation } none
  /-- A line finishes a statement that is to be sent. -/
  | completed {text : String} (h : k.isReading)
      (hTaken : k.phase = .firstLine → Blank.isBlankText text.toList = false)
      (hVerdict : (k.buffer.push text.toList).verdict = .complete)
      (hExit : (k.buffer.push text.toList).text ≠ exitCommand.toList) :
      Step k [.read k.prompt (.line text)]
        { k with buffer := k.buffer.push text.toList, phase := .dispatching } none
  /-- The exit command closes the client. -/
  | exited {text : String} (h : k.isReading) (hOpen : k.client.isClosed = false)
      (hTaken : k.phase = .firstLine → Blank.isBlankText text.toList = false)
      (hVerdict : (k.buffer.push text.toList).verdict = .complete)
      (hExit : (k.buffer.push text.toList).text = exitCommand.toList) :
      Step k [.read k.prompt (.line text)]
        { k.cleared with client := { k.client with isClosed := true }, phase := .closed } none
  /-- The exit command finds the client closed. -/
  | barred {text : String} (h : k.isReading) (hClosed : k.client.isClosed = true)
      (hTaken : k.phase = .firstLine → Blank.isBlankText text.toList = false)
      (hVerdict : (k.buffer.push text.toList).verdict = .complete)
      (hExit : (k.buffer.push text.toList).text = exitCommand.toList) :
      Step k [.read k.prompt (.line text)] k.cleared (some (.failed (.client .closed)))
  /-- A line shows that the statement can never be one. -/
  | rejected {text : String} {e : SyntaxError} {out : List Entry} {failure : Option String}
      (h : k.isReading)
      (hTaken : k.phase = .firstLine → Blank.isBlankText text.toList = false)
      (hVerdict : (k.buffer.push text.toList).verdict = .invalid e)
      (hSaid : Said (syntaxNotice e) out failure) :
      Step k (.read k.prompt (.line text) :: out) (k.givenUp failure) (Said.ending failure)
  /-- An evaluation is answered. -/
  | answered (s : Service) {text : String} {out : List Entry} {failure : Option String}
      (h : k.phase = .dispatching) (hOpen : k.client.isClosed = false)
      (hSaid : Said (resultNotice text) out failure) :
      Step k (.request k.evaluation :: out) ((k.withService s).givenUp failure) (Said.ending failure)
  /-- An evaluation fails. -/
  | failed (s : Service) {e : ClientError} (h : k.phase = .dispatching)
      (hOpen : k.client.isClosed = false) :
      Step k [.request k.evaluation] (k.withService s).cleared (some (.failed (.client e)))
  /-- An evaluation is never answered and nothing interrupts it. -/
  | unanswered (s : Service) (h : k.phase = .dispatching) (hOpen : k.client.isClosed = false) :
      Step k [.request k.evaluation] (k.withService s).cleared (some .pending)
  /-- Waiting for an interrupt of an evaluation fails. -/
  | unwatched (s : Service) {m : String} (h : k.phase = .dispatching)
      (hOpen : k.client.isClosed = false) :
      Step k [.request k.evaluation, .interrupted] (k.withService s).cleared
        (some (.failed (.terminal m)))
  /-- An evaluation is interrupted. -/
  | abandoned (s : Service) {out : List Entry} {failure : Option String} (h : k.phase = .dispatching)
      (hOpen : k.client.isClosed = false) (hSaid : Said interruptNotice out failure) :
      Step k (.request k.evaluation :: .interrupted :: out) ((k.withService s).givenUp failure)
        (Said.ending failure)
  /-- An evaluation finds the client closed. -/
  | refused (h : k.phase = .dispatching) (hClosed : k.client.isClosed = true) :
      Step k [] k.cleared (some (.failed (.client .closed)))

end Console

/-! ## Calls -/

/-- An open client makes the request of an evaluation, and only its service has
changed after it: it is what the journey of the request has left. -/
theorem Client.eval_of_open {c : Client} (h : c.isClosed = false) (id : SessionId) (code : String) :
    (c.eval id code).requests = [⟨.put, Route.session id, some code⟩] ∧
      (c.eval id code).client =
        { c with service := (c.journey ⟨.put, Route.session id, some code⟩).service } := by
  unfold Client.eval Client.send Call.andThen
  rw [if_neg (by simp [h])]
  dsimp only
  split <;> exact ⟨rfl, rfl⟩

/-- A closed client makes no request and stays as it is. -/
theorem Client.eval_of_closed {c : Client} (h : c.isClosed = true) (id : SessionId)
    (code : String) : c.eval id code = { outcome := .error .closed, client := c } := by
  unfold Client.eval
  rw [Client.send_of_closed h]
  rfl

/-- What is written is all of the bytes unless the output has closed before
that, and nothing that is typed is used up. -/
theorem Terminal.put_spec (t : Terminal) (bytes : List UInt8) (shown : Bool) :
    (t.put bytes shown).bytes <+: bytes ∧
      ((t.put bytes shown).bytes = bytes ∨ (t.put bytes shown).failure = some closedOutput) ∧
      (t.put bytes shown).terminal.inputs = t.inputs := by
  have hWrite : (t.write bytes).bytes <+: bytes ∧
      ((t.write bytes).bytes = bytes ∨ (t.write bytes).failure = some closedOutput) ∧
      (t.write bytes).terminal.inputs = t.inputs := by
    unfold write
    split
    · exact ⟨List.prefix_refl _, .inl rfl, rfl⟩
    · next room _ =>
      refine ⟨List.take_prefix _ _, ?_, rfl⟩
      by_cases hRoom : bytes.length ≤ room
      · exact .inl (List.take_of_length_le hRoom)
      · exact .inr (if_neg hRoom)
  -- flushing reads nothing
  have hFlush : (t.write bytes).terminal.flush.2.inputs = (t.write bytes).terminal.inputs := by
    unfold flush
    split <;> rfl
  unfold put
  dsimp only
  split
  · next hShown =>
    obtain ⟨hPrefix, hWhole, hInputs⟩ := hWrite
    -- flushing comes after all bytes have been taken
    rw [Bool.and_eq_true, Option.isNone_iff_eq_none] at hShown
    rw [hShown.2] at hWhole
    exact ⟨hPrefix, .inl (hWhole.resolve_right nofun), hFlush.trans hInputs⟩
  · exact hWrite

/-- A read takes the next act of typing, and finds the end of input when there
is none. -/
theorem Terminal.next_eq (t : Terminal) :
    t.next = (t.inputs.headD .finish, { t with inputs := t.inputs.tail }) := by
  obtain ⟨inputs, _, _, _⟩ := t
  cases inputs <;> rfl

namespace Conversation

/-! ## Turns are steps -/

/-- What is seen of a turn, with what its reads bring. -/
def turnLog (c : Conversation) : List Entry :=
  Entry.ofEvents c.turn.events c.terminal.inputs

/-- What writing a text comes to: as much of it as the output takes, a console
that has moved on if nothing has failed, and the ending that was meant unless
something has. -/
theorem said_say (c : Conversation) (text : String) (shown : Bool) (phase : Phase)
    (ending : Option Ending) (inputs : List Input) :
    ∃ failure, Said text (Entry.ofEvents (c.say text shown phase ending).events inputs) failure ∧
      (c.say text shown phase ending).next.console =
        { c.console with phase := if failure.isNone then phase else c.console.phase } ∧
      (c.say text shown phase ending).next.terminal.inputs = c.terminal.inputs ∧
      (c.say text shown phase ending).ending =
        (failure.map fun message => .failed (.terminal message)).or ending := by
  have hPut := c.terminal.put_spec (Utf8.encode text.toList) shown
  unfold say
  -- only what `put_spec` says of the write is used
  generalize c.terminal.put (Utf8.encode text.toList) shown = written at hPut
  obtain ⟨hPrefix, hWhole, hInputs⟩ := hPut
  refine ⟨written.failure, ?_⟩
  dsimp only
  cases hFailure : written.failure with
  -- the failure that `put` tells of decides the phase and the ending
  | none =>
    rw [hFailure] at hWhole
    exact ⟨⟨written.bytes, Entry.ofEvents_written _ _, hPrefix, hWhole⟩, rfl, hInputs, rfl⟩
  | some message =>
    rw [hFailure] at hWhole
    exact ⟨⟨written.bytes, Entry.ofEvents_written _ _, hPrefix, hWhole⟩, rfl, hInputs, rfl⟩

/-- The turn that gives up a statement writes a text and leaves what
`Console.givenUp` says. -/
theorem givenUp_say (k : Console) (t : Terminal) (text : String) (shown : Bool) (inputs : List Input) :
    ∃ failure, Said text
        (Entry.ofEvents (say ⟨k.cleared, t⟩ text shown .firstLine none).events inputs) failure ∧
      (say ⟨k.cleared, t⟩ text shown .firstLine none).next.console = k.givenUp failure ∧
      (say ⟨k.cleared, t⟩ text shown .firstLine none).ending = Said.ending failure := by
  obtain ⟨failure, hSaid, hNext, -, hEnding⟩ :=
    said_say ⟨k.cleared, t⟩ text shown .firstLine none inputs
  exact ⟨failure, hSaid, hNext, hEnding.trans Option.or_none⟩

/-- A line that is read makes a step. The cases are those of the loop: it is
skipped, or its verdict decides. -/
theorem accept_step (c : Conversation) (text : String) (inputs : List Input)
    (hReading : c.console.isReading) :
    Console.Step c.console
      (.read c.console.prompt (.line text) :: Entry.ofEvents (c.accept text).events inputs)
      (c.accept text).next.console (c.accept text).ending := by
  unfold accept
  split
  · next h => exact .skipped h.1 h.2
  · next h =>
    -- a line that is not skipped has content or stands within a statement
    have hTaken : c.console.phase = .firstLine → Blank.isBlankText text.toList = false :=
      fun hFirst => by simpa [hFirst] using h
    dsimp only
    split
    · next hVerdict => exact .extended hReading hTaken hVerdict
    · next hVerdict =>
      split
      · next hExit =>
        -- the exit command, whose outcome depends on the client alone
        unfold exit Client.close
        cases hClosed : c.console.client.isClosed with
        | true =>
          simp only [dropBuffer, hClosed, if_true]
          exact .barred hReading hClosed hTaken hVerdict hExit
        | false =>
          simp only [dropBuffer, hClosed, Bool.false_eq_true, if_false]
          exact .exited hReading hClosed hTaken hVerdict hExit
      · next hExit => exact .completed hReading hTaken hVerdict hExit
    · next e hVerdict =>
      obtain ⟨failure, hSaid, hNext, hEnding⟩ :=
        givenUp_say c.console c.terminal (syntaxNotice e) false inputs
      have hStep := Console.Step.rejected hReading hTaken hVerdict hSaid
      rw [← hNext, ← hEnding] at hStep
      exact hStep

/-- A turn at a prompt is a step, whatever the read brings: a line, an
interrupt, the end of what is typed, or a failure of the terminal. -/
theorem read_step (c : Conversation) (hReading : c.console.isReading) :
    Console.Step c.console (Entry.ofEvents c.read.events c.terminal.inputs) c.read.next.console
      c.read.ending := by
  obtain ⟨k, t⟩ := c
  unfold read
  rw [Terminal.next_eq]
  simp only [Entry.ofEvents]
  change Console.Step _ (.read k.prompt _ :: _) _ _
  -- the rest of what is typed matters to no outcome of the read
  cases t.inputs.headD .finish with
  | line text => exact accept_step ⟨k, { t with inputs := t.inputs.tail }⟩ text _ hReading
  | interrupt =>
    obtain ⟨failure, hSaid, hNext, hEnding⟩ := givenUp_say k { t with inputs := t.inputs.tail }
      interruptNotice false t.inputs.tail
    have hStep := Console.Step.interrupted hReading hSaid
    rw [← hNext, ← hEnding] at hStep
    exact hStep
  | finish =>
    obtain ⟨failure, hSaid, hNext, -, hEnding⟩ := said_say ⟨k, { t with inputs := t.inputs.tail }⟩ "\n"
      true k.phase (some .endOfInput) t.inputs.tail
    dsimp only
    rw [hNext, hEnding, ite_self]
    -- the console stays as it is, and the ending is the failure or the end of
    -- input
    have hStep := Console.Step.finished hReading hSaid
    cases failure <;> exact hStep
  | failure m => exact .unread hReading

/-- What follows the request of an evaluation is part of a step. -/
theorem awaitInterrupt_step {k : Console} (s : Service) (t : Terminal) (inputs : List Input)
    (hPhase : k.phase = .dispatching) (hOpen : k.client.isClosed = false) :
    Console.Step k
      (.request k.evaluation ::
        Entry.ofEvents (awaitInterrupt ⟨(k.withService s).cleared, t⟩).events inputs)
      (awaitInterrupt ⟨(k.withService s).cleared, t⟩).next.console
      (awaitInterrupt ⟨(k.withService s).cleared, t⟩).ending := by
  unfold awaitInterrupt
  split
  · exact .unanswered s hPhase hOpen
  · next t' _ =>
    dsimp only
    split
    · exact .unwatched s hPhase hOpen
    -- the notice of the interrupt gives the statement up, as at a prompt
    · obtain ⟨failure, hSaid, hNext, hEnding⟩ :=
        givenUp_say (k.withService s) t' interruptNotice false inputs
      have hStep := Console.Step.abandoned s hPhase hOpen hSaid
      rw [← hNext, ← hEnding] at hStep
      exact hStep

/-- A turn that evaluates is a step. A client that is closed refuses at once;
one that is open makes the request and empties the buffer first, and then the
outcome decides. -/
theorem dispatch_step (c : Conversation) (hPhase : c.console.phase = .dispatching)
    (inputs : List Input) :
    Console.Step c.console (Entry.ofEvents c.dispatch.events inputs) c.dispatch.next.console
      c.dispatch.ending := by
  obtain ⟨k, t⟩ := c
  unfold dispatch Buffer.take
  dsimp only
  cases hClosed : k.client.isClosed with
  | true =>
    rw [Client.eval_of_closed hClosed]
    exact .refused hPhase hClosed
  | false =>
    obtain ⟨hRequests, hClient⟩ := Client.eval_of_open hClosed k.session
      (String.ofList k.buffer.text)
    rw [hRequests, hClient]
    -- the service that the journey leaves may be any, as far as steps go
    generalize (k.client.journey _).service = s
    -- the request has been made and the buffer is empty, whatever the outcome
    -- is
    cases (k.client.eval k.session (String.ofList k.buffer.text)).outcome with
    | ok text =>
      obtain ⟨failure, hSaid, hNext, hEnding⟩ := givenUp_say (k.withService s) t (resultNotice text)
        (!Blank.isBlankText text.toList) inputs
      have hStep := Console.Step.answered s hPhase hClosed hSaid
      rw [← hNext, ← hEnding] at hStep
      exact hStep
    | error e => exact .failed s hPhase hClosed
    | pending => exact awaitInterrupt_step s t inputs hPhase hClosed

/-- Every turn is a step of its console: the phase says of which kind. -/
theorem turn_step (c : Conversation) :
    Console.Step c.console c.turnLog c.turn.next.console c.turn.ending := by
  unfold turnLog turn
  split
  · next h => exact .stopped h
  · next h => exact c.dispatch_step h _
  · next h => exact c.read_step (.inl h)
  · next h => exact c.read_step (.inr h)

/-! ## What a turn takes from what is typed -/

/-- Writing uses up nothing that is typed. -/
theorem inputs_say (c : Conversation) (text : String) (shown : Bool) (phase : Phase)
    (ending : Option Ending) :
    (c.say text shown phase ending).next.terminal.inputs = c.terminal.inputs := by
  obtain ⟨-, -, -, hInputs, -⟩ := c.said_say text shown phase ending []
  exact hInputs

/-- Taking a line uses up nothing but the line, which has been read before. -/
theorem inputs_accept (c : Conversation) (text : String) :
    (c.accept text).next.terminal.inputs = c.terminal.inputs := by
  unfold accept
  split
  · rfl
  · dsimp only
    split
    · rfl
    · split
      · unfold exit
        split <;> rfl
      · rfl
    · exact inputs_say _ _ _ _ _

/-- A turn at a prompt uses up one act of typing. -/
theorem inputs_read (c : Conversation) :
    c.read.next.terminal.inputs = c.terminal.inputs.tail := by
  unfold read
  rw [Terminal.next_eq]
  dsimp only
  split
  · exact inputs_accept _ _
  · exact inputs_say _ _ _ _ _
  · exact inputs_say _ _ _ _ _
  · rfl

/-- A turn that evaluates uses up nothing that is typed. -/
theorem inputs_dispatch (c : Conversation) :
    c.dispatch.next.terminal.inputs = c.terminal.inputs := by
  unfold dispatch
  dsimp only
  split
  · exact inputs_say _ _ _ _ _
  · rfl
  -- an interrupt is waited for among the waits, not the inputs
  · unfold awaitInterrupt Terminal.nextWait?
    dsimp only
    cases c.terminal.waits with
    | nil => rfl
    | cons wait rest =>
      cases wait with
      | interrupt => exact inputs_say _ _ _ _ _
      | failure message => rfl

end Conversation

/-- A console that waits for a line reads one, and another one reads none. This
is read off the rules of `Step`. -/
theorem Console.Step.reads_eq {k k' : Console} {log : List Entry} {ending : Option Ending}
    (h : Console.Step k log k' ending) :
    (k.isReading ∧ Entry.reads log = 1) ∨ (¬ k.isReading ∧ Entry.reads log = 0) := by
  unfold Console.isReading
  -- the entry of the read is in the rule itself; what is said besides contains
  -- none
  cases h with
  | stopped h => exact .inr ⟨by simp [h], rfl⟩
  | unread h => exact .inl ⟨h, rfl⟩
  | finished h hSaid => exact .inl ⟨h, by simp [Entry.reads, hSaid.reads_eq_zero]⟩
  | interrupted h hSaid => exact .inl ⟨h, by simp [Entry.reads, hSaid.reads_eq_zero]⟩
  | skipped h => exact .inl ⟨.inl h, rfl⟩
  | extended h => exact .inl ⟨h, rfl⟩
  | completed h => exact .inl ⟨h, rfl⟩
  | exited h => exact .inl ⟨h, rfl⟩
  | barred h => exact .inl ⟨h, rfl⟩
  | rejected h _ _ hSaid => exact .inl ⟨h, by simp [Entry.reads, hSaid.reads_eq_zero]⟩
  | answered _ h _ hSaid => exact .inr ⟨by simp [h], by simp [Entry.reads, hSaid.reads_eq_zero]⟩
  | failed _ h => exact .inr ⟨by simp [h], rfl⟩
  | unanswered _ h => exact .inr ⟨by simp [h], rfl⟩
  | unwatched _ h => exact .inr ⟨by simp [h], rfl⟩
  | abandoned _ h _ hSaid => exact .inr ⟨by simp [h], by simp [Entry.reads, hSaid.reads_eq_zero]⟩
  | refused h => exact .inr ⟨by simp [h], rfl⟩

/-- The turn of a console that waits for a line is a read. -/
theorem Conversation.turn_eq_read {c : Conversation} (hReading : c.console.isReading) :
    c.turn = c.read := by
  unfold turn
  rcases hReading with h | h <;> rw [h]

/-- What a console that waits for a line reads is the next act of typing. -/
theorem Conversation.exists_turnLog_of_isReading (c : Conversation) (hReading : c.console.isReading) :
    ∃ rest, c.turnLog = .read c.prompt (c.terminal.inputs.headD .finish) :: rest := by
  unfold turnLog
  rw [turn_eq_read hReading]
  exact ⟨_, rfl⟩

/-- A turn takes from what is typed as much as it reads. -/
theorem Conversation.inputs_turn (c : Conversation) :
    c.turn.next.terminal.inputs = c.terminal.inputs.drop (Entry.reads c.turnLog) := by
  -- a step tells how much is read, and the loop shows that this is what is
  -- taken
  rcases c.turn_step.reads_eq with ⟨hReading, hReads⟩ | ⟨hReading, hReads⟩
  · rw [hReads, turn_eq_read hReading, inputs_read, List.drop_one]
  · rw [hReads, List.drop_zero]
    unfold turn
    split
    · rfl
    · exact c.inputs_dispatch
    · next h => exact absurd (.inl h) hReading
    · next h => exact absurd (.inr h) hReading

end RemoteConsole
