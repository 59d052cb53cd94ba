import RemoteConsole.Console.Prompts
import RemoteConsole.Console.Terminal
import RemoteConsole.Statement.Buffer

/-!
# The console

The console reads lines, collects them until they form a statement, sends the
statement to its session and prints what comes back. Text that can never become
a statement is reported and dropped. Typing the exit command closes the client;
an interrupt drops what is being typed or waited for.

* `Console` — the state between two turns, `Phase` the part of it that decides
  the next turn.
* `Conversation.turn` — one turn: a line, or the evaluation of a statement.
* `Conversation.run` — turns until one of them ends the run; `Conversation.runs`
  — several runs in a row.
-/

namespace RemoteConsole

/-- Where a console stands. -/
inductive Phase where
  /-- It waits for the first line of a statement. -/
  | firstLine
  /-- It waits for another line of a statement. -/
  | continuation
  /-- It is about to send a statement. -/
  | dispatching
  /-- The exit command has closed the client. -/
  | closed
  deriving DecidableEq, Repr

/-- A console between two turns. -/
structure Console where
  /-- The session that statements are sent to. -/
  session : SessionId
  /-- The prompts. -/
  prompts : Prompts
  /-- The client that sends them. -/
  client : Client
  /-- The lines of the statement being typed. -/
  buffer : Statement.Buffer := { mode := .interactive }
  /-- Where the console stands. -/
  phase : Phase := .firstLine

/-- Why a run ended early. -/
inductive ConsoleError where
  /-- A call failed. -/
  | client (e : ClientError)
  /-- Reading, writing or waiting failed. -/
  | terminal (message : String)
  deriving DecidableEq, Repr

/-- The report on a run that ended early. -/
def ConsoleError.message : ConsoleError → String
  | client e => e.message
  | terminal message => "console I/O failed: " ++ message

/-- How a run ended. -/
inductive Ending where
  /-- The exit command was typed. -/
  | exited
  /-- Input ended; the client is still open. -/
  | endOfInput
  /-- Something failed. -/
  | failed (e : ConsoleError)
  /-- An evaluation is never answered and nothing interrupts it. -/
  | pending
  deriving DecidableEq, Repr

/-- A console and what surrounds it. -/
structure Conversation where
  console : Console
  terminal : Terminal

/-- What one turn comes to. -/
structure Turn where
  /-- What is seen of it. -/
  events : List Event
  /-- What goes over connections. -/
  legs : List Leg := []
  /-- The conversation after it. -/
  next : Conversation
  /-- How the run ends, if it does. -/
  ending : Option Ending

/-- The text that closes the client. -/
def exitCommand : String := "exit()"

/-- What the interrupt of a statement is answered with. -/
def interruptNotice : String := "KeyboardInterrupt\n"

/-- The report on text that can never become a statement. -/
def syntaxNotice (e : Statement.SyntaxError) : String :=
  "SyntaxError: " ++ e.display ++ "\n"

/-- What is printed of an evaluation's text: nothing if it is blank, and always
whole lines. -/
def resultNotice (text : String) : String :=
  if Blank.isBlankText text.toList then ""
  else if text.toList.getLast? = some '\n' then text
  else text ++ "\n"

/-- What the failure of a write is reported as. -/
def outputClosed : ConsoleError := .terminal Terminal.closedOutput

namespace Conversation

/-- The prompt for the next line. -/
def prompt (c : Conversation) : String :=
  if c.console.phase = .firstLine then c.console.prompts.first
  else c.console.prompts.continuation

/-- Writes a text and, where it is asked for, shows it, and goes on to a phase
unless that fails. -/
def say (c : Conversation) (text : String) (shown : Bool) (phase : Phase) (ending : Option Ending) :
    Turn :=
  let written := c.terminal.put (Utf8.encode text.toList) shown
  match written.failure with
  | none =>
    { events := Event.written written.bytes
      next := { console := { c.console with phase := phase }, terminal := written.terminal }
      ending := ending }
  -- the console stays in its phase, whatever has been written
  | some message =>
    { events := Event.written written.bytes
      next := { console := c.console, terminal := written.terminal }
      ending := some (.failed (.terminal message)) }

/-- Drops the lines typed so far. -/
def dropBuffer (c : Conversation) : Conversation :=
  { c with console := { c.console with buffer := c.console.buffer.clear } }

/-- Goes on to a phase. -/
def enter (c : Conversation) (phase : Phase) : Turn :=
  { events := []
    next := { c with console := { c.console with phase := phase } }
    ending := none }

/-- The exit command: closes the client. -/
def exit (c : Conversation) : Turn :=
  match c.console.client.close with
  | .error e => { events := [], next := c, ending := some (.failed (.client e)) }
  | .ok client =>
    { events := []
      next := { c with console := { c.console with client := client, phase := .closed } }
      ending := none }

/-- Takes in a typed line. Blank lines before a statement are skipped. -/
def accept (c : Conversation) (text : String) : Turn :=
  if c.console.phase = .firstLine ∧ Blank.isBlankText text.toList then
    { events := [], next := c, ending := none }
  else
    let buffer := c.console.buffer.push text.toList
    let c := { c with console := { c.console with buffer := buffer } }
    -- from here on the line belongs to a statement
    match buffer.verdict with
    | .incomplete => c.enter .continuation
    | .complete =>
      -- the command is never sent; it has to stand alone, with nothing around
      -- it
      if buffer.text = exitCommand.toList then c.dropBuffer.exit else c.enter .dispatching
    | .invalid e => c.dropBuffer.say (syntaxNotice e) false .firstLine none

/-- Reads a line. -/
def read (c : Conversation) : Turn :=
  let (input, terminal) := c.terminal.next
  let after := { c with terminal := terminal }
  let turn : Turn := match input with
    | .line text => after.accept text
    | .interrupt => after.dropBuffer.say interruptNotice false .firstLine none
    -- the prompt is left on a line of its own, and the lines typed so far are
    -- kept
    | .finish => after.say "\n" true after.console.phase (some .endOfInput)
    | .failure message =>
      { events := [], next := after, ending := some (.failed (.terminal message)) }
  { turn with events := .read c.prompt :: turn.events }

/-- Waits for an interrupt of an evaluation that is never answered. -/
def awaitInterrupt (c : Conversation) : Turn :=
  match c.terminal.nextWait? with
  | none => { events := [], next := c, ending := some .pending }
  | some (wait, terminal) =>
    let c := { c with terminal := terminal }
    let turn : Turn := match wait with
      | .failure message =>
        { events := [], next := c, ending := some (.failed (.terminal message)) }
      -- the session may still be busy; only the waiting ends
      | .interrupt => c.say interruptNotice false .firstLine none
    { turn with events := .interrupted :: turn.events }

/-- Prints the answer to a statement. A blank one prints nothing, and there is
nothing to show. -/
def answer (c : Conversation) (text : String) : Turn :=
  c.say (resultNotice text) (!Blank.isBlankText text.toList) .firstLine none

/-- Sends the statement and prints what comes back. -/
def dispatch (c : Conversation) : Turn :=
  -- the buffer is empty before the reply comes, whatever the reply is
  let (code, buffer) := c.console.buffer.take
  let call := c.console.client.eval c.console.session (String.ofList code)
  let c := { c with console := { c.console with buffer := buffer, client := call.client } }
  let turn : Turn := match call.outcome with
    | .ok text => c.answer text
    | .error e => { events := [], next := c, ending := some (.failed (.client e)) }
    | .pending => c.awaitInterrupt
  { turn with events := call.requests.map .request ++ turn.events, legs := call.legs }

/-- One turn. -/
def turn (c : Conversation) : Turn :=
  match c.console.phase with
  | .closed => { events := [], next := c, ending := some .exited }
  | .dispatching => c.dispatch
  | .firstLine | .continuation => c.read

/-! ## Runs -/

/-- What a run comes to. -/
structure Run where
  /-- What is seen of it. -/
  events : List Event
  /-- What goes over connections. -/
  legs : List Leg := []
  /-- The conversation after it. -/
  next : Conversation
  /-- How it ended. -/
  ending : Ending

/-- At most so many turns. -/
def runFor (c : Conversation) : Nat → Run
  | 0 => { events := [], next := c, ending := .pending }
  | fuel + 1 =>
    let turn := c.turn
    match turn.ending with
    | some ending =>
      { events := turn.events, legs := turn.legs, next := turn.next, ending := ending }
    | none =>
      let run := runFor turn.next fuel
      { run with events := turn.events ++ run.events, legs := turn.legs ++ run.legs }

/-- The number of turns that suffices: every line takes one turn for itself and
at most one for its evaluation. -/
def turnsNeeded (c : Conversation) : Nat :=
  2 * c.terminal.inputs.length + 3

/-- Turns until one of them ends the run. -/
def run (c : Conversation) : Run :=
  c.runFor c.turnsNeeded

/-- So many runs in a row. -/
def runs (c : Conversation) : Nat → List Run
  | 0 => []
  | n + 1 => c.run :: runs c.run.next n

end Conversation

end RemoteConsole
