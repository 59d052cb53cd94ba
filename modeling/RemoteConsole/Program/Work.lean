import RemoteConsole.CommandLine.Invocation
import RemoteConsole.Console.Loop
import RemoteConsole.Program.Failure
import RemoteConsole.Session.Table

/-!
# The work

With its settings known, the program either lists the sessions or attaches to
one and opens a console on it.

* `Client.attach` — the request that comes before a console.
* `Work` — what is done, and how it ends.
* `Purpose.work` — the work for a purpose.
-/

namespace RemoteConsole

/-- How work ends. -/
inductive Completion where
  /-- All is done. -/
  | done
  /-- Something could not be done. -/
  | failed (f : Failure)
  /-- A request is never answered. -/
  | unanswered
  deriving DecidableEq, Repr

/-- What is done. -/
structure Work where
  /-- What is seen of it. -/
  events : List Event
  /-- What goes over connections. -/
  legs : List Leg
  /-- The warnings on the way. -/
  warnings : List Warning
  /-- How it ends. -/
  completion : Completion

/-! ## Listing -/

/-- A listing as it is printed. -/
def Listing.printed (l : Listing) (json : Bool) : String :=
  if json then l.text ++ "\n" else l.table

/-- Lists the sessions. -/
def Client.printList (c : Client) (json : Bool) : Work :=
  let call := c.list
  let requests := call.requests.map Event.request
  match call.outcome with
  | .ok found =>
    -- without a listing the warning is all that is shown
    let text := (found.map (·.printed json)).getD ""
    { events := requests ++ Event.written (Utf8.encode text.toList)
      legs := call.legs
      warnings := call.warnings
      completion := .done }
  | .error e =>
    { events := requests
      legs := call.legs
      warnings := call.warnings
      completion := .failed ⟨"Failed to list sessions", some e.message⟩ }
  | .pending =>
    { events := requests
      legs := call.legs
      warnings := call.warnings
      completion := .unanswered }

/-! ## Talking -/

namespace Target

/-- What could not be done when a session is not reached. -/
def title : Target → String
  | existing id => "Failed to bind to session " ++ id.text
  | fresh => "Failed to create session"

end Target

/-- Reaches a session. -/
def Client.attach (c : Client) : Target → Call (Option SessionId)
  | .existing id => c.bind id
  | .fresh => c.create

/-- The failure of a service that gives no session. -/
def refusal : Failure :=
  ⟨"The server refused the session request", none⟩

/-- A run of the console that failed. A failed call is its own report. -/
def ConsoleError.failure (e : ConsoleError) : Failure where
  message := e.message
  cause :=
    match e with
    -- the message of the call is all there is to say
    | client _ => none
    | terminal message => some message

/-- How work ends with a run of the console. -/
def Ending.completion : Ending → Completion
  | exited | endOfInput => .done
  | failed e => .failed e.failure
  | pending => .unanswered

/-- A new console on a session. -/
def Client.console (c : Client) (id : SessionId) (prompts : Prompts) : Console :=
  { session := id, prompts := prompts, client := c }

/-- Reaches a session and opens a console on it. -/
def Client.talk (c : Client) (t : Target) (prompts : Prompts) (terminal : Terminal) : Work :=
  let call := c.attach t
  let requests := call.requests.map Event.request
  match call.outcome with
  | .ok (some id) =>
    let run := Conversation.run ⟨call.client.console id prompts, terminal⟩
    { events := requests ++ run.events
      legs := call.legs ++ run.legs
      warnings := call.warnings
      completion := run.ending.completion }
  | .ok none =>
    { events := requests
      legs := call.legs
      warnings := call.warnings
      completion := .failed refusal }
  | .error e =>
    { events := requests
      legs := call.legs
      warnings := call.warnings
      completion := .failed ⟨t.title, some e.message⟩ }
  | .pending =>
    { events := requests
      legs := call.legs
      warnings := call.warnings
      completion := .unanswered }

/-- The work for a purpose. -/
def Purpose.work (p : Purpose) (c : Client) (prompts : Prompts) (terminal : Terminal) : Work :=
  match p with
  | .list json => c.printList json
  | .talk t => c.talk t prompts terminal

/-! ## One step at a time -/

/-- The first request for a purpose. -/
def Purpose.firstRequest? (p : Purpose) (c : Client) : Option Request :=
  match p with
  | .list _ => c.list.requests.head?
  | .talk t => (c.attach t).requests.head?

/-- The conversation with the session that is reached, if one is. -/
def Client.conversation? (c : Client) (t : Target) (prompts : Prompts) (terminal : Terminal) :
    Option Conversation :=
  let call := c.attach t
  match call.outcome with
  | .ok (some id) => some ⟨call.client.console id prompts, terminal⟩
  | _ => none

namespace Conversation

/-- The conversation with one reply still to come, which may be an interrupt
instead. -/
def answered (c : Conversation) (reply : Reply) : Conversation where
  console :=
    { c.console with
      client := { c.console.client with service := ⟨[reply], .silence⟩, carrier := .script } }
  terminal := { c.terminal with waits := [.interrupt] }

/-- The conversation with one act of typing still to come. -/
def typing (c : Conversation) (input : Input) : Conversation :=
  { c with terminal := { c.terminal with inputs := [input] } }

/-- The request of the next turn, if it makes one. -/
def nextRequest? (c : Conversation) : Option Request :=
  if c.console.phase = .dispatching then
    (c.answered .silence).turn.events.findSome? fun
      | .request r => some r
      | _ => none
  else none

end Conversation

/-! ## What is printed -/

/-- What an event prints. An interrupted evaluation ends the line that is being
typed. -/
def Event.printed : Event → List UInt8
  | read prompt => Utf8.encode prompt.toList
  | output bytes => bytes
  | request _ => []
  | interrupted => [10]

/-- The request of an event. -/
def Event.request? : Event → Option Request
  | request r => some r
  | _ => none

/-- All that is printed. -/
def Work.printed (w : Work) : List UInt8 :=
  w.events.flatMap Event.printed

end RemoteConsole
