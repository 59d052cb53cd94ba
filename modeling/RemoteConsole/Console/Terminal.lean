import RemoteConsole.Service.Client

/-!
# The terminal

What surrounds a console: the lines that are typed, the interrupts that come
while an evaluation is under way, and an output that may stop taking bytes or
fail to show them.

* `Input` — one act of typing; `Wait` — what waiting for an interrupt comes to.
* `Terminal` — all that is still to come; `Terminal.next` is the next act,
  `Terminal.write` the effect of writing, `Terminal.flush` of flushing what is
  written, `Terminal.put` of both.
* `Event` — what can be seen from outside; `Event.joined` puts adjacent output
  together.
-/

namespace RemoteConsole

/-- One act of typing. -/
inductive Input where
  /-- A line of text. -/
  | line (text : String)
  /-- An interrupt at the prompt. -/
  | interrupt
  /-- The end of input. -/
  | finish
  /-- A line that cannot be read. -/
  | failure (message : String)
  deriving DecidableEq, Repr

/-- What waiting for an interrupt comes to. -/
inductive Wait where
  /-- An interrupt comes. -/
  | interrupt
  /-- The waiting fails. -/
  | failure (message : String)
  deriving DecidableEq, Repr

/-- What surrounds a console. -/
structure Terminal where
  /-- The acts of typing still to come. -/
  inputs : List Input
  /-- What evaluations that are left waiting still meet, in order; after those
  nothing comes any more. -/
  waits : List Wait := []
  /-- The number of bytes that the output still takes, if there is a limit. -/
  room : Option Nat := none
  /-- What the next flushes of the output come to: the message of a failure, or
  none if all is shown. The flushes after those succeed. -/
  flushes : List (Option String) := []
  deriving DecidableEq, Repr

/-- What can be seen of a console from outside. -/
inductive Event where
  /-- A prompt is shown and a line is waited for. -/
  | read (prompt : String)
  /-- Bytes are written. -/
  | output (bytes : List UInt8)
  /-- A request is made. -/
  | request (r : Request)
  /-- An evaluation under way is interrupted. -/
  | interrupted
  deriving DecidableEq, Repr

namespace Event

/-- Bytes written, if there are any. -/
def written (bytes : List UInt8) : List Event :=
  if bytes.isEmpty then [] else [output bytes]

/-- Events with adjacent output put together. -/
def joined : List Event → List Event
  | [] => []
  | output a :: rest =>
    -- the rest has no adjacent output, so that one step is enough
    match joined rest with
    | output b :: more => output (a ++ b) :: more
    | more => output a :: more
  | e :: rest => e :: joined rest

end Event

namespace Terminal

/-- The next act of typing, and the terminal after it. When all is typed, input
has ended. -/
def next (t : Terminal) : Input × Terminal :=
  match t.inputs with
  | [] => (.finish, t)
  | input :: rest => (input, { t with inputs := rest })

/-- What writing comes to. -/
structure Written where
  /-- The bytes that were taken. -/
  bytes : List UInt8
  /-- The terminal afterwards. -/
  terminal : Terminal
  /-- The message of the failure, unless all went well. -/
  failure : Option String

/-- The message of an output that takes no more bytes. -/
def closedOutput : String := "output closed"

/-- Writes bytes, as far as there is room. -/
def write (t : Terminal) (bytes : List UInt8) : Written :=
  match t.room with
  | none => ⟨bytes, t, none⟩
  -- the bytes up to the limit are written even if not all of them are
  | some n =>
    ⟨bytes.take n, { t with room := some (n - bytes.length) },
      if bytes.length ≤ n then none else some closedOutput⟩

/-- Shows what has been written: the message of the failure, if that fails, and
the terminal afterwards. -/
def flush (t : Terminal) : Option String × Terminal :=
  match t.flushes with
  | [] => (none, t)
  | outcome :: rest => (outcome, { t with flushes := rest })

/-- Writes bytes and, where it is asked for, shows them. -/
def put (t : Terminal) (bytes : List UInt8) (shown : Bool) : Written :=
  let written := t.write bytes
  -- what has not been written cannot be shown
  if shown && written.failure.isNone then
    { written with terminal := written.terminal.flush.2, failure := written.terminal.flush.1 }
  else written

/-- What the next evaluation that is left waiting meets, and the terminal after
it. -/
def nextWait? (t : Terminal) : Option (Wait × Terminal) :=
  match t.waits with
  | [] => none
  | wait :: rest => some (wait, { t with waits := rest })

end Terminal

end RemoteConsole
