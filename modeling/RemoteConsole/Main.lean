import RemoteConsole.Program.Run
import RemoteConsole.Service.Message
import Std.Async

/-!
# The command

The outer layer of the program: it reads variables, files, lines and
connections, hands what it has read to the library, and writes what the library
answers. Every decision is made there.

* `Command.exchange` — what goes out over one connection, and its reply;
  `Command.travel` — the journey of a request.
* `Command.converse` — a console on the terminal, turn by turn.
* `main` — the program.
-/

namespace RemoteConsole.Command

open Std.Async Std.Net

/-! ## Connections -/

/-- The places at which a host and a port can be reached. -/
def places (u : Url) : Async (List SocketAddress) := do
  let host := String.ofList (u.host.toList.filter fun c => c ≠ '[' && c ≠ ']')
  let port := UInt16.ofNat u.portNumber
  let found ← DNS.getAddrInfo host (toString port.toNat)
  return found.toList.map fun
    | .v4 a => .v4 ⟨a, port⟩
    | .v6 a => .v6 ⟨a, port⟩

/-- A connection to the first place that takes one. -/
def connect : List SocketAddress → Async TCP.Socket.Client
  | [] => throw (IO.userError "no address")
  | place :: more => do
    let socket ← TCP.Socket.Client.mk
    try
      socket.connect place
      return socket
    catch e => if more.isEmpty then throw e else connect more

/-- The next bytes on a connection, unless an interrupt comes before them. -/
def nextBytes (socket : TCP.Socket.Client) (signals : Option Signal.Waiter) :
    Async (Option (Option ByteArray)) := do
  match signals with
  | none => return some (← socket.recv? 65536)
  | some signals =>
    Selectable.one #[
      .case (socket.recvSelector 65536) fun bytes => return some bytes,
      .case signals.selector fun _ => return none]

/-- All bytes that come on a connection until it ends, or nothing after an
interrupt. -/
partial def receive (socket : TCP.Socket.Client) (signals : Option Signal.Waiter)
    (got : ByteArray) : Async (Option ByteArray) := do
  match ← nextBytes socket signals with
  | none => return none
  | some none => return some got
  | some (some bytes) => receive socket signals (got ++ bytes)

/-- What comes first: the result of some work, or nothing when the seconds are
over. -/
def within {α : Type} (seconds : Option UInt64) (work : Async α) : IO (Option α) := do
  let task ← (some <$> work.block).asTask
  match seconds with
  | none => IO.ofExcept (← IO.wait task)
  | some n =>
    let clock ← (do IO.sleep (UInt32.ofNat (n.toNat * 1000)); return none : IO (Option α)).asTask
    IO.ofExcept (← IO.waitAny [task, clock] (by simp))

/-- What goes out over one connection, and its reply. An interrupt leaves it
without one. -/
def exchange (c : Connection) (signals : Option Signal.Waiter) (q : Outgoing) : IO Reply := do
  match Url.parse? q.url with
  | none => return .broken .address
  | some u =>
    if !u.isSendable then return .broken .unsendable
    -- there is no one here to speak in secret with
    if u.scheme = .https then return .unreachable .sending
    let socket ← try within c.timeout (do connect (← places u)) catch _ => pure none
    match socket with
    | none => return .unreachable .sending
    | some socket =>
      let bytes := Message.ofRequest u q
      try
        let got ← Async.block do
          socket.send (ByteArray.mk bytes.toArray)
          receive socket signals .empty
        return (got.map (Message.reply ·.toList)).getD .silence
      catch _ => return .broken .sending

/-- The journey of a request that may go out again so many times, and what
finally comes back. -/
def travel (c : Connection) (signals : Option Signal.Waiter) (q : Outgoing) : Nat → IO Reply
  | 0 => do
    match q.lead (← exchange c signals q) with
    | .last reply => return reply
    | .on _ => return .broken (.endless q.url)
  | times + 1 => do
    match q.lead (← exchange c signals q) with
    | .last reply => return reply
    | .on next => travel c signals next times

/-- A request and its reply. -/
def request (c : Connection) (signals : Option Signal.Waiter) (r : Request) : IO Reply :=
  travel c signals (c.endpoint.outgoing r) maxRedirects

/-! ## The terminal -/

/-- A terminal, and what it waits for. -/
structure Desk where
  /-- Tells of interrupts. -/
  signals : Signal.Waiter
  /-- A line that is being typed. -/
  typing : IO.Ref (Option (Task (Except IO.Error Input)))

/-- Writes bytes and shows them at once. -/
def put (bytes : List UInt8) : IO Unit := do
  let out ← IO.getStdout
  out.write (ByteArray.mk bytes.toArray)
  out.flush

/-- Writes a text and shows it at once. -/
def putText (text : String) : IO Unit :=
  put (Utf8.encode text.toList)

/-- The bytes of a line, behind those that have been read. -/
partial def lineBytes (input : IO.FS.Stream) (got : List UInt8) : IO (List UInt8) := do
  match (← input.read 1).toList with
  | [10] => return (10 :: got).reverse
  | [b] => lineBytes input (b :: got)
  | _ => return got.reverse

/-- The next line that is typed. -/
def typed : IO Input := do
  match ← lineBytes (← IO.getStdin) [] with
  | [] => return .finish
  | bytes => return Typing.input bytes

/-- The next line, unless an interrupt comes before it. -/
def Desk.next (d : Desk) : IO Input := do
  let line ← match ← d.typing.get with
    | some line => pure line
    | none => typed.asTask
  d.typing.set (some line)
  let signal ← d.signals.wait
  let interrupt := Task.map (fun _ => (.ok .interrupt : Except IO.Error Input)) signal
  match ← IO.ofExcept (← IO.waitAny [line, interrupt] (by simp)) with
  | .interrupt =>
    putText "\n"
    return .interrupt
  | input =>
    d.typing.set none
    return input

/-- Writes a line to the error stream and to the log. -/
def note (log : Option IO.FS.Handle) (line : String) : IO Unit := do
  IO.eprintln line
  if let some log := log then
    log.putStrLn line
    log.flush

/-- A console on the terminal, turn by turn. -/
partial def converse (d : Desk) (place : Connection) (c : Conversation) : IO Ending := do
  let c ← match c.nextRequest? with
    | some r => c.answered <$> request place (some d.signals) r
    | none =>
      if c.console.phase = .closed then pure c
      else
        putText c.prompt
        c.typing <$> d.next
  let turn := c.turn
  for event in turn.events do
    unless event matches .read _ do
      put event.printed
  match turn.ending with
  | some ending => return ending
  | none => converse d place turn.next

/-! ## Runs -/

/-- The variables. -/
def environment : IO Environment := do
  let values ← Environment.names.mapM fun name => return (name, ← IO.getEnv name)
  return .ofVariables fun name => (values.lookup name).join

/-- What reading a file comes to. -/
def lookup (path : String) : IO Lookup := do
  try
    let bytes ← IO.FS.readBinFile path
    match Utf8.decode? bytes.toList with
    | .ok text => return .text (String.ofList text)
    | .error _ => return .unreadable "stream did not contain valid UTF-8"
  catch
    | .noFileOrDirectory .. => return .missing
    | .inappropriateType _ 20 _ => return .missing
    | e => return .unreadable (toString e)

/-- The log file, if there is to be one. -/
def openLog (l : Logging) : IO (Except Exit (Option IO.FS.Handle)) := do
  match l.place with
  | .error f => return .error (.failure f)
  | .ok none => return .ok none
  | .ok (some p) =>
    match ← (IO.FS.createDirAll p.directory).toBaseIO with
    | .error e => return .error (.failure (p.failure (toString e)))
    | .ok _ =>
      match ← (IO.FS.Handle.mk (Path.below p.directory p.name) .append).toBaseIO with
      | .error _ => return .error .aborted
      | .ok handle => return .ok (some handle)

/-- The work for a purpose. Interrupts are waited for as soon as there is a
console. -/
def work (log : Option IO.FS.Handle) (s : Settings) (p : Purpose) : IO Exit := do
  let client : Client := { endpoint := s.connection.endpoint, service := ⟨[], .silence⟩ }
  let reply ← match p.firstRequest? client with
    | some r => request s.connection none r
    | none => pure .silence
  let client := { client with service := ⟨[reply], .silence⟩ }
  let conversation := match p with
    | .talk t => client.conversation? t s.prompts { inputs := [] }
    | .list _ => none
  match conversation with
  | some c =>
    let d : Desk := { signals := ← Signal.Waiter.mk .sigint true, typing := ← IO.mkRef none }
    return (← converse d s.connection c).completion.exit
  | none =>
    let done := p.work client s.prompts { inputs := [] }
    if s.showsWarnings then
      for warning in done.warnings do note log ("WARN " ++ warning.text)
    put done.printed
    return done.completion.exit

/-- The run with its settings known. -/
def perform (i : Invocation) (s : Settings) : IO Exit := do
  match ← openLog s.logging with
  | .error exit => return exit
  | .ok log =>
    match ← (work log s i.purpose).toBaseIO with
    | .ok exit => return exit
    | .error e => return .failure (ConsoleError.terminal (toString e)).failure

/-- The run for the words of a command line. -/
def run (words : List String) : IO Exit := do
  match Invocation.ofWords words with
  | .error .help => putText helpText; return .success
  | .error .version => putText versionText; return .success
  | .error (.error e) => return .usage e
  | .ok i =>
    let env ← environment
    match i.settings env (← lookup (i.settingsPath env)) with
    | .error f => return .failure f
    | .ok s => perform i s

end RemoteConsole.Command

/-- The program. -/
def main (words : List String) : IO UInt32 := do
  let exit ← RemoteConsole.Command.run words
  IO.eprint exit.text
  return UInt32.ofNat exit.code
