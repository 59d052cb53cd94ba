import RemoteConsole.CommandLine.Help
import RemoteConsole.CommandLine.Reading
import RemoteConsole.Console.Typing
import RemoteConsole.Program.Preparation
import RemoteConsole.Program.Work
import RemoteConsole.Service.Server
import RemoteConsole.Text.Lines

/-!
# A run of the program

A run reads its command line, prepares and works. It leaves an exit code, what
it has printed, lines on the error stream, what has gone over connections, and
perhaps a log file.

* `Surroundings` — what a run starts from.
* `Exit` — how a run ends.
* `Report` — what a run leaves.
* `Program.run` — the run for the words of a command line.
-/

namespace RemoteConsole

/-- What a run starts from. -/
structure Surroundings where
  /-- The variables. -/
  env : Environment := {}
  /-- The files. -/
  tree : Tree := {}
  /-- The bytes that are typed. -/
  typed : List UInt8 := []
  /-- What evaluations that are left waiting meet. -/
  waits : List Wait := []
  /-- The server, if there is one. -/
  server : Option Server := none

/-- How a run ends. -/
inductive Exit where
  /-- All is done. -/
  | success
  /-- The command line is wrong. -/
  | usage (e : UsageError)
  /-- Something could not be done. -/
  | failure (f : Failure)
  /-- The log file cannot be opened. -/
  | aborted
  /-- An interrupt comes before anything waits for one. -/
  | killed
  deriving DecidableEq, Repr

namespace Exit

/-- The exit code. -/
def code : Exit → Nat
  | success => 0
  | usage _ => 2
  | failure _ => 1
  | aborted => 101
  | killed => 130

/-- What is written last to the error stream. -/
def text : Exit → String
  | usage e => e.headline ++ "\n"
  | failure f => f.text
  | _ => ""

end Exit

/-- What a run leaves. -/
structure Report where
  exit : Exit
  /-- All that is printed. -/
  printed : List UInt8 := []
  /-- The warnings that are logged. -/
  warnings : List Warning := []
  /-- What has gone over connections, in order. -/
  legs : List Leg := []
  /-- The files afterwards. -/
  tree : Tree

/-- The lines on the error stream. -/
def Report.lines (r : Report) : List String :=
  r.warnings.map (fun w => "WARN " ++ w.text) ++ Lines.read r.exit.text

/-- Whether settings let warnings be logged. -/
def Settings.showsWarnings (s : Settings) : Bool :=
  ((LogLevel.ofText? s.logging.level).map LogLevel.showsWarnings).getD false

/-- How a run ends with its work. -/
def Completion.exit : Completion → Exit
  | done => .success
  | failed f => .failure f
  | unanswered => .killed

namespace Program

/-- Opens the log, which may make a file. -/
def openLog (l : Logging) (tree : Tree) : Except Exit Tree := do
  match ← l.place.mapError .failure with
  | none => .ok tree
  | some p =>
    let tree ← (tree.makeDirectories p.directory).mapError fun e => .failure (p.failure e.message)
    -- whatever keeps the file from being opened, the run cannot go on
    (tree.touch p.directory p.name).mapError fun _ => .aborted

/-- The client of a run. -/
def client (w : Surroundings) (s : Settings) : Client where
  endpoint := s.connection.endpoint
  service := .ofServer w.server
  carrier := .network fun u => w.server.any (·.hears u)

/-- The run with its settings known. -/
def perform (i : Invocation) (s : Settings) (w : Surroundings) : Report :=
  match openLog s.logging w.tree with
  | .error exit => { exit := exit, tree := w.tree }
  | .ok tree =>
    let terminal : Terminal := { inputs := Typing.inputs w.typed, waits := w.waits }
    let work := i.purpose.work (client w s) s.prompts terminal
    { exit := work.completion.exit
      printed := work.printed
      -- a level above warnings hides them
      warnings := if s.showsWarnings then work.warnings else []
      legs := work.legs
      tree := tree }

/-- The run for the words of a command line. -/
def run (words : List String) (w : Surroundings) : Report :=
  let printing (text : String) : Report :=
    { exit := .success, printed := Utf8.encode text.toList, tree := w.tree }
  match Invocation.ofWords words with
  | .error .help => printing helpText
  | .error .version => printing versionText
  | .error (.error e) => { exit := .usage e, tree := w.tree }
  | .ok i =>
    match i.settings w.env (w.tree.read (i.settingsPath w.env)) with
    | .error f => { exit := .failure f, tree := w.tree }
    | .ok s => perform i s w

end Program

end RemoteConsole
