import RemoteConsole.CommandLine.Invocation
import RemoteConsole.Files.Tree
import RemoteConsole.Program.Failure
import RemoteConsole.Settings.Document
import RemoteConsole.Settings.Environment
import RemoteConsole.Settings.Validity

/-!
# Before the work

Settings come from a document, then from the environment, then from the command
line; whoever comes later has the last word. They are checked before anything
else is done.

* `Settings.load` — the settings of a document that may be missing.
* `Invocation.settings` — the settings of a run.
* `Logging.place` — where the log goes.
-/

namespace RemoteConsole

/-- The settings of a document, or the usual ones if there is no document. -/
def Settings.load (path : String) : Lookup → Except Failure Settings
  -- no document is no mistake, even where one has been named
  | .missing => .ok {}
  | .unreadable reason => .error ⟨"Cannot read config file " ++ path, some reason⟩
  | .text text =>
    (ofDocument text).mapError fun e => ⟨"Bad config file " ++ path, some e.message⟩

namespace Invocation

/-- Where the document with the settings is. -/
def settingsPath (i : Invocation) (env : Environment) : String :=
  i.config.getD env.settingsPath

/-- The settings of a run, before they are checked. -/
def effective (i : Invocation) (env : Environment) (document : Settings) : Settings :=
  (document.overlay env).override i

/-- The settings of a run. -/
def settings (i : Invocation) (env : Environment) (document : Lookup) :
    Except Failure Settings := do
  let s := i.effective env (← Settings.load (i.settingsPath env) document)
  match s.validate with
  | .ok _ => .ok s
  | .error e => .error ⟨e.message, none⟩

end Invocation

/-- A file in a directory. -/
structure FilePlace where
  directory : String
  name : String
  deriving DecidableEq, Repr

/-- Where the log goes beside the error stream, if it goes anywhere. -/
def Logging.place (l : Logging) : Except Failure (Option FilePlace) :=
  match l.file with
  | none => .ok none
  | some path =>
    match Path.split? path with
    | none => .error ⟨"Log file path has no file name: " ++ path, none⟩
    | some (directory, name) =>
      .ok (some ⟨if directory.isEmpty then "." else directory, name⟩)

/-- The report on a directory for the log that cannot be made. -/
def FilePlace.failure (p : FilePlace) (reason : String) : Failure :=
  ⟨"Failed to create log directory: " ++ p.directory, some reason⟩

end RemoteConsole
