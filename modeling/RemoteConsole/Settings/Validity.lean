import RemoteConsole.Settings.Basic
import RemoteConsole.Text.Blank
import RemoteConsole.Text.Quoted

/-!
# Valid settings

Settings can be well formed and still name no server. They are checked once,
before anything is sent.

* `LogLevel` — the levels of log lines.
* `Settings.validate` — the check, with `InvalidSettings` for what it finds.
-/

namespace RemoteConsole

/-- How much a log line matters, least first. -/
inductive LogLevel where
  | trace
  | debug
  | info
  | warn
  | error
  deriving DecidableEq, Repr

namespace LogLevel

/-- The name of a level. -/
def text : LogLevel → String
  | trace => "trace"
  | debug => "debug"
  | info => "info"
  | warn => "warn"
  | error => "error"

/-- Every level. -/
def all : List LogLevel :=
  [trace, debug, info, warn, error]

/-- The level with a name, whose letters may be small or capital. -/
def ofText? (name : String) : Option LogLevel :=
  all.find? fun l => l.text.toList == name.toList.map Char.toLower

/-- Whether warnings are logged at a level. -/
def showsWarnings (l : LogLevel) : Bool :=
  l ≠ error

end LogLevel

/-- What is wrong with settings. -/
inductive InvalidSettings where
  | port (n : UInt16)
  | emptyHost
  | context (text : String)
  | logLevel (text : String)
  deriving DecidableEq, Repr

/-- The report on settings that are wrong. -/
def InvalidSettings.message : InvalidSettings → String
  | port n => "port must be between 1 and 65535, got " ++ toString n.toNat
  | emptyHost => "host must not be empty"
  | context text =>
    "context must be a single non-empty path segment, got " ++ Quoted.quote text
  | logLevel text =>
    "unknown log level " ++ Quoted.quote text ++ "; expected trace, debug, info, warn or error"

/-- Whether a context is one segment of a path, without white space. -/
def isContext (text : String) : Bool :=
  !text.isEmpty && text.toList.all fun c => c != '/' && !Blank.isBlank c

namespace Settings

/-- Checks settings: port, host, context and log level, in this order. -/
def validate (s : Settings) : Except InvalidSettings Unit :=
  -- of several mistakes the first one in this order is reported
  if s.connection.port = 0 then .error (.port s.connection.port)
  else if Blank.isBlankText s.connection.host.toList then .error .emptyHost
  else if !isContext s.connection.context then .error (.context s.connection.context)
  else if (LogLevel.ofText? s.logging.level).isNone then .error (.logLevel s.logging.level)
  else .ok ()

end Settings

end RemoteConsole
