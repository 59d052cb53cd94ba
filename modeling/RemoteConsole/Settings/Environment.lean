import RemoteConsole.Files.Path
import RemoteConsole.Settings.Basic

/-!
# Settings from the environment

Two variables change settings, and two say where the document with the settings
is. A variable that is empty changes nothing.

* `Environment` — the variables.
* `Settings.overlay` — settings after the variables have changed them.
* `Environment.settingsPath` — where the document is.
-/

namespace RemoteConsole

/-- The variables that matter. -/
structure Environment where
  /-- A password. -/
  password : Option String := none
  /-- A log level. -/
  logLevel : Option String := none
  /-- The directory of the user. -/
  home : Option String := none
  /-- The directory of settings. -/
  configHome : Option String := none
  deriving DecidableEq, Repr

namespace Environment

/-- The variables by their names. -/
def ofVariables (value? : String → Option String) : Environment where
  password := value? "SCRIPT_CONSOLE_PASSWORD"
  logLevel := value? "SCRIPT_CONSOLE_LOG_LEVEL"
  home := value? "HOME"
  configHome := value? "XDG_CONFIG_HOME"

/-- The names of the variables. -/
def names : List String :=
  ["SCRIPT_CONSOLE_PASSWORD", "SCRIPT_CONSOLE_LOG_LEVEL", "HOME", "XDG_CONFIG_HOME"]

/-- A text unless it is empty. -/
def nonEmpty (text : Option String) : Option String :=
  text.filter (!·.isEmpty)

end Environment

/-- Settings after the variables have changed them. -/
def Settings.overlay (s : Settings) (env : Environment) : Settings :=
  { s with
    connection := { s.connection with
      password := (Environment.nonEmpty env.password).getD s.connection.password }
    logging := { s.logging with level := (Environment.nonEmpty env.logLevel).getD s.logging.level } }

/-! ## Where the document is -/

namespace Environment

/-- The directory of settings: the one that is named, if it is named from the
root, or one in the directory of the user. -/
def settingsDirectory (env : Environment) : Option String :=
  -- a directory that is not named from the root is passed over
  (env.configHome.filter Path.isAbsolute).or ((nonEmpty env.home).map (Path.below · ".config"))

/-- Where the document with the settings is. -/
def settingsPath (env : Environment) : String :=
  Path.below (env.settingsDirectory.getD "") "script-console/config.toml"

end Environment

end RemoteConsole
