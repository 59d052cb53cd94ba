import RemoteConsole.Console.Prompts
import RemoteConsole.Service.Exchange
import RemoteConsole.Session.Scheme

/-!
# Settings

Settings say where the service is, who asks, how the console prompts and what is
logged.

* `Connection` — the service and the account; `Connection.endpoint` is where
  requests go.
* `Logging` — the level of log lines, and a file for them.
* `Settings` — all of it; `Settings.text` writes settings down.
-/

namespace RemoteConsole

open Json (Value)

/-- Where the service is and who asks. -/
structure Connection where
  /-- The name or address of the server. -/
  host : String := "localhost"
  /-- The port of the server. -/
  port : UInt16 := 8080
  /-- The context below which the service lies. -/
  context : String := "geoserver"
  /-- The account. -/
  user : String := "admin"
  /-- The password of the account. -/
  password : String := "geoserver"
  /-- How the credentials are framed. -/
  scheme : AuthScheme := .standard
  /-- The seconds after which connecting is given up, if there is a limit. -/
  timeout : Option UInt64 := none
  deriving DecidableEq, Repr

/-- What is logged, and where. -/
structure Logging where
  /-- The name of the least severe level that is logged. -/
  level : String := "warn"
  /-- A file that receives the log too. -/
  file : Option String := none
  deriving DecidableEq, Repr

/-- All settings. -/
structure Settings where
  connection : Connection := {}
  prompts : Prompts := {}
  logging : Logging := {}
  deriving DecidableEq, Repr

namespace Connection

/-- The address of the server. -/
def baseUrl (c : Connection) : String :=
  "http://" ++ c.host ++ ":" ++ toString c.port.toNat

/-- The credentials of the account. -/
def credentials (c : Connection) : Credentials :=
  ⟨c.user, c.password⟩

/-- The authorization value of every request. -/
def authorization (c : Connection) : String :=
  c.credentials.authorization c.scheme

/-- Where requests go. -/
def endpoint (c : Connection) : Endpoint :=
  .below c.baseUrl c.context c.authorization

/-- A connection as it is written down. A limit that is not there is left
out. -/
def toValue (c : Connection) : Value :=
  .object <|
    [("host", .string c.host), ("port", .number c.port.toNat), ("context", .string c.context),
      ("user", .string c.user), ("password", .string c.password),
      ("auth_scheme", c.scheme.toValue)]
      ++ (c.timeout.map fun n => ("connect_timeout_secs", .number n.toNat)).toList

end Connection

/-- Prompts as they are written down. -/
def Prompts.toValue (p : Prompts) : Value :=
  .object [("prompt", .string p.first), ("continuation_prompt", .string p.continuation)]

/-- Logging settings as they are written down. A file that is not there is left
out. -/
def Logging.toValue (l : Logging) : Value :=
  .object <| [("level", .string l.level)] ++ (l.file.map fun f => ("file", .string f)).toList

namespace Settings

/-- Settings as they are written down. -/
def toValue (s : Settings) : Value :=
  .object [("connection", s.connection.toValue), ("console", s.prompts.toValue),
    ("logging", s.logging.toValue)]

/-- Settings as a compact document. -/
def text (s : Settings) : String :=
  String.ofList s.toValue.compact

end Settings

end RemoteConsole
