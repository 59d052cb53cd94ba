import RemoteConsole.Session.Id
import RemoteConsole.Settings.Basic

/-!
# Invocations

An invocation is what a command line asks for. It says which server to talk to
and what to do there, and it has the last word on the settings that it names.

* `Invocation` — the values of a command line.
* `Invocation.purpose` — what to do.
* `Settings.override` — settings after an invocation has changed them.
-/

namespace RemoteConsole

/-- The values of a command line. -/
structure Invocation where
  host : String
  session : Option SessionId := none
  port : Option UInt16 := none
  user : Option String := none
  password : Option String := none
  context : Option String := none
  /-- Whether a session is to be created. -/
  new : Bool := false
  /-- Whether sessions are listed as a document. -/
  json : Bool := false
  /-- Whether credentials are framed in the legacy way. -/
  legacyAuth : Bool := false
  /-- Where the document with the settings is. -/
  config : Option String := none
  /-- Whether everything is logged. -/
  verbose : Bool := false
  deriving DecidableEq, Repr

/-- Whom to talk to. -/
inductive Target where
  /-- A session that is there. -/
  | existing (id : SessionId)
  /-- A session that is created for it. -/
  | fresh
  deriving DecidableEq, Repr

/-- What a program is to do. -/
inductive Purpose where
  /-- Talk to a session. -/
  | talk (t : Target)
  /-- List the sessions, as a document or as a table. -/
  | list (json : Bool)
  deriving DecidableEq, Repr

/-- What an invocation asks for. -/
def Invocation.purpose (i : Invocation) : Purpose :=
  match i.session with
  | some id => .talk (.existing id)
  | none => if i.new then .talk .fresh else .list i.json

/-- Settings after an invocation has changed them. The host is always that of
the invocation. -/
def Settings.override (s : Settings) (i : Invocation) : Settings :=
  { s with
    connection := { s.connection with
      host := i.host
      port := i.port.getD s.connection.port
      user := i.user.getD s.connection.user
      password := i.password.getD s.connection.password
      context := i.context.getD s.connection.context
      scheme := if i.legacyAuth then .legacy else s.connection.scheme }
    logging := { s.logging with level := if i.verbose then "debug" else s.logging.level } }

end RemoteConsole
