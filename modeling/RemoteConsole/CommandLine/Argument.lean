/-!
# Arguments

The program takes a host, perhaps a session, and options. An option has a long
name, perhaps a short one, and takes a value or none.

* `Argument` — what can be given.
* `Argument.label` — an argument as reports name it.
* `Argument.ofLong?`, `Argument.ofShort?` — options by their names.
-/

namespace RemoteConsole

/-- What can be given on a command line. -/
inductive Argument where
  | host
  | session
  | port
  | user
  | password
  | context
  | new
  | json
  | legacyAuth
  | config
  | verbose
  | help
  | version
  deriving DecidableEq, Repr

namespace Argument

/-- The options. -/
def options : List Argument :=
  [port, user, password, context, new, json, legacyAuth, config, verbose, help, version]

/-- The long name of an option. -/
def long? : Argument → Option String
  | host | session => none
  | port => some "port"
  | user => some "user"
  | password => some "password"
  | context => some "context"
  | new => some "new"
  | json => some "json"
  | legacyAuth => some "legacy-auth"
  | config => some "config"
  | verbose => some "verbose"
  | help => some "help"
  | version => some "version"

/-- The short name of an option. -/
def short? : Argument → Option Char
  | port => some 'p'
  | user => some 'u'
  | password => some 'w'
  | context => some 'c'
  | verbose => some 'v'
  | help => some 'h'
  | version => some 'V'
  | _ => none

/-- What stands for the value of an argument, if it has one. -/
def placeholder? : Argument → Option String
  | host => some "<HOST>"
  | session => some "[SESSION]"
  | port => some "<PORT>"
  | user => some "<USER>"
  | password => some "<PASSWORD>"
  | context => some "<CONTEXT>"
  | config => some "<FILE>"
  | _ => none

/-- Whether a value belongs to an argument. -/
def takesValue (p : Argument) : Bool :=
  p.placeholder?.isSome

/-- An argument as reports name it. -/
def label (p : Argument) : String :=
  match p.long?, p.placeholder? with
  | some name, some value => "--" ++ name ++ " " ++ value
  | some name, none => "--" ++ name
  | none, value => value.getD ""

/-- The option with a long name. -/
def ofLong? (name : String) : Option Argument :=
  options.find? (·.long? == some name)

/-- The option with a short name. -/
def ofShort? (c : Char) : Option Argument :=
  options.find? (·.short? == some c)

end Argument

end RemoteConsole
