import RemoteConsole.Session.Id

/-!
# Routes

The service lies below the path of its context. Sessions have one route for all
of them and one for each; the three methods list or look up, create, and
evaluate.

* `Method` — the methods and their names.
* `Route.root` — where the service lies.
* `Route.sessions`, `Route.session` — the routes below it.
-/

namespace RemoteConsole

/-- What a request asks for. -/
inductive Method where
  /-- Reads: the listing or one session. -/
  | get
  /-- Creates a session. -/
  | post
  /-- Evaluates code in a session. -/
  | put
  deriving DecidableEq, Repr

/-- The name of a method in a request. -/
def Method.text : Method → String
  | get => "GET"
  | post => "POST"
  | put => "PUT"

/-- Every method. -/
def Method.all : List Method :=
  [get, post, put]

namespace Route

/-- A text without the slashes at its ends. -/
def trimSlashes (text : String) : String :=
  String.ofList (Blank.dropEndWhile (· == '/') (text.toList.dropWhile (· == '/')))

/-- The path below which the service of a context lies. -/
def root (context : String) : String :=
  "/" ++ trimSlashes context ++ "/script/"

/-- The route of all sessions. -/
def sessions : String :=
  "sessions/py"

/-- The route of one session. -/
def session (id : SessionId) : String :=
  sessions ++ "/" ++ id.text

end Route

end RemoteConsole
