import RemoteConsole.Service.Journey
import RemoteConsole.Session.Listing

/-!
# The session client

A client lists, creates and looks up sessions, and evaluates code in one, until
it is closed. A response with another status than the expected one is no error:
the client warns, and there is no session.

* `Client.list`, `Client.create`, `Client.bind`, `Client.eval` — one request
  each.
* `Client.close` — ends the client.
* `Call` — what a call gives back: its outcome, the client after it, the request
  it has made, what has gone out for it, and the warnings it has given.
* `Client.send_of_closed` — a closed client makes no request.
-/

namespace RemoteConsole

/-- Why a call failed. -/
inductive ClientError where
  /-- The request was not answered. -/
  | transport (e : TransportError)
  /-- The body is not the document that was asked for. -/
  | malformed (e : Json.Malformed)
  /-- The body is not the id of a session. -/
  | invalidId (e : InvalidSessionId)
  /-- The client has been closed. -/
  | closed
  deriving DecidableEq, Repr

/-- The report on a body that is not the document that was asked for. -/
def malformedMessage (e : Json.Malformed) : String :=
  "malformed response: " ++ e.message

/-- The report on a failed call. -/
def ClientError.message : ClientError → String
  | transport e => e.message
  | malformed e => malformedMessage e
  | invalidId e => e.message
  | closed => "session client is closed"

/-- What becomes of a call. -/
inductive Outcome (α : Type) where
  | ok (a : α)
  | error (e : ClientError)
  /-- The request is never answered. -/
  | pending
  deriving DecidableEq, Repr

/-- A response with another status than the expected one. -/
structure Warning where
  /-- What failed. -/
  action : String
  /-- The status that was expected. -/
  expected : Nat
  /-- The status of the response. -/
  got : Nat
  deriving DecidableEq, Repr

/-- The text of a warning. -/
def Warning.text (w : Warning) : String :=
  w.action ++ ", expecting status " ++ toString w.expected ++ " but got " ++ toString w.got

/-- A client of the session service. -/
structure Client where
  /-- Where requests go. -/
  endpoint : Endpoint
  /-- What the service will answer. -/
  service : Service
  /-- How requests are carried to it. -/
  carrier : Carrier := .script
  /-- Whether the client has been closed. -/
  isClosed : Bool := false

/-- What a call gives back. -/
structure Call (α : Type) where
  /-- Its outcome. -/
  outcome : Outcome α
  /-- The client after it. -/
  client : Client
  /-- The requests it has made. -/
  requests : List Request := []
  /-- What has gone out for them. -/
  legs : List Leg := []
  /-- The warnings it has given. -/
  warnings : List Warning := []

/-- The call with its value examined further. -/
def Call.andThen {α β : Type} (c : Call α) (f : α → Outcome β × List Warning) : Call β :=
  match c.outcome with
  | .ok a =>
    { outcome := (f a).1
      client := c.client
      requests := c.requests
      legs := c.legs
      warnings := c.warnings ++ (f a).2 }
  | .error e => { c with outcome := .error e }
  | .pending => { c with outcome := .pending }

namespace Client

/-- What the reply to a request means. The report on a failure names the address
that the request was for, wherever it has gone from there. -/
def interpret (c : Client) (r : Request) : Reply → Outcome Response
  | .response response => .ok response
  | .unreachable cause =>
    let url := c.endpoint.url r.path
    .error (.transport (.connect url (cause.message url)))
  | .broken cause =>
    let url := c.endpoint.url r.path
    .error (.transport (.request r.method url (cause.message url)))
  -- no report can be made on what is still to come
  | .silence => .pending

/-- The journey of a request of the client. -/
def journey (c : Client) (r : Request) : Journey :=
  c.service.carry (c.endpoint.outgoing r) c.carrier

/-- Makes a request, unless the client is closed. -/
def send (c : Client) (r : Request) : Call Response :=
  if c.isClosed then { outcome := .error .closed, client := c }
  else
    let journey := c.journey r
    { outcome := c.interpret r journey.reply
      client := { c with service := journey.service }
      requests := [r]
      legs := journey.legs }

/-- A closed client makes no request. -/
theorem send_of_closed {c : Client} (h : c.isClosed) (r : Request) :
    c.send r = { outcome := .error .closed, client := c } := by
  simp [send, h]

/-- A response with the expected status, or a warning. -/
def expect {α : Type} (action : String) (expected : Nat) (f : Response → Outcome α)
    (r : Response) : Outcome (Option α) × List Warning :=
  if r.status = expected then
    match f r with
    | .ok a => (.ok (some a), [])
    | .error e => (.error e, [])
    | .pending => (.pending, [])
  -- the body of an unexpected response is not looked at
  else (.ok none, [⟨action, expected, r.status⟩])

/-- All sessions of the service. -/
def list (c : Client) : Call (Option Listing) :=
  (c.send ⟨.get, Route.sessions, none⟩).andThen <|
    expect "GET sessions failed" 200 fun r =>
      match Listing.decode r.body with
      | .ok l => .ok l
      | .error e => .error (.malformed e)

/-- A new session. -/
def create (c : Client) : Call (Option SessionId) :=
  (c.send ⟨.post, Route.sessions, none⟩).andThen <|
    expect "POST new session failed" 201 fun r =>
      match SessionId.parse r.text with
      | .ok id => .ok id
      | .error e => .error (.invalidId e)

/-- An existing session. The body of the response is not looked at. -/
def bind (c : Client) (id : SessionId) : Call (Option SessionId) :=
  (c.send ⟨.get, Route.session id, none⟩).andThen <|
    expect "GET session failed" 200 fun _ => .ok id

/-- The text that code in a session gives back. Its status is not looked at. -/
def eval (c : Client) (id : SessionId) (code : String) : Call String :=
  (c.send ⟨.put, Route.session id, some code⟩).andThen fun r => (.ok r.text, [])

/-- Ends the client, which works once. -/
def close (c : Client) : Except ClientError Client :=
  if c.isClosed then .error .closed else .ok { c with isClosed := true }

end Client

end RemoteConsole
