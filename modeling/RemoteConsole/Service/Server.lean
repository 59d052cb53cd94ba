import RemoteConsole.Service.Message

/-!
# Servers

A server listens on a port of this machine and does one thing with every
request: it answers, ends the connection, or leaves the request alone.

* `Act` — what a server does with a request; `Act.reply` is what the client sees
  of it.
* `Server.hears` — the addresses of a server; `Service.ofServer` — what it
  answers.
-/

namespace RemoteConsole

/-- What a server does with a request. -/
inductive Act where
  /-- Answers, with so many bytes of the body missing. -/
  | answer (status : Nat) (body : List UInt8) (missing : Nat)
  /-- Ends the connection. -/
  | hangUp
  /-- Leaves the request alone. -/
  | ignore
  deriving DecidableEq, Repr

/-- What a client sees of it. -/
def Act.reply : Act → Reply
  | answer status body missing =>
    -- a status has three digits
    if status < 100 ∨ 999 < status then .broken .sending
    -- what stands behind the head of an interim response is read as another
    -- response
    else if isInterim status then Message.reply body
    else if isBodiless status then .response { status, body := [] }
    else if missing = 0 then .response { status, body }
    else .broken .body
  | hangUp => .broken .sending
  | ignore => .silence

/-- A server. -/
structure Server where
  /-- The port it listens on. -/
  port : Nat
  /-- What it does with the requests, in order; every request after those fails
  on its side. -/
  acts : List Act
  deriving DecidableEq, Repr

/-- Whether an address is that of the server, which speaks in the open. -/
def Server.hears (s : Server) (u : Url) : Bool :=
  u.scheme == .http && (u.host == "127.0.0.1" || u.host == "localhost") && u.portNumber == s.port

/-- What is answered where there is at most one server. -/
def Service.ofServer : Option Server → Service
  | none => { replies := [], afterwards := .unreachable .sending }
  | some s =>
    { replies := s.acts.map Act.reply
      afterwards := .response { status := 500, body := [] } }

end RemoteConsole
