import RemoteConsole.Service.Url
import RemoteConsole.Session.Route

/-!
# Requests and responses

One request is under way at a time. It is answered by a status and a body, it
fails, or nothing comes back.

* `Request`, `Response` — what is sent and what comes back.
* `Endpoint` — where requests go, and the authorization value that all of them
  carry.
* `Service` — what the service will answer; `Service.next` is the answer to the
  next request.
* `Cause`, `TransportError` — why a request was not answered.
-/

namespace RemoteConsole

/-- A request, with a path below the root of the service. -/
structure Request where
  method : Method
  path : String
  body : Option String
  deriving DecidableEq, Repr

/-- The answer to a request. -/
structure Response where
  /-- The status code. -/
  status : Nat
  /-- The bytes of the body. -/
  body : List UInt8
  /-- The reference to another place, if its head has one. -/
  location : Option String := none
  deriving DecidableEq, Repr

/-- Whether responses with a status have no body. -/
def isBodiless (status : Nat) : Bool :=
  status == 101 || status == 204 || status == 304

/-- Whether a response with a status only says that another one follows. -/
def isInterim (status : Nat) : Bool :=
  100 ≤ status && status < 200 && status != 101

/-- Whether a status says that the answer lies elsewhere. -/
def isRedirect (status : Nat) : Bool :=
  [301, 302, 303, 307, 308].contains status

/-- The body as text. -/
def Response.text (r : Response) : String :=
  String.ofList (Utf8.decodeLossy r.body)

/-- Where requests go. -/
structure Endpoint where
  /-- The address of a path. -/
  url : String → String
  /-- The authorization value of every request. -/
  authorization : String

/-- The endpoint below an address, for a context and an authorization value. -/
def Endpoint.below (base context authorization : String) : Endpoint where
  url path := base ++ Route.root context ++ String.ofList (path.toList.dropWhile (· == '/'))
  authorization := authorization

/-- Why an exchange fails. -/
inductive Cause where
  /-- What carries the request says so in its own words. -/
  | told (message : String)
  /-- The request cannot be sent, or the connection ends before anything comes
  back. -/
  | sending
  /-- The body is cut short. -/
  | body
  /-- The address of the request is none. -/
  | address
  /-- No request can carry the address. -/
  | unsendable
  /-- The answer lies at an address of a kind that no request is made to. -/
  | foreign (address : String)
  /-- The answer is looked for from one address to the next for too long. -/
  | endless (address : String)
  deriving DecidableEq, Repr

/-- The report on a failed exchange with an address. -/
def Cause.message (url : String) : Cause → String
  | told message => message
  | sending => "error sending request for url (" ++ Url.normalText url ++ ")"
  | body => "error decoding response body"
  | address => "builder error"
  | unsendable => "builder error for url (" ++ Url.normalText url ++ ")"
  | foreign place => "builder error for url (" ++ place ++ ")"
  | endless place => "error following redirect for url (" ++ Url.normalText place ++ ")"

/-- What becomes of a request. -/
inductive Reply where
  /-- It is answered. -/
  | response (r : Response)
  /-- The service cannot be reached. -/
  | unreachable (c : Cause)
  /-- The exchange breaks off. -/
  | broken (c : Cause)
  /-- Nothing comes back. -/
  | silence
  deriving DecidableEq, Repr

/-- What the service will answer. -/
structure Service where
  /-- The replies to the next requests, in order. -/
  replies : List Reply
  /-- The reply to every request after those. -/
  afterwards : Reply
  deriving DecidableEq, Repr

/-- The reply to the next request, and the service after it. -/
def Service.next (s : Service) : Reply × Service :=
  match s.replies with
  | [] => (s.afterwards, s)
  | reply :: rest => (reply, { s with replies := rest })

/-- Why a request was not answered. -/
inductive TransportError where
  | connect (url message : String)
  | request (method : Method) (url message : String)
  deriving DecidableEq, Repr

/-- The report on a request that was not answered. -/
def TransportError.message : TransportError → String
  | connect url message => "cannot connect to " ++ url ++ ": " ++ message
  | request method url message => method.text ++ " " ++ url ++ " failed: " ++ message

end RemoteConsole
