import RemoteConsole.Service.Exchange

/-!
# Requests on their way

A request goes out over a connection to an address. The answer may lie
elsewhere, and then the request goes out again, to the address that the answer
refers to; it may have become one that only reads, and it leaves the
authorization value behind when it leaves the server. What goes out for one
request is a journey, and each time it goes out is a leg of it.

* `Outgoing`, `Leg` — a request as it goes out, and what comes of that.
* `Outgoing.lead` — whether a reply is the last one, or what goes out next.
* `Service.follow` — the journey of a request.
* `Carrier`, `Service.carry` — requests go out over connections, or their
  replies are read from a script.
-/

namespace RemoteConsole

/-! ## Legs -/

/-- A request as it goes out over a connection. -/
structure Outgoing where
  method : Method
  /-- The address that it goes to. -/
  url : String
  /-- The authorization value, unless it has been left behind. -/
  authorization : Option String
  body : Option String
  deriving DecidableEq, Repr

/-- A request as it goes out to an endpoint. -/
def Endpoint.outgoing (e : Endpoint) (r : Request) : Outgoing where
  method := r.method
  url := e.url r.path
  authorization := some e.authorization
  body := r.body

/-- A request that has gone out, and what has come of that. -/
structure Leg where
  request : Outgoing
  reply : Reply
  deriving DecidableEq, Repr

/-- The answer to what goes out to an address, and the service after it. -/
def Service.answer (s : Service) (hears : Url → Bool) (url : String) : Reply × Service :=
  match Url.parse? url with
  | none => (.broken .address, s)
  | some u =>
    if !u.isSendable then (.broken .unsendable, s)
    -- nothing listens at any other address
    else if hears u then s.next
    else (.unreachable .sending, s)

/-! ## Redirects -/

/-- What a reply leads to. -/
inductive Lead where
  /-- It is the last one, or stands for it. -/
  | last (reply : Reply)
  /-- This goes out next. -/
  | on (q : Outgoing)
  deriving DecidableEq, Repr

namespace Outgoing

/-- The request as one that only reads. -/
def reading (q : Outgoing) : Outgoing :=
  { q with method := .get, body := none }

/-- What is asked for elsewhere when a status says that the answer is there. -/
def again (q : Outgoing) (status : Nat) : Outgoing :=
  if status = 303 then q.reading
  -- nothing is created in two places
  else if (status = 301 ∨ status = 302) ∧ q.method = .post then q.reading
  else q

/-- The request to another address than where it has been. -/
def redirected (q : Outgoing) (here there : Url) : Outgoing :=
  { q with
    url := there.text
    -- the account is one at this server
    authorization := if here.sharesServer there then q.authorization else none }

/-- What a response refers to whose status says that the answer lies
elsewhere. -/
def referred? (q : Outgoing) (r : Response) : Option (Except String Outgoing) := do
  if isRedirect r.status then
    let here ← Url.parse? q.url
    match ← here.resolve? (← r.location) with
    | .address there => some (.ok ((q.again r.status).redirected here there))
    | .other text => some (.error text)
  else none

/-- What the reply to a request leads to. -/
def lead (q : Outgoing) (reply : Reply) : Lead :=
  match reply with
  | .response r =>
    match q.referred? r with
    | some (.ok next) => .on next
    | some (.error address) => .last (.broken (.foreign address))
    -- a response that refers to nothing is the answer, whatever its status is
    | none => .last reply
  | _ => .last reply

end Outgoing

/-- How often a request goes out again. -/
def maxRedirects : Nat := 10

/-! ## Journeys -/

/-- The journey of a request. -/
structure Journey where
  /-- What finally comes back. -/
  reply : Reply
  /-- The service afterwards. -/
  service : Service
  /-- What has gone out, in order. -/
  legs : List Leg

/-- The journey of a request that may go out again so many times. -/
def Service.follow (hears : Url → Bool) (s : Service) (q : Outgoing) : Nat → Journey
  | 0 =>
    let (reply, s) := s.answer hears q.url
    let final := match q.lead reply with
      | .last final => final
      | .on _ => .broken (.endless q.url)
    { reply := final, service := s, legs := [⟨q, reply⟩] }
  | times + 1 =>
    let (reply, s) := s.answer hears q.url
    match q.lead reply with
    | .last final => { reply := final, service := s, legs := [⟨q, reply⟩] }
    | .on next =>
      let rest := s.follow hears next times
      { rest with legs := ⟨q, reply⟩ :: rest.legs }

/-- How the requests of a client are carried. -/
inductive Carrier where
  /-- The replies are read from a script, one for each request. -/
  | script
  /-- Requests go out over connections; something listens at these addresses. -/
  | network (hears : Url → Bool)

/-- The journey of a request with a carrier. -/
def Service.carry (s : Service) (q : Outgoing) : Carrier → Journey
  -- no address and no reply is looked at
  | .script => { reply := s.next.1, service := s.next.2, legs := [⟨q, s.next.1⟩] }
  | .network hears => s.follow hears q maxRedirects

end RemoteConsole
