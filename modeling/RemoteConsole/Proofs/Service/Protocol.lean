import RemoteConsole.Service.Client

/-!
# The protocol of a client

A client is asked for one thing after the other, and it does not remember what
came of them: all that changes is which reply comes next, and whether it has
been closed. Up to the first close every operation but that one makes the one
request of its route, whatever the replies before it were. From the first close
on nothing is requested any more and every operation finds the client closed.

* `Operation`, `Client.perform`, `Client.performAll` — what a client can be
  asked for, once or again and again.
* `Operation.request?`, `Operation.warning?` — the request of an operation, and
  the warning that a reply to it is worth.
* `Call.Serves`, `Call.Refuses` — what a call comes to up to the first close and
  after it.
* `Client.serves_of_open`, `Client.perform_of_closed` — one operation.
* `Client.performAll_protocol` — every call of every run of operations is of one
  of these two kinds.
-/

namespace RemoteConsole

/-! ## Operations -/

/-- What a client can be asked for. -/
inductive Operation where
  /-- All sessions of the service. -/
  | list
  /-- A new session. -/
  | create
  /-- An existing session. -/
  | bind (id : SessionId)
  /-- The text that code in a session gives back. -/
  | eval (id : SessionId) (code : String)
  /-- The end of the client, asked of the client itself or of one of its
  sessions. -/
  | close (through : Option SessionId)
  deriving DecidableEq, Repr

/-- What an operation gives back. -/
inductive Answer where
  /-- Nothing: the service has answered with another status than the one asked
  for. -/
  | absent
  | sessions (l : Listing)
  | session (id : SessionId)
  | text (t : String)
  /-- The client has been closed. -/
  | done
  deriving DecidableEq, Repr

/-- An answer that may be absent. -/
def Answer.ofOption {α : Type} (f : α → Answer) (value : Option α) : Answer :=
  value.elim absent f

/-- What an outcome comes to when its value is changed. -/
def Outcome.map {α β : Type} (f : α → β) : Outcome α → Outcome β
  | ok a => ok (f a)
  | error e => error e
  | pending => pending

@[simp]
theorem Outcome.map_eq_ok {α β : Type} {f : α → β} {o : Outcome α} {b : β} :
    o.map f = .ok b ↔ ∃ a, o = .ok a ∧ f a = b := by
  cases o <;> simp [map]

@[simp]
theorem Outcome.map_eq_error {α β : Type} {f : α → β} {o : Outcome α} {e : ClientError} :
    o.map f = .error e ↔ o = .error e := by
  cases o <;> simp [map]

/-- A call with its value changed, and nothing else of it. -/
def Call.map {α β : Type} (f : α → β) (call : Call α) : Call β where
  outcome := call.outcome.map f
  client := call.client
  requests := call.requests
  legs := call.legs
  warnings := call.warnings

namespace Client

/-- One operation. -/
def perform (c : Client) : Operation → Call Answer
  | .list => c.list.map (Answer.ofOption .sessions)
  | .create => c.create.map (Answer.ofOption .session)
  | .bind id => (c.bind id).map (Answer.ofOption .session)
  | .eval id code => (c.eval id code).map .text
  | .close _ =>
    match c.close with
    | .ok closed => { outcome := .ok .done, client := closed }
    | .error e => { outcome := .error e, client := c }

/-- Operations one after the other, each on the client that the one before has
left. -/
def performAll (c : Client) : List Operation → List (Call Answer)
  | [] => []
  | op :: rest => c.perform op :: performAll (c.perform op).client rest

end Client

namespace Operation

/-- Whether an operation ends the client. -/
def isClose : Operation → Bool
  | close _ => true
  | _ => false

/-- The request of an operation. -/
def request? : Operation → Option Request
  | list => some ⟨.get, "sessions/py", none⟩
  | create => some ⟨.post, "sessions/py", none⟩
  | bind id => some ⟨.get, "sessions/py/" ++ toString id.value, none⟩
  | eval id code => some ⟨.put, "sessions/py/" ++ toString id.value, some code⟩
  | close _ => none

/-- The status that an operation asks for, with what has failed if another one
comes. -/
def demand? : Operation → Option (String × Nat)
  | list => some ("GET sessions failed", 200)
  | create => some ("POST new session failed", 201)
  | bind _ => some ("GET session failed", 200)
  | eval .. | close _ => none

end Operation

/-- The warning that a reply is worth when a status is asked for. -/
def Reply.warning? (reply : Reply) (action : String) (expected : Nat) : Option Warning :=
  match reply with
  | .response r => if r.status = expected then none else some ⟨action, expected, r.status⟩
  | _ => none

/-- The warning that a reply to an operation is worth. -/
def Operation.warning? (op : Operation) (reply : Reply) : Option Warning :=
  op.demand?.bind fun (action, expected) => reply.warning? action expected

/-- Only a response is worth a warning. -/
theorem Operation.warning?_eq_none (op : Operation) {reply : Reply}
    (h : ∀ response, reply ≠ .response response) : op.warning? reply = none := by
  cases reply with
  | response response => exact absurd rfl (h response)
  | unreachable cause | broken cause | silence => cases op <;> rfl

/-- The reply to the request with a number, counted from zero. -/
def Service.reply (s : Service) (i : Nat) : Reply :=
  s.replies.getD i s.afterwards

theorem Service.next_fst (s : Service) : s.next.1 = s.reply 0 := by
  obtain ⟨replies, afterwards⟩ := s
  cases replies <;> rfl

/-- When one reply has come the others are one nearer. -/
theorem Service.reply_next (s : Service) (i : Nat) : s.next.2.reply i = s.reply (i + 1) := by
  obtain ⟨replies, afterwards⟩ := s
  cases replies with
  | nil => simp [next, reply]
  | cons first rest => simp [next, reply]

/-! ## One call -/

/-- What an operation on an open client comes to when a reply comes to its
request: that one request and no other, a warning and an absent answer exactly
if the status is not the one asked for, and no end of the client unless it is
closed. -/
structure Call.Serves (op : Operation) (reply : Reply) (call : Call Answer) : Prop where
  requests_eq : call.requests = op.request?.toList
  warnings_eq : call.warnings = (op.warning? reply).toList
  absent_iff : call.outcome = .ok .absent ↔ (op.warning? reply).isSome = true
  done_iff : call.outcome = .ok .done ↔ op.isClose = true
  ne_closed : call.outcome ≠ .error .closed
  isClosed_eq : call.client.isClosed = op.isClose

/-- What every operation on a closed client comes to. -/
structure Call.Refuses (call : Call Answer) : Prop where
  requests_eq : call.requests = []
  warnings_eq : call.warnings = []
  outcome_eq : call.outcome = .error .closed
  isClosed_eq : call.client.isClosed = true

namespace Client

variable {c : Client}

/-- The client after the journey of a request, which has changed nothing but
what the service answers. -/
def afterward (c : Client) (r : Request) : Client :=
  { c with service := (c.journey r).service }

/-- An open client sends a request on its journey and reads what comes back. -/
theorem send_of_open (h : c.isClosed = false) (r : Request) :
    c.send r =
      { outcome := c.interpret r (c.journey r).reply
        client := c.afterward r
        requests := [r]
        legs := (c.journey r).legs } := by
  simp [send, afterward, h]

/-- A script is read from one reply to the next, whatever is requested. -/
theorem journey_of_script (h : c.carrier = .script) (r : Request) :
    (c.journey r).reply = c.service.next.1 ∧ (c.journey r).service = c.service.next.2 := by
  unfold journey
  rw [h]
  exact ⟨rfl, rfl⟩

/-- Once a client is closed, nothing but that comes of an operation. All
operations that make a request go through the same check, so there are two cases
and not five. -/
theorem perform_of_closed (h : c.isClosed = true) (op : Operation) :
    c.perform op = { outcome := .error .closed, client := c } := by
  -- all operations but one are a request and what is made of the response
  have key {α : Type} (r : Request) (f : Response → Outcome α × List Warning) (g : α → Answer) :
      ((c.send r).andThen f).map g = { outcome := .error .closed, client := c } := by
    rw [send_of_closed h]
    rfl
  cases op with
  | list | create | bind id | eval id code => exact key _ _ _
  | close through => simp [perform, close, h]

/-- Every operation on a closed client is refused. -/
theorem refuses_of_closed (h : c.isClosed = true) (op : Operation) : (c.perform op).Refuses := by
  rw [perform_of_closed h]
  exact ⟨rfl, rfl, rfl, h⟩

/-- A request that no response comes to: whatever it was for, it has been made,
and that is all. No warning is given, as there is no status to warn of. -/
theorem serves_of_unanswered {α : Type} {op : Operation} {r : Request}
    {f : Response → Outcome α × List Warning} {g : α → Answer} (h : c.isClosed = false)
    (hRequest : op.request? = some r) (hClose : op.isClose = false)
    (hReply : ∀ response, (c.journey r).reply ≠ .response response) :
    (((c.send r).andThen f).map g).Serves op (c.journey r).reply := by
  have hWarning : op.warning? (c.journey r).reply = none :=
    Operation.warning?_eq_none op hReply
  rw [send_of_open h]
  cases hCase : (c.journey r).reply with
  | response response => exact absurd hCase (hReply response)
  | unreachable cause | broken cause | silence =>
    rw [hCase] at hWarning
    -- each of the other replies has an outcome of its own, and none of them
    -- looks at `f`
    constructor <;>
      simp [Call.map, Call.andThen, interpret, afterward, hWarning, hRequest, hClose, h, Outcome.map]

/-- A response with the status that is asked for is read. -/
theorem expect_of_eq {α : Type} {action : String} {expected : Nat} {f : Response → Outcome α}
    {r : Response} (h : r.status = expected) :
    expect action expected f r = ((f r).map some, []) := by
  unfold expect
  rw [if_pos h]
  cases f r <;> rfl

/-- A response with another status gives a warning and an absent answer,
whatever its body holds. -/
theorem expect_of_ne {α : Type} {action : String} {expected : Nat} {f : Response → Outcome α}
    {r : Response} (h : r.status ≠ expected) :
    expect action expected f r = (.ok none, [⟨action, expected, r.status⟩]) := by
  unfold expect
  rw [if_neg h]

/-- A request that is only good with one status: another one is the warning and
the absent answer, and with that one nothing is absent. -/
theorem serves_expect {α : Type} {op : Operation} {r : Request} {action : String} {expected : Nat}
    {f : Response → Outcome α} {g : α → Answer} (h : c.isClosed = false)
    (hRequest : op.request? = some r) (hDemand : op.demand? = some (action, expected))
    (hClose : op.isClose = false) (hf : ∀ response, f response ≠ .error .closed)
    (hAbsent : ∀ a, g a ≠ .absent) (hDone : ∀ a, g a ≠ .done) :
    (((c.send r).andThen (expect action expected f)).map (Answer.ofOption g)).Serves op
      (c.journey r).reply := by
  cases hReply : (c.journey r).reply with
  | response response =>
    rw [send_of_open h, hReply]
    -- the status decides between the body and the warning
    by_cases hStatus : response.status = expected
    · -- the response is read, and what that comes to is neither absent nor the end of the client
      have hWarning : op.warning? (.response response) = none := by
        simp [Operation.warning?, hDemand, Reply.warning?, hStatus]
      constructor <;>
        simp [Call.map, Call.andThen, interpret, afterward, expect_of_eq hStatus, hRequest, hWarning, hClose, h,
          Answer.ofOption, hAbsent, hDone, hf]
    · -- the body is not looked at
      have hWarning : op.warning? (.response response) =
          some ⟨action, expected, response.status⟩ := by
        simp [Operation.warning?, hDemand, Reply.warning?, hStatus]
      constructor <;>
        simp [Call.map, Call.andThen, interpret, afterward, expect_of_ne hStatus, hRequest, hWarning, hClose, h,
          Outcome.map, Answer.ofOption]
  | unreachable cause | broken cause | silence =>
    rw [← hReply]
    exact serves_of_unanswered h hRequest hClose (by simp [hReply])

/-- Code is evaluated, and any response will do. -/
theorem serves_eval (h : c.isClosed = false) (id : SessionId) (code : String) :
    (c.perform (.eval id code)).Serves (.eval id code)
      (c.journey ⟨.put, Route.session id, some code⟩).reply := by
  have hRequest : (Operation.eval id code).request? =
      some ⟨.put, Route.session id, some code⟩ := rfl
  change (((c.send _).andThen _).map Answer.text).Serves _ _
  cases hReply : (c.journey ⟨.put, Route.session id, some code⟩).reply with
  | response response =>
    -- whatever its status, the response is the answer
    rw [send_of_open h, hReply]
    constructor <;>
      simp [Call.map, Call.andThen, interpret, afterward, Outcome.map, hRequest, Operation.warning?,
        Operation.demand?, Operation.isClose, h]
  | unreachable cause | broken cause | silence =>
    rw [← hReply]
    exact serves_of_unanswered h hRequest rfl (by simp [hReply])

/-- All that an operation on an open client does, to the client and over
connections, is the journey of its request, unless it closes the client. -/
theorem perform_of_request (h : c.isClosed = false) (op : Operation) {r : Request}
    (hRequest : op.request? = some r) :
    (c.perform op).client = c.afterward r ∧ (c.perform op).legs = (c.journey r).legs := by
  -- what is made of the reply does not touch the client
  have key {α : Type} (r : Request) (f : Response → Outcome α × List Warning) (g : α → Answer) :
      (((c.send r).andThen f).map g).client = c.afterward r ∧
        (((c.send r).andThen f).map g).legs = (c.journey r).legs := by
    rw [send_of_open h]
    unfold Call.map Call.andThen
    split <;> exact ⟨rfl, rfl⟩
  cases op with
  | list | create | bind id | eval id code =>
    obtain rfl := Option.some.inj hRequest
    exact key _ _ _
  | close through => cases hRequest

/-- An operation on an open client does what is asked of it, whatever comes of
the journey of its request. -/
theorem serves_of_open (h : c.isClosed = false) (op : Operation) {reply : Reply}
    (hReply : ∀ r ∈ op.request?, (c.journey r).reply = reply) : (c.perform op).Serves op reply := by
  -- the operations differ in their status and in what is read of the body
  cases op with
  | list =>
    rw [← hReply _ rfl]
    refine serves_expect h rfl rfl rfl (fun response => ?_) (by simp) (by simp)
    cases Listing.decode response.body <;> simp
  | create =>
    rw [← hReply _ rfl]
    refine serves_expect h rfl rfl rfl (fun response => ?_) (by simp) (by simp)
    cases SessionId.parse response.text <;> simp
  | bind id =>
    rw [← hReply _ rfl]
    exact serves_expect h rfl rfl rfl (by simp) (by simp) (by simp)
  | eval id code =>
    rw [← hReply _ rfl]
    exact serves_eval h id code
  -- the client is closed without a request
  | close through =>
    constructor <;>
      simp [perform, close, h, Operation.request?, Operation.warning?, Operation.demand?,
        Operation.isClose]

/-! ## Runs of operations -/

/-- Every operation has its call. -/
theorem length_performAll (c : Client) (ops : List Operation) :
    (c.performAll ops).length = ops.length := by
  induction ops generalizing c with
  | nil => rfl
  | cons op rest ih => simp [performAll, ih]

/-- After the end of the client every operation is refused. -/
theorem performAll_of_closed {call : Call Answer} (h : c.isClosed = true) {ops : List Operation}
    (hCall : call ∈ c.performAll ops) : call.Refuses := by
  induction ops with
  | nil => cases hCall
  | cons op rest ih =>
    simp only [performAll, List.mem_cons] at hCall
    -- a refused operation leaves the client closed for the next one
    obtain rfl | hCall := hCall
    · exact refuses_of_closed h op
    · rw [perform_of_closed h] at hCall
      exact ih hCall

/-- Every operation but the end of the client has a request. -/
theorem exists_request? {op : Operation} (h : op.isClose = false) : ∃ r, op.request? = some r := by
  cases op with
  | list | create | bind id | eval id code => exact ⟨_, rfl⟩
  | close through => cases h

/-- An operation on an open client is served by the next reply of the script. -/
theorem serves_of_script (h : c.isClosed = false) (hScript : c.carrier = .script) (op : Operation) :
    (c.perform op).Serves op (c.service.reply 0) := by
  refine serves_of_open h op fun r _ => ?_
  rw [(journey_of_script hScript r).1, Service.next_fst]

/-- The run of an open client whose replies are read from a script, from the
reply on that comes next. The induction is on the operations, and the place in
the run is what both sides are counted by. -/
theorem performAll_of_open (h : c.isClosed = false) (hScript : c.carrier = .script) {ops : List Operation}
    {i : Nat} {op : Operation} {call : Call Answer} (hOp : ops[i]? = some op)
    (hCall : (c.performAll ops)[i]? = some call) :
    if (ops.take i).any Operation.isClose then call.Refuses
    else call.Serves op (c.service.reply i) := by
  induction ops generalizing c i with
  | nil => simp at hOp
  | cons first rest ih =>
    cases i with
    -- the first operation, of which one step tells all
    | zero =>
      obtain rfl : first = op := by simpa using hOp
      obtain rfl : c.perform first = call := by simpa [performAll] using hCall
      simpa using serves_of_script h hScript first
    | succ i =>
      have hOp : rest[i]? = some op := by simpa using hOp
      have hCall : ((c.perform first).client.performAll rest)[i]? = some call := by
        simpa [performAll] using hCall
      cases hFirst : first.isClose with
      | true =>
        -- the client has been closed, and the rest of the run is refused
        have hClosed : (c.perform first).client.isClosed = true := by
          rw [(serves_of_script h hScript first).isClosed_eq, hFirst]
        simpa [hFirst] using performAll_of_closed hClosed (List.mem_of_getElem? hCall)
      | false =>
        -- the rest of the run begins on the same client, one reply further on
        obtain ⟨r, hRequest⟩ := exists_request? hFirst
        rw [(perform_of_request h first hRequest).1] at hCall
        have hRest := ih (c := c.afterward r) h hScript hOp hCall
        have hReply : (c.afterward r).service.reply i = c.service.reply (i + 1) := by
          rw [← Service.reply_next, ← (journey_of_script hScript r).2]
          rfl
        rw [hReply] at hRest
        simpa [hFirst] using hRest

/-- **The protocol of a client.** In every run of operations on an open client,
whatever becomes of their requests, every operation up to the first close, and
that one too, is served by the reply of its place in the run, and every
operation after it is refused. -/
theorem performAll_protocol (endpoint : Endpoint) (service : Service) (ops : List Operation) :
    let calls := performAll { endpoint, service } ops
    calls.length = ops.length ∧
    ∀ i op call, ops[i]? = some op → calls[i]? = some call →
      if (ops.take i).any Operation.isClose then call.Refuses
      else call.Serves op (service.reply i) :=
  ⟨length_performAll _ ops, fun _ _ _ hOp hCall => performAll_of_open rfl rfl hOp hCall⟩

/-- A listing that is refused, code that is never answered, the end of the
client through its session, and a request too late. -/
theorem performAll_protocol_of_mishaps :
    let id : SessionId := ⟨3, by decide, by decide⟩
    let service : Service :=
      { replies := [.response { status := 500, body := [] }, .silence]
        afterwards := .response { status := 200, body := [] } }
    let calls := performAll { endpoint := ⟨fun path => path, ""⟩, service }
      [.list, .eval id "1", .close (some id), .bind id]
    ∃ first second third fourth, calls = [first, second, third, fourth] ∧
      first.outcome = .ok .absent ∧
      second.requests = [⟨.put, "sessions/py/3", some "1"⟩] ∧
      third.outcome = .ok .done ∧ fourth.Refuses := by
  intro id service calls
  have h := (performAll_protocol ⟨fun path => path, ""⟩ service
    [.list, .eval id "1", .close (some id), .bind id]).2
  -- each call is read off the general statement at its place
  refine ⟨_, _, _, _, rfl, ?_, ?_, ?_, ?_⟩
  · exact (h 0 .list _ rfl rfl).absent_iff.mpr rfl
  · exact (h 1 (.eval id "1") _ rfl rfl).requests_eq.trans (by decide +kernel)
  · exact (h 2 (.close (some id)) _ rfl rfl).done_iff.mpr rfl
  · exact h 3 (.bind id) _ rfl rfl

end Client

end RemoteConsole
