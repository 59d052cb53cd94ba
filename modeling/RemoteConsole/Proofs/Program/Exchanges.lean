import RemoteConsole.Program.Work
import RemoteConsole.Proofs.Console.Evaluation
import RemoteConsole.Proofs.Service.Address
import RemoteConsole.Proofs.Service.Journey

/-!
# The requests of a run

A run of the program makes one request to list the sessions or to reach one, and
in the second case its console makes the others. Whatever the settings are, one
client makes them all, one after the other, and what goes over connections goes
for them.

* `Target.request`, `Target.Gives` — the request that reaches a session, and the
  replies that give one.
* `Purpose.exchanges` — the exchanges of a run; `Purpose.legs_work` says that
  what goes over connections is theirs.
* `Client.evaluations_spec` — what follows the first request is evaluated in the
  session that is given for it.
* `Client.Carries.travels` — over a network every request goes on a journey of
  its own.
-/

namespace RemoteConsole

/-! ## Reaching a session -/

namespace Target

/-- The request that reaches a session. -/
def request : Target → Request
  | existing id => ⟨.get, "sessions/py/" ++ toString id.value, none⟩
  | fresh => ⟨.post, "sessions/py", none⟩

theorem method_request_ne (t : Target) : t.request.method ≠ .put := by
  cases t <;> simp [request]

/-- The replies that give a session: the one that was asked for, or the one
whose id is the body. -/
def Gives : Target → Reply → SessionId → Prop
  | existing given, reply, id => id = given ∧ ∃ r, reply = .response r ∧ r.status = 200
  | fresh, reply, id => ∃ r, reply = .response r ∧ r.status = 201 ∧ SessionId.parse r.text = .ok id

theorem Gives.exists_response {t : Target} {reply : Reply} {id : SessionId} (h : t.Gives reply id) :
    ∃ r, reply = .response r := by
  cases t with
  | existing given => exact ⟨h.2.choose, h.2.choose_spec.1⟩
  | fresh => exact ⟨h.choose, h.choose_spec.1⟩

/-- The operation of a client that reaches a session. -/
def operation : Target → Operation
  | existing id => .bind id
  | fresh => .create

end Target

namespace Client

variable {c : Client}

/-- Reaching a session is one of the operations of a client, with the id as its
answer, so that what is known of all operations holds of it. -/
theorem perform_operation (c : Client) (t : Target) :
    c.perform t.operation = (c.attach t).map (Answer.ofOption .session) := by
  cases t <;> rfl

/-- To reach a session a client makes one request and sends it on its
journey. -/
theorem attach_spec (h : c.isClosed = false) (t : Target) :
    (c.attach t).requests = [t.request] ∧ (c.attach t).legs = (c.journey t.request).legs ∧
      (c.attach t).client = c.afterward t.request := by
  have hRequest : t.operation.request? = some t.request := by cases t <;> rfl
  have hServes := serves_of_open h t.operation fun r hr => by
    obtain rfl := Option.some.inj (hRequest.symm.trans hr)
    rfl
  obtain ⟨hClient, hLegs⟩ := perform_of_request h t.operation hRequest
  have hRequests := hServes.requests_eq
  rw [hRequest] at hRequests
  rw [perform_operation] at hRequests hClient hLegs
  exact ⟨hRequests, hLegs, hClient⟩

/-- A request that is only good with one status brings a value only if there has
been a response, it has that status, and the value is read from its body. -/
theorem exists_response_of_ok {α : Type} {r : Request} {action : String} {expected : Nat}
    {f : Response → Outcome α} {a : α} (h : c.isClosed = false)
    (hOk : ((c.send r).andThen (expect action expected f)).outcome = .ok (some a)) :
    ∃ response, (c.journey r).reply = .response response ∧ response.status = expected ∧
      f response = .ok a := by
  rw [send_of_open h] at hOk
  cases hReply : (c.journey r).reply with
  | response response =>
    rw [hReply] at hOk
    change (expect action expected f response).1 = .ok (some a) at hOk
    refine ⟨response, rfl, ?_⟩
    -- another status gives nothing
    by_cases hStatus : response.status = expected
    · rw [expect_of_eq hStatus] at hOk
      obtain ⟨b, hValue, hSome⟩ := Outcome.map_eq_ok.mp hOk
      rw [Option.some.inj hSome] at hValue
      exact ⟨hStatus, hValue⟩
    · rw [expect_of_ne hStatus] at hOk
      cases hOk
  | unreachable cause | broken cause | silence =>
    -- without a response there is nothing to look at
    rw [hReply] at hOk
    cases hOk

/-- A session that is reached is given by what comes back in the end. -/
theorem gives_of_attach (h : c.isClosed = false) {t : Target} {id : SessionId}
    (hOk : (c.attach t).outcome = .ok (some id)) : t.Gives (c.journey t.request).reply id := by
  cases t with
  | existing given =>
    obtain ⟨r, hReply, hStatus, hId⟩ := exists_response_of_ok h hOk
    obtain rfl : given = id := by simpa using hId
    exact ⟨rfl, r, hReply, hStatus⟩
  | fresh =>
    obtain ⟨r, hReply, hStatus, hId⟩ := exists_response_of_ok h hOk
    refine ⟨r, hReply, hStatus, ?_⟩
    cases hParse : SessionId.parse r.text with
    | ok found => simpa [hParse] using hId
    | error e => simp [hParse] at hId

/-- To list the sessions a client makes one request and sends it on its
journey. -/
theorem list_spec (h : c.isClosed = false) :
    c.list.requests = [⟨.get, "sessions/py", none⟩] ∧
      c.list.legs = (c.journey ⟨.get, "sessions/py", none⟩).legs := by
  have hServes := serves_of_open h .list fun r hr => by
    obtain rfl := Option.some.inj hr
    rfl
  exact ⟨hServes.requests_eq, (perform_of_request h .list rfl).2⟩

end Client

/-! ## The exchanges of a run -/

/-- The evaluations that follow once a session is reached. -/
def Client.evaluations (c : Client) (t : Target) (prompts : Prompts) (terminal : Terminal) :
    List Exchange :=
  match c.conversation? t prompts terminal with
  | some conversation => conversation.exchanges conversation.turnsNeeded
  | none => []

/-- The exchanges of a run. -/
def Purpose.exchanges (p : Purpose) (c : Client) (prompts : Prompts) (terminal : Terminal) :
    List Exchange :=
  match p with
  | .list _ => c.list.requests.map (c.exchange false)
  | .talk t =>
    (c.attach t).requests.map (c.exchange false) ++ c.evaluations t prompts terminal

section

variable {c : Client} {t : Target} {prompts : Prompts} {terminal : Terminal}

/-- Listing the sessions is one exchange. -/
theorem Purpose.exchanges_list (h : c.isClosed = false) (json : Bool) :
    (Purpose.list json).exchanges c prompts terminal =
      [c.exchange false ⟨.get, "sessions/py", none⟩] := by
  rw [exchanges, (Client.list_spec h).1]
  rfl

/-- Talking to a session is the exchange that reaches it, and then the exchanges
of the console. -/
theorem Purpose.exchanges_talk (h : c.isClosed = false) :
    (Purpose.talk t).exchanges c prompts terminal =
      c.exchange false t.request :: c.evaluations t prompts terminal := by
  rw [exchanges, (Client.attach_spec h t).1]
  rfl

/-- What goes over connections while a session is talked to is what goes over
for the first request, and then what goes over for the evaluations. -/
theorem Client.legs_talk (h : c.isClosed = false) :
    (c.talk t prompts terminal).legs =
      (c.journey t.request).legs ++ (c.evaluations t prompts terminal).flatMap Exchange.legs := by
  have hAttach := (attach_spec h t).2.1
  unfold talk evaluations conversation?
  dsimp only
  -- without a session the work ends with the first request
  cases (c.attach t).outcome with
  | ok reached =>
    cases reached with
    | some id =>
      dsimp only
      rw [hAttach, Conversation.legs_exchanges]
      rfl
    | none => simp [hAttach]
  | error e => simp [hAttach]
  | pending => simp [hAttach]

/-- All that goes over connections in a run goes for the requests of its
exchanges. -/
theorem Purpose.legs_work (h : c.isClosed = false) (p : Purpose) :
    (p.work c prompts terminal).legs = (p.exchanges c prompts terminal).flatMap Exchange.legs := by
  cases p with
  | list json =>
    have hList := (Client.list_spec h).2
    rw [exchanges_list h]
    -- what is printed of a listing sends nothing
    unfold work Client.printList
    dsimp only
    split <;> simp [hList, Client.exchange]
  | talk t =>
    rw [exchanges_talk h, work, Client.legs_talk h]
    rfl

/-- There is a conversation only if a session has been reached, and it begins
where reaching the session has left the client. -/
theorem Client.conversation?_eq_some {k : Conversation}
    (h : c.conversation? t prompts terminal = some k) :
    ∃ id, (c.attach t).outcome = .ok (some id) ∧
      k.console = (c.attach t).client.console id prompts := by
  unfold conversation? at h
  dsimp only at h
  split at h
  · next id hOutcome =>
    obtain rfl := Option.some.inj h
    exact ⟨id, hOutcome, rfl⟩
  · cases h

/-- What follows the first request is evaluated in the session that is given for
it. -/
theorem Client.evaluations_spec (h : c.isClosed = false) (t : Target) (prompts : Prompts)
    (terminal : Terminal) :
    c.evaluations t prompts terminal = [] ∨ ∃ id, t.Gives (c.journey t.request).reply id ∧
      (c.afterward t.request).Evaluates id (c.evaluations t prompts terminal) := by
  unfold evaluations
  split
  · next k hSome =>
    obtain ⟨id, hOk, hConsole⟩ := conversation?_eq_some hSome
    -- the console has the session that was given, and the client as the first
    -- request has left it
    have hRun := k.evaluates_exchanges k.turnsNeeded
    rw [hConsole] at hRun
    rw [← (attach_spec h t).2.2]
    exact .inr ⟨id, gives_of_attach h hOk, hRun⟩
  · exact .inl rfl

/-- A run carries its exchanges one after the other. -/
theorem Purpose.carries_exchanges (h : c.isClosed = false) (p : Purpose) :
    c.Carries (p.exchanges c prompts terminal) := by
  cases p with
  | list json =>
    rw [exchanges_list h]
    exact ⟨rfl, trivial⟩
  | talk t =>
    rw [exchanges_talk h]
    refine ⟨rfl, ?_⟩
    rcases c.evaluations_spec h t prompts terminal with hNil | ⟨id, -, hEvaluates⟩
    · rw [hNil]
      trivial
    · exact hEvaluates.carries

/-- Every request of a run is below the route of all sessions, be it the
listing, the first request for a session or an evaluation in it. -/
theorem Purpose.path_exchanges (h : c.isClosed = false) (p : Purpose) :
    ∀ e ∈ p.exchanges c prompts terminal, ∃ behind, e.request.path = Route.sessions ++ behind := by
  intro e he
  cases p with
  | list json =>
    rw [exchanges_list h] at he
    obtain rfl := List.mem_singleton.mp he
    exact ⟨"", rfl⟩
  | talk t =>
    rw [exchanges_talk h] at he
    rcases List.mem_cons.mp he with rfl | hRest
    · cases t with
      | existing id => exact ⟨_, Route.session_eq id⟩
      | fresh => exact ⟨"", rfl⟩
    -- the evaluations name the session in their route, whichever it is
    · rcases c.evaluations_spec h t prompts terminal with hNil | ⟨id, -, hEvaluates⟩
      · rw [hNil] at hRest
        cases hRest
      · obtain ⟨code, hRequest⟩ := hEvaluates.request_eq e hRest
        rw [hRequest]
        exact ⟨_, Route.session_eq id⟩

end

/-- Over a network the service answers what goes out, and every request goes on
a journey of its own. -/
theorem Client.Carries.travels {c : Client} {hears : Url → Bool} {course : List Exchange}
    (h : c.Carries course) (hNetwork : c.carrier = .network hears) :
    (∃ left, c.service.Answers hears (course.flatMap Exchange.legs) left) ∧
      ∀ e ∈ course, Travels maxRedirects (c.endpoint.outgoing e.request) e.legs e.reply := by
  induction course generalizing c with
  | nil => exact ⟨⟨c.service, rfl⟩, by simp⟩
  | cons e rest ih =>
    obtain ⟨hExchange, hRest⟩ := h
    obtain ⟨⟨left, hAnswers⟩, hTravels⟩ := ih hRest hNetwork
    -- over a network a journey is what the service makes of following the
    -- request
    have hJourney : c.journey e.request =
        c.service.follow hears (c.endpoint.outgoing e.request) maxRedirects := by
      unfold journey
      rw [hNetwork]
      rfl
    have hLegs : e.legs = (c.journey e.request).legs := congrArg Exchange.legs hExchange.symm
    have hReply : e.reply = (c.journey e.request).reply := congrArg Exchange.reply hExchange.symm
    constructor
    · refine ⟨left, ?_⟩
      -- what the service still answers after this journey is what the others
      -- begin with
      rw [List.flatMap_cons, hLegs, hJourney]
      refine (c.service.answers_follow ..).append ?_
      rw [← hJourney]
      exact hAnswers
    · intro e' he'
      rcases List.mem_cons.mp he' with rfl | he'
      · rw [hLegs, hReply, hJourney]
        exact c.service.travels_follow ..
      · exact hTravels e' he'

end RemoteConsole
