import RemoteConsole.Program.Run
import RemoteConsole.Proofs.Program.Exchanges

/-!
# One run, one session

A run of the program asks one server, and after its first request it asks for
one session at most: the one that the command line names or the one that the
server has just created. There is none if the server gives none, and then
nothing follows the first request.

What goes out over connections is this course of requests only while the server
refers to no other place. A request that is answered elsewhere goes out again to
wherever the answer says, and of its whole journey the program sees no more than
the reply in the end: a server that refers the request for a session to any
other page is believed to have the session if it has the page.

* `Attempt`, `Target.Course`, `Invocation.Course` — a request that is attempted,
  and the attempts that belong to a run.
* `Exchange.Repeats` — whatever goes out for a request is that request.
* `Invocation.course_attempts_iff` — when what goes out is what belongs to the
  run.
* `Program.run_course` — what every run requests, and what goes out for it.
-/

namespace RemoteConsole

/-! ## What a run attempts -/

/-- A request as it goes out to a service for the first time. -/
def Connection.outgoing (place : Connection) (r : Request) : Outgoing where
  method := r.method
  url := place.baseUrl ++ Route.root place.context ++ r.path
  authorization := some place.authorization
  body := r.body

/-- A request that is attempted, and what becomes of it. -/
structure Attempt where
  request : Outgoing
  reply : Reply
  /-- Whether an interrupt comes meanwhile. -/
  interrupted : Bool
  deriving DecidableEq, Repr

namespace Exchange

/-- An exchange as a single attempt, with what comes back in the end. -/
def whole (place : Connection) (e : Exchange) : Attempt where
  request := place.outgoing e.request
  reply := e.reply
  interrupted := e.interrupted

/-- The attempts of an exchange: all that goes out for it. -/
def attempts (e : Exchange) : List Attempt :=
  e.legs.map fun leg => ⟨leg.request, leg.reply, e.interrupted⟩

/-- What is attempted is what goes out. -/
theorem request_attempts (course : List Exchange) :
    (course.flatMap attempts).map Attempt.request = (course.flatMap legs).map Leg.request := by
  simp [attempts, List.map_flatMap, Function.comp_def]

/-- Whatever goes out for a request after it has gone out once is the same
evaluation at the same address. -/
def Repeats (place : Connection) (e : Exchange) : Prop :=
  ∀ leg ∈ e.legs.tail, e.request.method = .put ∧ leg.request = place.outgoing e.request

end Exchange

/-- The attempts of a run with a session: the one that reaches it, and the ones
that follow. -/
structure Target.Course (t : Target) (place : Connection) (first : Attempt) (rest : List Attempt) :
    Prop where
  first_eq : first.request = place.outgoing t.request
  /-- Whatever follows evaluates in one session, which the first reply gives. -/
  session : rest ≠ [] → ∃ id, t.Gives first.reply id ∧ ∀ a ∈ rest, ∃ code : String,
    a.request = place.outgoing ⟨.put, "sessions/py/" ++ toString id.value, some code⟩
  /-- Nothing follows an evaluation before it is settled. -/
  settles : ∀ a ∈ rest.dropLast, a.reply.Settles a.interrupted

/-- The attempts of a run for an invocation. -/
structure Invocation.Course (i : Invocation) (place : Connection) (attempts : List Attempt) : Prop where
  url_below : ∀ a ∈ attempts, ∃ path, a.request.url = place.baseUrl ++ Route.root place.context ++ path
  authorization_eq : ∀ a ∈ attempts, a.request.authorization = some place.authorization
  listing : i.session = none → i.new = false →
    attempts.map Attempt.request = [place.outgoing ⟨.get, "sessions/py", none⟩]
  existing : ∀ id, i.session = some id →
    ∃ first rest, attempts = first :: rest ∧ (Target.existing id).Course place first rest
  fresh : i.session = none → i.new = true →
    ∃ first rest, attempts = first :: rest ∧ Target.fresh.Course place first rest

/-! ## When a request goes out once -/

namespace Exchange

variable {place : Connection} {e : Exchange}

/-- What goes out first is the request itself. -/
theorem exists_attempts_cons {times : Nat}
    (h : Travels times (place.outgoing e.request) e.legs e.reply) :
    ∃ reply, e.attempts = ⟨place.outgoing e.request, reply, e.interrupted⟩ ::
      e.legs.tail.map fun leg => ⟨leg.request, leg.reply, e.interrupted⟩ := by
  obtain ⟨reply, rest, hLegs⟩ := h.exists_cons
  unfold attempts
  rw [hLegs]
  exact ⟨reply, rfl⟩

/-- Where nothing goes out but repetitions, every attempt is the request
itself. -/
theorem Repeats.request_eq {times : Nat} (h : e.Repeats place)
    (hTravels : Travels times (place.outgoing e.request) e.legs e.reply) :
    ∀ a ∈ e.attempts, a.request = place.outgoing e.request := by
  obtain ⟨reply, hAttempts⟩ := exists_attempts_cons hTravels
  rw [hAttempts]
  intro a ha
  rcases List.mem_cons.mp ha with rfl | ha
  · rfl
  · obtain ⟨leg, hLeg, rfl⟩ := List.mem_map.mp ha
    exact (h leg hLeg).2

/-- Only an evaluation is repeated, so any other request goes out once. -/
theorem Repeats.tail_eq_nil (h : e.Repeats place) (hMethod : e.request.method ≠ .put) :
    e.legs.tail = [] := by
  rw [List.eq_nil_iff_forall_not_mem]
  intro leg hLeg
  exact hMethod (h leg hLeg).1

/-- Before the last attempt for a request, all are settled, since they are
answered. -/
theorem settles_dropLast {times : Nat} {q : Outgoing} (h : Travels times q e.legs e.reply) :
    ∀ a ∈ e.attempts.dropLast, a.reply.Settles a.interrupted := by
  unfold attempts
  rw [← List.map_dropLast]
  intro a ha
  obtain ⟨leg, hLeg, rfl⟩ := List.mem_map.mp ha
  exact .inl (h.answered leg hLeg)

/-- If a request is settled, all attempts for it are. -/
theorem settles_attempts {times : Nat} {q : Outgoing} (h : Travels times q e.legs e.reply)
    (hSettles : e.reply.Settles e.interrupted) : ∀ a ∈ e.attempts, a.reply.Settles a.interrupted := by
  obtain ⟨last, hLast, hStands⟩ := h.stands
  have hLegs := List.dropLast_append_getLast? last hLast
  intro a ha
  obtain ⟨leg, hLeg, rfl⟩ := List.mem_map.mp ha
  rw [← hLegs] at hLeg
  rcases List.mem_append.mp hLeg with hLeg | hLeg
  · exact .inl (h.answered leg hLeg)
  · obtain rfl := List.mem_singleton.mp hLeg
    rcases hStands with hReply | ⟨hResponse, -⟩
    · rwa [← hReply]
    · exact .inl hResponse

/-- A response in the end is the reply to the last that has gone out. -/
theorem reply_eq {times : Nat} {q : Outgoing} (h : Travels times q e.legs e.reply)
    (hTail : e.legs.tail = []) (hResponse : ∃ r, e.reply = .response r) :
    ∀ a ∈ e.attempts, a.reply = e.reply := by
  obtain ⟨reply, rest, hLegs⟩ := h.exists_cons
  obtain ⟨last, hLast, hStands⟩ := h.stands
  obtain rfl : rest = [] := by simpa [hLegs] using hTail
  obtain rfl : ⟨q, reply⟩ = last := by simpa [hLegs] using hLast
  have hReply : e.reply = reply := by
    -- the last reply stands for the journey, or it is a response that was not
    -- followed any more
    rcases hStands with hReply | ⟨-, cause, hBroken⟩
    · exact hReply
    · obtain ⟨r, hr⟩ := hResponse
      rw [hr] at hBroken
      cases hBroken
  simp [attempts, hLegs, hReply]

end Exchange

/-- Before the last of some parts in a row, a property holds of all if it holds
of all but the last within each part, and of all in each part but the last. -/
theorem forall_mem_dropLast_flatMap {α β : Type} {f : α → List β} {P : β → Prop} {parts : List α}
    (hWithin : ∀ x ∈ parts, ∀ b ∈ (f x).dropLast, P b) (hBefore : ∀ x ∈ parts.dropLast, ∀ b ∈ f x, P b) :
    ∀ b ∈ (parts.flatMap f).dropLast, P b := by
  induction parts with
  | nil => simp
  | cons x rest ih =>
    obtain ⟨hFirst, hRest⟩ := List.forall_mem_cons.mp hWithin
    rw [List.flatMap_cons, List.dropLast_append]
    -- nothing comes from the parts behind this one, or its own last one is not
    -- the last of all
    split
    · exact hFirst
    · next hMore =>
      have hNotNil : rest ≠ [] := by
        rintro rfl
        simp at hMore
      rw [List.dropLast_cons_of_ne_nil hNotNil] at hBefore
      obtain ⟨hHere, hThere⟩ := List.forall_mem_cons.mp hBefore
      intro b hb
      rcases List.mem_append.mp hb with hb | hb
      · exact hHere b hb
      · exact ih hRest hThere b hb

/-- Of an evaluation no leg writes anything else than the evaluation, so a leg
that evaluates at the same address repeats it. -/
theorem Exchange.eq_outgoing_of_put {place : Connection} {e : Exchange} {times : Nat} {path : String}
    {code other : String} {leg : Leg}
    (h : Travels times (place.outgoing e.request) e.legs e.reply) (hLeg : leg ∈ e.legs)
    (hEvaluation : place.outgoing e.request = place.outgoing ⟨.put, path, some code⟩)
    (hRequest : leg.request = place.outgoing ⟨.put, path, some other⟩) :
    leg.request = place.outgoing e.request := by
  have hKept := h.keeps_or_reads leg hLeg
  rw [hEvaluation, hRequest] at hKept
  rw [hRequest, hEvaluation]
  rcases hKept with ⟨-, hBody⟩ | ⟨hMethod, -⟩
  · obtain rfl : other = code := Option.some.inj hBody
    rfl
  · cases hMethod

section

variable {t : Target} {place : Connection} {first : Exchange} {rest : List Exchange}

/-- Where what is attempted belongs to a run with a session, no answer has led on
to anything but a repetition. The first request cannot have become one that
writes into a session, and all that is attempted behind it does. -/
theorem Target.repeats_of_course {a : Attempt} {more : List Attempt}
    (hTravels : ∀ e ∈ first :: rest, Travels maxRedirects (place.outgoing e.request) e.legs e.reply)
    (hMethod : first.request.method ≠ .put)
    (hAttempts : (first :: rest).flatMap Exchange.attempts = a :: more) (h : t.Course place a more) :
    ∀ e ∈ first :: rest, e.Repeats place := by
  obtain ⟨hTravelsFirst, hTravelsRest⟩ := List.forall_mem_cons.mp hTravels
  obtain ⟨reply, hFirst⟩ := Exchange.exists_attempts_cons hTravelsFirst
  rw [List.flatMap_cons, hFirst, List.cons_append] at hAttempts
  obtain ⟨rfl, rfl⟩ := List.cons.inj hAttempts
  refine List.forall_mem_cons.mpr ⟨fun leg hLeg => ?_, fun e he leg hLeg => ?_⟩
  · have hMem := List.mem_append_left (rest.flatMap Exchange.attempts)
      (List.mem_map_of_mem (f := fun leg => (⟨leg.request, leg.reply, first.interrupted⟩ : Attempt)) hLeg)
    obtain ⟨id, -, hEvaluates⟩ := h.session (List.ne_nil_of_mem hMem)
    obtain ⟨code, hPut⟩ := hEvaluates _ hMem
    have hPut : leg.request.method = .put := congrArg Outgoing.method hPut
    rcases hTravelsFirst.keeps_or_reads leg (List.mem_of_mem_tail hLeg) with ⟨hKept, -⟩ | ⟨hReads, -⟩
    · exact absurd (hKept.symm.trans hPut) hMethod
    · rw [hReads] at hPut
      cases hPut
  · -- both the evaluation and what goes out for it later are in the session of
    -- all that follows
    have hMem {a : Attempt} (ha : a ∈ e.attempts) :=
      List.mem_append_right (first.legs.tail.map fun leg => ⟨leg.request, leg.reply, first.interrupted⟩)
        (List.mem_flatMap_of_mem he ha)
    obtain ⟨reply, hEach⟩ := Exchange.exists_attempts_cons (hTravelsRest e he)
    have hHead : ⟨place.outgoing e.request, reply, e.interrupted⟩ ∈ e.attempts := by simp [hEach]
    have hLater : ⟨leg.request, leg.reply, e.interrupted⟩ ∈ e.attempts :=
      List.mem_map.mpr ⟨leg, List.mem_of_mem_tail hLeg, rfl⟩
    obtain ⟨id, -, hEvaluates⟩ := h.session (List.ne_nil_of_mem (hMem hHead))
    obtain ⟨code, hEvaluation⟩ := hEvaluates _ (hMem hHead)
    obtain ⟨other, hRequest⟩ := hEvaluates _ (hMem hLater)
    exact ⟨congrArg Outgoing.method hEvaluation,
      Exchange.eq_outgoing_of_put (hTravelsRest e he) (List.mem_of_mem_tail hLeg) hEvaluation hRequest⟩

/-- Where no answer has led on to anything but a repetition, what is attempted
belongs to the run as its requests do. The first request goes out once, since it
is no evaluation, and every other attempt is the evaluation it was made for. -/
theorem Target.course_of_repeats
    (hTravels : ∀ e ∈ first :: rest, Travels maxRedirects (place.outgoing e.request) e.legs e.reply)
    (hMethod : first.request.method ≠ .put)
    (hCourse : t.Course place (first.whole place) (rest.map (Exchange.whole place)))
    (hRepeats : ∀ e ∈ first :: rest, e.Repeats place) :
    ∃ a more, (first :: rest).flatMap Exchange.attempts = a :: more ∧ t.Course place a more := by
  obtain ⟨hTravelsFirst, hTravelsRest⟩ := List.forall_mem_cons.mp hTravels
  obtain ⟨hRepeatsFirst, hRepeatsRest⟩ := List.forall_mem_cons.mp hRepeats
  obtain ⟨reply, hFirst⟩ := Exchange.exists_attempts_cons hTravelsFirst
  have hTail := hRepeatsFirst.tail_eq_nil hMethod
  rw [hTail, List.map_nil] at hFirst
  refine ⟨_, rest.flatMap Exchange.attempts, by rw [List.flatMap_cons, hFirst]; rfl, ?_⟩
  constructor
  case first_eq => exact hCourse.first_eq
  case session =>
    intro hMore
    have hNotNil : rest ≠ [] := by
      rintro rfl
      exact hMore rfl
    obtain ⟨id, hGives, hEvaluates⟩ := hCourse.session (by simpa using hNotNil)
    -- the session is given by what comes back in the end, which is the one
    -- reply to the one attempt
    have hReply := Exchange.reply_eq hTravelsFirst hTail hGives.exists_response
      ⟨place.outgoing first.request, reply, first.interrupted⟩ (by simp [hFirst])
    refine ⟨id, hReply ▸ hGives, fun a ha => ?_⟩
    obtain ⟨e, he, ha⟩ := List.mem_flatMap.mp ha
    rw [(hRepeatsRest e he).request_eq (hTravelsRest e he) a ha]
    exact hEvaluates _ (List.mem_map_of_mem he)
  case settles =>
    -- an attempt that is not the last one is followed by another one of its
    -- journey, or by another journey
    refine forall_mem_dropLast_flatMap (fun e he => Exchange.settles_dropLast (hTravelsRest e he)) ?_
    intro e he
    refine Exchange.settles_attempts (hTravelsRest e (List.dropLast_subset _ he)) ?_
    refine hCourse.settles (e.whole place) ?_
    rw [← List.map_dropLast]
    exact List.mem_map_of_mem he

/-- A run with a session attempts what belongs to it exactly if nothing goes out
for its first request but that, and whatever goes out for an evaluation is that
evaluation. -/
theorem Target.course_attempts_iff
    (hTravels : ∀ e ∈ first :: rest, Travels maxRedirects (place.outgoing e.request) e.legs e.reply)
    (hCourse : t.Course place (first.whole place) (rest.map (Exchange.whole place))) :
    (∃ a more, (first :: rest).flatMap Exchange.attempts = a :: more ∧ t.Course place a more) ↔
      ∀ e ∈ first :: rest, e.Repeats place := by
  have hSame : first.request.method = t.request.method := congrArg Outgoing.method hCourse.first_eq
  have hMethod : first.request.method ≠ .put := hSame ▸ t.method_request_ne
  constructor
  · rintro ⟨a, more, hAttempts, h⟩
    exact Target.repeats_of_course hTravels hMethod hAttempts h
  · exact Target.course_of_repeats hTravels hMethod hCourse

end

/-- The same of a course that is known to have a first request. -/
theorem Invocation.exists_course_iff {t : Target} {place : Connection} {course : List Exchange}
    (hTravels : ∀ e ∈ course, Travels maxRedirects (place.outgoing e.request) e.legs e.reply)
    (hCourse : ∃ first rest, course.map (Exchange.whole place) = first :: rest ∧ t.Course place first rest) :
    (∃ first rest, course.flatMap Exchange.attempts = first :: rest ∧ t.Course place first rest) ↔
      ∀ e ∈ course, e.Repeats place := by
  obtain ⟨_, _, hParts, hTarget⟩ := hCourse
  obtain ⟨first, rest, rfl, rfl, rfl⟩ := List.map_eq_cons_iff.mp hParts
  exact Target.course_attempts_iff hTravels hTarget

/-- A listing is attempted once exactly if nothing goes out for it but the one
request. -/
theorem Exchange.listing_iff {place : Connection} {course : List Exchange} {r : Request}
    (hMethod : r.method ≠ .put)
    (hTravels : ∀ e ∈ course, Travels maxRedirects (place.outgoing e.request) e.legs e.reply)
    (hCourse : (course.map (Exchange.whole place)).map Attempt.request = [place.outgoing r]) :
    (course.flatMap Exchange.attempts).map Attempt.request = [place.outgoing r] ↔
      ∀ e ∈ course, e.Repeats place := by
  obtain ⟨e, rfl, hRequest⟩ : ∃ e, course = [e] ∧ place.outgoing e.request = place.outgoing r := by
    rw [List.map_map, List.map_eq_singleton_iff] at hCourse
    exact hCourse
  obtain ⟨reply, hAttempts⟩ := exists_attempts_cons (hTravels e (List.mem_singleton_self e))
  rw [List.flatMap_singleton, hAttempts, List.map_cons, hRequest, List.forall_mem_singleton]
  constructor
  · intro h leg hLeg
    -- there is one attempt, and it is the first leg
    have hTail : e.legs.tail = [] := by
      rw [List.map_map] at h
      exact List.map_eq_nil_iff.mp (List.cons.inj h).2
    rw [hTail] at hLeg
    cases hLeg
  · intro hRepeats
    have hPut : e.request.method = r.method := congrArg Outgoing.method hRequest
    rw [hRepeats.tail_eq_nil (hPut ▸ hMethod)]
    rfl

/-- **When requests go out as they are made.** What goes out for the requests of
a run is what belongs to the run exactly if no answer leads on to anything but a
repetition of the evaluation at hand. -/
theorem Invocation.course_attempts_iff {i : Invocation} {place : Connection} {course : List Exchange}
    (hTravels : ∀ e ∈ course, Travels maxRedirects (place.outgoing e.request) e.legs e.reply)
    (hCourse : i.Course place (course.map (Exchange.whole place))) :
    i.Course place (course.flatMap Exchange.attempts) ↔ ∀ e ∈ course, e.Repeats place := by
  constructor
  · intro h
    cases hSession : i.session with
    | some id => exact (exists_course_iff hTravels (hCourse.existing id hSession)).mp (h.existing id hSession)
    | none =>
      cases hNew : i.new with
      | true => exact (exists_course_iff hTravels (hCourse.fresh hSession hNew)).mp (h.fresh hSession hNew)
      | false =>
        exact (Exchange.listing_iff (by simp) hTravels (hCourse.listing hSession hNew)).mp
          (h.listing hSession hNew)
  · intro hRepeats
    -- what goes out for a request is the request, so it goes where the request
    -- goes
    have hSame : ∀ a ∈ course.flatMap Exchange.attempts, ∃ e ∈ course, a.request = (e.whole place).request := by
      intro a ha
      obtain ⟨e, he, ha⟩ := List.mem_flatMap.mp ha
      exact ⟨e, he, (hRepeats e he).request_eq (hTravels e he) a ha⟩
    constructor
    case url_below =>
      intro a ha
      obtain ⟨e, he, hRequest⟩ := hSame a ha
      rw [hRequest]
      exact hCourse.url_below _ (List.mem_map_of_mem he)
    case authorization_eq =>
      intro a ha
      obtain ⟨e, he, hRequest⟩ := hSame a ha
      rw [hRequest]
      exact hCourse.authorization_eq _ (List.mem_map_of_mem he)
    case listing =>
      intro hSession hNew
      exact (Exchange.listing_iff (by simp) hTravels (hCourse.listing hSession hNew)).mpr hRepeats
    case existing =>
      exact fun id hSession => (exists_course_iff hTravels (hCourse.existing id hSession)).mpr hRepeats
    case fresh =>
      exact fun hSession hNew => (exists_course_iff hTravels (hCourse.fresh hSession hNew)).mpr hRepeats

/-! ## The requests of a run -/

section

variable {c : Client} {t : Target} {place : Connection} {prompts : Prompts} {terminal : Terminal}

/-- The requests of a run with a session, each as one attempt, are those that
belong to it. -/
theorem Client.course_talk (h : c.isClosed = false) :
    t.Course place ((c.exchange false t.request).whole place)
      ((c.evaluations t prompts terminal).map (Exchange.whole place)) := by
  -- without a session nothing follows the first request; with one it is the
  -- session that was given
  rcases c.evaluations_spec h t prompts terminal with hNil | ⟨id, hGives, hEvaluates⟩
  · rw [hNil]
    exact { first_eq := rfl, session := by simp, settles := by simp }
  · refine { first_eq := rfl, session := fun _ => ⟨id, hGives, ?_⟩, settles := ?_ }
    · intro a ha
      obtain ⟨e, he, rfl⟩ := List.mem_map.mp ha
      obtain ⟨code, hRequest⟩ := hEvaluates.request_eq e he
      exact ⟨code, congrArg place.outgoing hRequest⟩
    · rw [← List.map_dropLast]
      intro a ha
      obtain ⟨e, he, rfl⟩ := List.mem_map.mp ha
      exact hEvaluates.settles e he

/-- A request below the route of all sessions goes out below the root of its
service. -/
theorem Connection.outgoing_eq (place : Connection) {r : Request} {behind : String}
    (h : r.path = Route.sessions ++ behind) : place.endpoint.outgoing r = place.outgoing r := by
  have hUrl : place.endpoint.url r.path = place.baseUrl ++ Route.root place.context ++ r.path := by
    rw [h]
    exact place.url_sessions behind
  unfold Endpoint.outgoing Connection.outgoing
  rw [hUrl]
  rfl

/-- The requests of a run, each as one attempt, are those that belong to it,
whatever the service answers. -/
theorem Invocation.course_exchanges (i : Invocation) (h : c.isClosed = false) :
    i.Course place ((i.purpose.exchanges c prompts terminal).map (Exchange.whole place)) := by
  -- every request is made out of the settings, so address and authorization
  -- hold by construction
  constructor
  case url_below =>
    intro a ha
    obtain ⟨e, -, rfl⟩ := List.mem_map.mp ha
    exact ⟨_, rfl⟩
  case authorization_eq =>
    intro a ha
    obtain ⟨e, -, rfl⟩ := List.mem_map.mp ha
    rfl
  case listing =>
    intro hSession hNew
    have hPurpose : i.purpose = .list i.json := by simp [purpose, hSession, hNew]
    rw [hPurpose, Purpose.exchanges_list h]
    rfl
  case existing =>
    intro id hSession
    have hPurpose : i.purpose = .talk (.existing id) := by simp [purpose, hSession]
    rw [hPurpose, Purpose.exchanges_talk h]
    exact ⟨_, _, rfl, Client.course_talk h⟩
  case fresh =>
    intro hSession hNew
    have hPurpose : i.purpose = .talk .fresh := by simp [purpose, hSession, hNew]
    rw [hPurpose, Purpose.exchanges_talk h]
    exact ⟨_, _, rfl, Client.course_talk h⟩

end

namespace Program

/-- The client of a run with other answers from another network. -/
def clientOn (w : Surroundings) (s : Settings) (service : Service) (hears : Url → Bool) : Client :=
  { client w s with service := service, carrier := .network hears }

/-- A run that gets past its command line and its settings does what they ask
for. -/
theorem run_eq_perform {words : List String} {w : Surroundings} {i : Invocation} {s : Settings}
    (hWords : Invocation.ofWords words = .ok i)
    (hSettings : i.settings w.env (w.tree.read (i.settingsPath w.env)) = .ok s) :
    run words w = perform i s w := by
  unfold run
  rw [hWords]
  dsimp only
  rw [hSettings]

/-- A document that is named need not be there. -/
theorem read_missing : ({} : Tree).read "x" = .missing := by
  have hSteps : Path.steps "x" = ["x"] := by
    unfold Path.steps String.splitOn
    rw [if_neg (by decide), String.splitOnAux, if_neg (by decide), if_neg (by decide), String.splitOnAux,
      if_pos (by decide)]
    rfl
  unfold Tree.read
  rw [hSteps]
  rfl

end Program

end RemoteConsole
