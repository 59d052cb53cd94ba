import RemoteConsole.Program.Work
import RemoteConsole.Proofs.Console.Coherence
import RemoteConsole.Proofs.Service.Protocol

/-!
# The evaluations of a console

The requests of a console come one after the other, and the console itself is
what keeps them apart: a turn makes at most one, and the next turn begins when
its reply has come or when an interrupt has ended the waiting. Nothing but the
service changes on the way, so every request begins its journey at one endpoint,
with one authorization value, and is for one session.

* `Exchange` — a request as it is made, what goes out for it, and what becomes
  of it.
* `Conversation.exchanges` — the exchanges of a run, turn by turn; what goes
  over connections is theirs.
* `Client.Carries`, `Client.Evaluates` — what such exchanges have in common.
* `Conversation.evaluates_exchanges` — every run makes such exchanges.
-/

namespace RemoteConsole

/-! ## Exchanges -/

/-- A request is settled by a response, or by an interrupt that ends the waiting
when nothing comes back. One that has failed is not settled in this sense:
nothing comes after it. -/
def Reply.Settles (reply : Reply) (interrupted : Bool) : Prop :=
  (∃ r, reply = .response r) ∨ (reply = .silence ∧ interrupted = true)

/-- A request as it is made, what goes out for it, and what becomes of it. -/
structure Exchange where
  request : Request
  /-- What goes out over connections, in order. -/
  legs : List Leg
  /-- What comes back in the end. -/
  reply : Reply
  /-- Whether an interrupt comes while it is under way. -/
  interrupted : Bool
  deriving DecidableEq, Repr

/-- The exchange that a client begins with a request. -/
def Client.exchange (c : Client) (interrupted : Bool) (r : Request) : Exchange where
  request := r
  legs := (c.journey r).legs
  reply := (c.journey r).reply
  interrupted := interrupted

namespace Client

/-- Exchanges of a client one after the other, each with the service as the one
before has left it. -/
def Carries (c : Client) : List Exchange → Prop
  | [] => True
  | e :: rest => c.exchange e.interrupted e.request = e ∧ (c.afterward e.request).Carries rest

/-- Exchanges of a client that are evaluations in one session, of which all but
the last are settled. -/
structure Evaluates (c : Client) (id : SessionId) (course : List Exchange) : Prop where
  carries : c.Carries course
  request_eq : ∀ e ∈ course, ∃ code : String, e.request = ⟨.put, Route.session id, some code⟩
  settles : ∀ e ∈ course.dropLast, e.reply.Settles e.interrupted

theorem evaluates_nil (c : Client) (id : SessionId) : c.Evaluates id [] where
  carries := trivial
  request_eq := by simp
  settles := by simp

/-- Whether a client is closed shows in none of its exchanges. -/
theorem Carries.of_isClosed {c : Client} {closed : Bool} {course : List Exchange}
    (h : Carries { c with isClosed := closed } course) : c.Carries course := by
  induction course generalizing c with
  | nil => trivial
  | cons e rest ih => exact ⟨h.1, ih h.2⟩

/-- So the evaluations of a client are those of the same client closed or
open. -/
theorem Evaluates.of_isClosed {c : Client} {closed : Bool} {id : SessionId} {course : List Exchange}
    (h : Evaluates { c with isClosed := closed } id course) : c.Evaluates id course :=
  ⟨h.carries.of_isClosed, h.request_eq, h.settles⟩

/-- An evaluation in front of others, which it lets follow only if it is
settled. -/
theorem Evaluates.cons {c : Client} {id : SessionId} {course : List Exchange} {code : String}
    (h : (c.afterward ⟨.put, Route.session id, some code⟩).Evaluates id course) (interrupted : Bool)
    (hSettles : course ≠ [] →
      (c.journey ⟨.put, Route.session id, some code⟩).reply.Settles interrupted) :
    c.Evaluates id (c.exchange interrupted ⟨.put, Route.session id, some code⟩ :: course) where
  carries := ⟨rfl, h.carries⟩
  request_eq := by
    intro e he
    rcases List.mem_cons.mp he with rfl | he
    · exact ⟨code, rfl⟩
    · exact h.request_eq e he
  settles := by
    intro e he
    by_cases hNil : course = []
    · -- a last evaluation need not be settled
      subst hNil
      cases he
    -- with others behind it, it is one of those that must be settled
    · rw [List.dropLast_cons_of_ne_nil hNil] at he
      rcases List.mem_cons.mp he with rfl | he
      · exact hSettles hNil
      · exact h.settles e he

end Client

/-! ## One turn -/

/-- Whether the next turn of a console makes a request. -/
def Console.isSending (k : Console) : Prop :=
  k.phase = .dispatching ∧ k.client.isClosed = false

theorem Event.requests_written (bytes : List UInt8) :
    (written bytes).filterMap request? = [] := by
  unfold written
  split <;> rfl

theorem Said.requests_eq_nil {text : String} {out : List Entry} {failure : Option String}
    (h : Said text out failure) : (out.map Entry.event).filterMap Event.request? = [] := by
  obtain ⟨bytes, rfl, -, -⟩ := h
  rw [← Entry.ofEvents_written bytes [], Entry.map_event_ofEvents, Event.requests_written]

namespace Console.Step

variable {k k' : Console} {log : List Entry} {ending : Option Ending}

/-- A step of a console that is about to send makes the one request of its
statement, whatever comes of it. -/
theorem requests_of_isSending (hStep : Step k log k' ending) (h : k.isSending) :
    (log.map Entry.event).filterMap Event.request? = [k.evaluation] := by
  obtain ⟨hPhase, hOpen⟩ := h
  -- an open client in the phase of an evaluation leaves five kinds of steps
  cases hStep with
  | answered _ _ _ hSaid | abandoned _ _ _ hSaid =>
    -- what is written behind the request is none
    exact congrArg (k.evaluation :: ·) hSaid.requests_eq_nil
  | failed | unanswered | unwatched => rfl
  | stopped hStopped | skipped hStopped => simp [hPhase] at hStopped
  | refused _ hClosed => simp [hOpen] at hClosed
  | unread hReading | finished hReading | interrupted hReading | extended hReading
    | completed hReading | exited hReading | barred hReading | rejected hReading =>
    simp [isReading, hPhase] at hReading

/-- Any other step makes none. -/
theorem requests_of_not_isSending (hStep : Step k log k' ending) (h : ¬ k.isSending) :
    (log.map Entry.event).filterMap Event.request? = [] := by
  rw [List.filterMap_eq_nil_iff]
  intro e he
  obtain ⟨entry, hEntry, rfl⟩ := List.mem_map.mp he
  -- only requests matter, and a step with one is sending
  cases entry with
  | request r =>
    obtain ⟨hPhase, hOpen, -⟩ := hStep.request_eq hEntry
    exact absurd ⟨hPhase, hOpen⟩ h
  | read | output | interrupted => rfl

end Console.Step

namespace Conversation

/-- The exchanges of a turn. -/
def turnExchanges (c : Conversation) : List Exchange :=
  (c.turn.events.filterMap Event.request?).map
    (c.console.client.exchange (decide (.interrupted ∈ c.turn.events)))

theorem event_turnLog (c : Conversation) : c.turnLog.map Entry.event = c.turn.events :=
  Entry.map_event_ofEvents _ _

/-- A turn that is about to send has the exchange of its statement. -/
theorem turnExchanges_of_isSending {c : Conversation} (h : c.console.isSending) :
    c.turnExchanges =
      [c.console.client.exchange (decide (.interrupted ∈ c.turn.events)) c.console.evaluation] := by
  have hRequests := c.turn_step.requests_of_isSending h
  rw [event_turnLog] at hRequests
  rw [turnExchanges, hRequests]
  rfl

/-- Any other turn has none. -/
theorem turnExchanges_of_not_isSending {c : Conversation} (h : ¬ c.console.isSending) :
    c.turnExchanges = [] := by
  have hRequests := c.turn_step.requests_of_not_isSending h
  rw [event_turnLog] at hRequests
  rw [turnExchanges, hRequests]
  rfl

/-! ### What a turn leaves of the client -/

/-- Writing changes nothing of the client. -/
theorem client_say (c : Conversation) (text : String) (shown : Bool) (phase : Phase)
    (ending : Option Ending) :
    (c.say text shown phase ending).next.console.client = c.console.client := by
  obtain ⟨_, -, hConsole, -, -⟩ := c.said_say text shown phase ending []
  rw [hConsole]

/-- Writing sends nothing. -/
theorem legs_say (c : Conversation) (text : String) (shown : Bool) (phase : Phase)
    (ending : Option Ending) : (c.say text shown phase ending).legs = [] := by
  unfold say
  dsimp only
  split <;> rfl

/-- The exit command closes the client, and no more. -/
theorem exit_spec (c : Conversation) :
    c.exit.legs = [] ∧ ∃ closed, c.exit.next.console.client = { c.console.client with isClosed := closed } := by
  unfold exit Client.close
  cases hClosed : c.console.client.isClosed with
  | true => exact ⟨rfl, c.console.client.isClosed, rfl⟩
  | false => exact ⟨rfl, true, rfl⟩

/-- A line sends nothing, and it changes nothing of the client unless it closes
it. -/
theorem accept_spec (c : Conversation) (text : String) :
    (c.accept text).legs = [] ∧
      ∃ closed, (c.accept text).next.console.client = { c.console.client with isClosed := closed } := by
  unfold accept
  -- a blank line is skipped, and the verdict decides about any other
  split
  · exact ⟨rfl, _, rfl⟩
  · dsimp only
    split
    · exact ⟨rfl, _, rfl⟩
    · split
      · exact exit_spec _
      · exact ⟨rfl, _, rfl⟩
    · rw [legs_say, client_say]
      exact ⟨rfl, _, rfl⟩

/-- A turn at a prompt sends nothing, whatever is read, and it changes nothing
of the client unless it closes it. -/
theorem read_spec (c : Conversation) :
    c.read.legs = [] ∧
      ∃ closed, c.read.next.console.client = { c.console.client with isClosed := closed } := by
  unfold read
  dsimp only
  split
  · exact accept_spec _ _
  · rw [legs_say, client_say]
    exact ⟨rfl, _, rfl⟩
  · rw [legs_say, client_say]
    exact ⟨rfl, _, rfl⟩
  · exact ⟨rfl, _, rfl⟩

/-- An evaluation sends what its call sends, and whatever the call comes to,
what follows it leaves the client as it is. -/
theorem dispatch_spec (c : Conversation) :
    let call := c.console.client.eval c.console.session (String.ofList c.console.buffer.text)
    c.dispatch.legs = call.legs ∧ c.dispatch.next.console.client = call.client := by
  unfold dispatch Statement.Buffer.take answer
  dsimp only
  -- an answer, a failure, or waiting for an interrupt
  split
  · exact ⟨rfl, client_say _ _ _ _ _⟩
  · exact ⟨rfl, rfl⟩
  · refine ⟨rfl, ?_⟩
    unfold awaitInterrupt
    split
    · rfl
    · dsimp only
      split
      · rfl
      · exact client_say _ _ _ _ _

theorem turn_eq_dispatch {c : Conversation} (h : c.console.phase = .dispatching) :
    c.turn = c.dispatch := by
  unfold turn
  rw [h]

/-- A turn that makes a request sends it on its journey, and that is all that
changes the client. -/
theorem turn_of_isSending {c : Conversation} (h : c.console.isSending) :
    c.turn.legs = (c.console.client.journey c.console.evaluation).legs ∧
      c.turn.next.console.client = c.console.client.afterward c.console.evaluation := by
  obtain ⟨hPhase, hOpen⟩ := h
  obtain ⟨hLegs, hClient⟩ := c.dispatch_spec
  obtain ⟨hAfter, hJourney⟩ := Client.perform_of_request hOpen
    (.eval c.console.session (String.ofList c.console.buffer.text)) rfl
  rw [turn_eq_dispatch hPhase]
  exact ⟨hLegs.trans hJourney, hClient.trans hAfter⟩

/-- A turn that makes none sends nothing, and changes nothing of the client
unless it closes it. -/
theorem turn_of_not_isSending {c : Conversation} (h : ¬ c.console.isSending) :
    c.turn.legs = [] ∧
      ∃ closed, c.turn.next.console.client = { c.console.client with isClosed := closed } := by
  by_cases hPhase : c.console.phase = .dispatching
  -- the phase is the one for sending, so it is the client that is closed
  · have hClosed : c.console.client.isClosed = true := by simpa [Console.isSending, hPhase] using h
    obtain ⟨hLegs, hClient⟩ := c.dispatch_spec
    rw [Client.eval_of_closed hClosed] at hLegs hClient
    rw [turn_eq_dispatch hPhase]
    exact ⟨hLegs, _, hClient⟩
  · unfold turn
    split
    · exact ⟨rfl, _, rfl⟩
    · contradiction
    · exact read_spec c
    · exact read_spec c

/-! ### When a turn lets another one follow -/

/-- What an evaluation comes to is what comes back from the journey of its
request. -/
theorem outcome_eval {c : Client} (h : c.isClosed = false) (id : SessionId) (code : String) :
    (c.eval id code).outcome =
      match c.interpret ⟨.put, Route.session id, some code⟩
        (c.journey ⟨.put, Route.session id, some code⟩).reply with
      | .ok r => .ok r.text
      | .error e => .error e
      | .pending => .pending := by
  unfold Client.eval
  rw [Client.send_of_open h]
  unfold Call.andThen
  dsimp only
  split <;> simp_all

/-- An evaluation that fails ends the run. -/
theorem ending_dispatch_of_error {c : Conversation} {e : ClientError}
    (h : (c.console.client.eval c.console.session (String.ofList c.console.buffer.text)).outcome =
      .error e) :
    c.dispatch.ending = some (.failed (.client e)) := by
  unfold dispatch Statement.Buffer.take
  dsimp only
  rw [h]

/-- Without an answer only an interrupt keeps the run from ending. -/
theorem interrupted_of_pending {c : Conversation}
    (h : (c.console.client.eval c.console.session (String.ofList c.console.buffer.text)).outcome =
      .pending)
    (hEnding : c.dispatch.ending = none) : .interrupted ∈ c.dispatch.events := by
  unfold dispatch Statement.Buffer.take awaitInterrupt at hEnding ⊢
  dsimp only at hEnding ⊢
  rw [h] at hEnding ⊢
  cases hWait : c.terminal.nextWait? with
  | none =>
    -- nothing ends the waiting but the run
    simp [hWait] at hEnding
  | some wait => simp

/-- A turn that makes a request and does not end the run has been answered, or
has been left for an interrupt. -/
theorem settles_of_isSending {c : Conversation} (h : c.console.isSending)
    (hEnding : c.turn.ending = none) :
    (c.console.client.journey c.console.evaluation).reply.Settles
      (decide (.interrupted ∈ c.turn.events)) := by
  obtain ⟨hPhase, hOpen⟩ := h
  rw [turn_eq_dispatch hPhase] at hEnding ⊢
  have hOutcome := outcome_eval hOpen c.console.session (String.ofList c.console.buffer.text)
  unfold Console.evaluation
  -- what comes back decides, and of four outcomes two end the run
  cases hReply : (c.console.client.journey
    ⟨.put, Route.session c.console.session, some (String.ofList c.console.buffer.text)⟩).reply with
  | response r => exact .inl ⟨r, rfl⟩
  | unreachable cause | broken cause =>
    -- a call that fails ends the run
    rw [hReply] at hOutcome
    rw [ending_dispatch_of_error hOutcome] at hEnding
    cases hEnding
  | silence =>
    rw [hReply] at hOutcome
    exact .inr ⟨rfl, decide_eq_true (interrupted_of_pending hOutcome hEnding)⟩

/-! ## Runs -/

/-- The exchanges of at most so many turns. -/
def exchanges (c : Conversation) : Nat → List Exchange
  | 0 => []
  | turns + 1 =>
    c.turnExchanges ++ (if c.turn.ending.isSome then [] else exchanges c.turn.next turns)

/-- All that goes over connections in a turn goes for its request. -/
theorem legs_turnExchanges (c : Conversation) : c.turnExchanges.flatMap Exchange.legs = c.turn.legs := by
  by_cases hSending : c.console.isSending
  · rw [turnExchanges_of_isSending hSending, (turn_of_isSending hSending).1]
    exact List.flatMap_singleton ..
  · rw [turnExchanges_of_not_isSending hSending, (turn_of_not_isSending hSending).1]
    rfl

/-- All that goes over connections in a run goes for its requests, in the order
in which they are made. -/
theorem legs_exchanges (c : Conversation) (turns : Nat) :
    (c.exchanges turns).flatMap Exchange.legs = (c.runFor turns).legs := by
  induction turns generalizing c with
  | zero => rfl
  | succ n ih =>
    rw [exchanges, List.flatMap_append, legs_turnExchanges]
    -- the exchanges stop where the run stops
    cases hEnding : c.turn.ending with
    | some e =>
      rw [runFor_succ_of_ending hEnding]
      simp
    | none =>
      rw [runFor_succ_of_none hEnding]
      simp [ih]

/-- **The exchanges of a run.** Whatever is typed, answered and interrupted, a
run evaluates in the session of its console, sends one request after the other
on its journey, and lets nothing follow an evaluation that is not settled. The
induction is on the turns; what is carried along is the client with what its
service still answers. -/
theorem evaluates_exchanges (c : Conversation) (turns : Nat) :
    c.console.client.Evaluates c.console.session (c.exchanges turns) := by
  induction turns generalizing c with
  | zero => exact Client.evaluates_nil _ _
  | succ n ih =>
    rw [exchanges]
    -- what follows the turn: nothing if it ended the run, and the rest of the
    -- run by induction
    have hRest : c.turn.next.console.client.Evaluates c.console.session
        (if c.turn.ending.isSome then [] else c.turn.next.exchanges n) := by
      split
      · exact Client.evaluates_nil _ _
      · rw [← c.turn_step.session_eq]
        exact ih c.turn.next
    by_cases hSending : c.console.isSending
    · -- the rest begins where the journey has left the service, and is empty unless the request is settled
      rw [(turn_of_isSending hSending).2] at hRest
      rw [turnExchanges_of_isSending hSending]
      refine Client.Evaluates.cons hRest _ fun hNotNil => settles_of_isSending hSending ?_
      cases hEnding : c.turn.ending with
      | none => rfl
      | some e => simp [hEnding] at hNotNil
    · -- whether the client is closed shows in no exchange
      obtain ⟨-, closed, hClient⟩ := turn_of_not_isSending hSending
      rw [turnExchanges_of_not_isSending hSending, List.nil_append]
      rw [hClient] at hRest
      exact hRest.of_isClosed

end Conversation

end RemoteConsole
