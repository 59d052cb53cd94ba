import RemoteConsole.Service.Journey

/-!
# Journeys

Over a network a request goes out once, unless the answer refers to another
place. Then it goes out again, and what goes out there is determined by what has
gone out before and by the answer to it. A journey never makes a request that
writes out of one that does not: on its way a request either stays what it is or
becomes one that only reads, and that one has no body.

* `Travels` — the legs of a journey, each of them what the answer to the one
  before leads to.
* `Service.Answers` — legs with the answers of a service to them, one after the
  other.
* `Service.travels_follow`, `Service.answers_follow` — what `Service.follow`
  makes is such a journey.
* `Travels.keeps_or_reads`, `Travels.answered`, `Travels.stands` — what its legs
  are, and what comes back in the end.
-/

namespace RemoteConsole

/-! ## What a journey is -/

/-- The legs of a journey that begins with a request and may go on so many
times, and the reply that stands for it. A reply that leads nowhere ends it, and
so does one too many that leads on. -/
inductive Travels : Nat → Outgoing → List Leg → Reply → Prop
  | arrived {times : Nat} {q : Outgoing} {reply final : Reply} (h : q.lead reply = .last final) :
      Travels times q [⟨q, reply⟩] final
  | lost {q next : Outgoing} {reply : Reply} (h : q.lead reply = .on next) :
      Travels 0 q [⟨q, reply⟩] (.broken (.endless q.url))
  | on {times : Nat} {q next : Outgoing} {reply final : Reply} {legs : List Leg}
      (h : q.lead reply = .on next) (hRest : Travels times next legs final) :
      Travels (times + 1) q (⟨q, reply⟩ :: legs) final

/-- The replies of the legs are the answers of the service to them, one after
the other, and this is the service that they leave. -/
def Service.Answers (hears : Url → Bool) (s : Service) : List Leg → Service → Prop
  | [], left => left = s
  | leg :: rest, left =>
    leg.reply = (s.answer hears leg.request.url).1 ∧
      Answers hears (s.answer hears leg.request.url).2 rest left

namespace Service

variable {hears : Url → Bool}

/-- A service answers what goes out in two parts if it answers the first one,
and then the second one with what it still has. -/
theorem Answers.append {s middle left : Service} {before after : List Leg}
    (hBefore : s.Answers hears before middle) (hAfter : middle.Answers hears after left) :
    s.Answers hears (before ++ after) left := by
  induction before generalizing s with
  | nil =>
    obtain rfl : middle = s := hBefore
    exact hAfter
  | cons leg rest ih => exact ⟨hBefore.1, ih hBefore.2⟩

/-- What a service makes of a request is a journey, with the reply in the end.
The induction is on the number of redirects that are still followed. -/
theorem travels_follow (hears : Url → Bool) (s : Service) (q : Outgoing) (times : Nat) :
    Travels times q (s.follow hears q times).legs (s.follow hears q times).reply := by
  induction times generalizing s q with
  | zero =>
    unfold follow
    dsimp only
    cases h : q.lead (s.answer hears q.url).1 with
    | last final => exact .arrived h
    | on next => exact .lost h
  | succ n ih =>
    unfold follow
    dsimp only
    cases h : q.lead (s.answer hears q.url).1 with
    | last final => exact .arrived h
    | on next => exact .on h (ih _ next)

/-- The service answers every leg of the journey with what comes next at its
address. -/
theorem answers_follow (hears : Url → Bool) (s : Service) (q : Outgoing) (times : Nat) :
    s.Answers hears (s.follow hears q times).legs (s.follow hears q times).service := by
  induction times generalizing s q with
  | zero => exact ⟨rfl, rfl⟩
  | succ n ih =>
    unfold follow
    dsimp only
    cases h : q.lead (s.answer hears q.url).1 with
    | last final => exact ⟨rfl, rfl⟩
    | on next => exact ⟨rfl, ih _ next⟩

end Service

/-! ## What replies lead to -/

namespace Outgoing

variable {q next : Outgoing} {reply final : Reply}

/-- Only a response leads on. -/
theorem exists_response_of_lead (h : q.lead reply = .on next) : ∃ r, reply = .response r := by
  cases reply with
  | response r => exact ⟨r, rfl⟩
  | unreachable | broken | silence => cases h

/-- What a response refers to is a place as seen from where the request has
been. -/
theorem exists_redirected {r : Response} (h : q.referred? r = some (.ok next)) :
    ∃ here there, next = (q.again r.status).redirected here there := by
  unfold referred? at h
  split at h
  · obtain ⟨here, -, h⟩ := Option.bind_eq_some_iff.mp h
    obtain ⟨location, -, h⟩ := Option.bind_eq_some_iff.mp h
    obtain ⟨place, -, h⟩ := Option.bind_eq_some_iff.mp h
    cases place with
    | address there => exact ⟨here, there, (Except.ok.inj (Option.some.inj h)).symm⟩
    | other text => cases h
  · cases h

/-- A request that is led on keeps its method and its body, or it has become one
that only reads. -/
theorem keeps_or_reads_of_lead (h : q.lead reply = .on next) :
    (next.method = q.method ∧ next.body = q.body) ∨ (next.method = .get ∧ next.body = none) := by
  obtain ⟨r, rfl⟩ := exists_response_of_lead h
  -- what is asked again depends on the status only: another method for some,
  -- the same request for the others
  have hAgain : ((q.again r.status).method = q.method ∧ (q.again r.status).body = q.body) ∨
      ((q.again r.status).method = .get ∧ (q.again r.status).body = none) := by
    unfold again
    split
    · exact .inr ⟨rfl, rfl⟩
    split
    · exact .inr ⟨rfl, rfl⟩
    · exact .inl ⟨rfl, rfl⟩
  unfold lead at h
  dsimp only at h
  split at h
  · next hReferred =>
    -- the address and the authorization value are all that depends on the place
    obtain rfl := Lead.on.inj h
    obtain ⟨here, there, rfl⟩ := exists_redirected hReferred
    exact hAgain
  · cases h
  · cases h

/-- A reply that leads nowhere stands for itself, unless it is a response that
refers to a place of another kind. -/
theorem eq_of_lead (h : q.lead reply = .last final) :
    final = reply ∨ ((∃ r, reply = .response r) ∧ ∃ place, final = .broken (.foreign place)) := by
  cases reply with
  | response r =>
    unfold lead at h
    dsimp only at h
    split at h
    · cases h
    · exact .inr ⟨⟨r, rfl⟩, _, (Lead.last.inj h).symm⟩
    · exact .inl (Lead.last.inj h).symm
  | unreachable | broken | silence => exact .inl (Lead.last.inj h).symm

end Outgoing

/-! ## What the legs of a journey are -/

namespace Travels

variable {times : Nat} {q : Outgoing} {legs : List Leg} {final : Reply}

/-- The first leg is the request itself. -/
theorem exists_cons (h : Travels times q legs final) : ∃ reply rest, legs = ⟨q, reply⟩ :: rest := by
  cases h <;> exact ⟨_, _, rfl⟩

/-- On its way a request keeps its method and its body, or it becomes one that
only reads. -/
theorem keeps_or_reads (h : Travels times q legs final) :
    ∀ leg ∈ legs, (leg.request.method = q.method ∧ leg.request.body = q.body) ∨
      (leg.request.method = .get ∧ leg.request.body = none) := by
  induction h with
  | arrived | lost => simp
  | @on times q next reply final legs h hRest ih =>
    intro leg hLeg
    rcases List.mem_cons.mp hLeg with rfl | hLeg
    · exact .inl ⟨rfl, rfl⟩
    · -- a request that only reads stays one, wherever it is led
      rcases Outgoing.keeps_or_reads_of_lead h with ⟨hMethod, hBody⟩ | ⟨hMethod, hBody⟩
      · rw [← hMethod, ← hBody]
        exact ih leg hLeg
      · rcases ih leg hLeg with ⟨hMethod', hBody'⟩ | hReads
        · exact .inr ⟨hMethod'.trans hMethod, hBody'.trans hBody⟩
        · exact .inr hReads

/-- A journey goes on only behind a response. -/
theorem answered (h : Travels times q legs final) :
    ∀ leg ∈ legs.dropLast, ∃ r, leg.reply = .response r := by
  induction h with
  | arrived | lost => simp
  | on h hRest ih =>
    obtain ⟨reply, rest, rfl⟩ := hRest.exists_cons
    intro leg hLeg
    rw [List.dropLast_cons_cons] at hLeg
    rcases List.mem_cons.mp hLeg with rfl | hLeg
    · exact Outgoing.exists_response_of_lead h
    · exact ih leg hLeg

/-- The reply that stands for a journey is the last one that has come back,
unless that is a response to be followed still. -/
theorem stands (h : Travels times q legs final) :
    ∃ leg, legs.getLast? = some leg ∧
      (final = leg.reply ∨ ((∃ r, leg.reply = .response r) ∧ ∃ cause, final = .broken cause)) := by
  induction h with
  | arrived h =>
    refine ⟨_, rfl, ?_⟩
    rcases Outgoing.eq_of_lead h with rfl | ⟨hResponse, place, rfl⟩
    · exact .inl rfl
    · exact .inr ⟨hResponse, _, rfl⟩
  | lost h => exact ⟨_, rfl, .inr ⟨Outgoing.exists_response_of_lead h, _, rfl⟩⟩
  -- the first leg is not the last one of the journey
  | on h hRest ih =>
    obtain ⟨leg, hLast, hStands⟩ := ih
    obtain ⟨reply, rest, rfl⟩ := hRest.exists_cons
    exact ⟨leg, by rwa [List.getLast?_cons_cons], hStands⟩

end Travels

end RemoteConsole
