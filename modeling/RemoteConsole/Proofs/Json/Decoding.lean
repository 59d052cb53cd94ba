import RemoteConsole.Json.Record
import RemoteConsole.Proofs.Json.Grammar

/-!
# Decoders against the grammar

A decoder is right about a kind of values if it reads each of them, wherever
white space stands before it, and reads nothing else. `Decoder.Reads` says so by
a relation between what a document holds and what the decoder gives; each
decoder gets it from those that it is made of, without a look inside them.

* `Decoder.bind_eq_ok`, `Decoder.token_bind_eq_ok`, … — what it takes for a
  decoder to give something.
* `Decoder.Reads` — a decoder reads the values of a relation.
* `Decoder.Reads.run_eq_ok_iff` — what it reads as a whole document.
-/

namespace RemoteConsole.Json

/-- Nothing stands here that a value could go on with. -/
def Ends (rest : List UInt8) : Prop :=
  ∀ b ∈ rest.head?, Decoder.isSpace b = true ∨ b = ','.toUInt8 ∨ b = ']'.toUInt8 ∨ b = '\x7d'.toUInt8

/-- White space may stand in front of where nothing goes on. -/
theorem Ends.of_space {bytes rest : List UInt8} (h : Space bytes rest) (hRest : Ends rest) : Ends bytes := by
  obtain ⟨space, hs, rfl⟩ := h
  cases space with
  | nil => exact hRest
  | cons b space =>
    rintro c hc
    obtain rfl : b = c := by simpa using hc
    exact .inl (hs b List.mem_cons_self)

/-- Behind a member stands something that ends it. -/
theorem PartsAt.ends {f : Frame} {bytes rest : List UInt8} {parts : List (List UInt8 × Tree)}
    (h : PartsAt f false bytes parts rest) : Ends bytes := by
  cases h with
  | close hSpace =>
    refine Ends.of_space hSpace fun b hb => ?_
    obtain rfl : f.closer = b := by simpa using hb
    cases f
    · exact .inr (.inr (.inl rfl))
    · exact .inr (.inr (.inr rfl))
  | part hLead =>
    obtain ⟨behind, hComma, -⟩ := hLead
    refine Ends.of_space hComma fun b hb => .inr (.inl ?_)
    simpa using hb.symm

namespace Decoder

variable {α β : Type} {bytes mid rest : List UInt8} {a : α} {b : β}

/-! ## Steps -/

/-- One decoder after another gives something if both do, the second one with
what the first has given and left. -/
theorem bind_eq_ok {d : Decoder α} {f : α → Decoder β} :
    (d >>= f) bytes = .ok (b, rest) ↔ ∃ a mid, d bytes = .ok (a, mid) ∧ f a mid = .ok (b, rest) := by
  change Except.bind (d bytes) (fun r => f r.1 r.2) = _ ↔ _
  cases h : d bytes with
  | error e => simp [Except.bind]
  | ok r =>
    obtain ⟨a, mid⟩ := r
    simp [Except.bind]

/-- If the second decoder gives nothing, then neither do both together. -/
theorem bind_ne_ok {d : Decoder α} {f : α → Decoder β} (h : ∀ a mid, f a mid ≠ .ok (b, rest)) :
    (d >>= f) bytes ≠ .ok (b, rest) := by
  intro hBind
  obtain ⟨a, mid, -, hf⟩ := bind_eq_ok.mp hBind
  exact h a mid hf

/-- Behind a decoder that gives something the next one goes on from there. -/
theorem bind_of_ok {d : Decoder α} {f : α → Decoder β} (h : d bytes = .ok (a, mid)) :
    (d >>= f) bytes = f a mid := by
  change Except.bind (d bytes) (fun r => f r.1 r.2) = _
  rw [h]
  rfl

/-- What a decoder is followed by sees no more of it than what it gives. -/
theorem bind_congr {d d' : Decoder α} {f : α → Decoder β} {bytes' : List UInt8} (h : d bytes = d' bytes') :
    (d >>= f) bytes = (d' >>= f) bytes' := by
  change Except.bind (d bytes) (fun r => f r.1 r.2) = Except.bind (d' bytes') (fun r => f r.1 r.2)
  rw [h]

theorem advance_bind {f : Unit → Decoder α} (b : UInt8) (bytes : List UInt8) :
    (advance >>= f) (b :: bytes) = f () bytes := rfl

theorem fail_ne_ok {p : Problem} : fail p bytes ≠ .ok (a, rest) :=
  fun h => nomatch h

theorem failAhead_ne_ok {p : Problem} : failAhead p bytes ≠ .ok (a, rest) :=
  fun h => nomatch h

theorem mismatch_ne_ok {m : Mismatch} : mismatch m bytes ≠ .ok (a, rest) :=
  fun h => nomatch h

/-- Where an error is placed does not matter to what is read. -/
theorem placed_eq_ok {d : Decoder α} : placed d bytes = .ok (a, rest) ↔ d bytes = .ok (a, rest) := by
  unfold placed
  cases h : d bytes <;> simp

/-- What stands between brackets is read if the body is and the closing bracket
follows it. A body that fails has its bracket looked for as well, which changes
the error and not that there is one. -/
theorem within_eq_ok {close : Decoder Unit} {body : Decoder α} :
    within close body bytes = .ok (a, rest) ↔
      ∃ mid, body bytes = .ok (a, mid) ∧ close mid = .ok ((), rest) := by
  unfold within
  -- the closing bracket is looked for in either case
  cases hBody : body bytes with
  | ok r =>
    obtain ⟨a', mid⟩ := r
    cases hClose : close mid with
    | error g => simp [hClose]
    | ok r =>
      obtain ⟨⟨⟩, rest'⟩ := r
      simp [hClose]
  | error f => cases hClose : close f.rest <;> simp [hClose]

/-- White space is skipped to what is told apart from it. -/
theorem token_eq {b : UInt8} (hSpace : Space bytes (b :: rest)) (hb : isSpace b = false) :
    token bytes = .ok (some b, b :: rest) := by
  have hDrop : bytes.dropWhile isSpace = b :: rest := by
    rw [hSpace.dropWhile_eq, List.dropWhile_cons_of_neg (by simp [hb])]
  change Except.ok ((bytes.dropWhile isSpace).head?, bytes.dropWhile isSpace) = _
  rw [hDrop]
  rfl

/-- What stands behind white space is looked at, and is not at the end. Most
decoders begin so, and the lemma takes their first byte apart from the rest once
for all of them. -/
theorem token_bind_eq_ok {p : Problem} {f : UInt8 → Decoder α} :
    (do match ← token with
        | none => failAhead p
        | some b => f b : Decoder α) bytes = .ok (a, rest) ↔
      ∃ b more, Space bytes (b :: more) ∧ isSpace b = false ∧ f b (b :: more) = .ok (a, rest) := by
  constructor
  -- looking at the next byte never fails, so all depends on whether there is
  -- one
  · have hToken : token bytes = .ok ((bytes.dropWhile isSpace).head?, bytes.dropWhile isSpace) := rfl
    have hSpace := Space.of_dropWhile bytes
    have hHead := List.head?_dropWhile_not isSpace bytes
    intro h
    rw [bind_of_ok hToken] at h
    -- at the end of the bytes the reader fails, whatever is asked of a next
    -- byte
    cases hRest : bytes.dropWhile isSpace with
    | nil => rw [hRest] at h; cases h
    | cons b more =>
      rw [hRest] at h hSpace hHead
      exact ⟨b, more, hSpace, by simpa using hHead, h⟩
  · rintro ⟨b, more, hSpace, hb, h⟩
    rw [bind_of_ok (token_eq hSpace hb)]
    exact h

/-- A value is looked at behind the white space in front of it, and there has to
be one. -/
theorem valueStart_bind_eq_ok {f : UInt8 → Decoder α} :
    (valueStart >>= f) bytes = .ok (a, rest) ↔
      ∃ b more, Space bytes (b :: more) ∧ isSpace b = false ∧ f b (b :: more) = .ok (a, rest) := by
  rw [bind_eq_ok]
  constructor
  · rintro ⟨b, mid, hStart, h⟩
    obtain ⟨c, more, hSpace, hc, hPure⟩ := token_bind_eq_ok.mp hStart
    cases hPure
    exact ⟨b, more, hSpace, hc, h⟩
  · rintro ⟨b, more, hSpace, hb, h⟩
    exact ⟨b, b :: more, token_bind_eq_ok.mpr ⟨b, more, hSpace, hb, rfl⟩, h⟩

/-- Nothing but white space is left. -/
theorem finish_eq_ok : finish bytes = .ok ((), rest) ↔ Space bytes [] ∧ rest = [] := by
  have hToken : token bytes = .ok ((bytes.dropWhile isSpace).head?, bytes.dropWhile isSpace) := rfl
  unfold finish
  rw [bind_of_ok hToken]
  have hSpace := Space.of_dropWhile bytes
  -- the white space is as long as it can be, so that a byte behind it is none
  cases hRest : bytes.dropWhile isSpace with
  | nil =>
    rw [hRest] at hSpace
    change Except.ok ((), []) = .ok ((), rest) ↔ _
    simp [hSpace, eq_comm]
  | cons b more =>
    refine iff_of_false (by simp [failAhead]) ?_
    rintro ⟨h, -⟩
    rw [h.dropWhile_eq] at hRest
    cases hRest

theorem unexpected_ne_ok {expected : String} : unexpected expected bytes ≠ .ok (a, rest) :=
  bind_ne_ok fun _ _ => mismatch_ne_ok

/-! ## What a decoder reads -/

/-- A decoder reads the values of a relation: it gives what one of them, behind
white space, stands for, and it gives it for each of them that nothing goes on
with. Without the last condition the decoder of numbers would read no number,
since a number may always go on with a digit. -/
structure Reads (d : Decoder α) (P : Tree → α → Prop) : Prop where
  sound : ∀ {bytes rest : List UInt8} {a : α}, d bytes = .ok (a, rest) →
    ∃ start t, Space bytes start ∧ ValueAt start t rest ∧ P t a
  complete : ∀ {bytes start rest : List UInt8} {t : Tree} {a : α}, Space bytes start →
    ValueAt start t rest → P t a → Ends rest → d bytes = .ok (a, rest)

/-- A decoder reads the values of any relation that says the same. -/
theorem Reads.congr {d : Decoder α} {P Q : Tree → α → Prop} (hReads : d.Reads P)
    (h : ∀ t a, P t a ↔ Q t a) : d.Reads Q := by
  obtain rfl : P = Q := funext₂ fun t a => propext (h t a)
  exact hReads

/-- What a decoder gives may be changed. -/
theorem Reads.map {d : Decoder α} {P : Tree → α → Prop} (hReads : d.Reads P) (f : α → β) :
    (do return f (← d) : Decoder β).Reads fun t b => ∃ a, P t a ∧ b = f a where
  sound h := by
    obtain ⟨a, _, hd, h⟩ := bind_eq_ok.mp h
    cases h
    obtain ⟨start, t, hSpace, hValue, hP⟩ := hReads.sound hd
    exact ⟨start, t, hSpace, hValue, a, hP, rfl⟩
  complete hSpace hValue hP hEnds := by
    obtain ⟨a, hP, rfl⟩ := hP
    exact bind_eq_ok.mpr ⟨a, _, hReads.complete hSpace hValue hP hEnds, rfl⟩

/-- A decoder reads the documents whose value it reads: what comes behind the
value may only be white space, and a value ends there. -/
theorem Reads.run_eq_ok_iff {d : Decoder α} {P : Tree → α → Prop} (hReads : d.Reads P)
    (body : List UInt8) (a : α) : d.run body = .ok a ↔ ∃ t, Document body t ∧ P t a := by
  -- `run` forgets where the decoder has stopped
  have hRun : d.run body = .ok a ↔
      ∃ rest, (do let a ← d; finish; pure a : Decoder α) body = .ok (a, rest) := by
    unfold run
    cases h : (do let a ← d; finish; pure a : Decoder α) body with
    | error f => simp
    | ok r =>
      obtain ⟨a', rest⟩ := r
      simp
  simp only [hRun, bind_eq_ok]
  constructor
  · rintro ⟨_, a', mid, hd, ⟨⟩, end', hFinish, hPure⟩
    cases hPure
    obtain ⟨start, t, hSpace, hValue, hP⟩ := hReads.sound hd
    exact ⟨t, ⟨start, mid, hSpace, hValue, (finish_eq_ok.mp hFinish).1⟩, hP⟩
  · rintro ⟨t, ⟨start, mid, hSpace, hValue, hEnd⟩, hP⟩
    -- the value is complete, as white space and nothing else follows it
    have hEnds : Ends mid := Ends.of_space hEnd (by simp [Ends])
    exact ⟨[], a, mid, hReads.complete hSpace hValue hP hEnds, (), [],
      finish_eq_ok.mpr ⟨hEnd, rfl⟩, rfl⟩

end Decoder

end RemoteConsole.Json
