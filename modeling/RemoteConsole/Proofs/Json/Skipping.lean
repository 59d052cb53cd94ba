import RemoteConsole.Proofs.Json.Numbers
import RemoteConsole.Proofs.Json.Strings

/-!
# Every value is skipped, and nothing else

A value that nobody asks for is skipped with the frames around the place reached
in a list, and with as many turns as there are bytes. What such a state still
asks of the bytes is that every frame gets members until it is closed, from the
inside out.

* `Decoder.Closes` — the bytes close some frames.
* `Decoder.closes_of_skipWithin` — what has been skipped is a value and what
  closes the frames around it.
* `Decoder.skip_reads` — every value is skipped, and nothing else.
-/

namespace RemoteConsole.Json.Decoder

variable {bytes mid rest : List UInt8} {frames : List Frame} {f : Frame} {fuel : Nat}

/-! ## Words, keys and values without parts -/

/-- A word is skipped exactly where it stands. -/
theorem ident_eq_ok_iff {word : List Char} :
    ident word bytes = .ok ((), rest) ↔ bytes = ascii word ++ rest := by
  induction word generalizing bytes with
  | nil =>
    change Except.ok ((), bytes) = .ok ((), rest) ↔ _
    simp [ascii]
  | cons c word ih =>
    cases bytes with
    | nil => exact iff_of_false (fun h => nomatch h) (fun h => nomatch h)
    | cons b bytes =>
      change (if b == c.toUInt8 then ident word else fail .expectedIdent) bytes = _ ↔ _
      -- the bytes agree with the word up to here, or the reader fails
      split
      · next hb => rw [ih, eq_of_beq hb]; simp [ascii]
      · next hb =>
        refine iff_of_false fail_ne_ok fun h => hb ?_
        rw [(List.cons.inj h).1]
        exact beq_self_eq_true _

/-- A key is skipped with the colon behind it and the white space around
both. -/
theorem skipKey_eq_ok_iff :
    skipKey bytes = .ok ((), rest) ↔
      ∃ key behind, IsContent key ∧ Space bytes ('"'.toUInt8 :: (key ++ '"'.toUInt8 :: behind)) ∧
        Space behind (':'.toUInt8 :: rest) := by
  constructor
  · intro h
    obtain ⟨b, more, hSpace, -, h⟩ := token_bind_eq_ok.mp h
    split at h
    · next hMark =>
      obtain rfl := eq_of_beq hMark
      rw [advance_bind] at h
      -- the mark is there: its string and then the colon
      obtain ⟨_, behind, hKey, hRest⟩ := bind_eq_ok.mp h
      obtain ⟨key, hContent, rfl⟩ := skipString_eq_ok_iff.mp hKey
      obtain ⟨c, more, hBehind, -, hRest⟩ := token_bind_eq_ok.mp hRest
      split at hRest
      · next hColon =>
        obtain rfl := eq_of_beq hColon
        cases hRest
        exact ⟨key, behind, hContent, hSpace, hBehind⟩
      · cases hRest
    · cases h
  · rintro ⟨key, behind, hContent, hSpace, hBehind⟩
    refine token_bind_eq_ok.mpr ⟨_, _, hSpace, by decide, ?_⟩
    rw [if_pos (beq_self_eq_true _), advance_bind]
    refine bind_eq_ok.mpr ⟨(), behind, skipString_eq_ok_iff.mpr ⟨key, hContent, rfl⟩, ?_⟩
    exact token_bind_eq_ok.mpr ⟨_, _, hBehind, by decide, rfl⟩

/-- A value without parts is skipped at once; of the others only the bracket is.
The branches are those of the reader, told apart by the first byte. -/
theorem skipStart_sound {o : Option Frame} (h : skipStart bytes = .ok (o, mid)) :
    match o with
    | none => ∃ start t, Space bytes start ∧ ValueAt start t mid
    | some f => Space bytes (f.opener :: mid) := by
  obtain ⟨b, more, hSpace, -, h⟩ := token_bind_eq_ok.mp h
  -- a word is skipped behind its first byte
  have hWord : ∀ {word : List Char}, (do ident word; pure none : Decoder (Option Frame)) more = .ok (o, mid) →
      o = none ∧ more = ascii word ++ mid := by
    intro word h
    obtain ⟨_, _, hIdent, h⟩ := bind_eq_ok.mp h
    cases h
    exact ⟨rfl, ident_eq_ok_iff.mp hIdent⟩
  split at h
  · next hb =>
    obtain rfl := eq_of_beq hb
    obtain ⟨rfl, rfl⟩ := hWord h
    exact ⟨_, _, hSpace, .null mid⟩
  split at h
  · next hb =>
    obtain rfl := eq_of_beq hb
    obtain ⟨rfl, rfl⟩ := hWord h
    exact ⟨_, _, hSpace, .isTrue mid⟩
  split at h
  · next hb =>
    obtain rfl := eq_of_beq hb
    obtain ⟨rfl, rfl⟩ := hWord h
    exact ⟨_, _, hSpace, .isFalse mid⟩
  split at h
  · next hb =>
    obtain rfl := eq_of_beq hb
    rw [advance_bind] at h
    obtain ⟨_, _, hNumber, h⟩ := bind_eq_ok.mp h
    cases h
    obtain ⟨magnitude, hMagnitude, rfl⟩ := exists_magnitude_of_skipNumber hNumber
    exact ⟨_, _, hSpace, .number mid (.inr ⟨magnitude, hMagnitude, rfl⟩)⟩
  split at h
  · obtain ⟨_, _, hNumber, h⟩ := bind_eq_ok.mp h
    cases h
    obtain ⟨magnitude, hMagnitude, hBytes⟩ := exists_magnitude_of_skipNumber hNumber
    rw [hBytes] at hSpace
    exact ⟨_, _, hSpace, .number mid (.inl hMagnitude)⟩
  split at h
  · next hb =>
    obtain rfl := eq_of_beq hb
    rw [advance_bind] at h
    obtain ⟨_, _, hString, h⟩ := bind_eq_ok.mp h
    cases h
    obtain ⟨raw, hContent, rfl⟩ := skipString_eq_ok_iff.mp hString
    exact ⟨_, _, hSpace, .string mid hContent⟩
  split at h
  · next hb =>
    obtain rfl := eq_of_beq hb
    cases h
    exact hSpace
  split at h
  · next hb =>
    obtain rfl := eq_of_beq hb
    cases h
    exact hSpace
  · cases h

/-! ## What is skipped is a value -/

/-- The bytes close frames, from the inside out. -/
def Closes : List Frame → List UInt8 → List UInt8 → Prop
  | [], bytes, rest => bytes = rest
  | f :: outer, bytes, rest => ∃ parts mid, PartsAt f false bytes parts mid ∧ Closes outer mid rest

/-- A member stands here, and behind it what closes the frames. -/
def Resumes : List Frame → List UInt8 → List UInt8 → Prop
  | [], bytes, rest => bytes = rest
  | f :: outer, bytes, rest =>
    ∃ start p mid, Space bytes start ∧ PartAt f start p mid ∧ Closes (f :: outer) mid rest

/-- Skips the next member of the innermost frame and all that follows up to the
end of the frames. -/
def resume (frames : List Frame) (fuel : Nat) : Decoder Unit :=
  match frames with
  | [] => pure ()
  | .list :: _ => skipWithin frames fuel
  | .object :: _ => do
    skipKey
    skipWithin frames fuel

/-- Leaves the frames that end here and skips all that follows. -/
def goOn (behindMember : Bool) (frames : List Frame) (fuel : Nat) : Decoder Unit := do
  resume (← skipEnds behindMember frames) fuel

/-- A turn skips a value or enters its frame, and goes on. -/
theorem skipWithin_succ (frames : List Frame) (fuel : Nat) :
    skipWithin frames (fuel + 1) = (do
      match ← skipStart with
      | some frame => goOn false (frame :: frames) fuel
      | none => goOn true frames fuel) := rfl

/-- A frame that is left or gone on with gets members until it is closed, if the
frames around it do. -/
theorem parts_of_goOn {behind : Bool} {outer : List Frame}
    (hResume : ∀ {frames bytes}, resume frames fuel bytes = .ok ((), rest) → Resumes frames bytes rest)
    (hOuter : ∀ {bytes}, goOn true outer fuel bytes = .ok ((), rest) → Closes outer bytes rest)
    (h : goOn behind (f :: outer) fuel bytes = .ok ((), rest)) :
    ∃ parts mid, PartsAt f (!behind) bytes parts mid ∧ Closes outer mid rest := by
  obtain ⟨frames, mid, hEnds, hRest⟩ := bind_eq_ok.mp h
  -- the next byte is a comma, the closing bracket, or the start of a first
  -- member
  obtain ⟨b, more, hSpace, -, hEnds⟩ := token_bind_eq_ok.mp hEnds
  split at hEnds
  · next hComma =>
    -- a comma leads to the next member
    obtain ⟨hb, rfl⟩ := Bool.and_eq_true_iff.mp hComma
    obtain rfl := eq_of_beq hb
    cases hEnds
    obtain ⟨start, p, mid, hStart, hPart, parts, mid', hParts, hCloses⟩ := hResume hRest
    exact ⟨p :: parts, mid', .part ⟨_, hSpace, hStart⟩ hPart hParts, hCloses⟩
  split at hEnds
  · next hCloser =>
    -- the closing bracket leaves the rest to the frames around this one
    obtain rfl := eq_of_beq hCloser
    rw [advance_bind] at hEnds
    exact ⟨[], more, .close hSpace, hOuter (bind_eq_ok.mpr ⟨_, _, hEnds, hRest⟩)⟩
  split at hEnds
  · cases hEnds
  · next hFirst =>
    -- neither of them: the first member, as nothing has been read in this frame
    cases hEnds
    obtain rfl : behind = false := by simpa using hFirst
    obtain ⟨start, p, mid, hStart, hPart, parts, mid', hParts, hCloses⟩ := hResume hRest
    exact ⟨p :: parts, mid', .part (hSpace.trans hStart) hPart hParts, hCloses⟩

/-- Behind a value the frames around it get what they ask for. The induction is
on the frames, from the inside out. -/
theorem closes_of_goOn
    (hResume : ∀ {frames bytes}, resume frames fuel bytes = .ok ((), rest) → Resumes frames bytes rest)
    (h : goOn true frames fuel bytes = .ok ((), rest)) : Closes frames bytes rest := by
  induction frames generalizing bytes with
  | nil => cases h; rfl
  | cons f outer ih => exact parts_of_goOn hResume ih h

/-- What has been skipped is a value and what closes the frames around it. The
induction is on the fuel, and what is carried through a turn is that the next
one resumes where a member stands. -/
theorem closes_of_skipWithin (h : skipWithin frames fuel bytes = .ok ((), rest)) :
    ∃ start t mid, Space bytes start ∧ ValueAt start t mid ∧ Closes frames mid rest := by
  induction fuel generalizing frames bytes with
  | zero => cases h
  | succ fuel ih =>
    -- what is skipped next is skipped with less fuel
    have hResume : ∀ {frames bytes}, resume frames fuel bytes = .ok ((), rest) →
        Resumes frames bytes rest := by
      intro frames bytes h
      cases frames with
      | nil => cases h; rfl
      | cons f outer =>
        -- in a list a value is next, in an object a key with its value
        cases f with
        | list =>
          obtain ⟨start, t, mid, hSpace, hValue, hCloses⟩ := ih h
          exact ⟨start, _, mid, hSpace, .item hValue, hCloses⟩
        | object =>
          obtain ⟨_, colon, hKey, h⟩ := bind_eq_ok.mp h
          obtain ⟨key, behind, hContent, hSpace, hColon⟩ := skipKey_eq_ok_iff.mp hKey
          obtain ⟨start, t, mid, hStart, hValue, hCloses⟩ := ih h
          exact ⟨_, _, mid, hSpace, .entry hContent hColon hStart hValue, hCloses⟩
    rw [skipWithin_succ] at h
    obtain ⟨o, mid, hStart, h⟩ := bind_eq_ok.mp h
    -- a value without parts, or a frame that is entered
    have hSound := skipStart_sound hStart
    cases o with
    | none =>
      obtain ⟨start, t, hSpace, hValue⟩ := hSound
      exact ⟨start, t, mid, hSpace, hValue, closes_of_goOn hResume h⟩
    | some f =>
      obtain ⟨parts, mid', hParts, hCloses⟩ := parts_of_goOn hResume (closes_of_goOn hResume) h
      obtain ⟨t, hValue⟩ := hParts.exists_value
      exact ⟨_, t, mid', hSound, hValue, hCloses⟩

/-! ## Every value is skipped -/

/-- Behind white space the next byte decides whether a frame goes on, is left,
or starts. -/
theorem skipEnds_eq {behind : Bool} {outer : List Frame} {b : UInt8} (hSpace : Space bytes (b :: mid))
    (hb : isSpace b = false) :
    skipEnds behind (f :: outer) bytes =
      (if b == ','.toUInt8 && behind then (do advance; pure (f :: outer))
        else if b == f.closer then (do advance; skipEnds true outer)
        else if behind then failAhead f.expectedEnd
        else pure (f :: outer) : Decoder (List Frame)) (b :: mid) :=
  bind_of_ok (token_eq hSpace hb)

/-- A closing bracket is neither white space nor a comma. -/
theorem closer_facts (f : Frame) : isSpace f.closer = false ∧ f.closer ≠ ','.toUInt8 := by
  cases f <;> decide

/-- A frame is left at its closing bracket. -/
theorem goOn_of_closer {behind : Bool} {outer : List Frame} (hSpace : Space bytes (f.closer :: rest)) :
    goOn behind (f :: outer) fuel bytes = goOn true outer fuel rest := by
  refine bind_congr ?_
  rw [skipEnds_eq hSpace (closer_facts f).1, if_neg (by simp [(closer_facts f).2]),
    if_pos (beq_self_eq_true _)]
  rfl

/-- Behind what stands before a member, the member is skipped. The reader stands
at the member then, or at white space in front of it, and has no more bytes
before it than it had. -/
theorem goOn_of_lead {first : Bool} {start : List UInt8} {p : List UInt8 × Tree} (outer : List Frame)
    (fuel : Nat) (hLead : Lead first bytes start) (hPart : PartAt f start p mid) :
    ∃ bytes', Space bytes' start ∧ bytes'.length ≤ bytes.length ∧
      goOn (!first) (f :: outer) fuel bytes = resume (f :: outer) fuel bytes' := by
  cases first with
  | true =>
    -- a first member is no comma and does not close the frame
    obtain ⟨b, more, rfl, hb, hCloser⟩ := hPart.head
    refine ⟨_, .refl _, hLead.length_le, ?_⟩
    change goOn false (f :: outer) fuel bytes = (pure (f :: outer) >>= fun frames => resume frames fuel) (b :: more)
    refine bind_congr ?_
    rw [skipEnds_eq hLead hb, Bool.and_false, if_neg Bool.false_ne_true, if_neg (by simpa using hCloser),
      if_neg Bool.false_ne_true]
  | false =>
    -- any other stands behind a comma, which is skipped with the white space in
    -- front of it
    obtain ⟨bytes', hComma, hSpace⟩ := hLead
    refine ⟨bytes', hSpace, Nat.le_of_lt hComma.length_le, ?_⟩
    change goOn true (f :: outer) fuel bytes = (pure (f :: outer) >>= fun frames => resume frames fuel) bytes'
    refine bind_congr ?_
    rw [skipEnds_eq hComma (by decide)]
    rfl

/-- A value without parts is skipped in one turn. -/
theorem skipWithin_of_none {start : List UInt8} (hStart : skipStart bytes = .ok (none, rest))
    (hSpace : Space bytes start) (hStartLength : rest.length < start.length) (hFuel : bytes.length < fuel) :
    ∃ fuel', rest.length < fuel' ∧ skipWithin frames fuel bytes = goOn true frames fuel' rest := by
  have hLength := hSpace.length_le
  -- the one turn takes a byte at least, so the fuel lasts
  cases fuel with
  | zero => omega
  | succ fuel =>
    refine ⟨fuel, by omega, ?_⟩
    rw [skipWithin_succ, bind_of_ok hStart]

/-- White space in front of a value does not matter. -/
theorem skipStart_space {b : UInt8} {more : List UInt8} (hSpace : Space bytes (b :: more))
    (hb : isSpace b = false) : skipStart bytes = skipStart (b :: more) := by
  unfold skipStart
  rw [bind_of_ok (token_eq hSpace hb), bind_of_ok (token_eq (.refl _) hb)]

theorem skipStart_opener (f : Frame) (bytes : List UInt8) :
    skipStart (f.opener :: bytes) = .ok (some f, bytes) := by
  cases f <;> rfl

theorem skipStart_word (word : List Char) (rest : List UInt8) :
    (do ident word; pure none : Decoder (Option Frame)) (ascii word ++ rest) = .ok (none, rest) :=
  bind_eq_ok.mpr ⟨(), rest, ident_eq_ok_iff.mpr rfl, rfl⟩

/-- A number is skipped at once, up to where it ends. It is told from all other
values by its first byte, which is a digit or a minus sign. -/
theorem skipStart_number {literal : List UInt8} (h : IsNumber literal) (hRest : Stops rest) :
    skipStart (literal ++ rest) = .ok (none, rest) := by
  rcases h with hMagnitude | ⟨magnitude, hMagnitude, rfl⟩
  · have hSkip := skipNumber_of_isMagnitude hMagnitude hRest
    obtain ⟨d, more, rfl, hd⟩ := hMagnitude.head
    -- a digit is none of the bytes that the reader looks for first
    have hOther : ∀ c : UInt8, isDigit c = false → (d == c) = false := by
      intro c hc
      rw [beq_eq_false_iff_ne]
      rintro rfl
      rw [hd] at hc
      cases hc
    rw [List.cons_append] at hSkip ⊢
    unfold skipStart
    rw [bind_of_ok (token_eq (.refl _) (isSpace_of_isDigit hd))]
    dsimp only
    rw [hOther 'n'.toUInt8 (by decide), hOther 't'.toUInt8 (by decide), hOther 'f'.toUInt8 (by decide),
      hOther '-'.toUInt8 (by decide), hd]
    exact bind_eq_ok.mpr ⟨(), rest, hSkip, rfl⟩
  · change (do skipNumber; pure none : Decoder (Option Frame)) (magnitude ++ rest) = _
    exact bind_eq_ok.mpr ⟨(), rest, skipNumber_of_isMagnitude hMagnitude hRest, rfl⟩

theorem skipStart_string {raw : List UInt8} (h : IsContent raw) (rest : List UInt8) :
    skipStart ('"'.toUInt8 :: (raw ++ '"'.toUInt8 :: rest)) = .ok (none, rest) := by
  change (do skipString; pure none : Decoder (Option Frame)) (raw ++ '"'.toUInt8 :: rest) = _
  exact bind_eq_ok.mpr ⟨(), rest, skipString_eq_ok_iff.mpr ⟨raw, h, rfl⟩, rfl⟩

/-- At an opening bracket its frame is entered. -/
theorem skipWithin_of_opener (f : Frame) (frames : List Frame) (hSpace : Space bytes (f.opener :: mid))
    (hFuel : bytes.length < fuel) :
    ∃ fuel', mid.length < fuel' ∧ skipWithin frames fuel bytes = goOn false (f :: frames) fuel' mid := by
  have hLength := hSpace.length_le
  rw [List.length_cons] at hLength
  cases fuel with
  | zero => omega
  | succ fuel =>
    refine ⟨fuel, by omega, ?_⟩
    rw [skipWithin_succ, bind_of_ok ((skipStart_space hSpace (by cases f <;> decide)).trans
      (skipStart_opener f mid))]

mutual

/-- A value is skipped, whatever the frames around it are. This goes by the
recursion of the grammar, together with members and all members of a frame; the
fuel that is left is still enough for the bytes that are left. -/
theorem skipWithin_of_value : ∀ {start rest bytes : List UInt8} {t : Tree} {fuel : Nat} (frames : List Frame),
    ValueAt start t rest → Ends rest → Space bytes start → bytes.length < fuel →
      ∃ fuel', rest.length < fuel' ∧ skipWithin frames fuel bytes = goOn true frames fuel' rest
  | _, _, _, _, _, frames, .null rest, _, hSpace, hFuel =>
    have hStart := (skipStart_space hSpace (by decide)).trans (skipStart_word ['u', 'l', 'l'] rest)
    skipWithin_of_none hStart hSpace (by simp [ascii]; omega) hFuel
  | _, _, _, _, _, frames, .isTrue rest, _, hSpace, hFuel =>
    have hStart := (skipStart_space hSpace (by decide)).trans (skipStart_word ['r', 'u', 'e'] rest)
    skipWithin_of_none hStart hSpace (by simp [ascii]; omega) hFuel
  | _, _, _, _, _, frames, .isFalse rest, _, hSpace, hFuel =>
    have hStart := (skipStart_space hSpace (by decide)).trans (skipStart_word ['a', 'l', 's', 'e'] rest)
    skipWithin_of_none hStart hSpace (by simp [ascii]; omega) hFuel
  | _, _, _, _, _, frames, .number rest hNumber, hEnds, hSpace, hFuel => by
    -- of all values only a number could go on with what is behind it
    have hSome := List.length_pos_iff.mpr hNumber.ne_nil
    have hLiteral := skipStart_number hNumber hEnds.stops
    obtain ⟨b, more, hEq, hb, -⟩ := (ValueAt.number rest hNumber).head
    have hLength := congrArg List.length hEq
    rw [List.length_append] at hLength
    rw [hEq] at hSpace hLiteral
    exact skipWithin_of_none ((skipStart_space hSpace hb).trans hLiteral) hSpace (by omega) hFuel
  | _, _, _, _, _, frames, .string rest hContent, _, hSpace, hFuel =>
    have hStart := (skipStart_space hSpace (by decide)).trans (skipStart_string hContent rest)
    skipWithin_of_none hStart hSpace (by simp; omega) hFuel
  | _, _, _, _, _, frames, .list hParts, _, hSpace, hFuel =>
    have ⟨_, hFuel', hEq⟩ := skipWithin_of_opener .list frames hSpace hFuel
    have ⟨fuel'', hFuel'', hEq'⟩ := goOn_of_parts frames hParts hFuel'
    ⟨fuel'', hFuel'', hEq.trans hEq'⟩
  | _, _, _, _, _, frames, .object hParts, _, hSpace, hFuel =>
    have ⟨_, hFuel', hEq⟩ := skipWithin_of_opener .object frames hSpace hFuel
    have ⟨fuel'', hFuel'', hEq'⟩ := goOn_of_parts frames hParts hFuel'
    ⟨fuel'', hFuel'', hEq.trans hEq'⟩

/-- A member is skipped inside its frame. -/
theorem resume_of_part : ∀ {start rest bytes : List UInt8} {f : Frame} {p : List UInt8 × Tree} {fuel : Nat}
    (outer : List Frame), PartAt f start p rest → Ends rest → Space bytes start → bytes.length < fuel →
      ∃ fuel', rest.length < fuel' ∧ resume (f :: outer) fuel bytes = goOn true (f :: outer) fuel' rest
  | _, _, _, _, _, _, outer, .item hValue, hEnds, hSpace, hFuel =>
    skipWithin_of_value (.list :: outer) hValue hEnds hSpace hFuel
  | _, _, _, _, _, _, outer, .entry hContent hColon hStart hValue, hEnds, hSpace, hFuel => by
    have hKey := skipKey_eq_ok_iff.mpr ⟨_, _, hContent, hSpace, hColon⟩
    have hLength := hSpace.length_le
    have hLength' := hColon.length_le
    simp only [List.length_cons, List.length_append] at hLength hLength'
    obtain ⟨fuel', hFuel', hEq⟩ := skipWithin_of_value (.object :: outer) hValue hEnds hStart
      (Nat.lt_of_le_of_lt (by omega) hFuel)
    exact ⟨fuel', hFuel', (bind_of_ok hKey).trans hEq⟩

/-- Members are skipped up to the end of their frame. -/
theorem goOn_of_parts : ∀ {bytes rest : List UInt8} {f : Frame} {first : Bool}
    {parts : List (List UInt8 × Tree)} {fuel : Nat} (outer : List Frame),
    PartsAt f first bytes parts rest → bytes.length < fuel →
      ∃ fuel', rest.length < fuel' ∧ goOn (!first) (f :: outer) fuel bytes = goOn true outer fuel' rest
  | _, _, _, _, _, fuel, outer, .close hSpace, hFuel => by
    have hLength := hSpace.length_le
    rw [List.length_cons] at hLength
    exact ⟨fuel, by omega, goOn_of_closer hSpace⟩
  | _, _, _, _, _, fuel, outer, .part hLead hPart hParts, hFuel =>
    have ⟨_, hSpace, hLength, hEq⟩ := goOn_of_lead outer fuel hLead hPart
    have ⟨_, hFuel', hEq'⟩ := resume_of_part outer hPart hParts.ends hSpace (Nat.lt_of_le_of_lt hLength hFuel)
    have ⟨fuel'', hFuel'', hEq''⟩ := goOn_of_parts outer hParts hFuel'
    ⟨fuel'', hFuel'', hEq.trans (hEq'.trans hEq'')⟩

end

/-- Every value is skipped, and nothing else. -/
theorem skip_reads : skip.Reads fun _ _ => True where
  sound h := by
    obtain ⟨start, t, mid, hSpace, hValue, rfl⟩ := closes_of_skipWithin h
    exact ⟨start, t, hSpace, hValue, trivial⟩
  complete {bytes start rest t a} hSpace hValue _ hEnds := by
    obtain ⟨fuel, -, hEq⟩ := skipWithin_of_value [] hValue hEnds hSpace (Nat.lt_succ_self bytes.length)
    exact hEq

end RemoteConsole.Json.Decoder
