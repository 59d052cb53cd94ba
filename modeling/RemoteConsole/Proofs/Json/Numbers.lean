import RemoteConsole.Proofs.Json.Decoding

/-!
# Numbers are read as they are written

A number ends where nothing stands that it could go on with; `Ends` holds at
such places, and the readers stop at no earlier one. A number that is asked for
as a natural number has to be an integer that fits 64 bits: neither a fraction
nor an exponent makes one, whatever its value is.

* `Decoder.natural_reads` — the decoder of natural numbers.
* `Decoder.exists_magnitude_of_skipNumber`, `Decoder.skipNumber_of_isMagnitude`
  — a number that is skipped.
-/

namespace RemoteConsole.Json

variable {bytes rest ds : List UInt8} {b : UInt8} {n : Nat}

/-! ## Runs of digits -/

/-- Bytes that no number goes on with: no digit, no point and no mark of an
exponent. -/
def Stops (rest : List UInt8) : Prop :=
  ∀ b ∈ rest.head?, isDigit b = false ∧ b ≠ '.'.toUInt8 ∧ Decoder.isExponentMark (some b) = false

/-- Where a value may end a number stops, as white space, commas and brackets
are none of these. -/
theorem Ends.stops (h : Ends rest) : Stops rest := by
  intro b hb
  rcases h b hb with hSpace | rfl | rfl | rfl
  · rcases isSpace_iff.mp hSpace with rfl | rfl | rfl | rfl <;> decide
  all_goals decide

theorem isDigits_takeWhile (h : isDigit b = true) : IsDigits ((b :: bytes).takeWhile isDigit) := by
  refine ⟨?_, List.all_eq_true.mp List.all_takeWhile⟩
  rw [List.takeWhile_cons_of_pos h]
  exact List.cons_ne_nil _ _

/-- Bytes that pass a test are told from what follows them. -/
theorem span_append {p : UInt8 → Bool} (hAll : ∀ d ∈ ds, p d = true) (hRest : ∀ b ∈ rest.head?, p b = false) :
    (ds ++ rest).takeWhile p = ds ∧ (ds ++ rest).dropWhile p = rest := by
  rw [List.takeWhile_append_of_pos hAll, List.dropWhile_append_of_pos hAll]
  cases rest with
  | nil => simp
  | cons b rest => simp [hRest b rfl]

theorem IsInteger.isNumber (h : IsInteger ds) : IsNumber ds :=
  .inl ⟨ds, [], [], h, .inl rfl, .inl rfl, by simp⟩

/-- A number of digits only is an integer: a fraction has a point, an exponent
has a mark, and a negative number has a sign. -/
theorem IsNumber.isInteger (h : IsNumber ds) (hDigits : ∀ d ∈ ds, isDigit d = true) : IsInteger ds := by
  rcases h with ⟨int, fraction, exponent, hInt, hFraction, hExponent, rfl⟩ | ⟨magnitude, -, rfl⟩
  · simp only [List.mem_append] at hDigits
    -- a fraction starts with a point, which is no digit
    have hNoFraction : fraction = [] := by
      rcases hFraction with rfl | ⟨ds, -, rfl⟩
      · rfl
      · exact absurd (hDigits '.'.toUInt8 (by simp)) (by decide)
    have hNoExponent : exponent = [] := by
      rcases hExponent with rfl | ⟨mark, sign, ds, hMark, -, -, rfl⟩
      · rfl
      · have hDigit := hDigits mark (by simp)
        rcases isExponentMark_iff.mp hMark with rfl | rfl <;> exact absurd hDigit (by decide)
    rw [hNoFraction, hNoExponent, List.append_nil, List.append_nil]
    exact hInt
  · exact absurd (hDigits '-'.toUInt8 List.mem_cons_self) (by decide)

theorem IsInteger.digits (h : IsInteger ds) : ∀ d ∈ ds, isDigit d = true := by
  rcases h with rfl | h
  · exact List.forall_mem_singleton.mpr (by decide)
  · exact h.1.2

/-- A number does not get smaller with further digits. -/
theorem le_foldl_digits (n : Nat) (ds : List UInt8) :
    n ≤ ds.foldl (fun n d => n * 10 + digitValue d) n := by
  induction ds generalizing n with
  | nil => exact Nat.le_refl _
  | cons d ds ih => exact Nat.le_trans (by omega) (ih (n * 10 + digitValue d))

/-- All digits are taken exactly if the number fits 64 bits. The induction is on
the digits, with the number so far, which fits, being any. -/
theorem absorb_eq_zero_iff {m : Nat} (hn : n ≤ largest) :
    absorb n ds = (m, 0) ↔ ds.foldl (fun n d => n * 10 + digitValue d) n = m ∧ m ≤ largest := by
  induction ds generalizing n with
  | nil =>
    rw [absorb, List.foldl_nil, Prod.mk.injEq]
    constructor
    · rintro ⟨rfl, -⟩
      exact ⟨rfl, hn⟩
    · rintro ⟨rfl, -⟩
      exact ⟨rfl, rfl⟩
  | cons d ds ih =>
    rw [absorb, List.foldl_cons]
    -- the next digit is taken if the number with it still fits
    split
    · next hFits => exact ih hFits
    · next hLarge =>
      -- one digit too many is one too many for ever, as the number only grows
      refine iff_of_false (fun h => Nat.succ_ne_zero _ (Prod.mk.inj h).2) ?_
      rintro ⟨rfl, hm⟩
      exact hLarge (Nat.le_trans (le_foldl_digits _ ds) hm)

namespace Decoder

/-! ## Natural numbers -/

/-- A number that is put together from its parts is a float. -/
theorem parts_ne_natural {negative : Bool} {significand : Nat} {exponent : Int} :
    parts negative significand exponent bytes ≠ .ok (.natural n, rest) := by
  intro h
  unfold parts at h
  cases hScale : scale? significand exponent <;> rw [hScale] at h <;> cases h

/-- A number with an exponent is no natural number, though its value may be
one. -/
theorem exponentValue_ne_natural {negative downward : Bool} {significand : Nat} {start : Int} :
    exponentValue negative significand start downward bytes ≠ .ok (.natural n, rest) := by
  intro h
  unfold exponentValue at h
  split at h
  · exact parts_ne_natural h
  · split at h <;> cases h

/-- A number with the mark of an exponent is no natural number, whatever follows
the mark. -/
theorem exponent_ne_natural {negative : Bool} {significand : Nat} {start : Int} :
    exponent negative significand start bytes ≠ .ok (.natural n, rest) := by
  unfold exponent
  repeat' first
    | split
    | refine bind_ne_ok fun _ _ => ?_
  all_goals first
    | exact exponentValue_ne_natural
    | exact fail_ne_ok

/-- A number with a point is no natural number, whatever follows the point. -/
theorem fraction_ne_natural {negative : Bool} {significand : Nat} {start : Int} :
    fraction negative significand start bytes ≠ .ok (.natural n, rest) := by
  unfold fraction
  repeat' first
    | exact exponent_ne_natural
    | exact parts_ne_natural
    | exact failAhead_ne_ok
    | split
    | refine bind_ne_ok fun _ _ => ?_

/-- An integer is a natural number exactly if it has no sign: minus zero is a
float. -/
theorem integer_eq_natural_iff {negative : Bool} {m : Nat} :
    integer negative m = .natural n ↔ negative = false ∧ m = n := by
  unfold integer
  cases negative with
  | false => simp
  | true =>
    refine iff_of_false ?_ (by simp)
    rw [if_neg (by simp)]
    split <;> exact fun h => nomatch h

/-- What follows the digits makes a natural number only if it is no part of the
number. -/
theorem afterInteger_eq_ok_iff {negative : Bool} {m leftOut : Nat} :
    afterInteger negative m leftOut bytes = .ok (.natural n, rest) ↔
      (negative = false ∧ m = n) ∧ leftOut = 0 ∧ bytes = rest ∧
        ∀ b ∈ bytes.head?, b ≠ '.'.toUInt8 ∧ isExponentMark (some b) = false := by
  -- the branches are chosen by the next byte, which stays
  have hPeek : afterInteger negative m leftOut bytes =
      (if bytes.head? == some '.'.toUInt8 then fraction negative m leftOut
        else if isExponentMark bytes.head? then exponent negative m leftOut
        else if leftOut = 0 then pure (integer negative m)
        else parts negative m leftOut) bytes := rfl
  rw [hPeek]
  split
  · next hPoint =>
    refine iff_of_false fraction_ne_natural ?_
    rintro ⟨-, -, -, hHead⟩
    exact (hHead _ (eq_of_beq hPoint)).1 rfl
  next hPoint =>
  split
  · next hMark =>
    refine iff_of_false exponent_ne_natural ?_
    rintro ⟨-, -, -, hHead⟩
    cases hFirst : bytes.head? with
    | none => rw [hFirst] at hMark; cases hMark
    | some b => rw [hFirst, (hHead b hFirst).2] at hMark; cases hMark
  next hMark =>
  split
  -- neither point nor mark follows and no digit was left out
  · next hAll =>
    rw [← integer_eq_natural_iff]
    constructor
    · intro h
      obtain ⟨hNatural, rfl⟩ := Prod.mk.inj (Except.ok.inj h)
      refine ⟨hNatural, hAll, rfl, fun b hb => ⟨?_, ?_⟩⟩
      · rintro rfl
        exact hPoint (by rw [hb]; rfl)
      · rw [hb] at hMark
        simpa using hMark
    · rintro ⟨hNatural, -, rfl, -⟩
      rw [hNatural]
      rfl
  · next hLeft => exact iff_of_false parts_ne_natural fun h => hLeft h.2.1

/-- A zero is an integer of its own; nothing but what is behind an integer may
follow it. -/
theorem number_zero {negative : Bool} :
    number negative ('0'.toUInt8 :: bytes) =
      if bytes.head?.any isDigit then failAhead .invalidNumber bytes
      else afterInteger negative 0 0 bytes := by
  cases bytes with
  | nil => rfl
  | cons d bytes =>
    change (if isDigit d then failAhead .invalidNumber else afterInteger negative 0 0) (d :: bytes) = _
    rw [List.head?_cons, Option.any_some]
    split <;> rfl

/-- The digits behind the first are taken as far as they fit 64 bits, and the
others are counted. -/
theorem number_digits {negative : Bool} (hZero : b ≠ '0'.toUInt8) (hDigit : isDigit b = true) :
    number negative (b :: bytes) =
      afterInteger negative (absorb 0 ((b :: bytes).takeWhile isDigit)).1
        (absorb 0 ((b :: bytes).takeWhile isDigit)).2 ((b :: bytes).dropWhile isDigit) := by
  change (if b == '0'.toUInt8 then _ else if isDigit b then _ else _ : Decoder Number) (b :: bytes) = _
  rw [if_neg (by simpa using hZero), if_pos hDigit]
  rfl

/-- A number starts with a digit. -/
theorem number_of_not_digit {negative : Bool} (hDigit : isDigit b = false) :
    number negative (b :: bytes) = fail .invalidNumber bytes := by
  have hZero : ¬ (b == '0'.toUInt8) = true := by
    intro h
    rw [eq_of_beq h] at hDigit
    exact absurd hDigit (by decide)
  change (if b == '0'.toUInt8 then _ else if isDigit b then _ else _ : Decoder Number) (b :: bytes) = _
  rw [if_neg hZero, if_neg (by simp [hDigit])]
  rfl

/-- What a natural number is read from, behind the sign of a number: an integer
that fits 64 bits. A zero in front and another digit are the two cases of the
reader and of the grammar. -/
theorem exists_integer_of_number {negative : Bool} (h : number negative bytes = .ok (.natural n, rest)) :
    negative = false ∧ ∃ ds, IsInteger ds ∧ numeral ds = n ∧ n ≤ largest ∧ bytes = ds ++ rest := by
  cases bytes with
  | nil => cases h
  | cons b bytes =>
    by_cases hZero : b = '0'.toUInt8
    · subst hZero
      -- a zero must not be followed by another digit
      have hAfter : afterInteger negative 0 0 bytes = .ok (.natural n, rest) := by
        rw [number_zero] at h
        split at h
        · cases h
        · exact h
      obtain ⟨⟨hPositive, rfl⟩, -, rfl, -⟩ := afterInteger_eq_ok_iff.mp hAfter
      exact ⟨hPositive, ['0'.toUInt8], .inl rfl, rfl, Nat.zero_le _, rfl⟩
    · by_cases hDigit : isDigit b = true
      · rw [number_digits hZero hDigit] at h
        obtain ⟨⟨hPositive, hValue⟩, hAll, hRest, -⟩ := afterInteger_eq_ok_iff.mp h
        -- no digit was left out, so the number fits
        have hAbsorb := (absorb_eq_zero_iff (Nat.zero_le _)).mp (Prod.ext hValue hAll)
        refine ⟨hPositive, _, .inr ⟨isDigits_takeWhile hDigit, ?_⟩, hAbsorb.1, hAbsorb.2, ?_⟩
        · rw [List.takeWhile_cons_of_pos hDigit]
          simpa using hZero
        · rw [← hRest, List.takeWhile_append_dropWhile]
      · rw [number_of_not_digit (by simpa using hDigit)] at h
        cases h

/-- An integer that fits 64 bits is read as its value if no number goes on
behind it. -/
theorem number_of_isInteger (hInteger : IsInteger ds) (hLarge : numeral ds ≤ largest) (hRest : Stops rest) :
    number false (ds ++ rest) = .ok (.natural (numeral ds), rest) := by
  have hHead : ∀ b ∈ rest.head?, b ≠ '.'.toUInt8 ∧ isExponentMark (some b) = false := fun b hb =>
    (hRest b hb).2
  rcases hInteger with rfl | ⟨⟨hNil, hDigits⟩, hZero⟩
  · rw [List.singleton_append, number_zero]
    have hAfter : afterInteger false 0 0 rest = .ok (.natural 0, rest) :=
      afterInteger_eq_ok_iff.mpr ⟨⟨rfl, rfl⟩, rfl, rfl, hHead⟩
    -- behind a zero the reader looks for a digit before it goes on
    rw [if_neg, hAfter]
    · rfl
    · cases hFirst : rest.head? with
      | none => simp
      | some d => simp [(hRest d hFirst).1]
  -- the run of digits that the reader takes is the integer, as no digit follows
  -- it
  · obtain ⟨d, more, rfl⟩ := List.exists_cons_of_ne_nil hNil
    have hSpan := span_append hDigits fun b hb => (hRest b hb).1
    have hAbsorb := (absorb_eq_zero_iff (Nat.zero_le _)).mpr ⟨rfl, hLarge⟩
    rw [List.cons_append, number_digits (by simpa using hZero) (hDigits d List.mem_cons_self),
      ← List.cons_append, hSpan.1, hSpan.2]
    exact afterInteger_eq_ok_iff.mpr ⟨⟨rfl, congrArg Prod.fst hAbsorb⟩, congrArg Prod.snd hAbsorb, rfl, hHead⟩

/-- The decoder of natural numbers reads the integers of 64 bits without a sign.
So a larger integer, a negative one, a fraction and an exponent are all refused,
each with an error of its own. -/
theorem natural_reads : natural.Reads fun t n => t.IsNatural n ∧ n < UInt64.size where
  sound {bytes rest n} h := by
    obtain ⟨b, more, hSpace, -, h⟩ := valueStart_bind_eq_ok.mp (placed_eq_ok.mp h)
    -- behind the white space there is a minus sign, a digit, or no number
    have hNumber : ∃ negative bytes, number negative bytes = .ok (.natural n, rest) ∧
        (negative = false → bytes = b :: more) := by
      split at h
      · split at h
        · next hMinus =>
          -- a number behind a minus sign is none of the naturals, not even zero
          obtain ⟨num, mid, hNumber, h⟩ := bind_eq_ok.mp (advance_bind _ _ ▸ h)
          cases num with
          | natural m => cases h; exact ⟨_, more, hNumber, by simp [hMinus]⟩
          | negative m => cases h
          | float f => cases h
        · obtain ⟨num, mid, hNumber, h⟩ := bind_eq_ok.mp h
          cases num with
          | natural m => cases h; exact ⟨_, _, hNumber, fun _ => rfl⟩
          | negative m => cases h
          | float f => cases h
      · exact absurd h unexpected_ne_ok
    obtain ⟨negative, bytes, hNumber, hBytes⟩ := hNumber
    obtain ⟨hPositive, ds, hInteger, hValue, hLarge, rfl⟩ := exists_integer_of_number hNumber
    refine ⟨_, .number ds, hSpace, ?_, ⟨ds, rfl, hInteger.digits, hValue⟩, ?_⟩
    · rw [← hBytes hPositive]
      exact .number rest hInteger.isNumber
    · exact Nat.lt_of_le_pred (by decide) hLarge
  complete {bytes start rest t n} hSpace hValue hNatural hEnds := by
    obtain ⟨⟨ds, rfl, hDigits, rfl⟩, hLarge⟩ := hNatural
    cases hValue with
    | number rest hNumber =>
      have hInteger := hNumber.isInteger hDigits
      obtain ⟨d, more, rfl⟩ : ∃ d more, ds = d :: more := by
        rcases hInteger with rfl | h
        · exact ⟨_, _, rfl⟩
        · exact List.exists_cons_of_ne_nil h.1.1
      have hd := hDigits d List.mem_cons_self
      -- the integer has no sign, so the reader goes to its digits at once
      have hMinus : (d == '-'.toUInt8) = false := by
        rw [beq_eq_false_iff_ne]
        rintro rfl
        exact absurd hd (by decide)
      refine placed_eq_ok.mpr (valueStart_bind_eq_ok.mpr
        ⟨d, more ++ rest, hSpace, isSpace_of_isDigit hd, ?_⟩)
      rw [hMinus, hd]
      exact bind_eq_ok.mpr
        ⟨_, _, number_of_isInteger hInteger (Nat.le_pred_of_lt hLarge) hEnds.stops, rfl⟩

/-! ## Numbers that are skipped -/

/-- Behind the mark of an exponent a sign may stand, and digits have to. What is
skipped is thus an exponent of the grammar. -/
theorem exists_digits_of_skipExponent {mark : UInt8} (h : skipExponent (mark :: bytes) = .ok ((), rest)) :
    ∃ sign ds, IsSign sign ∧ IsDigits ds ∧ bytes = sign ++ (ds ++ rest) := by
  -- behind the mark or the sign: a digit and those after it
  have hTail : ∀ b more, (if isDigit b then (do let _ ← digits; pure ()) else (do advance; fail .invalidNumber) :
      Decoder Unit) (b :: more) = .ok ((), rest) → ∃ ds, IsDigits ds ∧ b :: more = ds ++ rest := by
    intro b more h
    split at h
    · next hDigit =>
      cases h
      exact ⟨_, isDigits_takeWhile hDigit, List.takeWhile_append_dropWhile.symm⟩
    · cases h
  cases bytes with
  | nil => cases h
  | cons c bytes =>
    -- a sign is skipped if there is one, and the reader wants a digit in either
    -- case
    change (if some c == some '+'.toUInt8 || some c == some '-'.toUInt8 then _ else _ : Decoder Unit)
      (c :: bytes) = _ at h
    split at h
    · next hSign =>
      cases bytes with
      | nil => cases h
      | cons b more =>
        obtain ⟨ds, hDigits, hBytes⟩ := hTail b more h
        exact ⟨[c], ds, .inr (by simpa using hSign), hDigits, by rw [hBytes]; rfl⟩
    · obtain ⟨ds, hDigits, hBytes⟩ := hTail c bytes h
      exact ⟨[], ds, .inl rfl, hDigits, hBytes⟩

/-- An exponent is skipped if its mark stands there, and otherwise there is
none. -/
theorem exists_exponent_of_skip
    (h : (if isExponentMark bytes.head? then skipExponent else pure () : Decoder Unit) bytes =
      .ok ((), rest)) :
    ∃ exponent, IsExponent exponent ∧ bytes = exponent ++ rest := by
  split at h
  · next hMark =>
    cases bytes with
    | nil => cases hMark
    | cons mark bytes =>
      obtain ⟨sign, ds, hSign, hDigits, rfl⟩ := exists_digits_of_skipExponent h
      exact ⟨mark :: (sign ++ ds), .inr ⟨mark, sign, ds, hMark, hSign, hDigits, rfl⟩, by simp⟩
  · cases h
    exact ⟨[], .inl rfl, rfl⟩

/-- What is skipped behind a point are digits, at least one, and perhaps an
exponent. -/
theorem exists_fraction_of_skipFraction (h : skipFraction ('.'.toUInt8 :: bytes) = .ok ((), rest)) :
    ∃ ds exponent, IsDigits ds ∧ IsExponent exponent ∧ bytes = ds ++ (exponent ++ rest) := by
  change (if (bytes.takeWhile isDigit).isEmpty then _ else _ : Decoder Unit) (bytes.dropWhile isDigit) = _
    at h
  split at h
  · cases h
  next hSome =>
  obtain ⟨exponent, hExponent, hRest⟩ := exists_exponent_of_skip h
  refine ⟨bytes.takeWhile isDigit, exponent, ⟨by simpa using hSome, List.all_eq_true.mp List.all_takeWhile⟩,
    hExponent, ?_⟩
  rw [← hRest, List.takeWhile_append_dropWhile]

/-- What is skipped behind an integer is a fraction or none, and an exponent or
none. -/
theorem exists_parts_of_skipAfterInteger (h : skipAfterInteger bytes = .ok ((), rest)) :
    ∃ fraction exponent, IsFraction fraction ∧ IsExponent exponent ∧
      bytes = fraction ++ (exponent ++ rest) := by
  change (if bytes.head? == some '.'.toUInt8 then skipFraction
    else if isExponentMark bytes.head? then skipExponent else pure () : Decoder Unit) bytes = _ at h
  split at h
  · next hPoint =>
    cases bytes with
    | nil => cases hPoint
    | cons b bytes =>
      obtain rfl : b = '.'.toUInt8 := by simpa using hPoint
      -- the exponent behind a fraction is skipped with it
      obtain ⟨ds, exponent, hDigits, hExponent, rfl⟩ := exists_fraction_of_skipFraction h
      exact ⟨_, exponent, .inr ⟨ds, hDigits, rfl⟩, hExponent, rfl⟩
  · obtain ⟨exponent, hExponent, hBytes⟩ := exists_exponent_of_skip h
    exact ⟨[], exponent, .inl rfl, hExponent, hBytes⟩

/-- What is skipped as a number is one. The sign in front of it has been skipped
before. -/
theorem exists_magnitude_of_skipNumber (h : skipNumber bytes = .ok ((), rest)) :
    ∃ magnitude, IsMagnitude magnitude ∧ bytes = magnitude ++ rest := by
  cases bytes with
  | nil => cases h
  | cons b bytes =>
    change (if b == '0'.toUInt8 then _ else if isDigit b then _ else _ : Decoder Unit) (b :: bytes) = _ at h
    split at h
    · next hZero =>
      obtain rfl := eq_of_beq hZero
      -- the second digit would be read as a fault
      have hAfter : skipAfterInteger bytes = .ok ((), rest) := by
        cases bytes with
        | nil => exact h
        | cons d bytes =>
          change (if isDigit d then failAhead .invalidNumber else skipAfterInteger) (d :: bytes) = _ at h
          split at h
          · cases h
          · exact h
      obtain ⟨fraction, exponent, hFraction, hExponent, rfl⟩ := exists_parts_of_skipAfterInteger hAfter
      exact ⟨_, ⟨['0'.toUInt8], fraction, exponent, .inl rfl, hFraction, hExponent, rfl⟩, by simp⟩
    next hZero =>
    split at h
    · next hDigit =>
      obtain ⟨fraction, exponent, hFraction, hExponent, hRest⟩ := exists_parts_of_skipAfterInteger h
      -- the integer is the whole run of digits
      refine ⟨_, ⟨(b :: bytes).takeWhile isDigit, fraction, exponent, ?_, hFraction, hExponent, rfl⟩, ?_⟩
      · refine .inr ⟨isDigits_takeWhile hDigit, ?_⟩
        rw [List.takeWhile_cons_of_pos hDigit]
        simpa using hZero
      · rw [List.append_assoc, List.append_assoc, ← hRest, List.takeWhile_append_dropWhile]
    · cases h

/-- Every exponent is skipped, up to where its digits end. What follows must not
go on with them, which is what `Stops` says of it. -/
theorem skipExponent_of_digits {mark : UInt8} {sign : List UInt8} (hSign : IsSign sign) (hDigits : IsDigits ds)
    (hRest : Stops rest) : skipExponent (mark :: (sign ++ (ds ++ rest))) = .ok ((), rest) := by
  obtain ⟨d, more, rfl⟩ := List.exists_cons_of_ne_nil hDigits.1
  have hd := hDigits.2 d List.mem_cons_self
  have hSpan := (span_append hDigits.2 fun b hb => (hRest b hb).1).2
  have hTail : (if isDigit d then
        (do let _ ← digits; pure ())
      else
        (do advance; fail .invalidNumber) : Decoder Unit) (d :: more ++ rest) = .ok ((), rest) := by
    rw [if_pos hd]
    exact congrArg (fun bytes => Except.ok ((), bytes)) hSpan
  rcases hSign with rfl | rfl | rfl
  -- without a sign the first digit stands there, and no sign is a digit
  · have hNoSign : (some d == some '+'.toUInt8 || some d == some '-'.toUInt8) = false := by
      rw [← Bool.not_eq_true, Bool.or_eq_true, beq_iff_eq, beq_iff_eq, Option.some.injEq, Option.some.injEq]
      rintro (rfl | rfl) <;> exact absurd hd (by decide)
    change (if some d == some '+'.toUInt8 || some d == some '-'.toUInt8 then _ else _ : Decoder Unit)
      (d :: more ++ rest) = _
    rw [hNoSign]
    exact hTail
  · exact hTail
  · exact hTail

/-- Neither a digit nor a point stands where an exponent may stand. -/
theorem head_of_isExponent {exponent : List UInt8} (hExponent : IsExponent exponent) (hRest : Stops rest) :
    ∀ b ∈ (exponent ++ rest).head?, isDigit b = false ∧ b ≠ '.'.toUInt8 := by
  rcases hExponent with rfl | ⟨mark, sign, es, hMark, -, -, rfl⟩
  · exact fun b hb => ⟨(hRest b hb).1, (hRest b hb).2.1⟩
  · intro b hb
    obtain rfl : mark = b := by simpa using hb
    rcases isExponentMark_iff.mp hMark with rfl | rfl <;> decide

/-- An exponent is skipped, and so is the lack of one. -/
theorem skip_of_isExponent {exponent : List UInt8} (hExponent : IsExponent exponent) (hRest : Stops rest) :
    (if isExponentMark (exponent ++ rest).head? then skipExponent else pure () : Decoder Unit)
      (exponent ++ rest) = .ok ((), rest) := by
  rcases hExponent with rfl | ⟨mark, sign, es, hMark, hSign, hDigits, rfl⟩
  · rw [List.nil_append, if_neg]
    · rfl
    · cases hFirst : rest.head? with
      | none => decide
      | some b => simp [(hRest b hFirst).2.2]
  · rw [List.cons_append, List.head?_cons, if_pos hMark, List.append_assoc]
    exact skipExponent_of_digits hSign hDigits hRest

/-- Every fraction is skipped, with the exponent behind it. -/
theorem skipFraction_of_parts {exponent : List UInt8} (hDigits : IsDigits ds) (hExponent : IsExponent exponent)
    (hRest : Stops rest) :
    skipFraction ('.'.toUInt8 :: (ds ++ (exponent ++ rest))) = .ok ((), rest) := by
  obtain ⟨hTake, hDrop⟩ := span_append hDigits.2 fun b hb => (head_of_isExponent hExponent hRest b hb).1
  change (if ((ds ++ (exponent ++ rest)).takeWhile isDigit).isEmpty then _ else _ : Decoder Unit)
    ((ds ++ (exponent ++ rest)).dropWhile isDigit) = _
  rw [hTake, hDrop, if_neg (by simpa using hDigits.1)]
  exact skip_of_isExponent hExponent hRest

/-- What may stand behind an integer is skipped. -/
theorem skipAfterInteger_of_parts {fraction exponent : List UInt8} (hFraction : IsFraction fraction)
    (hExponent : IsExponent exponent) (hRest : Stops rest) :
    skipAfterInteger (fraction ++ (exponent ++ rest)) = .ok ((), rest) := by
  rcases hFraction with rfl | ⟨ds, hDigits, rfl⟩
  · change (if (exponent ++ rest).head? == some '.'.toUInt8 then skipFraction
      else if isExponentMark (exponent ++ rest).head? then skipExponent else pure () : Decoder Unit)
        (exponent ++ rest) = _
    rw [if_neg]
    · exact skip_of_isExponent hExponent hRest
    · intro hPoint
      exact (head_of_isExponent hExponent hRest _ (eq_of_beq hPoint)).2 rfl
  · exact skipFraction_of_parts hDigits hExponent hRest

/-- Every number is skipped, up to where it ends. What follows an integer starts
with no digit, so the reader's run of digits is the integer's. -/
theorem skipNumber_of_isMagnitude {magnitude : List UInt8} (h : IsMagnitude magnitude) (hRest : Stops rest) :
    skipNumber (magnitude ++ rest) = .ok ((), rest) := by
  obtain ⟨int, fraction, exponent, hInt, hFraction, hExponent, rfl⟩ := h
  have hAfter := skipAfterInteger_of_parts hFraction hExponent hRest
  have hHead : ∀ b ∈ (fraction ++ (exponent ++ rest)).head?, isDigit b = false := by
    rcases hFraction with rfl | ⟨ds, -, rfl⟩
    · exact fun b hb => (head_of_isExponent hExponent hRest b hb).1
    · intro b hb
      obtain rfl : '.'.toUInt8 = b := by simpa using hb
      decide
  rw [List.append_assoc, List.append_assoc]
  -- what follows the integer is skipped and starts with no digit; its parts no
  -- longer matter
  generalize fraction ++ (exponent ++ rest) = more at hAfter hHead
  -- a zero alone or a run of digits
  rcases hInt with rfl | ⟨hDigits, hZero⟩
  · cases more with
    | nil => exact hAfter
    | cons d more =>
      change (if isDigit d then failAhead .invalidNumber else skipAfterInteger) (d :: more) = _
      rw [if_neg (by simp [hHead d rfl])]
      exact hAfter
  · obtain ⟨d, ds, rfl⟩ := List.exists_cons_of_ne_nil hDigits.1
    change (if d == '0'.toUInt8 then _ else if isDigit d then _ else _ : Decoder Unit) (d :: ds ++ more) = _
    rw [if_neg (by simpa using hZero), if_pos (hDigits.2 d List.mem_cons_self)]
    change skipAfterInteger ((d :: ds ++ more).dropWhile isDigit) = _
    rw [(span_append hDigits.2 hHead).2]
    exact hAfter

end Decoder

end RemoteConsole.Json
