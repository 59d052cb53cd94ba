import RemoteConsole.Proofs.Json.Skipping

/-!
# A document is one value

No bytes are two values: a value is told from every other by the byte that it
starts with, a number by the first byte that no number goes on with, a string by
the first mark that is not escaped, and a list or an object member by member.

* `ValueAt.unique` — a value that nothing goes on with, and what is behind it.
* `Document.unique` — the value of a document.
-/

namespace RemoteConsole.Json

variable {bytes rest rest' : List UInt8}

/-! ## White space and numbers -/

/-- Something stands here that is no white space. -/
def Starts (bytes : List UInt8) : Prop :=
  ∃ b more, bytes = b :: more ∧ Decoder.isSpace b = false

theorem Starts.of_cons {b : UInt8} {more : List UInt8} (h : Decoder.isSpace b = false) : Starts (b :: more) :=
  ⟨b, more, rfl, h⟩

theorem ValueAt.starts {t : Tree} (h : ValueAt bytes t rest) : Starts bytes := by
  obtain ⟨b, more, rfl, hb, -⟩ := h.head
  exact .of_cons hb

theorem PartAt.starts {f : Frame} {p : List UInt8 × Tree} (h : PartAt f bytes p rest) : Starts bytes := by
  obtain ⟨b, more, rfl, hb, -⟩ := h.head
  exact .of_cons hb

/-- White space leads to one place where something else starts. -/
theorem Space.unique {start start' : List UInt8} (h : Space bytes start) (h' : Space bytes start')
    (hStarts : Starts start) (hStarts' : Starts start') : start = start' := by
  obtain ⟨b, more, rfl, hb⟩ := hStarts
  obtain ⟨b', more', rfl, hb'⟩ := hStarts'
  -- white space is skipped to one place
  have hToken := Decoder.token_eq h hb
  rw [Decoder.token_eq h' hb'] at hToken
  exact (Prod.mk.inj (Except.ok.inj hToken)).2.symm

/-- What stands before a member leads to one place. -/
theorem Lead.unique {first : Bool} {start start' : List UInt8} (h : Lead first bytes start)
    (h' : Lead first bytes start') (hStarts : Starts start) (hStarts' : Starts start') : start = start' := by
  cases first with
  | true => exact Space.unique h h' hStarts hStarts'
  | false =>
    obtain ⟨behind, hComma, hSpace⟩ := h
    obtain ⟨behind', hComma', hSpace'⟩ := h'
    obtain ⟨-, rfl⟩ := List.cons.inj (hComma.unique hComma' (.of_cons (by decide)) (.of_cons (by decide)))
    exact hSpace.unique hSpace' hStarts hStarts'

/-- No member stands where a list or an object is closed. -/
theorem Lead.not_partAt {f : Frame} {first : Bool} {start mid : List UInt8} {p : List UInt8 × Tree}
    (hLead : Lead first bytes start) (hCloser : Space bytes (f.closer :: rest)) : ¬ PartAt f start p mid := by
  intro hPart
  have hFacts := Decoder.closer_facts f
  cases first with
  | true =>
    obtain ⟨b, more, rfl, hb, hNe⟩ := hPart.head
    exact hNe (List.cons.inj (Space.unique hLead hCloser (.of_cons hb) (.of_cons hFacts.1))).1
  | false =>
    obtain ⟨behind, hComma, -⟩ := hLead
    exact hFacts.2 (List.cons.inj (hCloser.unique hComma (.of_cons hFacts.1) (.of_cons (by decide)))).1

/-- Whether a byte may stand in a number. -/
def isNumberByte (b : UInt8) : Bool :=
  isDigit b || (ascii ['+', '-', '.', 'e', 'E']).contains b

/-- A number has only bytes that may stand in one, in its integer, its fraction
and its exponent alike. -/
theorem IsNumber.all {literal : List UInt8} (h : IsNumber literal) :
    ∀ b ∈ literal, isNumberByte b = true := by
  have hDigit : ∀ b, isDigit b = true → isNumberByte b = true := fun b hb => by
    rw [isNumberByte, hb, Bool.true_or]
  have hMark : ∀ b, Decoder.isExponentMark (some b) = true → isNumberByte b = true := by
    intro b hb
    rcases isExponentMark_iff.mp hb with rfl | rfl <;> decide
  have hMagnitude : ∀ {magnitude : List UInt8}, IsMagnitude magnitude →
      ∀ b ∈ magnitude, isNumberByte b = true := by
    rintro _ ⟨int, fraction, exponent, hInt, hFraction, hExponent, rfl⟩
    refine List.forall_mem_append.mpr ⟨fun b hb => hDigit b (hInt.digits b hb),
      List.forall_mem_append.mpr ⟨?_, ?_⟩⟩
    · rcases hFraction with rfl | ⟨ds, hDigits, rfl⟩
      · simp
      · exact List.forall_mem_cons.mpr ⟨by decide, fun b hb => hDigit b (hDigits.2 b hb)⟩
    · rcases hExponent with rfl | ⟨mark, sign, ds, hm, hSign, hDigits, rfl⟩
      · simp
      · refine List.forall_mem_cons.mpr ⟨hMark mark hm, List.forall_mem_append.mpr ⟨?_, ?_⟩⟩
        -- a sign may be missing
        · rcases hSign with rfl | rfl | rfl
          · simp
          all_goals exact List.forall_mem_singleton.mpr (by decide)
        · exact fun b hb => hDigit b (hDigits.2 b hb)
  rcases h with hPositive | ⟨magnitude, hNegative, rfl⟩
  · exact hMagnitude hPositive
  · exact List.forall_mem_cons.mpr ⟨by decide, hMagnitude hNegative⟩

/-- What ends a value may not stand in a number. -/
theorem Ends.head_not_number (h : Ends rest) : ∀ b ∈ rest.head?, isNumberByte b = false := by
  intro b hb
  rcases h b hb with hSpace | rfl | rfl | rfl
  · rcases isSpace_iff.mp hSpace with rfl | rfl | rfl | rfl <;> decide
  all_goals decide

/-- A number is all that may stand in one, up to where it ends. -/
theorem IsNumber.unique {literal literal' : List UInt8} (h : IsNumber literal) (h' : IsNumber literal')
    (hEnds : Ends rest) (hEnds' : Ends rest') (hEq : literal ++ rest = literal' ++ rest') :
    literal = literal' ∧ rest = rest' := by
  have hSpan := span_append h.all hEnds.head_not_number
  have hSpan' := span_append h'.all hEnds'.head_not_number
  rw [hEq] at hSpan
  exact ⟨hSpan.1.symm.trans hSpan'.1, hSpan.2.symm.trans hSpan'.2⟩

/-- A string ends at its first mark that is not escaped. -/
theorem IsContent.unique {raw raw' : List UInt8} (h : IsContent raw) (h' : IsContent raw')
    (hEq : raw ++ '"'.toUInt8 :: rest = raw' ++ '"'.toUInt8 :: rest') : raw = raw' ∧ rest = rest' := by
  -- the reader that skips strings stops at one place
  have hSkip := Text.skip_of_isContent h rest
  rw [hEq, Text.skip_of_isContent h' rest'] at hSkip
  obtain rfl := Except.ok.inj hSkip
  exact ⟨List.append_cancel_right hEq, rfl⟩

/-! ## Values -/

/-- The kinds of values that are told apart by how they start. -/
inductive Kind where
  | null | boolean (b : Bool) | number | string | list | object
  deriving DecidableEq

/-- The kind of a value. -/
def Tree.kind : Tree → Kind
  | null => .null
  | boolean b => .boolean b
  | number _ => .number
  | string _ => .string
  | list _ => .list
  | object _ => .object

/-- The kind of the values that start with a byte. -/
def Kind.ofByte (b : UInt8) : Kind :=
  if b = 'n'.toUInt8 then .null
  else if b = 't'.toUInt8 then .boolean true
  else if b = 'f'.toUInt8 then .boolean false
  else if b = '"'.toUInt8 then .string
  else if b = '['.toUInt8 then .list
  else if b = '\x7b'.toUInt8 then .object
  else .number

/-- What starts with a digit is a number. -/
theorem Kind.ofByte_of_isDigit {b : UInt8} (h : isDigit b = true) : ofByte b = .number := by
  have hNe : ∀ c : UInt8, isDigit c = false → b ≠ c := by
    rintro c hc rfl
    rw [h] at hc
    cases hc
  unfold ofByte
  rw [if_neg (hNe _ (by decide)), if_neg (hNe _ (by decide)), if_neg (hNe _ (by decide)),
    if_neg (hNe _ (by decide)), if_neg (hNe _ (by decide)), if_neg (hNe _ (by decide))]

/-- The first byte of a value tells its kind, a minus sign included. -/
theorem ValueAt.kind_eq {t : Tree} (h : ValueAt bytes t rest) : bytes.head?.map Kind.ofByte = some t.kind := by
  cases h with
  | number _ hNumber =>
    rcases hNumber with hMagnitude | ⟨magnitude, -, rfl⟩
    · obtain ⟨d, more, rfl, hd⟩ := hMagnitude.head
      exact congrArg some (Kind.ofByte_of_isDigit hd)
    · rfl
  | _ => rfl

mutual

/-- A value that nothing goes on with is told from what is behind it, and is one
value only. This is proved together with the same of members, by the recursion
of the grammar on the first of the two values; the kind leaves one case for the
second. -/
theorem ValueAt.unique : ∀ {bytes rest rest' : List UInt8} {t t' : Tree}, ValueAt bytes t rest →
    ValueAt bytes t' rest' → Ends rest → Ends rest' → t = t' ∧ rest = rest'
  | bytes, _, rest', t, t', h, h', hEnds, hEnds' => by
    -- the first byte leaves one kind for both
    have hKind : t.kind = t'.kind := Option.some.inj (h.kind_eq.symm.trans h'.kind_eq)
    match h with
    | .null rest =>
      generalize hBytes : ascii ['n', 'u', 'l', 'l'] ++ rest = bytes at h'
      cases h' with
      | null _ => exact ⟨rfl, List.append_cancel_left hBytes⟩
      | _ => cases hKind
    | .isTrue rest =>
      generalize hBytes : ascii ['t', 'r', 'u', 'e'] ++ rest = bytes at h'
      cases h' with
      | isTrue _ => exact ⟨rfl, List.append_cancel_left hBytes⟩
      | _ => cases hKind
    | .isFalse rest =>
      generalize hBytes : ascii ['f', 'a', 'l', 's', 'e'] ++ rest = bytes at h'
      cases h' with
      | isFalse _ => exact ⟨rfl, List.append_cancel_left hBytes⟩
      | _ => cases hKind
    | @ValueAt.number literal rest hNumber =>
      generalize hBytes : literal ++ rest = bytes at h'
      cases h' with
      | number _ hNumber' =>
        obtain ⟨rfl, rfl⟩ := hNumber.unique hNumber' hEnds hEnds' hBytes
        exact ⟨rfl, rfl⟩
      | _ => cases hKind
    | @ValueAt.string raw rest hContent =>
      generalize hBytes : '"'.toUInt8 :: (raw ++ '"'.toUInt8 :: rest) = bytes at h'
      cases h' with
      | string _ hContent' =>
        obtain ⟨rfl, rfl⟩ := hContent.unique hContent' (List.cons.inj hBytes).2
        exact ⟨rfl, rfl⟩
      | _ => cases hKind
    | .list hParts =>
      generalize hBytes : '['.toUInt8 :: _ = bytes at h'
      cases h' with
      | list hParts' =>
        obtain ⟨-, rfl⟩ := List.cons.inj hBytes
        obtain ⟨rfl, rfl⟩ := PartsAt.unique hParts hParts'
        exact ⟨rfl, rfl⟩
      | _ => cases hKind
    | .object hParts =>
      generalize hBytes : '\x7b'.toUInt8 :: _ = bytes at h'
      cases h' with
      | object hParts' =>
        obtain ⟨-, rfl⟩ := List.cons.inj hBytes
        obtain ⟨rfl, rfl⟩ := PartsAt.unique hParts hParts'
        exact ⟨rfl, rfl⟩
      | _ => cases hKind

/-- A member is told from what is behind it, and is one member only. -/
theorem PartAt.unique : ∀ {f : Frame} {bytes rest rest' : List UInt8} {p p' : List UInt8 × Tree},
    PartAt f bytes p rest → PartAt f bytes p' rest' → Ends rest → Ends rest' → p = p' ∧ rest = rest'
  | _, _, _, _, _, _, .item hValue, .item hValue', hEnds, hEnds' => by
    obtain ⟨rfl, rfl⟩ := ValueAt.unique hValue hValue' hEnds hEnds'
    exact ⟨rfl, rfl⟩
  | _, _, _, _, _, _, .entry hContent hColon hStart hValue, h', hEnds, hEnds' => by
    generalize hBytes : '"'.toUInt8 :: (_ ++ '"'.toUInt8 :: _) = bytes at h'
    cases h' with
    | entry hContent' hColon' hStart' hValue' =>
      obtain ⟨rfl, rfl⟩ := hContent.unique hContent' (List.cons.inj hBytes).2
      obtain ⟨-, rfl⟩ := List.cons.inj
        (hColon.unique hColon' (.of_cons (by decide)) (.of_cons (by decide)))
      -- key, colon and white space agree, so that the two values start at the
      -- same byte
      obtain rfl := hStart.unique hStart' hValue.starts hValue'.starts
      obtain ⟨rfl, rfl⟩ := ValueAt.unique hValue hValue' hEnds hEnds'
      exact ⟨rfl, rfl⟩

/-- Members up to the closing bracket are told from what is behind it. Two
readings agree on the first member, and then on the others; neither can end
where the other one goes on. -/
theorem PartsAt.unique : ∀ {f : Frame} {first : Bool} {bytes rest rest' : List UInt8}
    {parts parts' : List (List UInt8 × Tree)}, PartsAt f first bytes parts rest →
      PartsAt f first bytes parts' rest' → parts = parts' ∧ rest = rest'
  | f, _, _, _, _, _, _, .close hSpace, h' => by
    cases h' with
    | close hSpace' =>
      -- both end at their closing bracket, and white space in front of it is
      -- told from it
      have hCloser := (Decoder.closer_facts f).1
      exact ⟨rfl, (List.cons.inj (hSpace.unique hSpace' (.of_cons hCloser) (.of_cons hCloser))).2⟩
    -- one reading cannot go on where the other one is at the end
    | part hLead' hPart' _ => exact absurd hPart' (hLead'.not_partAt hSpace)
  | _, _, _, _, _, _, _, .part hLead hPart hParts, h' => by
    cases h' with
    | close hSpace' => exact absurd hPart (hLead.not_partAt hSpace')
    | part hLead' hPart' hParts' =>
      -- the same member is next in both, and the rest goes by recursion
      obtain rfl := hLead.unique hLead' hPart.starts hPart'.starts
      obtain ⟨rfl, rfl⟩ := PartAt.unique hPart hPart' hParts.ends hParts'.ends
      obtain ⟨rfl, rfl⟩ := PartsAt.unique hParts hParts'
      exact ⟨rfl, rfl⟩

end

/-- A document is one value. -/
theorem Document.unique {body : List UInt8} {t t' : Tree} (h : Document body t) (h' : Document body t') :
    t = t' := by
  have hEnd : Ends [] := fun _ hb => nomatch hb
  obtain ⟨start, rest, hSpace, hValue, hRest⟩ := h
  obtain ⟨start', rest', hSpace', hValue', hRest'⟩ := h'
  obtain rfl := hSpace.unique hSpace' hValue.starts hValue'.starts
  exact (hValue.unique hValue' (.of_space hRest hEnd) (.of_space hRest' hEnd)).1

end RemoteConsole.Json
