import RemoteConsole.Proofs.Json.Printing
import RemoteConsole.Proofs.Json.Unambiguity
import RemoteConsole.Proofs.Text.Blank
import RemoteConsole.Session.Listing
import RemoteConsole.Session.Route
import RemoteConsole.Text.Separated

/-!
# Session ids are read as they are written

An id is made from a number, read from a text with white space around it, and
read from a document. All three take the positive numbers of 64 bits, and a text
may have a plus sign and zeros in front. An id is written as the decimal text of
its number wherever it is written.

* `Blank.Trims` — what is left of a text without the white space around it.
* `IsDecimal`, `SessionId.IsNumeral` — the numbers that texts write.
* `SessionId.parse_cases` — what becomes of a text.
* `SessionId.decode_decimal_iff` — the decimal text of a number as a document.
* `SessionId.ways_agree` — all ways to read and to write an id.
-/

namespace RemoteConsole

open Json (Decoder Document decimal)

/-! ## White space around a text -/

namespace Blank

/-- What is left of a text without the white space around it, and so neither
starts nor ends with any. -/
structure Trims (text core : List Char) : Prop where
  around : ∃ before after, isBlankText before = true ∧ isBlankText after = true ∧
    text = before ++ core ++ after
  head : ∀ c ∈ core.head?, isBlank c = false
  last : ∀ c ∈ core.getLast?, isBlank c = false

/-- Trimming a text leaves it without the white space around it. What it takes
off at the end is counted from behind, so the end is stated by reversed
lists. -/
theorem trims_trim (text : List Char) : Trims text (trim text) := by
  have hEnd := dropEndWhile_append isBlank (trimStart text)
  -- what is taken off in front and behind, that these are all, and that no more
  -- could be taken off
  refine ⟨⟨text.takeWhile isBlank, ((trimStart text).reverse.takeWhile isBlank).reverse, ?_, ?_, ?_⟩, ?_, ?_⟩
  · exact List.all_takeWhile
  · rw [isBlankText, List.all_reverse]
    exact List.all_takeWhile
  · rw [List.append_assoc, trim, trimEnd, hEnd]
    exact List.takeWhile_append_dropWhile.symm
  · intro c hc
    -- the first character that is left is the first one of the text without its
    -- white space in front
    have hStart : (trimStart text).head? = some c := by
      rw [← hEnd, List.head?_append, show (dropEndWhile isBlank _).head? = some c from hc]
      rfl
    exact not_of_mem_head?_dropWhile c hStart
  · rw [trim, trimEnd, dropEndWhile, List.getLast?_reverse]
    exact not_of_mem_head?_dropWhile

/-- There is only one way to take off the white space, and trimming is that
way. -/
theorem Trims.trim_eq {text core : List Char} (h : Trims text core) : trim text = core := by
  obtain ⟨⟨before, after, hBefore, hAfter, rfl⟩, hHead, hLast⟩ := h
  have hEnd : trimEnd (core ++ after) = core :=
    dropEndWhile_append_of_forall (List.all_eq_true.mp hAfter) hLast
  unfold trim trimStart
  rw [List.append_assoc, List.dropWhile_append_of_pos (List.all_eq_true.mp hBefore)]
  -- if nothing is left the text was white space, and it is taken off in front
  cases core with
  | nil => rw [List.nil_append, List.dropWhile_eq_nil_iff.mpr (List.all_eq_true.mp hAfter)]; rfl
  | cons c core =>
    have hStart : (c :: core ++ after).dropWhile isBlank = c :: core ++ after := dropWhile_eq_self hHead
    rw [hStart, hEnd]

end Blank

/-! ## Decimal digits -/

/-- Decimal digits and the number that they write. -/
structure IsDecimal (digits : List Char) (n : Nat) : Prop where
  ne_nil : digits ≠ []
  all : ∀ d ∈ digits, d.isDigit = true
  value : Nat.ofDigitChars 10 digits 0 = n

/-- The reader of digits reads runs of digits, one at least, as the numbers that
they write. Digits beyond those of ASCII are none of them. -/
theorem decimal?_eq_some_iff {digits : List Char} {n : Nat} : decimal? digits = some n ↔ IsDecimal digits n := by
  have hValue : digits.foldl (fun n d => n * 10 + (d.toNat - 48)) 0 = Nat.ofDigitChars 10 digits 0 := by
    simp only [Nat.mul_comm _ 10]
    rfl
  unfold decimal?
  rw [hValue]
  by_cases hDigits : digits ≠ [] ∧ ∀ d ∈ digits, d.isDigit = true
  · rw [if_neg (by simpa using hDigits), Option.some.injEq]
    exact ⟨fun h => ⟨hDigits.1, hDigits.2, h⟩, fun h => h.value⟩
  · rw [if_pos (by simpa [or_iff_not_imp_left] using hDigits)]
    exact iff_of_false nofun fun h => hDigits ⟨h.ne_nil, h.all⟩

theorem isDecimal_decimal (n : Nat) : IsDecimal (decimal n) n where
  ne_nil := Nat.toDigits_ne_nil
  all := Json.isDigit_of_mem_decimal n
  value := Nat.ofDigitChars_ten_toDigits

/-- Nothing but digits stands in the decimal text of a number. -/
theorem not_mem_decimal {c : Char} (h : c.isDigit = false) (n : Nat) : c ∉ decimal n := by
  intro hMem
  have hDigit := (isDecimal_decimal n).all c hMem
  rw [h] at hDigit
  cases hDigit

/-- Digits are no white space. -/
theorem isBlank_of_isDigit {d : Char} (h : d.isDigit = true) : Blank.isBlank d = false := by
  have hAll : ∀ n < 58, 48 ≤ n → Blank.isBlank (Char.ofNat n) = false := by decide
  have hRange := (Json.isDigit_iff d).mp h
  rw [← Char.ofNat_toNat d]
  exact hAll _ (by omega) hRange.1

/-! ## Ids -/

namespace SessionId

/-- Decimal digits, possibly with a plus sign in front, and the number that they
write. -/
def IsNumeral (text : List Char) (n : Nat) : Prop :=
  ∃ digits, (text = digits ∨ text = '+' :: digits) ∧ IsDecimal digits n

/-- Behind a plus sign, if there is one, a number is read from its digits. There
can be no second sign, as none is a digit. -/
theorem decimal?_unsigned_iff {text : List Char} {n : Nat} :
    decimal? (match text with
      | '+' :: rest => rest
      | other => other) = some n ↔ IsNumeral text n := by
  rw [decimal?_eq_some_iff]
  split
  -- with a sign in front, the digits are what follows it
  · next rest =>
    constructor
    · exact fun h => ⟨rest, .inr rfl, h⟩
    · rintro ⟨digits, rfl | hRest, h⟩
      · exact absurd (h.all '+' List.mem_cons_self) (by decide)
      · rwa [(List.cons.inj hRest).2]
  · next hUnsigned =>
    constructor
    · exact fun h => ⟨_, .inl rfl, h⟩
    · rintro ⟨digits, rfl | rfl, h⟩
      · exact h
      · exact absurd rfl (hUnsigned digits)

/-- A text writes one number at most. -/
theorem IsNumeral.unique {text : List Char} {n m : Nat} (hn : IsNumeral text n) (hm : IsNumeral text m) :
    n = m :=
  Option.some.inj ((decimal?_unsigned_iff.mpr hn).symm.trans (decimal?_unsigned_iff.mpr hm))

/-- A number makes the id that has it, and a zero makes none. -/
theorem ofNat_eq_ok_iff {n : Nat} {lt : n < UInt64.size} {id : SessionId} :
    ofNat n lt = .ok id ↔ id.value = n := by
  unfold ofNat
  constructor
  · intro h
    split at h
    · cases h; rfl
    · cases h
  · rintro rfl
    rw [dif_pos id.pos]

/-- What becomes of a text: the number that it writes makes an id, or the text
is reported. The proofs about texts go by these two cases, so that a zero is
found to be a number and yet no id. -/
theorem parse_cases (s : String) :
    (∃ n, ∃ lt : n < UInt64.size, IsNumeral (Blank.trim s.toList) n ∧ parse s = ofNat n lt) ∨
      (∀ n < UInt64.size, ¬ IsNumeral (Blank.trim s.toList) n) ∧
        parse s = .error ⟨String.ofList (Blank.trim s.toList)⟩ := by
  unfold parse
  generalize Blank.trim s.toList = core
  simp only [← decimal?_unsigned_iff]
  cases decimal? _ with
  | none => exact .inr ⟨by simp, rfl⟩
  | some n =>
    by_cases lt : n < UInt64.size
    · exact .inl ⟨n, lt, rfl, dif_pos lt⟩
    · -- too large a number is reported as if there were none
      refine .inr ⟨?_, dif_neg lt⟩
      rintro _ hm ⟨⟩
      exact lt hm

/-- A text is read as an id exactly if it writes the id's number between white
space. -/
theorem parse_eq_ok_iff {s : String} {id : SessionId} :
    parse s = .ok id ↔ IsNumeral (Blank.trim s.toList) id.value := by
  rcases parse_cases s with ⟨n, lt, hNumeral, hParse⟩ | ⟨hNone, hParse⟩
  · rw [hParse, ofNat_eq_ok_iff]
    exact ⟨fun h => h ▸ hNumeral, fun h => h.unique hNumeral⟩
  · rw [hParse]
    exact iff_of_false nofun (hNone _ id.lt)

/-- A text is refused for a zero, which is reported as such, or because it
writes no number of 64 bits; then it is reported as it stands. -/
theorem parse_eq_error_iff {s : String} {e : InvalidSessionId} :
    parse s = .error e ↔
      IsNumeral (Blank.trim s.toList) 0 ∧ e.text = "0" ∨
        (∀ n < UInt64.size, ¬ IsNumeral (Blank.trim s.toList) n) ∧
          e.text = String.ofList (Blank.trim s.toList) := by
  -- an error is its text
  have hText : ∀ text, (Except.error ⟨text⟩ : Except InvalidSessionId SessionId) = .error e ↔ e.text = text :=
    fun text => ⟨fun h => (Except.error.inj h) ▸ rfl, fun h => h ▸ rfl⟩
  rcases parse_cases s with ⟨n, lt, hNumeral, hParse⟩ | ⟨hNone, hParse⟩
  -- a number has been read, so the second case is out, and the first one is
  -- that the number is zero
  · rw [hParse, or_iff_left fun h => h.1 n lt hNumeral]
    unfold ofNat
    split
    · next hPos => exact iff_of_false nofun fun h => Nat.ne_of_lt hPos (h.1.unique hNumeral)
    · next hZero =>
      obtain rfl := Nat.eq_zero_of_not_pos hZero
      rw [hText, and_iff_right hNumeral]
  · rw [hParse, hText, or_iff_right fun h => hNone 0 (by decide) h.1, and_iff_right hNone]

/-! ## Ids in documents -/

/-- A value is the number of a session. -/
def Written (t : Json.Tree) (id : SessionId) : Prop :=
  t.IsNatural id.value

/-- A number of any size makes the id that has it, if there is one. -/
theorem ofNat?_eq_ok_iff {n : Nat} {id : SessionId} : ofNat? n = .ok id ↔ id.value = n := by
  unfold ofNat?
  split
  · exact ofNat_eq_ok_iff
  · next hLarge => exact iff_of_false nofun fun h => hLarge (h ▸ id.lt)

/-- The decoder of ids reads natural numbers, as long as they make ids. -/
theorem decoder_reads : decoder.Reads Written where
  sound h := by
    obtain ⟨n, mid, hNatural, h⟩ := Decoder.bind_eq_ok.mp h
    obtain ⟨start, t, hSpace, hValue, hIs, -⟩ := Decoder.natural_reads.sound hNatural
    -- a natural number that makes no id is refused
    cases hCase : ofNat? n with
    | error e => simp only [hCase] at h; cases h
    | ok id' =>
      simp only [hCase] at h
      cases h
      obtain rfl := ofNat?_eq_ok_iff.mp hCase
      exact ⟨start, t, hSpace, hValue, hIs⟩
  complete {bytes start rest t id} hSpace hValue hWritten hEnds := by
    have hNatural := Decoder.natural_reads.complete hSpace hValue ⟨hWritten, id.lt⟩ hEnds
    refine Decoder.bind_eq_ok.mpr ⟨id.value, rest, hNatural, ?_⟩
    simp only [ofNat?_eq_ok_iff.mpr rfl]
    rfl

/-- The decimal text of a number is read from a document exactly as the id with
that number. -/
theorem decode_decimal_iff {n : Nat} {id : SessionId} :
    decode (Utf8.encode (decimal n)) = .ok id ↔ id.value = n := by
  have hDocument : Document (Utf8.encode (decimal n)) (Json.Value.number n).tree :=
    Json.Value.document_indented (.number n)
  rw [decode, decoder_reads.run_eq_ok_iff]
  constructor
  -- a body is one document only, so the digits are those of the number
  · rintro ⟨t, hDocument', ds, rfl, -, hValue⟩
    have hDigits := Json.Tree.number.inj (hDocument'.unique hDocument)
    rw [← hValue, hDigits, Json.numeral_decimal]
  · rintro rfl
    exact ⟨_, hDocument, Json.Value.isNatural_tree _⟩

/-! ## Ids as they are written -/

theorem toList_toString (n : Nat) : (toString n).toList = decimal n :=
  Nat.toList_repr

/-- The decimal text of a number with white space around it is read as that
number. -/
theorem isNumeral_trim (n : Nat) (before after : List Char) (hBefore : Blank.isBlankText before = true)
    (hAfter : Blank.isBlankText after = true) : IsNumeral (Blank.trim (before ++ decimal n ++ after)) n := by
  have hDecimal := isDecimal_decimal n
  have hDigit : ∀ d ∈ decimal n, Blank.isBlank d = false := fun d hd => isBlank_of_isDigit (hDecimal.all d hd)
  have hTrims : Blank.Trims (before ++ decimal n ++ after) (decimal n) :=
    ⟨⟨before, after, hBefore, hAfter, rfl⟩, fun c hc => hDigit c (List.mem_of_mem_head? hc),
      fun c hc => hDigit c (List.mem_of_mem_getLast? hc)⟩
  rw [hTrims.trim_eq]
  exact ⟨_, .inl rfl, hDecimal⟩

/-- The last segment of the route of a session is its id. -/
theorem getLast?_split_session (id : SessionId) :
    (Separated.split '/' (Route.session id).toList).getLast? = some (toString id).toList := by
  -- the id is one segment, so the last slash of the route is the one in front
  -- of it
  have hSlash : '/' ∉ (toString id).toList := by
    rw [show toString id = toString id.value from rfl, toList_toString]
    exact not_mem_decimal (by decide) id.value
  have hRoute : (Route.session id).toList = Route.sessions.toList ++ '/' :: (toString id).toList := by
    rw [Route.session, String.toList_append, String.toList_append, List.append_assoc]
    rfl
  rw [hRoute, Separated.split_append, Separated.split_of_not_mem hSlash, List.getLast?_concat]

/-- **All ways to read and to write an id agree.** A text is read as an id
exactly if it is, between white space, the decimal digits of a positive number
of 64 bits, with a plus sign in front or without; any other text is reported as
it stands between the white space, and a zero as `0`. A number makes the same id
by itself, by its text and by its document, unless it is zero, which makes none.
The id is written the same way as a text, in documents and at the end of its
route, and is read back from there. -/
theorem ways_agree :
    (∀ s : String, ∃ core, Blank.Trims s.toList core ∧
      (∀ id, parse s = .ok id ↔ IsNumeral core id.value) ∧
      ∀ e, parse s = .error e ↔
        IsNumeral core 0 ∧ e.text = "0" ∨
          (∀ n < UInt64.size, ¬ IsNumeral core n) ∧ e.text = String.ofList core) ∧
    (∀ (n : UInt64) (before after : String), Blank.isBlankText before.toList = true →
      Blank.isBlankText after.toList = true →
        (∃ id : SessionId, id.value = n.toNat ∧ ofNat n.toNat n.toNat_lt_size = .ok id ∧
          parse (before ++ toString n.toNat ++ after) = .ok id ∧
          decode (Utf8.encode (toString n.toNat).toList) = .ok id) ∨
        n = 0 ∧ ofNat n.toNat n.toNat_lt_size = .error ⟨"0"⟩ ∧
          parse (before ++ toString n.toNat ++ after) = .error ⟨"0"⟩ ∧
          ∃ m, decode (Utf8.encode (toString n.toNat).toList) = .error m) ∧
    ∀ id : SessionId,
      toString id = toString id.value ∧ (Json.Value.number id.value).compact = (toString id).toList ∧
        (Separated.split '/' (Route.session id).toList).getLast? = some (toString id).toList ∧
        parse (toString id) = .ok id := by
  refine ⟨fun s => ?_, fun n before after hBefore hAfter => ?_, fun id => ?_⟩
  · exact ⟨_, Blank.trims_trim s.toList, fun id => parse_eq_ok_iff, fun e => parse_eq_error_iff⟩
  -- white space around the digits is trimmed off, whatever it is
  · have hNumeral : IsNumeral (Blank.trim (before ++ toString n.toNat ++ after).toList) n.toNat := by
      rw [String.toList_append, String.toList_append, toList_toString]
      exact isNumeral_trim n.toNat _ _ hBefore hAfter
    rw [toList_toString]
    -- a zero is the only number of 64 bits that makes no id
    by_cases hZero : n = 0
    · subst hZero
      refine .inr ⟨rfl, rfl, parse_eq_error_iff.mpr (.inl ⟨hNumeral, rfl⟩), ?_⟩
      cases hDecode : decode (Utf8.encode (decimal (0 : UInt64).toNat)) with
      | ok id => exact absurd (decode_decimal_iff.mp hDecode) id.pos.ne'
      | error m => exact ⟨m, rfl⟩
    · have hPos : 0 < n.toNat := Nat.pos_of_ne_zero fun h => hZero (UInt64.toNat_inj.mp h)
      exact .inl ⟨⟨n.toNat, hPos, n.toNat_lt_size⟩, rfl, ofNat_eq_ok_iff.mpr rfl,
        parse_eq_ok_iff.mpr hNumeral, decode_decimal_iff.mpr rfl⟩
  · have hNumeral := isNumeral_trim id.value [] [] rfl rfl
    refine ⟨rfl, (toList_toString id.value).symm, getLast?_split_session id, parse_eq_ok_iff.mpr ?_⟩
    rwa [List.nil_append, List.append_nil, ← toList_toString] at hNumeral

/-- The id seven is read from a number, from a text with white space around it
and from a document. -/
theorem ways_agree_seven :
    Blank.isBlankText [' '] = true ∧ Blank.isBlankText ['\n'] = true ∧
      ∃ id : SessionId, id.value = 7 ∧ ofNat 7 (by decide) = .ok id ∧ parse " 7\n" = .ok id ∧
        decode ['7'.toUInt8] = .ok id := by
  refine ⟨by decide, by decide, ?_⟩
  obtain ⟨id, hValue, hNumber, hText, hDocument⟩ | ⟨hZero, -⟩ := ways_agree.2.1 7 " " "\n" (by decide) (by decide)
  · exact ⟨id, hValue, hNumber, hText, hDocument⟩
  · exact absurd hZero (by decide)

end SessionId

end RemoteConsole
