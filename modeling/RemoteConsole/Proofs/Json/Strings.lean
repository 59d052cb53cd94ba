import RemoteConsole.Proofs.Json.Decoding
import RemoteConsole.Proofs.Text.Utf8

/-!
# Strings are read as they are spelled

The reader of strings replaces escapes first and looks at the bytes as a text
afterwards. Both together are the grammar of strings: a byte that continues a
character cannot come from an escape, since the bytes of an escaped character
start with one that does not.

* `Text.body_eq_ok_iff` — a string that is asked for, and the text that it
  spells.
* `Text.skip_eq_ok_iff` — a string that is skipped.
* `Decoder.string_reads` — the decoder of strings.
-/

namespace RemoteConsole.Json

namespace Text

open Utf8 (encode encodeChar isTail)

variable {bytes rest raw : List UInt8} {text : List Char} {b : UInt8} {c : Char} {n : Nat}

/-! ## Escapes -/

/-- Four digits in either case are read as the number they write, and nothing
shorter is read. -/
theorem hex_eq_ok_iff : hex bytes = .ok (n, rest) ↔ ∃ ds, FourDigits ds n ∧ bytes = ds ++ rest := by
  unfold hex
  split
  · next a b c d more =>
    constructor
    · intro h
      split at h
      · next m hNumber =>
        obtain ⟨rfl, rfl⟩ := Prod.mk.inj (Except.ok.inj h)
        exact ⟨[a, b, c, d], ⟨rfl, hNumber⟩, rfl⟩
      · cases h
    · rintro ⟨ds, ⟨hLength, hNumber⟩, hBytes⟩
      -- both are four bytes in front of the same bytes
      obtain ⟨a', b', c', d', rfl⟩ := List.length_eq_four.mp hLength
      obtain ⟨rfl, rfl, rfl, rfl, rfl⟩ : a = a' ∧ b = b' ∧ c = c' ∧ d = d' ∧ more = rest := by
        simpa using hBytes
      rw [hNumber]
  · next hShort =>
    -- fewer than four bytes are no digits of a code
    refine iff_of_false (by simp [fault]) ?_
    rintro ⟨ds, ⟨hLength, -⟩, rfl⟩
    obtain ⟨a, b, c, d, rfl⟩ := List.length_eq_four.mp hLength
    exact hShort a b c d rest rfl

/-- The letters of escapes as a look-up in the table of the grammar. -/
theorem letter?_eq_find (b : UInt8) :
    letter? b = (letters.find? fun p => b == p.1.toUInt8).map Prod.snd := by
  simp only [letter?, letters, List.find?]
  repeat' split
  all_goals simp_all

/-- The reader knows the letters of the grammar and gives each its character. -/
theorem letter?_eq_some_iff : letter? b = some c ↔ ∃ l, (l, c) ∈ letters ∧ b = l.toUInt8 := by
  constructor
  · intro h
    rw [letter?_eq_find, Option.map_eq_some_iff] at h
    obtain ⟨⟨l, c⟩, hFind, rfl⟩ := h
    exact ⟨l, List.mem_of_find?_eq_some hFind, by simpa using List.find?_some hFind⟩
  · rintro ⟨l, hl, rfl⟩
    have hAll : ∀ p ∈ letters, letter? p.1.toUInt8 = some p.2 := by decide
    exact hAll _ hl

/-- No letter stands for the escape of a code. -/
theorem letter?_u : letter? 'u'.toUInt8 = none := by decide

/-- Behind a high half the reader asks for the escape of a low one, and the two
make one character. The arithmetic that joins them is the same here and in the
grammar. -/
theorem lowHalf_eq_ok_iff {high : Nat} :
    lowHalf high bytes = .ok (c, rest) ↔
      ∃ ds low, FourDigits ds low ∧ (0xDC00 ≤ low ∧ low ≤ 0xDFFF) ∧
        bytes = '\\'.toUInt8 :: 'u'.toUInt8 :: (ds ++ rest) ∧ Char.ofNat (joined high low) = c := by
  constructor
  · intro h
    unfold lowHalf at h
    split at h
    · cases h
    next slash more =>
    split at h
    · next hSlash =>
      split at h
      · cases h
      next u more =>
      split at h
      · next hu =>
        split at h
        · cases h
        next low more hHex =>
        split at h
        · next hLow =>
          -- of all branches only this one gives a character: backslash, `u`,
          -- and digits in the range of low halves
          obtain ⟨ds, hDigits, rfl⟩ := hex_eq_ok_iff.mp hHex
          obtain ⟨hChar, rfl⟩ := Prod.mk.inj (Except.ok.inj h)
          exact ⟨ds, low, hDigits, hLow, by rw [eq_of_beq hSlash, eq_of_beq hu], hChar⟩
        · cases h
      · cases h
    · cases h
  · rintro ⟨ds, low, hDigits, hLow, rfl, hChar⟩
    have hHex : hex (ds ++ rest) = .ok (low, rest) := hex_eq_ok_iff.mpr ⟨ds, hDigits, rfl⟩
    unfold lowHalf
    dsimp only
    rw [if_pos (beq_self_eq_true _), if_pos (beq_self_eq_true _), hHex]
    dsimp only
    unfold joined at hChar
    rw [if_pos hLow, hChar]

/-- Behind `\u` there is a code: one by itself, which is no half of a pair, or a
high half with a low one. The two ranges of halves are apart, so the branches of
the reader are the last two rules of the grammar. -/
theorem codeEscape_eq_ok_iff :
    codeEscape bytes = .ok (c, rest) ↔ ∃ e, Escapes ('u'.toUInt8 :: e) c ∧ bytes = e ++ rest := by
  unfold codeEscape
  constructor
  · intro h
    split at h
    · cases h
    next n more hHex =>
    obtain ⟨ds, hDigits, rfl⟩ := hex_eq_ok_iff.mp hHex
    split at h
    · cases h
    next hNotLow =>
    split at h
    · next hHigh =>
      -- a high half, so a low one follows
      obtain ⟨ls, low, hLowDigits, hLow, rfl, rfl⟩ := lowHalf_eq_ok_iff.mp h
      exact ⟨_, .pair hDigits hHigh hLowDigits hLow, by simp⟩
    · next hNotHigh =>
      obtain ⟨rfl, rfl⟩ := Prod.mk.inj (Except.ok.inj h)
      exact ⟨ds, .code hDigits (by omega), rfl⟩
  · rintro ⟨e, hEscapes, rfl⟩
    -- the index of the rule is not a variable yet
    generalize hHead : 'u'.toUInt8 :: e = escape at hEscapes
    cases hEscapes with
    | letter hl =>
      obtain ⟨hu, -⟩ := List.cons.inj hHead
      have hLetter := letter?_eq_some_iff.mpr ⟨_, hl, hu⟩
      rw [letter?_u] at hLetter
      cases hLetter
    | code hDigits hRange =>
      obtain ⟨-, rfl⟩ := List.cons.inj hHead
      simp only [hex_eq_ok_iff.mpr ⟨_, hDigits, rfl⟩]
      rw [if_neg (by omega), if_neg (by omega)]
    | pair hDigits hHigh hLowDigits hLow =>
      obtain ⟨-, rfl⟩ := List.cons.inj hHead
      rw [List.append_assoc, hex_eq_ok_iff.mpr ⟨_, hDigits, rfl⟩]
      dsimp only
      rw [if_neg (by omega), if_pos hHigh]
      exact lowHalf_eq_ok_iff.mpr ⟨_, _, hLowDigits, hLow, rfl, rfl⟩

/-- What is read behind a backslash is an escape of the grammar. Its first byte
tells the short escapes from the codes. -/
theorem escape_eq_ok_iff :
    Text.escape bytes = .ok (c, rest) ↔ ∃ e, Escapes e c ∧ bytes = e ++ rest := by
  cases bytes with
  | nil =>
    refine iff_of_false (by simp [Text.escape, fault]) ?_
    rintro ⟨e, hEscapes, hNil⟩
    obtain ⟨rfl, -⟩ := List.append_eq_nil_iff.mp hNil.symm
    cases hEscapes
  | cons b bytes =>
    constructor
    · intro h
      unfold Text.escape at h
      dsimp only at h
      split at h
      -- a letter of the short escapes, or else the code of a character
      · next c' hLetter =>
        obtain ⟨l, hl, rfl⟩ := letter?_eq_some_iff.mp hLetter
        obtain ⟨rfl, rfl⟩ := Prod.mk.inj (Except.ok.inj h)
        exact ⟨_, .letter hl, rfl⟩
      · split at h
        · next hu =>
          obtain ⟨e, hEscapes, rfl⟩ := codeEscape_eq_ok_iff.mp h
          exact ⟨_, hEscapes, by rw [eq_of_beq hu]; rfl⟩
        · cases h
    · rintro ⟨e, hEscapes, hBytes⟩
      unfold Text.escape
      dsimp only
      cases e with
      | nil => cases hEscapes
      | cons b' e =>
        obtain ⟨rfl, rfl⟩ := List.cons.inj hBytes
        -- the letters and the code are told apart by the byte behind the
        -- backslash
        by_cases hu : b = 'u'.toUInt8
        · subst hu
          rw [letter?_u]
          exact codeEscape_eq_ok_iff.mpr ⟨e, hEscapes, rfl⟩
        · cases hEscapes with
          | letter hl => rw [letter?_eq_some_iff.mpr ⟨_, hl, rfl⟩]; rfl
          | code | pair => exact absurd rfl hu

/-! ## Bytes that stand for themselves -/

/-- The first byte of a character continues none, and the others do. This is
what lets a reader of bytes find where a character begins. -/
theorem encodeChar_eq_cons (c : Char) :
    ∃ b ts, encodeChar c = b :: ts ∧ isTail b = false ∧ ∀ t ∈ ts, isTail t = true := by
  by_cases hAscii : c.toNat < 0x80
  · refine ⟨_, [], Utf8.encodeChar_of_lt hAscii, ?_, by simp⟩
    rw [← Bool.not_eq_true, Utf8.isTail_iff, UInt8.toNat_ofNat']
    omega
  · obtain ⟨b, second, ts, hBytes, -, hForms⟩ := Utf8.exists_forms c (by omega)
    refine ⟨b, second :: ts, hBytes, ?_, List.forall_mem_cons.mpr ⟨?_, hForms.tails⟩⟩
    · rw [← Bool.not_eq_true, Utf8.isTail_iff]
      rcases hForms.lead with h | h | h <;> omega
    · rw [Utf8.isTail_iff]
      exact ((Utf8.isSecond_iff b second).mp hForms.isSecond).1

/-- No byte beyond ASCII is a mark, a backslash or a control. -/
theorem isPlain_of_le (h : 0x80 ≤ b.toNat) : IsPlain b := by
  refine ⟨?_, ?_, by omega⟩ <;> rintro rfl <;> revert h <;> decide

/-- A character that needs no escape is written in bytes that stand for
themselves: one of ASCII is such a byte itself, and the bytes of any other are
beyond ASCII. -/
theorem isPlain_of_mem_encodeChar (hMark : c ≠ '"') (hSlash : c ≠ '\\') (hControl : 0x20 ≤ c.toNat) :
    ∀ b ∈ encodeChar c, IsPlain b := by
  by_cases hAscii : c.toNat < 0x80
  · have hByte : (UInt8.ofNat c.toNat).toNat = c.toNat := UInt8.toNat_ofNat_of_lt' (by
      rw [UInt8.size]
      omega)
    -- an ASCII character and its byte have the same number
    have hNe : ∀ d : Char, c ≠ d → d.toUInt8.toNat = d.toNat → UInt8.ofNat c.toNat ≠ d.toUInt8 := by
      intro d hd hd' h
      exact hd (Char.toNat_inj.mp (by rw [← hd', ← h, hByte]))
    rw [Utf8.encodeChar_of_lt hAscii, List.forall_mem_singleton]
    exact ⟨hNe _ hMark (by decide), hNe _ hSlash (by decide), by rw [hByte]; exact hControl⟩
  -- beyond ASCII every byte has its high bit set, and no mark, backslash or
  -- control has
  · obtain ⟨b, second, ts, hBytes, hb, hForms⟩ := Utf8.exists_forms c (by omega)
    have hTail : ∀ t, isTail t = true → IsPlain t := fun t ht =>
      isPlain_of_le ((Utf8.isTail_iff t).mp ht).1
    rw [hBytes]
    refine List.forall_mem_cons.mpr ⟨isPlain_of_le hb, List.forall_mem_cons.mpr ⟨?_, ?_⟩⟩
    · exact isPlain_of_le ((Utf8.isSecond_iff b second).mp hForms.isSecond).1.1
    · exact fun t ht => hTail t (hForms.tails t ht)

/-! ## Strings that are asked for -/

theorem unescape_mark (rest : List UInt8) : unescape ('"'.toUInt8 :: rest) = .ok ([], rest) := by
  rw [unescape]
  rfl

/-- A byte that stands for itself is kept. -/
theorem unescape_plain (h : IsPlain b) {more : List UInt8} (hMore : unescape bytes = .ok (more, rest)) :
    unescape (b :: bytes) = .ok (b :: more, rest) := by
  obtain ⟨hMark, hSlash, hControl⟩ := h
  rw [unescape, if_neg (by simpa using hMark), if_neg (by simpa using hSlash), if_neg (by
    rw [UInt8.lt_iff_toNat_lt]
    exact Nat.not_lt.mpr hControl), hMore]

/-- An escape is replaced by the bytes of its character. -/
theorem unescape_escape {rest' more : List UInt8} (h : Text.escape bytes = .ok (c, rest'))
    (hMore : unescape rest' = .ok (more, rest)) :
    unescape ('\\'.toUInt8 :: bytes) = .ok (encodeChar c ++ more, rest) := by
  rw [unescape, if_neg (by decide), if_pos (by decide)]
  split
  · next h' => rw [h] at h'; cases h'
  · next h' =>
    rw [h] at h'
    obtain ⟨rfl, rfl⟩ := Prod.mk.inj (Except.ok.inj h')
    rw [hMore]

/-- What a string starts with: the mark at its end, an escape, or a byte that
stands for itself. This is the one place where the reader is taken apart; the
proofs below go by these three cases. -/
theorem unescape_cases {out : List UInt8} (h : unescape bytes = .ok (out, rest)) :
    (bytes = '"'.toUInt8 :: rest ∧ out = []) ∨
      (∃ e c bytes' more, Escapes e c ∧ bytes = '\\'.toUInt8 :: (e ++ bytes') ∧
        unescape bytes' = .ok (more, rest) ∧ out = encodeChar c ++ more) ∨
      (∃ b bytes' more, IsPlain b ∧ bytes = b :: bytes' ∧
        unescape bytes' = .ok (more, rest) ∧ out = b :: more) := by
  cases bytes with
  | nil => rw [unescape] at h; cases h
  | cons b bytes =>
    rw [unescape] at h
    split at h
    -- the branches in the order of the reader: the mark, the backslash, a
    -- control character, and any other byte
    · next hMark =>
      cases h
      exact .inl ⟨by rw [eq_of_beq hMark], rfl⟩
    next hMark =>
    split at h
    · next hSlash =>
      split at h
      · cases h
      next c rest' hEscape =>
      split at h
      · next more end' hMore =>
        cases h
        obtain ⟨e, hEscapes, rfl⟩ := escape_eq_ok_iff.mp hEscape
        exact .inr (.inl ⟨e, c, rest', more, hEscapes, by rw [eq_of_beq hSlash], hMore, rfl⟩)
      · cases h
    next hSlash =>
    split at h
    · cases h
    next hControl =>
    split at h
    · next more end' hMore =>
      cases h
      rw [UInt8.lt_iff_toNat_lt] at hControl
      exact .inr (.inr ⟨b, bytes, more, ⟨by simpa using hMark, by simpa using hSlash,
        Nat.not_lt.mp hControl⟩, rfl, hMore, rfl⟩)
    · cases h

/-- Bytes that continue a character come from no escape, so they stand in the
string as they are. The induction is on those bytes. -/
theorem unescape_tails {ts out : List UInt8} (hTails : ∀ t ∈ ts, isTail t = true)
    (h : unescape bytes = .ok (ts ++ out, rest)) :
    ∃ bytes', bytes = ts ++ bytes' ∧ unescape bytes' = .ok (out, rest) := by
  induction ts generalizing bytes with
  | nil => exact ⟨bytes, rfl, h⟩
  | cons t ts ih =>
    obtain ⟨ht, hTails⟩ := List.forall_mem_cons.mp hTails
    rcases unescape_cases h with ⟨-, hOut⟩ | ⟨e, c, bytes', more, -, -, -, hOut⟩ |
      ⟨b, bytes', more, -, rfl, hMore, hOut⟩
    · cases hOut
    · -- an escape would give a byte that starts a character
      obtain ⟨b, us, hChar, hb, -⟩ := encodeChar_eq_cons c
      rw [hChar] at hOut
      obtain ⟨rfl, -⟩ := List.cons.inj hOut
      rw [ht] at hb
      cases hb
    · obtain ⟨rfl, rfl⟩ := List.cons.inj hOut
      obtain ⟨bytes'', rfl, hRest⟩ := ih hTails hMore
      exact ⟨bytes'', rfl, hRest⟩

/-- The bytes of a character tell where it ends and which one it is. -/
theorem encodeChar_append_inj {c' : Char} {more more' : List UInt8}
    (h : encodeChar c ++ more = encodeChar c' ++ more') : c = c' ∧ more = more' := by
  obtain ⟨b, ts, hChar, -, -⟩ := encodeChar_eq_cons c
  have hStep : Utf8.step b (ts ++ more) = .char c more := Utf8.step_eq_char_iff.mpr (by rw [hChar]; rfl)
  rw [Utf8.step_eq_char_iff.mpr (by rw [← h, hChar]; rfl)] at hStep
  obtain ⟨rfl, rfl⟩ := Utf8.Step.char.inj hStep
  exact ⟨rfl, rfl⟩

/-- A character whose first byte stands for itself needs no escape. If it did,
it would be of ASCII, and its first byte would be the only one. -/
theorem needs_no_escape {ts : List UInt8} (hChar : encodeChar c = b :: ts) (h : IsPlain b) :
    c ≠ '"' ∧ c ≠ '\\' ∧ 0x20 ≤ c.toNat := by
  obtain ⟨hMark, hSlash, hControl⟩ := h
  refine ⟨?_, ?_, ?_⟩
  · rintro rfl
    exact hMark (List.cons.inj hChar).1.symm
  · rintro rfl
    exact hSlash (List.cons.inj hChar).1.symm
  · by_contra hLow
    rw [Utf8.encodeChar_of_lt (by omega)] at hChar
    obtain ⟨rfl, -⟩ := List.cons.inj hChar
    rw [UInt8.toNat_ofNat_of_lt' (by rw [UInt8.size]; omega)] at hControl
    exact hLow hControl

/-- If the bytes of a text are what is left of a string without its escapes,
then the string spells the text. The induction is on the text: each of its
characters comes from an escape or from its own bytes. -/
theorem exists_spells_of_unescape (h : unescape bytes = .ok (encode text, rest)) :
    ∃ raw, Spells raw text ∧ bytes = raw ++ '"'.toUInt8 :: rest := by
  induction text generalizing bytes with
  | nil =>
    rcases unescape_cases h with ⟨rfl, -⟩ | ⟨e, c, bytes', more, -, -, -, hOut⟩ |
      ⟨b, bytes', more, -, -, -, hOut⟩
    · exact ⟨[], .nil, rfl⟩
    -- nothing is left of the text, so nothing but the mark can stand here
    · exact absurd (List.append_eq_nil_iff.mp hOut.symm).1 (Utf8.encodeChar_ne_nil c)
    · cases hOut
  | cons c text ih =>
    rw [Utf8.encode_cons] at h
    obtain ⟨b, ts, hChar, -, hTails⟩ := encodeChar_eq_cons c
    rcases unescape_cases h with ⟨-, hOut⟩ | ⟨e, c', bytes', more, hEscapes, rfl, hMore, hOut⟩ |
      ⟨b', bytes', more, hPlain, rfl, hMore, hOut⟩
    · exact absurd (List.append_eq_nil_iff.mp hOut).1 (Utf8.encodeChar_ne_nil c)
    -- the escape is of this character, as its bytes are
    · obtain ⟨rfl, rfl⟩ := encodeChar_append_inj hOut
      obtain ⟨raw, hSpells, rfl⟩ := ih hMore
      exact ⟨_, .escape hEscapes hSpells, by simp⟩
    · -- the other bytes of the character have to be there, since no escape gives them
      rw [hChar] at hOut
      obtain ⟨rfl, rfl⟩ := List.cons.inj hOut
      obtain ⟨bytes'', rfl, hRest⟩ := unescape_tails hTails hMore
      obtain ⟨raw, hSpells, rfl⟩ := ih hRest
      obtain ⟨hMark, hSlash, hControl⟩ := needs_no_escape hChar hPlain
      exact ⟨_, .plain hMark hSlash hControl hSpells, by rw [hChar]; simp⟩

/-- Bytes that stand for themselves are kept, any number of them. -/
theorem unescape_plains {bs more : List UInt8} (hPlain : ∀ b ∈ bs, IsPlain b)
    (hMore : unescape bytes = .ok (more, rest)) : unescape (bs ++ bytes) = .ok (bs ++ more, rest) := by
  induction bs with
  | nil => exact hMore
  | cons b bs ih =>
    obtain ⟨hb, hPlain⟩ := List.forall_mem_cons.mp hPlain
    exact unescape_plain hb (ih hPlain)

/-- A spelling without its escapes is the text it spells. -/
theorem unescape_of_spells (h : Spells raw text) (rest : List UInt8) :
    unescape (raw ++ '"'.toUInt8 :: rest) = .ok (encode text, rest) := by
  induction h with
  | nil => exact unescape_mark rest
  | plain hMark hSlash hControl _ ih =>
    rw [List.append_assoc]
    exact unescape_plains (isPlain_of_mem_encodeChar hMark hSlash hControl) ih
  | escape hEscapes _ ih =>
    rw [List.cons_append, List.append_assoc]
    exact unescape_escape (escape_eq_ok_iff.mpr ⟨_, hEscapes, rfl⟩) ih

/-- A string that is asked for is read exactly if it spells a text. The replaced
bytes have to be those of some text, and there is only one with these bytes. -/
theorem body_eq_ok_iff :
    body bytes = .ok (text, rest) ↔ ∃ raw, Spells raw text ∧ bytes = raw ++ '"'.toUInt8 :: rest := by
  unfold body
  constructor
  · intro h
    split at h
    · cases h
    next out end' hUnescape =>
    split at h
    · next cs hDecode =>
      cases h
      -- the replaced bytes are those of the text
      rw [Utf8.decode?_eq_ok_iff.mp hDecode] at hUnescape
      exact exists_spells_of_unescape hUnescape
    · cases h
  -- the bytes of a text are decoded as it
  · rintro ⟨raw, hSpells, rfl⟩
    rw [unescape_of_spells hSpells]
    simp only [Utf8.decode?_eq_ok_iff.mpr rfl]

/-! ## Strings that are skipped -/

/-- A byte that stands for itself is passed over. -/
theorem skip_plain (h : IsPlain b) : skip (b :: bytes) = skip bytes := by
  obtain ⟨hMark, hSlash, hControl⟩ := h
  rw [skip.eq_def]
  dsimp only
  rw [if_neg (by simpa using hMark), if_neg (by simpa using hSlash), if_neg (by
    rw [UInt8.lt_iff_toNat_lt]
    exact Nat.not_lt.mpr hControl)]

/-- An escape is passed over. Here a code needs four digits only, whatever
number they write, so a half without its other half is no fault in a string that
is skipped. -/
theorem skip_escape {e : List UInt8} (h : IsEscape e) :
    skip ('\\'.toUInt8 :: (e ++ bytes)) = skip bytes := by
  cases h with
  | letter hl =>
    rw [List.singleton_append, skip, if_neg (by decide), if_pos (by decide)]
    simp [letter?_eq_some_iff.mpr ⟨_, hl, rfl⟩]
  -- `u` is no letter of the short escapes
  | code hDigits =>
    rw [List.cons_append, skip, if_neg (by decide), if_pos (by decide)]
    simp only [letter?_u]
    rw [if_neg (by decide), if_pos (by decide)]
    split
    · next h' =>
      rw [hex_eq_ok_iff.mpr ⟨_, hDigits, rfl⟩] at h'
      obtain ⟨-, rfl⟩ := Prod.mk.inj (Except.ok.inj h')
      rfl
    · next h' =>
      rw [hex_eq_ok_iff.mpr ⟨_, hDigits, rfl⟩] at h'
      cases h'

/-- What is a string by its bytes is passed over up to its mark. -/
theorem skip_of_isContent (h : IsContent raw) (rest : List UInt8) :
    skip (raw ++ '"'.toUInt8 :: rest) = .ok rest := by
  induction h with
  | nil =>
    rw [List.nil_append, skip.eq_def]
    rfl
  | plain hPlain _ ih => rw [List.cons_append, skip_plain hPlain, ih]
  | escape hEscape _ ih => rw [List.cons_append, List.append_assoc, skip_escape hEscape, ih]

/-- What is passed over is a string by its bytes: each step of the reader passes
over a byte that stands for itself or over an escape. -/
theorem exists_isContent_of_skip (h : skip bytes = .ok rest) :
    ∃ raw, IsContent raw ∧ bytes = raw ++ '"'.toUInt8 :: rest := by
  -- an escape takes several bytes in one step
  induction hn : bytes.length using Nat.strongRecOn generalizing bytes with
  | ind n ih =>
    cases bytes with
    | nil => rw [skip.eq_def] at h; cases h
    | cons b bytes =>
      rw [skip.eq_def] at h
      dsimp only at h
      rw [List.length_cons] at hn
      split at h
      · next hMark =>
        cases h
        exact ⟨[], .nil, by rw [eq_of_beq hMark]; rfl⟩
      next hMark =>
      split at h
      · next hSlash =>
        obtain rfl := eq_of_beq hSlash
        split at h
        · cases h
        next e bytes =>
        rw [List.length_cons] at hn
        split at h
        · next hLetter =>
          -- one byte of escape behind the backslash
          obtain ⟨c, hc⟩ := Option.isSome_iff_exists.mp hLetter
          obtain ⟨l, hl, rfl⟩ := letter?_eq_some_iff.mp hc
          obtain ⟨raw, hContent, rfl⟩ := ih bytes.length (by omega) h rfl
          exact ⟨_, .escape (.letter hl) hContent, rfl⟩
        split at h
        · next hu =>
          obtain rfl := eq_of_beq hu
          split at h
          · next n' bytes' hHex =>
            -- five bytes of escape behind the backslash
            have hLength := length_hex hHex
            obtain ⟨ds, hDigits, rfl⟩ := hex_eq_ok_iff.mp hHex
            obtain ⟨raw, hContent, rfl⟩ := ih bytes'.length (by omega) h rfl
            exact ⟨_, .escape (.code hDigits) hContent, by simp⟩
          · cases h
        · cases h
      next hSlash =>
      split at h
      · cases h
      next hControl =>
      rw [UInt8.lt_iff_toNat_lt] at hControl
      obtain ⟨raw, hContent, rfl⟩ := ih bytes.length (by omega) h rfl
      exact ⟨b :: raw, .plain ⟨by simpa using hMark, by simpa using hSlash, Nat.not_lt.mp hControl⟩
        hContent, rfl⟩

/-- A string that is skipped is read exactly if it is one by its bytes. This is
less than is asked of a string that is read: the bytes need not be those of a
text. -/
theorem skip_eq_ok_iff :
    skip bytes = .ok rest ↔ ∃ raw, IsContent raw ∧ bytes = raw ++ '"'.toUInt8 :: rest :=
  ⟨exists_isContent_of_skip, fun ⟨_, hContent, hBytes⟩ => hBytes ▸ skip_of_isContent hContent rest⟩

end Text

/-- An escape of a character is one by its bytes; a pair is two of them. -/
theorem Escapes.isContent {e raw : List UInt8} {c : Char} (h : Escapes e c) (hRaw : IsContent raw) :
    IsContent ('\\'.toUInt8 :: (e ++ raw)) := by
  cases h with
  | letter hl => exact .escape (.letter hl) hRaw
  | code hDigits => exact .escape (.code hDigits) hRaw
  | pair hDigits _ hLowDigits =>
    have hLow := IsContent.escape (.code hLowDigits) hRaw
    rw [List.cons_append, List.append_assoc]
    exact .escape (.code hDigits) hLow

/-- A string spells one text only, as the reader has one answer for it. -/
theorem Spells.unique {raw : List UInt8} {text text' : List Char} (h : Spells raw text)
    (h' : Spells raw text') : text = text' := by
  have hBytes := Text.unescape_of_spells h []
  rw [Text.unescape_of_spells h' []] at hBytes
  exact (Utf8.encode_inj.mp (Prod.mk.inj (Except.ok.inj hBytes)).1).symm

/-- A string that spells a text is a string by its bytes. So a value that is
skipped in one place may be read in another, as what the grammar says of it does
not depend on the reader. -/
theorem Spells.isContent {raw : List UInt8} {text : List Char} (h : Spells raw text) :
    IsContent raw := by
  induction h with
  | nil => exact .nil
  | @plain c raw text hMark hSlash hControl _ ih =>
    have hPlain := Text.isPlain_of_mem_encodeChar hMark hSlash hControl
    -- a character may take several bytes, each of which stands for itself
    generalize Utf8.encodeChar c = bs at hPlain
    induction bs with
    | nil => exact ih
    | cons b bs ihBytes =>
      obtain ⟨hb, hPlain⟩ := List.forall_mem_cons.mp hPlain
      exact .plain hb (ihBytes hPlain)
  | escape hEscapes _ ih => exact hEscapes.isContent ih

namespace Decoder

variable {bytes rest : List UInt8}

/-- The decoder of what follows the first mark of a string reads what its reader
of bytes reads. -/
theorem stringBody_eq_ok_iff {s : String} :
    stringBody bytes = .ok (s, rest) ↔
      ∃ raw, Spells raw s.toList ∧ bytes = raw ++ '"'.toUInt8 :: rest := by
  rw [← Text.body_eq_ok_iff]
  unfold stringBody
  cases h : Text.body bytes with
  | error f => simp
  | ok r =>
    obtain ⟨cs, rest'⟩ := r
    simp [String.ext_iff]

/-- The decoder that skips what follows the first mark of a string skips what
its reader of bytes skips. -/
theorem skipString_eq_ok_iff :
    skipString bytes = .ok ((), rest) ↔ ∃ raw, IsContent raw ∧ bytes = raw ++ '"'.toUInt8 :: rest := by
  rw [← Text.skip_eq_ok_iff]
  unfold skipString
  cases Text.skip bytes <;> simp

/-- The decoder of strings reads the strings of texts, and no other value. -/
theorem string_reads : string.Reads Tree.IsString where
  sound h := by
    obtain ⟨b, more, hSpace, -, h⟩ := valueStart_bind_eq_ok.mp (placed_eq_ok.mp h)
    split at h
    · next hMark =>
      obtain rfl := eq_of_beq hMark
      -- what has been read between the marks spells the text
      obtain ⟨raw, hSpells, rfl⟩ := stringBody_eq_ok_iff.mp h
      exact ⟨_, _, hSpace, .string _ hSpells.isContent, raw, rfl, hSpells⟩
    · exact absurd h unexpected_ne_ok
  complete hSpace hValue hString _ := by
    obtain ⟨raw, rfl, hSpells⟩ := hString
    cases hValue with
    | string rest hContent =>
      refine placed_eq_ok.mpr (valueStart_bind_eq_ok.mpr ⟨_, _, hSpace, by decide, ?_⟩)
      rw [if_pos (beq_self_eq_true _)]
      exact stringBody_eq_ok_iff.mpr ⟨raw, hSpells, rfl⟩

end Decoder

end RemoteConsole.Json
