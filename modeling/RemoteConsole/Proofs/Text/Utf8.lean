import Mathlib.Data.List.Basic
import RemoteConsole.Text.Utf8

/-!
# UTF-8 is read as it is written

The strict reader takes exactly the bytes that the writer makes: no character
has a second form, and no bytes but those of a character are taken for one. So
reading undoes writing, and bytes are text in at most one way.

* `Utf8.step_eq_char_iff` — a character is found at the front exactly if its
  bytes stand there.
* `Utf8.decode?_eq_ok_iff` — bytes are a text exactly if they are the bytes of
  that text.
-/

namespace RemoteConsole.Utf8

/-! ## Codes and bytes -/

/-- The codes of characters leave out the surrogates. -/
theorem toNat_lt_or (c : Char) : c.toNat < 0xD800 ∨ 0xDFFF < c.toNat ∧ c.toNat < 0x110000 :=
  c.valid

/-- A number that is the code of a character is the code of the character made
of it. -/
theorem toNat_ofNat_of_valid {n : Nat} (h : n < 0xD800 ∨ 0xDFFF < n ∧ n < 0x110000) :
    (Char.ofNat n).toNat = n := by
  rw [Char.ofNat, dif_pos h]
  rfl

theorem tailByte_toNat (code : Nat) : (tailByte code).toNat = 0x80 + code % 64 := by
  rw [tailByte, UInt8.toNat_ofNat']
  omega

theorem isTail_iff (b : UInt8) : isTail b = true ↔ 0x80 ≤ b.toNat ∧ b.toNat ≤ 0xBF := by
  simp [isTail, UInt8.le_iff_toNat_le]

theorem isTail_tailByte (code : Nat) : isTail (tailByte code) = true := by
  rw [isTail_iff, tailByte_toNat]
  omega

theorem append_tailByte (code : Nat) : append (code / 64) (tailByte code) = code := by
  unfold append
  rw [tailByte_toNat]
  omega

/-- A byte behind a lead byte is a continuation byte, with narrower bounds
behind four of them. -/
theorem isSecond_iff (lead b : UInt8) :
    isSecond lead b = true ↔
      (0x80 ≤ b.toNat ∧ b.toNat ≤ 0xBF) ∧ (lead.toNat = 0xE0 → 0xA0 ≤ b.toNat) ∧
        (lead.toNat = 0xED → b.toNat ≤ 0x9F) ∧ (lead.toNat = 0xF0 → 0x90 ≤ b.toNat) ∧
        (lead.toNat = 0xF4 → b.toNat ≤ 0x8F) := by
  -- bytes are compared by their numbers, for `omega`
  have hEq : ∀ n : UInt8, lead = n ↔ lead.toNat = n.toNat := fun n => UInt8.toNat_inj.symm
  simp only [isSecond, hEq, isTail, UInt8.le_iff_toNat_le]
  repeat' split
  all_goals simp_all
  all_goals omega

/-- A lead byte starts characters of two, three or four bytes. -/
theorem width_cases (b : UInt8) :
    (width b = 0 ∧ (b.toNat < 0xC2 ∨ 0xF5 ≤ b.toNat)) ∨
      (width b = 2 ∧ 0xC2 ≤ b.toNat ∧ b.toNat < 0xE0) ∨
      (width b = 3 ∧ 0xE0 ≤ b.toNat ∧ b.toNat < 0xF0) ∨
      (width b = 4 ∧ 0xF0 ≤ b.toNat ∧ b.toNat < 0xF5) := by
  simp only [width, UInt8.lt_iff_toNat_lt, UInt8.reduceToNat]
  repeat' split
  all_goals omega

/-- What a lead byte holds of a code depends on how many bytes it announces. -/
theorem leadBits_eq (b : UInt8) :
    leadBits b =
      if b.toNat < 0xE0 then b.toNat - 0xC0 else if b.toNat < 0xF0 then b.toNat - 0xE0
      else b.toNat - 0xF0 := by
  simp only [leadBits, UInt8.lt_iff_toNat_lt, UInt8.reduceToNat]

/-- So many continuation bytes are read, and each adds its bits. The induction
is on their number, and the code so far may be any. -/
theorem tails_eq_char_iff {code n : Nat} {bytes rest : List UInt8} {c : Char} :
    tails code n bytes = .char c rest ↔
      ∃ ts : List UInt8, ts.length = n ∧ (∀ t ∈ ts, isTail t = true) ∧ bytes = ts ++ rest ∧
        c = Char.ofNat (ts.foldl append code) := by
  induction n generalizing code bytes with
  | zero =>
    rw [tails, Step.char.injEq]
    constructor
    · rintro ⟨rfl, rfl⟩
      exact ⟨[], rfl, by simp, rfl, rfl⟩
    · rintro ⟨ts, hLength, -, rfl, rfl⟩
      obtain rfl := List.eq_nil_of_length_eq_zero hLength
      exact ⟨rfl, rfl⟩
  | succ n ih =>
    cases bytes with
    | nil =>
      refine iff_of_false (by simp [tails]) ?_
      rintro ⟨ts, hLength, -, hNil, -⟩
      simp [(List.append_eq_nil_iff.mp hNil.symm).1] at hLength
    | cons b bytes =>
      unfold tails
      split
      · next hTail =>
        rw [ih]
        constructor
        · rintro ⟨ts, hLength, hAll, rfl, hc⟩
          exact ⟨b :: ts, by rw [List.length_cons, hLength], List.forall_mem_cons.mpr ⟨hTail, hAll⟩,
            rfl, by rw [List.foldl_cons, hc]⟩
        -- there is at least one byte, and it is the first of these
        · rintro ⟨ts, hLength, hAll, hBytes, hc⟩
          obtain ⟨t, ts, rfl⟩ := List.exists_cons_of_length_eq_add_one hLength
          obtain ⟨rfl, rfl⟩ := List.cons.inj hBytes
          exact ⟨ts, by simpa using hLength, (List.forall_mem_cons.mp hAll).2, rfl,
            by rw [hc, List.foldl_cons]⟩
      · next hTail =>
        refine iff_of_false (by simp) ?_
        rintro ⟨ts, hLength, hAll, hBytes, -⟩
        obtain ⟨t, ts, rfl⟩ := List.exists_cons_of_length_eq_add_one hLength
        obtain ⟨rfl, -⟩ := List.cons.inj hBytes
        exact hTail (hAll b List.mem_cons_self)

/-! ## One character -/

/-- Bytes that form a code of more than one byte: a lead byte, the byte behind
it, and the bytes that the lead byte still asks for. -/
structure Forms (b second : UInt8) (ts : List UInt8) (code : Nat) : Prop where
  width_eq : width b = ts.length + 2
  isSecond : isSecond b second = true
  tails : ∀ t ∈ ts, isTail t = true
  code_eq : ts.foldl append (append (leadBits b) second) = code

/-- A character is found at the front exactly if a byte of ASCII stands there or
bytes that form its code. This takes the reader apart once; the proofs below
speak of forms. -/
theorem step_eq_char_iff_forms {b : UInt8} {bytes rest : List UInt8} {c : Char} :
    step b bytes = .char c rest ↔
      (b.toNat < 0x80 ∧ bytes = rest ∧ c = Char.ofNat b.toNat) ∨
        (0x80 ≤ b.toNat ∧ ∃ second ts code, Forms b second ts code ∧
          bytes = second :: (ts ++ rest) ∧ c = Char.ofNat code) := by
  unfold step
  by_cases hSingle : b < 0x80
  · rw [if_pos hSingle, Step.char.injEq]
    simp only [UInt8.lt_iff_toNat_lt, UInt8.reduceToNat] at hSingle
    have hNot : ¬ 0x80 ≤ b.toNat := by omega
    simp [hSingle, hNot, eq_comm, and_comm]
  rw [if_neg hSingle]
  simp only [UInt8.lt_iff_toNat_lt, UInt8.reduceToNat] at hSingle
  have hLead : 0x80 ≤ b.toNat := by omega
  simp only [hSingle, hLead, false_and, true_and, false_or]
  split
  -- a byte that leads no form announces no width
  · next hWidth =>
    refine iff_of_false (by simp) ?_
    rintro ⟨second, ts, code, hForms, -, -⟩
    have hForm := hForms.width_eq
    omega
  next hWidth =>
  cases bytes with
  | nil => simp
  | cons second bytes =>
    dsimp only
    -- a byte that leads a form announces one more byte at least
    have hTwo : 2 ≤ width b := by
      rcases width_cases b with h | h | h | h <;> omega
    split
    · next hSecond =>
      rw [tails_eq_char_iff]
      constructor
      · rintro ⟨ts, hLength, hTails, rfl, rfl⟩
        exact ⟨second, ts, _, ⟨by omega, hSecond, hTails, rfl⟩, rfl, rfl⟩
      · rintro ⟨s, ts, code, hForms, hBytes, rfl⟩
        obtain ⟨rfl, rfl⟩ := List.cons.inj hBytes
        have hForm := hForms.width_eq
        exact ⟨ts, by omega, hForms.tails, rfl, by rw [hForms.code_eq]⟩
    · next hSecond =>
      refine iff_of_false (by simp) ?_
      rintro ⟨s, ts, code, hForms, hBytes, -⟩
      obtain ⟨rfl, -⟩ := List.cons.inj hBytes
      exact hSecond hForms.isSecond

/-- The lead byte tells how many bytes follow. -/
theorem Forms.lead {b second : UInt8} {ts : List UInt8} {code : Nat} (h : Forms b second ts code) :
    (ts.length = 0 ∧ 0xC2 ≤ b.toNat ∧ b.toNat < 0xE0) ∨
      (ts.length = 1 ∧ 0xE0 ≤ b.toNat ∧ b.toNat < 0xF0) ∨
      (ts.length = 2 ∧ 0xF0 ≤ b.toNat ∧ b.toNat < 0xF5) := by
  have hWidth := h.width_eq
  rcases width_cases b with hLead | hLead | hLead | hLead <;> omega

/-- A code is written in the bytes that form it. The number of bytes is told by
the lead byte, and the bits of each of them are found again in the code. -/
theorem Forms.encodeChar_eq {b second : UInt8} {ts : List UInt8} {code : Nat}
    (h : Forms b second ts code) :
    encodeChar (Char.ofNat code) = b :: second :: ts := by
  have hSecond := (isSecond_iff b second).mp h.isSecond
  have hTails := h.tails
  have hCode := h.code_eq
  simp only [isTail_iff] at hTails
  rw [leadBits_eq] at hCode
  unfold append at hCode
  have hByte : ∀ n : Nat, (UInt8.ofNat n).toNat = n % 256 := fun n => UInt8.toNat_ofNat'
  unfold encodeChar
  dsimp only
  -- the bounds on the second byte keep the code above all shorter forms and off
  -- the surrogates
  rcases h.lead with ⟨hLength, hLow, hHigh⟩ | ⟨hLength, hLow, hHigh⟩ | ⟨hLength, hLow, hHigh⟩
  -- two bytes, three bytes and four bytes, each with the bits of the code put
  -- together again
  · obtain rfl := List.eq_nil_of_length_eq_zero hLength
    rw [if_pos hHigh, List.foldl_nil] at hCode
    rw [toNat_ofNat_of_valid (by omega), if_neg (by omega), if_pos (by omega)]
    simp only [tailByte, List.cons.injEq, ← UInt8.toNat_inj, hByte, and_true]
    omega
  · obtain ⟨t, rfl⟩ := List.length_eq_one_iff.mp hLength
    have ht := hTails t List.mem_cons_self
    rw [if_neg (by omega), if_pos hHigh, List.foldl_cons, List.foldl_nil] at hCode
    rw [toNat_ofNat_of_valid (by omega), if_neg (by omega), if_neg (by omega), if_pos (by omega)]
    simp only [tailByte, List.cons.injEq, ← UInt8.toNat_inj, hByte, and_true]
    omega
  · obtain ⟨t, u, rfl⟩ := List.length_eq_two.mp hLength
    have ht := hTails t List.mem_cons_self
    have hu := hTails u (List.mem_cons_of_mem _ List.mem_cons_self)
    rw [if_neg (by omega), if_neg (by omega), List.foldl_cons, List.foldl_cons, List.foldl_nil] at hCode
    rw [toNat_ofNat_of_valid (by omega), if_neg (by omega), if_neg (by omega), if_neg (by omega)]
    simp only [tailByte, List.cons.injEq, ← UInt8.toNat_inj, hByte, and_true]
    omega

/-- The bytes of a character beyond ASCII form its code. The three lengths have
the same argument with other numbers: the lead byte has the highest bits, and
each byte behind it adds six. -/
theorem exists_forms (c : Char) (h : 0x80 ≤ c.toNat) :
    ∃ b second ts, encodeChar c = b :: second :: ts ∧ 0x80 ≤ b.toNat ∧ Forms b second ts c.toNat := by
  have hValid := toNat_lt_or c
  -- from here on it is arithmetic on the code
  generalize hn : c.toNat = n at h hValid
  have hLead : ∀ m, m < 256 → (UInt8.ofNat m).toNat = m := fun m hm => UInt8.toNat_ofNat_of_lt' hm
  unfold encodeChar
  rw [hn]
  dsimp only
  rw [if_neg (by omega)]
  -- below 0x800 two bytes, below 0x10000 three, and four above
  split
  -- the lead byte, the second byte, the bytes behind it, and the code that they
  -- form
  · have hByte := hLead (0xC0 + n / 64) (by omega)
    refine ⟨_, _, _, rfl, by omega, ?_, ?_, by simp, ?_⟩
    · rcases width_cases (UInt8.ofNat (0xC0 + n / 64)) with h | h | h | h <;>
        rw [hByte] at h <;> simp only [List.length_nil] <;> omega
    · rw [isSecond_iff, hByte, tailByte_toNat]
      omega
    · rw [List.foldl_nil, leadBits_eq, hByte, if_pos (by omega), Nat.add_sub_cancel_left,
        append_tailByte]
  split
  · have hByte := hLead (0xE0 + n / 4096) (by omega)
    refine ⟨_, _, _, rfl, by omega, ?_, ?_, by simp [isTail_tailByte], ?_⟩
    · rcases width_cases (UInt8.ofNat (0xE0 + n / 4096)) with h | h | h | h <;>
        rw [hByte] at h <;> simp only [List.length_cons, List.length_nil] <;> omega
    · rw [isSecond_iff, hByte, tailByte_toNat]
      omega
    · rw [List.foldl_cons, List.foldl_nil, leadBits_eq, hByte, if_neg (by omega), if_pos (by omega),
        Nat.add_sub_cancel_left, show n / 4096 = n / 64 / 64 by omega, append_tailByte, append_tailByte]
  · have hByte := hLead (0xF0 + n / 262144) (by omega)
    refine ⟨_, _, _, rfl, by omega, ?_, ?_, by simp [isTail_tailByte], ?_⟩
    · rcases width_cases (UInt8.ofNat (0xF0 + n / 262144)) with h | h | h | h <;>
        rw [hByte] at h <;> simp only [List.length_cons, List.length_nil] <;> omega
    · rw [isSecond_iff, hByte, tailByte_toNat]
      omega
    · rw [List.foldl_cons, List.foldl_cons, List.foldl_nil, leadBits_eq, hByte, if_neg (by omega),
        if_neg (by omega), Nat.add_sub_cancel_left, show n / 262144 = n / 4096 / 64 by omega,
        append_tailByte, show n / 4096 = n / 64 / 64 by omega, append_tailByte, append_tailByte]

theorem encodeChar_of_lt {c : Char} (h : c.toNat < 0x80) : encodeChar c = [UInt8.ofNat c.toNat] := by
  unfold encodeChar
  dsimp only
  rw [if_pos h]

/-- A character is found at the front exactly if its bytes stand there, one byte
for a character of ASCII and a form for any other. -/
theorem step_eq_char_iff {b : UInt8} {bytes rest : List UInt8} {c : Char} :
    step b bytes = .char c rest ↔ b :: bytes = encodeChar c ++ rest := by
  rw [step_eq_char_iff_forms]
  constructor
  · rintro (⟨hAscii, rfl, rfl⟩ | ⟨-, second, ts, code, hForms, rfl, rfl⟩)
    · have hn := toNat_ofNat_of_valid (n := b.toNat) (by omega)
      rw [encodeChar_of_lt (by omega), hn, UInt8.ofNat_toNat]
      rfl
    · rw [hForms.encodeChar_eq]
      rfl
  · intro h
    by_cases hAscii : c.toNat < 0x80
    · left
      rw [encodeChar_of_lt hAscii] at h
      obtain ⟨rfl, rfl⟩ := List.cons.inj h
      rw [UInt8.toNat_ofNat_of_lt' (by rw [UInt8.size]; omega), Char.ofNat_toNat]
      exact ⟨hAscii, rfl, rfl⟩
    · right
      obtain ⟨lead, second, ts, hBytes, hLead, hForms⟩ := exists_forms c (by omega)
      rw [hBytes] at h
      obtain ⟨rfl, rfl⟩ := List.cons.inj h
      exact ⟨hLead, second, ts, _, hForms, rfl, (Char.ofNat_toNat c).symm⟩

/-- Every character has a byte at least. -/
theorem encodeChar_ne_nil (c : Char) : encodeChar c ≠ [] := by
  unfold encodeChar
  dsimp only
  repeat' split
  all_goals exact List.cons_ne_nil _ _

/-! ## Texts -/

@[simp] theorem encode_nil : encode [] = [] := rfl

@[simp] theorem encode_cons (c : Char) (text : List Char) :
    encode (c :: text) = encodeChar c ++ encode text := rfl

/-- Texts are written one after the other. -/
@[simp] theorem encode_append (a b : List Char) : encode (a ++ b) = encode a ++ encode b := by
  unfold encode
  rw [List.flatMap_append]

/-- What is read as a text are the bytes of that text, wherever the reading has
begun. -/
theorem eq_encode_of_decodeFrom {offset : Nat} {bytes : List UInt8} {text : List Char}
    (h : decodeFrom offset bytes = .ok text) : bytes = encode text := by
  -- a step takes one byte or several, so the induction is on their number
  induction hn : bytes.length using Nat.strongRecOn generalizing offset bytes text with
  | ind n ih =>
    cases bytes with
    | nil =>
      rw [decodeFrom] at h
      rw [← Except.ok.inj h]
      rfl
    | cons b bytes =>
      have hLength := length_step b bytes
      rw [decodeFrom] at h
      cases hStep : step b bytes with
      | malformed rest | truncated =>
        rw [hStep] at h
        cases h
      | char c rest =>
        rw [hStep, Step.rest] at hLength
        rw [List.length_cons] at hn
        rw [hStep] at h
        simp only [Step.rest] at h
        split at h
        · next cs hRest =>
          rw [← Except.ok.inj h, encode_cons, ← ih rest.length (by omega) hRest rfl]
          exact step_eq_char_iff.mp hStep
        · cases h

/-- The bytes of a text are read as that text. -/
theorem decodeFrom_encode (offset : Nat) (text : List Char) :
    decodeFrom offset (encode text) = .ok text := by
  induction text generalizing offset with
  | nil => rw [encode_nil, decodeFrom]
  | cons c text ih =>
    obtain ⟨b, more, hChar⟩ := List.exists_cons_of_ne_nil (encodeChar_ne_nil c)
    -- the first step finds the first character, and the rest is read in the
    -- same way
    have hStep : step b (more ++ encode text) = .char c (encode text) :=
      step_eq_char_iff.mpr (by rw [hChar, List.cons_append])
    rw [encode_cons, hChar, List.cons_append, decodeFrom]
    simp only [hStep, Step.rest, ih]

/-- Bytes are a text exactly if they are the bytes of that text. -/
theorem decode?_eq_ok_iff {bytes : List UInt8} {text : List Char} :
    decode? bytes = .ok text ↔ bytes = encode text :=
  ⟨eq_encode_of_decodeFrom, fun h => h ▸ decodeFrom_encode 0 text⟩

/-- Bytes are those of one text only. -/
theorem encode_inj {a b : List Char} : encode a = encode b ↔ a = b := by
  refine ⟨fun h => ?_, fun h => by rw [h]⟩
  have hRead := decodeFrom_encode 0 a
  rw [h, decodeFrom_encode] at hRead
  exact (Except.ok.inj hRead).symm

end RemoteConsole.Utf8
