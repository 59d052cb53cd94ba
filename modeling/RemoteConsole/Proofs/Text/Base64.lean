import Mathlib.Data.List.Basic
import RemoteConsole.Text.Base64

/-!
# Tokens are read back

The standard encoding from the side of its reader: the alphabet, what a padded
token is, and a strict decoder, which takes no character from outside the
alphabet, no padding but at the end, and no bit that is set behind the last
byte. It takes what the encoder writes, and gives back the bytes.

* `Base64.alphabet`, `Base64.IsToken` — what tokens consist of.
* `Base64.decode?` — the bytes of a token.
* `Base64.isToken_encode`, `Base64.decode?_encode` — the encoder writes tokens,
  and they are decoded to the bytes that it was given.
-/

namespace RemoteConsole.Base64

/-! ## Tokens -/

/-- The characters of the numbers below 64, in order. -/
def alphabet : List Char :=
  "ABCDEFGHIJKLMNOPQRSTUVWXYZabcdefghijklmnopqrstuvwxyz0123456789+/".toList

/-- The number of a character. -/
def value? (c : Char) : Option Nat :=
  alphabet.idxOf? c

/-- Groups of four characters of the alphabet, where `=` may stand for the last
one or two. -/
def IsToken (token : List Char) : Prop :=
  token.length % 4 = 0 ∧
    ∃ digits padding, token = digits ++ List.replicate padding '=' ∧ (∀ c ∈ digits, c ∈ alphabet) ∧
      padding ≤ 2

/-- The byte of the last two characters. Four of their bits are left over, and
have to be zero. -/
def oneByte? (w x : Char) : Option (List UInt8) := do
  let n := (← value? w) * 64 + (← value? x)
  if n % 16 = 0 then some [UInt8.ofNat (n / 16)] else none

/-- The bytes of the last three characters. Two of their bits are left over, and
have to be zero. -/
def twoBytes? (w x y : Char) : Option (List UInt8) := do
  let n := ((← value? w) * 64 + (← value? x)) * 64 + (← value? y)
  if n % 4 = 0 then some [UInt8.ofNat (n / 1024), UInt8.ofNat (n / 4)] else none

/-- The bytes of four characters. -/
def threeBytes? (w x y z : Char) : Option (List UInt8) := do
  let n := (((← value? w) * 64 + (← value? x)) * 64 + (← value? y)) * 64 + (← value? z)
  return [UInt8.ofNat (n / 65536), UInt8.ofNat (n / 256), UInt8.ofNat n]

/-- The bytes of a token. -/
def decode? : List Char → Option (List UInt8)
  | [] => some []
  | w :: x :: y :: z :: rest =>
    -- padding stands at the end only
    if z = '=' ∧ rest = [] then
      if y = '=' then oneByte? w x else twoBytes? w x y
    else do
      let bytes ← threeBytes? w x y z
      return bytes ++ (← decode? rest)
  | _ => none

/-! ## Digits -/

theorem getElem?_alphabet : ∀ n < 64, alphabet[n]? = some (digit n) := by decide

theorem value?_digit : ∀ n < 64, value? (digit n) = some n := by decide +kernel

theorem digit_mem_alphabet {n : Nat} (h : n < 64) : digit n ∈ alphabet :=
  List.mem_of_getElem? (getElem?_alphabet n h)

theorem ne_of_mem_alphabet {c : Char} (h : c ∈ alphabet) : c ≠ '=' ∧ c ≠ '\n' ∧ c ≠ '\r' := by
  have hAll : alphabet.all (fun c => c ≠ '=' ∧ c ≠ '\n' ∧ c ≠ '\r') = true := by decide
  exact of_decide_eq_true (List.all_eq_true.mp hAll c h)

theorem digit_ne_padding {n : Nat} (h : n < 64) : digit n ≠ '=' :=
  (ne_of_mem_alphabet (digit_mem_alphabet h)).1

/-- A token has no line breaks. -/
theorem IsToken.ne_break {token : List Char} (h : IsToken token) {c : Char} (hc : c ∈ token) :
    c ≠ '\n' ∧ c ≠ '\r' := by
  obtain ⟨-, digits, padding, rfl, hDigits, -⟩ := h
  rcases List.mem_append.mp hc with hDigit | hPadding
  · exact (ne_of_mem_alphabet (hDigits c hDigit)).2
  · rw [List.eq_of_mem_replicate hPadding]
    decide

/-! ## The encoder writes tokens -/

/-- What is written is a token: whole groups of four, digits of the alphabet,
and at most two signs of padding at the end. -/
theorem isToken_encode (bytes : List UInt8) : IsToken (encode bytes) := by
  refine ⟨by rw [length_encode]; omega, ?_⟩
  fun_induction encode bytes with
  | case1 => exact ⟨[], 0, rfl, by simp, by omega⟩
  -- one byte is left: two digits and two signs of padding
  | case2 a n =>
    have ha := a.toNat_lt
    have hFirst : n / 64 < 64 := by omega
    have hSecond : n % 64 < 64 := by omega
    exact ⟨[digit (n / 64), digit (n % 64)], 2, rfl, by simp [digit_mem_alphabet, hFirst, hSecond], by omega⟩
  -- two bytes are left: three digits and one sign
  | case3 a b n =>
    have ha := a.toNat_lt
    have hb := b.toNat_lt
    have hFirst : n / 4096 < 64 := by omega
    have hSecond : n / 64 % 64 < 64 := by omega
    have hThird : n % 64 < 64 := by omega
    exact ⟨[digit (n / 4096), digit (n / 64 % 64), digit (n % 64)], 1, rfl,
      by simp [digit_mem_alphabet, hFirst, hSecond, hThird], by omega⟩
  | case4 a b c rest n ih =>
    obtain ⟨digits, padding, hRest, hDigits, hPadding⟩ := ih
    have ha := a.toNat_lt
    have hb := b.toNat_lt
    have hc := c.toNat_lt
    have hFirst : n / 262144 < 64 := by omega
    have hSecond : n / 4096 % 64 < 64 := by omega
    have hThird : n / 64 % 64 < 64 := by omega
    have hFourth : n % 64 < 64 := by omega
    refine ⟨[digit (n / 262144), digit (n / 4096 % 64), digit (n / 64 % 64), digit (n % 64)] ++ digits,
      padding, by rw [hRest, List.append_assoc], ?_, hPadding⟩
    exact List.forall_mem_append.mpr
      ⟨by simp [digit_mem_alphabet, hFirst, hSecond, hThird, hFourth], hDigits⟩

/-! ## Groups -/

/-- The byte of a last group with two digits. The bits left over are zero, so
the strict decoder takes it. -/
theorem oneByte?_digits (a : UInt8) :
    oneByte? (digit (a.toNat * 16 / 64)) (digit (a.toNat * 16 % 64)) = some [a] := by
  have ha := a.toNat_lt
  have hBits : a.toNat * 16 / 64 * 64 + a.toNat * 16 % 64 = a.toNat * 16 := by omega
  have hByte : UInt8.ofNat (a.toNat * 16 / 16) = a := by simp
  unfold oneByte?
  rw [value?_digit _ (by omega), value?_digit _ (by omega)]
  simp only [Option.bind_eq_bind, Option.bind_some]
  rw [hBits, if_pos (by omega), hByte]

/-- The bytes of a last group with three digits. -/
theorem twoBytes?_digits (a b : UInt8) {n : Nat} (hn : (a.toNat * 256 + b.toNat) * 4 = n) :
    twoBytes? (digit (n / 4096)) (digit (n / 64 % 64)) (digit (n % 64)) = some [a, b] := by
  have ha := a.toNat_lt
  have hb := b.toNat_lt
  -- the three digits have the sixteen bits of the bytes and two bits that are
  -- not set
  have hBits : (n / 4096 * 64 + n / 64 % 64) * 64 + n % 64 = n := by omega
  have hFirst : UInt8.ofNat (n / 1024) = a := by
    rw [← UInt8.toNat_inj, UInt8.toNat_ofNat']
    omega
  have hSecond : UInt8.ofNat (n / 4) = b := by
    rw [← UInt8.toNat_inj, UInt8.toNat_ofNat']
    omega
  unfold twoBytes?
  rw [value?_digit _ (by omega), value?_digit _ (by omega), value?_digit _ (by omega)]
  simp only [Option.bind_eq_bind, Option.bind_some]
  rw [hBits, if_pos (by omega), hFirst, hSecond]

/-- The bytes of a whole group: 24 bits, cut into four numbers on one side and
into three on the other. -/
theorem threeBytes?_digits (a b c : UInt8) {n : Nat}
    (hn : (a.toNat * 256 + b.toNat) * 256 + c.toNat = n) :
    threeBytes? (digit (n / 262144)) (digit (n / 4096 % 64)) (digit (n / 64 % 64)) (digit (n % 64)) =
      some [a, b, c] := by
  have ha := a.toNat_lt
  have hb := b.toNat_lt
  have hc := c.toNat_lt
  -- the four digits put together are the 24 bits
  have hBits : ((n / 262144 * 64 + n / 4096 % 64) * 64 + n / 64 % 64) * 64 + n % 64 = n := by omega
  have hFirst : UInt8.ofNat (n / 65536) = a := by
    rw [← UInt8.toNat_inj, UInt8.toNat_ofNat']
    omega
  have hSecond : UInt8.ofNat (n / 256) = b := by
    rw [← UInt8.toNat_inj, UInt8.toNat_ofNat']
    omega
  have hThird : UInt8.ofNat n = c := by
    rw [← UInt8.toNat_inj, UInt8.toNat_ofNat']
    omega
  unfold threeBytes?
  rw [value?_digit _ (by omega), value?_digit _ (by omega), value?_digit _ (by omega),
    value?_digit _ (by omega)]
  simp only [Option.bind_eq_bind, Option.bind_some]
  rw [hBits, hFirst, hSecond, hThird]
  rfl

/-! ## Tokens and their bytes -/

/-- **Tokens are read back.** The strict decoder takes what the encoder writes
and gives back the bytes: no padding stands before the end, and no bit is set
behind the last byte. -/
theorem decode?_encode (bytes : List UInt8) : decode? (encode bytes) = some bytes := by
  fun_induction encode bytes with
  | case1 => rfl
  | case2 a n =>
    show oneByte? (digit (n / 64)) (digit (n % 64)) = some [a]
    exact oneByte?_digits a
  | case3 a b n =>
    have hThird : digit (n % 64) ≠ '=' := digit_ne_padding (by omega)
    unfold decode?
    rw [if_pos ⟨rfl, rfl⟩, if_neg hThird]
    exact twoBytes?_digits a b rfl
  | case4 a b c rest n ih =>
    -- a whole group ends with a digit, whether or not another group follows it
    have hFourth : digit (n % 64) ≠ '=' := digit_ne_padding (by omega)
    have hGroup := threeBytes?_digits a b c rfl
    show decode? (_ :: _ :: _ :: _ :: encode rest) = _
    unfold decode?
    rw [if_neg fun h => hFourth h.1, hGroup, ih]
    rfl

end RemoteConsole.Base64
