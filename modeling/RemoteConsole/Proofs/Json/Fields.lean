import RemoteConsole.Proofs.Json.Printing
import RemoteConsole.Proofs.Json.Unambiguity

/-!
# Fields that may be left out

A field of a record may be nothing, which is written as `null`, and the last
fields of a record that is written as a list may be left out.

* `Decoder.optional_reads` — the decoder of values that may be nothing.
* `Decoder.ReadsItems.fieldD` — a field in front of what is left of a list, if
  anything is.
* `Sets`, `Member.takes_field` — what the member of a field changes.
* `Writes` — what the members of a written record change.
-/

namespace RemoteConsole.Json

variable {α β σ : Type} {bytes mid rest : List UInt8}

/-! ## What may be missing -/

/-- A value is `null`, for nothing, or it is another one that stands for
something. -/
def Tree.IsOptional (P : Tree → α → Prop) (t : Tree) : Option α → Prop
  | none => t = .null
  | some a => t ≠ .null ∧ P t a

/-- A field is what stands in its place, or its default if nothing does. -/
def OrDefault (P : Tree → α → Prop) (fallback : α) (t? : Option Tree) (a : α) : Prop :=
  match t? with
  | none => a = fallback
  | some t => P t a

/-- The first byte of `null` stands for nothing else: it is neither a digit nor
a sign, and it opens no string, list or object. -/
theorem Kind.ofByte_eq_null_iff {b : UInt8} : Kind.ofByte b = .null ↔ b = 'n'.toUInt8 := by
  unfold Kind.ofByte
  constructor
  · intro h
    by_contra hNe
    rw [if_neg hNe] at h
    -- no other byte is a sign of nothing
    split_ifs at h
  · rintro rfl
    rfl

/-- Nothing is told from other values by its first byte. -/
theorem ValueAt.eq_null_iff {b : UInt8} {more : List UInt8} {t : Tree} (h : ValueAt (b :: more) t rest) :
    t = .null ↔ b = 'n'.toUInt8 := by
  have hKind : Kind.ofByte b = t.kind := Option.some.inj h.kind_eq
  rw [← Kind.ofByte_eq_null_iff, hKind]
  cases t <;> simp [Tree.kind]

namespace Decoder

variable {P : Tree → α → Prop} {d : Decoder α} {o : Option α}

/-- A value that is there is read by the decoder of its kind. -/
theorem some_eq_ok_iff {start : List UInt8} :
    (do return some (← d) : Decoder (Option α)) start = .ok (o, rest) ↔
      ∃ a, o = some a ∧ d start = .ok (a, rest) := by
  rw [bind_eq_ok]
  constructor
  · rintro ⟨a, _, hd, ⟨⟩⟩
    exact ⟨a, rfl, hd⟩
  · rintro ⟨a, rfl, hd⟩
    exact ⟨a, rest, hd, rfl⟩

/-- A value that starts as `null` does is nothing if it is spelt out, and
otherwise it is no value at all. -/
theorem null_eq_ok_iff {more : List UInt8} :
    (do
      advance
      ident ['u', 'l', 'l']
      pure none : Decoder (Option α)) ('n'.toUInt8 :: more) = .ok (o, rest) ↔
        o = none ∧ 'n'.toUInt8 :: more = ascii ['n', 'u', 'l', 'l'] ++ rest := by
  rw [advance_bind, bind_eq_ok]
  constructor
  · rintro ⟨⟨⟩, _, hIdent, ⟨⟩⟩
    exact ⟨rfl, congrArg _ (ident_eq_ok_iff.mp hIdent)⟩
  · rintro ⟨rfl, hWord⟩
    exact ⟨(), rest, ident_eq_ok_iff.mpr (List.cons.inj hWord).2, rfl⟩

/-- The decoder of values that may be nothing reads `null`, and the values that
its decoder reads. -/
theorem optional_reads (hReads : d.Reads P) : (optional d).Reads (Tree.IsOptional P) where
  sound {bytes rest o} h := by
    have hToken : token bytes = .ok ((bytes.dropWhile isSpace).head?, bytes.dropWhile isSpace) := rfl
    have hSpace := Space.of_dropWhile bytes
    have hHead := List.head?_dropWhile_not isSpace bytes
    unfold optional at h
    rw [bind_of_ok hToken] at h
    cases hRest : bytes.dropWhile isSpace with
    | nil =>
      -- a value has a first byte
      rw [hRest] at h
      obtain ⟨a, rfl, hd⟩ := some_eq_ok_iff.mp h
      obtain ⟨start, t, ⟨s, -, hStart⟩, hValue, -⟩ := hReads.sound hd
      obtain ⟨b, more, rfl, -⟩ := hValue.head
      simp at hStart
    | cons b more =>
      rw [hRest] at h hSpace hHead
      have hb : isSpace b = false := by simpa using hHead
      simp only [List.head?_cons] at h
      split at h
      · next hNull =>
        obtain rfl := eq_of_beq hNull
        obtain ⟨rfl, hWord⟩ := null_eq_ok_iff.mp h
        rw [hWord] at hSpace
        exact ⟨_, .null, hSpace, .null rest, rfl⟩
      · next hNull =>
        obtain ⟨a, rfl, hd⟩ := some_eq_ok_iff.mp h
        obtain ⟨start, t, hStart, hValue, hP⟩ := hReads.sound hd
        -- the decoder has started at the byte that was looked at
        obtain rfl := hStart.unique (.refl _) hValue.starts (.of_cons hb)
        exact ⟨_, t, hSpace, hValue, fun hNone => hNull (by simpa using hValue.eq_null_iff.mp hNone), hP⟩
  complete {bytes start rest t o} hSpace hValue hOptional hEnds := by
    unfold optional
    cases o with
    | none =>
      -- the two kinds of value are told apart by the byte that the decoder
      -- looks at
      obtain rfl : t = .null := hOptional
      cases hValue with
      | null =>
        rw [bind_of_ok (token_eq hSpace (by decide))]
        exact null_eq_ok_iff.mpr ⟨rfl, rfl⟩
    | some a =>
      obtain ⟨hNot, hP⟩ : t ≠ .null ∧ P t a := hOptional
      obtain ⟨b, more, rfl, hb, -⟩ := hValue.head
      have hByte : (b == 'n'.toUInt8) = false := beq_eq_false_iff_ne.mpr (mt hValue.eq_null_iff.mpr hNot)
      rw [bind_of_ok (token_eq hSpace hb)]
      simp only [hByte]
      exact some_eq_ok_iff.mpr ⟨a, rfl, hReads.complete (.refl _) hValue hP hEnds⟩

/-! ## The last fields of a list -/

/-- No item stands where a list is closed. -/
theorem eq_nil_of_closer {first : Bool} {more : List UInt8} {ts : List Tree}
    (hSpace : Space bytes (']'.toUInt8 :: more)) (h : PartsAt .list first bytes (items ts) rest) : ts = [] := by
  cases ts with
  | nil => rfl
  | cons t ts =>
    cases h with
    | part hLead hPart _ => exact absurd hPart (hLead.not_partAt hSpace)

/-- A field in front of what is left of a list, which may be nothing. Once the
list has ended, this field and all behind it have their defaults. -/
theorem ReadsItems.fieldD (fallback : α) {f : α → Decoder β} {Q : α → List Tree → β → Prop}
    (hReads : d.Reads P) (hMore : ∀ a, ReadsItems false (f a) (Q a)) :
    ReadsItems false (fieldInOrderD fallback d >>= f) fun ts b =>
      ∃ a, OrDefault P fallback ts.head? a ∧ Q a ts.tail b where
  sound h hEnd := by
    obtain ⟨a, next, hField, h⟩ := bind_eq_ok.mp h
    obtain ⟨o, _, hNext, hField⟩ := bind_eq_ok.mp hField
    cases hField
    obtain ⟨ts, hParts, hQ⟩ := (hMore _).sound h hEnd
    cases o with
    | none =>
      -- where the list is closed nothing else is left for the fields to come
      obtain ⟨more, rfl, hSpace⟩ := nextElement_eq_none_iff.mp hNext
      obtain rfl := eq_nil_of_closer (.refl _) hParts
      cases hParts with
      | close hClose => exact ⟨[], .close (hSpace.trans hClose), fallback, rfl, hQ⟩
    | some a =>
      obtain ⟨start, t, hLead, hValue, hP⟩ := exists_value_of_nextElement hReads hNext
      exact ⟨t :: ts, .part hLead (.item hValue) hParts, a, hP, hQ⟩
  complete {bytes rest ts b} h hQ := by
    obtain ⟨a, hField, hQ⟩ := hQ
    cases ts with
    | nil =>
      -- the bracket stands where the field would be, so the field has its
      -- default and all fields behind it see the bracket too
      obtain rfl : a = fallback := hField
      cases h with
      | close hSpace =>
        obtain ⟨mid, hRest, hEnd⟩ := (hMore a).complete (.close (.refl _)) hQ
        have hNext : nextElement false d bytes = .ok (none, ']'.toUInt8 :: rest) :=
          nextElement_eq_none_iff.mpr ⟨rest, rfl, hSpace⟩
        exact ⟨mid, bind_eq_ok.mpr ⟨a, _, bind_eq_ok.mpr ⟨none, _, hNext, rfl⟩, hRest⟩, hEnd⟩
    | cons t ts =>
      cases h with
      | part hLead hPart hParts =>
        cases hPart with
        | item hValue =>
          obtain ⟨mid, hRest, hEnd⟩ := (hMore a).complete hParts hQ
          have hNext := nextElement_of_value hReads hLead hValue hField hParts.ends
          exact ⟨mid, bind_eq_ok.mpr ⟨a, _, bind_eq_ok.mpr ⟨some a, _, hNext, rfl⟩, hRest⟩, hEnd⟩

end Decoder

/-! ## What members change -/

/-- The member of a field sets it, if it has not been there before. -/
def Sets (known : Option β) (P : Tree → β → Prop) (set : β → σ) (t : Tree) (s' : σ) : Prop :=
  known = none ∧ ∃ b, P t b ∧ s' = set b

namespace Member

/-- A field is read unless it is known, and then it may not be there. -/
theorem takes_field {P : Tree → β → Prop} {d : Decoder β} (hReads : d.Reads P) (known : Option β) (set : β → σ)
    (s : σ) :
    (if known.isSome then Member.repeated else .field do return set (← d)).Takes s (Sets known P set) := by
  cases known with
  | none => exact (hReads.map set).congr fun t s' => by simp [Sets]
  | some b =>
    rintro t s' ⟨hNone, -⟩
    cases hNone

/-- The member of a key that is compared is, in each case, the member of that
case. -/
theorem takes_ite {p : Prop} [Decidable p] {m m' : Member σ} {s : σ} {effect effect' : Tree → σ → Prop}
    (h : p → m.Takes s effect) (h' : ¬ p → m'.Takes s effect') :
    (if p then m else m').Takes s fun t s' => if p then effect t s' else effect' t s' := by
  by_cases hp : p
  · simp only [if_pos hp]
    exact h hp
  · simp only [if_neg hp]
    exact h' hp

theorem takes_unknown (s : σ) : Member.unknown.Takes s fun _ s' => s' = s :=
  fun _ _ => Iff.rfl

end Member

/-! ## Written members -/

section Written

variable {effect : σ → String → Tree → σ → Prop} {s s' s'' : σ}

/-- Members may be taken one part after the other. -/
theorem Fills.append {a b : List (String × Tree)} (ha : Fills effect s a s') (hb : Fills effect s' b s'') :
    Fills effect s (a ++ b) s'' := by
  induction ha with
  | nil s => exact hb
  | cons hEffect _ ih => exact .cons hEffect (ih hb)

/-- Members that are written change what is known of a record. -/
def Writes (effect : σ → String → Tree → σ → Prop) (s : σ) (members : List (String × Value)) (s' : σ) : Prop :=
  Fills effect s (members.map fun m => (m.1, m.2.tree)) s'

namespace Writes

theorem nil (s : σ) : Writes effect s [] s :=
  Fills.nil s

/-- One member writes what its value stands for. -/
theorem singleton {key : String} {v : Value} (h : effect s key v.tree s') : Writes effect s [(key, v)] s' :=
  Fills.cons h (.nil s')

/-- What is written in two parts is written as one list of members. -/
theorem append {a b : List (String × Value)} (ha : Writes effect s a s') (hb : Writes effect s' b s'') :
    Writes effect s (a ++ b) s'' := by
  unfold Writes
  rw [List.map_append]
  exact Fills.append ha hb

/-- An object whose members make a record is the record as it may be written. -/
theorem written {shape : Shape σ α} {inOrder : List Tree → α → Prop} {members : List (String × Value)} {a : α}
    (h : Writes effect shape.start members s) (hBuild : shape.build s = .ok a) :
    shape.Written effect inOrder (Value.object members).tree a :=
  .inl ⟨_, _, s, rfl, Value.named_entries members, h, hBuild⟩

end Writes

end Written

end RemoteConsole.Json
