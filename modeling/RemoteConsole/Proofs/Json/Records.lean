import RemoteConsole.Proofs.Json.Skipping

/-!
# Lists and records are read by their parts

A decoder of lists reads the lists whose items its decoder of items reads. A
decoder of records reads the objects whose members, one after the other, change
what is known of the record into something that makes one, and the lists that
hold its fields in order.

* `Decoder.list_reads` — the decoder of lists.
* `Decoder.ReadsItems` — a decoder of what is left of a list;
  `Decoder.ReadsItems.field` puts one together from its fields.
* `Decoder.record_reads` — the decoder of records.
-/

namespace RemoteConsole.Json

variable {α β σ : Type}

/-- A list of values, each of which stands for something: what a decoder of
lists reads, given what its decoder of items reads. -/
def Tree.IsList (P : Tree → α → Prop) (t : Tree) (as : List α) : Prop :=
  ∃ items, t = .list items ∧ List.Forall₂ P items as

/-- Items as members of a list. The grammar writes the parts of lists and
objects alike, so an item is a part whose key has no bytes. -/
def items (ts : List Tree) : List (List UInt8 × Tree) :=
  ts.map fun t => ([], t)

/-- The items of a list are the values of its members. This is how a list in the
grammar, which has parts, is seen as the list of trees that a decoder is told
about. -/
theorem map_snd_items (ts : List Tree) : (items ts).map Prod.snd = ts := by
  simp [items, Function.comp_def]

/-- The members of a list have no keys, so they are the items they hold. The
frame is an equation and not an index here, since the grammar's own recursion is
over the parts of either kind of frame. -/
theorem PartsAt.eq_items : ∀ {f : Frame} {first : Bool} {bytes rest : List UInt8}
    {parts : List (List UInt8 × Tree)}, PartsAt f first bytes parts rest → f = .list →
      parts = items (parts.map Prod.snd) := by
  intro f first bytes rest parts h hList
  subst hList
  induction parts generalizing first bytes with
  | nil => rfl
  | cons p parts ih =>
    cases h with
    | part _ hPart hParts =>
      cases hPart with
      | item _ => rw [List.map_cons, items, List.map_cons, ← items, ← ih hParts]

/-- Items between brackets are a list. `ValueAt.list` states this for parts; the
two agree as items are parts without keys. -/
theorem ValueAt.of_items {bytes rest : List UInt8} {ts : List Tree}
    (h : PartsAt .list true bytes (items ts) rest) :
    ValueAt ('['.toUInt8 :: bytes) (.list ts) rest := by
  have hList := ValueAt.list h
  rwa [map_snd_items] at hList

namespace Decoder

variable {bytes mid rest : List UInt8} {first : Bool} {a : α} {P : Tree → α → Prop} {d : Decoder α}

/-! ## Lists -/

/-- The end of a list is read exactly at its closing bracket, white space aside.
A comma there has errors of its own, one for a trailing comma and one for more
items than were asked for, but none of them is a value. -/
theorem endList_eq_ok_iff : endList bytes = .ok ((), rest) ↔ Space bytes (']'.toUInt8 :: rest) := by
  constructor
  · intro h
    obtain ⟨b, more, hSpace, -, h⟩ := token_bind_eq_ok.mp h
    split at h
    · next hCloser =>
      obtain rfl := eq_of_beq hCloser
      cases h
      exact hSpace
    split at h
    -- a comma: both of its cases fail
    · obtain ⟨o, mid, -, h⟩ := bind_eq_ok.mp (advance_bind _ _ ▸ h)
      split at h <;> cases h
    · cases h
  · intro hSpace
    exact token_bind_eq_ok.mpr ⟨_, _, hSpace, by decide, rfl⟩

/-- There is no next item exactly at the closing bracket, which is left where it
is: `endList` takes it. A comma cannot lead there, so a trailing comma is not an
end. -/
theorem nextElement_eq_none_iff :
    nextElement first d bytes = .ok (none, mid) ↔
      ∃ more, mid = ']'.toUInt8 :: more ∧ Space bytes mid := by
  -- an item that is read is not none
  have hSome : ∀ {bytes : List UInt8}, (do return some (← d) : Decoder (Option α)) bytes ≠ .ok (none, mid) :=
    bind_ne_ok fun _ _ h => nomatch h
  constructor
  · intro h
    obtain ⟨b, more, hSpace, -, h⟩ := token_bind_eq_ok.mp h
    split at h
    · next hCloser =>
      obtain rfl := eq_of_beq hCloser
      cases h
      exact ⟨more, rfl, hSpace⟩
    split at h
    · exact absurd h hSome
    split at h
    -- behind a comma there is an item, or the reader fails
    · rw [advance_bind] at h
      obtain ⟨c, more, -, -, h⟩ := token_bind_eq_ok.mp h
      split at h
      · cases h
      · exact absurd h hSome
    · cases h
  · rintro ⟨more, rfl, hSpace⟩
    exact token_bind_eq_ok.mpr ⟨_, _, hSpace, by decide, rfl⟩

/-- A next item is a value behind what has to stand before it: white space
before the first item, and a comma as well before any other. -/
theorem exists_value_of_nextElement (hReads : d.Reads P) (h : nextElement first d bytes = .ok (some a, mid)) :
    ∃ start t, Lead first bytes start ∧ ValueAt start t mid ∧ P t a := by
  -- the item itself is read as its decoder reads
  have hSome : ∀ {bytes : List UInt8},
      (do return some (← d) : Decoder (Option α)) bytes = .ok (some a, mid) →
        ∃ start t, Space bytes start ∧ ValueAt start t mid ∧ P t a := by
    intro bytes h
    obtain ⟨_, _, hItem, h⟩ := bind_eq_ok.mp h
    cases h
    exact hReads.sound hItem
  obtain ⟨b, more, hSpace, -, h⟩ := token_bind_eq_ok.mp h
  split at h
  · cases h
  split at h
  · obtain ⟨start, t, hStart, hValue⟩ := hSome h
    exact ⟨start, t, by simpa [Lead, *] using hSpace.trans hStart, hValue⟩
  split at h
  · next hFirst hComma =>
    -- a comma is looked for only where the item is not the first
    obtain rfl := eq_of_beq hComma
    rw [advance_bind] at h
    obtain ⟨c, more', hSpace', -, h⟩ := token_bind_eq_ok.mp h
    split at h
    · cases h
    · obtain ⟨start, t, hStart, hValue⟩ := hSome h
      obtain rfl : first = false := by simpa using hFirst
      exact ⟨start, t, ⟨_, hSpace, hSpace'.trans hStart⟩, hValue⟩
  · cases h

/-- A value behind what has to stand before it is the next item. The value does
not start with the closing bracket, which is what the decoder looks for
first. -/
theorem nextElement_of_value {start : List UInt8} {t : Tree} (hReads : d.Reads P)
    (hLead : Lead first bytes start) (hValue : ValueAt start t mid) (hP : P t a) (hEnds : Ends mid) :
    nextElement first d bytes = .ok (some a, mid) := by
  have hItem := hReads.complete (.refl _) hValue hP hEnds
  obtain ⟨b, more, rfl, hb, hCloser⟩ := hValue.head
  have hNotCloser : (b == ']'.toUInt8) = false := beq_eq_false_iff_ne.mpr (hCloser .list)
  have hSome : (do return some (← d) : Decoder (Option α)) (b :: more) = .ok (some a, mid) :=
    bind_eq_ok.mpr ⟨a, mid, hItem, rfl⟩
  -- the first item follows at once, any other behind a comma, and the decoder
  -- branches in this order
  cases first with
  | true =>
    refine token_bind_eq_ok.mpr ⟨b, more, hLead, hb, ?_⟩
    rw [hNotCloser]
    exact hSome
  | false =>
    obtain ⟨behind, hComma, hSpace⟩ := hLead
    refine token_bind_eq_ok.mpr ⟨_, behind, hComma, by decide, ?_⟩
    change (advance >>= _) (','.toUInt8 :: behind) = _
    rw [advance_bind]
    refine token_bind_eq_ok.mpr ⟨b, more, hSpace, hb, ?_⟩
    rw [hNotCloser]
    exact hSome

/-- A decoder of what is left of a list up to its closing bracket. It stops
somewhere in the white space before the bracket, not at a place of its own, so
the two fields speak of the bracket that is to come. -/
structure ReadsItems (first : Bool) (d : Decoder α) (Q : List Tree → α → Prop) : Prop where
  sound : ∀ {bytes mid rest : List UInt8} {a : α}, d bytes = .ok (a, mid) →
    Space mid (']'.toUInt8 :: rest) → ∃ ts, PartsAt .list first bytes (items ts) rest ∧ Q ts a
  complete : ∀ {bytes rest : List UInt8} {ts : List Tree} {a : α},
    PartsAt .list first bytes (items ts) rest → Q ts a →
      ∃ mid, d bytes = .ok (a, mid) ∧ Space mid (']'.toUInt8 :: rest)

/-- A decoder reads items under any description of them that says the same. -/
theorem ReadsItems.congr {Q R : List Tree → α → Prop} (hItems : ReadsItems first d Q)
    (h : ∀ ts a, Q ts a ↔ R ts a) : ReadsItems first d R := by
  obtain rfl : Q = R := funext₂ fun ts a => propext (h ts a)
  exact hItems

/-- What the loop over the items reads are the items up to the bracket. The
induction is on the fuel; a turn that finds no item is at the bracket, and a
turn that finds one leaves the rest to the next. -/
theorem elements_sound (hReads : d.Reads P) {as : List α} {fuel : Nat}
    (h : elements d first fuel bytes = .ok (as, mid)) (hEnd : Space mid (']'.toUInt8 :: rest)) :
    ∃ ts, PartsAt .list first bytes (items ts) rest ∧ List.Forall₂ P ts as := by
  induction fuel generalizing first bytes as with
  | zero => cases h
  | succ fuel ih =>
    obtain ⟨o, next, hNext, h⟩ := bind_eq_ok.mp h
    cases o with
    | none =>
      cases h
      obtain ⟨more, rfl, hSpace⟩ := nextElement_eq_none_iff.mp hNext
      exact ⟨[], .close (hSpace.trans hEnd), .nil⟩
    | some a =>
      obtain ⟨as, _, hMore, h⟩ := bind_eq_ok.mp h
      cases h
      -- this item, and those that the next turns find
      obtain ⟨start, t, hLead, hValue, hP⟩ := exists_value_of_nextElement hReads hNext
      obtain ⟨ts, hParts, hAll⟩ := ih hMore
      exact ⟨t :: ts, .part hLead (.item hValue) hParts, .cons hP hAll⟩

/-- The loop reads all the items of a list. The induction is on the items, and
the fuel lasts since each of them takes a byte at least. -/
theorem elements_complete (hReads : d.Reads P) {ts : List Tree} {as : List α} {fuel : Nat}
    (h : PartsAt .list first bytes (items ts) rest) (hAll : List.Forall₂ P ts as) (hFuel : bytes.length < fuel) :
    ∃ mid, elements d first fuel bytes = .ok (as, mid) ∧ Space mid (']'.toUInt8 :: rest) := by
  induction hAll generalizing first bytes fuel with
  -- at the bracket the loop finds no next item and ends
  | nil =>
    cases h with
    | close hSpace =>
      obtain _ | fuel := fuel
      · omega
      · exact ⟨_, bind_eq_ok.mpr ⟨none, _, nextElement_eq_none_iff.mpr ⟨_, rfl, hSpace⟩, rfl⟩, .refl _⟩
  | cons hP _ ih =>
    cases h with
    | part hLead hPart hParts =>
      cases hPart with
      | item hValue =>
        obtain _ | fuel := fuel
        · omega
        · -- an item takes a byte at least, and a turn only
          have hLength := hLead.length_le
          have hShorter := hValue.length_lt
          obtain ⟨mid, hMore, hEnd⟩ := ih hParts (show _ < fuel by omega)
          have hNext := nextElement_of_value hReads hLead hValue hP hParts.ends
          exact ⟨mid, bind_eq_ok.mpr ⟨_, _, hNext, bind_eq_ok.mpr ⟨_, _, hMore, rfl⟩⟩, hEnd⟩

/-- With a turn more than there are bytes the loop over the items is a decoder
of the whole of a list. -/
theorem elements_readsItems (hReads : d.Reads P) :
    ReadsItems true (fun rest => elements d true (rest.length + 1) rest) (List.Forall₂ P) where
  sound h hEnd := elements_sound hReads h hEnd
  complete h hAll := elements_complete hReads h hAll (Nat.lt_succ_self _)

/-- A decoder of items between the brackets of a list reads exactly its items.
The nesting limit is on the way in only, so it is not part of what is read. -/
theorem within_endList_eq_ok_iff {Q : List Tree → α → Prop} (hItems : ReadsItems true d Q) :
    within endList d bytes = .ok (a, rest) ↔ ∃ ts, PartsAt .list true bytes (items ts) rest ∧ Q ts a := by
  rw [within_eq_ok]
  constructor
  · rintro ⟨mid, hBody, hEnd⟩
    exact hItems.sound hBody (endList_eq_ok_iff.mp hEnd)
  · rintro ⟨ts, hParts, hQ⟩
    obtain ⟨mid, hBody, hEnd⟩ := hItems.complete hParts hQ
    exact ⟨mid, hBody, endList_eq_ok_iff.mpr hEnd⟩

/-- A decoder of lists reads the lists whose items its decoder of items reads:
it accepts no other value, and it accepts every one of them, however its white
space is set. -/
theorem list_reads (hReads : d.Reads P) : (list d).Reads (Tree.IsList P) where
  sound h := by
    obtain ⟨b, more, hSpace, -, h⟩ := valueStart_bind_eq_ok.mp (placed_eq_ok.mp h)
    split at h
    · next hBracket =>
      obtain rfl := eq_of_beq hBracket
      rw [advance_bind] at h
      obtain ⟨ts, hParts, hAll⟩ := (within_endList_eq_ok_iff (elements_readsItems hReads)).mp h
      exact ⟨_, _, hSpace, .of_items hParts, ts, rfl, hAll⟩
    · exact absurd h unexpected_ne_ok
  complete hSpace hValue hList _ := by
    obtain ⟨ts, rfl, hAll⟩ := hList
    generalize hTree : Tree.list ts = t at hValue
    cases hValue with
    | list hParts =>
      obtain rfl := Tree.list.inj hTree
      -- a list has no keys, so its parts are its items
      rw [hParts.eq_items rfl] at hParts
      refine placed_eq_ok.mpr (valueStart_bind_eq_ok.mpr ⟨_, _, hSpace, by decide, ?_⟩)
      exact (within_endList_eq_ok_iff (elements_readsItems hReads)).mpr ⟨_, hParts, hAll⟩
    | _ => cases hTree

/-! ## Records from lists -/

/-- A record without fields is read from what is left of a list if nothing is
left. -/
theorem ReadsItems.pure (first : Bool) (a : α) :
    ReadsItems first (pure a) fun ts a' => ts = [] ∧ a' = a where
  sound h hEnd := by
    cases h
    exact ⟨[], .close hEnd, rfl, rfl⟩
  complete h hQ := by
    obtain ⟨rfl, rfl⟩ := hQ
    cases h with
    | close hSpace => exact ⟨_, rfl, hSpace⟩

/-- A field in front of what is left of a list: the first item is the field's,
and what the others have to be may depend on what the field is. -/
theorem ReadsItems.field (name : String) (index count : Nat) {f : α → Decoder β}
    {Q : α → List Tree → β → Prop} (hReads : d.Reads P) (hMore : ∀ a, ReadsItems false (f a) (Q a)) :
    ReadsItems (index == 0) (fieldInOrder name index count d >>= f) fun ts b =>
      ∃ t more a, ts = t :: more ∧ P t a ∧ Q a more b where
  sound h hEnd := by
    obtain ⟨a, next, hField, h⟩ := bind_eq_ok.mp h
    -- a field that is missing is an error, so there is an item
    obtain ⟨o, _, hNext, hField⟩ := bind_eq_ok.mp hField
    cases o with
    | none => cases hField
    | some a =>
      cases hField
      obtain ⟨start, t, hLead, hValue, hP⟩ := exists_value_of_nextElement hReads hNext
      obtain ⟨ts, hParts, hQ⟩ := (hMore a).sound h hEnd
      exact ⟨t :: ts, .part hLead (.item hValue) hParts, t, ts, a, rfl, hP, hQ⟩
  complete h hQ := by
    obtain ⟨t, more, a, rfl, hP, hQ⟩ := hQ
    cases h with
    | part hLead hPart hParts =>
      cases hPart with
      | item hValue =>
        obtain ⟨mid, hRest, hEnd⟩ := (hMore a).complete hParts hQ
        have hNext := nextElement_of_value hReads hLead hValue hP hParts.ends
        exact ⟨mid, bind_eq_ok.mpr ⟨a, _, bind_eq_ok.mpr ⟨some a, _, hNext, rfl⟩, hRest⟩, hEnd⟩

/-! ## Records from objects -/

/-- The end of an object is read exactly at its closing brace, white space
aside. -/
theorem endObject_eq_ok_iff :
    endObject bytes = .ok ((), rest) ↔ Space bytes ('\x7d'.toUInt8 :: rest) := by
  constructor
  · intro h
    obtain ⟨b, more, hSpace, -, h⟩ := token_bind_eq_ok.mp h
    split at h
    · next hCloser =>
      obtain rfl := eq_of_beq hCloser
      cases h
      exact hSpace
    split at h <;> cases h
  · intro hSpace
    exact token_bind_eq_ok.mpr ⟨_, _, hSpace, by decide, rfl⟩

/-- A key is followed by a colon, white space aside. -/
theorem colon_eq_ok_iff : colon bytes = .ok ((), rest) ↔ Space bytes (':'.toUInt8 :: rest) := by
  constructor
  · intro h
    obtain ⟨b, more, hSpace, -, h⟩ := token_bind_eq_ok.mp h
    split at h
    · next hColon =>
      obtain rfl := eq_of_beq hColon
      cases h
      exact hSpace
    · cases h
  · intro hSpace
    exact token_bind_eq_ok.mpr ⟨_, _, hSpace, by decide, rfl⟩

/-- The rest of a key behind its first quotation mark is the spelling of some
text and the mark that ends it. -/
theorem someBody_eq_ok_iff {o : Option String} :
    (do return some (← stringBody) : Decoder (Option String)) bytes = .ok (o, mid) ↔
      ∃ key raw, o = some key ∧ Spells raw key.toList ∧ bytes = raw ++ '"'.toUInt8 :: mid := by
  constructor
  · intro h
    obtain ⟨key, _, hBody, h⟩ := bind_eq_ok.mp h
    cases h
    obtain ⟨raw, hSpells, rfl⟩ := stringBody_eq_ok_iff.mp hBody
    exact ⟨key, raw, rfl, hSpells, rfl⟩
  · rintro ⟨key, raw, rfl, hSpells, rfl⟩
    exact bind_eq_ok.mpr ⟨key, mid, stringBody_eq_ok_iff.mpr ⟨raw, hSpells, rfl⟩, rfl⟩

/-- What stands before a member is followed by its key, unless the object ends:
then the decoder stays at the closing brace. The proof follows the decoder
through its three branches, the end, the first member and a later one, which a
comma has to precede. -/
theorem nextKey_sound {o : Option String} (h : nextKey first bytes = .ok (o, mid)) :
    match o with
    | none => ∃ more, mid = '\x7d'.toUInt8 :: more ∧ Space bytes mid
    | some key => ∃ raw, Spells raw key.toList ∧
        Lead first bytes ('"'.toUInt8 :: (raw ++ '"'.toUInt8 :: mid)) := by
  obtain ⟨b, more, hSpace, -, h⟩ := token_bind_eq_ok.mp h
  split at h
  · next hCloser =>
    obtain rfl := eq_of_beq hCloser
    cases h
    exact ⟨more, rfl, hSpace⟩
  split at h
  -- the first member stands behind white space only
  · next hFirst =>
    split at h
    · next hMark =>
      obtain rfl := eq_of_beq hMark
      rw [advance_bind] at h
      obtain ⟨key, raw, rfl, hSpells, rfl⟩ := someBody_eq_ok_iff.mp h
      exact ⟨raw, hSpells, by rw [hFirst]; exact hSpace⟩
    · cases h
  next hFirst =>
  split at h
  -- any other member stands behind a comma, and a closing brace may not follow
  -- it
  · next hComma =>
    obtain rfl := eq_of_beq hComma
    rw [advance_bind] at h
    obtain ⟨c, more', hSpace', -, h⟩ := token_bind_eq_ok.mp h
    split at h
    · next hMark =>
      obtain rfl := eq_of_beq hMark
      rw [advance_bind] at h
      obtain ⟨key, raw, rfl, hSpells, rfl⟩ := someBody_eq_ok_iff.mp h
      obtain rfl : first = false := by simpa using hFirst
      exact ⟨raw, hSpells, _, hSpace, hSpace'⟩
    · split at h <;> cases h
  · cases h

theorem nextKey_of_closer (hSpace : Space bytes ('\x7d'.toUInt8 :: rest)) :
    nextKey first bytes = .ok (none, '\x7d'.toUInt8 :: rest) :=
  token_bind_eq_ok.mpr ⟨_, _, hSpace, by decide, rfl⟩

/-- A key behind what has to stand before it is read as the text it spells. -/
theorem nextKey_of_lead {key : String} {raw : List UInt8} (hSpells : Spells raw key.toList)
    (hLead : Lead first bytes ('"'.toUInt8 :: (raw ++ '"'.toUInt8 :: mid))) :
    nextKey first bytes = .ok (some key, mid) := by
  have hBody : (do return some (← stringBody) : Decoder (Option String)) (raw ++ '"'.toUInt8 :: mid) =
      .ok (some key, mid) :=
    someBody_eq_ok_iff.mpr ⟨key, raw, rfl, hSpells, rfl⟩
  cases first with
  | true => exact token_bind_eq_ok.mpr ⟨_, _, hLead, by decide, hBody⟩
  | false =>
    obtain ⟨behind, hComma, hSpace⟩ := hLead
    refine token_bind_eq_ok.mpr ⟨_, _, hComma, by decide, ?_⟩
    exact token_bind_eq_ok.mpr ⟨_, _, hSpace, by decide, hBody⟩

end Decoder

/-- What a record makes of the value of a member: it changes what is known, or
it may not be there. A member that is passed over changes nothing, whatever its
value is. -/
def Member.Takes (m : Member σ) (s : σ) (effect : Tree → σ → Prop) : Prop :=
  match m with
  | .field d => d.Reads effect
  | .repeated => ∀ t s', ¬ effect t s'
  | .unknown => ∀ t s', effect t s' ↔ s' = s

/-- The members of an object with the texts of their keys. A key may be spelled
with escapes, so parts with different bytes may have the same key. -/
def Named (parts : List (List UInt8 × Tree)) (members : List (String × Tree)) : Prop :=
  List.Forall₂ (fun p m => Spells p.1 m.1.toList ∧ p.2 = m.2) parts members

/-- Members change what is known of a record one after the other. -/
inductive Fills (effect : σ → String → Tree → σ → Prop) : σ → List (String × Tree) → σ → Prop
  | nil (s : σ) : Fills effect s [] s
  | cons {s s' s'' : σ} {key : String} {t : Tree} {members : List (String × Tree)} :
      effect s key t s' → Fills effect s' members s'' → Fills effect s ((key, t) :: members) s''

namespace Decoder

variable {bytes mid rest : List UInt8} {first : Bool} {member : σ → String → Member σ}
  {effect : σ → String → Tree → σ → Prop} {s s' : σ}

/-- What the loop over the members reads are the members up to the brace, and
what is known of the record in the end is what they make of it. The induction is
on the fuel, and the cases are those of a member: a field reads its value, a
repeated one fails, and a member that is passed over is a value all the same. -/
theorem members_sound (hTakes : ∀ s key, (member s key).Takes s (effect s key)) {fuel : Nat}
    (h : members member s first fuel bytes = .ok (s', mid)) (hEnd : Space mid ('\x7d'.toUInt8 :: rest)) :
    ∃ parts members, PartsAt .object first bytes parts rest ∧ Named parts members ∧
      Fills effect s members s' := by
  induction fuel generalizing first bytes s with
  | zero => cases h
  | succ fuel ih =>
    obtain ⟨o, behind, hKey, h⟩ := bind_eq_ok.mp h
    have hSound := nextKey_sound hKey
    cases o with
    | none =>
      cases h
      obtain ⟨more, rfl, hSpace⟩ := hSound
      exact ⟨[], [], .close (hSpace.trans hEnd), .nil, .nil s'⟩
    | some key =>
      obtain ⟨raw, hSpells, hLead⟩ := hSound
      have hMember := hTakes s key
      -- what becomes of the value depends on what the record makes of its key
      cases hCase : member s key with
      | field d =>
        rw [hCase] at hMember
        simp only [hCase] at h
        obtain ⟨_, colon, hColon, h⟩ := bind_eq_ok.mp h
        obtain ⟨next, _, hValue, h⟩ := bind_eq_ok.mp h
        obtain ⟨start, t, hSpace, hValueAt, hEffect⟩ := hMember.sound hValue
        obtain ⟨parts, members, hParts, hNamed, hFills⟩ := ih h
        exact ⟨(raw, t) :: parts, (key, t) :: members,
          .part hLead (.entry hSpells.isContent (colon_eq_ok_iff.mp hColon) hSpace hValueAt) hParts,
          .cons ⟨hSpells, rfl⟩ hNamed, .cons hEffect hFills⟩
      | repeated =>
        simp only [hCase] at h
        cases h
      | unknown =>
        rw [hCase] at hMember
        simp only [hCase] at h
        obtain ⟨_, colon, hColon, h⟩ := bind_eq_ok.mp h
        obtain ⟨_, _, hSkip, h⟩ := bind_eq_ok.mp h
        obtain ⟨start, t, hSpace, hValueAt, -⟩ := skip_reads.sound hSkip
        obtain ⟨parts, members, hParts, hNamed, hFills⟩ := ih h
        exact ⟨(raw, t) :: parts, (key, t) :: members,
          .part hLead (.entry hSpells.isContent (colon_eq_ok_iff.mp hColon) hSpace hValueAt) hParts,
          .cons ⟨hSpells, rfl⟩ hNamed, .cons ((hMember t s).mpr rfl) hFills⟩

/-- The loop takes in all the members of an object that make something of a
record. The induction is on what they do to it, with the fuel going down by a
member's bytes. -/
theorem members_complete (hTakes : ∀ s key, (member s key).Takes s (effect s key)) {fuel : Nat}
    {parts : List (List UInt8 × Tree)} {members : List (String × Tree)}
    (h : PartsAt .object first bytes parts rest) (hNamed : Named parts members)
    (hFills : Fills effect s members s') (hFuel : bytes.length < fuel) :
    ∃ mid, Decoder.members member s first fuel bytes = .ok (s', mid) ∧
      Space mid ('\x7d'.toUInt8 :: rest) := by
  induction hFills generalizing first bytes parts fuel with
  | nil s =>
    cases hNamed
    cases h with
    | close hSpace =>
      obtain _ | fuel := fuel
      · omega
      · exact ⟨_, bind_eq_ok.mpr ⟨none, _, nextKey_of_closer hSpace, rfl⟩, .refl _⟩
  | @cons s next s' key t members hEffect _ ih =>
    -- the first part spells the first key
    obtain _ | ⟨⟨hSpells, rfl⟩, hNamed⟩ := hNamed
    cases h with
    | part hLead hPart hParts =>
      have hShorter := hPart.length_lt
      cases hPart with
      | entry _ hColon hSpace hValue =>
        obtain _ | fuel := fuel
        · omega
        · have hLength := hLead.length_le
          obtain ⟨mid, hMore, hEnd⟩ := ih hParts hNamed (show _ < fuel by omega)
          -- the fuel left is enough for what follows; what is left is the
          -- member itself
          have hMember := hTakes s key
          refine ⟨mid, bind_eq_ok.mpr ⟨some key, _, nextKey_of_lead hSpells hLead, ?_⟩, hEnd⟩
          cases hCase : member s key with
          | field d =>
            rw [hCase] at hMember
            simp only [hCase]
            exact bind_eq_ok.mpr ⟨(), _, colon_eq_ok_iff.mpr hColon, bind_eq_ok.mpr
              ⟨next, _, hMember.complete hSpace hValue hEffect hParts.ends, hMore⟩⟩
          | repeated =>
            rw [hCase] at hMember
            exact absurd hEffect (hMember _ next)
          | unknown =>
            rw [hCase] at hMember
            simp only [hCase]
            obtain rfl := (hMember _ next).mp hEffect
            exact bind_eq_ok.mpr ⟨(), _, colon_eq_ok_iff.mpr hColon, bind_eq_ok.mpr
              ⟨(), _, skip_reads.complete hSpace hValue trivial hParts.ends, hMore⟩⟩

end Decoder

/-- A record as it may be written: an object whose members make it, in any order
and among others, or a list of its fields in their order. -/
def Shape.Written (shape : Shape σ α) (effect : σ → String → Tree → σ → Prop) (inOrder : List Tree → α → Prop)
    (t : Tree) (a : α) : Prop :=
  (∃ parts members s, t = .object parts ∧ Named parts members ∧ Fills effect shape.start members s ∧
      shape.build s = .ok a) ∨
    ∃ ts, t = .list ts ∧ inOrder ts a

namespace Decoder

/-- A decoder of records reads records as they may be written. What is left to
show of a record is what each of its members does and how it is read from a
list. -/
theorem record_reads {shape : Shape σ α} {effect : σ → String → Tree → σ → Prop}
    {inOrder : List Tree → α → Prop} (hTakes : ∀ s key, (shape.member s key).Takes s (effect s key))
    (hInOrder : ReadsItems true shape.inOrder inOrder) :
    (record shape).Reads (shape.Written effect inOrder) where
  sound {bytes rest a} h := by
    obtain ⟨b, more, hSpace, -, h⟩ := valueStart_bind_eq_ok.mp (placed_eq_ok.mp h)
    split at h
    · next hBracket =>
      obtain rfl := eq_of_beq hBracket
      rw [advance_bind] at h
      -- a record in brackets is read in the order of its fields
      obtain ⟨ts, hParts, hQ⟩ := (within_endList_eq_ok_iff hInOrder).mp h
      exact ⟨_, _, hSpace, .of_items hParts, .inr ⟨ts, rfl, hQ⟩⟩
    split at h
    · next hBrace =>
      obtain rfl := eq_of_beq hBrace
      rw [advance_bind] at h
      obtain ⟨mid, hBody, hEnd⟩ := within_eq_ok.mp h
      -- the members have been read; the record they make may still lack a field
      obtain ⟨s, next, hMembers, hBuild⟩ := bind_eq_ok.mp hBody
      cases hCase : shape.build s with
      | error m => simp only [hCase] at hBuild; cases hBuild
      | ok a' =>
        simp only [hCase] at hBuild
        cases hBuild
        obtain ⟨parts, members, hParts, hNamed, hFills⟩ :=
          members_sound hTakes hMembers (endObject_eq_ok_iff.mp hEnd)
        exact ⟨_, _, hSpace, .object hParts, .inl ⟨parts, members, s, rfl, hNamed, hFills, hCase⟩⟩
    · exact absurd h unexpected_ne_ok
  complete {bytes start rest t a} hSpace hValue hWritten _ := by
    rcases hWritten with ⟨parts, members, s, rfl, hNamed, hFills, hBuild⟩ | ⟨ts, rfl, hQ⟩
    · cases hValue with
      | object hParts =>
        refine placed_eq_ok.mpr (valueStart_bind_eq_ok.mpr ⟨_, _, hSpace, by decide, ?_⟩)
        obtain ⟨mid, hMembers, hEnd⟩ := members_complete hTakes hParts hNamed hFills
          (Nat.lt_succ_self _)
        refine within_eq_ok.mpr ⟨mid, bind_eq_ok.mpr ⟨s, mid, hMembers, ?_⟩, endObject_eq_ok_iff.mpr hEnd⟩
        simp only [hBuild]
        rfl
    · generalize hTree : Tree.list ts = t at hValue
      cases hValue with
      | list hParts =>
        obtain rfl := Tree.list.inj hTree
        rw [hParts.eq_items rfl] at hParts
        refine placed_eq_ok.mpr (valueStart_bind_eq_ok.mpr ⟨_, _, hSpace, by decide, ?_⟩)
        exact (within_endList_eq_ok_iff hInOrder).mpr ⟨_, hParts, hQ⟩
      | _ => cases hTree

end Decoder

/-! ## Fields -/

/-- The values of the members with a key, in the order of the members. -/
def values (name : String) (members : List (String × Tree)) : List Tree :=
  (members.filter fun m => m.1 = name).map Prod.snd

theorem values_cons_self (name : String) (t : Tree) (members : List (String × Tree)) :
    values name ((name, t) :: members) = t :: values name members := by
  simp [values]

theorem values_cons_of_ne {key name : String} (h : key ≠ name) (t : Tree)
    (members : List (String × Tree)) : values name ((key, t) :: members) = values name members := by
  simp [values, h]

/-- The values of a key are those of the members that spell it. As a spelling
stands for one text only, a member with another key is no spelling of this
one. -/
theorem Named.mem_values_iff {parts : List (List UInt8 × Tree)} {members : List (String × Tree)}
    (h : Named parts members) {name : String} {t : Tree} :
    t ∈ values name members ↔ ∃ key, (key, t) ∈ parts ∧ Spells key name.toList := by
  induction h with
  | nil => simp [values]
  | @cons p m parts members hPart _ ih =>
    obtain ⟨raw, t'⟩ := p
    obtain ⟨key, _⟩ := m
    obtain ⟨hSpells, rfl⟩ : Spells raw key.toList ∧ t' = _ := hPart
    -- a member counts by the text of its key, while the parts are compared by
    -- their bytes
    by_cases hName : key = name
    · subst hName
      rw [values_cons_self, List.mem_cons, ih]
      constructor
      · rintro (rfl | ⟨key, hMem, hKey⟩)
        · exact ⟨raw, List.mem_cons_self, hSpells⟩
        · exact ⟨key, List.mem_cons_of_mem _ hMem, hKey⟩
      · rintro ⟨key, hMem, hKey⟩
        rcases List.mem_cons.mp hMem with hHead | hMem
        · exact .inl (Prod.mk.inj hHead).2
        · exact .inr ⟨key, hMem, hKey⟩
    · rw [values_cons_of_ne hName, ih]
      constructor
      · rintro ⟨key, hMem, hKey⟩
        exact ⟨key, List.mem_cons_of_mem _ hMem, hKey⟩
      · rintro ⟨key', hMem, hKey⟩
        rcases List.mem_cons.mp hMem with hHead | hMem
        · obtain ⟨rfl, -⟩ := Prod.mk.inj hHead
          -- the same bytes cannot spell two keys
          exact absurd (String.toList_inj.mp (hSpells.unique hKey)) hName
        · exact ⟨key', hMem, hKey⟩

/-- What a field still asks of the values of its key: to be one value, or none
if the field is known. -/
def Due (P : Tree → β → Prop) (known : Option β) (ts : List Tree) (b : β) : Prop :=
  match known with
  | none => ∃ t, ts = [t] ∧ P t b
  | some b' => ts = [] ∧ b' = b

/-- A value that is due makes its field known, so no other is due behind it. -/
theorem Due.cons {P : Tree → β → Prop} {known : Option β} {t : Tree} {ts : List Tree} {b : β}
    (h : Due P known (t :: ts) b) : known = none ∧ P t b ∧ Due P (some b) ts b := by
  cases known with
  | none =>
    obtain ⟨t', hList, hP⟩ := h
    obtain ⟨rfl, rfl⟩ := List.cons.inj hList
    exact ⟨rfl, hP, rfl, rfl⟩
  | some b' => cases h.1

/-- Without further values the field has to be known. -/
theorem Due.nil {P : Tree → β → Prop} {known : Option β} {b : β} (h : Due P known [] b) :
    known = some b := by
  cases known with
  | none =>
    obtain ⟨t, hList, -⟩ := h
    cases hList
  | some b' => rw [h.2]

/-- What is known of a record holds a field: its own members set it, once, and
the others leave it. Every field of every record of the protocol is held in this
sense. -/
structure Holds (effect : σ → String → Tree → σ → Prop) (name : String) (get : σ → Option β)
    (P : Tree → β → Prop) : Prop where
  own : ∀ {s s' : σ} {t : Tree}, effect s name t s' → get s = none ∧ ∃ b, P t b ∧ get s' = some b
  other : ∀ {s s' : σ} {key : String} {t : Tree}, key ≠ name → effect s key t s' → get s' = get s

/-- A field that is known in the end has been there exactly once. The induction
is on the members, and what is carried is what the field still asks of the
members to come. -/
theorem Fills.due {effect : σ → String → Tree → σ → Prop} {name : String} {get : σ → Option β}
    {P : Tree → β → Prop} {s s' : σ} {members : List (String × Tree)} {b : β}
    (hHolds : Holds effect name get P) (h : Fills effect s members s') (hKnown : get s' = some b) :
    Due P (get s) (values name members) b := by
  induction h with
  | nil s =>
    rw [hKnown]
    exact ⟨rfl, rfl⟩
  | @cons s next s' key t members hEffect _ ih =>
    have hDue := ih hKnown
    by_cases hName : key = name
    · subst hName
      -- the member sets the field, so no later one has its key
      obtain ⟨hNone, b', hP, hNext⟩ := hHolds.own hEffect
      rw [hNext] at hDue
      obtain ⟨hNil, rfl⟩ := hDue
      rw [hNone, values_cons_self, hNil]
      exact ⟨t, rfl, hP⟩
    · rw [values_cons_of_ne hName, ← hHolds.other hName hEffect]
      exact hDue

end RemoteConsole.Json
