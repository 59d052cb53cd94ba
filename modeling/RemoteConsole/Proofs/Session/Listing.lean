import Mathlib.Data.List.Forall2
import RemoteConsole.Proofs.Json.Fields
import RemoteConsole.Proofs.Session.Id

/-!
# Which documents are listings

The decoder of listings reads an object with one list of sessions, each of them
an object with one id and one engine, among members that nobody looks at. It
also reads records that are written as lists of their fields, and does not look
whether the strings of other members are text: this is where it leaves the
documented form.

* `SessionSummary.Written`, `Listing.Written` — the values that are sessions and
  listings.
* `Listing.Documented` — the documented form of a body.
* `Listing.decode_eq_ok_iff_written` — what bodies are listings.
* `Listing.decode_text` — written listings are read back.
-/

namespace RemoteConsole

open Json (Decoder Named values Due Fills Holds Document Member)

/-! ## Sessions -/

namespace SessionSummary

/-- What the value of a key changes in what is known of a session. -/
def effect (d : Draft) (key : String) (t : Json.Tree) (d' : Draft) : Prop :=
  if key = "id" then d.id = none ∧ ∃ id, SessionId.Written t id ∧ d' = { d with id := some id }
  else if key = "engine" then d.engine = none ∧ ∃ e, t.IsString e ∧ d' = { d with engine := some e }
  else d' = d

/-- The record of a session takes its two fields and passes over everything
else. -/
theorem member_takes (d : Draft) (key : String) : (member d key).Takes d (effect d key) :=
  Member.takes_ite (fun _ => Member.takes_field SessionId.decoder_reads _ _ _) fun _ =>
  Member.takes_ite (fun _ => Member.takes_field Decoder.string_reads _ _ _) fun _ =>
  Member.takes_unknown d

/-- What is known of a session holds its id. -/
theorem holds_id : Holds effect "id" Draft.id SessionId.Written where
  own h := by
    obtain ⟨hNone, id, hWritten, rfl⟩ : _ ∧ _ := h
    exact ⟨hNone, id, hWritten, rfl⟩
  other hKey h := by
    unfold effect at h
    rw [if_neg hKey] at h
    split at h
    · obtain ⟨-, engine, -, rfl⟩ := h
      rfl
    · rw [h]

/-- What is known of a session holds its engine. -/
theorem holds_engine : Holds effect "engine" Draft.engine Json.Tree.IsString where
  own h := by
    obtain ⟨hNone, engine, hString, rfl⟩ : _ ∧ _ := h
    exact ⟨hNone, engine, hString, rfl⟩
  other hKey h := by
    unfold effect at h
    rw [if_neg hKey] at h
    split at h
    · obtain ⟨-, id, -, rfl⟩ := h
      rfl
    · rw [h]

/-- Members among which every missing field stands once make a session. The
induction is on the members, with what is known so far; each field is due until
its member has come. -/
theorem fills_of_due {id : SessionId} {engine : String} {members : List (String × Json.Tree)} {d : Draft}
    (hId : Due SessionId.Written d.id (values "id" members) id)
    (hEngine : Due Json.Tree.IsString d.engine (values "engine" members) engine) :
    Fills effect d members ⟨some id, some engine⟩ := by
  induction members generalizing d with
  | nil =>
    obtain ⟨dId, dEngine⟩ := d
    obtain rfl : dId = some id := hId.nil
    obtain rfl : dEngine = some engine := hEngine.nil
    exact .nil _
  | cons m members ih =>
    obtain ⟨key, t⟩ := m
    -- along the members: one with the key of a field makes it known, and any
    -- other is passed over
    by_cases hKeyId : key = "id"
    · subst hKeyId
      rw [Json.values_cons_self] at hId
      rw [Json.values_cons_of_ne (by decide)] at hEngine
      obtain ⟨hNone, hWritten, hRest⟩ := hId.cons
      exact .cons (show effect d "id" t { d with id := some id } from ⟨hNone, id, hWritten, rfl⟩)
        (ih hRest hEngine)
    -- the same for the other field
    by_cases hKeyEngine : key = "engine"
    · subst hKeyEngine
      rw [Json.values_cons_of_ne (by decide)] at hId
      rw [Json.values_cons_self] at hEngine
      obtain ⟨hNone, hString, hRest⟩ := hEngine.cons
      exact .cons (show effect d "engine" t { d with engine := some engine } from
        ⟨hNone, engine, hString, rfl⟩) (ih hId hRest)
    · rw [Json.values_cons_of_ne hKeyId] at hId
      rw [Json.values_cons_of_ne hKeyEngine] at hEngine
      have hEffect : effect d key t d := by
        unfold effect
        rw [if_neg hKeyId, if_neg hKeyEngine]
      exact .cons hEffect (ih hId hEngine)

/-- A value is a session: an object with its id and its engine, each of them
once, among others; or, if records may be lists, a list of the two. -/
inductive Written (asLists : Bool) : Json.Tree → SessionSummary → Prop
  | named {parts : List (List UInt8 × Json.Tree)} {members : List (String × Json.Tree)} {i e : Json.Tree}
      {s : SessionSummary} :
      Named parts members → values "id" members = [i] → SessionId.Written i s.id →
        values "engine" members = [e] → e.IsString s.engine → Written asLists (.object parts) s
  | inOrder {i e : Json.Tree} {s : SessionSummary} :
      asLists = true → SessionId.Written i s.id → e.IsString s.engine → Written asLists (.list [i, e]) s

/-- A session that is written as a list has its id first and its engine second,
and nothing else. -/
theorem inOrder_readsItems :
    Decoder.ReadsItems true shape.inOrder fun ts s =>
      ∃ i e, ts = [i, e] ∧ SessionId.Written i s.id ∧ e.IsString s.engine := by
  have hFields := Decoder.ReadsItems.field "SessionSummary" 0 2 SessionId.decoder_reads fun id =>
    Decoder.ReadsItems.field "SessionSummary" 1 2 Decoder.string_reads fun engine =>
      .pure false (SessionSummary.mk id engine)
  refine hFields.congr fun ts s => ⟨?_, ?_⟩
  · rintro ⟨i, _, id, rfl, hId, e, _, engine, rfl, hEngine, rfl, rfl⟩
    exact ⟨i, e, rfl, hId, hEngine⟩
  · rintro ⟨i, e, rfl, hId, hEngine⟩
    exact ⟨i, [e], s.id, rfl, hId, e, [], s.engine, rfl, hEngine, rfl, rfl⟩

/-- The two ways in which the record of a session may be written are those of
`Written`, with lists allowed. -/
theorem written_iff (t : Json.Tree) (s : SessionSummary) :
    shape.Written effect (fun ts s => ∃ i e, ts = [i, e] ∧ SessionId.Written i s.id ∧ e.IsString s.engine) t s ↔
      Written true t s := by
  constructor
  · rintro (⟨parts, members, d, rfl, hNamed, hFills, hBuild⟩ | ⟨ts, rfl, i, e, rfl, hId, hEngine⟩)
    -- the record is complete if both of its fields are known
    · obtain ⟨id, engine, hdId, hdEngine, rfl⟩ :
          ∃ id engine, d.id = some id ∧ d.engine = some engine ∧ s = ⟨id, engine⟩ := by
        change build d = .ok s at hBuild
        unfold build at hBuild
        split at hBuild
        · cases hBuild
        · cases hBuild
        · next id engine hId hEngine =>
          cases hBuild
          exact ⟨id, engine, hId, hEngine, rfl⟩
      -- what is known in the end has come from one member each
      obtain ⟨i, hi, hId⟩ := hFills.due holds_id hdId
      obtain ⟨e, he, hEngine⟩ := hFills.due holds_engine hdEngine
      exact .named hNamed hi hId he hEngine
    · exact .inOrder rfl hId hEngine
  · intro h
    cases h with
    | named hNamed hi hId he hEngine =>
      have hFills := fills_of_due (d := shape.start) ⟨_, hi, hId⟩ ⟨_, he, hEngine⟩
      exact .inl ⟨_, _, _, rfl, hNamed, hFills, rfl⟩
    | inOrder _ hId hEngine => exact .inr ⟨_, rfl, _, _, rfl, hId, hEngine⟩

/-- The decoder of sessions reads sessions, in which the record may be a
list. -/
theorem decoder_reads : decoder.Reads (Written true) :=
  (Decoder.record_reads member_takes inOrder_readsItems).congr written_iff

/-- A written session is an object with both fields. -/
theorem written_tree (s : SessionSummary) : Written false s.toValue.tree s :=
  .named (Json.Value.named_entries _) (by simp [values]) (Json.Value.isNatural_tree _) (by simp [values])
    (Json.Value.isString_tree _)

/-- A session whose record is an object is one whose record is no list. -/
theorem written_false_iff {t : Json.Tree} {s : SessionSummary} :
    Written false t s ↔ (∀ fields, t ≠ .list fields) ∧ Written true t s := by
  constructor
  · intro h
    cases h with
    | named hNamed hi hId he hEngine => exact ⟨nofun, .named hNamed hi hId he hEngine⟩
    | inOrder hLists _ _ => cases hLists
  · rintro ⟨hNone, h⟩
    cases h with
    | named hNamed hi hId he hEngine => exact .named hNamed hi hId he hEngine
    | inOrder _ _ _ => exact absurd rfl (hNone _)

/-- Sessions whose records are objects are sessions of which no record is a
list. -/
theorem forall₂_written_false_iff {ts : List Json.Tree} {sessions : List SessionSummary} :
    List.Forall₂ (Written false) ts sessions ↔
      (∀ fields, .list fields ∉ ts) ∧ List.Forall₂ (Written true) ts sessions := by
  have hEach : Written false = fun t s => (∀ fields, t ≠ .list fields) ∧ Written true t s :=
    funext₂ fun _ _ => propext written_false_iff
  rw [hEach, List.forall₂_and_left]
  refine and_congr_left fun _ => ⟨fun h fields hMem => h _ hMem fields rfl, ?_⟩
  rintro h _ hMem fields rfl
  exact h fields hMem

end SessionSummary

/-! ## Listings -/

namespace Listing

/-- What the value of a key changes in what is known of a listing. -/
def effect (d : Option (List SessionSummary)) (key : String) (t : Json.Tree)
    (d' : Option (List SessionSummary)) : Prop :=
  if key = "sessions" then
    d = none ∧ ∃ sessions, t.IsList (SessionSummary.Written true) sessions ∧ d' = some sessions
  else d' = d

/-- The record of a listing takes its one field and passes over everything
else. -/
theorem member_takes (d : Option (List SessionSummary)) (key : String) :
    (member d key).Takes d (effect d key) :=
  Member.takes_ite (fun _ => Member.takes_field (Decoder.list_reads SessionSummary.decoder_reads) _ _ _) fun _ =>
  Member.takes_unknown d

/-- What is known of a listing holds its sessions. -/
theorem holds_sessions :
    Holds effect "sessions" (fun d => d) (Json.Tree.IsList (SessionSummary.Written true)) where
  own h := by
    obtain ⟨hNone, sessions, hList, rfl⟩ : _ ∧ _ := h
    exact ⟨hNone, sessions, hList, rfl⟩
  other hKey h := by
    unfold effect at h
    rw [if_neg hKey] at h
    exact h

/-- Members among which the list of sessions stands once make a listing. The
induction is the one for sessions, with a single field. -/
theorem fills_of_due {sessions : List SessionSummary} {members : List (String × Json.Tree)}
    {d : Option (List SessionSummary)}
    (h : Due (Json.Tree.IsList (SessionSummary.Written true)) d (values "sessions" members) sessions) :
    Fills effect d members (some sessions) := by
  induction members generalizing d with
  | nil =>
    obtain rfl : d = some sessions := h.nil
    exact .nil _
  | cons m members ih =>
    obtain ⟨key, t⟩ := m
    -- a member with the key gives the list, and any other is passed over
    by_cases hKey : key = "sessions"
    · subst hKey
      rw [Json.values_cons_self] at h
      obtain ⟨hNone, hList, hRest⟩ := h.cons
      exact .cons (show effect d "sessions" t (some sessions) from ⟨hNone, sessions, hList, rfl⟩) (ih hRest)
    · rw [Json.values_cons_of_ne hKey] at h
      have hEffect : effect d key t d := by
        unfold effect
        rw [if_neg hKey]
      exact .cons hEffect (ih h)

/-- A value is a listing: an object with one list of sessions, among others; or,
if records may be lists, a list of that list. -/
inductive Written (asLists : Bool) : Json.Tree → Listing → Prop
  | named {parts : List (List UInt8 × Json.Tree)} {members : List (String × Json.Tree)} {v : Json.Tree}
      {l : Listing} :
      Named parts members → values "sessions" members = [v] →
        v.IsList (SessionSummary.Written asLists) l.sessions → Written asLists (.object parts) l
  | inOrder {v : Json.Tree} {l : Listing} :
      asLists = true → v.IsList (SessionSummary.Written asLists) l.sessions → Written asLists (.list [v]) l

/-- The documented form is one of those that are read. -/
theorem Written.mono {t : Json.Tree} {l : Listing} (h : Written false t l) : Written true t l := by
  cases h with
  | named hNamed hv hList =>
    obtain ⟨ts, rfl, hAll⟩ := hList
    exact .named hNamed hv ⟨ts, rfl, (SessionSummary.forall₂_written_false_iff.mp hAll).2⟩
  | inOrder hLists _ => cases hLists

/-- A listing that is written as a list has its sessions as the only item. -/
theorem inOrder_readsItems :
    Decoder.ReadsItems true shape.inOrder fun ts l =>
      ∃ v, ts = [v] ∧ v.IsList (SessionSummary.Written true) l.sessions := by
  have hFields := Decoder.ReadsItems.field "SessionList" 0 1
    (Decoder.list_reads SessionSummary.decoder_reads) fun sessions => .pure false (Listing.mk sessions)
  refine hFields.congr fun ts l => ⟨?_, ?_⟩
  · rintro ⟨v, _, sessions, rfl, hList, rfl, rfl⟩
    exact ⟨v, rfl, hList⟩
  · rintro ⟨v, rfl, hList⟩
    exact ⟨v, [], l.sessions, rfl, hList, rfl, rfl⟩

/-- The two ways in which the record of a listing may be written are those of
`Written`, with lists allowed. -/
theorem written_iff (t : Json.Tree) (l : Listing) :
    shape.Written effect (fun ts l => ∃ v, ts = [v] ∧ v.IsList (SessionSummary.Written true) l.sessions) t l ↔
      Written true t l := by
  constructor
  · rintro (⟨parts, members, d, rfl, hNamed, hFills, hBuild⟩ | ⟨ts, rfl, v, rfl, hList⟩)
    · obtain ⟨sessions, rfl, rfl⟩ : ∃ sessions, d = some sessions ∧ l = ⟨sessions⟩ := by
        cases d with
        | none => cases hBuild
        | some sessions => cases hBuild; exact ⟨sessions, rfl, rfl⟩
      obtain ⟨v, hv, hList⟩ := hFills.due holds_sessions rfl
      exact .named hNamed hv hList
    · exact .inOrder rfl hList
  · intro h
    cases h with
    | named hNamed hv hList =>
      exact .inl ⟨_, _, _, rfl, hNamed, fills_of_due ⟨_, hv, hList⟩, rfl⟩
    | inOrder _ hList => exact .inr ⟨_, rfl, _, rfl, hList⟩

/-- The decoder of listings reads listings, in which records may be lists. -/
theorem decoder_reads : decoder.Reads (Written true) :=
  (Decoder.record_reads member_takes inOrder_readsItems).congr written_iff

/-! ## What bodies are listings -/

/-- A body of the documented form: text that is a document and a listing, in
which all records are objects. -/
def Documented (body : List UInt8) (l : Listing) : Prop :=
  (∃ text, Utf8.decode? body = .ok text) ∧ ∃ t, Document body t ∧ Written false t l

/-- A record is written as a list: the listing itself, or one of its
sessions. -/
def ListsRecord (t : Json.Tree) : Prop :=
  (∃ ts, t = .list ts) ∨
    ∃ parts key ts fields, t = .object parts ∧ (key, .list ts) ∈ parts ∧
      Json.Spells key "sessions".toList ∧ .list fields ∈ ts

/-- In a listing with its one list of sessions, the list of records is found in
that list only. -/
theorem listsRecord_object_iff {parts : List (List UInt8 × Json.Tree)} {members : List (String × Json.Tree)}
    {ts : List Json.Tree} (hNamed : Named parts members) (hValues : values "sessions" members = [.list ts]) :
    ListsRecord (.object parts) ↔ ∃ fields, .list fields ∈ ts := by
  constructor
  · rintro (⟨_, hTree⟩ | ⟨_, key, ts', fields, hTree, hPart, hSpells, hFields⟩)
    · cases hTree
    · cases hTree
      -- a member that spells the key is the one that counts, as there is no
      -- other
      have hMember := hNamed.mem_values_iff.mpr ⟨key, hPart, hSpells⟩
      rw [hValues, List.mem_singleton, Json.Tree.list.injEq] at hMember
      exact ⟨fields, hMember ▸ hFields⟩
  · rintro ⟨fields, hFields⟩
    obtain ⟨key, hPart, hSpells⟩ := hNamed.mem_values_iff.mp (hValues ▸ List.mem_singleton_self _)
    exact .inr ⟨parts, key, ts, fields, rfl, hPart, hSpells, hFields⟩

/-- A listing in which all records are objects is one in which no record is a
list. -/
theorem written_false_iff {t : Json.Tree} {l : Listing} :
    Written false t l ↔ Written true t l ∧ ¬ ListsRecord t := by
  constructor
  · intro h
    refine ⟨h.mono, ?_⟩
    cases h with
    | named hNamed hv hList =>
      obtain ⟨ts, rfl, hAll⟩ := hList
      -- the listing is an object, so only one of its sessions could be a list
      rw [listsRecord_object_iff hNamed hv, not_exists]
      exact (SessionSummary.forall₂_written_false_iff.mp hAll).1
    | inOrder hLists _ => cases hLists
  · rintro ⟨h, hNone⟩
    cases h with
    | named hNamed hv hList =>
      obtain ⟨ts, rfl, hAll⟩ := hList
      rw [listsRecord_object_iff hNamed hv, not_exists] at hNone
      exact .named hNamed hv ⟨ts, rfl, SessionSummary.forall₂_written_false_iff.mpr ⟨hNone, hAll⟩⟩
    | inOrder _ _ => exact absurd (.inl ⟨_, rfl⟩) hNone

/-- **What bodies are listings.** A body is read as a listing exactly if it is a
document that is that listing, with records that may be lists; every other body
is malformed. So reading takes the documented form and nothing else, unless the
body is a listing with a record that is a list, or one that is no text. -/
theorem decode_eq_ok_iff_written (body : List UInt8) :
    (∀ l, decode body = .ok l ↔ ∃ t, Document body t ∧ Written true t l) ∧
      ((∃ m, decode body = .error m) ↔ ¬ ∃ t l, Document body t ∧ Written true t l) ∧
      ((∀ l, decode body = .ok l ↔ Documented body l) ↔
        ¬ ∃ t l, Document body t ∧ Written true t l ∧
          (ListsRecord t ∨ ∀ text, Utf8.decode? body ≠ .ok text)) := by
  -- the first part gives the other two
  have hOk : ∀ l, decode body = .ok l ↔ ∃ t, Document body t ∧ Written true t l :=
    fun l => decoder_reads.run_eq_ok_iff body l
  refine ⟨hOk, ?_, ?_⟩
  · cases hDecode : decode body with
    | ok l =>
      obtain ⟨t, hWritten⟩ := (hOk l).mp hDecode
      exact iff_of_false nofun (not_not_intro ⟨t, l, hWritten⟩)
    | error m =>
      refine iff_of_true ⟨m, rfl⟩ ?_
      rintro ⟨t, l, hWritten⟩
      rw [(hOk l).mpr ⟨t, hWritten⟩] at hDecode
      cases hDecode
  · constructor
    · rintro hAgree ⟨t, l, hDocument, hWritten, hOdd⟩
      obtain ⟨⟨text, hText⟩, t', hDocument', hWritten'⟩ :=
        (hAgree l).mp ((hOk l).mpr ⟨t, hDocument, hWritten⟩)
      -- both forms speak of one value, as a body is one document only
      obtain rfl := hDocument.unique hDocument'
      exact hOdd.elim (written_false_iff.mp hWritten').2 fun hNone => hNone text hText
    · intro hNone l
      rw [hOk]
      constructor
      · rintro ⟨t, hDocument, hWritten⟩
        -- nothing odd is in this body, by the condition
        have hPlain : ¬ ListsRecord t := fun h => hNone ⟨t, l, hDocument, hWritten, .inl h⟩
        have hText : ¬ ∀ text, Utf8.decode? body ≠ .ok text :=
          fun h => hNone ⟨t, l, hDocument, hWritten, .inr h⟩
        exact ⟨not_forall_not.mp hText, t, hDocument, written_false_iff.mpr ⟨hWritten, hPlain⟩⟩
      · rintro ⟨-, t, hDocument, hWritten⟩
        exact ⟨t, hDocument, hWritten.mono⟩

/-- Two pairs of brackets are read as the empty listing, and are not of its
documented form. -/
theorem not_documented_of_brackets :
    decode (Json.ascii ['[', '[', ']', ']']) = .ok ⟨[]⟩ ∧
      ¬ Documented (Json.ascii ['[', '[', ']', ']']) ⟨[]⟩ := by
  have hDocument : Document (Json.ascii ['[', '[', ']', ']']) (.list [.list []]) :=
    ⟨_, [], .refl _, .list (.part (Json.Space.refl _) (.item (.list (.close (.refl _)))) (.close (.refl _))),
      .refl _⟩
  constructor
  · rfl
  · rintro ⟨-, t, hDocument', hWritten⟩
    obtain rfl := hDocument.unique hDocument'
    exact (written_false_iff.mp hWritten).2 (.inl ⟨_, rfl⟩)

/-! ## Written listings are read back -/

/-- A written listing is an object with its list. -/
theorem written_tree (l : Listing) : Written false l.toValue.tree l := by
  have hList : (Json.Value.list (l.sessions.map SessionSummary.toValue)).tree.IsList
      (SessionSummary.Written false) l.sessions := by
    rw [Json.Value.tree, Json.Value.trees_eq_map, List.map_map]
    refine ⟨_, rfl, List.forall₂_map_left_iff.mpr (List.forall₂_same.mpr fun s _ => ?_)⟩
    exact SessionSummary.written_tree s
  exact .named (Json.Value.named_entries _) (by simp [values]) hList

/-- Reading undoes writing: the bytes of a listing's text are read as that
listing. -/
theorem decode_text (l : Listing) : decode (Utf8.encode l.text.toList) = .ok l := by
  refine (decoder_reads.run_eq_ok_iff _ l).mpr ⟨l.toValue.tree, ?_, (written_tree l).mono⟩
  rw [text, String.toList_ofList]
  exact Json.Value.document_indented l.toValue

end Listing

end RemoteConsole
