import RemoteConsole.Proofs.Session.Id
import RemoteConsole.Proofs.Text.Separated
import RemoteConsole.Settings.Validity

/-!
# The address of a session

The address of a request is put together from the settings: the host and the
port, the context, and a route. The general syntax of addresses takes it apart
again, by its signs alone. A question mark or a number sign in the context ends
the path there, and settings with such a context are valid all the same.

* `Address`, `Address.split?` — the parts of an address, and the ones that a
  text has.
* `Connection.toList_url` — the address of a session, sign by sign.
* `Settings.split_url_iff` — which valid settings give the address that is
  meant.
-/

namespace RemoteConsole

open Json (decimal)

/-! ## The parts of an address -/

namespace Url

theorem ne_of_not_mem {mark : Char} {text : List Char} (h : mark ∉ text) :
    ∀ c ∈ text, decide (c ≠ mark) = true := by
  intro c hc
  exact decide_eq_true (ne_of_mem_of_not_mem hc h)

/-- A text without the mark is not divided. -/
theorem splitAt_of_not_mem {mark : Char} {text : List Char} (h : mark ∉ text) :
    splitAt mark text = (text, none) := by
  have hAll := ne_of_not_mem h
  have hTake : text.takeWhile (· ≠ mark) = text := List.takeWhile_eq_self_iff.mpr hAll
  have hDrop : text.dropWhile (· ≠ mark) = [] := List.dropWhile_eq_nil_iff.mpr hAll
  rw [splitAt, hTake, hDrop]
  rfl

/-- A text is divided at its first mark. -/
theorem splitAt_append {mark : Char} {before : List Char} (h : mark ∉ before) (behind : List Char) :
    splitAt mark (before ++ mark :: behind) = (before, some behind) := by
  have hAll := ne_of_not_mem h
  unfold splitAt
  rw [List.takeWhile_append_of_pos hAll, List.dropWhile_append_of_pos hAll]
  simp

/-- Nothing stands behind a mark exactly if the text does not hold it. -/
theorem splitAt_eq_none_iff {mark : Char} {text : List Char} :
    (splitAt mark text).2 = none ↔ mark ∉ text := by
  constructor
  · intro hNone hMem
    -- nothing is left where the mark would stand
    have hDrop : text.dropWhile (· ≠ mark) = [] := by
      unfold splitAt at hNone
      cases h : text.dropWhile (· ≠ mark) with
      | nil => rfl
      | cons c rest =>
        rw [h] at hNone
        cases hNone
    have hMark := List.dropWhile_eq_nil_iff.mp hDrop mark hMem
    simp at hMark
  · intro h
    rw [splitAt_of_not_mem h]

end Url

/-- The parts of an address in its general syntax. -/
structure Address where
  scheme : List Char
  authority : List Char
  segments : List (List Char)
  query : Option (List Char)
  fragment : Option (List Char)
  deriving DecidableEq, Repr

/-- The parts of an address with an authority: the fragment stands behind the
first number sign, the query behind the first question mark in front of that,
and the authority between two slashes and the next one. -/
def Address.split? (text : List Char) : Option Address :=
  let (place, fragment) := Url.splitAt '#' text
  let (place, query) := Url.splitAt '?' place
  match Url.splitAt ':' place with
  | (scheme, some ('/' :: '/' :: behind)) =>
    let (authority, path) := Url.splitAt '/' behind
    some { scheme, authority, segments := (path.map (Separated.split '/')).getD [], query, fragment }
  | _ => none

/-- The query and the fragment of an address are what stands behind their
marks. -/
theorem Address.of_split?_eq {text : List Char} {a : Address} (h : split? text = some a) :
    a.fragment = (Url.splitAt '#' text).2 ∧ a.query = (Url.splitAt '?' (Url.splitAt '#' text).1).2 := by
  unfold split? at h
  dsimp only at h
  split at h
  · obtain rfl := Option.some.inj h
    exact ⟨rfl, rfl⟩
  · cases h

/-- An address without query and fragment has its authority and its segments
where they were put. -/
theorem Address.split?_plain {text scheme authority : List Char} {segments : List (List Char)}
    (hText : text = scheme ++ ':' :: '/' :: '/' :: (authority ++ '/' :: Separated.join '/' segments))
    (hQuery : '?' ∉ text) (hFragment : '#' ∉ text) (hScheme : ':' ∉ scheme) (hAuthority : '/' ∉ authority)
    (hSome : segments ≠ []) (hSegments : ∀ segment ∈ segments, '/' ∉ segment) :
    split? text = some { scheme, authority, segments, query := none, fragment := none } := by
  -- the first colon is the one behind the scheme
  have hSplit : Url.splitAt ':' text =
      (scheme, some ('/' :: '/' :: (authority ++ '/' :: Separated.join '/' segments))) := by
    rw [hText]
    exact Url.splitAt_append hScheme _
  -- and the first slash behind the two ends the authority
  have hBehind : Url.splitAt '/' (authority ++ '/' :: Separated.join '/' segments) =
      (authority, some (Separated.join '/' segments)) := Url.splitAt_append hAuthority _
  unfold split?
  rw [Url.splitAt_of_not_mem hFragment]
  dsimp only
  rw [Url.splitAt_of_not_mem hQuery]
  dsimp only
  rw [hSplit]
  simp only [hBehind, Option.map_some, Option.getD_some, Separated.split_join hSome hSegments]

/-! ## The address that settings give -/

/-- A context that holds no slash is one segment as it stands. -/
theorem Route.toList_root {context : String} (h : '/' ∉ context.toList) :
    (root context).toList = '/' :: (context.toList ++ "/script/".toList) := by
  have hOther : ∀ c ∈ context.toList, (c == '/') = false := by
    intro c hc
    rw [beq_eq_false_iff_ne]
    exact ne_of_mem_of_not_mem hc h
  -- neither end has a slash to trim
  have hStart : context.toList.dropWhile (· == '/') = context.toList :=
    Blank.dropWhile_eq_self fun c hc => hOther c (List.mem_of_mem_head? hc)
  have hEnd : Blank.dropEndWhile (· == '/') context.toList = context.toList :=
    Blank.dropEndWhile_eq_self fun c hc => hOther c (List.mem_of_getLast? hc)
  have hTrim : trimSlashes context = context := by
    rw [trimSlashes, hStart, hEnd, String.ofList_toList]
  rw [root, hTrim, String.toList_append, String.toList_append]
  rfl

theorem Route.session_eq (id : SessionId) : session id = sessions ++ ("/" ++ id.text) :=
  String.append_assoc

/-- A path below the route of all sessions stands behind the root as it is. -/
theorem Connection.url_sessions (c : Connection) (behind : String) :
    c.endpoint.url (Route.sessions ++ behind) =
      c.baseUrl ++ Route.root c.context ++ (Route.sessions ++ behind) := by
  have hDrop : (Route.sessions ++ behind).toList.dropWhile (· == '/') =
      (Route.sessions ++ behind).toList := by
    apply Blank.dropWhile_eq_self
    simp [Route.sessions, String.toList_append]
  show _ ++ _ ++ String.ofList _ = _
  rw [hDrop, String.ofList_toList]

/-- The segments of the route of a session below a context. -/
def sessionSegments (context : String) (id : SessionId) : List (List Char) :=
  [context.toList, "script".toList, "sessions".toList, "py".toList, decimal id.value]

/-- The address of a session, sign by sign. -/
theorem Connection.toList_url {c : Connection} (h : '/' ∉ c.context.toList) (id : SessionId) :
    (c.endpoint.url (Route.session id)).toList =
      "http:".toList ++ '/' :: '/' :: ((c.host.toList ++ ':' :: decimal c.port.toNat) ++
        '/' :: Separated.join '/' (sessionSegments c.context id)) := by
  have hId : id.text.toList = decimal id.value := SessionId.toList_toString id.value
  rw [Route.session_eq, url_sessions]
  unfold baseUrl Route.sessions
  simp only [String.toList_append, Route.toList_root h, hId, SessionId.toList_toString]
  simp [sessionSegments, Separated.join]

/-- The mark of a query or of a fragment stands in the address of a session only
if it stands in the context. -/
theorem Connection.mem_url_iff {c : Connection} (h : '/' ∉ c.context.toList) {mark : Char}
    (hMark : mark = '?' ∨ mark = '#') (hHost : mark ∉ c.host.toList) (id : SessionId) :
    mark ∈ (c.endpoint.url (Route.session id)).toList ↔ mark ∈ c.context.toList := by
  have hDigits : ∀ n, mark ∉ decimal n := by
    apply not_mem_decimal
    rcases hMark with rfl | rfl <;> rfl
  have hSigns : mark ∉ "http:".toList ∧ mark ∉ "script".toList ∧ mark ∉ "sessions".toList ∧
      mark ∉ "py".toList ∧ mark ≠ '/' ∧ mark ≠ ':' := by
    rcases hMark with rfl | rfl <;> decide
  obtain ⟨hScheme, hScript, hSessions, hEngine, hSlash, hColon⟩ := hSigns
  rw [toList_url h]
  simp only [sessionSegments, Separated.join, List.mem_append, List.mem_cons, hDigits, hScheme, hScript,
    hSessions, hEngine, hSlash, hColon, hHost, false_or, or_false]

/-- Valid settings have a context that may stand as one segment of a path. -/
theorem Settings.isContext_of_validate {s : Settings} (h : s.validate = .ok ()) :
    isContext s.connection.context = true := by
  unfold validate at h
  split at h
  · cases h
  split at h
  · cases h
  split at h
  · cases h
  · next hContext => simpa using hContext

theorem not_mem_of_isContext {context : String} (h : isContext context = true) :
    '/' ∉ context.toList := by
  intro hSlash
  rw [isContext, Bool.and_eq_true] at h
  have hNone := List.all_eq_true.mp h.2 '/' hSlash
  simp at hNone

/-- The address that is meant for a session: the server, and the segments of the
route below the context. -/
def Connection.sessionAddress (c : Connection) (id : SessionId) : Address where
  scheme := "http".toList
  authority := c.host.toList ++ ':' :: decimal c.port.toNat
  segments := sessionSegments c.context id
  query := none
  fragment := none

/-- **The address of a session.** Where the host is no more than a name or a
numeric address, valid settings give the address that is meant exactly if
neither a question mark nor a number sign stands in the context. -/
theorem Settings.split_url_iff {s : Settings} (hValid : s.validate = .ok ())
    (hHost : ∀ mark ∈ ['/', '?', '#'], mark ∉ s.connection.host.toList) (id : SessionId) :
    Address.split? (s.connection.endpoint.url (Route.session id)).toList =
        some (s.connection.sessionAddress id) ↔
      '?' ∉ s.connection.context.toList ∧ '#' ∉ s.connection.context.toList := by
  have hContext := not_mem_of_isContext (isContext_of_validate hValid)
  have hQuery := Connection.mem_url_iff hContext (.inl rfl) (hHost '?' (by decide)) id
  have hFragment := Connection.mem_url_iff hContext (.inr rfl) (hHost '#' (by decide)) id
  rw [← not_congr hQuery, ← not_congr hFragment]
  constructor
  · intro h
    -- the address that is meant has neither query nor fragment, so no mark was
    -- found in the text
    obtain ⟨hAfterSign, hAfterMark⟩ := Address.of_split?_eq h
    have hNoFragment := Url.splitAt_eq_none_iff.mp hAfterSign.symm
    rw [Url.splitAt_of_not_mem hNoFragment] at hAfterMark
    exact ⟨Url.splitAt_eq_none_iff.mp hAfterMark.symm, hNoFragment⟩
  · rintro ⟨hNoQuery, hNoFragment⟩
    -- nothing else in the address has a slash but those between its parts
    have hAuthority : '/' ∉ s.connection.host.toList ++ ':' :: decimal s.connection.port.toNat := by
      simp [hHost '/' (by decide), not_mem_decimal (show '/'.isDigit = false from rfl)]
    have hSegments : ∀ segment ∈ sessionSegments s.connection.context id, '/' ∉ segment := by
      simp [sessionSegments, hContext, not_mem_decimal (show '/'.isDigit = false from rfl)]
    exact Address.split?_plain (Connection.toList_url hContext id) hNoQuery hNoFragment (by decide)
      hAuthority (List.cons_ne_nil _ _) hSegments

/-- The standard settings give the address that is meant. -/
theorem Settings.split_url_standard :
    ({} : Settings).validate = .ok () ∧
      Address.split? (({} : Settings).connection.endpoint.url
          (Route.session ⟨7, by decide, by decide⟩)).toList =
        some {
          scheme := "http".toList
          authority := "localhost:8080".toList
          segments := ["geoserver".toList, "script".toList, "sessions".toList, "py".toList, ['7']]
          query := none
          fragment := none } := by
  have hValid : ({} : Settings).validate = .ok () := rfl
  have hHost : ∀ mark ∈ ['/', '?', '#'], mark ∉ ({} : Settings).connection.host.toList := by
    intro mark hMark
    simp only [List.mem_cons, List.not_mem_nil, or_false] at hMark
    rcases hMark with rfl | rfl | rfl <;> decide
  have hSplit := (split_url_iff hValid hHost ⟨7, by decide, by decide⟩).mpr ⟨by decide, by decide⟩
  refine ⟨hValid, hSplit.trans ?_⟩
  decide +kernel

/-- Valid settings whose context is cut off at a question mark. -/
theorem Settings.not_segment_of_query :
    ∃ s : Settings, s.validate = .ok () ∧ s.connection.host = "localhost" ∧ s.connection.context = "a?b" ∧
      Address.split? (s.connection.endpoint.url (Route.session ⟨1, by decide, by decide⟩)).toList =
        some {
          scheme := "http".toList
          authority := "localhost:8080".toList
          segments := [['a']]
          query := some "b/script/sessions/py/1".toList
          fragment := none } :=
  ⟨{ connection := { context := "a?b" } }, rfl, rfl, rfl, by decide +kernel⟩

end RemoteConsole
