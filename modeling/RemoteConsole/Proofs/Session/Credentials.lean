import RemoteConsole.Proofs.Text.Base64
import RemoteConsole.Proofs.Text.Utf8
import RemoteConsole.Session.Credentials

/-!
# Authorization values say who asks

The authorization value is made of a user and a password so that both are found
in it again: the token is decoded to the bytes of the text that holds them, and
that text is split at its first colon, which no user has.

* `Credentials.IsTokenOf` — a text is the token of another one.
* `Credentials.eq_of_pair_eq` — credentials are found again in their pair.
* `Credentials.authorization_faithful` — what the values hold, and that they say
  who asks.
-/

namespace RemoteConsole.Credentials

/-! ## Tokens -/

/-- A text is a padded token, whose bytes are those of another text. -/
def IsTokenOf (token text : String) : Prop :=
  Base64.IsToken token.toList ∧ Base64.decode? token.toList = some (Utf8.encode text.toList)

theorem isTokenOf_token (text : String) : IsTokenOf (token text) text := by
  unfold IsTokenOf token
  rw [String.toList_ofList]
  exact ⟨Base64.isToken_encode _, Base64.decode?_encode _⟩

/-- A token is that of one text only. -/
theorem IsTokenOf.unique {token text text' : String} (h : IsTokenOf token text) (h' : IsTokenOf token text') :
    text = text' := by
  have hBytes : Utf8.encode text.toList = Utf8.encode text'.toList := Option.some.inj (h.2.symm.trans h'.2)
  exact String.toList_inj.mp (Utf8.encode_inj.mp hBytes)

theorem IsTokenOf.ne_break {token text : String} (h : IsTokenOf token text) :
    ∀ x ∈ token.toList, x ≠ '\n' ∧ x ≠ '\r' :=
  fun _ hx => h.1.ne_break hx

/-! ## Pairs -/

/-- What stands before the first colon is told from what stands behind it. -/
theorem append_colon_inj {a a' b b' : List Char} (ha : ':' ∉ a) (ha' : ':' ∉ a')
    (h : a ++ ':' :: b = a' ++ ':' :: b') : a = a' ∧ b = b' := by
  rcases List.append_eq_append_iff.mp h with ⟨m, rfl, hm⟩ | ⟨m, rfl, hm⟩
  · cases m with
    | nil => exact ⟨(List.append_nil a).symm, (List.cons.inj hm).2⟩
    | cons x m =>
      -- the first colon would stand before itself
      obtain ⟨rfl, -⟩ := List.cons.inj hm
      exact absurd (by simp) ha'
  · cases m with
    | nil => exact ⟨List.append_nil a', ((List.cons.inj hm).2).symm⟩
    | cons x m =>
      obtain ⟨rfl, -⟩ := List.cons.inj hm
      exact absurd (by simp) ha

/-- A user without a colon ends at the first colon of the pair. -/
theorem eq_of_pair_eq {c c' : Credentials} (hUser : ':' ∉ c.user.toList) (hUser' : ':' ∉ c'.user.toList)
    (h : c.pair = c'.pair) : c = c' := by
  have hText : c.user.toList ++ ':' :: c.password.toList = c'.user.toList ++ ':' :: c'.password.toList := by
    simpa [pair] using congrArg String.toList h
  obtain ⟨hUsers, hPasswords⟩ := append_colon_inj hUser hUser' hText
  cases c
  cases c'
  rw [mk.injEq]
  exact ⟨String.toList_inj.mp hUsers, String.toList_inj.mp hPasswords⟩

/-! ## Values -/

/-- No authorization value breaks a line of the head it stands in. -/
theorem ne_break_authorization (c : Credentials) (scheme : AuthScheme) :
    ∀ x ∈ (c.authorization scheme).toList, x ≠ '\n' ∧ x ≠ '\r' := by
  intro x hx
  cases scheme with
  | standard =>
    have hWord : "Basic ".toList.all (fun x => x ≠ '\n' ∧ x ≠ '\r') = true := by decide
    rw [authorization, String.toList_append] at hx
    rcases List.mem_append.mp hx with hx | hx
    · exact of_decide_eq_true (List.all_eq_true.mp hWord x hx)
    · exact (isTokenOf_token c.pair).ne_break x hx
  | legacy => exact (isTokenOf_token ("Basic " ++ c.pair)).ne_break x hx

/-- Under one scheme a value is that of one pair. -/
theorem pair_eq_of_authorization_eq {c c' : Credentials} {scheme : AuthScheme}
    (h : c.authorization scheme = c'.authorization scheme) : c.pair = c'.pair := by
  cases scheme with
  | standard =>
    have hToken : token c.pair = token c'.pair := (String.append_right_inj "Basic ").mp h
    have hPair := isTokenOf_token c.pair
    rw [hToken] at hPair
    exact hPair.unique (isTokenOf_token c'.pair)
  | legacy =>
    have hToken : token ("Basic " ++ c.pair) = token ("Basic " ++ c'.pair) := h
    have hFramed := isTokenOf_token ("Basic " ++ c.pair)
    rw [hToken] at hFramed
    exact (String.append_right_inj "Basic ").mp (hFramed.unique (isTokenOf_token ("Basic " ++ c'.pair)))

/-- **An authorization value says who asks.** The standard value is the word
`Basic`, a space and a padded token, which is decoded to the bytes of user,
colon and password; the other one is such a token, and the word and the space
stand inside. Neither has a line break. Under either scheme two credentials
whose users have no colon have the same value only if they are the same. -/
theorem authorization_faithful :
    (∀ c : Credentials, ∃ t, c.authorization .standard = "Basic " ++ t ∧
        IsTokenOf t (c.user ++ ":" ++ c.password)) ∧
      (∀ c : Credentials, IsTokenOf (c.authorization .legacy) ("Basic " ++ (c.user ++ ":" ++ c.password))) ∧
      (∀ (c : Credentials) scheme, ∀ x ∈ (c.authorization scheme).toList, x ≠ '\n' ∧ x ≠ '\r') ∧
      ∀ (c c' : Credentials) scheme, ':' ∉ c.user.toList → ':' ∉ c'.user.toList →
        c.authorization scheme = c'.authorization scheme → c = c' := by
  refine ⟨fun c => ⟨token c.pair, rfl, isTokenOf_token c.pair⟩, fun c => isTokenOf_token _,
    ne_break_authorization, fun c c' scheme hUser hUser' h => ?_⟩
  exact eq_of_pair_eq hUser hUser' (pair_eq_of_authorization_eq h)

/-- A colon in the password changes nothing: two passwords are told apart behind
their colons. -/
theorem authorization_faithful_of_colons :
    let c : Credentials := ⟨"ünï", "p:w d"⟩
    let c' : Credentials := ⟨"ünï", "p:w"⟩
    ':' ∉ c.user.toList ∧ ':' ∉ c'.user.toList ∧ c.authorization .legacy ≠ c'.authorization .legacy := by
  intro c c'
  have hUser : ':' ∉ c.user.toList := by decide
  have hUser' : ':' ∉ c'.user.toList := by decide
  have hDifferent : c ≠ c' := by decide
  exact ⟨hUser, hUser', fun h => hDifferent (authorization_faithful.2.2.2 c c' .legacy hUser hUser' h)⟩

/-- A colon in the user leaves open where the user ends. -/
example (scheme : AuthScheme) :
    (⟨"a:b", "c"⟩ : Credentials).authorization scheme = (⟨"a", "b:c"⟩ : Credentials).authorization scheme := by
  cases scheme <;> rfl

end RemoteConsole.Credentials
