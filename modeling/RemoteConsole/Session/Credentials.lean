import RemoteConsole.Text.Base64
import RemoteConsole.Text.Quoted
import RemoteConsole.Text.Utf8

/-!
# Credentials

Every request carries one authorization value, made of a user and a password.

* `AuthScheme` — whether the word `Basic` stands before the token or inside it.
* `Credentials.authorization` — the value.
* `Credentials.describe` — a description that keeps the password to itself.
-/

namespace RemoteConsole

/-- How credentials are framed. -/
inductive AuthScheme where
  /-- The word `Basic`, a space, and the token of user and password. -/
  | standard
  /-- One token that holds the word too. -/
  | legacy
  deriving DecidableEq, Repr

/-- The name of a scheme in settings. -/
def AuthScheme.text : AuthScheme → String
  | standard => "standard"
  | legacy => "legacy"

/-- The scheme with a name. -/
def AuthScheme.ofText? (name : String) : Option AuthScheme :=
  [standard, legacy].find? fun s => s.text == name

instance : Inhabited AuthScheme := ⟨.standard⟩

/-- A user and a password. -/
structure Credentials where
  /-- The account. -/
  user : String
  /-- The password of the account. -/
  password : String
  deriving DecidableEq, Repr

namespace Credentials

/-- User and password as one text. -/
def pair (c : Credentials) : String :=
  c.user ++ ":" ++ c.password

/-- The token of a text. -/
def token (text : String) : String :=
  String.ofList (Base64.encode (Utf8.encode text.toList))

/-- The authorization value. -/
def authorization (c : Credentials) : AuthScheme → String
  | .standard => "Basic " ++ token c.pair
  | .legacy => token ("Basic " ++ c.pair)

/-- A description without the password. -/
def describe (c : Credentials) : String :=
  "Credentials \x7b user: " ++ Quoted.quote c.user ++ ", password: \"<redacted>\" \x7d"

end Credentials

end RemoteConsole
