import RemoteConsole.Json.Record
import RemoteConsole.Json.Value
import RemoteConsole.Session.Credentials

/-!
# Authorization schemes in documents

A scheme is written as its name.

* `AuthScheme.decode` — reads a document that is a scheme.
* `AuthScheme.toValue` — a scheme as it is written.
-/

namespace RemoteConsole.AuthScheme

open Json (Decoder Malformed Value)

/-- A scheme. -/
def decoder : Decoder AuthScheme :=
  Decoder.alternative ofText? standard.text legacy.text

/-- Reads a document that is a scheme. -/
def decode (document : List UInt8) : Except Malformed AuthScheme :=
  decoder.run document

/-- A scheme as it is written. -/
def toValue (s : AuthScheme) : Value :=
  .string s.text

end RemoteConsole.AuthScheme
