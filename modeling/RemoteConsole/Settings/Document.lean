import RemoteConsole.Settings.Basic
import RemoteConsole.Toml.Decoder
import RemoteConsole.Toml.Document

/-!
# Settings in documents

A document sets some settings and leaves the others as they are by default.

* `Settings.decoder` — settings from a table.
* `Settings.ofDocument` — settings from the text of a document.
-/

namespace RemoteConsole

open Toml (Decoder Fault)

/-- Why a document holds no settings. -/
inductive InvalidDocument where
  /-- It is not well formed. -/
  | grammar
  /-- One of its values is not what it should be. -/
  | fault (f : Fault)
  deriving DecidableEq, Repr

/-- The report on a document that holds no settings. -/
def InvalidDocument.message : InvalidDocument → String
  | grammar => "Invalid TOML: malformed document"
  | fault f => "Invalid TOML: " ++ f.message

namespace Connection

/-- A port. -/
def portDecoder : Decoder UInt16 := fun node =>
  (Decoder.natural UInt16.size "u16" node).map UInt16.ofFin

/-- A number of seconds. -/
def timeoutDecoder : Decoder UInt64 := fun node =>
  (Decoder.natural UInt64.size "u64" node).map UInt64.ofFin

/-- The settings of a connection. -/
def decoder : Decoder Connection :=
  .record "ConnectionConfig"
    [.holding "host" .string fun c s => { c with host := s },
      .holding "port" portDecoder fun c n => { c with port := n },
      .holding "context" .string fun c s => { c with context := s },
      .holding "user" .string fun c s => { c with user := s },
      .holding "password" .string fun c s => { c with password := s },
      .holding "auth_scheme"
        (.alternative AuthScheme.ofText? AuthScheme.standard.text AuthScheme.legacy.text)
        fun c s => { c with scheme := s },
      .holding "connect_timeout_secs" timeoutDecoder fun c n => { c with timeout := some n }] {}

end Connection

/-- Prompts. -/
def Prompts.decoder : Decoder Prompts :=
  .record "ConsoleConfig"
    [.holding "prompt" .string fun p s => { p with first := s },
      .holding "continuation_prompt" .string fun p s => { p with continuation := s }] {}

/-- The settings of the log. -/
def Logging.decoder : Decoder Logging :=
  .record "LoggingConfig"
    [.holding "level" .string fun l s => { l with level := s },
      .holding "file" (.text "path string") fun l s => { l with file := some s }] {}

namespace Settings

/-- Settings. -/
def decoder : Decoder Settings :=
  .record "Config"
    [.holding "connection" Connection.decoder fun s c => { s with connection := c },
      .holding "console" Prompts.decoder fun s p => { s with prompts := p },
      .holding "logging" Logging.decoder fun s l => { s with logging := l }] {}

/-- Settings from the text of a document. -/
def ofDocument (text : String) : Except InvalidDocument Settings :=
  match Toml.parse? text with
  | none => .error .grammar
  -- the document itself stands at no place of its own
  | some es => (decoder (.table {} es)).mapError .fault

end Settings

end RemoteConsole
