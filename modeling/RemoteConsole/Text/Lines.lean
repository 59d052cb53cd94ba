import RemoteConsole.Text.Separated

/-!
# Lines of a text

A line feed ends a line, and a carriage return directly before it belongs to the
end of the line.

* `split` — the parts of a text between line feeds.
* `dropReturn` — a part without the carriage return at its end.
* `read` — the lines of a text, whose last one may have no end.
-/

namespace RemoteConsole.Lines

/-- The parts of a text between line feeds. -/
def split (text : List Char) : List (List Char) :=
  Separated.split '\n' text

/-- A line without one carriage return at its end. -/
def dropReturn (line : List Char) : List Char :=
  if line.getLast? = some '\r' then line.dropLast else line

/-- The lines of a text. Nothing behind the last line feed is no line. -/
def read (text : String) : List String :=
  let parts := split text.toList
  let ended := if parts.getLast? = some [] then parts.dropLast else parts
  ended.map fun line => String.ofList (dropReturn line)

end RemoteConsole.Lines
