import RemoteConsole.Session.Listing
import RemoteConsole.Text.Utf8

/-!
# Listings as tables

A listing is shown as a table of two columns: the ids, aligned at their ends,
and the engines, aligned at their starts. A rule stands below the heading, and
the number of sessions below everything.

* `Table.Widths` — the widths of the columns.
* `Table.lines` — the lines of a table.
* `Listing.table` — the text that is shown, also for a listing without sessions.
-/

namespace RemoteConsole

namespace Table

/-- A text with blanks before it, up to a width. -/
def padStart (width : Nat) (text : List Char) : List Char :=
  List.replicate (width - text.length) ' ' ++ text

/-- A text with blanks behind it, up to a width. -/
def padEnd (width : Nat) (text : List Char) : List Char :=
  text ++ List.replicate (width - text.length) ' '

/-- The widths of the two columns. -/
structure Widths where
  /-- The width of the ids. -/
  id : Nat
  /-- The width of the engines. -/
  engine : Nat
  deriving DecidableEq, Repr

/-- The largest of some numbers, and at least `least`. -/
def largest (least : Nat) (ns : List Nat) : Nat :=
  ns.foldl max least

/-- The widths that fit the headings and all sessions. An engine is as wide as
it has bytes. -/
def Widths.ofSessions (sessions : List SessionSummary) : Widths where
  id := largest 2 (sessions.map fun s => s.id.text.length)
  engine := largest 6 (sessions.map fun s => Utf8.size s.engine)

/-- A line of a table. -/
def row (w : Widths) (id engine : String) : List Char :=
  padStart w.id id.toList ++ [' ', ' '] ++ padEnd w.engine engine.toList

/-- The line below the heading. -/
def rule (w : Widths) : List Char :=
  List.replicate (w.id + w.engine + 2) '-'

/-- The last line. -/
def total (n : Nat) : String :=
  "Total: " ++ toString n ++ " session(s)"

/-- The lines of a table. -/
def lines (sessions : List SessionSummary) : List (List Char) :=
  let w := Widths.ofSessions sessions
  -- an empty line stands before the number of sessions
  [row w "ID" "ENGINE", rule w] ++ sessions.map (fun s => row w s.id.text s.engine)
    ++ [[], (total sessions.length).toList]

end Table

/-- A listing as it is shown. -/
def Listing.table (l : Listing) : String :=
  if l.sessions.isEmpty then "No active sessions.\n"
  else String.ofList ((Table.lines l.sessions).flatMap (· ++ ['\n']))

end RemoteConsole
