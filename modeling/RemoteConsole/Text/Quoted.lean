import RemoteConsole.Text.Hex
import RemoteConsole.Text.Visible

/-!
# Quoted text

Text inside a message stands between quotation marks, with everything that would
not be seen written as an escape: `\t`, `\n`, `\r`, `\0`, the mark and the
backslash with a backslash in front, and any other hidden or combining character
as its code point in braces after `\u`.

* `Quoted.escape` — one character.
* `Quoted.quote` — a whole text with its marks.
-/

namespace RemoteConsole.Quoted

/-- A character as its code point: a backslash, `u` and the lower-case digits in
braces. -/
def codePoint (c : Char) : List Char :=
  ['\\', 'u', '{'] ++ Hex.lower 1 c.toNat ++ ['}']

/-- How a character is written inside the marks. -/
def escape (c : Char) : List Char :=
  if c = '\x00' then ['\\', '0']
  else if c = '\t' then ['\\', 't']
  else if c = '\n' then ['\\', 'n']
  else if c = '\r' then ['\\', 'r']
  else if c = '"' then ['\\', '"']
  else if c = '\\' then ['\\', '\\']
  else if Visible.extendsGrapheme c || Visible.isHidden c then codePoint c
  else [c]

/-- A text between quotation marks, with escapes. -/
def quote (text : String) : String :=
  String.ofList (['"'] ++ text.toList.flatMap escape ++ ['"'])

end RemoteConsole.Quoted
