import RemoteConsole.Text.Hex

/-!
# Writing JSON

A document is built as a value and written in one of two forms: compact, or with
one member a line, indented by two spaces for every level.

* `Value` — the values that are written.
* `Value.compact`, `Value.indented` — their texts.
* `quote` — a string with its escapes: quotation marks, backslashes and
  controls, and nothing else.
-/

namespace RemoteConsole.Json

/-- A value to be written. -/
inductive Value where
  | null
  | number (n : Nat)
  | string (text : String)
  | list (items : List Value)
  | object (members : List (String × Value))

/-- How a character is written in a string. -/
def escape (c : Char) : List Char :=
  if c = '"' then ['\\', '"']
  else if c = '\\' then ['\\', '\\']
  else if c = '\x08' then ['\\', 'b']
  else if c = '\x0c' then ['\\', 'f']
  else if c = '\n' then ['\\', 'n']
  else if c = '\r' then ['\\', 'r']
  else if c = '\t' then ['\\', 't']
  else if c.toNat < 0x20 then ['\\', 'u'] ++ Hex.lower 4 c.toNat
  else [c]

/-- A string with its marks. -/
def quote (text : String) : List Char :=
  ['"'] ++ text.toList.flatMap escape ++ ['"']

/-- The decimal text of a number. -/
def decimal (n : Nat) : List Char :=
  Nat.toDigits 10 n

namespace Value

mutual

/-- The text without white space. -/
def compact : Value → List Char
  | null => ['n', 'u', 'l', 'l']
  | number n => decimal n
  | string text => quote text
  | list items => ['['] ++ compactItems items ++ [']']
  | object members => ['\x7b'] ++ compactMembers members ++ ['\x7d']

/-- The items of a list, with commas between them. -/
def compactItems : List Value → List Char
  | [] => []
  | [v] => compact v
  | v :: more => compact v ++ [','] ++ compactItems more

/-- The members of an object, with commas between them. -/
def compactMembers : List (String × Value) → List Char
  | [] => []
  | [(key, v)] => quote key ++ [':'] ++ compact v
  | (key, v) :: more => quote key ++ [':'] ++ compact v ++ [','] ++ compactMembers more

end

/-- A new line at a level. -/
def newLine (level : Nat) : List Char :=
  '\n' :: List.replicate (2 * level) ' '

mutual

/-- The text with one member a line, inside so many levels. -/
def indentedAt (level : Nat) : Value → List Char
  | null => ['n', 'u', 'l', 'l']
  | number n => decimal n
  | string text => quote text
  | list [] => ['[', ']']
  | list items => ['['] ++ indentedItems (level + 1) items ++ newLine level ++ [']']
  | object [] => ['\x7b', '\x7d']
  | object members =>
    ['\x7b'] ++ indentedMembers (level + 1) members ++ newLine level ++ ['\x7d']

/-- The items of a list, each on its line. -/
def indentedItems (level : Nat) : List Value → List Char
  | [] => []
  | [v] => newLine level ++ indentedAt level v
  | v :: more => newLine level ++ indentedAt level v ++ [','] ++ indentedItems level more

/-- The members of an object, each on its line. -/
def indentedMembers (level : Nat) : List (String × Value) → List Char
  | [] => []
  | [(key, v)] => newLine level ++ quote key ++ [':', ' '] ++ indentedAt level v
  | (key, v) :: more =>
    newLine level ++ quote key ++ [':', ' '] ++ indentedAt level v ++ [',']
      ++ indentedMembers level more

end

/-- The text with one member a line. -/
def indented (v : Value) : List Char :=
  indentedAt 0 v

end Value

end RemoteConsole.Json
