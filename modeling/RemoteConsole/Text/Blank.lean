import RemoteConsole.Text.CodePoints

/-!
# Blank text

White space in the sense of Unicode's property `White_Space`, which is wider
than the blanks that separate words within a statement.

* `isBlank`, `isBlankText` — the property on a character and on a whole text.
* `trimStart`, `trimEnd`, `trim` — removal of blanks at the ends.
-/

namespace RemoteConsole.Blank

/-- The characters with the property `White_Space`. -/
def whiteSpace : CodePoints := ⟨
  [0x9, 0xE, 0x20, 0x21, 0x85, 0x86, 0xA0, 0xA1, 0x1680, 0x1681, 0x2000, 0x200B, 0x2028, 0x202A,
    0x202F, 0x2030, 0x205F, 0x2060, 0x3000, 0x3001]⟩

/-- Whether a character is white space. -/
def isBlank (c : Char) : Bool :=
  whiteSpace.mem c

/-- Whether a text holds nothing but white space. -/
def isBlankText (text : List Char) : Bool :=
  text.all isBlank

/-- A text without the white space it starts with. -/
def trimStart (text : List Char) : List Char :=
  text.dropWhile isBlank

/-- A text without the characters at its end that satisfy a test. -/
def dropEndWhile (p : Char → Bool) (text : List Char) : List Char :=
  (text.reverse.dropWhile p).reverse

/-- A text without the white space it ends with. -/
def trimEnd (text : List Char) : List Char :=
  dropEndWhile isBlank text

/-- A text without the white space around it. -/
def trim (text : List Char) : List Char :=
  trimEnd (trimStart text)

end RemoteConsole.Blank
