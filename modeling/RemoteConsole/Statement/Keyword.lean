import RemoteConsole.Text.Letters

/-!
# Words of a statement

The scripting language's reserved words, as far as the completeness check looks
at them.

* `Keyword` — the words that may head a block; `opensBlock`, `isClause` and
  `needsColon` divide them.
* `Opening` — what a logical line starts with: such a word, a decorator sign or
  anything else.
* `canEndStatement` — whether a statement may stop after a word.
-/

namespace RemoteConsole.Statement

/-- The words that may head an indented block. -/
inductive Keyword where
  | ifWord | whileWord | forWord | tryWord | withWord | defWord | classWord | asyncWord
  | elifWord | elseWord | exceptWord | finallyWord | matchWord | caseWord
  deriving DecidableEq, Repr

namespace Keyword

/-- The spelling of a word. -/
def text : Keyword → String
  | ifWord => "if"
  | whileWord => "while"
  | forWord => "for"
  | tryWord => "try"
  | withWord => "with"
  | defWord => "def"
  | classWord => "class"
  | asyncWord => "async"
  | elifWord => "elif"
  | elseWord => "else"
  | exceptWord => "except"
  | finallyWord => "finally"
  | matchWord => "match"
  | caseWord => "case"

/-- Every word that may head a block. -/
def all : List Keyword :=
  [ifWord, whileWord, forWord, tryWord, withWord, defWord, classWord, asyncWord, elifWord,
    elseWord, exceptWord, finallyWord, matchWord, caseWord]

/-- The keyword with this spelling. -/
def ofWord? (word : List Char) : Option Keyword :=
  all.find? fun k => k.text.toList == word

/-- Words that continue the compound statement above them. -/
def isClause : Keyword → Bool
  | elifWord | elseWord | exceptWord | finallyWord => true
  | _ => false

/-- Words that can only start a compound statement. -/
def opensBlock : Keyword → Bool
  | ifWord | whileWord | forWord | tryWord | withWord | defWord | classWord | asyncWord => true
  | _ => false

/-- Words whose statement must have a colon outside brackets. -/
def needsColon : Keyword → Bool
  | asyncWord | matchWord | caseWord => false
  | _ => true

/-- Words that may follow a decorator. -/
def isDecorated : Keyword → Bool
  | defWord | classWord | asyncWord => true
  | _ => false

end Keyword

/-- What a logical line starts with. -/
inductive Opening where
  /-- A word that may head a block. -/
  | keyword (k : Keyword)
  /-- A lone at sign. -/
  | decorator
  /-- Anything else. -/
  | other
  deriving DecidableEq, Repr

/-- What a line that starts with this word opens with. -/
def Opening.ofWord (word : List Char) : Opening :=
  match Keyword.ofWord? word with
  | some k => .keyword k
  | none => .other

/-- Whether the word of this opening must be followed by a colon. -/
def Opening.needsColon : Opening → Bool
  | .keyword k => k.needsColon
  | _ => false

/-- Whether a statement with this opening is a compound one. -/
def Opening.opensBlock : Opening → Bool
  | .keyword k => k.opensBlock
  | .decorator => true
  | .other => false

/-- Words after which a statement cannot stop. -/
def danglingWords : List String :=
  ["and", "as", "assert", "await", "del", "elif", "else", "for", "from", "global", "if", "import",
    "in", "is", "lambda", "nonlocal", "not", "or", "while", "with"]

/-- Whether a statement may stop after this word. -/
def canEndStatement (word : List Char) : Bool :=
  !danglingWords.any (·.toList == word)

/-- Marks that may stand directly before a quote, in either case. -/
def literalMarks : List String :=
  ["r", "b", "u", "f", "rb", "br", "fr", "rf"]

/-- Whether a word directly before a quote belongs to the string literal. -/
def isLiteralMark (word : List Char) : Bool :=
  literalMarks.any (·.toList == word.map Char.toLower)

/-- Whether a word can start with this character. -/
def startsWord (c : Char) : Bool :=
  c == '_' || Letters.isAlphabetic c

/-- Whether a word can go on with this character. -/
def continuesWord (c : Char) : Bool :=
  c == '_' || Letters.isAlphanumeric c

/-- Whether a number can go on with this character. -/
def continuesNumber (c : Char) : Bool :=
  c == '_' || c == '.' || Letters.isAlphanumeric c

end RemoteConsole.Statement
