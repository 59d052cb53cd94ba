/-!
# String literals

A string literal ends at the first quote (or run of three equal quotes) that no
backslash stands before. A backslash takes the next character of the line with
it, and as the last character of a line it carries the literal over to the next
line; a triple-quoted literal is carried over anyway.

* `Literal` — an open literal: its quote, whether it is triple-quoted, and the
  line it starts on.
* `Literal.close` — where it ends on a line, if it does.
* `Literal.close_length_lt` — what follows a closed literal is shorter than the
  line.
-/

namespace RemoteConsole.Statement

/-- The two quotes. -/
inductive Quote where
  | single | double
  deriving DecidableEq, Repr

/-- The character of a quote. -/
def Quote.char : Quote → Char
  | single => '\''
  | double => '"'

/-- The quote that a character is. -/
def Quote.ofChar? : Char → Option Quote
  | '\'' => some single
  | '"' => some double
  | _ => none

/-- An open string literal. -/
structure Literal where
  /-- The quote that ends it. -/
  quote : Quote
  /-- Whether three quotes in a row end it. -/
  triple : Bool
  /-- The line that it starts on. -/
  line : Nat
  deriving DecidableEq, Repr

/-- How an open literal meets the rest of a line. -/
inductive Literal.End where
  /-- It ends, and this follows. -/
  | closed (rest : List Char)
  /-- It goes on on the next line. -/
  | carried
  /-- The line ends within it. -/
  | unterminated
  deriving DecidableEq, Repr

namespace Literal

/-- The end of an open literal on a line, from a place within it. -/
def close (lit : Literal) : List Char → Literal.End
  | [] => if lit.triple then .carried else .unterminated
  -- a backslash at the end of the line carries any literal over
  | ['\\'] => .carried
  | '\\' :: _ :: rest => close lit rest
  | c :: rest =>
    if c = lit.quote.char then
      if lit.triple then
        -- one or two quotes are text of the literal
        if [c, c].isPrefixOf rest then .closed (rest.drop 2) else close lit rest
      else .closed rest
    else close lit rest

/-- What follows a closed literal is shorter than the text that closes it. -/
theorem close_length_lt {lit : Literal} {cs rest : List Char} (h : lit.close cs = .closed rest) :
    rest.length < cs.length := by
  fun_induction close lit cs with
  | case1 => simp at h
  | case2 => simp at h
  | case3 => simp at h
  | case4 _ tail ih => have := ih h; simp only [List.length_cons]; omega
  | case5 => simp at h; subst h; simp only [List.length_cons, List.length_drop]; omega
  | case6 _ _ _ _ _ ih => have := ih h; simp only [List.length_cons]; omega
  | case7 => simp at h; subst h; simp only [List.length_cons]; omega
  | case8 _ _ _ _ _ ih => have := ih h; simp only [List.length_cons]; omega

end Literal

end RemoteConsole.Statement
