import RemoteConsole.CommandLine.Invocation
import RemoteConsole.CommandLine.UsageError

/-!
# Reading command lines

Words are read from left to right. An option that takes a value waits for it,
and a value is looked at when the next argument begins or the line ends; so of
several mistakes the one that is met first wins. Behind the word of two dashes
every word is a value.

* `Word` — a word as it is written: an option, a cluster of short options, or a
  value.
* `Reading` — a command line while it is read.
* `Invocation.ofWords` — the invocation, or what to do instead.
-/

namespace RemoteConsole

/-- What a command line can ask for instead of a run of the program. -/
inductive Stop where
  /-- How the program is called. -/
  | help
  /-- The version of the program. -/
  | version
  /-- The line is wrong. -/
  | error (e : UsageError)
  deriving DecidableEq, Repr

/-- A word of a command line. -/
inductive Word where
  /-- Two dashes: values follow. -/
  | terminator
  /-- An option by its long name, perhaps with a value behind an equals sign. -/
  | long (name : String) (value : Option String)
  /-- Options by their short names, perhaps with the value of the last one
  behind it. -/
  | cluster (names : List Char)
  /-- A value. -/
  | plain (text : String)
  deriving DecidableEq, Repr

namespace Word

/-- The long name and the value of an option. -/
def ofLong (text : List Char) : Word :=
  .long (String.ofList (text.takeWhile (· ≠ '=')))
    (match text.dropWhile (· ≠ '=') with
      | [] => none
      | _ :: value => some (String.ofList value))

/-- A word as it is written. -/
def ofText (text : String) : Word :=
  match text.toList with
  | ['-', '-'] => .terminator
  | '-' :: '-' :: more => ofLong more
  | ['-'] => .plain text
  | '-' :: names => .cluster names
  | _ => .plain text

end Word

/-! ## Values -/

/-- A sign, if there is one, and what stands behind it. -/
def splitSign : List Char → Bool × List Char
  | '+' :: more => (false, more)
  | '-' :: more => (true, more)
  | more => (false, more)

/-- The signed number of 64 bits that a text writes, or why it writes none.
Digits that are too many are met before a character that is no digit behind
them. -/
def integerOfText (text : String) : Except String Int :=
  let (negative, more) := splitSign text.toList
  let digits := more.takeWhile Char.isDigit
  let n := (decimal? digits).getD 0
  if text.isEmpty then .error "cannot parse integer from empty string"
  -- a number out of range is met at its digits, before anything behind them
  else if !negative && UInt64.size / 2 ≤ n then .error "number too large to fit in target type"
  else if negative && UInt64.size / 2 < n then .error "number too small to fit in target type"
  else if digits.isEmpty || digits.length < more.length then
    .error "invalid digit found in string"
  else .ok (if negative then -Int.ofNat n else Int.ofNat n)

/-- A port, or why a text is none. -/
def portOfText (text : String) : Except String UInt16 := do
  let n ← integerOfText text
  if 0 ≤ n ∧ n < 65536 then .ok (UInt16.ofNat n.toNat)
  else .error (toString n ++ " is not in 0..=65535")

/-! ## Reading -/

/-- A command line while it is read. -/
structure Reading where
  /-- The values so far; the host may still be missing. -/
  values : Invocation := { host := "" }
  /-- The arguments that have been taken in, in their order. -/
  taken : List Argument := []
  /-- An argument that has not been taken in, and its value if it has one. -/
  pending : Option (Argument × Option String) := none
  /-- The number of values that belong to no option. -/
  positions : Nat := 0
  /-- Whether only values follow. -/
  plain : Bool := false
  deriving DecidableEq, Repr

namespace Reading

/-- The values with that of one more argument. -/
def assign (i : Invocation) (p : Argument) (value : String) : Except UsageError Invocation :=
  match p with
  | .host => .ok { i with host := value }
  | .session =>
    match SessionId.parse value with
    | .ok id => .ok { i with session := some id }
    | .error e => .error (.invalidValue value p e.message)
  | .port =>
    match portOfText value with
    | .ok n => .ok { i with port := some n }
    | .error reason => .error (.invalidValue value p reason)
  | .user => .ok { i with user := some value }
  | .password => .ok { i with password := some value }
  | .context => .ok { i with context := some value }
  | .config =>
    -- a path cannot be empty
    if value.isEmpty then .error (.missingValue p) else .ok { i with config := some value }
  | .new => .ok { i with new := true }
  | .json => .ok { i with json := true }
  | .legacyAuth => .ok { i with legacyAuth := true }
  | .verbose => .ok { i with verbose := true }
  | .help | .version => .ok i

/-- Takes in an argument. -/
def take (r : Reading) (p : Argument) (value : String) : Except UsageError Reading :=
  if p ∈ r.taken then .error (.repeated p)
  else do return { r with values := ← assign r.values p value, taken := r.taken ++ [p] }

/-- Takes in the argument that waits, which must have its value by now. -/
def settle (r : Reading) : Except UsageError Reading :=
  match r.pending with
  | none => .ok r
  | some (p, none) => .error (.missingValue p)
  | some (p, some value) => { r with pending := none }.take p value

/-- An option without a value. -/
def flag (r : Reading) (p : Argument) : Except Stop Reading := do
  let r ← r.settle.mapError .error
  match p with
  | .help => .error .help
  | .version => .error .version
  | _ => (r.take p "").mapError .error

/-- An option with its value. -/
def attached (r : Reading) (p : Argument) (value : String) : Except Stop Reading :=
  (do (← r.settle).take p value : Except UsageError Reading).mapError .error

/-- An option that waits for its value. -/
def waiting (r : Reading) (p : Argument) : Except Stop Reading := do
  let r ← r.settle.mapError .error
  return { r with pending := some (p, none) }

/-- An option by its long name. -/
def long (r : Reading) (name : String) (value : Option String) : Except Stop Reading :=
  match Argument.ofLong? name with
  -- a word that is no option is reported before what still waits
  | none => .error (.error (.unexpectedArgument ("--" ++ name)))
  | some p =>
    match p.takesValue, value with
    | true, some value => r.attached p value
    | true, none => r.waiting p
    | false, some value => .error (.error (.unexpectedValue value p))
    | false, none => r.flag p

/-- Options by their short names. What stands behind the name of an option that
takes a value is the value, less one equals sign. -/
def cluster (r : Reading) : List Char → Except Stop Reading
  | [] => .ok r
  | c :: more =>
    match Argument.ofShort? c with
    | none => .error (.error (.unexpectedArgument (String.ofList ['-', c])))
    | some p =>
      if p.takesValue then
        match more with
        | [] => r.waiting p
        | '=' :: value => r.attached p (String.ofList value)
        | value => r.attached p (String.ofList value)
      else
        match r.flag p with
        | .ok r => cluster r more
        | .error e => .error e

/-- A value that belongs to no option: the host, then the session. -/
def positional (r : Reading) (text : String) : Except Stop Reading := do
  let wait (p : Argument) : Except Stop Reading := do
    let r ← r.settle.mapError .error
    return { r with pending := some (p, some text), positions := r.positions + 1 }
  match r.positions with
  | 0 => wait .host
  | 1 => wait .session
  | _ => .error (.error (.unexpectedArgument text))

/-- A value: that of the option that waits for one, or one that belongs to no
option. -/
def value (r : Reading) (text : String) : Except Stop Reading :=
  match r.pending with
  -- the value is only looked at when the next argument begins
  | some (p, none) => .ok { r with pending := some (p, some text) }
  | _ => r.positional text

/-- The next word. -/
def word (r : Reading) (text : String) : Except Stop Reading :=
  -- behind two dashes a value belongs to no option, even if one waits for it
  if r.plain then r.positional text
  else
    match Word.ofText text with
    | .terminator => .ok { r with plain := true }
    | .long name value => r.long name value
    | .cluster names => r.cluster names
    | .plain text => r.value text

/-- The argument that excludes another one. -/
def rival? : Argument → Option Argument
  | .new => some .session
  | .session => some .new
  | _ => none

/-- The first argument that excludes another one on the line. -/
def conflict? (r : Reading) : Option UsageError :=
  r.taken.findSome? fun p =>
    match rival? p with
    | some q => if q ∈ r.taken then some (.conflict p q) else none
    | none => none

/-- The values of a line that has been read to its end. -/
def finish (r : Reading) : Except UsageError Invocation := do
  let r ← r.settle
  -- what excludes each other is reported before what is missing
  match r.conflict? with
  | some e => .error e
  | none => if .host ∈ r.taken then .ok r.values else .error .missingHost

end Reading

/-- The invocation that the words of a command line write. -/
def Invocation.ofWords (words : List String) : Except Stop Invocation := do
  let r ← words.foldlM Reading.word {}
  r.finish.mapError .error

end RemoteConsole
