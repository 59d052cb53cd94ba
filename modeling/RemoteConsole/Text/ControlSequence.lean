import RemoteConsole.Text.Utf8

/-!
# Control sequences

Text that is typed on a command line may hold sequences that a terminal takes as
commands: those that start with an escape character, and single controls. A
report shows none of them.

* `State` — where a text stands within a sequence.
* `State.follow` — how a character goes on from there.
* `strip` — a text without sequences and controls, white space apart.
-/

namespace RemoteConsole.ControlSequence

/-- Where a text stands within a sequence. -/
inductive State where
  /-- Outside all sequences. -/
  | ground
  /-- Behind an escape character. -/
  | escape
  /-- Within an escape sequence of several characters. -/
  | escapeTail
  /-- Within a control sequence, whose last character is a letter or a sign like
  one. -/
  | control
  /-- At the start of a device string. -/
  | deviceStart
  /-- Within the numbers of a device string. -/
  | deviceNumbers
  /-- Within the signs between the numbers of a device string and its body. -/
  | deviceSigns
  /-- Within the body of a string, which only a terminator ends. -/
  | body
  /-- Within a system command, which a bell ends. -/
  | command
  deriving DecidableEq, Repr

/-- What a character comes to. -/
structure Effect where
  /-- The state behind it, if it changes. -/
  next : Option State
  /-- Whether it is shown. -/
  isShown : Bool
  deriving DecidableEq, Repr

namespace Effect

/-- A character that is shown. -/
def shown : Effect := ⟨none, true⟩

/-- A character that is not shown. -/
def passedOver : Effect := ⟨none, false⟩

/-- A character that leads to another state. -/
def enter (s : State) : Effect := ⟨some s, false⟩

end Effect

/-- Whether a control only moves to another place on the page. -/
def isSpacing (c : Char) : Bool :=
  c == '\t' || c == '\n' || c == '\x0c' || c == '\r'

/-- The byte that ends the body of a string. -/
def terminator : UInt8 := 0x9C

namespace State

/-- The state that a character behind an escape character leads to. -/
def ofIntroducer (c : Char) : State :=
  if c = '[' then control
  else if c = ']' then command
  else if c = 'P' then deviceStart
  else if c = 'X' ∨ c = '^' ∨ c = '_' then body
  else if c.toNat < 0x30 then escapeTail
  else ground

/-- The effect of a sign, a digit or a letter. -/
def followPrintable (c : Char) : State → Effect
  | ground => .shown
  | escape => .enter (ofIntroducer c)
  | escapeTail => if c.toNat < 0x30 then .passedOver else .enter ground
  | control => if c.toNat < 0x40 then .passedOver else .enter ground
  | deviceStart =>
    .enter (if c.toNat < 0x30 then deviceSigns else if c.toNat < 0x40 then deviceNumbers else body)
  | deviceNumbers =>
    if c.toNat < 0x30 then .enter deviceSigns
    else if c.toNat < 0x3C then .passedOver
    else .enter body
  | deviceSigns => if c.toNat < 0x30 then .passedOver else .enter body
  | body | command => .passedOver

/-- The effect of a control. -/
def followControl (c : Char) : State → Effect
  | ground | escape | escapeTail | control => if isSpacing c then .shown else .passedOver
  | command => if c = '\x07' then .enter ground else .passedOver
  | deviceStart | deviceNumbers | deviceSigns | body => .passedOver

/-- The effect of a character beyond ASCII. The body of a string is read byte by
byte. -/
def followWide (c : Char) : State → Effect
  | ground => ⟨some ground, true⟩
  | body => if terminator ∈ Utf8.encodeChar c then .enter ground else .passedOver
  | _ => .passedOver

/-- The effect of a character. Three of them do the same everywhere. -/
def follow (s : State) (c : Char) : Effect :=
  if c = '\x1b' then .enter escape
  else if c = '\x18' ∨ c = '\x1a' then .enter ground
  else if c = '\x7f' then .passedOver
  else if c.toNat < 0x20 then s.followControl c
  else if c.toNat < 0x80 then s.followPrintable c
  else s.followWide c

end State

/-- The shown characters of a text. Behind one that is shown all others count as
outside a sequence, until one is not shown; then the sequence goes on. -/
def stripFrom (afterShown : Bool) (s : State) : List Char → List Char
  | [] => []
  | c :: rest =>
    let effect := State.follow (if afterShown then .ground else s) c
    let s := effect.next.getD s
    if effect.isShown then c :: stripFrom true s rest else stripFrom false s rest

/-- The shown characters of a text. -/
def strip (text : List Char) : List Char :=
  stripFrom false .ground text

end RemoteConsole.ControlSequence
