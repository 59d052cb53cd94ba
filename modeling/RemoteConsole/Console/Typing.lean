import RemoteConsole.Console.Terminal

/-!
# Typed bytes

What is typed comes as bytes. Every line feed ends a line, and the bytes of a
line have to be text.

* `Typing.input` — one line.
* `Typing.inputs` — all that is typed.
-/

namespace RemoteConsole.Typing

/-- Bytes parted behind every line feed. -/
def lines : List UInt8 → List (List UInt8)
  | [] => []
  | b :: rest =>
    if b = 10 then [b] :: lines rest
    else
      -- the last line may have no end
      match lines rest with
      | [] => [[b]]
      | line :: more => (b :: line) :: more

/-- A line without its end. -/
def trimLineEnd (text : List Char) : List Char :=
  Blank.dropEndWhile (fun c => c == '\r' || c == '\n') text

/-- A line of bytes as it is typed. -/
def input (bytes : List UInt8) : Input :=
  match Utf8.decode? bytes with
  | .ok text => .line (String.ofList (trimLineEnd text))
  | .error e => .failure e.message

/-- All that is typed. -/
def inputs (bytes : List UInt8) : List Input :=
  (lines bytes).map input

end RemoteConsole.Typing
