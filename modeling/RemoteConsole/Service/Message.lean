import RemoteConsole.Service.Journey
import RemoteConsole.Text.Blank

/-!
# Messages on a connection

A connection carries one request and one response. A response has a head of
lines, an empty line and a body, whose end is told by its length, by the sizes
of its chunks, or by the end of the connection.

* `Message.ofRequest` — the bytes of a request.
* `Message.reply` — what the bytes of a response come to.
-/

namespace RemoteConsole.Message

/-! ## Requests -/

/-- The lines of a request's head. -/
def headLines (u : Url) (q : Outgoing) : List String :=
  [q.method.text ++ " " ++ u.target ++ " HTTP/1.1",
    "host: " ++ u.host ++ Url.optional ":" (u.port.map toString),
    "accept: */*",
    "connection: close"]
    ++ (q.authorization.map ("authorization: " ++ ·)).toList
    ++ (q.body.map fun body => "content-length: " ++ toString (Utf8.size body)).toList

/-- The bytes of a request. -/
def ofRequest (u : Url) (q : Outgoing) : List UInt8 :=
  let head := String.join ((headLines u q ++ [""]).map (· ++ "\r\n"))
  Utf8.encode (head ++ q.body.getD "").toList

/-! ## Responses -/

/-- The first line of some bytes without its end, and what stands behind it. -/
def line? : List UInt8 → Option (List Char × List UInt8)
  | [] => none
  | b :: rest =>
    if b = 10 then some ([], rest)
    else if b = 13 ∧ rest.head? = some 10 then some ([], rest.tail)
    else (line? rest).map fun (text, more) => (Char.ofNat b.toNat :: text, more)

/-- The lines up to an empty one, and what stands behind it. Every line has a
byte, so that the bytes bound the lines. -/
def linesUpTo (bytes : List UInt8) : Nat → Option (List (List Char) × List UInt8)
  | 0 => none
  | fuel + 1 => do
    let (text, rest) ← line? bytes
    if text.isEmpty then some ([], rest)
    else
      let (more, rest) ← linesUpTo rest fuel
      some (text :: more, rest)

/-- The head of a response. -/
structure Head where
  /-- The status code. -/
  status : Nat
  /-- The fields by their names in small letters. -/
  fields : List (String × String)
  deriving DecidableEq, Repr

/-- The status code in the first line of a response. -/
def status? (text : List Char) : Option Nat := do
  let code := (text.dropWhile (· ≠ ' ')).drop 1
  let digits := code.takeWhile Char.isDigit
  if text.take 7 = "HTTP/1.".toList ∧ digits.length = 3 then decimal? digits else none

/-- A field of a head. -/
def field (text : List Char) : String × String :=
  (String.ofList ((text.takeWhile (· ≠ ':')).map Char.toLower),
    String.ofList (Blank.trim ((text.dropWhile (· ≠ ':')).drop 1)))

/-- The head of a response, and what stands behind it. -/
def head? (bytes : List UInt8) : Option (Head × List UInt8) := do
  match ← linesUpTo bytes (bytes.length + 1) with
  | (first :: fields, rest) => some (⟨← status? first, fields.map field⟩, rest)
  | ([], _) => none

/-- A body in chunks: each has its size on a line before it, and one of size
zero ends it. Every chunk has a byte, so that the bytes bound the chunks. -/
def chunks (bytes : List UInt8) : Nat → Option (List UInt8)
  | 0 => none
  | fuel + 1 => do
    let (text, rest) ← line? bytes
    let size ← Hex.number? ((text.takeWhile (· ≠ ';')).map Char.toNat)
    -- fields behind the last chunk are not looked at
    if size = 0 then some []
    else if rest.length < size then none
    else
      let (_, behind) ← line? (rest.drop size)
      return rest.take size ++ (← chunks behind fuel)

/-- The body behind a head, if all of it is there. -/
def body? (h : Head) (rest : List UInt8) : Option (List UInt8) :=
  if h.fields.lookup "transfer-encoding" = some "chunked" then chunks rest (rest.length + 1)
  else
    match h.fields.lookup "content-length" with
    -- without a length the body goes on to the end of the connection
    | none => some rest
    | some text =>
      match decimal? text.toList with
      | none => none
      | some n => if rest.length < n then none else some (rest.take n)

/-- The reply that a head and what stands behind it make. -/
def Head.reply (h : Head) (rest : List UInt8) : Reply :=
  let location := h.fields.lookup "location"
  if isBodiless h.status then .response { status := h.status, body := [], location }
  else
    match body? h rest with
    | some body => .response { status := h.status, body, location }
    | none =>
      -- where the answer lies elsewhere, this one need not be read to its end
      if isRedirect h.status && location.isSome then
        .response { status := h.status, body := [], location }
      else .broken .body

/-- What the bytes of a response come to. Responses that only say that another
one follows are passed over. -/
def replyOf (bytes : List UInt8) : Nat → Reply
  | 0 => .broken .sending
  | fuel + 1 =>
    match head? bytes with
    | none => .broken .sending
    -- the response proper stands behind the ones that only announce it
    | some (h, rest) => if isInterim h.status then replyOf rest fuel else h.reply rest

/-- What the bytes of a response come to. -/
def reply (bytes : List UInt8) : Reply :=
  replyOf bytes (bytes.length + 1)

end RemoteConsole.Message
