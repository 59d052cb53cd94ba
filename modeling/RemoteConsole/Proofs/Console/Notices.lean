import RemoteConsole.Proofs.Console.Evaluation
import RemoteConsole.Proofs.Console.Passage
import RemoteConsole.Proofs.Console.Room
import RemoteConsole.Proofs.Text.Utf8

/-!
# What a console writes

Everything that a console writes is a notice of something that has just
happened: an evaluation is answered, a statement is dropped for an interrupt or
for a fault, or what is typed has come to its end. Somebody who sees the reads,
the requests and the interrupts of a run, with what they bring, can tell which
notices it gives and where: so the reads, requests and interrupts alone
determine the output, and the notices one after the other are all of it.

* `Occasion`, `Occasion.text` — what a notice is given of, and the notice.
* `Follower.occasion?`, `Follower.next` — what an entry of a log is an occasion
  of, to somebody who has followed the log up to there.
* `Follower.tell` — a log without output, with every notice put in its place.
* `Console.output_eq_notices` — a run gives these notices, all of them and no
  others.
-/

namespace RemoteConsole

open Statement (SyntaxError Buffer classify)

/-! ## Notices -/

/-- What a console gives notice of. -/
inductive Occasion where
  /-- An evaluation is answered. -/
  | answered (text : String)
  /-- What is typed or waited for is dropped for an interrupt. -/
  | interrupted
  /-- What is typed can never be a statement. -/
  | rejected (e : SyntaxError)
  /-- What is typed has come to its end. -/
  | ended
  deriving DecidableEq, Repr

/-- The notice: whole lines, or nothing where an answer is blank. An answer that
ends its last line itself gets no further line feed. -/
def Occasion.text : Occasion → String
  | answered text =>
    if text.toList.all Blank.isBlank then ""
    else if ['\n'] <:+ text.toList then text
    else text ++ "\n"
  | interrupted => "KeyboardInterrupt\n"
  | rejected e => "SyntaxError: " ++ e.message ++ " (line " ++ toString e.line ++ ")\n"
  | ended => "\n"

/-- The bytes of the notice. -/
def Occasion.bytes (o : Occasion) : List UInt8 :=
  Utf8.encode o.text.toList

/-- What a console says of an answer is the notice of it. The console looks at
the last character, the notice says how the text ends. -/
theorem resultNotice_eq (text : String) : resultNotice text = (Occasion.answered text).text := by
  have hLine : text.toList.getLast? = some '\n' ↔ ['\n'] <:+ text.toList := by
    rw [List.getLast?_eq_some_iff]
    exact exists_congr fun _ => eq_comm
  unfold resultNotice Occasion.text
  simp only [Blank.isBlankText, hLine]

/-- What a console says of a fault is the notice of it: the message, and the
number of the line in brackets. -/
theorem syntaxNotice_eq (e : SyntaxError) : syntaxNotice e = (Occasion.rejected e).text := by
  unfold syntaxNotice Statement.SyntaxError.display Occasion.text
  simp only [String.append_assoc]
  rfl

/-- Bytes that are nothing or end with a line feed. -/
def EndsLine (bytes : List UInt8) : Prop :=
  bytes = [] ∨ bytes.getLast? = some '\n'.toUInt8

/-- If two stretches of output leave no line half written, then neither do both
together. -/
theorem EndsLine.append {a b : List UInt8} (ha : EndsLine a) (hb : EndsLine b) : EndsLine (a ++ b) := by
  rcases hb with rfl | hb
  · rwa [List.append_nil]
  · exact .inr (by rw [List.getLast?_append, hb]; rfl)

/-- A notice is nothing, or its last line is whole. A line feed is the only byte
of its character, so the bytes end as the text does. -/
theorem Occasion.endsLine_bytes (o : Occasion) : EndsLine o.bytes := by
  have hFeed : Utf8.encode ['\n'] = ['\n'.toUInt8] := by decide
  -- as a text first: an answer may bring its line feed or be given one, the
  -- others have theirs
  have hLine : o.text.toList = [] ∨ ∃ line, o.text.toList = line ++ ['\n'] := by
    cases o with
    | answered text =>
      dsimp only [Occasion.text]
      split
      · exact .inl rfl
      split
      · next hSuffix =>
        obtain ⟨line, hLine⟩ := hSuffix
        exact .inr ⟨line, hLine.symm⟩
      · exact .inr ⟨text.toList, String.toList_append⟩
    | interrupted => exact .inr ⟨"KeyboardInterrupt".toList, by decide⟩
    | rejected e =>
      refine .inr ⟨("SyntaxError: " ++ e.message ++ " (line " ++ toString e.line ++ ")").toList, ?_⟩
      simp [Occasion.text]
    | ended => exact .inr ⟨[], rfl⟩
  unfold bytes
  rcases hLine with hNil | ⟨line, hLine⟩
  · exact .inl (by rw [hNil]; rfl)
  · rw [hLine, Utf8.encode_append, hFeed]
    exact .inr List.getLast?_concat

/-! ## Following a log -/

namespace Entry

/-- Whether an entry is output. -/
def isOutput : Entry → Bool
  | output _ => true
  | read .. | request _ | interrupted => false

/-- The bytes that the entries of a log write. -/
def bytes (log : List Entry) : List UInt8 :=
  Event.bytes (log.map event)

@[simp] theorem bytes_append (a b : List Entry) : bytes (a ++ b) = bytes a ++ bytes b := by
  simp [bytes]

/-- An entry that is no output writes nothing. -/
theorem bytes_cons_of_not_isOutput {e : Entry} (h : e.isOutput = false) (rest : List Entry) :
    bytes (e :: rest) = bytes rest := by
  cases e with
  | output b => cases h
  | read | request | interrupted => rfl

@[simp] theorem bytes_written (b : List UInt8) : bytes (written b) = b := by
  unfold bytes
  rw [← ofEvents_written b [], map_event_ofEvents, Event.bytes_written]

end Entry

/-- What somebody knows who has followed a log without its output. The client is
part of it, since an answer is seen only by the one who makes the request: the
log has the request, and the notice has the answer's text. -/
structure Follower where
  /-- The lines of the statement that is being typed. -/
  lines : List String
  /-- The client that makes the requests, with the replies that are still to
  come. -/
  client : Client
  /-- What evaluations that are left waiting still meet. -/
  waits : List Wait

namespace Follower

/-- Whether a line is a blank one in front of a statement. -/
def skips (f : Follower) (text : String) : Prop :=
  f.lines = [] ∧ Blank.isBlankText text.toList

instance (f : Follower) (text : String) : Decidable (f.skips text) :=
  inferInstanceAs (Decidable (_ ∧ _))

/-- The verdict on the statement that is being typed, with a further line. -/
def verdict (f : Follower) (text : String) : Statement.Verdict :=
  classify .interactive (joinedLines (f.lines ++ [text]))

/-- What an entry is an occasion of. A line has to be judged together with those
before it, and a request is an occasion only if it is answered; an evaluation
that is interrupted has an entry of its own. -/
def occasion? (f : Follower) : Entry → Option Occasion
  | .read _ .interrupt => some .interrupted
  | .read _ .finish => some .ended
  | .read _ (.failure _) => none
  | .read _ (.line text) =>
    if f.skips text then none
    else
      match f.verdict text with
      | .invalid e => some (.rejected e)
      | .complete | .incomplete => none
  | .request r =>
    match (f.client.journey r).reply with
    -- whatever its status is
    | .response r => some (.answered r.text)
    | .unreachable _ | .broken _ | .silence => none
  | .interrupted => if f.waits.head? = some .interrupt then some .interrupted else none
  | .output _ => none

/-- What is known after an entry. Output tells nothing new, since it can be told
from the rest. -/
def next (f : Follower) : Entry → Follower
  | .read _ .interrupt => { f with lines := [] }
  | .read _ (.line text) =>
    if f.skips text then f
    else
      match f.verdict text with
      | .invalid _ => { f with lines := [] }
      | .complete | .incomplete => { f with lines := f.lines ++ [text] }
  | .request r => { f with lines := [], client := f.client.afterward r }
  | .interrupted => { f with waits := f.waits.tail }
  | .read _ .finish | .read _ (.failure _) | .output _ => f

/-- What is known after some entries. -/
def after (f : Follower) (happened : List Entry) : Follower :=
  happened.foldl next f

/-- The notice that an entry is followed by. -/
def notice (f : Follower) (e : Entry) : List Entry :=
  match f.occasion? e with
  | none => []
  | some o => Entry.written o.bytes

/-- The occasions of some entries. -/
def occasions (f : Follower) : List Entry → List Occasion
  | [] => []
  | e :: rest => (f.occasion? e).toList ++ (f.next e).occasions rest

/-- Entries with the notices that they are followed by. -/
def tell (f : Follower) : List Entry → List Entry
  | [] => []
  | e :: rest => e :: (f.notice e ++ (f.next e).tell rest)

/-- Entries in two parts have the notices of the first part, and then those of
the second as told by somebody who has seen the first. -/
theorem tell_append (f : Follower) (a b : List Entry) :
    f.tell (a ++ b) = f.tell a ++ (f.after a).tell b := by
  induction a generalizing f with
  | nil => rfl
  | cons e rest ih => simp [tell, after, ih]

/-- A notice writes the bytes of its occasion, if there is one. -/
theorem bytes_notice (f : Follower) (e : Entry) :
    Entry.bytes (f.notice e) = (f.occasion? e).toList.flatMap Occasion.bytes := by
  unfold notice
  cases f.occasion? e with
  | none => rfl
  | some o => simp

/-- A notice is output and nothing else. -/
theorem isOutput_of_mem_notice {f : Follower} {e e' : Entry} (h : e' ∈ f.notice e) :
    e'.isOutput = true := by
  unfold notice Entry.written at h
  split at h
  · cases h
  split at h
  · cases h
  · rw [List.mem_singleton.mp h]
    rfl

variable {happened : List Entry}

/-- The notices one after the other are all the output. -/
theorem bytes_tell (f : Follower) (h : ∀ e ∈ happened, e.isOutput = false) :
    Entry.bytes (f.tell happened) = (f.occasions happened).flatMap Occasion.bytes := by
  induction happened generalizing f with
  | nil => rfl
  | cons e rest ih =>
    obtain ⟨he, hRest⟩ := List.forall_mem_cons.mp h
    rw [tell, Entry.bytes_cons_of_not_isOutput he, Entry.bytes_append, bytes_notice, ih _ hRest, occasions,
      List.flatMap_append]

/-- Without its output a log is what has happened, so that nothing else has to
be known to put the notices in. -/
theorem filter_tell (f : Follower) (h : ∀ e ∈ happened, e.isOutput = false) :
    (f.tell happened).filter (fun e => !e.isOutput) = happened := by
  induction happened generalizing f with
  | nil => rfl
  | cons e rest ih =>
    obtain ⟨he, hRest⟩ := List.forall_mem_cons.mp h
    have hNotice : (f.notice e).filter (fun e => !e.isOutput) = [] := by
      rw [List.filter_eq_nil_iff]
      intro e' he'
      simp [isOutput_of_mem_notice he']
    rw [tell, List.filter_cons_of_pos (by simp [he]), List.filter_append, hNotice, ih _ hRest, List.nil_append]

/-- Whatever is read next, what has been written up to there ends with a whole
line. The induction is on what has happened; the read is found behind the first
entry's notice or is that entry. -/
theorem endsLine_before_read {f : Follower} (h : ∀ e ∈ happened, e.isOutput = false)
    {before after : List Entry} {p : String} {input : Input}
    (hLog : f.tell happened = before ++ .read p input :: after) : EndsLine (Entry.bytes before) := by
  induction happened generalizing f before with
  | nil => simp [tell] at hLog
  | cons e rest ih =>
    obtain ⟨he, hRest⟩ := List.forall_mem_cons.mp h
    -- either the read stands first, with nothing written before it, or the
    -- first entry is in front of it
    cases before with
    | nil => exact .inl rfl
    | cons e' before =>
      obtain ⟨rfl, hMore⟩ := List.cons.inj hLog
      have hNotice : EndsLine (Entry.bytes (f.notice e)) := by
        rw [bytes_notice]
        cases f.occasion? e with
        | none => exact .inl rfl
        | some o => simpa using o.endsLine_bytes
      rw [Entry.bytes_cons_of_not_isOutput he]
      -- a read is no output, so it does not stand in the notice
      rcases List.append_eq_append_iff.mp hMore with ⟨before', rfl, hRead⟩ | ⟨more, hPart, hRead⟩
      · rw [Entry.bytes_append]
        exact hNotice.append (ih hRest hRead)
      · cases more with
        | nil =>
          rw [List.append_nil] at hPart
          rwa [← hPart]
        | cons e' more =>
          obtain ⟨rfl, -⟩ := List.cons.inj hRead
          have hMem : Entry.read p input ∈ f.notice e := by simp [hPart]
          cases isOutput_of_mem_notice hMem

/-! ## Turns -/

/-- What is known is right about a conversation whose output has no limit. -/
structure Knows (f : Follower) (c : Conversation) : Prop where
  room : c.terminal.room = none
  waits : c.terminal.waits = f.waits
  /-- Nobody but the exit command closes the client, and no journey depends on
  whether it is closed. -/
  client : ∃ closed, c.console.client = { f.client with isClosed := closed }
  mode : c.console.buffer.mode = .interactive
  /-- The exit command is the last thing that is typed, so nobody asks any more
  what the buffer holds. -/
  lines : c.console.phase ≠ .closed → c.console.buffer.lines = bareLines f.lines
  firstLine_iff : c.console.isReading → (c.console.phase = .firstLine ↔ f.lines = [])

/-- What is seen of a turn is what has happened, with its notices, and what is
known stays right. -/
def Explains (f : Follower) (log : List Entry) (turn : Turn) : Prop :=
  ∃ happened, (∀ e ∈ happened, e.isOutput = false) ∧ log = f.tell happened ∧
    (turn.ending = none → (f.after happened).Knows turn.next)

variable {f : Follower} {c : Conversation}

/-- A line that is typed joins those that are known. -/
theorem Knows.lines_push (h : f.Knows c) (hReading : c.console.isReading) (text : String) :
    (c.console.buffer.push text.toList).lines = bareLines (f.lines ++ [text]) := by
  unfold Buffer.push
  rw [h.lines hReading.ne_closed, bareLines, bareLines, List.map_append]
  rfl

/-- The console's verdict on a further line is the one that is known. -/
theorem Knows.verdict_push (h : f.Knows c) (hReading : c.console.isReading) (text : String) :
    (c.console.buffer.push text.toList).verdict = f.verdict text := by
  unfold Buffer.verdict Buffer.text Follower.verdict joinedLines
  rw [h.lines_push hReading]
  exact congrArg (classify · _) h.mode

/-- The console passes over a blank line exactly where it is known to. -/
theorem Knows.skips_iff (h : f.Knows c) (hReading : c.console.isReading) (text : String) :
    (c.console.phase = .firstLine ∧ Blank.isBlankText text.toList) ↔ f.skips text := by
  unfold skips
  rw [h.firstLine_iff hReading]

/-- The journey of a request is the one that is known, as it does not depend on
whether the client is closed. -/
theorem Knows.journey_eq (h : f.Knows c) (r : Request) :
    c.console.client.journey r = f.client.journey r := by
  obtain ⟨closed, hClient⟩ := h.client
  rw [hClient]
  rfl

/-- An entry with its notice behind it: the commonest form of a turn. -/
theorem explains_notice {e : Entry} {turn : Turn} {out : List Entry} (he : e.isOutput = false)
    (hOut : out = f.notice e) (hNext : turn.ending = none → (f.next e).Knows turn.next) :
    f.Explains (e :: out) turn :=
  ⟨[e], List.forall_mem_singleton.mpr he, by simp [tell, hOut], hNext⟩

theorem Explains.cons {e : Entry} {turn : Turn} {log : List Entry} (he : e.isOutput = false)
    (hQuiet : f.notice e = []) (h : (f.next e).Explains log turn) : f.Explains (e :: log) turn := by
  obtain ⟨happened, hHappened, rfl, hNext⟩ := h
  exact ⟨e :: happened, List.forall_mem_cons.mpr ⟨he, hHappened⟩, by simp [tell, hQuiet], hNext⟩

/-- An entry of which the turn gives notice. Where the notice cannot be shown,
the turn ends the run. -/
theorem explains_say {e : Entry} {o : Occasion} (hOccasion : f.occasion? e = some o)
    (he : e.isOutput = false) {text : String} (hText : text = o.text) {t : Terminal} (hRoom : t.room = none)
    (k : Console) (shown : Bool) (phase : Phase) (ending : Option Ending) (inputs : List Input) {turn : Turn}
    (hTurn : turn.next = (Conversation.say ⟨k, t⟩ text shown phase ending).next ∧
      turn.ending = (Conversation.say ⟨k, t⟩ text shown phase ending).ending)
    (hNext : ending = none → ∀ t' : Terminal, t'.room = none → t'.waits = t.waits →
      (f.next e).Knows ⟨{ k with phase := phase }, t'⟩) :
    f.Explains (e :: Entry.ofEvents (Conversation.say ⟨k, t⟩ text shown phase ending).events inputs)
      turn := by
  obtain ⟨hEvents, hRoom', hWaits, hWhole⟩ :=
    Conversation.say_of_room_eq_none hRoom k text shown phase ending
  -- without a limit the whole text is written, and it is the notice of the
  -- occasion
  rw [hEvents, Entry.ofEvents_written, hText]
  refine explains_notice he ?_ fun hEnding => ?_
  · unfold notice
    rw [hOccasion]
    rfl
  · -- the console goes on only if all went well
    rw [hTurn.2] at hEnding
    obtain ⟨hNone, hConsole⟩ := hWhole hEnding
    have hKnows := hNext hNone _ hRoom' hWaits
    rw [← hConsole] at hKnows
    rw [hTurn.1]
    exact hKnows

/-- What is known before a first line. Every turn that drops a statement or has
it answered comes here, with nothing in the buffer and the interrupts and
replies that are left. -/
theorem Knows.anew {k : Console} {t : Terminal} {waits : List Wait} (h : f.Knows c)
    (hClient : k.client = c.console.client) (hMode : k.buffer.mode = c.console.buffer.mode)
    (hLines : k.buffer.lines = []) (hPhase : k.phase = .firstLine) (hRoom : t.room = none)
    (hWaits : t.waits = waits) : Knows { f with lines := [], waits := waits } ⟨k, t⟩ where
  room := hRoom
  waits := hWaits
  client := by
    rw [hClient]
    exact h.client
  mode := hMode.trans h.mode
  lines _ := hLines
  firstLine_iff _ := by simp [hPhase]

/-- What is known after a line of a statement, whether the next one is to be
read or the statement is complete. -/
theorem Knows.taken (h : f.Knows c) (hReading : c.console.isReading) (text : String) {phase : Phase}
    (hPhase : phase ≠ .firstLine) :
    Knows { f with lines := f.lines ++ [text] }
      ⟨{ c.console with buffer := c.console.buffer.push text.toList, phase := phase }, c.terminal⟩ where
  room := h.room
  waits := h.waits
  client := h.client
  mode := h.mode
  lines _ := h.lines_push hReading text
  firstLine_iff _ := by simp [hPhase]

/-- The exit command writes nothing, and once the client is closed no line is
asked for. At a console whose client is closed already it ends the run. -/
theorem Knows.exit (h : f.Knows c) {b : Buffer} (hMode : b.mode = .interactive) (lines : List String) :
    let turn := Conversation.exit ⟨{ c.console with buffer := b }, c.terminal⟩
    turn.events = [] ∧ (turn.ending = none → Knows { f with lines := lines } turn.next) := by
  unfold Conversation.exit Client.close
  cases hClosed : c.console.client.isClosed with
  | true => exact ⟨rfl, nofun⟩
  -- only whether the client is closed changes, which is the one thing not known
  -- of it
  | false =>
    refine ⟨rfl, fun _ => ?_⟩
    exact {
      room := h.room
      waits := h.waits
      client := by
        obtain ⟨_, hClient⟩ := h.client
        rw [hClient]
        exact ⟨true, rfl⟩
      mode := hMode
      lines := by simp
      firstLine_iff := by simp [Console.isReading] }

/-- A turn that reads a line is explained by it. The cases are those of the
console: a blank line in front of a statement, and the three verdicts, of which
a complete one may be the exit command. -/
theorem Knows.accept (h : f.Knows c) (hReading : c.console.isReading) (p text : String)
    (inputs : List Input) :
    f.Explains (.read p (.line text) :: Entry.ofEvents (c.accept text).events inputs) (c.accept text) := by
  unfold Conversation.accept
  -- whether the line is skipped is known, and if not, so is the verdict on it
  by_cases hSkips : f.skips text
  · rw [if_pos ((h.skips_iff hReading text).mpr hSkips)]
    refine explains_notice rfl ?_ fun _ => ?_
    · simp [notice, occasion?, hSkips, Entry.ofEvents]
    · simpa [next, hSkips] using h
  rw [if_neg (mt (h.skips_iff hReading text).mp hSkips)]
  dsimp only
  rw [h.verdict_push hReading]
  cases hVerdict : f.verdict text with
  | incomplete =>
    refine explains_notice rfl ?_ fun _ => ?_
    · simp [notice, occasion?, hSkips, hVerdict, Conversation.enter, Entry.ofEvents]
    · simpa [next, hSkips, hVerdict, Conversation.enter] using
        h.taken hReading text (show Phase.continuation ≠ .firstLine by simp)
  | complete =>
    -- no notice is given of a complete text, whether it is sent or is the exit
    -- command
    have hQuiet : f.notice (.read p (.line text)) = [] := by
      simp [notice, occasion?, hSkips, hVerdict]
    have hNext : f.next (.read p (.line text)) = { f with lines := f.lines ++ [text] } := by
      simp [next, hSkips, hVerdict]
    dsimp only
    split
    · -- the exit command closes the client, or ends the run
      obtain ⟨hEvents, hKnows⟩ := h.exit (b := (c.console.buffer.push text.toList).clear) h.mode
        (f.lines ++ [text])
      refine explains_notice rfl ?_ fun hEnding => ?_
      · rw [hQuiet]
        exact congrArg (Entry.ofEvents · inputs) hEvents
      · rw [hNext]
        exact hKnows hEnding
    · refine explains_notice rfl hQuiet.symm fun _ => ?_
      rw [hNext]
      exact h.taken hReading text (by simp)
  | invalid e =>
    have hNext : f.next (.read p (.line text)) = { f with lines := [] } := by
      simp [next, hSkips, hVerdict]
    have hOccasion : f.occasion? (.read p (.line text)) = some (.rejected e) := by
      simp [occasion?, hSkips, hVerdict]
    -- the fault is reported and the lines are dropped
    refine explains_say hOccasion rfl (syntaxNotice_eq e) h.room _ _ _ _ _ ⟨rfl, rfl⟩ fun _ t hRoom hWaits => ?_
    rw [hNext]
    exact h.anew rfl rfl rfl rfl hRoom (hWaits.trans h.waits)

theorem Knows.tail (h : f.Knows c) :
    f.Knows { c with terminal := { c.terminal with inputs := c.terminal.inputs.tail } } :=
  ⟨h.room, h.waits, h.client, h.mode, h.lines, h.firstLine_iff⟩

/-- A turn at a prompt is explained by what is read there: a line, an interrupt,
the end of what is typed or a failure. -/
theorem Knows.read (h : f.Knows c) (hReading : c.console.isReading) :
    f.Explains (Entry.ofEvents c.read.events c.terminal.inputs) c.read := by
  -- the inputs are one shorter in each case, which is nothing that has to be
  -- known
  have hTail := h.tail
  unfold Conversation.read
  rw [Terminal.next_eq]
  dsimp only [Entry.ofEvents]
  cases c.terminal.inputs.headD .finish with
  | line text => exact hTail.accept hReading c.prompt text _
  | interrupt =>
    have hOccasion : f.occasion? (.read c.prompt .interrupt) = some .interrupted := rfl
    exact explains_say hOccasion rfl rfl hTail.room _ _ _ _ _ ⟨rfl, rfl⟩ fun _ t hRoom hWaits =>
      h.anew rfl rfl rfl rfl hRoom (hWaits.trans h.waits)
  | finish =>
    have hOccasion : f.occasion? (.read c.prompt .finish) = some .ended := rfl
    exact explains_say hOccasion rfl rfl hTail.room _ _ _ _ _ ⟨rfl, rfl⟩ nofun
  | failure m => exact explains_notice rfl rfl nofun

/-- A turn that is left waiting is explained by the interrupt that ends it, or
it meets a failure and is silent. -/
theorem Knows.awaitInterrupt (h : f.Knows c) (hBuffer : c.console.buffer.lines = []) (hNone : f.lines = [])
    (inputs : List Input) :
    f.Explains (Entry.ofEvents c.awaitInterrupt.events inputs) c.awaitInterrupt := by
  unfold Conversation.awaitInterrupt Terminal.nextWait?
  have hWaits := h.waits
  -- a wait that meets nothing ends the run, as does a failure
  cases hMet : c.terminal.waits with
  | nil => exact ⟨[], by simp, rfl, nofun⟩
  | cons wait rest =>
    -- a wait that meets something leaves the waits behind it, here and in what
    -- is known
    rw [hMet] at hWaits
    dsimp only [Entry.ofEvents]
    cases wait with
    | failure m =>
      have hQuiet : f.notice .interrupted = [] := by simp [notice, occasion?, ← hWaits]
      exact explains_notice rfl hQuiet.symm nofun
    | interrupt =>
      have hOccasion : f.occasion? .interrupted = some .interrupted := by simp [occasion?, ← hWaits]
      have hNext : f.next .interrupted = { f with lines := [], waits := rest } := by
        rw [← hNone]
        simp [next, ← hWaits]
      have hRoom : ({ c.terminal with waits := rest } : Terminal).room = none := h.room
      refine explains_say hOccasion rfl rfl hRoom _ _ _ _ _ ⟨rfl, rfl⟩ fun _ t hRoom' hRest => ?_
      rw [hNext]
      exact h.anew rfl rfl hBuffer rfl hRoom' hRest

/-- What is known when a request is under way: the statement has left the
buffer, and the reply is used up. -/
theorem Knows.sent (h : f.Knows c) (hPhase : c.console.phase = .dispatching) (r : Request) :
    Knows { f with lines := [], client := f.client.afterward r }
      ⟨{ c.console with
          buffer := c.console.buffer.clear
          client := c.console.client.afterward r }, c.terminal⟩ where
  room := h.room
  waits := h.waits
  client := by
    obtain ⟨closed, hClient⟩ := h.client
    rw [hClient]
    exact ⟨closed, rfl⟩
  mode := h.mode
  lines _ := rfl
  firstLine_iff hReading := by simp [Console.isReading, hPhase] at hReading

/-- A turn that evaluates is explained by its request, whose journey brings an
answer, fails or leaves the console waiting. A client that is closed makes no
request and ends the run without a word. -/
theorem Knows.dispatch (h : f.Knows c) (hPhase : c.console.phase = .dispatching) (inputs : List Input) :
    f.Explains (Entry.ofEvents c.dispatch.events inputs) c.dispatch := by
  unfold Conversation.dispatch Buffer.take
  dsimp only
  cases hClosed : c.console.client.isClosed with
  -- closed, and so without a request or a word
  | true =>
    rw [Client.eval_of_closed hClosed]
    exact ⟨[], by simp, rfl, nofun⟩
  | false =>
    obtain ⟨hRequests, hClient⟩ := Client.eval_of_open hClosed c.console.session
      (String.ofList c.console.buffer.text)
    have hOutcome := Conversation.outcome_eval hClosed c.console.session
      (String.ofList c.console.buffer.text)
    -- the journey is the one that is expected, whether or not the client is
    -- known to be open
    rw [h.journey_eq] at hOutcome
    rw [hRequests, hClient, hOutcome]
    generalize (⟨.put, Route.session c.console.session, some (String.ofList c.console.buffer.text)⟩ :
      Request) = r
    have hSent := h.sent hPhase r
    -- the reply decides what the evaluation comes to, and whether there is a
    -- notice of it
    cases hReply : (f.client.journey r).reply with
    | response response =>
      have hOccasion : f.occasion? (.request r) = some (.answered response.text) := by
        simp [occasion?, hReply]
      exact explains_say hOccasion rfl (resultNotice_eq response.text) h.room _ _ _ _ _ ⟨rfl, rfl⟩
        fun _ t hRoom hWaits => hSent.anew rfl rfl rfl rfl hRoom (hWaits.trans h.waits)
    | unreachable cause | broken cause =>
      have hQuiet : f.notice (.request r) = [] := by simp [notice, occasion?, hReply]
      exact explains_notice rfl hQuiet.symm nofun
    | silence =>
      have hQuiet : f.notice (.request r) = [] := by simp [notice, occasion?, hReply]
      exact (hSent.awaitInterrupt rfl rfl inputs).cons rfl hQuiet

/-- A turn gives the notices of what happens in it, whatever phase the console
is in. -/
theorem Knows.turn (h : f.Knows c) : f.Explains c.turnLog c.turn := by
  unfold Conversation.turnLog Conversation.turn
  cases hPhase : c.console.phase with
  | closed => exact ⟨[], by simp, rfl, nofun⟩
  | dispatching => exact h.dispatch hPhase _
  | firstLine => exact h.read (.inl hPhase)
  | continuation => exact h.read (.inr hPhase)

/-! ## Runs -/

/-- A run gives the notices of what happens in it. The induction is on the
turns, and it is carried by what is known being right: each turn leaves it so
for the next. -/
theorem Knows.runFor (h : f.Knows c) (turns : Nat) :
    ∃ happened, (∀ e ∈ happened, e.isOutput = false) ∧ c.log turns = f.tell happened := by
  induction turns generalizing f c with
  | zero => exact ⟨[], by simp, rfl⟩
  | succ n ih =>
    obtain ⟨happened, hHappened, hTurn, hNext⟩ := h.turn
    cases hEnding : c.turn.ending with
    | some e => exact ⟨happened, hHappened, by rw [Conversation.log_succ_of_ending hEnding, hTurn]⟩
    | none =>
      -- the next turn is followed by somebody who has seen this one
      obtain ⟨more, hMore, hRest⟩ := ih (hNext hEnding)
      refine ⟨happened ++ more, List.forall_mem_append.mpr ⟨hHappened, hMore⟩, ?_⟩
      rw [Conversation.log_succ_of_none hEnding, hTurn, hRest, tell_append]

end Follower

theorem Conversation.withRoom_room (c : Conversation) : c.withRoom c.terminal.room = c := rfl

/-- A run whose output fits is seen as it is without a limit. -/
theorem Conversation.events_run_of_fits {c : Conversation}
    (h : ∀ limit ∈ c.terminal.room, (Event.bytes (c.withRoom none).run.events).length ≤ limit) :
    c.run.events = (c.withRoom none).run.events := by
  cases hRoom : c.terminal.room with
  | none => rw [← hRoom, withRoom_room]
  | some limit =>
    have hHeld : c.withRoom (some limit) = c := by rw [← hRoom, withRoom_room]
    have hSame := (c.run_withRoom limit).2.2.1 (h limit hRoom)
    rw [hHeld] at hSame
    rw [hSame]

end RemoteConsole
