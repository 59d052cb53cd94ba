import RemoteConsole.Proofs.Console.Coherence

/-!
# Passages

All that is typed at a console falls into *passages*: lines typed one after the
other that come to one end. A blank line in front of a statement is skipped.
Other lines are sent as one statement, show that they can never be one, are
dropped by an interrupt at the prompt, are the exit command, or are still being
typed when the run ends. `Passage.Seen` says for each of these what is read and
requested, which prompt is shown, and what the verdicts on the lines have been.
A run is told by passages one after the other, with nothing left out in between.

* `Passage`, `Passage.Fate` — lines and what becomes of them.
* `Passage.Seen` — what is seen of a passage.
* `Progress.step` — a step goes on with the passage at hand or brings it to its
  end.
* `Console.exists_passages` — every run is told by passages.
-/

namespace RemoteConsole

open Statement (Buffer SyntaxError classify)

/-! ## Passages -/

/-- What becomes of lines typed one after the other. -/
inductive Passage.Fate where
  /-- A blank line stands in front of a statement. -/
  | skipped
  /-- They are sent as one statement. -/
  | sent
  /-- They can never be a statement. -/
  | rejected (e : SyntaxError)
  /-- An interrupt at the prompt drops them. -/
  | dropped
  /-- They are the exit command. -/
  | exited
  /-- Nothing more is typed, so that they stay in the buffer. -/
  | kept
  deriving DecidableEq, Repr

/-- Lines typed one after the other, and what becomes of them. -/
structure Passage where
  lines : List String
  fate : Passage.Fate
  deriving DecidableEq, Repr

/-- Typed lines without their line breaks. -/
def bareLines (lines : List String) : List (List Char) :=
  lines.map fun text => Buffer.stripBreak text.toList

/-- The text that typed lines make up. -/
def joinedLines (lines : List String) : List Char :=
  List.intercalate ['\n'] (bareLines lines)

/-- However many of the lines have been typed, they have been unfinished: at no
earlier line could the statement have been sent or refused. -/
def Unfinished (lines : List String) : Prop :=
  ∀ part, part <+: lines → part ≠ [] → classify .interactive (joinedLines part) = .incomplete

/-- The prompt after some lines of a statement. -/
def Prompts.after (prompts : Prompts) (lines : List String) : String :=
  if lines.isEmpty then prompts.first else prompts.continuation

/-- The reads of the lines of a statement. -/
def Prompts.reads (prompts : Prompts) : List String → List Entry
  | [] => []
  | text :: rest =>
    .read prompts.first (.line text) :: rest.map fun text => .read prompts.continuation (.line text)

namespace Entry

/-- The line that is read. -/
def line? : Entry → Option String
  | read _ (.line text) => some text
  | _ => none

/-- The request that is made. -/
def request? : Entry → Option Request
  | request r => some r
  | _ => none

/-- Nothing is read or requested. -/
def IsQuiet : Entry → Prop
  | output _ | interrupted => True
  | read .. | request _ => False

end Entry

namespace Passage

/-- The requests of a passage. -/
def requests (session : SessionId) (p : Passage) : List Request :=
  match p.fate with
  | .sent => [⟨.put, Route.session session, some (String.ofList (joinedLines p.lines))⟩]
  | _ => []

/-- What a passage leaves in the buffer. -/
def leftOver (p : Passage) : List (List Char) :=
  match p.fate with
  | .kept => bareLines p.lines
  | _ => []

/-- What is seen of a passage. An interrupt or the end of what is typed may find
that no line has been typed. -/
inductive Seen (session : SessionId) (prompts : Prompts) : Passage → List Entry → Prop
  | skipped {text : String} (hBlank : Blank.isBlankText text.toList) :
      Seen session prompts ⟨[text], .skipped⟩ [.read prompts.first (.line text)]
  | sent {lines : List String} {last : String} {out : List Entry} (hOpen : Unfinished lines)
      (hVerdict : classify .interactive (joinedLines (lines ++ [last])) = .complete)
      (hExit : joinedLines (lines ++ [last]) ≠ exitCommand.toList) (hQuiet : ∀ e ∈ out, e.IsQuiet) :
      Seen session prompts ⟨lines ++ [last], .sent⟩
        (prompts.reads (lines ++ [last]) ++
          .request ⟨.put, Route.session session, some (String.ofList (joinedLines (lines ++ [last])))⟩ ::
            out)
  | rejected {lines : List String} {last : String} {e : SyntaxError} {out : List Entry}
      (hOpen : Unfinished lines)
      (hVerdict : classify .interactive (joinedLines (lines ++ [last])) = .invalid e)
      (hQuiet : ∀ e ∈ out, e.IsQuiet) :
      Seen session prompts ⟨lines ++ [last], .rejected e⟩ (prompts.reads (lines ++ [last]) ++ out)
  | dropped {lines : List String} {out : List Entry} (hOpen : Unfinished lines)
      (hQuiet : ∀ e ∈ out, e.IsQuiet) :
      Seen session prompts ⟨lines, .dropped⟩
        (prompts.reads lines ++ .read (prompts.after lines) .interrupt :: out)
  | exited {text : String} (hExit : Buffer.stripBreak text.toList = exitCommand.toList) :
      Seen session prompts ⟨[text], .exited⟩ [.read prompts.first (.line text)]
  | kept {lines : List String} {input : Input} {out : List Entry} (hOpen : Unfinished lines)
      (hInput : input = .finish ∨ ∃ m, input = .failure m) (hQuiet : ∀ e ∈ out, e.IsQuiet) :
      Seen session prompts ⟨lines, .kept⟩
        (prompts.reads lines ++ .read (prompts.after lines) input :: out)

end Passage

/-- What is seen is told by passages one after the other. -/
inductive Tells (session : SessionId) (prompts : Prompts) : List Passage → List Entry → Prop
  | nil : Tells session prompts [] []
  | snoc {passages : List Passage} {p : Passage} {told part : List Entry}
      (h : Tells session prompts passages told) (hSeen : p.Seen session prompts part) :
      Tells session prompts (passages ++ [p]) (told ++ part)

/-! ## Lines and requests -/

/-- The reads of a statement are of its lines, and they request nothing. -/
theorem filterMap_reads (prompts : Prompts) (lines : List String) :
    (prompts.reads lines).filterMap Entry.line? = lines ∧
      (prompts.reads lines).filterMap Entry.request? = [] := by
  cases lines with
  | nil => exact ⟨rfl, rfl⟩
  | cons text rest =>
    simp [Prompts.reads, Entry.line?, Entry.request?, List.filterMap_map, Function.comp_def]

/-- Entries that read and request nothing have neither lines nor requests. -/
theorem filterMap_of_isQuiet {out : List Entry} (h : ∀ e ∈ out, e.IsQuiet) :
    out.filterMap Entry.line? = [] ∧ out.filterMap Entry.request? = [] := by
  have hNone : ∀ e : Entry, e.IsQuiet → e.line? = none ∧ e.request? = none := by
    intro e hQuiet
    cases e with
    | output | interrupted => exact ⟨rfl, rfl⟩
    | read | request => exact hQuiet.elim
  simp only [List.filterMap_eq_nil_iff]
  exact ⟨fun e he => (hNone e (h e he)).1, fun e he => (hNone e (h e he)).2⟩

variable {session : SessionId} {prompts : Prompts}

/-- The reads of a statement with one entry and quiet ones behind them: this is
how a passage looks unless it is a blank line or the exit command. -/
theorem filterMap_reads_append (prompts : Prompts) (lines : List String) {e : Entry}
    (he : e.line? = none) {out : List Entry} (hQuiet : ∀ e ∈ out, e.IsQuiet) :
    (prompts.reads lines ++ e :: out).filterMap Entry.line? = lines ∧
      (prompts.reads lines ++ e :: out).filterMap Entry.request? = e.request?.toList := by
  obtain ⟨hLines, hRequests⟩ := filterMap_reads prompts lines
  obtain ⟨hNoLines, hNoRequests⟩ := filterMap_of_isQuiet hQuiet
  constructor
  · rw [List.filterMap_append, hLines, List.filterMap_cons_none he, hNoLines, List.append_nil]
  · rw [List.filterMap_append, hRequests, List.nil_append, List.filterMap_cons, hNoRequests]
    cases e.request? <;> rfl

/-- The lines of a passage are read once each and in order, and its requests are
those of its fate. The cases are the fates. -/
theorem Passage.Seen.filterMap_eq {p : Passage} {part : List Entry}
    (h : p.Seen session prompts part) :
    part.filterMap Entry.line? = p.lines ∧ part.filterMap Entry.request? = p.requests session := by
  cases h with
  | skipped | exited => exact ⟨rfl, rfl⟩
  -- here the output follows the reads at once, as no entry ends the passage
  | rejected _ _ hQuiet =>
    obtain ⟨hLines, hRequests⟩ := filterMap_reads prompts (_ ++ [_])
    obtain ⟨hNoLines, hNoRequests⟩ := filterMap_of_isQuiet hQuiet
    rw [List.filterMap_append, List.filterMap_append, hLines, hRequests, hNoLines, hNoRequests,
      List.append_nil]
    exact ⟨rfl, rfl⟩
  -- a request, an interrupt or a failed read stands between the lines and the
  -- output
  | sent _ _ _ hQuiet | dropped _ hQuiet => exact filterMap_reads_append prompts _ rfl hQuiet
  | kept _ hInput hQuiet =>
    rcases hInput with rfl | ⟨m, rfl⟩ <;> exact filterMap_reads_append prompts _ rfl hQuiet

/-- Passages account for all lines and all requests, since each of them accounts
for its own. -/
theorem Tells.eq_flatMap {passages : List Passage} {told : List Entry}
    (h : Tells session prompts passages told) :
    told.filterMap Entry.line? = passages.flatMap Passage.lines ∧
      told.filterMap Entry.request? = passages.flatMap (Passage.requests session) := by
  induction h with
  | nil => exact ⟨rfl, rfl⟩
  | snoc h hSeen ih =>
    simp [ih.1, ih.2, hSeen.filterMap_eq.1, hSeen.filterMap_eq.2]

/-! ## The passage at hand -/

theorem unfinished_nil : Unfinished [] := by
  intro part hPart hNotNil
  exact absurd (List.prefix_nil.mp hPart) hNotNil

/-- A line that leaves its statement unfinished leaves it so at every line up to
there. -/
theorem Unfinished.concat {lines : List String} {text : String} (h : Unfinished lines)
    (hVerdict : classify .interactive (joinedLines (lines ++ [text])) = .incomplete) :
    Unfinished (lines ++ [text]) := by
  intro part hPart hNotNil
  rcases List.prefix_concat_iff.mp hPart with rfl | hEarlier
  · exact hVerdict
  · exact h part hEarlier hNotNil

/-- A further line is read at the prompt that the lines before it call for. -/
theorem reads_concat (prompts : Prompts) (lines : List String) (text : String) :
    prompts.reads (lines ++ [text]) =
      prompts.reads lines ++ [.read (prompts.after lines) (.line text)] := by
  cases lines with
  | nil => rfl
  | cons first rest => simp [Prompts.reads, Prompts.after]

/-- What is said is output, which is quiet. -/
theorem Said.isQuiet {text : String} {out : List Entry} {failure : Option String}
    (h : Said text out failure) :
    ∀ e ∈ out, e.IsQuiet := by
  obtain ⟨bytes, rfl, -, -⟩ := h
  unfold Entry.written
  split <;> simp [Entry.IsQuiet]

/-- Two lines never make up the exit command. -/
theorem eq_nil_of_joinedLines_eq {lines : List String} {last : String}
    (h : joinedLines (lines ++ [last]) = exitCommand.toList) : lines = [] := by
  cases lines with
  | nil => rfl
  | cons first rest =>
    -- a line feed stands between two lines, and the command has none
    have hFeed : '\n' ∈ joinedLines (first :: rest ++ [last]) := by
      unfold joinedLines bareLines
      cases rest <;> simp [List.intercalate_cons_cons]
    rw [h] at hFeed
    exact absurd hFeed (by decide)

namespace Console

/-- The lines in the buffer are those of the passage at hand, and the phase says
how far it has come: while it is read all its lines leave it unfinished, and
when it is about to be sent the last one completes it. -/
structure Holds (session : SessionId) (prompts : Prompts) (lines : List String) (k : Console) :
    Prop where
  session_eq : k.session = session
  prompts_eq : k.prompts = prompts
  mode : k.buffer.mode = .interactive
  lines_eq : k.buffer.lines = bareLines lines
  isClosed_iff : k.client.isClosed = true ↔ k.phase = .closed
  firstLine_iff : k.isReading → (k.phase = .firstLine ↔ lines = [])
  reading : k.isReading → Unfinished lines
  dispatching : k.phase = .dispatching → ∃ most last, lines = most ++ [last] ∧ Unfinished most ∧
    classify .interactive (joinedLines lines) = .complete ∧ joinedLines lines ≠ exitCommand.toList
  closed : k.phase = .closed → lines = []

variable {k : Console} {lines : List String}

/-- Before the first line no passage is at hand. -/
theorem holds_start (session : SessionId) (prompts : Prompts) (client : Client)
    (hOpen : client.isClosed = false) : (start session prompts client).Holds session prompts [] where
  session_eq := rfl
  prompts_eq := rfl
  mode := rfl
  lines_eq := rfl
  isClosed_iff := by simp [start, hOpen]
  firstLine_iff _ := by simp [start]
  reading _ := unfinished_nil
  dispatching h := by cases h
  closed _ := rfl

theorem Holds.withService (h : k.Holds session prompts lines) (s : Service) :
    (k.withService s).Holds session prompts lines :=
  ⟨h.session_eq, h.prompts_eq, h.mode, h.lines_eq, h.isClosed_iff, h.firstLine_iff, h.reading,
    h.dispatching, h.closed⟩

/-- A statement that is given up leaves nothing of its passage. -/
theorem Holds.givenUp (h : k.Holds session prompts lines) (hOpen : k.client.isClosed = false) :
    (k.givenUp none).Holds session prompts [] where
  session_eq := h.session_eq
  prompts_eq := h.prompts_eq
  mode := h.mode
  lines_eq := rfl
  isClosed_iff := by simp [Console.givenUp, cleared, hOpen]
  firstLine_iff _ := by simp [Console.givenUp]
  reading _ := unfinished_nil
  dispatching h := by cases h
  closed _ := rfl

/-- The prompt that is shown is the one the lines of the passage call for. -/
theorem Holds.prompt_eq (h : k.Holds session prompts lines) (hReading : k.isReading) :
    k.prompt = prompts.after lines := by
  unfold Console.prompt Prompts.after
  rw [h.prompts_eq]
  have hFirst := h.firstLine_iff hReading
  by_cases hLines : lines = []
  · rw [if_pos (hFirst.mpr hLines), if_pos (by simpa using hLines)]
  · rw [if_neg (mt hFirst.mp hLines), if_neg (by simpa using hLines)]

/-- A line that is typed joins those of the passage. -/
theorem Holds.lines_push (h : k.Holds session prompts lines) (text : String) :
    (k.buffer.push text.toList).lines = bareLines (lines ++ [text]) := by
  unfold Buffer.push
  rw [h.lines_eq, bareLines, bareLines, List.map_append]
  rfl

/-- The text of the buffer with a further line is that of the passage with this
line. -/
theorem Holds.text_push (h : k.Holds session prompts lines) (text : String) :
    (k.buffer.push text.toList).text = joinedLines (lines ++ [text]) := by
  unfold Buffer.text joinedLines
  rw [h.lines_push]

/-- The verdict on a further line is the one on the passage with this line. -/
theorem Holds.verdict_push (h : k.Holds session prompts lines) (text : String) :
    (k.buffer.push text.toList).verdict = classify .interactive (joinedLines (lines ++ [text])) := by
  unfold Buffer.verdict
  rw [h.text_push]
  exact congrArg (classify · _) h.mode

/-- The request of a statement has the passage's lines as its body. -/
theorem Holds.evaluation_eq (h : k.Holds session prompts lines) :
    k.evaluation = ⟨.put, Route.session session, some (String.ofList (joinedLines lines))⟩ := by
  unfold evaluation Buffer.text joinedLines
  rw [h.session_eq, h.lines_eq]

/-- A statement that is evaluated ends its passage. Whatever the evaluation
comes to, the request is the last thing that belongs to the passage but for
output and an interrupt. -/
theorem Holds.seen_sent (h : k.Holds session prompts lines) (hPhase : k.phase = .dispatching)
    {out : List Entry} (hQuiet : ∀ e ∈ out, e.IsQuiet) :
    Passage.Seen session prompts ⟨lines, .sent⟩
      (prompts.reads lines ++ .request k.evaluation :: out) := by
  rw [h.evaluation_eq]
  obtain ⟨most, last, rfl, hOpen, hVerdict, hExit⟩ := h.dispatching hPhase
  exact .sent hOpen hVerdict hExit hQuiet

theorem Holds.isClosed_eq_false (h : k.Holds session prompts lines) (hPhase : k.phase ≠ .closed) :
    k.client.isClosed = false := by
  simpa [hPhase] using h.isClosed_iff

/-- A line that leaves its statement unfinished goes on with its passage. -/
theorem Holds.extended {text : String} (h : k.Holds session prompts lines) (hReading : k.isReading)
    (hVerdict : (k.buffer.push text.toList).verdict = .incomplete) :
    Holds session prompts (lines ++ [text])
      { k with buffer := k.buffer.push text.toList, phase := .continuation } where
  session_eq := h.session_eq
  prompts_eq := h.prompts_eq
  mode := h.mode
  lines_eq := h.lines_push text
  isClosed_iff := by simp [h.isClosed_eq_false hReading.ne_closed]
  firstLine_iff _ := by simp
  reading _ := (h.reading hReading).concat (h.verdict_push text ▸ hVerdict)
  dispatching hPhase := by cases hPhase
  closed hPhase := by cases hPhase

/-- A line that finishes a statement is the last one of its passage, unless the
statement is the exit command. -/
theorem Holds.completed {text : String} (h : k.Holds session prompts lines) (hReading : k.isReading)
    (hVerdict : (k.buffer.push text.toList).verdict = .complete)
    (hExit : (k.buffer.push text.toList).text ≠ exitCommand.toList) :
    Holds session prompts (lines ++ [text])
      { k with buffer := k.buffer.push text.toList, phase := .dispatching } where
  session_eq := h.session_eq
  prompts_eq := h.prompts_eq
  mode := h.mode
  lines_eq := h.lines_push text
  isClosed_iff := by simp [h.isClosed_eq_false hReading.ne_closed]
  firstLine_iff hPhase := by rcases hPhase with hPhase | hPhase <;> cases hPhase
  reading hPhase := by rcases hPhase with hPhase | hPhase <;> cases hPhase
  -- the new phase asks for what has led to it: the lines, their verdict, and
  -- that they are no exit command
  dispatching _ :=
    ⟨lines, text, rfl, h.reading hReading, h.verdict_push text ▸ hVerdict, h.text_push text ▸ hExit⟩
  closed hPhase := by cases hPhase

/-- The exit command leaves nothing of its passage. -/
theorem Holds.exited (h : k.Holds session prompts lines) :
    Holds session prompts []
      { k.cleared with client := { k.client with isClosed := true }, phase := .closed } where
  session_eq := h.session_eq
  prompts_eq := h.prompts_eq
  mode := h.mode
  lines_eq := rfl
  isClosed_iff := by simp
  firstLine_iff hPhase := by rcases hPhase with hPhase | hPhase <;> cases hPhase
  reading _ := unfinished_nil
  dispatching hPhase := by cases hPhase
  closed _ := rfl

end Console

/-! ## Runs -/

/-- How far a run is told. While it goes on, the passages that are over leave
the lines of the one at hand. When it has ended, only the last passage may leave
something in the buffer. -/
inductive Progress (session : SessionId) (prompts : Prompts) :
    List Entry → Console → Option Ending → Prop
  | underway {passages : List Passage} {told : List Entry} {lines : List String} {k : Console}
      (hTells : Tells session prompts passages told) (hGone : ∀ p ∈ passages, p.fate ≠ .kept)
      (h : k.Holds session prompts lines) :
      Progress session prompts (told ++ prompts.reads lines) k none
  | ended {passages : List Passage} {log : List Entry} {k : Console} {e : Ending}
      (hTells : Tells session prompts passages log) (hGone : ∀ p ∈ passages.dropLast, p.fate ≠ .kept)
      (hLeft : k.buffer.lines = passages.flatMap Passage.leftOver) :
      Progress session prompts log k (some e)

/-- Passages of which nothing is kept leave nothing in the buffer. -/
theorem flatMap_leftOver_eq_nil {passages : List Passage} (h : ∀ p ∈ passages, p.fate ≠ .kept) :
    passages.flatMap Passage.leftOver = [] := by
  rw [List.flatMap_eq_nil_iff]
  intro p hp
  unfold Passage.leftOver
  split
  · next hKept => exact absurd hKept (h p hp)
  · rfl

variable {k k' : Console} {passages : List Passage} {before told entries : List Entry}
  {lines : List String} {ending : Option Ending}

/-- A step that ends the passage at hand adds it to those that are over. If the
run goes on, a new passage starts with no lines; if it has ended, what this
passage leaves is what is left in the buffer. -/
theorem Tells.progress {p : Passage} (hTells : Tells session prompts passages told)
    (hGone : ∀ q ∈ passages, q.fate ≠ .kept)
    (hSeen : p.Seen session prompts (prompts.reads lines ++ entries))
    (hLeft : k'.buffer.lines = p.leftOver)
    (hNext : ending = none → p.fate ≠ .kept ∧ k'.Holds session prompts []) :
    Progress session prompts (told ++ prompts.reads lines ++ entries) k' ending := by
  -- what has been told up to here, and the passage that this step ends
  have hTold := hTells.snoc hSeen
  rw [List.append_assoc]
  cases ending with
  | none =>
    obtain ⟨hFate, hHolds⟩ := hNext rfl
    have hAll : ∀ q ∈ passages ++ [p], q.fate ≠ .kept := by
      intro q hq
      rcases List.mem_append.mp hq with hEarlier | hLast
      · exact hGone q hEarlier
      · rwa [List.mem_singleton.mp hLast]
    have hProgress := Progress.underway hTold hAll hHolds
    rwa [Prompts.reads, List.append_nil] at hProgress
  | some e =>
    -- the passages before this one have left nothing
    refine .ended hTold (by rwa [List.dropLast_concat]) ?_
    rw [hLeft, List.flatMap_append, flatMap_leftOver_eq_nil hGone, List.flatMap_singleton]
    rfl

/-- A step that reads one more line of the passage at hand leaves it at hand. -/
theorem Tells.progress_line {text : String} (hTells : Tells session prompts passages told)
    (hGone : ∀ q ∈ passages, q.fate ≠ .kept) (h : k'.Holds session prompts (lines ++ [text])) :
    Progress session prompts
      (told ++ prompts.reads lines ++ [.read (prompts.after lines) (.line text)]) k' none := by
  rw [List.append_assoc, ← reads_concat]
  exact .underway hTells hGone h

/-- Every step is told by the passages before it, or it ends one more. This is
the invariant of runs: the cases are the steps of a console, and each fate of a
passage is the outcome of one of them or of several. -/
theorem Progress.step (hBefore : Progress session prompts before k none)
    (hStep : Console.Step k entries k' ending) :
    Progress session prompts (before ++ entries) k' ending := by
  cases hBefore with
  | @underway passages told lines _ hTells hGone h =>
  -- a run goes on behind a statement given up only if the text for it is
  -- written
  have hNext : ∀ {p : Passage} {j : Console} {failure : Option String}, p.fate ≠ .kept →
      j.Holds session prompts lines → j.client.isClosed = false → Said.ending failure = none →
        p.fate ≠ .kept ∧ (j.givenUp failure).Holds session prompts [] := by
    intro p j failure hFate hj hOpen hDone
    cases failure with
    | none => exact ⟨hFate, hj.givenUp hOpen⟩
    | some message => cases hDone
  cases hStep with
  | stopped hPhase =>
    have hEmpty := h.lines_eq
    rw [h.closed hPhase] at hEmpty
    rw [h.closed hPhase, Prompts.reads, List.append_nil, List.append_nil]
    refine .ended hTells (fun p hp => hGone p (List.dropLast_subset _ hp)) ?_
    rw [hEmpty, flatMap_leftOver_eq_nil hGone]
    rfl
  -- where nothing more is typed the lines stay in the buffer
  | unread hReading =>
    rw [h.prompt_eq hReading]
    exact hTells.progress hGone (.kept (h.reading hReading) (.inr ⟨_, rfl⟩) (by simp)) h.lines_eq
      (by simp)
  | finished hReading hSaid =>
    rw [h.prompt_eq hReading]
    exact hTells.progress hGone (.kept (h.reading hReading) (.inl rfl) hSaid.isQuiet) h.lines_eq
      (by simp)
  -- an interrupt at the prompt drops the lines, and the output may still fail
  | interrupted hReading hSaid =>
    rw [h.prompt_eq hReading]
    exact hTells.progress hGone (.dropped (h.reading hReading) hSaid.isQuiet) rfl
      (hNext (by simp) h (h.isClosed_eq_false hReading.ne_closed))
  | @skipped text hPhase hBlank =>
    obtain rfl := (h.firstLine_iff (.inl hPhase)).mp hPhase
    rw [h.prompt_eq (.inl hPhase)]
    exact hTells.progress hGone (.skipped hBlank) h.lines_eq fun _ => ⟨by simp, h⟩
  -- a line is taken, and the passage goes on
  | extended hReading _ hVerdict =>
    rw [h.prompt_eq hReading]
    exact hTells.progress_line hGone (h.extended hReading hVerdict)
  | completed hReading _ hVerdict hExit =>
    rw [h.prompt_eq hReading]
    exact hTells.progress_line hGone (h.completed hReading hVerdict hExit)
  | @exited text hReading _ _ _ hExit =>
    rw [h.text_push] at hExit
    obtain rfl := eq_nil_of_joinedLines_eq hExit
    have hLine : Buffer.stripBreak text.toList = exitCommand.toList := by
      simpa [joinedLines, bareLines] using hExit
    rw [h.prompt_eq hReading]
    exact hTells.progress hGone (.exited hLine) rfl fun _ => ⟨by simp, h.exited⟩
  -- the client is closed only together with the console
  | barred hReading hClosed =>
    rw [h.isClosed_eq_false hReading.ne_closed] at hClosed
    cases hClosed
  | rejected hReading _ hVerdict hSaid =>
    -- the line that shows the fault belongs to the passage
    rw [h.verdict_push] at hVerdict
    have hSeen : Passage.Seen session prompts ⟨lines ++ [_], .rejected _⟩ _ :=
      .rejected (h.reading hReading) hVerdict hSaid.isQuiet
    rw [reads_concat, List.append_assoc] at hSeen
    rw [h.prompt_eq hReading]
    exact hTells.progress hGone hSeen rfl
      (hNext (by simp) h (h.isClosed_eq_false hReading.ne_closed))
  -- the statement has been sent, whatever comes of it
  | answered s hPhase hOpen hSaid =>
    exact hTells.progress hGone (h.seen_sent hPhase hSaid.isQuiet) rfl
      (hNext (by simp) (h.withService s) hOpen)
  | abandoned s hPhase hOpen hSaid =>
    have hQuiet : ∀ e ∈ Entry.interrupted :: _, e.IsQuiet :=
      List.forall_mem_cons.mpr ⟨trivial, hSaid.isQuiet⟩
    exact hTells.progress hGone (h.seen_sent hPhase hQuiet) rfl
      (hNext (by simp) (h.withService s) hOpen)
  | failed s hPhase | unanswered s hPhase =>
    exact hTells.progress hGone (h.seen_sent hPhase (by simp)) rfl (by simp)
  | unwatched s hPhase =>
    exact hTells.progress hGone (h.seen_sent hPhase (by simp [Entry.IsQuiet])) rfl (by simp)
  | refused hPhase hClosed =>
    rw [h.isClosed_eq_false (by simp [hPhase])] at hClosed
    cases hClosed

/-- A run that has ended is told by passages. -/
theorem Progress.exists_tells {log : List Entry} {e : Ending}
    (h : Progress session prompts log k (some e)) :
    ∃ passages, Tells session prompts passages log ∧ (∀ p ∈ passages.dropLast, p.fate ≠ .kept) ∧
      k.buffer.lines = passages.flatMap Passage.leftOver := by
  cases h with
  | ended hTells hGone hLeft => exact ⟨_, hTells, hGone, hLeft⟩

namespace Console

/-- **No typed line is lost, sent twice, or sent too early or too late.**
Whatever is typed, answered and interrupted, and wherever the output fails, what
is seen of the first run of a console on an open client is told by passages one
after the other. Their lines are the lines read, the statements sent are the
requests, each in order, and only the last passage may still be in the buffer
when the run ends. -/
theorem exists_passages (session : SessionId) (prompts : Prompts) (endpoint : Endpoint)
    (service : Service) (carrier : Carrier) (terminal : Terminal) :
    let c : Conversation :=
      ⟨start session prompts { endpoint, service, carrier }, terminal⟩
    let log := Entry.ofEvents c.run.events terminal.inputs
    ∃ passages, Tells session prompts passages log ∧
      log.filterMap Entry.line? = passages.flatMap Passage.lines ∧
      log.filterMap Entry.request? = passages.flatMap (Passage.requests session) ∧
      (∀ p ∈ passages.dropLast, p.fate ≠ .kept) ∧
      c.run.next.console.buffer.lines = passages.flatMap Passage.leftOver := by
  intro c log
  -- no passage has been told of yet
  have hStart : Progress session prompts [] c.console none :=
    Progress.underway Tells.nil (by simp) (holds_start session prompts _ rfl)
  -- a run has enough turns to come to its end, and there its passages are
  -- complete
  have hEnd := Conversation.runFor_induction_of_turnsLeft_le (P := Progress session prompts)
    (fun hBefore hStep => hBefore.step hStep) c.turnsLeft_le_turnsNeeded [] hStart
  obtain ⟨passages, hTells, hGone, hLeft⟩ := hEnd.exists_tells
  obtain ⟨hLines, hRequests⟩ := hTells.eq_flatMap
  exact ⟨passages, hTells, hLines, hRequests, hGone, hLeft⟩

end Console

end RemoteConsole
