import RemoteConsole.Proofs.Console.Sitting

/-!
# When the output is full

An output that takes no more than so many bytes changes nothing of a run but
where it stops. A turn writes at most one text, and writes it last: up to the
first byte that finds no room all is as it would be without a limit, and after
it nothing is read or requested any more.

* `Event.bytes`, `Event.trace` — the bytes written, and what is seen with every
  byte on its own.
* `Conversation.withRoom` — the same surroundings with an output of another
  room.
* `Turn.Confined` — what so much room leaves of a turn.
* `Conversation.run_withRoom` — what so much room leaves of a run.
-/

namespace RemoteConsole

/-! ## Bytes and traces -/

namespace Event

/-- The bytes that events write. -/
def bytes : List Event → List UInt8
  | [] => []
  | .output b :: rest => b ++ bytes rest
  | .read _ :: rest | .request _ :: rest | .interrupted :: rest => bytes rest

/-- Events with every byte of the output on its own. -/
def trace : List Event → List Event
  | [] => []
  | .output b :: rest => b.map (fun x => .output [x]) ++ trace rest
  | e :: rest => e :: trace rest

@[simp] theorem bytes_append (a b : List Event) : bytes (a ++ b) = bytes a ++ bytes b := by
  induction a with
  | nil => rfl
  | cons e rest ih => cases e <;> simp [bytes, ih]

@[simp] theorem trace_append (a b : List Event) : trace (a ++ b) = trace a ++ trace b := by
  induction a with
  | nil => rfl
  | cons e rest ih => cases e <;> simp [trace, ih]

theorem bytes_map_output (b : List UInt8) : bytes (b.map fun x => .output [x]) = b := by
  induction b with
  | nil => rfl
  | cons x rest ih => simp [bytes, ih]

theorem bytes_trace (events : List Event) : bytes (trace events) = bytes events := by
  induction events with
  | nil => rfl
  | cons e rest ih => cases e <;> simp [trace, bytes, bytes_map_output, ih]

theorem bytes_map_request (rs : List Request) : bytes (rs.map .request) = [] := by
  induction rs with
  | nil => rfl
  | cons r rest ih => exact ih

/-- What is written are its bytes. -/
@[simp] theorem bytes_written (b : List UInt8) : bytes (written b) = b := by
  unfold written
  split
  · next h => simp [List.isEmpty_iff.mp h, bytes]
  · simp [bytes]

/-- What is written is traced byte by byte. -/
@[simp] theorem trace_written (b : List UInt8) : trace (written b) = b.map fun x => .output [x] := by
  unfold written
  split
  · next h => simp [List.isEmpty_iff.mp h, trace]
  · simp [trace]

/-- The second events are the first ones up to where a byte more than so many
would be written. An output may be cut in the middle of a text, so the
comparison is one of traces. -/
def StopsAt (limit : Nat) (free held : List Event) : Prop :=
  (bytes held).length = limit ∧ ∃ b rest, trace free = trace held ++ .output [b] :: rest

variable {limit : Nat} {free held : List Event}

/-- Where the second events stop, so many bytes have been written and more are
to come. -/
theorem StopsAt.bytes_eq (h : StopsAt limit free held) :
    bytes held = (bytes free).take limit ∧ limit < (bytes free).length := by
  obtain ⟨hLength, b, rest, hTrace⟩ := h
  have hBytes : bytes free = bytes held ++ b :: bytes rest := by
    rw [← bytes_trace free, hTrace, bytes_append, bytes_trace]
    rfl
  rw [hBytes, ← hLength]
  simp

/-- What follows the first events does not matter to where the second ones
stop. -/
theorem StopsAt.append (h : StopsAt limit free held) (more : List Event) :
    StopsAt limit (free ++ more) held := by
  obtain ⟨hLength, b, rest, hTrace⟩ := h
  exact ⟨hLength, b, rest ++ trace more, by simp [hTrace]⟩

theorem StopsAt.prepend (h : StopsAt limit free held) (before : List Event) :
    StopsAt ((bytes before).length + limit) (before ++ free) (before ++ held) := by
  obtain ⟨hLength, b, rest, hTrace⟩ := h
  exact ⟨by simp [hLength], b, rest, by simp [hTrace]⟩

/-- A text that finds too little room is written up to the first byte without
any. -/
theorem stopsAt_written {b : List UInt8} (h : limit < b.length) :
    StopsAt limit (written b) (written (b.take limit)) := by
  -- the byte that finds no room stands behind those that do
  have hParts : b = b.take limit ++ b[limit] :: b.drop (limit + 1) := by
    rw [← List.drop_eq_getElem_cons h, List.take_append_drop]
  refine ⟨?_, b[limit], (b.drop (limit + 1)).map fun x => .output [x], ?_⟩
  · rw [bytes_written, List.length_take]
    omega
  · rw [trace_written, trace_written]
    exact (congrArg (List.map fun x => output [x]) hParts).trans List.map_append

end Event

/-! ## Turns -/

/-- The same terminal with an output of another room. -/
def Terminal.withRoom (t : Terminal) (room : Option Nat) : Terminal :=
  { t with room := room }

/-- The same console and surroundings, with an output of another room. -/
def Conversation.withRoom (c : Conversation) (room : Option Nat) : Conversation :=
  { c with terminal := c.terminal.withRoom room }

namespace Terminal

variable {t : Terminal} {limit : Nat}

theorem flush_withRoom (t : Terminal) (room : Option Nat) :
    (t.withRoom room).flush = (t.flush.1, t.flush.2.withRoom room) := by
  obtain ⟨inputs, waits, limit, flushes⟩ := t
  cases flushes <;> rfl

/-- Without a limit all bytes are written. Only showing them can fail then. -/
theorem put_of_room_eq_none (h : t.room = none) (bytes : List UInt8) (shown : Bool) :
    t.put bytes shown = if shown then ⟨bytes, t.flush.2, t.flush.1⟩ else ⟨bytes, t, none⟩ := by
  unfold put write
  rw [h]
  cases shown <;> rfl

/-- Bytes that fit are written and shown as they are without a limit, and the
room that is left is smaller by their number. -/
theorem put_withRoom_of_le (h : t.room = none) {bytes : List UInt8} (shown : Bool)
    (hFits : bytes.length ≤ limit) :
    (t.withRoom (some limit)).put bytes shown =
      { t.put bytes shown with
        terminal := (t.put bytes shown).terminal.withRoom (some (limit - bytes.length)) } := by
  -- there is room for all bytes, so they are written as without a limit
  have hWrite : (t.withRoom (some limit)).write bytes =
      ⟨bytes, t.withRoom (some (limit - bytes.length)), none⟩ := by
    unfold write withRoom
    simp only [List.take_of_length_le hFits, hFits, if_true]
  rw [put_of_room_eq_none h]
  unfold put
  rw [hWrite]
  cases shown with
  | false => rfl
  | true => simp [flush_withRoom]

/-- Bytes that do not fit are cut off, and then nothing is shown. -/
theorem put_withRoom_of_lt (t : Terminal) {bytes : List UInt8} (shown : Bool)
    (hCut : limit < bytes.length) :
    (t.withRoom (some limit)).put bytes shown =
      ⟨bytes.take limit, t.withRoom (some (limit - bytes.length)), some closedOutput⟩ := by
  have hWrite : (t.withRoom (some limit)).write bytes =
      ⟨bytes.take limit, t.withRoom (some (limit - bytes.length)), some closedOutput⟩ := by
    unfold write withRoom
    simp only [Nat.not_le.mpr hCut, if_false]
  unfold put
  rw [hWrite]
  simp

/-- What writing leaves of a terminal without a limit has none either, and
evaluations that are left waiting still meet the same. -/
theorem put_leaves (h : t.room = none) (bytes : List UInt8) (shown : Bool) :
    (t.put bytes shown).terminal.room = none ∧ (t.put bytes shown).terminal.waits = t.waits := by
  have hFlush : t.flush.2.room = t.room ∧ t.flush.2.waits = t.waits := by
    unfold flush
    split <;> exact ⟨rfl, rfl⟩
  rw [put_of_room_eq_none h]
  cases shown with
  | false => exact ⟨h, rfl⟩
  | true => exact ⟨hFlush.1.trans h, hFlush.2⟩

end Terminal

/-- What room for so many bytes leaves of a turn that finds no limit: all of it
if its bytes fit, else what comes before the first byte that does not, and that
the output is closed. Nothing is said of the console then, as the run has
ended. -/
inductive Turn.Confined (limit : Nat) (free : Turn) : Turn → Prop
  | whole (hRoom : free.next.terminal.room = none) (hFits : (Event.bytes free.events).length ≤ limit) :
      Confined limit free
        { free with next := free.next.withRoom (some (limit - (Event.bytes free.events).length)) }
  | cut {held : Turn} (hEnding : held.ending = some (.failed outputClosed))
      (hStops : Event.StopsAt limit free.events held.events) : Confined limit free held

/-- Events that write nothing are seen in front of a turn with any room, and the
room changes nothing of what goes over connections for them. -/
theorem Turn.Confined.prepend {limit : Nat} {free held : Turn} (h : free.Confined limit held)
    {before : List Event} (hBefore : Event.bytes before = []) (legs : List Leg → List Leg) :
    Turn.Confined limit { free with events := before ++ free.events, legs := legs free.legs }
      { held with events := before ++ held.events, legs := legs held.legs } := by
  cases h with
  | whole hRoom hFits =>
    -- no bytes have been added, and so the same room is left
    have hBytes : Event.bytes (before ++ free.events) = Event.bytes free.events := by simp [hBefore]
    rw [← hBytes] at hFits ⊢
    have hWhole : Turn.Confined limit
        { free with events := before ++ free.events, legs := legs free.legs } _ := .whole hRoom hFits
    exact hWhole
  | cut hEnding hStops =>
    -- the place where the room ends is moved by the number of bytes in front,
    -- which is none
    have hStops' := hStops.prepend before
    rw [hBefore, List.length_nil, Nat.zero_add] at hStops'
    exact .cut hEnding hStops'

theorem Turn.Confined.cons {limit : Nat} {free held : Turn} (h : free.Confined limit held) {e : Event}
    (he : Event.bytes [e] = []) :
    Turn.Confined limit { free with events := e :: free.events } { held with events := e :: held.events } :=
  h.prepend he id

namespace Conversation

variable {t : Terminal} {limit : Nat}

/-- A turn that writes nothing takes no room. -/
theorem confined_quiet (h : t.room = none) (k : Console) (ending : Option Ending) :
    Turn.Confined limit { events := [], next := ⟨k, t⟩, ending := ending }
      { events := [], next := ⟨k, t.withRoom (some limit)⟩, ending := ending } := by
  have hWhole : Turn.Confined limit { events := [], next := ⟨k, t⟩, ending := ending } _ :=
    .whole h (Nat.zero_le _)
  exact hWhole

/-- Without a limit all of a text is seen, whatever comes of showing it. If that
fails the turn ends the run, and if not the console is in the phase that it goes
on to. -/
theorem say_of_room_eq_none (h : t.room = none) (k : Console) (text : String) (shown : Bool) (phase : Phase)
    (ending : Option Ending) :
    let turn := say ⟨k, t⟩ text shown phase ending
    turn.events = Event.written (Utf8.encode text.toList) ∧ turn.next.terminal.room = none ∧
      turn.next.terminal.waits = t.waits ∧
      (turn.ending = none → ending = none ∧ turn.next.console = { k with phase := phase }) := by
  obtain ⟨hRoom, hWaits⟩ := Terminal.put_leaves h (Utf8.encode text.toList) shown
  -- without a limit nothing is cut off, even if the text is then not shown
  have hBytes : (t.put (Utf8.encode text.toList) shown).bytes = Utf8.encode text.toList := by
    rw [Terminal.put_of_room_eq_none h]
    cases shown <;> rfl
  unfold say
  dsimp only
  rw [hBytes]
  cases (t.put (Utf8.encode text.toList) shown).failure with
  | none => exact ⟨rfl, hRoom, hWaits, fun hEnding => ⟨hEnding, rfl⟩⟩
  | some message => exact ⟨rfl, hRoom, hWaits, nofun⟩

/-- Writing a text is where room matters, and the only place. A text that fits
is written and shown as it is without a limit; one that does not is cut, and
nothing is shown. -/
theorem confined_say (h : t.room = none) (k : Console) (text : String) (shown : Bool) (phase : Phase)
    (ending : Option Ending) :
    (say ⟨k, t⟩ text shown phase ending).Confined limit
      (say ⟨k, t.withRoom (some limit)⟩ text shown phase ending) := by
  obtain ⟨hEvents, hRoom, -, -⟩ := say_of_room_eq_none h k text shown phase ending
  have hSize : Event.bytes (say ⟨k, t⟩ text shown phase ending).events = Utf8.encode text.toList := by
    rw [hEvents, Event.bytes_written]
  -- the room decides between the two, and nothing else does
  by_cases hFits : (Utf8.encode text.toList).length ≤ limit
  · have hSay : say ⟨k, t.withRoom (some limit)⟩ text shown phase ending =
        { say ⟨k, t⟩ text shown phase ending with
          next := (say ⟨k, t⟩ text shown phase ending).next.withRoom
            (some (limit - (Utf8.encode text.toList).length)) } := by
      -- what comes of showing the bytes does not depend on the room
      unfold say
      dsimp only
      rw [Terminal.put_withRoom_of_le h shown hFits]
      cases (t.put (Utf8.encode text.toList) shown).failure <;> rfl
    rw [hSay, ← hSize]
    exact .whole hRoom (by rwa [hSize])
  · have hCut := Nat.not_le.mp hFits
    have hSay : say ⟨k, t.withRoom (some limit)⟩ text shown phase ending =
        { events := Event.written ((Utf8.encode text.toList).take limit)
          next := ⟨k, t.withRoom (some (limit - (Utf8.encode text.toList).length))⟩
          ending := some (.failed outputClosed) } := by
      unfold say
      dsimp only
      rw [Terminal.put_withRoom_of_lt t shown hCut]
      rfl
    rw [hSay]
    refine .cut rfl ?_
    rw [hEvents]
    exact Event.stopsAt_written hCut

/-- The exit command writes nothing, whether it closes the client or finds it
closed. -/
theorem confined_exit (h : t.room = none) (k : Console) :
    (exit ⟨k, t⟩).Confined limit (exit ⟨k, t.withRoom (some limit)⟩) := by
  unfold exit Client.close
  cases hClosed : k.client.isClosed with
  | true =>
    simp only [if_true]
    exact confined_quiet h _ _
  | false =>
    simp only [Bool.false_eq_true, if_false]
    exact confined_quiet h _ _

/-- A line that is taken writes nothing unless it shows a fault. -/
theorem confined_accept (h : t.room = none) (k : Console) (text : String) :
    (accept ⟨k, t⟩ text).Confined limit (accept ⟨k, t.withRoom (some limit)⟩ text) := by
  unfold accept
  by_cases hSkipped : k.phase = .firstLine ∧ Blank.isBlankText text.toList
  · rw [if_pos hSkipped, if_pos hSkipped]
    exact confined_quiet h k none
  · rw [if_neg hSkipped, if_neg hSkipped]
    dsimp only
    -- neither the verdict nor the choice that follows it looks at the output
    cases (k.buffer.push text.toList).verdict with
    | incomplete => exact confined_quiet h _ none
    | complete =>
      dsimp only
      split
      · exact confined_exit h _
      · exact confined_quiet h _ none
    | invalid e => exact confined_say h _ (syntaxNotice e) false .firstLine none

/-- A turn at a prompt writes after it has read, and at most once. -/
theorem confined_read (h : t.room = none) (k : Console) :
    (read ⟨k, t⟩).Confined limit (read ⟨k, t.withRoom (some limit)⟩) := by
  have hRest : ({ t with inputs := t.inputs.tail } : Terminal).room = none := h
  unfold read
  rw [Terminal.next_eq, Terminal.next_eq]
  dsimp only [Terminal.withRoom]
  -- the read is seen whatever it brings, and what it brings does not depend on
  -- the room
  refine Turn.Confined.cons ?_ rfl
  cases t.inputs.headD .finish with
  | line text => exact confined_accept hRest k text
  | interrupt => exact confined_say hRest k.cleared interruptNotice false .firstLine none
  | finish => exact confined_say hRest k "\n" true k.phase (some .endOfInput)
  | failure message => exact confined_quiet hRest k _

/-- Waiting for an interrupt writes nothing before the interrupt comes. -/
theorem confined_awaitInterrupt (h : t.room = none) (k : Console) :
    (awaitInterrupt ⟨k, t⟩).Confined limit (awaitInterrupt ⟨k, t.withRoom (some limit)⟩) := by
  obtain ⟨inputs, waits, room, flushes⟩ := t
  unfold awaitInterrupt Terminal.nextWait?
  dsimp only [Terminal.withRoom]
  cases waits with
  | nil => exact confined_quiet h k (some .pending)
  | cons wait rest =>
    have hRest : (⟨inputs, rest, room, flushes⟩ : Terminal).room = none := h
    refine Turn.Confined.cons ?_ rfl
    cases wait with
    | failure message => exact confined_quiet hRest k _
    | interrupt => exact confined_say hRest k interruptNotice false .firstLine none

/-- An evaluation makes its request before it writes, so with any room the
request is made. -/
theorem confined_dispatch (h : t.room = none) (k : Console) :
    (dispatch ⟨k, t⟩).Confined limit (dispatch ⟨k, t.withRoom (some limit)⟩) := by
  unfold dispatch
  dsimp only
  refine Turn.Confined.prepend ?_ (Event.bytes_map_request _) fun _ => _
  cases (k.client.eval k.session (String.ofList k.buffer.take.1)).outcome with
  | ok text => exact confined_say h _ (resultNotice text) _ .firstLine none
  | error e => exact confined_quiet h _ _
  | pending => exact confined_awaitInterrupt h _

/-- What room for so many bytes leaves of a turn, in any phase. -/
theorem confined_turn (h : t.room = none) (k : Console) :
    (turn ⟨k, t⟩).Confined limit (turn ⟨k, t.withRoom (some limit)⟩) := by
  unfold turn
  dsimp only
  cases k.phase with
  | closed => exact confined_quiet h k _
  | dispatching => exact confined_dispatch h k
  | firstLine | continuation => exact confined_read h k

/-! ## Runs -/

/-- What room for so many bytes leaves of a run that finds no limit. -/
inductive Run.Confined (limit : Nat) (free : Run) : Run → Prop
  | whole (hFits : (Event.bytes free.events).length ≤ limit) :
      Confined limit free
        { free with next := free.next.withRoom (some (limit - (Event.bytes free.events).length)) }
  | cut {held : Run} (hEnding : held.ending = .failed outputClosed)
      (hStops : Event.StopsAt limit free.events held.events) : Confined limit free held

/-- Events that fit leave the room that is left to what follows them. -/
theorem Run.Confined.prepend {free held : Run} {before : List Event} (legs : List Leg)
    (hFits : (Event.bytes before).length ≤ limit)
    (h : free.Confined (limit - (Event.bytes before).length) held) :
    Run.Confined limit { free with events := before ++ free.events, legs := legs ++ free.legs }
      { held with events := before ++ held.events, legs := legs ++ held.legs } := by
  cases h with
  -- the bytes of both parts are taken from the room, one part after the other
  | whole hMore =>
    have hBytes : (Event.bytes (before ++ free.events)).length =
        (Event.bytes before).length + (Event.bytes free.events).length := by simp
    have hWhole : Run.Confined limit
        { free with events := before ++ free.events, legs := legs ++ free.legs } _ :=
      .whole (by dsimp only; omega)
    rw [hBytes, ← Nat.sub_sub] at hWhole
    exact hWhole
  | cut hEnding hStops =>
    have hStops' := hStops.prepend before
    rw [Nat.add_sub_cancel' hFits] at hStops'
    exact .cut hEnding hStops'

/-- Every turn takes its bytes from the room that the turns before it leave, up
to the one that finds too little. The induction is on the turns, with the room
being whatever is left. -/
theorem confined_runFor (turns : Nat) {c : Conversation} (h : c.terminal.room = none) (limit : Nat) :
    (c.runFor turns).Confined limit ((c.withRoom (some limit)).runFor turns) := by
  induction turns generalizing c limit with
  | zero => exact .whole (Nat.zero_le _)
  | succ n ih =>
    -- both runs are at the same console, so their next turns compare
    have hTurn : c.turn.Confined limit (c.withRoom (some limit)).turn :=
      confined_turn (t := c.terminal) h c.console
    generalize hHeld : (c.withRoom (some limit)).turn = held at hTurn
    cases hTurn with
    | whole hNext hFits =>
      have hSame : (c.withRoom (some limit)).turn.ending = c.turn.ending := by rw [hHeld]
      cases hEnding : c.turn.ending with
      | some e =>
        rw [runFor_succ_of_ending hEnding, runFor_succ_of_ending (hSame.trans hEnding), hHeld]
        have hWhole : Run.Confined limit ⟨c.turn.events, c.turn.legs, c.turn.next, e⟩ _ := .whole hFits
        exact hWhole
      | none =>
        rw [runFor_succ_of_none hEnding, runFor_succ_of_none (hSame.trans hEnding), hHeld]
        exact (ih hNext _).prepend _ hFits
    | cut hCut hStops =>
      -- with less room the run ends here, whatever more there is without a
      -- limit
      rw [runFor_succ_of_ending ((congrArg Turn.ending hHeld).trans hCut), hHeld]
      cases hEnding : c.turn.ending with
      | some e =>
        rw [runFor_succ_of_ending hEnding]
        exact .cut rfl hStops
      | none =>
        rw [runFor_succ_of_none hEnding]
        exact .cut rfl (hStops.append _)

/-- **An output failure only truncates.** Let a run write to an output without a
limit, and let the same run find room for so many bytes only. Then its output is
the first bytes of the other, as many as there is room for, and up to them all
is seen that is seen of the other. If there is room for all of them, the two
runs are the same, and only the room that is left tells them apart. If not, the
run fails as its output is closed, and all that is seen of it is what comes
before the first byte without room: nothing is read or requested any more. -/
theorem run_withRoom (c : Conversation) (limit : Nat) :
    let free := (c.withRoom none).run
    let held := (c.withRoom (some limit)).run
    let size := (Event.bytes free.events).length
    Event.bytes held.events = (Event.bytes free.events).take limit ∧
      Event.trace held.events <+: Event.trace free.events ∧
      (size ≤ limit → held = { free with next := free.next.withRoom (some (limit - size)) }) ∧
      (limit < size → held.ending = .failed outputClosed ∧
        ∃ b rest, Event.trace free.events = Event.trace held.events ++ .output [b] :: rest) := by
  intro free held size
  have hRun : free.Confined limit held := confined_runFor c.turnsNeeded (c := c.withRoom none) rfl limit
  -- from here on it is a comparison of two runs, whatever they are
  clear_value held
  cases hRun with
  | whole hFits =>
    refine ⟨(List.take_of_length_le hFits).symm, List.prefix_refl _, fun _ => rfl, fun h => ?_⟩
    exact absurd hFits (Nat.not_le.mpr h)
  | cut hEnding hStops =>
    -- where it was cut there is a byte without room, so the two endings exclude
    -- each other
    obtain ⟨hBytes, hMore⟩ := hStops.bytes_eq
    obtain ⟨-, b, rest, hTrace⟩ := hStops
    refine ⟨hBytes, ⟨_, hTrace.symm⟩, fun h => absurd hMore (Nat.not_lt.mpr h), fun _ => ?_⟩
    exact ⟨hEnding, b, rest, hTrace⟩

/-- The notice of an interrupt is cut off where the room ends. -/
theorem run_withRoom_of_interrupt :
    let session : SessionId := ⟨1, by decide, by decide⟩
    let client : Client := { endpoint := ⟨fun p => p, ""⟩, service := ⟨[], .silence⟩ }
    let k : Console := { session := session, prompts := {}, client := client }
    let c : Conversation := ⟨k, { inputs := [.interrupt, .line "1"] }⟩
    4 < (Event.bytes (c.withRoom none).run.events).length ∧
      (c.withRoom (some 4)).run.ending = .failed outputClosed := by
  intro session client k c
  have hSize : 4 < (Event.bytes (c.withRoom none).run.events).length := by decide +kernel
  exact ⟨hSize, ((run_withRoom c 4).2.2.2 hSize).1⟩

end Conversation

end RemoteConsole
