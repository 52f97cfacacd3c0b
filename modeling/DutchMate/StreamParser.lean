/-
# Parsing a serial stream chunk by chunk

`NdjsonStreamParser.feed` buffers serial chunks and parses every complete line as one
device message.  How a stream is cut into chunks decides when a message is delivered and
how many bytes an oversized frame had when it was noticed, and nothing else: `Reads` says
what a parser holds after a stream from the stream alone, and one feed takes `Reads` of
the bytes before to `Reads` of the bytes with the chunk.
-/
import DutchMate.SplitLines
import DutchMate.LineBuffer

open SplitLines

/-- Longest device frame, newline included. -/
def maxDeviceFrameBytes : ℕ := 65536

/-- Most bytes that wait for a newline. -/
def maxPendingDeviceFrameBytes : ℕ := maxDeviceFrameBytes - 1

/-- Errors of the stream; `message` holds what `parse_device_message` raises. -/
inductive ProtocolError (ε : Type) where
  | frameTooLarge (observedFrameBytes maxFrameBytes : ℕ)
  | validation (detail : String)
  | message (error : ε)
  deriving DecidableEq, Repr

/-- The class of an error: everything but the size observed. -/
inductive ProtocolErrorClass (ε : Type) where
  | frameTooLarge
  | validation (detail : String)
  | message (error : ε)
  deriving DecidableEq, Repr

variable {ε M : Type}

def ProtocolError.toClass : ProtocolError ε → ProtocolErrorClass ε
  | frameTooLarge _ _ => .frameTooLarge
  | validation detail => .validation detail
  | message error => .message error

/-- The parser's own state. -/
structure NdjsonStreamParser (ε : Type) where
  buffer : List UInt8 := []
  terminalError : Option (ProtocolError ε) := none
  deriving DecidableEq, Repr

/-- One exact JSON object body, after removing one optional carriage return. -/
def frameBody (line : List UInt8) : Except (ProtocolError ε) (List UInt8) :=
  let line := if line.getLast? = some 13 then line.dropLast else line
  if line = [] ∨ 13 ∈ line ∨ line.head? ≠ some 123 ∨ line.getLast? ≠ some 125 then
    .error (.validation "Enhanced protocol frame must contain exactly one JSON object")
  else .ok line

/-- What one line, without its newline, is parsed to. -/
def parseLine (parse : List UInt8 → Except ε M) (line : List UInt8) :
    Except (ProtocolError ε) M :=
  if maxDeviceFrameBytes < line.length + 1 then
    .error (.frameTooLarge (line.length + 1) maxDeviceFrameBytes)
  else
    match frameBody line with
    | .error e => .error e
    | .ok body =>
      match parse body with
      | .error e => .error (.message e)
      | .ok m => .ok m

/-- The lines of a feed in order, up to the first that fails. -/
def parseLines (parse : List UInt8 → Except ε M) :
    List (List UInt8) → List M × Option (ProtocolError ε)
  | [] => ([], none)
  | line :: lines =>
    match parseLine parse line with
    | .error e => ([], some e)
    | .ok m => (m :: (parseLines parse lines).1, (parseLines parse lines).2)

def isFrameEnd (b : UInt8) : Bool := b = newline

/-- The bytes split at newlines: the complete lines, and what follows the last newline. -/
def splitNewlines (bytes : List UInt8) : List (List UInt8) × List UInt8 :=
  ((splitFrom isFrameEnd [] bytes).1.map List.dropLast, (splitFrom isFrameEnd [] bytes).2)

namespace NdjsonStreamParser

/-- Stop for good; the error is raised at once unless messages go first. -/
def fail (messages : List M) (e : ProtocolError ε) :
    Except (ProtocolError ε) (List M) × NdjsonStreamParser ε :=
  (if messages = [] then .error e else .ok messages, { buffer := [], terminalError := some e })

/-- Consume one chunk and return the messages that are complete. -/
def feed (parse : List UInt8 → Except ε M) (p : NdjsonStreamParser ε) (chunk : List UInt8) :
    Except (ProtocolError ε) (List M) × NdjsonStreamParser ε :=
  match p.terminalError with
  | some e => (.error e, p)
  | none =>
    if chunk = [] then (.ok [], p)
    else
      let (lines, rest) := splitNewlines (p.buffer ++ chunk)
      match parseLines parse lines with
      | (messages, some e) => fail messages e
      | (messages, none) =>
        if maxPendingDeviceFrameBytes < rest.length then
          fail messages (.frameTooLarge rest.length maxDeviceFrameBytes)
        else (.ok messages, { p with buffer := rest })

/-- The messages a feed hands over; none when it raises. -/
def delivered : Except (ProtocolError ε) (List M) → List M
  | .error _ => []
  | .ok messages => messages

/-- Feed chunks in turn, collecting the messages handed over. -/
def feeds (parse : List UInt8 → Except ε M) :
    NdjsonStreamParser ε → List (List UInt8) → List M × NdjsonStreamParser ε
  | p, [] => ([], p)
  | p, chunk :: chunks =>
    let (result, p') := p.feed parse chunk
    (delivered result ++ (feeds parse p' chunks).1, (feeds parse p' chunks).2)

end NdjsonStreamParser

/-! ## Lines of a stream -/

theorem isFrameEnd_tail (bytes : List UInt8) : ∀ b ∈ (splitNewlines bytes).2, isFrameEnd b = false :=
  splitFrom_tail_open isFrameEnd [] bytes (by simp)

/-- The lines of a stream go on from the bytes that wait. -/
theorem splitNewlines_append (xs ys : List UInt8) :
    splitNewlines (xs ++ ys)
      = ((splitNewlines xs).1 ++ (splitNewlines ((splitNewlines xs).2 ++ ys)).1,
          (splitNewlines ((splitNewlines xs).2 ++ ys)).2) := by
  have hwait : splitFrom isFrameEnd [] ((splitNewlines xs).2 ++ ys)
      = splitFrom isFrameEnd (splitNewlines xs).2 ys := by
    rw [splitFrom_append, splitFrom_open isFrameEnd [] _ (isFrameEnd_tail xs)]
    rfl
  rw [splitNewlines, splitFrom_append, List.map_append]
  simp only [splitNewlines] at hwait ⊢
  rw [hwait]

/-- The first line that ends, or else all that waits, begins with the bytes that waited. -/
theorem splitNewlines_wait (wait xs : List UInt8) (hwait : ∀ b ∈ wait, isFrameEnd b = false) :
    splitNewlines (wait ++ xs) = ([], wait ++ xs) ∨
      ∃ body lines tail, splitNewlines (wait ++ xs) = ((wait ++ body) :: lines, tail) := by
  by_cases hend : ∃ b ∈ xs, isFrameEnd b = true
  · right
    obtain ⟨k, hk⟩ := Option.isSome_iff_exists.mp (List.findIdx?_isSome.trans (List.any_eq_true.mpr hend))
    obtain ⟨body, e, rest, rfl, _, he, hbody⟩ := exists_split_of_findIdx? hk
    refine ⟨body, ((splitFrom isFrameEnd [] rest).1.map List.dropLast),
      (splitFrom isFrameEnd [] rest).2, ?_⟩
    have hopen : ∀ b ∈ wait ++ body, isFrameEnd b = false := by
      intro b hb
      rcases List.mem_append.mp hb with hb | hb
      · exact hwait b hb
      · exact hbody b hb
    rw [splitNewlines, ← List.append_assoc, splitFrom_segment isFrameEnd [] _ rest e hopen he]
    simp
  · left
    have hopen : ∀ b ∈ wait ++ xs, isFrameEnd b = false := by
      intro b hb
      rcases List.mem_append.mp hb with hb | hb
      · exact hwait b hb
      · exact Bool.eq_false_iff.mpr fun h => hend ⟨b, hb, h⟩
    rw [splitNewlines, splitFrom_open isFrameEnd [] _ hopen]
    rfl

/-! ## Lines parsed -/

/-- Lines after a failed one are never looked at. -/
theorem parseLines_append_failed {parse : List UInt8 → Except ε M} {lines : List (List UInt8)}
    {ms : List M} {e : ProtocolError ε} (h : parseLines parse lines = (ms, some e))
    (more : List (List UInt8)) : parseLines parse (lines ++ more) = (ms, some e) := by
  induction lines generalizing ms with
  | nil => cases h
  | cons line lines ih =>
    rw [List.cons_append, parseLines]
    rw [parseLines] at h
    split at h
    · exact h
    · rename_i m hline
      obtain ⟨rfl, hrest⟩ := Prod.mk.inj h
      rw [ih (Prod.ext rfl hrest)]

theorem parseLines_append_ok {parse : List UInt8 → Except ε M} {lines : List (List UInt8)}
    {ms : List M} (h : parseLines parse lines = (ms, none)) (more : List (List UInt8)) :
    parseLines parse (lines ++ more)
      = (ms ++ (parseLines parse more).1, (parseLines parse more).2) := by
  induction lines generalizing ms with
  | nil =>
    cases h
    rfl
  | cons line lines ih =>
    rw [List.cons_append, parseLines]
    rw [parseLines] at h
    split at h
    · cases h
    · rename_i m hline
      obtain ⟨rfl, hrest⟩ := Prod.mk.inj h
      rw [ih (Prod.ext rfl hrest)]
      rfl

/-- The messages are those of the lines before the first that fails. -/
theorem parseLines_messages (parse : List UInt8 → Except ε M) (lines : List (List UInt8)) :
    (lines.map (parseLine parse)).takeWhile Except.isOk = (parseLines parse lines).1.map .ok := by
  induction lines with
  | nil => rfl
  | cons line lines ih =>
    rw [List.map_cons, parseLines]
    split
    · rename_i e he
      rw [he]
      rfl
    · rename_i m hm
      rw [hm, List.map_cons, ← ih]
      rfl

/-- An error is that of the line after the messages. -/
theorem parseLines_error {parse : List UInt8 → Except ε M} {lines : List (List UInt8)}
    {ms : List M} {e : ProtocolError ε} (h : parseLines parse lines = (ms, some e)) :
    ∃ line, lines[ms.length]? = some line ∧ parseLine parse line = .error e := by
  induction lines generalizing ms with
  | nil => cases h
  | cons line lines ih =>
    rw [parseLines] at h
    split at h
    · rename_i he
      cases h
      exact ⟨line, rfl, he⟩
    · rename_i m hline
      obtain ⟨rfl, hrest⟩ := Prod.mk.inj h
      obtain ⟨culprit, hget, hculprit⟩ := ih (Prod.ext rfl hrest)
      exact ⟨culprit, hget, hculprit⟩

theorem parseLines_length {parse : List UInt8 → Except ε M} {lines : List (List UInt8)}
    {ms : List M} (h : parseLines parse lines = (ms, none)) : ms.length = lines.length := by
  induction lines generalizing ms with
  | nil =>
    cases h
    rfl
  | cons line lines ih =>
    rw [parseLines] at h
    split at h
    · cases h
    · rename_i m hline
      obtain ⟨rfl, hrest⟩ := Prod.mk.inj h
      rw [List.length_cons, List.length_cons, ih (Prod.ext rfl hrest)]

theorem frameBody_error {line : List UInt8} {e : ProtocolError ε} (h : frameBody line = .error e) :
    ∃ detail, e = .validation detail := by
  simp only [frameBody] at h
  split_ifs at h <;> exact ⟨_, (Except.error.inj h).symm⟩

/-- A line fails as too large exactly when it is. -/
theorem parseLine_frameTooLarge {parse : List UInt8 → Except ε M} {line : List UInt8}
    {e : ProtocolError ε} (h : parseLine parse line = .error e) :
    e.toClass = .frameTooLarge ↔ maxDeviceFrameBytes < line.length + 1 := by
  unfold parseLine at h
  split at h
  · rename_i hlong
    cases h
    exact ⟨fun _ => hlong, fun _ => rfl⟩
  · rename_i hshort
    constructor
    · intro hclass
      split at h
      · rename_i he
        cases h
        obtain ⟨detail, rfl⟩ := frameBody_error he
        cases hclass
      · split at h
        · cases h
          cases hclass
        · cases h
    · intro hlong
      exact absurd hlong hshort

/-! ## What a parser holds after a stream -/

/-- What was handed over of a stream, and the parser after it. -/
inductive Reads (parse : List UInt8 → Except ε M) (bytes : List UInt8) :
    List M → NdjsonStreamParser ε → Prop where
  | waiting {ms : List M} (hlines : parseLines parse (splitNewlines bytes).1 = (ms, none))
      (hwait : (splitNewlines bytes).2.length ≤ maxPendingDeviceFrameBytes) :
      Reads parse bytes ms { buffer := (splitNewlines bytes).2 }
  | failed {ms : List M} {e e' : ProtocolError ε}
      (hlines : parseLines parse (splitNewlines bytes).1 = (ms, some e))
      (hclass : e'.toClass = e.toClass) :
      Reads parse bytes ms { buffer := [], terminalError := some e' }
  | oversized {ms : List M} {e : ProtocolError ε}
      (hlines : parseLines parse (splitNewlines bytes).1 = (ms, none))
      (hwait : maxPendingDeviceFrameBytes < (splitNewlines bytes).2.length)
      (hclass : e.toClass = .frameTooLarge) :
      Reads parse bytes ms { buffer := [], terminalError := some e }

namespace NdjsonStreamParser

theorem delivered_fail (ms : List M) (e : ProtocolError ε) :
    delivered (fail ms e).1 = ms ∧ (fail ms e).2 = { buffer := [], terminalError := some e } := by
  unfold fail
  split
  · rename_i h
    exact ⟨h.symm, rfl⟩
  · exact ⟨rfl, rfl⟩

/-- One feed: what a stream left, with the chunk, is what the longer stream leaves. -/
theorem reads_feed {parse : List UInt8 → Except ε M} {bytes : List UInt8} {ms : List M}
    {p : NdjsonStreamParser ε} (h : Reads parse bytes ms p) (chunk : List UInt8) :
    Reads parse (bytes ++ chunk) (ms ++ delivered (p.feed parse chunk).1)
      (p.feed parse chunk).2 := by
  have hlines := splitNewlines_append bytes chunk
  cases h with
  | waiting hms hwait =>
    unfold feed
    by_cases hchunk : chunk = []
    · subst hchunk
      simp only [if_true, delivered, List.append_nil]
      exact .waiting hms hwait
    · simp only [hchunk, if_false]
      cases hnew : parseLines parse (splitNewlines ((splitNewlines bytes).2 ++ chunk)).1 with
      | mk new error =>
        have hall : parseLines parse (splitNewlines (bytes ++ chunk)).1 = (ms ++ new, error) := by
          rw [hlines, parseLines_append_ok hms, hnew]
        have htail : (splitNewlines (bytes ++ chunk)).2
            = (splitNewlines ((splitNewlines bytes).2 ++ chunk)).2 := by rw [hlines]
        cases error with
        | some e =>
          obtain ⟨hdelivered, hp⟩ := delivered_fail new e
          simp only [hdelivered, hp]
          exact .failed hall rfl
        | none =>
          dsimp only
          split
          · rename_i hlong
            obtain ⟨hdelivered, hp⟩ := delivered_fail (M := M) new
              (.frameTooLarge (splitNewlines ((splitNewlines bytes).2 ++ chunk)).2.length
                maxDeviceFrameBytes)
            rw [hdelivered, hp]
            exact .oversized hall (htail ▸ hlong) rfl
          · rename_i hshort
            rw [← htail] at hshort ⊢
            exact .waiting hall (by omega)
  | failed hms hclass =>
    simp only [feed, delivered, List.append_nil]
    refine .failed ?_ hclass
    rw [hlines]
    exact parseLines_append_failed hms _
  | oversized hms hwait hclass =>
    simp only [feed, delivered, List.append_nil]
    rcases splitNewlines_wait (splitNewlines bytes).2 chunk (isFrameEnd_tail bytes) with
      hopen | ⟨body, lines, tail, hline⟩
    · -- The oversized frame goes on.
      refine .oversized ?_ ?_ hclass
      · rw [hlines, hopen, List.append_nil]
        exact hms
      · rw [hlines, hopen, List.length_append]
        omega
    · -- The oversized frame ends, and is too large as a line as well.
      have hfirst : parseLine parse ((splitNewlines bytes).2 ++ body)
          = .error (.frameTooLarge (((splitNewlines bytes).2 ++ body).length + 1)
            maxDeviceFrameBytes) := by
        have hlong : maxDeviceFrameBytes < ((splitNewlines bytes).2 ++ body).length + 1 := by
          rw [List.length_append]
          simp only [maxPendingDeviceFrameBytes, maxDeviceFrameBytes] at hwait ⊢
          omega
        rw [parseLine, if_pos hlong]
      refine .failed (e := .frameTooLarge (((splitNewlines bytes).2 ++ body).length + 1)
        maxDeviceFrameBytes) ?_ hclass
      rw [hlines, hline, parseLines_append_ok hms, parseLines, hfirst]
      simp

theorem reads_feeds {parse : List UInt8 → Except ε M} (chunks : List (List UInt8))
    {bytes : List UInt8} {ms : List M} {p : NdjsonStreamParser ε} (h : Reads parse bytes ms p) :
    Reads parse (bytes ++ chunks.flatten) (ms ++ (p.feeds parse chunks).1)
      (p.feeds parse chunks).2 := by
  induction chunks generalizing bytes ms p with
  | nil =>
    simp only [List.flatten_nil, List.append_nil, feeds]
    exact h
  | cons chunk chunks ih =>
    have hrest := ih (reads_feed h chunk)
    rw [List.flatten_cons, ← List.append_assoc]
    simp only [feeds]
    rw [← List.append_assoc]
    exact hrest

theorem reads_empty (parse : List UInt8 → Except ε M) : Reads parse [] [] {} :=
  .waiting rfl (Nat.zero_le _)

theorem reads_stream (parse : List UInt8 → Except ε M) (chunks : List (List UInt8)) :
    Reads parse chunks.flatten (feeds parse {} chunks).1 (feeds parse {} chunks).2 :=
  reads_feeds chunks (reads_empty parse)

end NdjsonStreamParser

/-! ## Chunk independence -/

/-- How a stream leaves its parser: open with the bytes that wait, or stopped by one frame,
counted from zero. -/
inductive StreamCondition (ε : Type) where
  | waiting (pending : List UInt8)
  | stopped (frame : ℕ) (error : ProtocolErrorClass ε)
  deriving DecidableEq, Repr

/-- Every message handed over was one frame, so the next frame is the one that stopped it. -/
def NdjsonStreamParser.condition (ms : List M) (p : NdjsonStreamParser ε) : StreamCondition ε :=
  match p.terminalError with
  | none => .waiting p.buffer
  | some e => .stopped ms.length e.toClass

/-- A frame of a stream without its newline: a complete line, or what follows the last. -/
def frameAt (bytes : List UInt8) (k : ℕ) : List UInt8 :=
  (splitNewlines bytes).1[k]?.getD (splitNewlines bytes).2

/-- What parsing a stream amounts to, however it was cut. -/
structure ParsesStream (parse : List UInt8 → Except ε M) (bytes : List UInt8) (ms : List M)
    (p : NdjsonStreamParser ε) : Prop where
  messages : ((splitNewlines bytes).1.map (parseLine parse)).takeWhile Except.isOk = ms.map .ok
  waiting : p.terminalError = none →
    ms.length = (splitNewlines bytes).1.length ∧ p.buffer = (splitNewlines bytes).2
  stopped : ∀ e, p.terminalError = some e →
    (∃ line e', (splitNewlines bytes).1[ms.length]? = some line ∧
      parseLine parse line = .error e' ∧ e'.toClass = e.toClass) ∨
    (ms.length = (splitNewlines bytes).1.length ∧ e.toClass = .frameTooLarge)
  tooLarge : p.terminalError.map ProtocolError.toClass = some .frameTooLarge ↔
    maxDeviceFrameBytes < (frameAt bytes ms.length).length + 1
  pending : p.buffer.length ≤ maxPendingDeviceFrameBytes
  raises : ∀ e, p.terminalError = some e → ∀ chunk, p.feed parse chunk = (.error e, p)

theorem frameAt_tail {bytes : List UInt8} {k : ℕ} (h : k = (splitNewlines bytes).1.length) :
    frameAt bytes k = (splitNewlines bytes).2 := by
  rw [frameAt, List.getElem?_eq_none (Nat.le_of_eq h.symm)]
  rfl

theorem Reads.parsesStream {parse : List UInt8 → Except ε M} {bytes : List UInt8} {ms : List M}
    {p : NdjsonStreamParser ε} (h : Reads parse bytes ms p) : ParsesStream parse bytes ms p := by
  have hmessages := parseLines_messages parse (splitNewlines bytes).1
  cases h with
  | waiting hlines hwait =>
    have hlength := parseLines_length hlines
    rw [hlines] at hmessages
    refine ⟨hmessages, fun _ => ⟨hlength, rfl⟩, nofun, ?_, hwait, nofun⟩
    rw [frameAt_tail hlength]
    constructor
    · nofun
    · intro hlong
      simp only [maxPendingDeviceFrameBytes, maxDeviceFrameBytes] at hwait hlong
      omega
  | failed hlines hclass =>
    obtain ⟨line, hget, herror⟩ := parseLines_error hlines
    rw [hlines] at hmessages
    refine ⟨hmessages, nofun, ?_, ?_, Nat.zero_le _, ?_⟩
    · intro e he
      cases he
      exact .inl ⟨line, _, hget, herror, hclass.symm⟩
    · rw [frameAt, hget, Option.map_some, Option.some.injEq, hclass]
      exact parseLine_frameTooLarge herror
    · intro e he chunk
      cases he
      rfl
  | oversized hlines hwait hclass =>
    have hlength := parseLines_length hlines
    rw [hlines] at hmessages
    refine ⟨hmessages, nofun, ?_, ?_, Nat.zero_le _, ?_⟩
    · intro e he
      cases he
      exact .inr ⟨hlength, hclass⟩
    · rw [frameAt_tail hlength, Option.map_some, hclass]
      have hlong : maxDeviceFrameBytes < (splitNewlines bytes).2.length + 1 := by
        simp only [maxPendingDeviceFrameBytes, maxDeviceFrameBytes] at hwait ⊢
        omega
      exact ⟨fun _ => hlong, fun _ => rfl⟩
    · intro e he chunk
      cases he
      rfl

/-- The stream decides what was handed over and how its parser is left. -/
theorem Reads.unique {parse : List UInt8 → Except ε M} {bytes : List UInt8} {ms ms' : List M}
    {p p' : NdjsonStreamParser ε} (h : Reads parse bytes ms p) (h' : Reads parse bytes ms' p') :
    ms = ms' ∧ p.condition ms = p'.condition ms' := by
  cases h with
  | waiting hlines hwait =>
    cases h' with
    | waiting hlines' _ =>
      cases hlines.symm.trans hlines'
      exact ⟨rfl, rfl⟩
    | failed hlines' _ => cases hlines.symm.trans hlines'
    | oversized _ hwait' _ => exact absurd hwait' (by omega)
  | failed hlines hclass =>
    cases h' with
    | waiting hlines' _ => cases hlines.symm.trans hlines'
    | failed hlines' hclass' =>
      cases hlines.symm.trans hlines'
      exact ⟨rfl, congrArg (StreamCondition.stopped ms.length) (hclass.trans hclass'.symm)⟩
    | oversized hlines' _ _ => cases hlines.symm.trans hlines'
  | oversized hlines hwait hclass =>
    cases h' with
    | waiting _ hwait' => exact absurd hwait (by omega)
    | failed hlines' _ => cases hlines.symm.trans hlines'
    | oversized hlines' _ hclass' =>
      cases hlines.symm.trans hlines'
      exact ⟨rfl, congrArg (StreamCondition.stopped ms.length) (hclass.trans hclass'.symm)⟩

/-- Any two ways to cut a stream hand over the same messages and leave the parser the same,
and what that is the stream's own frames say. -/
theorem NdjsonStreamParser.chunk_independent (parse : List UInt8 → Except ε M) :
    (∀ chunks, ParsesStream parse chunks.flatten (feeds parse {} chunks).1
      (feeds parse {} chunks).2) ∧
    ∀ chunks chunks' : List (List UInt8), chunks.flatten = chunks'.flatten →
      (feeds parse {} chunks).1 = (feeds parse {} chunks').1 ∧
        (feeds parse {} chunks).2.condition (feeds parse {} chunks).1
          = (feeds parse {} chunks').2.condition (feeds parse {} chunks').1 := by
  refine ⟨fun chunks => (reads_stream parse chunks).parsesStream, ?_⟩
  intro chunks chunks' hflatten
  have h' := reads_stream parse chunks'
  rw [← hflatten] at h'
  exact (reads_stream parse chunks).unique h'
