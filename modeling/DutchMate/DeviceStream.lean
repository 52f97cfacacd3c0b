/-
# Device messages through the stream parser and the adapter's reader

`NdjsonStreamParser.feed` turns a `ProtocolError` into a terminal error after the messages
before it.  Any other exception leaves the loop: the messages parsed so far are dropped, no
terminal error is set, and the adapter's reader reports a failed read.  `readChunk_iff` says
that this happens exactly when the first bad frame of a chunk is one `json.loads` gives up on.
-/
import DutchMate.DeviceMessage
import DutchMate.StreamParser

open PyJson

/-! ## The stream parser -/

/-- Consume one chunk.  An error `message (other fault)` is no `ProtocolError`: it is the
exception of `json.loads`, and passes the `except` clause. -/
def NdjsonStreamParser.feedDevice (limits : JsonLimits) (p : NdjsonStreamParser DeviceFault)
    (chunk : List UInt8) :
    Except (ProtocolError DeviceFault) (List DeviceMessage) × NdjsonStreamParser DeviceFault :=
  match p.terminalError with
  | some e => (.error e, p)
  | none =>
    if chunk = [] then (.ok [], p)
    else
      let (lines, rest) := splitNewlines (p.buffer ++ chunk)
      match parseLines (parseDeviceMessage limits) lines with
      | (_, some (.message (.other fault))) =>
        (.error (.message (.other fault)), { p with buffer := rest })
      | (messages, some e) => fail messages e
      | (messages, none) =>
        if maxPendingDeviceFrameBytes < rest.length then
          fail messages (.frameTooLarge rest.length maxDeviceFrameBytes)
        else (.ok messages, { p with buffer := rest })

/-- What some bytes hold: the messages of the complete valid frames before the first bad
frame, and the error of that frame.  A frame that is too long is bad before it ends. -/
def messagesBefore (limits : JsonLimits) (bytes : List UInt8) :
    List DeviceMessage × Option (ProtocolError DeviceFault) :=
  match parseLines (parseDeviceMessage limits) (splitNewlines bytes).1 with
  | (messages, some e) => (messages, some e)
  | (messages, none) =>
    if maxPendingDeviceFrameBytes < (splitNewlines bytes).2.length then
      (messages, some (.frameTooLarge (splitNewlines bytes).2.length maxDeviceFrameBytes))
    else (messages, none)

/-! ## The adapter's reader -/

/-- The classes of a bad frame. -/
inductive ProtocolInputError where
  | frameTooLarge
  | invalidUtf8
  | invalidJson
  | invalidMessage
  deriving DecidableEq, Repr

/-- Terminal errors of the adapter. -/
inductive AdapterError where
  | input (detail : String) (inputError : Option ProtocolInputError)
      (observedFrameBytes maxFrameBytes : Option ℕ)
  | disconnected (detail : String)
  deriving DecidableEq, Repr

/-- The class an error carries; that of the base class unless a subclass sets its own. -/
def ProtocolError.inputError : ProtocolError DeviceFault → ProtocolInputError
  | frameTooLarge _ _ => .frameTooLarge
  | validation _ => .invalidMessage
  | message (.protocol ⟨.invalidUtf8, _⟩) => .invalidUtf8
  | message (.protocol ⟨.malformedMessage, _⟩) => .invalidJson
  | message _ => .invalidMessage

def inputErrorDetail : ProtocolInputError → String
  | .frameTooLarge => "Enhanced protocol frame exceeds the device-to-host size limit"
  | .invalidUtf8 => "Enhanced protocol frame is not valid UTF-8"
  | .invalidJson => "Enhanced protocol frame is not valid JSON"
  | .invalidMessage => "Enhanced protocol message does not match the expected schema"

def backendInputErrorFromProtocol (e : ProtocolError DeviceFault) : AdapterError :=
  match e with
  | .frameTooLarge observed bound =>
    .input (inputErrorDetail .frameTooLarge) (some .frameTooLarge) (some observed) (some bound)
  | e => .input (inputErrorDetail e.inputError) (some e.inputError) none none

/-- A `BackendInputError` of the adapter itself. -/
def adapterInputError (detail : String) : AdapterError := .input detail none none none

/-- Evidence events, with their time since the segment's first. -/
inductive DeviceEvent where
  | uartReceive (timestampUs channel : ℤ) (data : List UInt8)
  | bufferOverflow (timestampUs channel droppedBytes : ℤ)
  | bufferStatus (timestampUs sizeBytes usedBytes highWaterBytes droppedBytesTotal
      overflowEvents : ℤ)
  deriving DecidableEq, Repr

/-- The reader's own view of the adapter: what it has parsed, the hello and the time origin
it knows, whether a request waits for its response, and what it has passed on. -/
structure AdapterReader where
  parser : NdjsonStreamParser DeviceFault := {}
  info : Option DeviceMessage := none
  sourceOriginUs : Option ℤ := none
  responsePending : Bool := false
  events : List DeviceEvent := []
  responses : List DeviceMessage := []
  terminalError : Option AdapterError := none
  deriving DecidableEq

namespace AdapterReader

/-- The first terminal error stays. -/
def setTerminal (s : AdapterReader) (e : AdapterError) : AdapterReader :=
  { s with terminalError := some (s.terminalError.getD e) }

end AdapterReader

def deviceTimestamp : DeviceMessage → Option ℤ
  | .uart _ timestampUs _ _ => some timestampUs
  | .bufferOverflow _ timestampUs _ => some timestampUs
  | .bufferStatus timestampUs _ _ _ _ _ => some timestampUs
  | _ => none

/-- The event of a message that carries a timestamp. -/
def normalizeMessage (sourceOriginUs : ℤ) : DeviceMessage → Option DeviceEvent
  | .uart channel timestampUs data _ =>
    some (.uartReceive (timestampUs - sourceOriginUs) channel data)
  | .bufferOverflow channel timestampUs droppedBytes =>
    some (.bufferOverflow (timestampUs - sourceOriginUs) channel droppedBytes)
  | .bufferStatus timestampUs size used highWater dropped overflows =>
    some (.bufferStatus (timestampUs - sourceOriginUs) size used highWater dropped overflows)
  | _ => none

def isHello : DeviceMessage → Bool
  | .hello _ _ _ _ => true
  | _ => false

def isCommandResponse : DeviceMessage → Bool
  | .commandSuccess _ _ => true
  | .commandError _ _ => true
  | _ => false

namespace AdapterReader

/-- Dispatch a batch.  `info` is the hello known to the batch; `parserFailed` says that the
parser stopped behind it, which drops responses and ends the batch at a stray message. -/
def dispatchMessages (parserFailed : Bool) (s : AdapterReader) (info : Option DeviceMessage) :
    List DeviceMessage → AdapterReader
  | [] => { s with info := info }
  | message :: messages =>
    if info.isNone then
      if isHello message then dispatchMessages parserFailed s (some message) messages
      else s.setTerminal (adapterInputError "Expected Enhanced hello as the first message")
    else
      match deviceTimestamp message with
      | some timestampUs =>
        let origin := s.sourceOriginUs.getD timestampUs
        if timestampUs < origin then
          s.setTerminal (adapterInputError "Enhanced event timestamp precedes its segment origin")
        else
          dispatchMessages parserFailed
            { s with sourceOriginUs := some origin
                     events := s.events ++ (normalizeMessage origin message).toList } info messages
      | none =>
        if s.info.isSome && isCommandResponse message then
          if parserFailed then dispatchMessages parserFailed s info messages
          else if s.responsePending then
            dispatchMessages parserFailed
              { s with responsePending := false, responses := s.responses ++ [message] } info
              messages
          else
            ({ s with info := info }).setTerminal
              (adapterInputError "Enhanced command response has no pending request")
        else if parserFailed then { s with info := info }
        else
          ({ s with info := info }).setTerminal
            (adapterInputError "Unexpected Enhanced message after hello")

/-- Dispatch the messages of one read, and stop at the parser's error. -/
def dispatchBatch (s : AdapterReader) (messages : List DeviceMessage) : AdapterReader :=
  match s.parser.terminalError with
  | none => dispatchMessages false s s.info messages
  | some e =>
    (dispatchMessages true s s.info messages).setTerminal (backendInputErrorFromProtocol e)

/-- One turn of the read loop. -/
def readChunk (limits : JsonLimits) (s : AdapterReader) (chunk : List UInt8) : AdapterReader :=
  if chunk = [] then s.setTerminal (.disconnected "Enhanced serial connection closed")
  else
    let fed := s.parser.feedDevice limits chunk
    match fed.1 with
    | .error (.message (.other _)) =>
      { s with parser := fed.2 }.setTerminal (.disconnected "Enhanced serial read failed")
    | .error e => { s with parser := fed.2 }.setTerminal (backendInputErrorFromProtocol e)
    | .ok messages => { s with parser := fed.2 }.dispatchBatch messages

end AdapterReader

/-! ## What escapes -/

/-- The adapter's reader is at work: nothing has gone wrong yet. -/
def AdapterReader.Reading (s : AdapterReader) : Prop :=
  s.terminalError = none ∧ s.parser.terminalError = none

/-- A chunk is read as it should be: the messages before the first bad frame are handed
over, and the reader dispatches them and then stops with that frame's input error, unless it
found fault with the messages themselves. -/
structure KeepsMessages (limits : JsonLimits) (s : AdapterReader) (chunk : List UInt8) : Prop where
  handed : NdjsonStreamParser.delivered (s.parser.feedDevice limits chunk).1
    = (messagesBefore limits (s.parser.buffer ++ chunk)).1
  stopped : ∀ e, (messagesBefore limits (s.parser.buffer ++ chunk)).2 = some e →
    ∀ dispatched, dispatched = { s with parser := (s.parser.feedDevice limits chunk).2 }.dispatchMessages
        true s.info (messagesBefore limits (s.parser.buffer ++ chunk)).1 →
      (s.readChunk limits chunk).events = dispatched.events ∧
      (s.readChunk limits chunk).responses = dispatched.responses ∧
      (s.readChunk limits chunk).terminalError
        = some (dispatched.terminalError.getD (backendInputErrorFromProtocol e))

/-- The first line that is no valid message is not one that `json.loads` gives up on. -/
def FirstBadWithin (limits : JsonLimits) (lines : List (List UInt8)) : Prop :=
  ∀ good line rest body fault, lines = good ++ line :: rest →
    (∀ l ∈ good, (parseLine (parseDeviceMessage limits) l).isOk) →
    line.length + 1 ≤ maxDeviceFrameBytes →
    frameBody line = (.ok body : Except (ProtocolError DeviceFault) (List UInt8)) →
    ¬Overruns limits body fault

/-- A line lets an exception escape when its body does. -/
theorem parseLine_other_iff {limits : JsonLimits} {line : List UInt8} {fault : EscapedException} :
    parseLine (parseDeviceMessage limits) line = .error (.message (.other fault)) ↔
      line.length + 1 ≤ maxDeviceFrameBytes ∧
        ∃ body, frameBody line = (.ok body : Except (ProtocolError DeviceFault) (List UInt8)) ∧
          Overruns limits body fault := by
  unfold parseLine
  split
  · next hlong => exact ⟨nofun, fun h => absurd hlong (Nat.not_lt.mpr h.1)⟩
  · next hshort =>
    rw [and_iff_right (Nat.not_lt.mp hshort)]
    cases hbody : (frameBody line : Except (ProtocolError DeviceFault) (List UInt8)) with
    | error e =>
      obtain ⟨detail, rfl⟩ := frameBody_error hbody
      simp
    | ok body =>
      simp only [Except.ok.injEq, exists_eq_left', ← parseDeviceMessage_other_iff]
      cases parseDeviceMessage limits body <;> simp

/-- The first bad line lets an exception escape, unless it is within the limits. -/
theorem firstBadWithin_iff {limits : JsonLimits} {lines : List (List UInt8)} :
    FirstBadWithin limits lines ↔
      ∀ fault, (parseLines (parseDeviceMessage limits) lines).2 ≠ some (.message (.other fault)) := by
  induction lines with
  | nil =>
    refine ⟨fun _ _ => nofun, fun _ good line rest body fault hlines => ?_⟩
    cases good <;> cases hlines
  | cons line lines ih =>
    rw [parseLines]
    cases hline : parseLine (parseDeviceMessage limits) line with
    | error e =>
      constructor
      · intro hwithin fault heq
        cases heq
        obtain ⟨hshort, body, hbody, hover⟩ := parseLine_other_iff.mp hline
        exact hwithin [] line lines body fault rfl (by simp) hshort hbody hover
      · intro hnone good other rest body fault hlines hgood hshort hbody hover
        cases good with
        | nil =>
          cases hlines
          have := hline.symm.trans (parseLine_other_iff.mpr ⟨hshort, body, hbody, hover⟩)
          cases this
          exact hnone fault rfl
        | cons l good =>
          cases hlines
          have := hgood line List.mem_cons_self
          rw [hline] at this
          cases this
    | ok message =>
      dsimp only
      rw [← ih]
      constructor
      · intro hwithin good other rest body fault hlines hgood
        refine hwithin (line :: good) other rest body fault (congrArg (line :: ·) hlines) ?_
        exact List.forall_mem_cons.mpr ⟨by rw [hline]; rfl, hgood⟩
      · intro hwithin good other rest body fault hlines hgood hshort hbody hover
        cases good with
        | nil =>
          cases hlines
          have := hline.symm.trans (parseLine_other_iff.mpr ⟨hshort, body, hbody, hover⟩)
          cases this
        | cons l good =>
          cases hlines
          exact hwithin good other rest body fault rfl
            (fun l hl => hgood l (List.mem_cons_of_mem _ hl)) hshort hbody hover

section
variable {limits : JsonLimits} {p : NdjsonStreamParser DeviceFault} {chunk : List UInt8}

/-- A feed whose first bad frame lets an exception escape hands over nothing. -/
theorem feedDevice_other (hp : p.terminalError = none) (hchunk : chunk ≠ []) {fault : EscapedException}
    (hbad : (parseLines (parseDeviceMessage limits) (splitNewlines (p.buffer ++ chunk)).1).2
      = some (.message (.other fault))) :
    p.feedDevice limits chunk = (.error (.message (.other fault)),
      { p with buffer := (splitNewlines (p.buffer ++ chunk)).2 }) := by
  unfold NdjsonStreamParser.feedDevice
  rw [hp]
  dsimp only
  rw [if_neg hchunk]
  cases hlines : parseLines (parseDeviceMessage limits) (splitNewlines (p.buffer ++ chunk)).1 with
  | mk messages bad =>
    rw [hlines] at hbad
    cases hbad
    rfl

/-- Any other feed hands over the messages before the first bad frame, and stops at it. -/
theorem feedDevice_within (hp : p.terminalError = none) (hchunk : chunk ≠ [])
    (hwithin : ∀ fault, (parseLines (parseDeviceMessage limits)
      (splitNewlines (p.buffer ++ chunk)).1).2 ≠ some (.message (.other fault))) :
    p.feedDevice limits chunk
      = match messagesBefore limits (p.buffer ++ chunk) with
        | (messages, some e) => NdjsonStreamParser.fail messages e
        | (messages, none) =>
          (.ok messages, { p with buffer := (splitNewlines (p.buffer ++ chunk)).2 }) := by
  unfold NdjsonStreamParser.feedDevice messagesBefore
  rw [hp]
  dsimp only
  rw [if_neg hchunk]
  cases hlines : parseLines (parseDeviceMessage limits) (splitNewlines (p.buffer ++ chunk)).1 with
  | mk messages bad =>
    rw [hlines] at hwithin
    cases bad with
    | some e =>
      cases e with
      | message fault =>
        cases fault with
        | other fault => exact absurd rfl (hwithin fault)
        | protocol error => rfl
      | frameTooLarge observed bound => rfl
      | validation detail => rfl
    | none =>
      dsimp only
      split <;> rfl

end

namespace AdapterReader

@[simp] theorem setTerminal_events (s : AdapterReader) (e : AdapterError) :
    (s.setTerminal e).events = s.events := rfl

@[simp] theorem setTerminal_responses (s : AdapterReader) (e : AdapterError) :
    (s.setTerminal e).responses = s.responses := rfl

@[simp] theorem setTerminal_terminalError (s : AdapterReader) (e : AdapterError) :
    (s.setTerminal e).terminalError = some (s.terminalError.getD e) := rfl

/-- What dispatching finds wrong with the messages is an input error. -/
theorem dispatchMessages_terminalError (parserFailed : Bool) {s : AdapterReader}
    (hs : s.terminalError = none) (info : Option DeviceMessage) (messages : List DeviceMessage) :
    (s.dispatchMessages parserFailed info messages).terminalError = none ∨ ∃ detail,
      (s.dispatchMessages parserFailed info messages).terminalError
        = some (adapterInputError detail) := by
  have hset : ∀ (r : AdapterReader) (detail : String), r.terminalError = none →
      ∃ detail', (r.setTerminal (adapterInputError detail)).terminalError
        = some (adapterInputError detail') := fun r detail hr => ⟨detail, by simp [hr]⟩
  induction messages generalizing s info with
  | nil => exact .inl hs
  | cons message messages ih =>
    unfold dispatchMessages
    split
    · split
      · exact ih hs _
      · exact .inr (hset s _ hs)
    split
    · dsimp only
      split
      · exact .inr (hset s _ hs)
      · refine ih ?_ info
        exact hs
    · split
      · split
        · exact ih hs _
        split
        · refine ih ?_ info
          exact hs
        · exact .inr (hset _ _ hs)
      split
      · exact .inl hs
      · exact .inr (hset _ _ hs)

theorem backendInputErrorFromProtocol_ne (e : ProtocolError DeviceFault) (detail : String) :
    backendInputErrorFromProtocol e ≠ .disconnected detail := by
  cases e <;> exact nofun

/-- The reader stops at a bad frame that raises a `ProtocolError` with its input error. -/
theorem readChunk_fail {limits : JsonLimits} {s : AdapterReader} {chunk : List UInt8}
    (hchunk : chunk ≠ []) {messages : List DeviceMessage}
    {e : ProtocolError DeviceFault} (he : ∀ fault, e ≠ .message (.other fault))
    (hfed : s.parser.feedDevice limits chunk = NdjsonStreamParser.fail messages e)
    {dispatched : AdapterReader}
    (hdispatched : dispatched = { s with parser := (s.parser.feedDevice limits chunk).2
      }.dispatchMessages true s.info messages) :
    (s.readChunk limits chunk).events = dispatched.events ∧
      (s.readChunk limits chunk).responses = dispatched.responses ∧
      (s.readChunk limits chunk).terminalError
        = some (dispatched.terminalError.getD (backendInputErrorFromProtocol e)) := by
  subst hdispatched
  unfold readChunk
  rw [if_neg hchunk, hfed]
  by_cases hnil : messages = []
  · subst hnil
    have hfail : NdjsonStreamParser.fail ([] : List DeviceMessage) e
        = (.error e, { buffer := [], terminalError := some e }) := rfl
    rw [hfail]
    have hdispatch : (AdapterReader.dispatchMessages true { s with parser :=
        ({ buffer := [], terminalError := some e } : NdjsonStreamParser DeviceFault) } s.info [])
          = { s with parser := { buffer := [], terminalError := some e } } := rfl
    rw [hdispatch]
    dsimp only
    split
    · next heq =>
      cases heq
      exact absurd rfl (he _)
    · next heq =>
      cases heq
      exact ⟨rfl, rfl, rfl⟩
    · next heq => cases heq
  · have hfail : NdjsonStreamParser.fail messages e
        = (.ok messages, { buffer := [], terminalError := some e }) := by
      rw [NdjsonStreamParser.fail, if_neg hnil]
    rw [hfail]
    exact ⟨rfl, rfl, rfl⟩

end AdapterReader

/-- The error of the first bad frame is no exception that escapes, if the frame is within
the limits. -/
theorem messagesBefore_within {limits : JsonLimits} {bytes : List UInt8}
    (hwithin : FirstBadWithin limits (splitNewlines bytes).1) {e : ProtocolError DeviceFault}
    (he : (messagesBefore limits bytes).2 = some e) (fault : EscapedException) :
    e ≠ .message (.other fault) := by
  rintro rfl
  have hnone := firstBadWithin_iff.mp hwithin fault
  unfold messagesBefore at he
  split at he
  · next heq => exact hnone (by rw [heq]; exact he)
  · split at he <;> cases he

/-- A chunk is read as it should be exactly when its first bad frame is within the limits. -/
theorem readChunk_iff {limits : JsonLimits} {s : AdapterReader} (hs : s.Reading)
    {chunk : List UInt8} (hchunk : chunk ≠ []) :
    KeepsMessages limits s chunk ↔
      FirstBadWithin limits (splitNewlines (s.parser.buffer ++ chunk)).1 := by
  constructor
  · intro hkeeps
    refine firstBadWithin_iff.mpr fun fault hbad => ?_
    have hfed := feedDevice_other hs.2 hchunk hbad
    have hbefore : (messagesBefore limits (s.parser.buffer ++ chunk)).2
        = some (.message (.other fault)) := by
      unfold messagesBefore
      split
      · next heq => rw [heq] at hbad; exact hbad
      · next heq => rw [heq] at hbad; cases hbad
    obtain ⟨-, -, hterminal⟩ := hkeeps.stopped _ hbefore _ rfl
    have hread : (s.readChunk limits chunk).terminalError
        = some (.disconnected "Enhanced serial read failed") := by
      unfold AdapterReader.readChunk
      rw [if_neg hchunk, hfed]
      simp [hs.1]
    rw [hread] at hterminal
    have hnone : ({ s with parser := (s.parser.feedDevice limits chunk).2 } : AdapterReader).terminalError
        = none := hs.1
    rcases AdapterReader.dispatchMessages_terminalError true hnone s.info
      (messagesBefore limits (s.parser.buffer ++ chunk)).1 with hdispatch | ⟨detail, hdispatch⟩
    · rw [hdispatch] at hterminal
      exact AdapterReader.backendInputErrorFromProtocol_ne (.message (.other fault))
        "Enhanced serial read failed" (Option.some.inj hterminal).symm
    · rw [hdispatch] at hterminal
      cases hterminal
  · intro hwithin
    have hfed := feedDevice_within hs.2 hchunk (firstBadWithin_iff.mp hwithin)
    cases hbefore : messagesBefore limits (s.parser.buffer ++ chunk) with
    | mk messages bad =>
      rw [hbefore] at hfed
      have herror := fun e he => messagesBefore_within hwithin
        (show (messagesBefore limits (s.parser.buffer ++ chunk)).2 = some e by rw [hbefore]; exact he)
      cases bad with
      | none =>
        refine ⟨?_, ?_⟩
        · rw [hfed, hbefore]
          rfl
        · rw [hbefore]
          nofun
      | some e =>
        refine ⟨?_, ?_⟩
        · rw [hfed, hbefore]
          exact (NdjsonStreamParser.delivered_fail messages e).1
        · rw [hbefore]
          rintro _ ⟨⟩ dispatched hdispatched
          exact AdapterReader.readChunk_fail hchunk (herror e rfl) hfed hdispatched

/-- CPython's default limits; the stack leaves a thousand levels. -/
def defaultLimits : JsonLimits := ⟨4300, 1000, defaultMaxStrDigits_pos, defaultNesting_pos⟩

/-- Only a `ProtocolError` escapes from a frame body exactly when `json.loads` does not give
up on it, and a chunk is read as it should be exactly when that holds of its first bad frame. -/
theorem deviceParsing_iff (limits : JsonLimits) :
    (∀ line, (∀ fault, parseDeviceMessage limits line ≠ .error (.other fault)) ↔
      ∀ fault, ¬Overruns limits line fault) ∧
    ∀ (s : AdapterReader) (chunk : List UInt8), s.Reading → chunk ≠ [] →
      (KeepsMessages limits s chunk ↔
        FirstBadWithin limits (splitNewlines (s.parser.buffer ++ chunk)).1) :=
  ⟨fun _ => forall_congr' fun _ => not_congr parseDeviceMessage_other_iff,
    fun _ _ hs hchunk => readChunk_iff hs hchunk⟩

/-- A reader that has only begun stops in order at an object without a type. -/
theorem deviceParsing_iff_fresh : KeepsMessages defaultLimits {} [0x7B, 0x7D, 0x0A] ↔
    FirstBadWithin defaultLimits (splitNewlines ([] ++ [0x7B, 0x7D, 0x0A])).1 :=
  (deviceParsing_iff defaultLimits).2 {} [0x7B, 0x7D, 0x0A] ⟨rfl, rfl⟩ (by decide)

/-- A frame body of one field whose number has 4301 digits. -/
def longNumberBody : List UInt8 :=
  0x7B :: 0x22 :: 0x76 :: 0x22 :: 0x3A :: (List.replicate 4301 0x31 ++ [0x7D])

theorem overruns_longNumberBody : Overruns defaultLimits longNumberBody .valueError := by
  have hascii : ∀ b ∈ longNumberBody, b < 0x80 := by
    simp only [longNumberBody, List.forall_mem_cons, List.forall_mem_append, List.mem_replicate]
    refine ⟨by decide, by decide, by decide, by decide, by decide, ?_, by decide,
      List.forall_mem_nil _⟩
    rintro b ⟨-, rfl⟩
    decide
  have htext : codePoints (longNumberBody.map fun b => Char.ofNat b.toNat)
      = 0x7B :: literalThen (py "v") (0x3A :: (List.replicate (4300 + 1) 0x31 ++ 0x7D :: [])) := by
    simp only [longNumberBody, codePoints, List.map_cons, List.map_append, List.map_replicate,
      List.map_nil]
    rfl
  have hblank : skipBlanks (List.replicate (4300 + 1) 0x31 ++ 0x7D :: [])
      = List.replicate (4300 + 1) 0x31 ++ 0x7D :: [] := by
    rw [List.replicate_succ, List.cons_append]
    exact skipBlanks_cons (by decide) _
  have hvalue : scanValue defaultLimits.maxStrDigits defaultLimits.nesting
      (0x7B :: literalThen (py "v") (0x3A :: (List.replicate (4300 + 1) 0x31 ++ 0x7D :: [])))
        = .error .digitLimit := by
    have hkey : ∀ c ∈ py "v", c < 0x80 := by decide
    refine scanValue_obj_error (fun c hc => (hkey c hc).trans (by decide)) ?_ ?_
    · exact not_splitsPair_of_lt fun c hc => (hkey c hc).trans (by decide)
    · rw [hblank]
      exact scanValue_digitLimit 999 le_rfl []
  refine ⟨_, .digitLimit, Utf8.decode_ascii hascii, ?_, rfl⟩
  rw [htext]
  refine loads_of_error (fun heq => absurd (Option.some.inj heq) (by decide)) ?_
  have hopen : isBlank 0x7B = false := by decide
  rw [skipBlanks_cons hopen]
  exact hvalue

/-- A frame body of 4307 bytes lets the `ValueError` of a long integer escape. -/
theorem not_only_protocolError : ¬∀ line, line.length + 1 ≤ maxDeviceFrameBytes →
    ∀ exception, parseDeviceMessage defaultLimits line ≠ .error (.other exception) := by
  intro hall
  have hlength : longNumberBody.length = 4307 := by
    simp only [longNumberBody, List.length_cons, List.length_append, List.length_replicate,
      List.length_nil]
  exact hall longNumberBody (by rw [hlength]; decide) .valueError
    (parseDeviceMessage_other_iff.mpr overruns_longNumberBody)
