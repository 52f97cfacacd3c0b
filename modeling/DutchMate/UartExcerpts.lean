/-
# UART excerpts

`uart_excerpts.py` reads the recorded bytes of a session line by line and selects the lines that a
debug agent is shown: those around the first error, then those with a detected pattern, then those
at the beginning and at the end.
-/
import DutchMate.DeviceMessage
import DutchMate.Dict
import DutchMate.LineTiling
import DutchMate.LogReplay
import DutchMate.Utf8Text
import Mathlib.Data.Prod.Lex

open PyJson
open LogReplay (UartEvent hasKeys isString uartEventKeys)

namespace DebugEvidence

/-- What reading evidence raises: a `ValueError` with its text, `UnicodeDecodeError`,
`UnicodeEncodeError`, what `json.loads` or `b64decode` raises, `KeyError` or `TypeError`. -/
inductive EvidenceFault where
  | value (detail : String)
  | undecodable
  | unencodable
  | json (fault : JsonFault)
  | base64
  | missingKey
  | typeError
  deriving DecidableEq, Repr

abbrev Evidence (α : Type) := Except EvidenceFault α

def uartLineLimit : ℕ := 300
def uartTextBytes : ℕ := 64 * 1024
def patternRefsPerLine : ℕ := 16
def errorContextLines : ℕ := 5
def bootEdgeLines : ℕ := 20

/-! ## Records -/

/-- `_jsonl_objects` on one line of the artifact. -/
def jsonlObject (limits : JsonLimits) (line : List UInt8) : Evidence Payload :=
  if line = [newline] ∨ line.getLast? ≠ some newline then
    .error (.value "JSONL artifact contains an empty or incomplete record")
  else
    match Utf8.decode line with
    | none => .error .undecodable
    | some text =>
      match loads limits (codePoints text) with
      | .error fault => .error (.json fault)
      | .ok (.obj fields) => .ok fields
      | .ok _ => .error (.value "JSONL artifact must contain objects")

/-- The lines of `io.BytesIO`. -/
def jsonlLines (data : List UInt8) : List (List UInt8) := physicalLines (· == newline) data

def integer (value : Option PyJson) (name : String) : Evidence ℕ :=
  match value with
  | some (.int (.ofNat n)) => .ok n
  | _ => .error (.value (name ++ " must be a non-negative integer"))

/-- `_uart_record`. -/
def uartRecord (record : Payload) : Evidence UartEvent := do
  if !hasKeys uartEventKeys record || !isString (getField record "type") (py "uart") then
    .error (.value "UART event record fields are invalid")
  else
    let segmentId ← integer (getField record "segment_id") "segment_id"
    let channel ← integer (getField record "channel") "channel"
    let timestampUs ← integer (getField record "timestamp_us") "timestamp_us"
    match getField record "data_b64" with
    | some (.str encoded) =>
      match b64decode encoded with
      | none => .error .base64
      | some data =>
        if !isString (getField record "text") (codePoints (Utf8.decodeReplace data)) then
          .error (.value "UART text disagrees with recorded bytes")
        else .ok ⟨segmentId, channel, timestampUs, data, none⟩
    | _ => .error (.value "UART data_b64 must be text")

/-! ## References to lines -/

/-- The segment and channel of a line, its ingestion index and its index in the event. -/
abbrev LineReference := ℕ × ℕ × ℕ × ℕ

def patternInt (pattern : Payload) (key : String) : Evidence ℕ :=
  match getField pattern key with
  | some (.int (.ofNat n)) => .ok n
  | _ => .error (.value ("detected pattern '" ++ key ++ "' must be a non-negative integer"))

/-- `_pattern_excerpt`, of which nothing is kept here. -/
def patternExcerpt (value : Option PyJson) : Evidence Unit :=
  match value with
  | some (.obj excerpt) =>
    match getField excerpt "text", getField excerpt "raw_b64" with
    | some (.str _), some (.str _) =>
      match getField excerpt "excerpt_truncated" with
      | some (.bool _) => do
        let _ ← patternInt excerpt "start_byte"
        let _ ← patternInt excerpt "end_byte"
        .ok ()
      | _ => .error (.value "detected pattern excerpt_truncated must be a boolean")
    | _, _ => .error (.value "detected pattern excerpt text/base64 is invalid")
  | _ => .error (.value "detected pattern match_excerpt must be a JSON object")

/-- `detected_pattern_at`, of which the reference is kept. -/
def detectedPattern (value : PyJson) : Evidence LineReference :=
  match value with
  | .obj pattern =>
    match getField pattern "pattern" with
    | some (.str (_ :: _)) => do
      let segmentId ← patternInt pattern "segment_id"
      let _ ← patternInt pattern "timestamp_us"
      let channel ← patternInt pattern "channel"
      let ingestionIndex ← patternInt pattern "ingestion_index"
      let lineIndexInEvent ← patternInt pattern "line_index_in_event"
      let _ ← patternInt pattern "line_start_ingestion_index"
      let _ ← patternInt pattern "line_start_event_offset"
      let _ ← patternInt pattern "line_end_ingestion_index"
      let _ ← patternInt pattern "line_end_event_offset"
      let _ ← patternInt pattern "total_line_bytes"
      let _ ← patternInt pattern "match_start_byte"
      let _ ← patternInt pattern "match_end_byte"
      patternExcerpt (getField pattern "match_excerpt")
      .ok (segmentId, channel, ingestionIndex, lineIndexInEvent)
    | _ => .error (.value "detected pattern name is invalid")
  | _ => .error (.value "detected patterns must contain JSON objects")

/-- `_pattern_references`; the list gives the line that each pattern is in. -/
def patternReferences (limits : JsonLimits) (data : List UInt8) : Evidence (List LineReference) :=
  match Utf8.decode data with
  | none => .error .undecodable
  | some text =>
    match loads limits (codePoints text) with
    | .error fault => .error (.json fault)
    | .ok (.arr patterns) => patterns.mapM detectedPattern
    | .ok _ => .error (.value "detected patterns must be a list")

/-- `refs.get(key, [])`: the indexes of the patterns in a line. -/
def patternsAt (patterns : List LineReference) (key : LineReference) : List ℕ :=
  patterns.findIdxs (· = key)

/-! ## The selector -/

/-- What the selection needs of the facts of a session. -/
structure SessionFacts where
  sessionId : PyStr
  segments : List Payload
  firstError : Option LineReference
  hardwareEventCounts : List ℕ
  unresolvedUartTxAttempts : ℕ
  oversizedLineCount : ℕ

structure UartExcerpt where
  sessionId : PyStr
  ordinal : ℕ
  segmentId : ℕ
  channel : ℕ
  timestampUs : ℕ
  ingestionIndex : ℕ
  lineIndexInEvent : ℕ
  text : List Char
  isPartial : Bool
  patternIndexes : List ℕ
  omittedPatternIndexes : ℕ
  deriving DecidableEq, Repr

structure UartSelector where
  count : ℕ := 0
  oversizedCount : ℕ := 0
  firstErrorFound : Bool := false
  afterError : ℕ := 0
  before : List UartExcerpt := []
  error : List UartExcerpt := []
  pattern : List UartExcerpt := []
  start : List UartExcerpt := []
  ending : List UartExcerpt := []
  recent : List UartExcerpt := []

/-- `deque.append` on a deque of a greatest length. -/
def pushBounded {α : Type} (maxlen : ℕ) (items : List α) (item : α) : List α :=
  (items ++ [item]).drop (items.length + 1 - maxlen)

/-- The excerpt that `_observe` makes. -/
def excerptOf (facts : SessionFacts) (patterns : List LineReference) (ordinal : ℕ)
    (key : LineReference) (timestampUs : ℕ) (text : List Char) (isPartial : Bool) : UartExcerpt :=
  let refs := patternsAt patterns key
  { sessionId := facts.sessionId
    ordinal := ordinal
    segmentId := key.1
    channel := key.2.1
    timestampUs := timestampUs
    ingestionIndex := key.2.2.1
    lineIndexInEvent := key.2.2.2
    text := text
    isPartial := isPartial
    patternIndexes := refs.take patternRefsPerLine
    omittedPatternIndexes := refs.length - patternRefsPerLine }

/-- `_observe` behind its check of the coordinates. -/
def observeAt (facts : SessionFacts) (patterns : List LineReference) (s : UartSelector)
    (key : LineReference) (timestampUs : ℕ) (text : List Char) (isPartial : Bool) :
    UartSelector :=
  let excerpt := excerptOf facts patterns s.count key timestampUs text isPartial
  let s := { s with count := s.count + 1 }
  let s :=
    if facts.firstError = some key then
      { s with
        firstErrorFound := true
        error := s.error ++ s.before ++ [excerpt]
        afterError := errorContextLines }
    else if s.afterError ≠ 0 then
      { s with error := s.error ++ [excerpt], afterError := s.afterError - 1 }
    else s
  { s with
    before := pushBounded errorContextLines s.before excerpt
    pattern :=
      if patternsAt patterns key ≠ [] ∧ s.pattern.length < uartLineLimit then
        s.pattern ++ [excerpt]
      else s.pattern
    start := if s.start.length < bootEdgeLines then s.start ++ [excerpt] else s.start
    ending := pushBounded bootEdgeLines s.ending excerpt
    recent := pushBounded uartLineLimit s.recent excerpt }

def observe (facts : SessionFacts) (patterns : List LineReference) (s : UartSelector)
    (line : UartLine) (segmentId channel timestampUs : ℕ) (isPartial : Bool) :
    Evidence UartSelector :=
  match line.ingestionIndex, line.lineIndexInEvent with
  | some ingestionIndex, some lineIndexInEvent =>
    .ok (observeAt facts patterns s (segmentId, channel, ingestionIndex, lineIndexInEvent)
      timestampUs line.text isPartial)
  | _, _ => .error (.value "UART line is missing evidence coordinates")

/-! ## Reading -/

/-- What `read` carries. -/
structure UartReading where
  selector : UartSelector := {}
  buffers : Dict (ℕ × ℕ) UartLineBuffer := ∅
  timestamps : Dict (ℕ × ℕ) ℕ := ∅
  currentSegment : Option ℕ := none

/-- A line left in a buffer: its ingestion index, channel and timestamp. -/
structure PendingLine where
  ingestionIndex : ℕ
  channel : ℕ
  line : UartLine
  timestampUs : ℕ

def pendingLines (channel timestampUs : ℕ) (lines : List UartLine) : Evidence (List PendingLine) :=
  lines.mapM fun line =>
    match line.ingestionIndex with
    | some ingestionIndex => .ok ⟨ingestionIndex, channel, line, timestampUs⟩
    | none => .error (.value "partial UART line is missing ingestion index")

/-- One buffer of `_flush_segment`. -/
def flushBuffer (segmentId : ℕ) (flushed : UartReading × List PendingLine) (key : ℕ × ℕ) :
    Evidence (UartReading × List PendingLine) :=
  let (reading, pending) := flushed
  if key.1 ≠ segmentId then .ok (reading, pending)
  else
    match reading.buffers.get? key, reading.timestamps.get? key with
    | some buffer, some timestampUs => do
      let result := buffer.flushResult.2
      let lines ← pendingLines key.2 timestampUs result.lines
      .ok
        ({ reading with
            buffers := reading.buffers.erase key
            timestamps := reading.timestamps.erase key
            selector :=
              { reading.selector with
                oversizedCount :=
                  reading.selector.oversizedCount + result.oversizedLines.length } },
          pending ++ lines)
    | _, _ => .error .missingKey

/-- The order of the lines left in the buffers of a segment. -/
def PendingLine.order (pending : PendingLine) : ℕ ×ₗ ℕ :=
  toLex (pending.ingestionIndex, pending.channel)

/-- `_flush_segment`. -/
def flushSegment (facts : SessionFacts) (patterns : List LineReference) (segmentId : ℕ)
    (reading : UartReading) : Evidence UartReading := do
  let (reading, pending) ←
    reading.buffers.keys.foldlM (flushBuffer segmentId) (reading, [])
  let selector ← (pending.insertionSort (·.order ≤ ·.order)).foldlM
    (fun s pending =>
      observe facts patterns s pending.line segmentId pending.channel pending.timestampUs true)
    reading.selector
  .ok { reading with selector }

/-- The segment of a record is the current one, or a later one that closes it. -/
def enterSegment (facts : SessionFacts) (patterns : List LineReference) (segmentId : ℕ)
    (reading : UartReading) : Evidence UartReading := do
  let reading ←
    match reading.currentSegment with
    | none => .ok reading
    | some current =>
      if segmentId = current then .ok reading
      else if segmentId < current then .error (.value "UART event segment order regressed")
      else flushSegment facts patterns current reading
  .ok { reading with currentSegment := some segmentId }

/-- One turn of the loop of `read`. -/
def readEvent (facts : SessionFacts) (patterns : List LineReference) (validSegments : List ℕ)
    (ingestionIndex : ℕ) (event : UartEvent) (reading : UartReading) : Evidence UartReading := do
  if event.segmentId ∉ validSegments then
    .error (.value "UART event references an unknown segment")
  else
    let reading ← enterSegment facts patterns event.segmentId reading
    let (buffer, result) := (reading.buffers.getD event.key {}).feedResult event.data
      (some ingestionIndex) (some event.timestampUs) 0
    let selector ← result.lines.foldlM
      (fun s line =>
        observe facts patterns s line event.segmentId event.channel event.timestampUs false)
      { reading.selector with
        oversizedCount := reading.selector.oversizedCount + result.oversizedLines.length }
    .ok
      { reading with
        buffers := reading.buffers.set event.key buffer
        timestamps := reading.timestamps.set event.key event.timestampUs
        selector }

def readRecords (facts : SessionFacts) (patterns : List LineReference) (validSegments : List ℕ)
    (decode : List UInt8 → Evidence UartEvent) :
    ℕ → List (List UInt8) → UartReading → Evidence UartReading
  | _, [], reading => .ok reading
  | ingestionIndex, line :: lines, reading => do
    let event ← decode line
    let reading ← readEvent facts patterns validSegments ingestionIndex event reading
    readRecords facts patterns validSegments decode (ingestionIndex + 1) lines reading

def decodeUart (limits : JsonLimits) (line : List UInt8) : Evidence UartEvent := do
  let record ← jsonlObject limits line
  uartRecord record

/-- `_UartSelector.read`. -/
def readUart (limits : JsonLimits) (facts : SessionFacts) (patterns : List LineReference)
    (data : List UInt8) : Evidence UartSelector := do
  let validSegments ← facts.segments.mapM fun segment =>
    integer (getField segment "segment_id") "segment_id"
  let reading ← readRecords facts patterns validSegments (decodeUart limits) 0 (jsonlLines data) {}
  match reading.currentSegment with
  | none => .ok reading.selector
  | some current => do
    let reading ← flushSegment facts patterns current reading
    .ok reading.selector

/-! ## Selecting -/

/-- The bytes of an excerpt's text. -/
def UartExcerpt.textSize (excerpt : UartExcerpt) : ℕ := (Utf8.encodeChars excerpt.text).length

/-- One turn of the loop of `select`. -/
def offerExcerpt (selected : Dict ℕ UartExcerpt × ℕ) (excerpt : UartExcerpt) :
    Dict ℕ UartExcerpt × ℕ :=
  if selected.1.contains excerpt.ordinal then selected
  else if uartLineLimit ≤ selected.1.length ∨ uartTextBytes < selected.2 + excerpt.textSize then
    selected
  else (selected.1.set excerpt.ordinal excerpt, selected.2 + excerpt.textSize)

/-- The excerpts in the order in which they are offered. -/
def UartSelector.offered (s : UartSelector) : List UartExcerpt :=
  s.error ++ (s.pattern ++ (s.start ++ (s.ending ++ s.recent)))

/-- `_UartSelector.select`. -/
def UartSelector.select (s : UartSelector) : List UartExcerpt × ℕ :=
  let (selected, textBytes) := s.offered.foldl offerExcerpt (∅, 0)
  (selected.sortedEntries.map Prod.snd, textBytes)

end DebugEvidence
