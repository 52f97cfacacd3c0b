/-
# Replay of the recorded UART lines

`replayUartPrefix` decodes the records of `uart_events.jsonl` one by one, feeds each to the line
buffer of its segment and channel, and keeps the newest complete, unterminated and oversized lines
of all of them.
-/
import DutchMate.DeviceMessage
import DutchMate.Dict
import DutchMate.LineBuffer
import Mathlib.Data.Prod.Lex

open PyJson

namespace LogReplay

/-- What a replay raises: a `ValueError` with its text, `UnicodeDecodeError`, what `json.loads`
raises, or a `KeyError`. -/
inductive ReplayFault where
  | value (detail : String)
  | undecodable
  | json (fault : JsonFault)
  | missingKey (key : ℕ × ℕ)
  deriving DecidableEq

abbrev Replayed (α : Type) := Except ReplayFault α

/-! ## The records -/

/-- What a record of the journal says of the bytes received. -/
structure UartEvent where
  segmentId : ℕ
  channel : ℕ
  timestampUs : ℕ
  data : List UInt8
  evidenceSeq : Option ℕ
  deriving DecidableEq, Repr

def UartEvent.key (event : UartEvent) : ℕ × ℕ := (event.segmentId, event.channel)

def uartEventKeys : List String :=
  ["type", "segment_id", "timestamp_us", "channel", "data_b64", "text"]

def v2UartEventKeys : List String :=
  ["evidence_seq", "type", "segment_id", "timestamp_us", "recorded_at", "channel", "data_b64",
    "raw_offset_start", "raw_offset_end"]

/-- `bytes.splitlines(keepends=True)`, with the bytes of the line so far. -/
def splitlinesFrom : List UInt8 → List UInt8 → List (List UInt8)
  | [], [] => []
  | line, [] => [line]
  | line, 0x0D :: 0x0A :: rest => (line ++ [0x0D, 0x0A]) :: splitlinesFrom [] rest
  | line, byte :: rest =>
    if byte = 0x0A ∨ byte = 0x0D then (line ++ [byte]) :: splitlinesFrom [] rest
    else splitlinesFrom (line ++ [byte]) rest

def splitlines (bytes : List UInt8) : List (List UInt8) := splitlinesFrom [] bytes

def nonNegativeInt (value : Option PyJson) (field : String) : Replayed ℕ :=
  match value with
  | some (.int (.ofNat n)) => .ok n
  | _ => .error (.value ("UART evidence " ++ field ++ " must be a non-negative integer"))

/-- `set(value) == expected_keys` for an object. -/
def hasKeys (keys : List String) (fields : Payload) : Bool :=
  fields.all (fun field => isOneOf field.1 keys) && keys.all fun key => (getField fields key).isSome

/-- Whether a field is the string given; an absent field and a value of another type are not. -/
def isString (value : Option PyJson) (text : PyStr) : Bool :=
  match value with
  | some (.str s) => s = text
  | _ => false

def eventData (value : Option PyJson) : Replayed (List UInt8) :=
  match value with
  | some (.str dataB64) =>
    match b64decode dataB64 with
    | some data => .ok data
    | none => .error (.value "UART evidence data_b64 is invalid")
  | _ => .error (.value "UART evidence data_b64 must be a string")

def decodeUartFields (validSegmentIds : List ℕ) (schemaVersion : ℕ) (fields : Payload) :
    Replayed UartEvent := do
  let expectedType := if schemaVersion = 2 then "uart_rx" else "uart"
  if !isString (getField fields "type") (py expectedType) then
    .error (.value "UART evidence record type is invalid")
  else
    let segmentId ← nonNegativeInt (getField fields "segment_id") "segment_id"
    if segmentId ∉ validSegmentIds then
      .error (.value "UART evidence references an unknown segment")
    else
      let timestampUs ← nonNegativeInt (getField fields "timestamp_us") "timestamp_us"
      let channel ← nonNegativeInt (getField fields "channel") "channel"
      let data ← eventData (getField fields "data_b64")
      if schemaVersion = 1 ∧
          !isString (getField fields "text") (codePoints (Utf8.decodeReplace data)) then
        .error (.value "UART evidence text projection does not match exact bytes")
      else if schemaVersion = 2 then
        let evidenceSeq ← nonNegativeInt (getField fields "evidence_seq") "evidence_seq"
        .ok ⟨segmentId, channel, timestampUs, data, some evidenceSeq⟩
      else .ok ⟨segmentId, channel, timestampUs, data, none⟩

def decodeUartEvent (limits : JsonLimits) (validSegmentIds : List ℕ) (schemaVersion : ℕ)
    (rawRecord : List UInt8) : Replayed UartEvent :=
  if rawRecord.getLast? ≠ some newline ∨ rawRecord = [newline] then
    .error (.value "uart_events.jsonl contains an incomplete or empty record")
  else
    match Utf8.decode rawRecord with
    | none => .error .undecodable
    | some text =>
      match loads limits (codePoints text) with
      | .error fault => .error (.json fault)
      | .ok (.obj fields) =>
        if !hasKeys (if schemaVersion = 2 then v2UartEventKeys else uartEventKeys) fields then
          .error (.value "UART evidence record fields are invalid")
        else decodeUartFields validSegmentIds schemaVersion fields
      | .ok _ => .error (.value "UART evidence record fields are invalid")

/-! ## The lines kept -/

structure RecentLogLine where
  segmentId : ℕ
  channel : ℕ
  timestampUs : ℕ
  ingestionIndex : ℕ
  lineIndexInEvent : ℕ
  lineRawB64 : List Char
  lineText : List Char
  isPartial : Bool
  deriving DecidableEq, Repr

structure OversizedLogLine where
  segmentId : ℕ
  channel : ℕ
  ingestionIndex : ℕ
  lineIndexInEvent : ℕ
  lineStartIngestionIndex : ℕ
  lineStartEventOffset : ℕ
  lineEndIngestionIndex : ℕ
  lineEndEventOffset : ℕ
  totalLineBytes : ℕ
  terminated : Bool
  timestampUs : ℕ
  deriving DecidableEq, Repr

/-- Where a line was completed: the record, and the line's index in it. -/
abbrev Coordinates := ℕ ×ₗ ℕ

def RecentLogLine.key (line : RecentLogLine) : Coordinates :=
  toLex (line.ingestionIndex, line.lineIndexInEvent)

def OversizedLogLine.key (line : OversizedLogLine) : Coordinates :=
  toLex (line.ingestionIndex, line.lineIndexInEvent)

/-- An entry of the heap: the coordinates of its record, and when it was added. -/
structure Entry (α : Type) where
  key : Coordinates
  sequence : ℕ
  record : α

/-- Entries are compared by their coordinates and then by their sequence, which no two share. -/
def Entry.order {α : Type} (entry : Entry α) : Coordinates ×ₗ ℕ := toLex (entry.key, entry.sequence)

/-- `_BoundedNewest`; the heap is kept in ascending order. -/
structure BoundedNewest (α : Type) where
  limit : ℕ
  nextSequence : ℕ := 0
  heap : List (Entry α) := []
  omitted : ℕ := 0

namespace BoundedNewest

variable {α : Type} (key : α → Coordinates)

/-- `heapq.heappush`. -/
def push (heap : List (Entry α)) (entry : Entry α) : List (Entry α) :=
  heap.orderedInsert (Entry.order · ≤ Entry.order ·) entry

def add (kept : BoundedNewest α) (record : α) : BoundedNewest α :=
  let entry : Entry α := ⟨key record, kept.nextSequence, record⟩
  let kept := { kept with nextSequence := kept.nextSequence + 1 }
  if kept.heap.length < kept.limit then { kept with heap := push kept.heap entry }
  else
    match kept.heap with
    | [] => { kept with omitted := kept.omitted + 1 }
    | least :: rest =>
      if least.key < entry.key then
        { kept with heap := push rest entry, omitted := kept.omitted + 1 }
      else { kept with omitted := kept.omitted + 1 }

def values (kept : BoundedNewest α) : List α := kept.heap.map Entry.record

end BoundedNewest

/-! ## The replay -/

structure ReplayResult where
  snapshotEventCount : ℕ
  completeLines : List RecentLogLine
  partialLines : List RecentLogLine
  oversizedLines : List OversizedLogLine
  omittedCompleteLines : ℕ
  omittedPartialLines : ℕ
  omittedOversizedLines : ℕ

/-- What the loop over the records carries. -/
structure Replay where
  buffers : Dict (ℕ × ℕ) UartLineBuffer := ∅
  lastTimestamps : Dict (ℕ × ℕ) ℕ := ∅
  complete : BoundedNewest RecentLogLine
  unterminated : BoundedNewest RecentLogLine
  oversized : BoundedNewest OversizedLogLine
  eventCount : ℕ := 0

def requiredCoordinate (value : Option ℕ) : Replayed ℕ :=
  match value with
  | some n => .ok n
  | none => .error (.value "replayed UART line is missing an evidence coordinate")

def normalRecord (key : ℕ × ℕ) (timestampUs : ℕ) (isPartial : Bool) (line : UartLine) :
    Replayed RecentLogLine := do
  let ingestionIndex ← requiredCoordinate line.ingestionIndex
  let lineIndexInEvent ← requiredCoordinate line.lineIndexInEvent
  .ok
    { segmentId := key.1
      channel := key.2
      timestampUs := timestampUs
      ingestionIndex := ingestionIndex
      lineIndexInEvent := lineIndexInEvent
      lineRawB64 := Base64.encode line.raw
      lineText := line.text
      isPartial := isPartial }

def oversizedRecord (key : ℕ × ℕ) (line : OversizedUartLine) : Replayed OversizedLogLine := do
  let ingestionIndex ← requiredCoordinate line.ingestionIndex
  let lineIndexInEvent ← requiredCoordinate line.lineIndexInEvent
  let startIngestionIndex ← requiredCoordinate line.startIngestionIndex
  let startEventOffset ← requiredCoordinate line.startEventOffset
  let endIngestionIndex ← requiredCoordinate line.endIngestionIndex
  let endEventOffset ← requiredCoordinate line.endEventOffset
  let timestampUs ← requiredCoordinate line.timestampUs
  .ok
    { segmentId := key.1
      channel := key.2
      ingestionIndex := ingestionIndex
      lineIndexInEvent := lineIndexInEvent
      lineStartIngestionIndex := startIngestionIndex
      lineStartEventOffset := startEventOffset
      lineEndIngestionIndex := endIngestionIndex
      lineEndEventOffset := endEventOffset
      totalLineBytes := line.totalBytes
      terminated := line.terminated
      timestampUs := timestampUs }

/-- Add the lines one by one, each made a record first. -/
def addAll {α β : Type} (key : β → Coordinates) (make : α → Replayed β) (lines : List α)
    (kept : BoundedNewest β) : Replayed (BoundedNewest β) :=
  lines.foldlM (fun kept line => do .ok (kept.add key (← make line))) kept

/-- One record: feed its bytes and keep the lines they complete. -/
def replayEvent (fileIndex : ℕ) (event : UartEvent) (s : Replay) : Replayed Replay := do
  let ingestionIndex := event.evidenceSeq.getD fileIndex
  let fed := (s.buffers.getD event.key {}).feedResult event.data (some ingestionIndex)
    (some event.timestampUs) 0
  let complete ← addAll RecentLogLine.key (normalRecord event.key event.timestampUs false)
    fed.2.lines s.complete
  let oversized ← addAll OversizedLogLine.key (oversizedRecord event.key) fed.2.oversizedLines
    s.oversized
  .ok
    { s with
      buffers := s.buffers.set event.key fed.1
      lastTimestamps := s.lastTimestamps.set event.key event.timestampUs
      complete := complete
      oversized := oversized
      eventCount := s.eventCount + 1 }

/-- The loop over the records; `decode` is `_decode_uart_event`. -/
def replayRecords (decode : List UInt8 → Replayed UartEvent) :
    ℕ → List (List UInt8) → Replay → Replayed Replay
  | _, [], s => .ok s
  | fileIndex, rawRecord :: rest, s => do
    let event ← decode rawRecord
    replayRecords decode (fileIndex + 1) rest (← replayEvent fileIndex event s)

/-- The flush of one buffer. -/
def flushBuffer (lastTimestamps : Dict (ℕ × ℕ) ℕ)
    (kept : BoundedNewest RecentLogLine × BoundedNewest OversizedLogLine)
    (entry : (ℕ × ℕ) × UartLineBuffer) :
    Replayed (BoundedNewest RecentLogLine × BoundedNewest OversizedLogLine) := do
  let flushed := entry.2.flushResult
  let make (line : UartLine) : Replayed RecentLogLine :=
    match lastTimestamps.get? entry.1 with
    | none => .error (.missingKey entry.1)
    | some timestampUs => normalRecord entry.1 timestampUs true line
  let unterminated ← addAll RecentLogLine.key make flushed.2.lines kept.1
  let oversized ← addAll OversizedLogLine.key (oversizedRecord entry.1) flushed.2.oversizedLines
    kept.2
  .ok (unterminated, oversized)

def replayUartPrefix (limits : JsonLimits) (lines : ℕ) (validSegmentIds : List ℕ)
    (schemaVersion : ℕ) (bytes : List UInt8) : Replayed ReplayResult := do
  let s ← replayRecords (decodeUartEvent limits validSegmentIds schemaVersion) 0 (splitlines bytes)
    { complete := { limit := lines }
      unterminated := { limit := lines }
      oversized := { limit := lines } }
  let (unterminated, oversized) ← s.buffers.entries.foldlM (flushBuffer s.lastTimestamps)
    (s.unterminated, s.oversized)
  .ok
    { snapshotEventCount := s.eventCount
      completeLines := s.complete.values
      partialLines := unterminated.values
      oversizedLines := oversized.values
      omittedCompleteLines := s.complete.omitted
      omittedPartialLines := unterminated.omitted
      omittedOversizedLines := oversized.omitted }

end LogReplay
