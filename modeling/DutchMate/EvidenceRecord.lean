/-
# Primary evidence records

The records of the four JSONL streams of a session, with the JSON each is stored as.
A record carries its sequence number, the moment it was recorded and a body; its bytes
are one compact JSON line.
-/
import DutchMate.Base64
import DutchMate.Json
import DutchMate.LineBuffer

/-! ## Moments -/

def daysInMonth (year month : ℕ) : ℕ :=
  if month = 2 then
    if year % 4 = 0 ∧ (year % 100 ≠ 0 ∨ year % 400 = 0) then 29 else 28
  else if month ∈ [4, 6, 9, 11] then 30 else 31

/-- A UTC moment to the second, as the store's clock is formatted. -/
structure Timestamp where
  year : Fin 10000
  month : Fin 13
  day : Fin 32
  hour : Fin 24
  minute : Fin 60
  second : Fin 60
  valid : 1 ≤ year.val ∧ 1 ≤ month.val ∧ 1 ≤ day.val ∧ day.val ≤ daysInMonth year month
  deriving DecidableEq, Repr

/-- A number in decimal, to a fixed width. -/
def padded : ℕ → ℕ → List Char
  | 0, _ => []
  | width + 1, n => padded width (n / 10) ++ [Nat.digitChar (n % 10)]

@[simp] theorem length_padded (width n : ℕ) : (padded width n).length = width := by
  induction width generalizing n with
  | zero => rfl
  | succ width ih => simp [padded, ih]

namespace Timestamp

/-- `2024-05-06T07:08:09Z`. -/
def chars (t : Timestamp) : List Char :=
  padded 4 t.year ++ '-' :: padded 2 t.month ++ '-' :: padded 2 t.day ++ 'T' ::
    padded 2 t.hour ++ ':' :: padded 2 t.minute ++ ':' :: padded 2 t.second ++ ['Z']

def text (t : Timestamp) : String := String.ofList t.chars

/-- `20240506T070809Z`, the beginning of a session identifier. -/
def idChars (t : Timestamp) : List Char :=
  padded 4 t.year ++ padded 2 t.month ++ padded 2 t.day ++ 'T' ::
    padded 2 t.hour ++ padded 2 t.minute ++ padded 2 t.second ++ ['Z']

theorem length_chars (t : Timestamp) : t.chars.length = 20 := by
  simp [chars]

def toJson (t : Timestamp) : Json := t.text

end Timestamp

/-! ## Parts of records -/

abbrev SessionId := String

/-- A place in the journal of a rollover chain. -/
structure EvidenceCursor where
  sessionId : SessionId
  nextEvidenceSeq : ℕ
  deriving DecidableEq, Repr

def EvidenceCursor.toJson (c : EvidenceCursor) : Json :=
  .obj [("session_id", c.sessionId), ("next_evidence_seq", c.nextEvidenceSeq)]

/-- The part of one session an operation covers, open while the operation runs. -/
structure OperationRange where
  sessionId : SessionId
  startEvidenceSeq : ℕ
  endEvidenceSeqExclusive : Option ℕ
  deriving DecidableEq, Repr

def OperationRange.toJson (r : OperationRange) : Json :=
  .obj [("end_evidence_seq_exclusive", Json.opt (fun n => (n : ℕ)) r.endEvidenceSeqExclusive),
    ("session_id", r.sessionId), ("start_evidence_seq", r.startEvidenceSeq)]

inductive OperationType where
  | monitor
  | interact
  deriving DecidableEq, Repr

def OperationType.name : OperationType → String
  | .monitor => "monitor"
  | .interact => "interact"

/-- What an attempt acts on. -/
inductive AttemptType where
  | uartTx
  | control
  deriving DecidableEq, Repr

def AttemptType.name : AttemptType → String
  | .uartTx => "uart_tx_attempt"
  | .control => "control_attempt"

/-- A bounded error with its sanitized detail. -/
structure SessionError where
  code : String
  detail : String
  detailTruncated : Bool
  deriving DecidableEq, Repr

def SessionError.toJson (e : SessionError) : Json :=
  .obj [("code", e.code), ("detail", e.detail), ("detail_truncated", e.detailTruncated)]

/-- The facts of one line that exceeded the line limit. -/
structure LineLimitExceeded where
  timestampUs : Option ℕ
  channel : ℕ
  ingestionIndex : ℕ
  lineIndexInEvent : ℕ
  lineStartIngestionIndex : ℕ
  lineStartEventOffset : ℕ
  lineEndIngestionIndex : ℕ
  lineEndEventOffset : ℕ
  totalLineBytes : ℕ
  terminated : Bool
  deriving DecidableEq, Repr

/-- Rollover reasons. -/
inductive RolloverReason where
  | size
  | segments
  deriving DecidableEq, Repr

def RolloverReason.name : RolloverReason → String
  | .size => "rollover_size"
  | .segments => "rollover_segments"

/-! ## Records -/

/-- The body of a record, by type. -/
inductive RecordBody where
  | uartRx (segmentId timestampUs channel : ℕ) (dataB64 : String)
      (rawOffsetStart rawOffsetEnd : ℕ)
  | lineLimitExceeded (segmentId : ℕ) (facts : LineLimitExceeded)
  | bufferOverflow (segmentId timestampUs channel droppedBytes : ℕ)
  | bufferStatus (segmentId timestampUs sizeBytes usedBytes highWaterBytes droppedBytesTotal
      overflowEvents : ℕ)
  | connectionEvent (eventType : String) (segmentId : Option ℕ) (detail : Json)
  | segmentOpened (segmentId : ℕ)
  | rolloverSucceeded (segmentId : ℕ) (predecessorSessionId : SessionId) (reason : RolloverReason)
  | operationStarted (operationId : String) (operationType : OperationType) (parameters : Json)
      (startCursor : EvidenceCursor)
  | operationContinued (operationId : String) (operationType : OperationType)
      (previousSessionId : SessionId)
  | operationTerminal (operationId : String) (operationType : OperationType) (outcome : String)
      (error : Option SessionError) (matchedCondition : Option Json) (lineProcessingLimited : Bool)
      (endCursor : EvidenceCursor) (evidenceRanges : List OperationRange)
  | uartTxAttempt (attemptId : String) (operationId : Option String) (dataB64 : String)
      (byteLength : ℕ) (transformation : Json) (segmentId : ℕ)
  | uartTxResult (attemptId : String) (attemptSessionId : SessionId) (attemptEvidenceSeq : ℕ)
      (status : String) (acceptedBytes : Option ℕ)
  | controlAttempt (attemptId : String) (operationId : Option String) (role provider : String)
      (parameters : Json) (segmentId : ℕ)
  | controlResult (attemptId : String) (attemptSessionId : SessionId) (attemptEvidenceSeq : ℕ)
      (status : String) (deviceTimestampUs : Option ℤ)

namespace RecordBody

/-- The `type` field. -/
def type : RecordBody → String
  | uartRx .. => "uart_rx"
  | lineLimitExceeded .. => "line_limit_exceeded"
  | bufferOverflow .. => "buffer_overflow"
  | bufferStatus .. => "buffer_status"
  | connectionEvent eventType _ _ => eventType
  | segmentOpened _ => "segment_opened"
  | rolloverSucceeded .. => "rollover_succeeded"
  | operationStarted .. => "operation_started"
  | operationContinued .. => "operation_continued"
  | operationTerminal .. => "operation_terminal"
  | uartTxAttempt .. => "uart_tx_attempt"
  | uartTxResult .. => "uart_tx_result"
  | controlAttempt .. => "control_attempt"
  | controlResult .. => "control_result"

/-- The other fields. -/
def fields : RecordBody → List (String × Json)
  | uartRx segmentId timestampUs channel dataB64 rawOffsetStart rawOffsetEnd =>
    [("segment_id", segmentId), ("timestamp_us", timestampUs), ("channel", channel),
      ("data_b64", dataB64), ("raw_offset_start", rawOffsetStart),
      ("raw_offset_end", rawOffsetEnd)]
  | lineLimitExceeded segmentId f =>
    [("segment_id", segmentId), ("timestamp_us", Json.opt (fun n => (n : ℕ)) f.timestampUs),
      ("channel", f.channel), ("ingestion_index", f.ingestionIndex),
      ("line_index_in_event", f.lineIndexInEvent),
      ("line_start_ingestion_index", f.lineStartIngestionIndex),
      ("line_start_event_offset", f.lineStartEventOffset),
      ("line_end_ingestion_index", f.lineEndIngestionIndex),
      ("line_end_event_offset", f.lineEndEventOffset), ("total_line_bytes", f.totalLineBytes),
      ("terminated", f.terminated)]
  | bufferOverflow segmentId timestampUs channel droppedBytes =>
    [("segment_id", segmentId), ("timestamp_us", timestampUs), ("channel", channel),
      ("dropped_bytes", droppedBytes)]
  | bufferStatus segmentId timestampUs sizeBytes usedBytes highWaterBytes droppedBytesTotal
      overflowEvents =>
    [("segment_id", segmentId), ("timestamp_us", timestampUs), ("uart_rx_size_bytes", sizeBytes),
      ("uart_rx_used_bytes", usedBytes), ("uart_rx_high_water_bytes", highWaterBytes),
      ("dropped_bytes_total", droppedBytesTotal), ("overflow_events", overflowEvents)]
  | connectionEvent _ segmentId detail =>
    [("segment_id", Json.opt (fun n => (n : ℕ)) segmentId), ("detail", detail)]
  | segmentOpened segmentId => [("segment_id", segmentId)]
  | rolloverSucceeded segmentId predecessorSessionId reason =>
    [("segment_id", segmentId),
      ("detail", .obj [("predecessor_session_id", predecessorSessionId),
        ("reason", reason.name)])]
  | operationStarted operationId operationType parameters startCursor =>
    [("operation_id", operationId), ("operation_type", operationType.name),
      ("parameters", parameters), ("start_cursor", startCursor.toJson)]
  | operationContinued operationId operationType previousSessionId =>
    [("operation_id", operationId), ("operation_type", operationType.name),
      ("previous_session_id", previousSessionId)]
  | operationTerminal operationId operationType outcome error matchedCondition
      lineProcessingLimited endCursor evidenceRanges =>
    [("operation_id", operationId), ("operation_type", operationType.name), ("outcome", outcome),
      ("error", Json.opt SessionError.toJson error),
      ("matched_condition", Json.opt id matchedCondition),
      ("line_processing_limited", lineProcessingLimited), ("end_cursor", endCursor.toJson),
      ("evidence_ranges", .arr (evidenceRanges.map OperationRange.toJson))]
  | uartTxAttempt attemptId operationId dataB64 byteLength transformation segmentId =>
    [("attempt_id", attemptId), ("operation_id", Json.opt (fun s => (s : String)) operationId),
      ("data_b64", dataB64), ("byte_length", byteLength), ("transformation", transformation),
      ("segment_id", segmentId)]
  | uartTxResult attemptId attemptSessionId attemptEvidenceSeq status acceptedBytes =>
    [("attempt_id", attemptId), ("attempt_session_id", attemptSessionId),
      ("attempt_evidence_seq", attemptEvidenceSeq), ("status", status),
      ("accepted_bytes", Json.opt (fun n => (n : ℕ)) acceptedBytes)]
  | controlAttempt attemptId operationId role provider parameters segmentId =>
    [("attempt_id", attemptId), ("operation_id", Json.opt (fun s => (s : String)) operationId),
      ("role", role), ("provider", provider), ("parameters", parameters),
      ("segment_id", segmentId)]
  | controlResult attemptId attemptSessionId attemptEvidenceSeq status deviceTimestampUs =>
    [("attempt_id", attemptId), ("attempt_session_id", attemptSessionId),
      ("attempt_evidence_seq", attemptEvidenceSeq), ("status", status),
      ("device_timestamp_us", Json.opt Json.num deviceTimestampUs)]

end RecordBody

/-- One primary record. -/
structure EvidenceRecord where
  evidenceSeq : ℕ
  recordedAt : Timestamp
  body : RecordBody

namespace EvidenceRecord

/-- The stored object.  A UART record names its moment after its timestamp. -/
def toJson (r : EvidenceRecord) : Json :=
  match r.body with
  | .uartRx segmentId timestampUs channel dataB64 rawOffsetStart rawOffsetEnd =>
    .obj [("evidence_seq", r.evidenceSeq), ("type", "uart_rx"), ("segment_id", segmentId),
      ("timestamp_us", timestampUs), ("recorded_at", r.recordedAt.toJson), ("channel", channel),
      ("data_b64", dataB64), ("raw_offset_start", rawOffsetStart),
      ("raw_offset_end", rawOffsetEnd)]
  | body =>
    .obj (("evidence_seq", (r.evidenceSeq : Json)) :: ("type", (body.type : Json)) ::
      ("recorded_at", r.recordedAt.toJson) :: body.fields)

/-- One line of a JSONL file. -/
def serialized (r : EvidenceRecord) : List UInt8 := r.toJson.bytes ++ [newline]

/-- The bytes a record takes in its file. -/
def size (r : EvidenceRecord) : ℕ := r.serialized.length

end EvidenceRecord

/-- The bytes of a JSONL file. -/
def jsonlBytes (records : List EvidenceRecord) : List UInt8 :=
  records.flatMap EvidenceRecord.serialized

/-- The size of a JSONL file. -/
def jsonlSize (records : List EvidenceRecord) : ℕ := (records.map EvidenceRecord.size).sum

theorem length_jsonlBytes (records : List EvidenceRecord) :
    (jsonlBytes records).length = jsonlSize records := by
  rw [jsonlBytes, List.length_flatMap]
  rfl

@[simp] theorem jsonlSize_nil : jsonlSize [] = 0 := rfl

@[simp] theorem jsonlSize_cons (r : EvidenceRecord) (rs : List EvidenceRecord) :
    jsonlSize (r :: rs) = r.size + jsonlSize rs := by
  simp [jsonlSize]

@[simp] theorem jsonlSize_append (xs ys : List EvidenceRecord) :
    jsonlSize (xs ++ ys) = jsonlSize xs + jsonlSize ys := by
  simp [jsonlSize]

/-! ## Detected patterns -/

/-- The excerpt kept of a matched line. -/
structure MatchExcerpt where
  startByte : ℕ
  endByte : ℕ
  text : String
  rawB64 : String
  excerptTruncated : Bool
  deriving DecidableEq, Repr

/-- One stored default-pattern match. -/
structure DetectedPattern where
  pattern : String
  segmentId : ℕ
  timestampUs : ℕ
  channel : ℕ
  ingestionIndex : ℕ
  lineIndexInEvent : ℕ
  lineStartIngestionIndex : ℕ
  lineStartEventOffset : ℕ
  lineEndIngestionIndex : ℕ
  lineEndEventOffset : ℕ
  totalLineBytes : ℕ
  matchStartByte : ℕ
  matchEndByte : ℕ
  matchExcerpt : MatchExcerpt
  sourceEvidenceSeq : ℕ
  deriving DecidableEq, Repr

namespace DetectedPattern

/-- The stored object, keys in order. -/
def toJson (p : DetectedPattern) : Json :=
  .obj [("channel", p.channel), ("ingestion_index", p.ingestionIndex),
    ("line_end_event_offset", p.lineEndEventOffset),
    ("line_end_ingestion_index", p.lineEndIngestionIndex),
    ("line_index_in_event", p.lineIndexInEvent),
    ("line_start_event_offset", p.lineStartEventOffset),
    ("line_start_ingestion_index", p.lineStartIngestionIndex),
    ("match_end_byte", p.matchEndByte),
    ("match_excerpt", .obj [("end_byte", p.matchExcerpt.endByte),
      ("excerpt_truncated", p.matchExcerpt.excerptTruncated),
      ("raw_b64", p.matchExcerpt.rawB64), ("start_byte", p.matchExcerpt.startByte),
      ("text", p.matchExcerpt.text)]),
    ("match_start_byte", p.matchStartByte), ("pattern", p.pattern),
    ("segment_id", p.segmentId), ("source_evidence_seq", p.sourceEvidenceSeq),
    ("timestamp_us", p.timestampUs), ("total_line_bytes", p.totalLineBytes)]

/-- The bytes of one record, its line end included. -/
def size (p : DetectedPattern) : ℕ := p.toJson.size + 1

end DetectedPattern

/-- The bytes of the detected-patterns document. -/
def patternsBytes (patterns : List DetectedPattern) : List UInt8 :=
  (Json.arr (patterns.map DetectedPattern.toJson)).bytes ++ [newline]

/-- The size of the detected-patterns document. -/
def patternsSize (patterns : List DetectedPattern) : ℕ := (patternsBytes patterns).length

@[simp] theorem patternsSize_nil : patternsSize [] = 3 := rfl
