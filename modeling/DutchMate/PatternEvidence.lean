/-
# Pattern and line-limit evidence

What the journal stores of a processing result: one record for each match, with a
bounded excerpt of its line, and the facts of each oversized line.
-/
import DutchMate.EvidenceRecord
import DutchMate.UartCapture

def maxMatchExcerptBytes : ℕ := 4096

/-- A coordinate that processing an event always sets. -/
def matchCoordinate (value : Option ℕ) (field : String) : Except String ℕ :=
  match value with
  | some n => .ok n
  | none => .error s!"pattern match is missing {field}"

/-- The whole line, or a window of 4096 bytes around the match. -/
def matchExcerpt (lineRaw : List UInt8) (matchStartByte matchEndByte : ℕ) : MatchExcerpt :=
  let leadingBudget := ((maxMatchExcerptBytes : ℤ) - (matchEndByte - matchStartByte)) / 2
  let startByte :=
    if lineRaw.length ≤ maxMatchExcerptBytes then 0
    else
      min (max 0 (matchStartByte - leadingBudget)).toNat (lineRaw.length - maxMatchExcerptBytes)
  let endByte :=
    if lineRaw.length ≤ maxMatchExcerptBytes then lineRaw.length
    else startByte + maxMatchExcerptBytes
  let raw := (lineRaw.drop startByte).take (endByte - startByte)
  { startByte := startByte
    endByte := endByte
    text := String.ofList (Utf8.decodeReplace raw)
    rawB64 := String.ofList (Base64.encode raw)
    excerptTruncated := raw.length ≠ lineRaw.length }

/-- The record of one match, before the journal gives it its source. -/
def detectedPatternRecord (result : UartCaptureResult) (segmentId timestampUs : ℕ)
    (m : PatternMatch) : Except String DetectedPattern := do
  let matchStartByte ← matchCoordinate m.matchStartByte "match_start_byte"
  let matchEndByte ← matchCoordinate m.matchEndByte "match_end_byte"
  let ingestionIndex ← matchCoordinate m.ingestionIndex "ingestion_index"
  let lineIndexInEvent ← matchCoordinate m.lineIndexInEvent "line_index_in_event"
  let lineStartIngestionIndex ←
    matchCoordinate m.lineStartIngestionIndex "line_start_ingestion_index"
  let lineStartEventOffset ← matchCoordinate m.lineStartEventOffset "line_start_event_offset"
  let lineEndIngestionIndex ← matchCoordinate m.lineEndIngestionIndex "line_end_ingestion_index"
  let lineEndEventOffset ← matchCoordinate m.lineEndEventOffset "line_end_event_offset"
  pure
    { pattern := m.pattern
      segmentId := segmentId
      timestampUs := timestampUs
      channel := result.channel
      ingestionIndex := ingestionIndex
      lineIndexInEvent := lineIndexInEvent
      lineStartIngestionIndex := lineStartIngestionIndex
      lineStartEventOffset := lineStartEventOffset
      lineEndIngestionIndex := lineEndIngestionIndex
      lineEndEventOffset := lineEndEventOffset
      totalLineBytes := m.lineRaw.length
      matchStartByte := matchStartByte
      matchEndByte := matchEndByte
      matchExcerpt := matchExcerpt m.lineRaw matchStartByte matchEndByte
      sourceEvidenceSeq := 0 }

def detectedPatternRecords (result : UartCaptureResult) (segmentId timestampUs : ℕ) :
    Except String (List DetectedPattern) :=
  result.matchList.mapM (detectedPatternRecord result segmentId timestampUs)

/-- The facts of one oversized line; its segment is the result's. -/
def lineLimitExceededEvent (result : UartCaptureResult) (line : OversizedUartLine) :
    Except String LineLimitExceeded := do
  let ingestionIndex ← matchCoordinate line.ingestionIndex "ingestion_index"
  let lineIndexInEvent ← matchCoordinate line.lineIndexInEvent "line_index_in_event"
  let lineStartIngestionIndex ←
    matchCoordinate line.startIngestionIndex "line_start_ingestion_index"
  let lineStartEventOffset ← matchCoordinate line.startEventOffset "line_start_event_offset"
  let lineEndIngestionIndex ← matchCoordinate line.endIngestionIndex "line_end_ingestion_index"
  let lineEndEventOffset ← matchCoordinate line.endEventOffset "line_end_event_offset"
  pure
    { timestampUs := line.timestampUs
      channel := result.channel
      ingestionIndex := ingestionIndex
      lineIndexInEvent := lineIndexInEvent
      lineStartIngestionIndex := lineStartIngestionIndex
      lineStartEventOffset := lineStartEventOffset
      lineEndIngestionIndex := lineEndIngestionIndex
      lineEndEventOffset := lineEndEventOffset
      totalLineBytes := line.totalBytes
      terminated := line.terminated }
