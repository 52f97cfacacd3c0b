/-
# UART receive processing

Received bytes become complete lines, line-limit facts and matches of the default
patterns.  The processor keeps one line buffer for each segment and channel.
-/
import DutchMate.Bytes
import DutchMate.Dict
import DutchMate.LineBuffer

/-- Raw UART bytes a backend observed within one connection segment. -/
structure UartReceiveEvent where
  segmentId : ℕ
  timestampUs : ℕ
  channel : ℕ
  data : List UInt8
  deriving DecidableEq, Repr

/-! ## Patterns -/

def defaultPatterns : List String := ["ERROR", "ASSERT", "PANIC", "HardFault", "BOOT_OK"]

/-- A pattern found in one line. -/
structure PatternMatch where
  pattern : String
  lineText : List Char
  lineRaw : List UInt8
  matchStartByte : Option ℕ
  matchEndByte : Option ℕ
  ingestionIndex : Option ℕ
  lineIndexInEvent : Option ℕ
  lineStartIngestionIndex : Option ℕ
  lineStartEventOffset : Option ℕ
  lineEndIngestionIndex : Option ℕ
  lineEndEventOffset : Option ℕ
  deriving DecidableEq, Repr

/-- The match of one pattern in a line, searched in the text first and then in the bytes. -/
def scanPattern (pattern : String) (line : UartLine) : Option PatternMatch := do
  let _ ← Bytes.find pattern.toList line.text
  let encoded := Utf8.encode pattern
  let matchStartByte ← Bytes.find encoded line.raw
  some
    { pattern := pattern
      lineText := line.text
      lineRaw := line.raw
      matchStartByte := some matchStartByte
      matchEndByte := some (matchStartByte + encoded.length)
      ingestionIndex := line.ingestionIndex
      lineIndexInEvent := line.lineIndexInEvent
      lineStartIngestionIndex := line.startIngestionIndex
      lineStartEventOffset := line.startEventOffset
      lineEndIngestionIndex := line.endIngestionIndex
      lineEndEventOffset := line.endEventOffset }

/-- All patterns present in one line, in the order of the patterns. -/
def scanLine (patterns : List String) (line : UartLine) : List PatternMatch :=
  patterns.filterMap fun pattern => scanPattern pattern line

def scanLines (patterns : List String) (lines : List UartLine) : List PatternMatch :=
  lines.flatMap (scanLine patterns)

/-- A line yields at most one match of each pattern. -/
theorem length_scanLine_le (patterns : List String) (line : UartLine) :
    (scanLine patterns line).length ≤ patterns.length :=
  List.length_filterMap_le ..

/-! ## The processor -/

/-- Lines and matches produced by one processing step. -/
structure UartCaptureResult where
  segmentId : ℕ
  channel : ℕ
  timestampUs : Option ℕ
  lines : List UartLine
  matchList : List PatternMatch
  oversizedLines : List OversizedUartLine := []
  newlyOversizedLineCount : ℕ := 0
  deriving DecidableEq, Repr

structure UartCaptureProcessor where
  patterns : List String := defaultPatterns
  lineBuffers : Dict (ℕ × ℕ) UartLineBuffer := ∅
  nextIngestionIndex : ℕ := 0

namespace UartCaptureProcessor

def lineBuffer (p : UartCaptureProcessor) (segmentId channel : ℕ) : UartLineBuffer :=
  p.lineBuffers.getD (segmentId, channel) {}

/-- Process one receive event. -/
def processEvent (p : UartCaptureProcessor) (event : UartReceiveEvent) :
    UartCaptureProcessor × UartCaptureResult :=
  let (buffer, buffered) :=
    (p.lineBuffer event.segmentId event.channel).feedResult event.data
      (some p.nextIngestionIndex) (some event.timestampUs) 0
  ({ p with
      lineBuffers := p.lineBuffers.set (event.segmentId, event.channel) buffer
      nextIngestionIndex := p.nextIngestionIndex + 1 },
    { segmentId := event.segmentId
      channel := event.channel
      timestampUs := some event.timestampUs
      lines := buffered.lines
      matchList := scanLines p.patterns buffered.lines
      oversizedLines := buffered.oversizedLines
      newlyOversizedLineCount := buffered.newlyOversizedLineCount })

/-- Keys whose physical line began before now. -/
def incompleteLineKeys (p : UartCaptureProcessor) : List (ℕ × ℕ) :=
  (p.lineBuffers.entries.filter fun e => e.2.hasUnterminatedLine).map Prod.fst

/-- Flush one segment and channel's trailing partial line, if any. -/
def flushChannel (p : UartCaptureProcessor) (channel segmentId : ℕ) : Option UartCaptureResult := do
  let buffer ← p.lineBuffers.get? (segmentId, channel)
  let buffered := buffer.flushResult.2
  if buffered.lines.isEmpty && buffered.oversizedLines.isEmpty then none
  else
    some
      { segmentId := segmentId
        channel := channel
        timestampUs := none
        lines := buffered.lines
        matchList := scanLines p.patterns buffered.lines
        oversizedLines := buffered.oversizedLines }

/-- Finalize and discard the trailing state of one connection segment. -/
def flushSegment (p : UartCaptureProcessor) (segmentId : ℕ) :
    UartCaptureProcessor × List UartCaptureResult :=
  let channels := (p.lineBuffers.keys.filter (·.1 = segmentId)).map Prod.snd
  (channels.foldl
      (fun p channel => { p with lineBuffers := p.lineBuffers.erase (segmentId, channel) }) p,
    channels.filterMap fun channel => p.flushChannel channel segmentId)

/-- Finalize the trailing state of every segment and channel. -/
def flushAll (p : UartCaptureProcessor) : UartCaptureProcessor × List UartCaptureResult :=
  ((p.lineBuffers.keys.map Prod.fst).eraseDups).foldl
    (fun (p, results) segmentId =>
      let (p', more) := p.flushSegment segmentId
      (p', results ++ more))
    (p, [])

end UartCaptureProcessor
