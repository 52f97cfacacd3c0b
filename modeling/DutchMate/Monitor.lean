/-
# Monitor matching

`MonitorMatcher.process` looks for the first complete line that contains one of the
requested literals, reading durable UART evidence in pieces.  `referenceMatch` says
what it should find: per line key, the concatenated bytes after the boundary line,
split at newlines, in completion order.
-/
import DutchMate.Bytes
import DutchMate.Dict
import DutchMate.LineBuffer
import Mathlib.Data.Finset.Basic
import Mathlib.Data.Prod.Lex
import Mathlib.Order.Basic

open SplitLines

def maxMonitorConditions : ℕ := 8
def maxMonitorConditionNameBytes : ℕ := 64
def maxMonitorMatchExcerptBytes : ℕ := 4096
def maxWaitPatternBytes : ℕ := 256

/-- One case-sensitive literal completion condition. -/
structure MonitorCondition where
  pattern : String
  name : Option String := none
  deriving DecidableEq, Repr

/-- One durable UART evidence unit eligible for operation-local matching. -/
structure MonitorEvidence where
  sessionId : String
  evidenceSeq : ℕ
  segmentId : ℕ
  timestampUs : ℕ
  channel : ℕ
  data : List UInt8
  deriving DecidableEq, Repr

/-- Session, segment and channel: the physical lines of one key never mix with
those of another. -/
abbrev LineKey := String × ℕ × ℕ

def MonitorEvidence.key (e : MonitorEvidence) : LineKey := (e.sessionId, e.segmentId, e.channel)

/-- Deterministic requested-condition match with exact raw coordinates. -/
structure MonitorMatch where
  conditionIndex : ℕ
  condition : MonitorCondition
  sessionId : String
  sourceEvidenceSeq : ℕ
  segmentId : ℕ
  timestampUs : ℕ
  channel : ℕ
  lineStartEvidenceSeq : ℕ
  lineStartEventOffset : ℕ
  lineEndEvidenceSeq : ℕ
  lineEndEventOffset : ℕ
  totalLineBytes : ℕ
  matchStartByte : ℕ
  matchEndByte : ℕ
  excerptStartByte : ℕ
  excerptEndByte : ℕ
  excerptRaw : List UInt8
  excerptText : List Char
  excerptTruncated : Bool
  deriving DecidableEq, Repr

/-! ## Condition validation -/

/-- Validate and preserve one case-sensitive literal wait pattern. -/
def validateWaitPattern (pattern : String) : Except String String :=
  let actualBytes := (Utf8.encode pattern).length
  if ¬ (1 ≤ actualBytes ∧ actualBytes ≤ maxWaitPatternBytes) then
    .error "wait pattern must encode to 1..256 UTF-8 bytes"
  else if '\r' ∈ pattern.toList ∨ '\n' ∈ pattern.toList then
    .error "wait pattern must not contain CR or LF"
  else .ok pattern

/-- Validate one Monitor condition's pattern and name. -/
def validateCondition (condition : MonitorCondition) : Except String MonitorCondition := do
  let pattern ← validateWaitPattern condition.pattern
  match condition.name with
  | none => pure ⟨pattern, none⟩
  | some name =>
    let bytes := (Utf8.encode name).length
    if ¬ (1 ≤ bytes ∧ bytes ≤ maxMonitorConditionNameBytes) then
      throw "Monitor condition name must encode to 1..64 UTF-8 bytes"
    else if (name.toList.head?.any isSpace || name.toList.getLast?.any isSpace) then
      throw "Monitor condition name must not have leading or trailing Unicode whitespace"
    else if name.toList.any isControl then
      throw "Monitor condition name must not contain control characters"
    else pure ⟨pattern, some name⟩

/-- A validated pattern is between one byte and 256 bytes long. -/
theorem length_encode_of_validateCondition {c c' : MonitorCondition}
    (h : validateCondition c = .ok c') :
    1 ≤ (Utf8.encode c.pattern).length ∧
      (Utf8.encode c.pattern).length ≤ maxWaitPatternBytes := by
  by_contra hc
  simp [validateCondition, validateWaitPattern, hc, bind, Except.bind] at h

/-! ## The matcher -/

/-- Operation-local matching state. -/
structure MonitorMatcher where
  conditions : List MonitorCondition
  buffers : Dict LineKey UartLineBuffer
  discardFirstLine : Finset LineKey
  discardedByteCounts : Dict LineKey ℕ
  lineProcessingLimited : Bool

namespace MonitorMatcher

/-- A matcher over conditions, discarding the rest of the lines that were already
running on the incomplete channels. -/
def new (conditions : List MonitorCondition) (incompleteChannels : Finset LineKey) :
    Except String MonitorMatcher :=
  if conditions.isEmpty then .error "Monitor matcher requires at least one condition"
  else .ok ⟨conditions, ∅, incompleteChannels, ∅, false⟩

/-- Offset, index and encoded length of every condition found in a line. -/
def candidates (conditions : List MonitorCondition) (raw : List UInt8) :
    List (ℕ ×ₗ ℕ ×ₗ ℕ) :=
  conditions.zipIdx.filterMap fun (condition, index) =>
    let encoded := Utf8.encode condition.pattern
    (Bytes.find encoded raw).map fun offset => toLex (offset, toLex (index, encoded.length))

/-- A coordinate every completed line carries. -/
def requiredCoordinate (value : Option ℕ) (field : String) : Except String ℕ :=
  match value with
  | some v => .ok v
  | none => .error s!"Monitor match omitted {field}"

/-- The match a completed line gives, if any condition occurs in it. -/
def matchLine (m : MonitorMatcher) (event : MonitorEvidence) (line : UartLine) :
    Except String (Option MonitorMatch) :=
  match (candidates m.conditions line.raw).min? with
  | none => .ok none
  | some best => do
    let matchStart := (ofLex best).1
    let conditionIndex := (ofLex (ofLex best).2).1
    let patternBytes := (ofLex (ofLex best).2).2
    let matchEnd := matchStart + patternBytes
    let excerptStart := min matchStart (line.raw.length - maxMonitorMatchExcerptBytes)
    let excerptEnd := min line.raw.length (excerptStart + maxMonitorMatchExcerptBytes)
    let excerpt := (line.raw.take excerptEnd).drop excerptStart
    let startSeq ← requiredCoordinate line.startIngestionIndex "line start evidence sequence"
    let startOffset ← requiredCoordinate line.startEventOffset "line start event offset"
    let endSeq ← requiredCoordinate line.endIngestionIndex "line end evidence sequence"
    let endOffset ← requiredCoordinate line.endEventOffset "line end event offset"
    pure (some
      { conditionIndex := conditionIndex
        condition := m.conditions.getD conditionIndex ⟨"", none⟩
        sessionId := event.sessionId
        sourceEvidenceSeq := event.evidenceSeq
        segmentId := event.segmentId
        timestampUs := event.timestampUs
        channel := event.channel
        lineStartEvidenceSeq := startSeq
        lineStartEventOffset := startOffset
        lineEndEvidenceSeq := endSeq
        lineEndEventOffset := endOffset
        totalLineBytes := line.raw.length
        matchStartByte := matchStart
        matchEndByte := matchEnd
        excerptStartByte := excerptStart
        excerptEndByte := excerptEnd
        excerptRaw := excerpt
        excerptText := Utf8.decodeReplace excerpt
        excerptTruncated := excerpt.length != line.raw.length })

/-- Feed bytes of an event, the first of them at offset `base`, to its key's buffer. -/
def feedBuffer (m : MonitorMatcher) (event : MonitorEvidence) (data : List UInt8) (base : ℕ) :
    MonitorMatcher × List UartLine :=
  let (buffer, result) := (m.buffers.getD event.key {}).feedResult data
    (some event.evidenceSeq) (some event.timestampUs) base
  ({ m with
     buffers := m.buffers.set event.key buffer
     lineProcessingLimited :=
       m.lineProcessingLimited || decide (result.newlyOversizedLineCount ≠ 0) }, result.lines)

/-- The lines one event completes.  A key whose boundary line is still running
discards bytes through its first newline and only then starts a buffer. -/
def feedEvent (m : MonitorMatcher) (event : MonitorEvidence) : MonitorMatcher × List UartLine :=
  let key := event.key
  if key ∈ m.discardFirstLine then
    let newlineOffset := event.data.findIdx? (· == newline)
    let discardedBytes := newlineOffset.elim event.data.length (· + 1)
    let discardedTotal := m.discardedByteCounts.getD key 0 + discardedBytes
    let limited := m.lineProcessingLimited || decide (maxUartLineBytes < discardedTotal)
    match newlineOffset with
    | none =>
      ({ m with
         discardedByteCounts := m.discardedByteCounts.set key discardedTotal
         lineProcessingLimited := limited }, [])
    | some _ =>
      let m' : MonitorMatcher :=
        { m with
          discardFirstLine := m.discardFirstLine.erase key
          discardedByteCounts := m.discardedByteCounts.erase key
          lineProcessingLimited := limited }
      let data := event.data.drop discardedBytes
      if data.isEmpty then (m', []) else m'.feedBuffer event data discardedBytes
  else m.feedBuffer event event.data 0

/-- The first match among the lines an event completed. -/
def matchLines (m : MonitorMatcher) (event : MonitorEvidence) :
    List UartLine → Except String (Option MonitorMatch)
  | [] => .ok none
  | line :: lines => do
    match ← m.matchLine event line with
    | some found => pure (some found)
    | none => m.matchLines event lines

/-- The first match from ordered durable UART evidence, and the state left behind. -/
def process (m : MonitorMatcher) :
    List MonitorEvidence → Except String (Option MonitorMatch × MonitorMatcher)
  | [] => .ok (none, m)
  | event :: events => do
    let (m', lines) := m.feedEvent event
    match ← m'.matchLines event lines with
    | some found => pure (some found, m')
    | none => m'.process events

/-- Call `process` on one piece of evidence after the other, up to the first match. -/
def processAll (m : MonitorMatcher) :
    List (List MonitorEvidence) → Except String (Option MonitorMatch)
  | [] => .ok none
  | piece :: pieces => do
    match ← m.process piece with
    | (some found, _) => pure (some found)
    | (none, m') => m'.processAll pieces

end MonitorMatcher
