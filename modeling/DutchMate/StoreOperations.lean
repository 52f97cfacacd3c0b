/-
# Operations of the session store

The calls a service makes to record evidence: UART units, telemetry, connection facts,
segments, bounded operations, physical attempts and the end of a session.  Each is
checked, appended through `appendV2RecordLocked` or the UART path, and may roll over.
-/
import DutchMate.SessionStore

open Throwing

/-- Observed loss in the backend's receive buffer. -/
structure BufferOverflowEvent where
  segmentId : ℕ
  timestampUs : ℕ
  channel : ℕ
  droppedBytes : ℕ
  deriving DecidableEq, Repr

/-- Receive-buffer telemetry. -/
structure BufferStatusEvent where
  segmentId : ℕ
  timestampUs : ℕ
  sizeBytes : ℕ
  usedBytes : ℕ
  highWaterBytes : ℕ
  droppedBytesTotal : ℕ
  overflowEvents : ℕ
  deriving DecidableEq, Repr

/-! ## UART units -/

def createV2Session (cfg : StoreConfig) (profile : DutProfile) (snapshot : BackendSnapshot) :
    StoreProg SessionId :=
  createV2SessionLocked cfg profile snapshot none

def requireMatchingCaptureResult (event : UartReceiveEvent) (result : UartCaptureResult) :
    StoreProg Unit := do
  require (event.segmentId = result.segmentId)
    (.value "UART event and capture result segments must match")
  require (event.channel = result.channel)
    (.value "UART event and capture result channels must match")
  require (some event.timestampUs = result.timestampUs)
    (.value "UART event and capture result timestamps must match")

def checkPattern (event : UartReceiveEvent) (pattern : DetectedPattern) :
    Except StoreException Unit := do
  let nameBytes := (Utf8.encode pattern.pattern).length
  if ¬ (1 ≤ nameBytes ∧ nameBytes ≤ 256) ∨ '\r' ∈ pattern.pattern.toList
      ∨ '\n' ∈ pattern.pattern.toList then
    valueError "v2 detected pattern must contain 1..256 UTF-8 bytes without CR/LF"
  else if pattern.segmentId ≠ event.segmentId then
    valueError "v2 detected pattern segment does not match source UART"
  else if pattern.timestampUs ≠ event.timestampUs then
    valueError "v2 detected pattern timestamp does not match source UART"
  else if pattern.channel ≠ event.channel then
    valueError "v2 detected pattern channel does not match source UART"
  else if maxV2JsonlRecordBytes < pattern.size then
    valueError "schema-v2 detected pattern exceeds its size limit"
  else pure ()

/-- The patterns document after the event, and by how much it grows. -/
def v2PatternDocument (existing : List DetectedPattern) (sourceEvidenceSeq : ℕ)
    (event : UartReceiveEvent) (detectedPatterns : List DetectedPattern) :
    Except StoreException (Option (List DetectedPattern) × ℕ) :=
  if detectedPatterns = [] then .ok (none, 0)
  else if maxV2DetectedPatternsPerUartEvent < detectedPatterns.length then
    valueError "one v2 UART unit may contain at most 12 detected patterns"
  else do
    let sourced := detectedPatterns.map fun p => { p with sourceEvidenceSeq := sourceEvidenceSeq }
    sourced.forM (checkPattern event)
    let projected := existing ++ sourced
    pure (some projected, patternsSize projected - patternsSize existing)

/-- One UART record with the patterns and line-limit facts it brings. -/
structure UartUnit where
  record : EvidenceRecord
  unitBytes : ℕ
  patterns : Option (List DetectedPattern)
  hardwareEvents : List EvidenceRecord

/-- The line-limit record of one oversized line. -/
def lineLimitRecord (cfg : StoreConfig) (result : UartCaptureResult) (evidenceSeq : ℕ)
    (line : OversizedUartLine) : StoreProg EvidenceRecord := do
  let facts ← lift (ofEvidence (lineLimitExceededEvent result line))
  let recordedAt ← readClock cfg
  pure
    { evidenceSeq := evidenceSeq
      recordedAt := recordedAt
      body := .lineLimitExceeded result.segmentId facts }

/-- Line-limit records with consecutive sequence numbers. -/
def lineLimitRecords (cfg : StoreConfig) (result : UartCaptureResult) :
    ℕ → List OversizedUartLine → StoreProg (List EvidenceRecord)
  | _, [] => pure []
  | evidenceSeq, line :: lines => do
    let record ← lineLimitRecord cfg result evidenceSeq line
    let records ← lineLimitRecords cfg result (evidenceSeq + 1) lines
    pure (record :: records)

def unitHardwareEvents (cfg : StoreConfig) (evidenceSeq : ℕ)
    (captureResult : Option UartCaptureResult) : StoreProg (List EvidenceRecord) :=
  match captureResult with
  | none => pure []
  | some result => lineLimitRecords cfg result (evidenceSeq + 1) result.oversizedLines

def v2UartUnit (cfg : StoreConfig) (files : SessionFiles) (event : UartReceiveEvent)
    (detectedPatterns : List DetectedPattern) (captureResult : Option UartCaptureResult) :
    StoreProg UartUnit := do
  require (files.metadata.currentSegmentId = some event.segmentId)
    (.value "v2 UART event must reference the current segment")
  let evidenceSeq := files.metadata.nextEvidenceSeq
  let rawStart := files.uartRaw.length
  let recordedAt ← readClock cfg
  let record : EvidenceRecord :=
    { evidenceSeq := evidenceSeq
      recordedAt := recordedAt
      body := .uartRx event.segmentId event.timestampUs event.channel
        (String.ofList (Base64.encode event.data)) rawStart (rawStart + event.data.length) }
  require (record.size ≤ maxV2JsonlRecordBytes)
    (.value "schema-v2 primary JSONL record exceeds its size limit")
  let document ←
    lift (v2PatternDocument files.detectedPatterns evidenceSeq event detectedPatterns)
  let hardwareEvents ← unitHardwareEvents cfg evidenceSeq captureResult
  pure
    { record := record
      unitBytes := event.data.length + record.size + document.2 + jsonlSize hardwareEvents
      patterns := document.1
      hardwareEvents := hardwareEvents }

/-- The evidence files once the unit is written. -/
def UartUnit.write (unit : UartUnit) (data : List UInt8) (files : SessionFiles) : SessionFiles :=
  { files with
    uartRaw := files.uartRaw ++ data
    uartEvents := files.uartEvents ++ [unit.record]
    hardwareEvents := files.hardwareEvents ++ unit.hardwareEvents
    detectedPatterns := unit.patterns.getD files.detectedPatterns }

/-- The metadata once the unit is written, the accounting left to `publish`. -/
def UartUnit.metadata (unit : UartUnit) (event : UartReceiveEvent)
    (captureResult : Option UartCaptureResult) (m : Metadata) : Metadata :=
  let m := { m with nextEvidenceSeq := unit.record.evidenceSeq + 1 + unit.hardwareEvents.length }
  match captureResult with
  | none => m
  | some result =>
    (m.recordLineProcessing result.newlyOversizedLineCount).recordSegmentTimestamp
      event.segmentId event.timestampUs

def commitUartUnit (cfg : StoreConfig) (handle : SessionId) (files : SessionFiles)
    (event : UartReceiveEvent) (captureResult : Option UartCaptureResult) (unit : UartUnit)
    (rolledOver : Bool) : StoreProg V2EvidenceAdmission := do
  onPersistenceError
    (publish handle (unit.write event.data files)
      (unit.metadata event captureResult files.metadata))
    (failActiveV2PersistenceLocked cfg handle)
  pure
    { sessionId := handle
      evidenceSeq := unit.record.evidenceSeq
      rolledOver := rolledOver
      nextEvidenceSeq := unit.record.evidenceSeq + 1 + unit.hardwareEvents.length }

/-- What is admitted with one receive event. -/
structure UartAdmission where
  event : UartReceiveEvent
  detectedPatterns : List DetectedPattern := []
  captureResult : Option UartCaptureResult := none
  rolloverCaptureResult : Option UartCaptureResult := none

namespace UartAdmission

/-- The matches of the capture result, or the patterns supplied. -/
def patterns (a : UartAdmission) : Except StoreException (List DetectedPattern) :=
  match a.captureResult with
  | none => .ok a.detectedPatterns
  | some result =>
    ofEvidence (detectedPatternRecords result a.event.segmentId a.event.timestampUs)

/-- What the successor admits: the result made for a fresh session when there is one, else
the same result under the successor's segment. -/
def inSegment (a : UartAdmission) (segmentId : ℕ) : UartAdmission :=
  { a with
    event := { a.event with segmentId := segmentId }
    detectedPatterns := a.detectedPatterns.map fun p => { p with segmentId := segmentId }
    captureResult := a.rolloverCaptureResult <|>
      a.captureResult.map fun result => { result with segmentId := segmentId } }

end UartAdmission

def requireMatching (a : UartAdmission) : StoreProg Unit :=
  match a.captureResult with
  | none => pure ()
  | some result => requireMatchingCaptureResult a.event result

def checkUartAdmission (a : UartAdmission) : StoreProg Unit := do
  require (a.event.data ≠ [] ∧ a.event.data.length ≤ 32768)
    (.value "v2 UART RX payload must contain 1..32768 bytes")
  requireMatching a
  require (a.captureResult.isNone ∨ a.detectedPatterns = [])
    (.value "v2 UART admission accepts detected_patterns or capture_result, not both")
  require (a.rolloverCaptureResult.isNone ∨ a.captureResult.isSome)
    (.value "rollover capture result requires a primary capture result")

section Calls

variable (cfg : StoreConfig) (depth : ℕ)

abbrev appendRecord : AppendRecord := appendV2RecordLocked cfg depth

def uartUnit (files : SessionFiles) (a : UartAdmission) : StoreProg UartUnit := do
  let patterns ← lift a.patterns
  v2UartUnit cfg files a.event patterns a.captureResult

/-- Admit the unit in a successor session. -/
def admitInSuccessor (handle : SessionId) (a : UartAdmission) :
    StoreProg V2EvidenceAdmission := do
  let handle ← rolloverV2Locked cfg (appendRecord cfg depth) handle .size none
  let files ← requireActive handle
  let segmentId ← lift (currentV2SegmentId files.metadata)
  let a := a.inSegment segmentId
  requireMatching a
  let unit ← uartUnit cfg files a
  require (files.metadata.unitFits unit.unitBytes)
    (.persistence "preflight v2 evidence" handle
      "one schema-valid UART unit exceeds the session budget")
  commitUartUnit cfg handle files a.event a.captureResult unit true

/-- Admit exact UART RX bytes with their record. -/
def appendV2UartReceive (handle : SessionId) (a : UartAdmission) :
    StoreProg V2EvidenceAdmission := do
  checkUartAdmission a
  let files ← requireActive handle
  let unit ← uartUnit cfg files a
  if files.metadata.unitFits unit.unitBytes then
    commitUartUnit cfg handle files a.event a.captureResult unit false
  else admitInSuccessor cfg depth handle a

/-- Whether this exact UART unit requires a successor session. -/
def v2UartReceiveWillRollover (handle : SessionId) (event : UartReceiveEvent)
    (captureResult : UartCaptureResult) : StoreProg Bool := do
  requireMatchingCaptureResult event captureResult
  let files ← requireActive handle
  let unit ← uartUnit cfg files { event := event, captureResult := some captureResult }
  pure (!files.metadata.unitFits unit.unitBytes)

/-- One line-limit fact finalized at a hard boundary. -/
def appendBoundaryLine (handle : SessionId) (line : UartCaptureResult × OversizedUartLine) :
    StoreProg SessionId := do
  let facts ← lift (ofEvidence (lineLimitExceededEvent line.1 line.2))
  let admission ← appendRecord cfg depth handle .hardware
    (fun _ m _ => do
      let segmentId ← currentV2SegmentId m
      pure (.lineLimitExceeded segmentId facts))
    fun m _ => .ok m
  pure admission.sessionId

/-- Persist derived oversized-line facts finalized at a hard boundary. -/
def appendV2LineBoundary (handle : SessionId) (results : List UartCaptureResult) :
    StoreProg SessionId :=
  (results.flatMap fun result => result.oversizedLines.map fun line => (result, line)).foldlM
    (appendBoundaryLine cfg depth) handle

/-! ## Telemetry and connection facts -/

/-- Fold a loss count into the session's integrity. -/
def recordV2IntegrityLoss (m : Metadata) (droppedBytes : ℕ) (cumulative : Bool)
    (reportedLoss : Option Bool) : Except StoreException Metadata :=
  match m.backendIntegrity.droppedBytes with
  | none => valueError "v2 backend integrity dropped bytes are invalid"
  | some previous =>
    let observed := if cumulative then max previous droppedBytes else previous + droppedBytes
    .ok
      { m with
        backendIntegrity :=
          { lossStatus :=
              if observed ≠ 0 ∨ reportedLoss = some true then .lossReported else .noneReported
            observationScope := some debugHelperRxBuffer
            droppedBytes := some observed } }

def requireCurrentSegment (files : SessionFiles) (segmentId : ℕ) (message : String) :
    StoreProg Unit := do
  let current ← lift (currentV2SegmentId files.metadata)
  require (segmentId = current) (.value message)

/-- Update the timestamps of the current segment. -/
def recordCurrentTimestamp (m : Metadata) (timestampUs : ℕ) : Except StoreException Metadata := do
  let segmentId ← currentV2SegmentId m
  pure (m.recordSegmentTimestamp segmentId timestampUs)

/-- What an overflow event does to the integrity; the counts given are totals of the
session, without one the event's own count is added. -/
def overflowMutator (event : BufferOverflowEvent)
    (sessionDroppedBytes rolloverSessionDroppedBytes : Option ℕ) : MetadataMutator :=
  fun m admission => do
    let droppedBytes :=
      ((if admission.rolledOver then rolloverSessionDroppedBytes else none)
        <|> sessionDroppedBytes).getD event.droppedBytes
    let m ← recordV2IntegrityLoss m droppedBytes
      (sessionDroppedBytes.isSome || rolloverSessionDroppedBytes.isSome) (some true)
    recordCurrentTimestamp m event.timestampUs

def overflowFields (event : BufferOverflowEvent) : RecordFields := fun _ m _ => do
  let segmentId ← currentV2SegmentId m
  pure (.bufferOverflow segmentId event.timestampUs event.channel event.droppedBytes)

def appendV2BufferOverflow (handle : SessionId) (event : BufferOverflowEvent)
    (sessionDroppedBytes rolloverSessionDroppedBytes : Option ℕ) :
    StoreProg V2EvidenceAdmission := do
  let files ← requireActive handle
  requireCurrentSegment files event.segmentId "v2 telemetry must reference the current segment"
  appendRecord cfg depth handle .hardware (overflowFields event)
    (overflowMutator event sessionDroppedBytes rolloverSessionDroppedBytes)

/-- The totals a status event reports for the session, and for a successor. -/
structure StatusIntegrity where
  sessionDroppedBytes : Option ℕ := none
  reportedLoss : Option Bool := none
  rolloverSessionDroppedBytes : Option ℕ := none
  rolloverReportedLoss : Option Bool := none
  deriving DecidableEq, Repr

def statusMutator (event : BufferStatusEvent) (i : StatusIntegrity) : MetadataMutator :=
  fun m admission => do
    let droppedBytes :=
      ((if admission.rolledOver then i.rolloverSessionDroppedBytes else none)
        <|> i.sessionDroppedBytes).getD event.droppedBytesTotal
    let loss :=
      (if admission.rolledOver then i.rolloverReportedLoss else none) <|> i.reportedLoss
    let m ← recordV2IntegrityLoss m droppedBytes true loss
    recordCurrentTimestamp m event.timestampUs

def statusFields (event : BufferStatusEvent) : RecordFields := fun _ m _ => do
  let segmentId ← currentV2SegmentId m
  pure
    (.bufferStatus segmentId event.timestampUs event.sizeBytes event.usedBytes
      event.highWaterBytes event.droppedBytesTotal event.overflowEvents)

def appendV2BufferStatus (handle : SessionId) (event : BufferStatusEvent)
    (integrity : StatusIntegrity) : StoreProg V2EvidenceAdmission := do
  let files ← requireActive handle
  requireCurrentSegment files event.segmentId "v2 telemetry must reference the current segment"
  appendRecord cfg depth handle .hardware (statusFields event) (statusMutator event integrity)

/-- How a connection fact changes continuity: a reopened segment says why it started, a
lost or released connection closes the current segment and counts a gap. -/
def connectionMutator (eventType : String) (disconnectedAt : Timestamp) : MetadataMutator :=
  fun m _ =>
    if eventType = "reconnect_succeeded" ∨ eventType = "reacquire_succeeded" then
      .ok
        { m with
          segments := modifyLastSegment
            (fun s =>
              { s with
                startReason := some
                  (if eventType = "reacquire_succeeded" then "reacquire" else "reconnect") })
            m.segments }
    else if eventType = "unexpected_disconnect" ∨ eventType = "released" then
      .ok
        { m with
          observationGapCount := m.observationGapCount + 1
          segments := modifyLastSegment (closeSegment disconnectedAt eventType) m.segments }
    else .ok m

def connectionFields (eventType : String) (segmentId : Option ℕ) (detail : Json) : RecordFields :=
  fun _ m _ =>
    match segmentId with
    | none => .ok (.connectionEvent eventType none detail)
    | some _ => do
      let current ← currentV2SegmentId m
      pure (.connectionEvent eventType (some current) detail)

def requireSegmentOf (files : SessionFiles) (segmentId : Option ℕ) : StoreProg Unit :=
  match segmentId with
  | none => pure ()
  | some segmentId =>
    requireCurrentSegment files segmentId
      "v2 connection event must reference the current segment"

/-- Persist one bounded connection lifecycle fact. -/
def appendV2ConnectionEvent (handle : SessionId) (eventType : String) (segmentId : Option ℕ)
    (detail : Json) : StoreProg V2EvidenceAdmission := do
  validateV2Identifier eventType "event_type"
  let files ← requireActive handle
  requireSegmentOf files segmentId
  let disconnectedAt ← readClock cfg
  appendRecord cfg depth handle .connection (connectionFields eventType segmentId detail)
    (connectionMutator eventType disconnectedAt)

/-! ## Segments -/

/-- The snapshot under another segment identifier. -/
def BackendSnapshot.withSegmentId (snapshot : BackendSnapshot) (segmentId : ℕ) : BackendSnapshot :=
  { snapshot with segment := snapshot.segment.map fun c => { c with segmentId := segmentId } }

def segmentMutator (snapshot : BackendSnapshot) (startedAt : Timestamp) : MetadataMutator :=
  fun m _ =>
    .ok
      { m with
        segments :=
          modifyLastSegment (closeSegment startedAt "reconnect") m.segments
            ++ [backendSegment snapshot m.segments.length startedAt] }

/-- Open the next segment in the current session. -/
def publishSegment (handle : SessionId) (snapshot : BackendSnapshot) : StoreProg SessionId := do
  let startedAt ← readClock cfg
  let admission ← appendRecord cfg depth handle .connection
    (fun _ m _ => .ok (.segmentOpened m.segments.length)) (segmentMutator snapshot startedAt)
  let files ← requireActive admission.sessionId
  let segmentId ← lift (currentV2SegmentId files.metadata)
  change fun st =>
    { st with
      v2Snapshots := st.v2Snapshots.set admission.sessionId (snapshot.withSegmentId segmentId) }
  pure admission.sessionId

/-- Publish the next contiguous segment or roll over before segment 33. -/
def appendV2Segment (handle : SessionId) (snapshot : BackendSnapshot) : StoreProg SessionId := do
  require snapshot.segment.isSome (.value "v2 segment requires timestamp provenance")
  let files ← requireActive handle
  require (files.metadata.segments ≠ []) (.value "v2 session must contain a current segment")
  let expectedId := files.metadata.segments.length
  require (snapshot.segment.map SegmentContext.segmentId = some expectedId)
    (.value "v2 segment ID must be the next contiguous ID")
  if expectedId = maxSessionSegments then
    rolloverV2Locked cfg (appendRecord cfg depth) handle .segments (some (snapshot.withSegmentId 0))
  else publishSegment cfg depth handle snapshot

/-! ## Bounded operations -/

/-- The operation a record of the operations journal is about. -/
def RecordBody.operationId? : RecordBody → Option String
  | .operationStarted operationId _ _ _ => some operationId
  | .operationContinued operationId _ _ => some operationId
  | .operationTerminal operationId _ _ _ _ _ _ _ => some operationId
  | _ => none

def v2OperationIdSeen (records : List EvidenceRecord) (operationId : String) : Bool :=
  records.any fun r => r.body.operationId? = some operationId

def startFields (operationId : String) (operationType : OperationType) (parameters : Json) :
    RecordFields := fun handle _ evidenceSeq =>
  .ok (.operationStarted operationId operationType parameters ⟨handle, evidenceSeq + 1⟩)

def startMutator (operationId : String) (operationType : OperationType) : MetadataMutator :=
  fun m admission =>
    if m.activeOperations.contains operationId then
      valueError "v2 operation ID has already been used"
    else
      .ok
        { m with
          activeOperations := m.activeOperations.set operationId
            { operationType := operationType
              ranges :=
                [{ sessionId := admission.sessionId
                   startEvidenceSeq := admission.evidenceSeq
                   endEvidenceSeqExclusive := none }] }
          operationSummary :=
            { m.operationSummary with
              started := m.operationSummary.started + 1
              active := m.operationSummary.active + 1 } }

def requireUnusedOperation (files : SessionFiles) (operationId : String) : StoreProg Unit :=
  require
    (files.metadata.activeOperations.contains operationId = false ∧
      v2OperationIdSeen files.operationEvents operationId = false)
    (.value "v2 operation ID has already been used")

/-- Persist an operation start. -/
def startV2Operation (handle : SessionId) (operationId : String) (operationType : OperationType)
    (parameters : Json) : StoreProg V2EvidenceAdmission := do
  validateV2Identifier operationId "operation_id"
  let files ← requireActive handle
  requireUnusedOperation files operationId
  appendRecord cfg depth handle .operation (startFields operationId operationType parameters)
    (startMutator operationId operationType)

/-- Whether appending this record requires a successor session. -/
def v2RecordWillRolloverLocked (handle : SessionId) (files : SessionFiles)
    (fields : RecordFields) : StoreProg Bool := do
  let record ← boundedRecord cfg handle files.metadata fields
  pure (!files.metadata.unitFits record.size)

def v2OperationStartWillRollover (handle : SessionId) (operationId : String)
    (operationType : OperationType) (parameters : Json) : StoreProg Bool := do
  validateV2Identifier operationId "operation_id"
  let files ← requireActive handle
  requireUnusedOperation files operationId
  v2RecordWillRolloverLocked cfg handle files (startFields operationId operationType parameters)

def v2OperationOutcomes : List String :=
  ["elapsed", "matched", "timeout", "disconnected", "released", "cancelled", "error"]

/-- How an operation ended, as the caller reports it. -/
structure OperationResult where
  outcome : String
  error : Option (String × String) := none
  matchedCondition : Option Json := none
  lineProcessingLimited : Bool := false

/-- The checked error of a terminal record. -/
def terminalError (result : OperationResult) : StoreProg (Option SessionError) :=
  match result.error with
  | none => pure none
  | some (code, detail) => do
    validateV2Identifier code "operation error code"
    pure (some (boundedError code detail))

/-- The checks that tie outcome, error and match together. -/
def v2TerminalProjection (result : OperationResult) : StoreProg (Option SessionError) := do
  require (result.outcome ∈ v2OperationOutcomes)
    (.value "outcome must use the normalized Phase 1 vocabulary")
  require (result.outcome = "error" ∨ result.error.isNone)
    (.value "operation error data is only valid for the error outcome")
  require (result.outcome ≠ "error" ∨ result.error.isSome)
    (.value "error outcome requires bounded error data")
  let error ← terminalError result
  require (result.outcome ≠ "matched" ∨ result.matchedCondition.isSome)
    (.value "matched outcome requires matched condition evidence")
  require (result.outcome = "matched" ∨ result.matchedCondition.isNone)
    (.value "matched condition evidence requires matched outcome")
  pure error

def v2ActiveOperation (m : Metadata) (operationId : String) :
    Except StoreException ActiveOperation :=
  match m.activeOperations.get? operationId with
  | some operation => .ok operation
  | none => valueError "v2 operation is not active"

def terminalFields (operationId : String) (result : OperationResult)
    (error : Option SessionError) : RecordFields := fun handle m terminalSeq => do
  let operation ← v2ActiveOperation m operationId
  pure
    (.operationTerminal operationId operation.operationType result.outcome error
      result.matchedCondition result.lineProcessingLimited ⟨handle, terminalSeq + 1⟩
      (closeLastRange (terminalSeq + 1) operation.ranges))

def terminalMutator (operationId outcome : String) : MetadataMutator := fun m _ =>
  let summary := { m.operationSummary with active := m.operationSummary.active - 1 }
  .ok
    { m with
      activeOperations := m.activeOperations.erase operationId
      operationSummary :=
        if outcome = "error" then { summary with failed := summary.failed + 1 }
        else { summary with completed := summary.completed + 1 } }

/-- The ranges of the last terminal record of an operation. -/
def findV2OperationTerminal (records : List EvidenceRecord) (operationId : String) :
    Option (List OperationRange) :=
  records.reverse.findSome? fun r =>
    match r.body with
    | .operationTerminal id _ _ _ _ _ _ ranges => if id = operationId then some ranges else none
    | _ => none

/-- A range a terminal record may name. -/
def closedRange (r : OperationRange) : Bool :=
  validSessionId r.sessionId &&
    match r.endEvidenceSeqExclusive with
    | none => false
    | some e => r.startEvidenceSeq ≤ e

/-- Keep the sessions a leased operation covers. -/
def extendLease (handle : SessionId) (operationId : String) (lease : List SessionId) :
    StoreProg Unit := do
  let files ← sessionFiles handle
  match findV2OperationTerminal files.operationEvents operationId with
  | none => raise (.value "v2 operation terminal record was not found")
  | some ranges => do
    require (ranges ≠ [] ∧ ranges.all closedRange)
      (.value "v2 operation terminal evidence ranges are malformed")
    change fun st =>
      { st with
        v2MonitorRangeLeases := st.v2MonitorRangeLeases.set operationId
          (lease ++ (ranges.map OperationRange.sessionId).filter (· ∉ lease)) }

def extendLeaseOf (handle : SessionId) (operationId : String) : StoreProg Unit := do
  let lease ← look fun st => st.v2MonitorRangeLeases.get? operationId
  match lease with
  | none => pure ()
  | some lease => extendLease handle operationId lease

/-- Persist one operation terminal record with its evidence ranges. -/
def completeV2Operation (handle : SessionId) (operationId : String) (result : OperationResult) :
    StoreProg V2EvidenceAdmission := do
  validateV2Identifier operationId "operation_id"
  let error ← v2TerminalProjection result
  let files ← requireActive handle
  let _ ← lift (v2ActiveOperation files.metadata operationId)
  let admission ← appendRecord cfg depth handle .operation
    (terminalFields operationId result error) (terminalMutator operationId result.outcome)
  extendLeaseOf admission.sessionId operationId
  pure admission

def v2OperationTerminalWillRollover (handle : SessionId) (operationId : String)
    (result : OperationResult) : StoreProg Bool := do
  validateV2Identifier operationId "operation_id"
  let error ← v2TerminalProjection result
  let files ← requireActive handle
  let _ ← lift (v2ActiveOperation files.metadata operationId)
  v2RecordWillRolloverLocked cfg handle files (terminalFields operationId result error)

/-! ## Physical attempts -/

/-- The attempt a record of a journal starts. -/
def RecordBody.attempt? : RecordBody → Option AttemptKey
  | .uartTxAttempt attemptId _ _ _ _ _ => some (.uartTx, attemptId)
  | .controlAttempt attemptId _ _ _ _ _ => some (.control, attemptId)
  | _ => none

/-- The attempt a record resolves, with where that was recorded. -/
def RecordBody.result? : RecordBody → Option (AttemptKey × PendingAttempt)
  | .uartTxResult attemptId sessionId evidenceSeq _ _ =>
    some ((.uartTx, attemptId), ⟨sessionId, evidenceSeq⟩)
  | .controlResult attemptId sessionId evidenceSeq _ _ =>
    some ((.control, attemptId), ⟨sessionId, evidenceSeq⟩)
  | _ => none

/-- The journal of an attempt type. -/
def AttemptType.stream : AttemptType → EvidenceStream
  | .uartTx => .operation
  | .control => .hardware

def SessionFiles.records (f : SessionFiles) : EvidenceStream → List EvidenceRecord
  | .operation => f.operationEvents
  | .hardware => f.hardwareEvents
  | .connection => f.connectionEvents

/-- The identifiers of a type seen and pending so far, over the rest of a journal. -/
def v2AttemptIds (attemptType : AttemptType) (sessionId : SessionId) :
    List String → List String → List EvidenceRecord → Except StoreException (List String)
  | seen, _, [] => .ok seen
  | seen, pending, r :: rest =>
    match r.body.attempt?, r.body.result? with
    | some (type, attemptId), _ =>
      if type ≠ attemptType then v2AttemptIds attemptType sessionId seen pending rest
      else if attemptId ∈ seen then valueError "journal contains a duplicate attempt ID"
      else v2AttemptIds attemptType sessionId (seen ++ [attemptId]) (pending ++ [attemptId]) rest
    | none, some ((type, attemptId), origin) =>
      if type ≠ attemptType ∨ origin.sessionId ≠ sessionId then
        v2AttemptIds attemptType sessionId seen pending rest
      else if attemptId ∈ pending then
        v2AttemptIds attemptType sessionId seen (pending.erase attemptId) rest
      else valueError "journal result has no preceding unresolved attempt"
    | none, none => v2AttemptIds attemptType sessionId seen pending rest

def uniqueAttemptMessage : AttemptType → String
  | .uartTx => "v2 UART TX attempt ID must be unique"
  | .control => "v2 control attempt ID must be unique"

def unresolvedAttemptMessage : AttemptType → String
  | .uartTx => "v2 result requires a preceding unresolved UART TX attempt"
  | .control => "v2 result requires a preceding unresolved control attempt"

def attemptMutator (key : AttemptKey) : MetadataMutator := fun m admission =>
  if m.pendingAttempts.contains key then valueError (uniqueAttemptMessage key.1)
  else
    .ok
      { m with
        pendingAttempts := m.pendingAttempts.set key
          ⟨admission.sessionId, admission.evidenceSeq⟩ }

def requireV2OperationActive (m : Metadata) : Option String → StoreProg Unit
  | none => pure ()
  | some operationId =>
    require (m.activeOperations.contains operationId)
      (.value "v2 action operation_id must reference an active operation")

/-- Append an attempt that is new to its journal and to the pending attempts. -/
def appendAttempt (handle : SessionId) (key : AttemptKey) (operationId : Option String)
    (fields : RecordFields) : StoreProg V2EvidenceAdmission := do
  let journal ← sessionFiles handle
  let seen ← lift (v2AttemptIds key.1 handle [] [] (journal.records key.1.stream))
  require (key.2 ∉ seen) (.value (uniqueAttemptMessage key.1))
  let files ← requireActive handle
  requireV2OperationActive files.metadata operationId
  require (files.metadata.pendingAttempts.contains key = false)
    (.value (uniqueAttemptMessage key.1))
  appendRecord cfg depth handle key.1.stream fields (attemptMutator key)

def validateOperationId : Option String → StoreProg Unit
  | none => pure ()
  | some operationId => validateV2Identifier operationId "operation_id"

/-- Persist exact UART TX intent before dispatch. -/
def appendV2UartTxAttempt (handle : SessionId) (attemptId : String) (data : List UInt8)
    (operationId : Option String) (transformation : Json) : StoreProg V2EvidenceAdmission := do
  validateV2Identifier attemptId "attempt_id"
  validateOperationId operationId
  require (data ≠ [] ∧ data.length ≤ 1024)
    (.value "v2 UART TX payload must contain 1..1024 bytes")
  appendAttempt cfg depth handle (.uartTx, attemptId) operationId fun _ m _ => do
    let segmentId ← currentV2SegmentId m
    pure
      (.uartTxAttempt attemptId operationId (String.ofList (Base64.encode data)) data.length
        transformation segmentId)

/-- Persist resolved semantic-control intent before dispatch. -/
def appendV2ControlAttempt (handle : SessionId) (attemptId role provider : String)
    (parameters : Json) (operationId : Option String) : StoreProg V2EvidenceAdmission := do
  validateV2Identifier attemptId "attempt_id"
  validateV2Identifier role "role"
  validateV2Identifier provider "provider"
  validateOperationId operationId
  appendAttempt cfg depth handle (.control, attemptId) operationId fun _ m _ => do
    let segmentId ← currentV2SegmentId m
    pure (.controlAttempt attemptId operationId role provider parameters segmentId)

def v2PendingAttempt (m : Metadata) (key : AttemptKey) : Except StoreException PendingAttempt :=
  match m.pendingAttempts.get? key with
  | some attempt => .ok attempt
  | none => valueError (unresolvedAttemptMessage key.1)

def resolveMutator (key : AttemptKey) : MetadataMutator := fun m _ =>
  .ok { m with pendingAttempts := m.pendingAttempts.erase key }

/-- Append the result of a pending attempt. -/
def appendResult (handle : SessionId) (key : AttemptKey) (body : PendingAttempt → RecordBody) :
    StoreProg V2EvidenceAdmission := do
  let files ← requireActive handle
  let _ ← lift (v2PendingAttempt files.metadata key)
  let admission ← appendRecord cfg depth handle key.1.stream
    (fun _ m _ => do
      let attempt ← v2PendingAttempt m key
      pure (body attempt))
    (resolveMutator key)
  applyRetentionLocked cfg [admission.sessionId]
  pure admission

/-- Persist the known terminal transport result of one TX attempt. -/
def appendV2UartTxResult (handle : SessionId) (attemptId status : String)
    (acceptedBytes : Option ℕ) : StoreProg V2EvidenceAdmission := do
  validateV2Identifier attemptId "attempt_id"
  validateV2Identifier status "status"
  appendResult cfg depth handle (.uartTx, attemptId) fun attempt =>
    .uartTxResult attemptId attempt.sessionId attempt.evidenceSeq status acceptedBytes

/-- Persist a known control result. -/
def appendV2ControlResult (handle : SessionId) (attemptId status : String)
    (deviceTimestampUs : Option ℤ) : StoreProg V2EvidenceAdmission := do
  validateV2Identifier attemptId "attempt_id"
  validateV2Identifier status "status"
  appendResult cfg depth handle (.control, attemptId) fun attempt =>
    .controlResult attemptId attempt.sessionId attempt.evidenceSeq status deviceTimestampUs

/-! ## Lifecycle -/

def terminalizeSession (handle : SessionId) (t : Terminal) : StoreProg Unit := do
  terminalizeSessionLocked cfg handle t fun m => .ok m
  applyRetentionLocked cfg [handle]

def completeSession (handle : SessionId) (endReason : String) : StoreProg Unit :=
  terminalizeSession cfg handle { state := .completed, endReason := endReason, error := none }

def failSession (handle : SessionId) (endReason errorCode detail : String) : StoreProg Unit := do
  require (errorCode ≠ "") (.value "session error code must be a non-empty string")
  terminalizeSession cfg handle
    { state := .failed, endReason := endReason, error := some (boundedError errorCode detail) }

def abandonSession (handle : SessionId) : StoreProg Unit :=
  terminalizeSession cfg handle
    { state := .abandoned, endReason := "service_restart", error := none }

end Calls

/-! ## Runs -/

/-- One call of the store. -/
inductive StoreCall where
  | createV2Session (profile : DutProfile) (snapshot : BackendSnapshot)
  | appendV2UartReceive (handle : SessionId) (admission : UartAdmission)
  | appendV2LineBoundary (handle : SessionId) (results : List UartCaptureResult)
  | appendV2BufferOverflow (handle : SessionId) (event : BufferOverflowEvent)
      (sessionDroppedBytes rolloverSessionDroppedBytes : Option ℕ)
  | appendV2BufferStatus (handle : SessionId) (event : BufferStatusEvent)
      (integrity : StatusIntegrity)
  | appendV2ConnectionEvent (handle : SessionId) (eventType : String) (segmentId : Option ℕ)
      (detail : Json)
  | appendV2Segment (handle : SessionId) (snapshot : BackendSnapshot)
  | startV2Operation (handle : SessionId) (operationId : String) (operationType : OperationType)
      (parameters : Json)
  | completeV2Operation (handle : SessionId) (operationId : String) (result : OperationResult)
  | appendV2UartTxAttempt (handle : SessionId) (attemptId : String) (data : List UInt8)
      (operationId : Option String) (transformation : Json)
  | appendV2UartTxResult (handle : SessionId) (attemptId status : String)
      (acceptedBytes : Option ℕ)
  | appendV2ControlAttempt (handle : SessionId) (attemptId role provider : String)
      (parameters : Json) (operationId : Option String)
  | appendV2ControlResult (handle : SessionId) (attemptId status : String)
      (deviceTimestampUs : Option ℤ)
  | completeSession (handle : SessionId) (endReason : String)
  | failSession (handle : SessionId) (endReason errorCode detail : String)
  | abandonSession (handle : SessionId)

/-- Drop what a call returns. -/
def dropResult {α : Type} (m : StoreProg α) : StoreProg Unit := do
  let _ ← m
  pure ()

def runCall (cfg : StoreConfig) (depth : ℕ) : StoreCall → StoreProg Unit
  | .createV2Session profile snapshot => dropResult (createV2Session cfg profile snapshot)
  | .appendV2UartReceive handle admission =>
    dropResult (appendV2UartReceive cfg depth handle admission)
  | .appendV2LineBoundary handle results =>
    dropResult (appendV2LineBoundary cfg depth handle results)
  | .appendV2BufferOverflow handle event sessionDroppedBytes rolloverSessionDroppedBytes =>
    dropResult
      (appendV2BufferOverflow cfg depth handle event sessionDroppedBytes
        rolloverSessionDroppedBytes)
  | .appendV2BufferStatus handle event integrity =>
    dropResult (appendV2BufferStatus cfg depth handle event integrity)
  | .appendV2ConnectionEvent handle eventType segmentId detail =>
    dropResult (appendV2ConnectionEvent cfg depth handle eventType segmentId detail)
  | .appendV2Segment handle snapshot => dropResult (appendV2Segment cfg depth handle snapshot)
  | .startV2Operation handle operationId operationType parameters =>
    dropResult (startV2Operation cfg depth handle operationId operationType parameters)
  | .completeV2Operation handle operationId result =>
    dropResult (completeV2Operation cfg depth handle operationId result)
  | .appendV2UartTxAttempt handle attemptId data operationId transformation =>
    dropResult (appendV2UartTxAttempt cfg depth handle attemptId data operationId transformation)
  | .appendV2UartTxResult handle attemptId status acceptedBytes =>
    dropResult (appendV2UartTxResult cfg depth handle attemptId status acceptedBytes)
  | .appendV2ControlAttempt handle attemptId role provider parameters operationId =>
    dropResult
      (appendV2ControlAttempt cfg depth handle attemptId role provider parameters operationId)
  | .appendV2ControlResult handle attemptId status deviceTimestampUs =>
    dropResult (appendV2ControlResult cfg depth handle attemptId status deviceTimestampUs)
  | .completeSession handle endReason => completeSession cfg handle endReason
  | .failSession handle endReason errorCode detail =>
    failSession cfg handle endReason errorCode detail
  | .abandonSession handle => abandonSession cfg handle

/-- The store after a sequence of calls, whatever each of them raised. -/
def runCalls (cfg : StoreConfig) (depth : ℕ) (calls : List StoreCall) (st : Store) : Store :=
  calls.foldl (fun st call => (runCall cfg depth call st).2) st
