/-
# The evidence recorder over the store

The recorder admits what a connection delivers and what the service does into the session it
owns.  Before an admission it asks the store whether the record rolls the session over, and
flushes line state if so; afterwards it follows the admission into the session it went to.
Each admission is one step here: its threads and locks are modelled elsewhere, and a call
that raises ends the run.
-/
import DutchMate.Handover

open Throwing

/-! ## State -/

/-- A replacement whose segment is open while its connection is not published yet. -/
structure Replacement where
  snapshot : BackendSnapshot
  manual : Bool
  previousSessionId : SessionId
  newOwnershipSession : Bool

/-- The state of the recorder.  `resetMissed` notes a rollover after which the counters and
the line state were left as they were, `lineCut` a flush of line state while the segment
goes on, `strayed` a receive event that met either; the recorder reads none of them. -/
structure EvidenceRecorder where
  profile : DutProfile
  handle : SessionId
  storedSegmentId : ℕ := 0
  receiving : Bool := true
  replacement : Option Replacement := none
  connectionGeneration : ℕ := 0
  tail : EvidenceCursor
  processor : UartCaptureProcessor := {}
  snapshot : BackendSnapshot
  integrity : UartIntegrity
  statusBaseline : Option (ℕ × ℕ) := none
  sessionDroppedBytes : ℕ
  connectionStartDroppedBytes : ℕ
  explicitOverflowBytes : ℕ := 0
  resetMissed : Bool := false
  lineCut : Bool := false
  strayed : Bool := false

namespace EvidenceRecorder

/-- Follow an admission into its session. -/
def publishAdmission (r : EvidenceRecorder) (admission : V2EvidenceAdmission) :
    EvidenceRecorder :=
  { r with
    handle := admission.sessionId
    storedSegmentId := if admission.rolledOver then 0 else r.storedSegmentId
    tail := ⟨admission.sessionId, admission.nextEvidenceSeq⟩
    resetMissed := r.resetMissed || admission.rolledOver
    lineCut := r.lineCut && !admission.rolledOver }

/-- The counters of a session that starts from this integrity. -/
def resetIntegrity (r : EvidenceRecorder) (integrity : UartIntegrity) : EvidenceRecorder :=
  { r with
    sessionDroppedBytes := integrity.droppedBytes.getD 0
    connectionStartDroppedBytes := integrity.droppedBytes.getD 0
    explicitOverflowBytes := 0
    statusBaseline := none
    integrity := integrity
    resetMissed := false }

/-- The counters after a rollover; by default the integrity is that of the connection. -/
def resetIntegrityAfterRollover (r : EvidenceRecorder) : EvidenceRecorder :=
  r.resetIntegrity r.snapshot.integrity

/-- Follow an admission and reset the counters if it rolled over. -/
def adopt (r : EvidenceRecorder) (admission : V2EvidenceAdmission) : EvidenceRecorder :=
  if admission.rolledOver then (r.publishAdmission admission).resetIntegrityAfterRollover
  else r.publishAdmission admission

end EvidenceRecorder

section Calls

variable (cfg : StoreConfig) (depth : ℕ)

/-! ## Line state -/

/-- One line-limit fact, in the session the facts before it went to. -/
def appendBoundaryFact (handle : SessionId) (line : UartCaptureResult × OversizedUartLine) :
    StoreProg V2EvidenceAdmission := do
  let facts ← lift (ofEvidence (lineLimitExceededEvent line.1 line.2))
  appendRecord cfg depth handle .hardware
    (fun _ m _ => do
      let segmentId ← currentV2SegmentId m
      pure (.lineLimitExceeded segmentId facts))
    fun m _ => .ok m

/-- The admissions of the facts finalized at a hard boundary. -/
def lineBoundaryAdmissions :
    SessionId → List (UartCaptureResult × OversizedUartLine) → StoreProg (List V2EvidenceAdmission)
  | _, [] => pure []
  | handle, line :: lines => do
    let admission ← appendBoundaryFact cfg depth handle line
    let admissions ← lineBoundaryAdmissions admission.sessionId lines
    pure (admission :: admissions)

/-- Finalize the lines that are still open and start over. -/
def flushLineState (r : EvidenceRecorder) : StoreProg EvidenceRecorder := do
  let results := r.processor.flushAll.2
  let r := { r with processor := {}, lineCut := true }
  if results.isEmpty then pure r
  else do
    let admissions ← lineBoundaryAdmissions cfg depth r.handle
      (results.flatMap fun result => result.oversizedLines.map fun line => (result, line))
    pure (admissions.foldl EvidenceRecorder.adopt r)

/-- Flush when the next record will need a successor. -/
def flushIf (willRollover : Bool) (r : EvidenceRecorder) : StoreProg EvidenceRecorder :=
  if willRollover then flushLineState cfg depth r else pure r

/-! ## Events -/

/-- Admit one receive event, in the segment the recorder stores. -/
def recordUart (r : EvidenceRecorder) (event : UartReceiveEvent) : StoreProg EvidenceRecorder := do
  let first := { event with segmentId := r.storedSegmentId }
  let willRollover ←
    v2UartReceiveWillRollover cfg r.handle first (r.processor.processEvent first).2
  let r ← flushIf cfg depth willRollover r
  let event := { event with segmentId := r.storedSegmentId }
  let (candidate, result) := r.processor.processEvent event
  let (rolloverProcessor, rolloverResult) :=
    ({} : UartCaptureProcessor).processEvent { event with segmentId := 0 }
  let admission ← appendV2UartReceive cfg depth r.handle
    { event := event
      captureResult := some result
      rolloverCaptureResult := some rolloverResult }
  let r :=
    { r with
      processor := if admission.rolledOver then rolloverProcessor else candidate
      strayed := r.strayed || !admission.rolledOver && (r.lineCut || r.resetMissed) }
  pure (r.adopt admission)

/-- The counters after an overflow of a session that goes on, or of its successor. -/
def EvidenceRecorder.countOverflow (r : EvidenceRecorder) (projectedDropped droppedBytes : ℕ)
    (rolledOver : Bool) : EvidenceRecorder :=
  if rolledOver then
    { r with
      processor := {}
      statusBaseline := none
      connectionStartDroppedBytes := 0
      explicitOverflowBytes := droppedBytes
      sessionDroppedBytes := droppedBytes
      integrity := ⟨.lossReported, some debugHelperRxBuffer, some droppedBytes⟩
      resetMissed := false }
  else
    { r with
      explicitOverflowBytes := r.explicitOverflowBytes + droppedBytes
      sessionDroppedBytes := projectedDropped
      integrity := ⟨.lossReported, some debugHelperRxBuffer, some projectedDropped⟩ }

def recordOverflow (r : EvidenceRecorder) (event : BufferOverflowEvent) :
    StoreProg EvidenceRecorder := do
  let first := { event with segmentId := r.storedSegmentId }
  let willRollover ← v2TelemetryWillRollover cfg r.handle first.segmentId first.body
  let r ← flushIf cfg depth willRollover r
  let event := { event with segmentId := r.storedSegmentId }
  let projectedDropped :=
    max r.sessionDroppedBytes
      (r.connectionStartDroppedBytes + r.explicitOverflowBytes + event.droppedBytes)
  let admission ← appendV2BufferOverflow cfg depth r.handle event (some projectedDropped)
    (some event.droppedBytes)
  pure
    ((r.publishAdmission admission).countOverflow projectedDropped event.droppedBytes
      admission.rolledOver)

/-- The counters after a status report of a session that goes on, or of its successor. -/
def EvidenceRecorder.countStatus (r : EvidenceRecorder) (totals : ℕ × ℕ) (projectedDropped : ℕ)
    (reportedLoss rolledOver : Bool) : EvidenceRecorder :=
  if rolledOver then
    { r with
      processor := {}
      statusBaseline := some totals
      connectionStartDroppedBytes := 0
      explicitOverflowBytes := 0
      sessionDroppedBytes := 0
      integrity := ⟨.noneReported, some debugHelperRxBuffer, some 0⟩
      resetMissed := false }
  else
    { r with
      sessionDroppedBytes := projectedDropped
      integrity :=
        ⟨if reportedLoss then .lossReported else .noneReported, some debugHelperRxBuffer,
          some projectedDropped⟩ }

def recordStatus (r : EvidenceRecorder) (event : BufferStatusEvent) :
    StoreProg EvidenceRecorder := do
  let first := { event with segmentId := r.storedSegmentId }
  let willRollover ← v2TelemetryWillRollover cfg r.handle first.segmentId first.body
  let r ← flushIf cfg depth willRollover r
  let event := { event with segmentId := r.storedSegmentId }
  let totals := (event.droppedBytesTotal, event.overflowEvents)
  let baseline := r.statusBaseline.getD totals
  let r := { r with statusBaseline := some baseline }
  let connectionDropped := max (event.droppedBytesTotal - baseline.1) r.explicitOverflowBytes
  let projectedDropped := r.connectionStartDroppedBytes + connectionDropped
  let reportedLoss :=
    r.integrity.lossStatus = .lossReported || 0 < connectionDropped
      || baseline.2 < event.overflowEvents
  let admission ← appendV2BufferStatus cfg depth r.handle event
    { sessionDroppedBytes := some projectedDropped
      reportedLoss := some reportedLoss
      rolloverSessionDroppedBytes := some 0
      rolloverReportedLoss := some false }
  require (admission.rolledOver ∨ reportedLoss ∨ projectedDropped = 0)
    (.value "none-reported UART integrity requires zero dropped bytes")
  pure
    ((r.publishAdmission admission).countStatus totals projectedDropped reportedLoss
      admission.rolledOver)

/-! ## Actions and operations -/

/-- Admit a record that has a preflight and depends on nothing the flush changes. -/
def admitPreflighted (r : EvidenceRecorder) (c : PreflightCall) : StoreProg EvidenceRecorder := do
  let willRollover ← c.preflight cfg r.handle
  let r ← flushIf cfg depth willRollover r
  let admission ← c.append cfg depth r.handle
  pure (r.adopt admission)

/-- What the service audits of a physical action. -/
inductive AuditCall where
  | uartAttempt (attemptId : String) (data : List UInt8) (transformation : Json)
      (operationId : Option String)
  | uartResult (attemptId status : String) (acceptedBytes : Option ℕ)
  | controlAttempt (attemptId role : String) (parameters : Json)
  | controlResult (attemptId status : String) (deviceTimestampUs : Option ℤ)

/-- The record it admits. -/
def AuditCall.toCall : AuditCall → PreflightCall
  | uartAttempt attemptId data transformation operationId =>
    .uartTxAttempt attemptId data operationId transformation
  | uartResult attemptId status acceptedBytes => .uartTxResult attemptId status acceptedBytes
  | controlAttempt attemptId role parameters =>
    .controlAttempt attemptId role "gpio_control" parameters none
  | controlResult attemptId status deviceTimestampUs =>
    .controlResult attemptId status deviceTimestampUs

def admitAction (r : EvidenceRecorder) (c : AuditCall) : StoreProg EvidenceRecorder :=
  admitPreflighted cfg depth r c.toCall

/-- Start a bounded operation; what it waits on follows its start record. -/
def startMonitorOperation (r : EvidenceRecorder) (operationId : String)
    (operationType : OperationType) (parameters : Json) : StoreProg EvidenceRecorder :=
  admitPreflighted cfg depth r (.startOperation operationId operationType parameters)

/-- The start cursor of the operation just started and the channels whose line began before. -/
def EvidenceRecorder.operationStart (r : EvidenceRecorder) :
    EvidenceCursor × List (SessionId × ℕ × ℕ) :=
  (r.tail,
    (r.processor.incompleteLineKeys.filter (·.1 = r.storedSegmentId)).map fun key =>
      (r.handle, r.storedSegmentId, key.2))

/-- Complete an operation the session still owns. -/
def completeMonitorOperation (r : EvidenceRecorder) (operationId : String)
    (result : OperationResult) : StoreProg EvidenceRecorder := do
  let files ← sessionFiles r.handle
  if files.metadata.activeOperations.contains operationId then
    admitPreflighted cfg depth r (.completeOperation operationId result)
  else pure r

/-! ## Connections -/

/-- A connection fact in the current segment.  A rollover here resets no counter. -/
def connectionEvent (r : EvidenceRecorder) (eventType : String) : StoreProg EvidenceRecorder := do
  let admission ← appendV2ConnectionEvent cfg depth r.handle eventType (some r.storedSegmentId)
    (.obj [])
  pure (r.publishAdmission admission)

/-- The second half of a release, once the source is closed and drained. -/
def finishRelease (r : EvidenceRecorder) : StoreProg EvidenceRecorder := do
  let r ← flushLineState cfg depth { r with receiving := false }
  connectionEvent cfg depth r "released"

/-- The source was lost. -/
def recordDisconnect (r : EvidenceRecorder) (error : String) (timeoutS : Json) :
    StoreProg EvidenceRecorder := do
  let r ← flushLineState cfg depth { r with receiving := false }
  let admission ← appendV2ConnectionEvent cfg depth r.handle "unexpected_disconnect"
    (some r.storedSegmentId) (.obj [("error", error)])
  let r := r.adopt admission
  let reconnectStarted ← appendV2ConnectionEvent cfg depth r.handle "reconnect_started"
    (some r.storedSegmentId) (.obj [("timeout_s", timeoutS)])
  let r := r.adopt reconnectStarted
  pure { r with processor := if reconnectStarted.rolledOver then {} else r.processor }

/-- A connection fact, unless the session ended. -/
def connectionEventIfActive (r : EvidenceRecorder) (eventType : String) :
    StoreProg EvidenceRecorder := do
  let files ← sessionFiles r.handle
  if files.metadata.state = .active then connectionEvent cfg depth r eventType else pure r

/-- The segment of a replacement: the next of the session, or the first of a new one. -/
def publishReplacement (r : EvidenceRecorder) (replacement : Replacement) :
    StoreProg EvidenceRecorder := do
  if replacement.newOwnershipSession then do
    let handle ← createV2Session cfg r.profile (replacement.snapshot.withSegmentId 0)
    let r ← connectionEvent cfg depth { r with handle := handle, storedSegmentId := 0 }
      "reacquire_started"
    pure { r with handle := handle }
  else do
    let handle ← appendV2Segment cfg depth r.handle
      (replacement.snapshot.withSegmentId (r.storedSegmentId + 1))
    pure { r with handle := handle }

/-- Open the segment of a replacement source. -/
def openReplacement (r : EvidenceRecorder) (snapshot : BackendSnapshot) (manual : Bool) :
    StoreProg EvidenceRecorder := do
  require snapshot.segment.isSome
    (.value "replacement backend snapshot requires segment provenance")
  require (r.receiving = false ∧ r.replacement.isNone)
    (.value "evidence recorder cannot accept replacement")
  let files ← sessionFiles r.handle
  let replacement : Replacement :=
    { snapshot := snapshot
      manual := manual
      previousSessionId := r.handle
      newOwnershipSession := manual && files.metadata.state ≠ .active }
  let r ← publishReplacement cfg depth r replacement
  let files ← sessionFiles r.handle
  require (files.metadata.segments ≠ [])
    (.value "replacement session has no published segment")
  pure
    { r with
      storedSegmentId := files.metadata.segments.length - 1
      tail := ⟨r.handle, files.metadata.nextEvidenceSeq⟩
      processor := {}
      lineCut := false
      replacement := some replacement }

/-- The recorder once the replacement is connected. -/
def EvidenceRecorder.connect (r : EvidenceRecorder) (replacement : Replacement)
    (storedSegmentId : ℕ) : EvidenceRecorder :=
  let r :=
    { r with
      receiving := true
      replacement := none
      connectionGeneration := r.connectionGeneration + 1
      storedSegmentId := storedSegmentId
      processor := {}
      statusBaseline := none
      lineCut := false }
  let r :=
    if replacement.newOwnershipSession || r.handle ≠ replacement.previousSessionId then
      r.resetIntegrity replacement.snapshot.integrity
    else r
  { r with
    connectionStartDroppedBytes := r.sessionDroppedBytes
    explicitOverflowBytes := 0
    integrity :=
      if replacement.newOwnershipSession then replacement.snapshot.integrity else r.integrity
    snapshot := replacement.snapshot.withSegmentId storedSegmentId }

/-- Publish the connection of an open replacement. -/
def connectReplacement (r : EvidenceRecorder) : StoreProg EvidenceRecorder :=
  match r.replacement with
  | none => raise (.value "evidence recorder cannot accept replacement")
  | some replacement => do
    let connected ← appendV2ConnectionEvent cfg depth r.handle
      (if replacement.manual then "reacquire_succeeded" else "reconnect_succeeded")
      (some r.storedSegmentId)
      (.obj [("connection_generation", (r.connectionGeneration + 1 : ℕ))])
    let files ← sessionFiles connected.sessionId
    require (files.metadata.segments ≠ [])
      (.value "replacement session has no published segment")
    pure
      ((r.publishAdmission connected).connect replacement (files.metadata.segments.length - 1))

/-- Complete every operation of the session as disconnected. -/
def disconnectOperations : EvidenceRecorder → List String → StoreProg EvidenceRecorder
  | r, [] => pure r
  | r, operationId :: rest => do
    let admission ← completeV2Operation cfg depth r.handle operationId
      { outcome := "disconnected" }
    disconnectOperations (r.publishAdmission admission) rest

/-- The reconnect deadline expired, or the selection became ambiguous: the session fails. -/
def reconnectTimedOut (r : EvidenceRecorder) (reason : String) : StoreProg EvidenceRecorder := do
  let admission ← appendV2ConnectionEvent cfg depth r.handle "reconnect_failed"
    (some r.storedSegmentId) (.obj [("error", reason)])
  let r := r.publishAdmission admission
  let files ← sessionFiles r.handle
  let r ← disconnectOperations cfg depth r files.metadata.activeOperations.keys
  failSession cfg r.handle "reconnect_timeout" reason
    (if reason = "reconnect_timeout" then "backend reconnect deadline expired"
    else "backend USB selection is ambiguous")
  pure r

/-! ## Runs -/

/-- The first session and its connection. -/
def startRecorder (profile : DutProfile) (snapshot : BackendSnapshot) :
    StoreProg EvidenceRecorder := do
  let handle ← createV2Session cfg profile snapshot
  let connected ← appendV2ConnectionEvent cfg depth handle "connected" (some 0)
    (.obj [("connection_generation", (0 : ℕ))])
  pure
    { profile := profile
      handle := connected.sessionId
      tail := ⟨connected.sessionId, connected.evidenceSeq + 1⟩
      snapshot := snapshot
      integrity := snapshot.integrity
      sessionDroppedBytes := snapshot.integrity.droppedBytes.getD 0
      connectionStartDroppedBytes := snapshot.integrity.droppedBytes.getD 0 }

end Calls

/-- One call of the recorder. -/
inductive RecorderCall where
  | uart (event : UartReceiveEvent)
  | overflow (event : BufferOverflowEvent)
  | status (event : BufferStatusEvent)
  | action (call : AuditCall)
  | startOperation (operationId : String) (operationType : OperationType) (parameters : Json)
  | completeOperation (operationId : String) (result : OperationResult)
  | requestRelease
  | finishRelease
  | disconnect (error : String) (timeoutS : Json)
  | beginReacquire
  | reacquireFailed
  | openReplacement (snapshot : BackendSnapshot) (manual : Bool)
  | connectReplacement
  | reconnectTimedOut (reason : String)

/-- Run one call.  Events only come while a source is attached. -/
def runRecorderCall (cfg : StoreConfig) (depth : ℕ) (r : EvidenceRecorder) :
    RecorderCall → StoreProg EvidenceRecorder
  | .uart event => if r.receiving then recordUart cfg depth r event else pure r
  | .overflow event => if r.receiving then recordOverflow cfg depth r event else pure r
  | .status event => if r.receiving then recordStatus cfg depth r event else pure r
  | .action call => admitAction cfg depth r call
  | .startOperation operationId operationType parameters =>
    startMonitorOperation cfg depth r operationId operationType parameters
  | .completeOperation operationId result => completeMonitorOperation cfg depth r operationId result
  | .requestRelease => connectionEvent cfg depth r "release_requested"
  | .finishRelease => finishRelease cfg depth r
  | .disconnect error timeoutS => recordDisconnect cfg depth r error timeoutS
  | .beginReacquire => connectionEventIfActive cfg depth r "reacquire_started"
  | .reacquireFailed => connectionEventIfActive cfg depth r "reacquire_failed"
  | .openReplacement snapshot manual => openReplacement cfg depth r snapshot manual
  | .connectReplacement => connectReplacement cfg depth r
  | .reconnectTimedOut reason => reconnectTimedOut cfg depth r reason

/-- Calls that all return. -/
def runRecorder (cfg : StoreConfig) (depth : ℕ) (r : EvidenceRecorder)
    (calls : List RecorderCall) : StoreProg EvidenceRecorder :=
  calls.foldlM (runRecorderCall cfg depth) r
