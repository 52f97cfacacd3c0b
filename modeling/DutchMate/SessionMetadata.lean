/-
# Session metadata

The metadata document of a schema-v2 session, with the JSON it is stored as.  A document
of more than `METADATA_MAX_BYTES` is never written.  A frozen set of capabilities is the
list of its members in order.
-/
import DutchMate.Dict
import DutchMate.EvidenceRecord

def metadataMaxBytes : ℕ := 262144
def maxSessionSegments : ℕ := 32
def minV2EvidenceBudgetBytes : ℕ := 1048576
def maxV2JsonlRecordBytes : ℕ := 65536
def maxV2DetectedPatternsPerUartEvent : ℕ := 12

/-! ## Backends and profiles -/

inductive BackendMode where
  | basic
  | enhanced
  deriving DecidableEq, Repr

def BackendMode.name : BackendMode → String
  | .basic => "basic"
  | .enhanced => "enhanced"

structure BackendInfo where
  mode : BackendMode
  port : String
  device : Option String
  firmware : Option String
  capabilities : List String
  deriving DecidableEq, Repr

/-- Timestamp provenance of one connection segment. -/
structure SegmentTimestamp where
  source : String
  clock : String
  sourceOriginUs : ℤ
  observationPoint : String
  eventGranularity : String
  deriving DecidableEq, Repr

structure SegmentContext where
  segmentId : ℕ
  timestamp : SegmentTimestamp
  deriving DecidableEq, Repr

inductive LossStatus where
  | noneReported
  | lossReported
  | notObservable
  deriving DecidableEq, Repr

def LossStatus.name : LossStatus → String
  | .noneReported => "none_reported"
  | .lossReported => "loss_reported"
  | .notObservable => "not_observable"

structure UartIntegrity where
  lossStatus : LossStatus
  observationScope : Option String
  droppedBytes : Option ℕ
  deriving DecidableEq, Repr

def debugHelperRxBuffer : String := "debug_helper_rx_buffer"

/-- Backend identity, effective policy, timing and integrity of one segment. -/
structure BackendSnapshot where
  info : BackendInfo
  capabilities : List String
  txPolicyEnabled : Bool
  segment : Option SegmentContext
  integrity : UartIntegrity
  serialProvenance : Option Json

/-- The parts of a DUT profile the journal reads; `projection` is the profile's own JSON. -/
structure DutProfile where
  name : Option String
  digestSha256 : String
  projection : Json
  backendMode : BackendMode
  currentSerialPort : Option String
  reconnectTimeoutS : String
  topology : String
  selectorStrategy : String
  selectorExactPath : Option String

/-! ## The document -/

inductive SessionState where
  | active
  | completed
  | failed
  | abandoned
  deriving DecidableEq, Repr

def SessionState.name : SessionState → String
  | .active => "active"
  | .completed => "completed"
  | .failed => "failed"
  | .abandoned => "abandoned"

inductive LocalRecording where
  | complete
  | persistenceFault
  deriving DecidableEq, Repr

def LocalRecording.name : LocalRecording → String
  | .complete => "complete"
  | .persistenceFault => "persistence_fault"

/-- One connection segment of a session. -/
structure SegmentMetadata where
  segmentId : ℕ
  startedAt : Timestamp
  endedAt : Option Timestamp
  endReason : Option String
  startReason : Option String
  backend : BackendInfo
  capabilities : List String
  txPolicyEnabled : Bool
  timestamp : Option SegmentTimestamp
  serial : Option Json
  firstTimestampUs : Option ℕ
  lastTimestampUs : Option ℕ

/-- A bounded operation with the evidence it covers so far. -/
structure ActiveOperation where
  operationType : OperationType
  ranges : List OperationRange
  deriving DecidableEq, Repr

/-- Where an attempt without a result was recorded. -/
structure PendingAttempt where
  sessionId : SessionId
  evidenceSeq : ℕ
  deriving DecidableEq, Repr

structure OperationSummary where
  started : ℕ := 0
  completed : ℕ := 0
  failed : ℕ := 0
  active : ℕ := 0
  deriving DecidableEq, Repr

/-- An attempt is pending under its type and identifier. -/
abbrev AttemptKey := AttemptType × String

structure Metadata where
  sessionId : SessionId
  startedAt : Timestamp
  state : SessionState
  endedAt : Option Timestamp
  endReason : Option String
  error : Option SessionError
  profile : DutProfile
  backendInfo : BackendInfo
  evidenceBudgetBytes : ℕ
  evidenceBytesWritten : ℕ
  backendIntegrity : UartIntegrity
  localRecording : LocalRecording
  oversizedLineCount : ℕ
  observationGapCount : ℕ
  operationSummary : OperationSummary
  activeOperations : Dict String ActiveOperation
  interruptedOperations : Dict String ActiveOperation
  pendingAttempts : Dict AttemptKey PendingAttempt
  nextEvidenceSeq : ℕ
  segments : List SegmentMetadata
  predecessorSessionId : Option SessionId
  successorSessionId : Option SessionId

/-! ## The stored JSON -/

def capabilityJson (capabilities : List String) : Json := .arr (capabilities.map Json.str)

def SegmentTimestamp.toJson (t : SegmentTimestamp) : Json :=
  .obj [("clock", t.clock), ("event_granularity", t.eventGranularity),
    ("observation_point", t.observationPoint), ("origin", "segment_start"), ("source", t.source),
    ("source_origin_us", .num t.sourceOriginUs), ("unit", "us")]

def UartIntegrity.toJson (i : UartIntegrity) : Json :=
  .obj [("dropped_bytes", Json.opt (fun n => (n : ℕ)) i.droppedBytes),
    ("loss_status", i.lossStatus.name),
    ("observation_scope", Json.opt (fun s => (s : String)) i.observationScope)]

/-- A field that is left out when it has no value. -/
def optionalField (key : String) : Option Json → List (String × Json)
  | none => []
  | some value => [(key, value)]

def SegmentMetadata.toJson (s : SegmentMetadata) : Json :=
  .obj ([("backend",
      Json.obj [("backend_capabilities", capabilityJson s.backend.capabilities),
        ("capabilities", capabilityJson s.capabilities),
        ("capability_policy", .obj [("uart_send", .obj [("source", "hardware.uart.tx_enabled"),
          ("tx_policy_enabled", s.txPolicyEnabled)])]),
        ("device", Json.opt (fun s => (s : String)) s.backend.device),
        ("firmware", Json.opt (fun s => (s : String)) s.backend.firmware),
        ("mode", s.backend.mode.name), ("port", s.backend.port)]),
    ("end_reason", Json.opt (fun s => (s : String)) s.endReason),
    ("ended_at", Json.opt Timestamp.toJson s.endedAt),
    ("first_timestamp_us", Json.opt (fun n => (n : ℕ)) s.firstTimestampUs),
    ("last_timestamp_us", Json.opt (fun n => (n : ℕ)) s.lastTimestampUs),
    ("segment_id", s.segmentId)] ++ optionalField "serial" s.serial ++
    optionalField "start_reason" (s.startReason.map Json.str) ++
    [("started_at", s.startedAt.toJson),
      ("timestamp", Json.opt SegmentTimestamp.toJson s.timestamp)])

def ActiveOperation.toJson (o : ActiveOperation) : Json :=
  .obj [("operation_type", o.operationType.name),
    ("ranges", .arr (o.ranges.map OperationRange.toJson))]

def operationsJson (operations : Dict String ActiveOperation) : Json :=
  .obj (operations.sortedEntries.map fun e => (e.1, e.2.toJson))

/-- The key of an attempt in the document. -/
def attemptKey (key : AttemptKey) : String := key.1.name ++ ":" ++ key.2

def pendingAttemptsJson (pending : Dict AttemptKey PendingAttempt) : Json :=
  .obj ((pending.entries.insertionSort fun a b => attemptKey a.1 ≤ attemptKey b.1).map fun e =>
    (attemptKey e.1,
      Json.obj [("attempt_id", e.1.2), ("attempt_type", e.1.1.name),
        ("evidence_seq", e.2.evidenceSeq), ("session_id", e.2.sessionId)]))

namespace Metadata

/-- The stored object, keys in order. -/
def toJson (m : Metadata) : Json :=
  .obj [("active_operations", operationsJson m.activeOperations),
    ("backend_identity",
      .obj [("device", Json.opt (fun s => (s : String)) m.backendInfo.device),
        ("firmware", Json.opt (fun s => (s : String)) m.backendInfo.firmware),
        ("port", m.backendInfo.port)]),
    ("backend_mode", m.profile.backendMode.name),
    ("continuity", .obj [("observation_gap_count", m.observationGapCount)]),
    ("effective_profile", m.profile.projection),
    ("end_reason", Json.opt (fun s => (s : String)) m.endReason),
    ("ended_at", Json.opt Timestamp.toJson m.endedAt),
    ("error", Json.opt SessionError.toJson m.error),
    ("evidence_quality",
      .obj [("backend_integrity", m.backendIntegrity.toJson),
        ("local_recording", m.localRecording.name)]),
    ("interrupted_operations", operationsJson m.interruptedOperations),
    ("line_processing",
      .obj [("max_line_bytes", maxUartLineBytes), ("oversized_line_count", m.oversizedLineCount),
        ("status", if m.oversizedLineCount = 0 then "complete" else "limit_exceeded")]),
    ("next_evidence_seq", m.nextEvidenceSeq),
    ("operation_summary",
      .obj [("active", m.operationSummary.active), ("completed", m.operationSummary.completed),
        ("failed", m.operationSummary.failed), ("started", m.operationSummary.started)]),
    ("pending_attempts", pendingAttemptsJson m.pendingAttempts),
    ("predecessor_session_id", Json.opt (fun s => (s : String)) m.predecessorSessionId),
    ("profile_digest_sha256", m.profile.digestSha256),
    ("profile_name", Json.opt (fun s => (s : String)) m.profile.name),
    ("reconnect_policy",
      .obj [("selector",
          .obj [("exact_path", Json.opt (fun s => (s : String)) m.profile.selectorExactPath),
            ("strategy", m.profile.selectorStrategy)]),
        ("timeout_s", .float m.profile.reconnectTimeoutS), ("topology", m.profile.topology)]),
    ("schema_version", .num 2),
    ("segments", .arr (m.segments.map SegmentMetadata.toJson)),
    ("session_id", m.sessionId), ("started_at", m.startedAt.toJson), ("state", m.state.name),
    ("storage",
      .obj [("evidence_budget_bytes", m.evidenceBudgetBytes),
        ("evidence_bytes_written", m.evidenceBytesWritten),
        ("metadata_max_bytes", metadataMaxBytes)]),
    ("successor_session_id", Json.opt (fun s => (s : String)) m.successorSessionId)]

/-- The bytes of the document, its line end included. -/
def size (m : Metadata) : ℕ := m.toJson.size + 1

/-- The identifier of the current segment. -/
def currentSegmentId (m : Metadata) : Option ℕ := m.segments.getLast?.map SegmentMetadata.segmentId

/-- Whether a unit of this many bytes stays within the evidence budget. -/
def unitFits (m : Metadata) (unitBytes : ℕ) : Bool :=
  m.evidenceBytesWritten + unitBytes ≤ m.evidenceBudgetBytes

end Metadata

/-! ## Construction and updates -/

def backendSegment (snapshot : BackendSnapshot) (segmentId : ℕ) (startedAt : Timestamp) :
    SegmentMetadata where
  segmentId := segmentId
  startedAt := startedAt
  endedAt := none
  endReason := none
  startReason := none
  backend := snapshot.info
  capabilities := snapshot.capabilities
  txPolicyEnabled := snapshot.txPolicyEnabled
  timestamp := snapshot.segment.map SegmentContext.timestamp
  serial := snapshot.serialProvenance
  firstTimestampUs := none
  lastTimestampUs := none

/-- The metadata of a session that holds no evidence yet: the empty patterns document
takes three bytes. -/
def initialV2Metadata (sessionId : SessionId) (startedAt : Timestamp) (profile : DutProfile)
    (snapshot : BackendSnapshot) (evidenceBudgetBytes : ℕ)
    (predecessorSessionId : Option SessionId) : Metadata where
  sessionId := sessionId
  startedAt := startedAt
  state := .active
  endedAt := none
  endReason := none
  error := none
  profile := profile
  backendInfo := snapshot.info
  evidenceBudgetBytes := evidenceBudgetBytes
  evidenceBytesWritten := 3
  backendIntegrity := snapshot.integrity
  localRecording := .complete
  oversizedLineCount := 0
  observationGapCount := 0
  operationSummary := {}
  activeOperations := ∅
  interruptedOperations := ∅
  pendingAttempts := ∅
  nextEvidenceSeq := 0
  segments := [backendSegment snapshot 0 startedAt]
  predecessorSessionId := predecessorSessionId
  successorSessionId := none

/-- Change the last segment. -/
def modifyLastSegment (f : SegmentMetadata → SegmentMetadata) :
    List SegmentMetadata → List SegmentMetadata
  | [] => []
  | [s] => [f s]
  | s :: t :: rest => s :: modifyLastSegment f (t :: rest)

/-- Change the first segment that has the identifier. -/
def modifySegment (segmentId : ℕ) (f : SegmentMetadata → SegmentMetadata) :
    List SegmentMetadata → List SegmentMetadata
  | [] => []
  | s :: rest => if s.segmentId = segmentId then f s :: rest else s :: modifySegment segmentId f rest

theorem map_segmentId_modifyLastSegment {f : SegmentMetadata → SegmentMetadata}
    (hf : ∀ s, (f s).segmentId = s.segmentId) (segments : List SegmentMetadata) :
    (modifyLastSegment f segments).map SegmentMetadata.segmentId
      = segments.map SegmentMetadata.segmentId := by
  induction segments using modifyLastSegment.induct with
  | case1 => rfl
  | case2 s => simp [modifyLastSegment, hf]
  | case3 s t rest ih =>
    rw [modifyLastSegment, List.map_cons, ih]
    rfl

theorem map_segmentId_modifySegment {f : SegmentMetadata → SegmentMetadata}
    (hf : ∀ s, (f s).segmentId = s.segmentId) (segmentId : ℕ) (segments : List SegmentMetadata) :
    (modifySegment segmentId f segments).map SegmentMetadata.segmentId
      = segments.map SegmentMetadata.segmentId := by
  induction segments with
  | nil => rfl
  | cons s rest ih =>
    rw [modifySegment]
    split
    · rw [List.map_cons, hf, List.map_cons]
    · rw [List.map_cons, ih, List.map_cons]

namespace Metadata

def recordLineProcessing (m : Metadata) (newlyOversizedLineCount : ℕ) : Metadata :=
  { m with oversizedLineCount := m.oversizedLineCount + newlyOversizedLineCount }

/-- The first timestamp stays, the last one follows; the segment is one of the session's. -/
def recordSegmentTimestamp (m : Metadata) (segmentId timestampUs : ℕ) : Metadata :=
  { m with
    segments := modifySegment segmentId
      (fun s =>
        { s with
          firstTimestampUs := s.firstTimestampUs <|> some timestampUs
          lastTimestampUs := some timestampUs })
      m.segments }

theorem map_segmentId_recordSegmentTimestamp (m : Metadata) (segmentId timestampUs : ℕ) :
    (m.recordSegmentTimestamp segmentId timestampUs).segments.map SegmentMetadata.segmentId
      = m.segments.map SegmentMetadata.segmentId :=
  map_segmentId_modifySegment (by intro s; rfl) segmentId m.segments

end Metadata

/-! ## Diagnostics -/

def maxDiagnosticBytes : ℕ := 1024

/-- The longest prefix of the characters that takes at most `n` bytes. -/
def takeBytes : ℕ → List Char → List Char
  | _, [] => []
  | n, c :: cs => if c.utf8Size ≤ n then c :: takeBytes (n - c.utf8Size) cs else []

/-- A character as a diagnostic shows it. -/
def projectCharacter (c : Char) : Char :=
  if c = '\r' ∨ c = '\n' ∨ c = '\t' then ' '
  else if isControl c then Char.ofNat 0xFFFD
  else c

/-- A sanitized, non-empty diagnostic and whether it was truncated. -/
def projectDiagnosticDetail (fallbackCode detail : String) : String × Bool :=
  let cleaned := detail.toList.map projectCharacter
  let cleaned :=
    if cleaned = [] then fallbackCode.toList.map fun c => if c = '_' then ' ' else c else cleaned
  let truncated := maxDiagnosticBytes < (cleaned.map Char.utf8Size).sum
  (String.ofList (if truncated then takeBytes maxDiagnosticBytes cleaned else cleaned), truncated)

/-- An error with a bounded detail. -/
def boundedError (code detail : String) : SessionError :=
  let (cleaned, truncated) := projectDiagnosticDetail code detail
  { code := code, detail := cleaned, detailTruncated := truncated }
