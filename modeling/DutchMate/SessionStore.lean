/-
# The session store

The sessions on disk with what the service remembers about them, and the parts every
admission is made of: create, publish, terminalize, apply retention, roll over.  No
filesystem step fails here, so an evidence transaction publishes its unit as a whole
or, when its body raises, changes nothing.
-/
import DutchMate.PatternEvidence
import DutchMate.SessionMetadata
import DutchMate.Throwing

open Throwing

/-! ## State -/

/-- The journals single records are appended to. -/
inductive EvidenceStream where
  | operation
  | hardware
  | connection
  deriving DecidableEq, Repr

/-- The files of one session. -/
structure SessionFiles where
  metadata : Metadata
  uartRaw : List UInt8 := []
  uartEvents : List EvidenceRecord := []
  operationEvents : List EvidenceRecord := []
  hardwareEvents : List EvidenceRecord := []
  connectionEvents : List EvidenceRecord := []
  detectedPatterns : List DetectedPattern := []

namespace SessionFiles

/-- The bytes of the six evidence files. -/
def evidenceBytes (f : SessionFiles) : ℕ :=
  f.uartRaw.length + jsonlSize f.uartEvents + jsonlSize f.operationEvents
    + jsonlSize f.hardwareEvents + jsonlSize f.connectionEvents + patternsSize f.detectedPatterns

def append (f : SessionFiles) (stream : EvidenceStream) (record : EvidenceRecord) : SessionFiles :=
  match stream with
  | .operation => { f with operationEvents := f.operationEvents ++ [record] }
  | .hardware => { f with hardwareEvents := f.hardwareEvents ++ [record] }
  | .connection => { f with connectionEvents := f.connectionEvents ++ [record] }

/-- The files with new metadata, its accounting refreshed from their sizes. -/
def withMetadata (f : SessionFiles) (m : Metadata) : SessionFiles :=
  { f with metadata := { m with evidenceBytesWritten := f.evidenceBytes } }

end SessionFiles

/-- What one rollover starts from once it has created its successor. -/
structure Rollover where
  handle : SessionId
  reason : RolloverReason
  predecessor : SessionFiles
  successorSnapshot : Option BackendSnapshot
  successor : SessionId
  created : Option SessionFiles
  clockReadings : ℕ

/-- The directories on disk and the store object's own state.  `removed` keeps what
retention deleted and `rollovers` what every rollover started from; no operation reads
either. -/
structure Store where
  sessions : Dict SessionId SessionFiles := ∅
  removed : Dict SessionId SessionFiles := ∅
  rollovers : List Rollover := []
  v2Profiles : Dict SessionId DutProfile := ∅
  v2Snapshots : Dict SessionId BackendSnapshot := ∅
  v2MonitorRangeLeases : Dict String (List SessionId) := ∅
  v2TailReadLeases : Dict SessionId ℕ := ∅
  clockReadings : ℕ := 0
  idsDrawn : ℕ := 0

/-- How a store is set up.  The clock and the identifier factory are called in turn;
`sessionDetailOk` says whether retention can read the detail of a session. -/
structure StoreConfig where
  clock : ℕ → Timestamp
  idFactory : ℕ → String
  evidenceBudgetBytes : ℕ
  maxCount : Option ℕ
  baselineSessionId : Option SessionId
  sessionDetailOk : SessionFiles → Bool

inductive StoreException where
  | persistence (operation path detail : String)
  | value (message : String)
  | fileExists (path : String)
  | recursion
  deriving DecidableEq, Repr

namespace StoreException

def isPersistence : StoreException → Bool
  | persistence .. => true
  | _ => false

/-- The text of the exception. -/
def text : StoreException → String
  | persistence operation path detail =>
    s!"session persistence {operation} failed for {path}: {detail}"
  | value message => message
  | fileExists path => path
  | recursion => "maximum recursion depth exceeded"

end StoreException

/-- What an admission reports. -/
structure V2EvidenceAdmission where
  sessionId : SessionId
  evidenceSeq : ℕ
  rolledOver : Bool
  nextEvidenceSeq : ℕ
  deriving DecidableEq, Repr

abbrev StoreProg (α : Type) := Prog Store StoreException α

/-- The fields of a record, from the session it goes to. -/
abbrev RecordFields := SessionId → Metadata → ℕ → Except StoreException RecordBody

/-- What an admission changes in the metadata besides the sequence and the accounting. -/
abbrev MetadataMutator := Metadata → V2EvidenceAdmission → Except StoreException Metadata

def valueError {α : Type} (message : String) : Except StoreException α := .error (.value message)

/-- A check of the evidence module, as the store sees it. -/
def ofEvidence {α : Type} : Except String α → Except StoreException α
  | .ok a => .ok a
  | .error message => .error (.value message)

/-! ## Identifiers -/

/-- An exact path-safe session identifier. -/
def validSessionId (sessionId : SessionId) : Bool :=
  sessionId ≠ "" && !sessionId.toList.head?.any isSpace && !sessionId.toList.getLast?.any isSpace
    && sessionId ≠ "." && sessionId ≠ ".." && !sessionId.toList.contains '/'
    && !sessionId.toList.contains '\\'

def validateV2Identifier (value field : String) : StoreProg Unit :=
  if value = "" ∨ 128 < (Utf8.encode value).length then
    raise (.value s!"{field} must contain 1..128 UTF-8 bytes")
  else if value.toList.head?.any isSpace || value.toList.getLast?.any isSpace then
    raise (.value s!"{field} must not contain edge whitespace")
  else if value.toList.any isControl then
    raise (.value s!"{field} must not contain Unicode control characters")
  else pure ()

/-! ## Reading and writing sessions -/

def setSession (id : SessionId) (f : SessionFiles) (st : Store) : Store :=
  { st with sessions := st.sessions.set id f }

def readClock (cfg : StoreConfig) : StoreProg Timestamp := do
  let n ← look Store.clockReadings
  change fun st => { st with clockReadings := n + 1 }
  pure (cfg.clock n)

/-- The directory of a session; without one its files cannot be read. -/
def sessionFiles (id : SessionId) : StoreProg SessionFiles := do
  let files ← look fun st => st.sessions.get? id
  match files with
  | some f => pure f
  | none => raise (.persistence "read" "metadata.json" "No such file or directory")

/-- The files of a session that can take evidence. -/
def requireActive (handle : SessionId) : StoreProg SessionFiles := do
  let files ← sessionFiles handle
  require (files.metadata.state = .active)
    (.value "schema-v2 evidence can only append while active")
  require (files.metadata.sessionId = handle)
    (.value "schema-v2 handle does not match session metadata")
  pure files

/-- One transaction that admits the evidence of `files` with the metadata that describes
it: the accounting is refreshed, and metadata that does not fit rolls everything back. -/
def publish (handle : SessionId) (files : SessionFiles) (metadata : Metadata) : StoreProg Unit := do
  let published := files.withMetadata metadata
  require (published.metadata.size ≤ metadataMaxBytes)
    (.value "session metadata exceeds its fixed size limit")
  change (setSession handle published)

/-! ## Creation -/

def checkSnapshot (profile : DutProfile) (snapshot : BackendSnapshot) : StoreProg Unit := do
  require (snapshot.info.mode = profile.backendMode)
    (.value "v2 backend snapshot mode must match the DUT Profile")
  require snapshot.segment.isSome (.value "v2 session creation requires timestamp provenance")
  require (some snapshot.info.port = profile.currentSerialPort ∨
      profile.selectorStrategy = "usb_identity")
    (.value "v2 backend snapshot port must match the DUT Profile")

def drawId (cfg : StoreConfig) : StoreProg String := do
  let n ← look Store.idsDrawn
  change fun st => { st with idsDrawn := n + 1 }
  pure (cfg.idFactory n)

def newSessionId (startedAt : Timestamp) (suffix : String) : SessionId :=
  String.ofList startedAt.idChars ++ "-" ++ suffix

/-- Create one active session without evidence. -/
def createV2SessionLocked (cfg : StoreConfig) (profile : DutProfile) (snapshot : BackendSnapshot)
    (predecessorSessionId : Option SessionId) : StoreProg SessionId := do
  require (minV2EvidenceBudgetBytes ≤ cfg.evidenceBudgetBytes)
    (.value s!"schema-v2 evidence budget must be at least {minV2EvidenceBudgetBytes} bytes")
  checkSnapshot profile snapshot
  let startedAt ← readClock cfg
  let suffix ← drawId cfg
  let sessionId := newSessionId startedAt suffix
  require (validSessionId sessionId) (.value "session ID must be a non-empty path-safe name")
  let existing ← look fun st => st.sessions.contains sessionId
  require (existing = false) (.fileExists sessionId)
  let metadata :=
    initialV2Metadata sessionId startedAt profile snapshot cfg.evidenceBudgetBytes
      predecessorSessionId
  -- Metadata that does not fit removes the directory again.
  require (metadata.size ≤ metadataMaxBytes)
    (.value "session metadata exceeds its fixed size limit")
  change fun st =>
    { setSession sessionId { metadata := metadata } st with
      v2Profiles := st.v2Profiles.set sessionId profile
      v2Snapshots := st.v2Snapshots.set sessionId snapshot }
  pure sessionId

/-! ## Retention -/

/-- Sessions the ranges of an active operation name. -/
def operationRangeSessions (m : Metadata) : List SessionId :=
  m.activeOperations.values.flatMap fun o => o.ranges.map OperationRange.sessionId

/-- Sessions retention must keep: what active operations cover, where the pending attempts
of an active session were recorded, active sessions, the baseline and held sessions. -/
def protectedSessions (cfg : StoreConfig) (held : List SessionId) (st : Store) : List SessionId :=
  st.sessions.entries.flatMap fun e =>
    let m := e.2.metadata
    operationRangeSessions m
      ++ (if m.state = .active then m.pendingAttempts.values.map PendingAttempt.sessionId else [])
      ++ (if m.state = .active ∨ cfg.baselineSessionId = some e.1 ∨ e.1 ∈ held then [e.1] else [])

/-- Order of deletion: when a session started, then its identifier. -/
def startsBefore (a b : SessionId × SessionFiles) : Bool :=
  let s := String.ofList a.2.metadata.startedAt.chars
  let t := String.ofList b.2.metadata.startedAt.chars
  s < t || (s = t && a.1 ≤ b.1)

/-- The sessions a retention pass deletes. -/
def retentionDeletes (cfg : StoreConfig) (maxCount : ℕ) (held : List SessionId) (st : Store) :
    List (SessionId × SessionFiles) :=
  if st.sessions.entries.all fun e => cfg.sessionDetailOk e.2 then
    let kept := protectedSessions cfg held st
    let eligible := st.sessions.entries.filter fun e => e.1 ∉ kept
    (eligible.insertionSort fun a b => startsBefore a b).take
      (st.sessions.length - maxCount)
  else []

def removeSession (st : Store) (e : SessionId × SessionFiles) : Store :=
  { st with sessions := st.sessions.erase e.1, removed := st.removed.set e.1 e.2 }

def leasedSessions (st : Store) : List SessionId :=
  st.v2MonitorRangeLeases.values.flatten ++ st.v2TailReadLeases.keys

/-- Delete the oldest sessions nothing needs, down to the configured count. -/
def applyRetentionLocked (cfg : StoreConfig) (held : List SessionId) : StoreProg Unit :=
  match cfg.maxCount with
  | none => pure ()
  | some maxCount =>
    change fun st =>
      (retentionDeletes cfg maxCount (held ++ leasedSessions st) st).foldl removeSession st

/-! ## Terminal metadata -/

/-- Close the ranges of the active operations and keep them as interrupted ones. -/
def interruptOperation (endEvidenceSeq : ℕ) (interrupted : Dict String ActiveOperation)
    (e : String × ActiveOperation) : Except StoreException (Dict String ActiveOperation) :=
  if interrupted.contains e.1 then valueError "v2 interrupted operation ID is duplicated"
  else
    match e.2.ranges.getLast? with
    | none => valueError "v2 active operation ranges are malformed"
    | some last =>
      if last.endEvidenceSeqExclusive.isSome then
        valueError "v2 active operation range is already closed"
      else
        .ok (interrupted.set e.1
          { e.2 with
            ranges := e.2.ranges.dropLast ++
              [{ last with endEvidenceSeqExclusive := some endEvidenceSeq }] })

def relinquishV2Ownership (m : Metadata) : Except StoreException Metadata := do
  if m.operationSummary.active ≠ m.activeOperations.length then
    valueError "v2 active operation summary disagrees with ownership"
  else do
    let interrupted ←
      m.activeOperations.sortedEntries.foldlM (interruptOperation m.nextEvidenceSeq)
        m.interruptedOperations
    pure
      { m with
        activeOperations := ∅
        interruptedOperations := interrupted
        operationSummary := { m.operationSummary with active := 0 } }

/-- Close the current segment, unless a disconnect closed it before. -/
def closeSegment (endedAt : Timestamp) (endReason : String) (s : SegmentMetadata) :
    SegmentMetadata :=
  if s.endedAt.isNone then { s with endedAt := some endedAt, endReason := some endReason } else s

def checkSegmentEnd (segments : List SegmentMetadata) : StoreProg Unit :=
  match segments.getLast? with
  | none => raise (.value "native session must contain a current segment")
  | some s =>
    if s.endedAt.isNone && s.endReason.isSome then
      raise (.value "open session segment cannot have an end reason")
    else if s.endedAt.isSome && s.endReason.isNone then
      raise (.value "closed session segment must have an end reason")
    else pure ()

/-- How a session ends. -/
structure Terminal where
  state : SessionState
  endReason : String
  error : Option SessionError

/-- The metadata of a session that ends. -/
def terminalMetadata (t : Terminal) (endedAt : Timestamp) (m : Metadata) : Metadata :=
  { m with
    state := t.state
    endedAt := some endedAt
    endReason := some t.endReason
    error := t.error
    segments := modifyLastSegment (closeSegment endedAt t.endReason) m.segments }

def terminalizeSessionLocked (cfg : StoreConfig) (handle : SessionId) (t : Terminal)
    (mutator : Metadata → Except StoreException Metadata) : StoreProg Unit := do
  let files ← sessionFiles handle
  require (files.metadata.state = .active)
    (.value "session lifecycle transition requires active state")
  let metadata ← lift (mutator files.metadata)
  let metadata ← lift (relinquishV2Ownership metadata)
  let endedAt ← readClock cfg
  checkSegmentEnd metadata.segments
  let terminal := files.withMetadata (terminalMetadata t endedAt metadata)
  require (terminal.metadata.size ≤ metadataMaxBytes)
    (.value "session metadata exceeds its fixed size limit")
  change fun st =>
    { setSession handle terminal st with
      v2Profiles := st.v2Profiles.erase handle
      v2Snapshots := st.v2Snapshots.erase handle }

/-- End a session whose evidence can no longer be written. -/
def terminalizeFault (cfg : StoreConfig) (handle : SessionId) (cause : StoreException) :
    StoreProg Unit :=
  terminalizeSessionLocked cfg handle
    { state := .failed
      endReason := "persistence_error"
      error := some (boundedError "persistence_fault" cause.text) }
    fun m => .ok { m with localRecording := .persistenceFault }

def failActiveV2PersistenceLocked (cfg : StoreConfig) (handle : SessionId)
    (cause : StoreException) : StoreProg Unit := do
  let files ← sessionFiles handle
  if files.metadata.state = .active then terminalizeFault cfg handle cause else pure ()

/-- What `handler` does when a persistence error passes through. -/
def onPersistenceError {α : Type} (m : StoreProg α) (handler : StoreException → StoreProg Unit) :
    StoreProg α :=
  catching m fun e => (if e.isPersistence then handler e else pure ()) >>= fun _ => raise e

/-! ## Admission of one record -/

/-- A record of the next sequence number, its fields taken before the clock is read. -/
def v2Record (cfg : StoreConfig) (handle : SessionId) (metadata : Metadata) (evidenceSeq : ℕ)
    (fields : RecordFields) : StoreProg EvidenceRecord := do
  let body ← lift (fields handle metadata evidenceSeq)
  let recordedAt ← readClock cfg
  pure { evidenceSeq := evidenceSeq, recordedAt := recordedAt, body := body }

def boundedRecord (cfg : StoreConfig) (handle : SessionId) (metadata : Metadata)
    (fields : RecordFields) : StoreProg EvidenceRecord := do
  let record ← v2Record cfg handle metadata metadata.nextEvidenceSeq fields
  require (record.size ≤ maxV2JsonlRecordBytes)
    (.value "schema-v2 primary JSONL record exceeds its size limit")
  pure record

/-- Publish a record that fits. -/
def commitRecord (cfg : StoreConfig) (handle : SessionId) (files : SessionFiles) (stream : EvidenceStream)
    (record : EvidenceRecord) (mutator : MetadataMutator) (rolledOver : Bool) :
    StoreProg V2EvidenceAdmission := do
  let admission : V2EvidenceAdmission :=
    { sessionId := handle
      evidenceSeq := record.evidenceSeq
      rolledOver := rolledOver
      nextEvidenceSeq := record.evidenceSeq + 1 }
  onPersistenceError
    (do
      let metadata ← lift
        (mutator { files.metadata with nextEvidenceSeq := record.evidenceSeq + 1 } admission)
      publish handle (files.append stream record) metadata)
    (failActiveV2PersistenceLocked cfg handle)
  pure admission

/-! ## Rollover -/

/-- An append, as rollover uses it. -/
abbrev AppendRecord :=
  SessionId → EvidenceStream → RecordFields → MetadataMutator → StoreProg V2EvidenceAdmission

/-- Close the last range of an operation. -/
def closeLastRange (endEvidenceSeq : ℕ) : List OperationRange → List OperationRange
  | [] => []
  | [r] => [{ r with endEvidenceSeqExclusive := some endEvidenceSeq }]
  | r :: s :: rest => r :: closeLastRange endEvidenceSeq (s :: rest)

/-- The operations a predecessor hands over, in key order, their ranges closed. -/
def continuedOperations (predecessor : Metadata) : List (String × ActiveOperation) :=
  predecessor.activeOperations.sortedEntries.map fun e =>
    (e.1, { e.2 with ranges := closeLastRange predecessor.nextEvidenceSeq e.2.ranges })

/-- The successor's backend is the given one or the predecessor's. -/
def successorBackend (handle : SessionId) (successorSnapshot : Option BackendSnapshot) :
    StoreProg (DutProfile × BackendSnapshot) := do
  let profile ← look fun st => st.v2Profiles.get? handle
  let snapshot ← look fun st => successorSnapshot <|> st.v2Snapshots.get? handle
  match profile, snapshot with
  | some profile, some snapshot => pure (profile, snapshot)
  | _, _ =>
    raise (.persistence "create v2 successor" handle
      "effective profile or backend snapshot is unavailable")

/-- The segment of a successor whose predecessor's connection was already closed: a journal
rollover is not a physical reopen. -/
def carryClosedSegment (prior s : SegmentMetadata) : SegmentMetadata :=
  { s with
    startedAt := prior.startedAt
    endedAt := prior.endedAt
    endReason := prior.endReason
    startReason := prior.startReason <|> s.startReason }

/-- The closed connection and its still unobserved interval go on in the successor. -/
def carryConnection (predecessor : Metadata) (successorSnapshot : Option BackendSnapshot)
    (m : Metadata) : Metadata :=
  match predecessor.segments.getLast?, m.segments with
  | some prior, first :: rest =>
    if successorSnapshot.isNone && prior.endedAt.isSome then
      { m with segments := carryClosedSegment prior first :: rest, observationGapCount := 1 }
    else m
  | _, _ => m

def transferRolloverOwnership (predecessor : Metadata) (successorSnapshot : Option BackendSnapshot) :
    MetadataMutator := fun m _ =>
  .ok (carryConnection predecessor successorSnapshot
    { m with pendingAttempts := predecessor.pendingAttempts })

def currentV2SegmentId (m : Metadata) : Except StoreException ℕ :=
  match m.currentSegmentId with
  | some id => .ok id
  | none => valueError "v2 session must contain a current segment"

def rolloverFields (handle : SessionId) (reason : RolloverReason) : RecordFields := fun _ m _ => do
  let segmentId ← currentV2SegmentId m
  pure (.rolloverSucceeded segmentId handle reason)

def continuedFields (handle : SessionId) (e : String × ActiveOperation) : RecordFields :=
  fun _ _ _ => .ok (.operationContinued e.1 e.2.operationType handle)

/-- Own one operation of the predecessor. -/
def continueOperation (e : String × ActiveOperation) : MetadataMutator := fun m admission =>
  .ok
    { m with
      activeOperations := m.activeOperations.set e.1
        { e.2 with
          ranges := e.2.ranges ++
            [{ sessionId := admission.sessionId
               startEvidenceSeq := admission.evidenceSeq
               endEvidenceSeqExclusive := none }] }
      operationSummary :=
        { m.operationSummary with active := m.operationSummary.active + 1 } }

/-- Record the rollover in the successor and move operations and attempts into it. -/
def transferOwnership (append : AppendRecord) (handle successor : SessionId)
    (reason : RolloverReason) (predecessor : Metadata)
    (successorSnapshot : Option BackendSnapshot) : StoreProg SessionId := do
  let admission ← append successor .connection (rolloverFields handle reason)
    (transferRolloverOwnership predecessor successorSnapshot)
  (continuedOperations predecessor).foldlM
    (fun successor e => do
      let admission ← append successor .operation (continuedFields handle e) (continueOperation e)
      pure admission.sessionId)
    admission.sessionId

/-- The predecessor's side of a rollover. -/
def linkSuccessor (successor : SessionId) (m : Metadata) : Except StoreException Metadata :=
  if m.operationSummary.active ≠ m.activeOperations.length then
    valueError "v2 active operation summary disagrees with ownership"
  else
    .ok
      { m with
        successorSessionId := some successor
        operationSummary := { m.operationSummary with active := 0 }
        activeOperations := ∅
        pendingAttempts := ∅ }

/-- Note what the rollover starts from. -/
def noteRollover (handle : SessionId) (reason : RolloverReason) (predecessor : SessionFiles)
    (successorSnapshot : Option BackendSnapshot) (successor : SessionId) : StoreProg Unit :=
  change fun st =>
    { st with
      rollovers := st.rollovers ++
        [{ handle := handle
           reason := reason
           predecessor := predecessor
           successorSnapshot := successorSnapshot
           successor := successor
           created := st.sessions.get? successor
           clockReadings := st.clockReadings }] }

def rolloverV2Locked (cfg : StoreConfig) (append : AppendRecord) (handle : SessionId)
    (reason : RolloverReason) (successorSnapshot : Option BackendSnapshot) :
    StoreProg SessionId := do
  let files ← requireActive handle
  let (profile, snapshot) ← successorBackend handle successorSnapshot
  let successor ← onPersistenceError (createV2SessionLocked cfg profile snapshot (some handle))
    (terminalizeFault cfg handle)
  noteRollover handle reason files successorSnapshot successor
  let successor ← onPersistenceError
    (transferOwnership append handle successor reason files.metadata successorSnapshot)
    (failActiveV2PersistenceLocked cfg handle)
  terminalizeSessionLocked cfg handle
    { state := .completed, endReason := reason.name, error := none } (linkSuccessor successor)
  applyRetentionLocked cfg [successor]
  pure successor

/-- Append one record, rolling over first when it does not fit; `depth` bounds how deeply
rollovers may nest. -/
def appendV2RecordLocked (cfg : StoreConfig) : ℕ → AppendRecord
  | 0, _, _, _, _ => raise .recursion
  | depth + 1, handle, stream, fields, mutator => do
    let files ← requireActive handle
    let record ← boundedRecord cfg handle files.metadata fields
    if files.metadata.unitFits record.size then
      commitRecord cfg handle files stream record mutator false
    else do
      let handle ← rolloverV2Locked cfg (appendV2RecordLocked cfg depth) handle .size none
      let files ← requireActive handle
      let record ← boundedRecord cfg handle files.metadata fields
      require (files.metadata.unitFits record.size)
        (.persistence "preflight v2 evidence" handle
          "one schema-valid record exceeds the session budget")
      commitRecord cfg handle files stream record mutator true
