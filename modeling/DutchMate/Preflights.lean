/-
# Preflights

Before it admits evidence the recorder asks the store whether the record would roll the
session over, so that line state can be flushed first.  The question changes nothing, and
the append that follows rolls over exactly when the answer was yes.
-/
import DutchMate.JournalRun
import DutchMate.RelatedRuns

open Throwing

/-! ## Action and telemetry preflights -/

/-- A dictionary built by setting its entries in turn. -/
def Dict.ofEntries (entries : List (String × Json)) : Dict String Json :=
  entries.foldl (fun d e => d.set e.1 e.2) ∅

/-- The record as the preflight builds it: its own fields, then those of the caller. -/
def v2RecordObject (evidenceSeq : ℕ) (recordType : String) (recordedAt : Timestamp)
    (fields : Dict String Json) : Json :=
  .obj (Dict.ofEntries
    ([("evidence_seq", (evidenceSeq : Json)), ("type", (recordType : Json)),
      ("recorded_at", recordedAt.toJson)] ++ fields.entries)).entries

/-- The four records about physical attempts. -/
inductive ActionRecord where
  | attempt (type : AttemptType)
  | result (type : AttemptType)
  deriving DecidableEq, Repr

def ActionRecord.name : ActionRecord → String
  | .attempt .uartTx => "uart_tx_attempt"
  | .attempt .control => "control_attempt"
  | .result .uartTx => "uart_tx_result"
  | .result .control => "control_result"

/-- The caller's fields with those the session adds. -/
def actionFields (recordType : ActionRecord) (fields : Dict String Json) (m : Metadata) :
    Except StoreException (Dict String Json) :=
  match recordType with
  | .attempt _ => do
    let segmentId ← currentV2SegmentId m
    pure (fields.set "segment_id" segmentId)
  | .result type =>
    match fields.get? "attempt_id" with
    | some (.str attemptId) =>
      match m.pendingAttempts.get? (type, attemptId) with
      | none => valueError "action result requires an unresolved attempt"
      | some pending =>
        .ok ((fields.set "attempt_session_id" pending.sessionId).set "attempt_evidence_seq"
          pending.evidenceSeq)
    | _ => valueError "action attempt_id must be a string"

section Calls

variable (cfg : StoreConfig)

def v2ActionWillRollover (handle : SessionId) (recordType : ActionRecord)
    (fields : Dict String Json) : StoreProg Bool := do
  let files ← requireActive handle
  let projected ← lift (actionFields recordType fields files.metadata)
  let recordedAt ← readClock cfg
  let size :=
    (v2RecordObject files.metadata.nextEvidenceSeq recordType.name recordedAt projected).size + 1
  require (size ≤ maxV2JsonlRecordBytes)
    (.value "schema-v2 primary JSONL record exceeds its size limit")
  pure (!files.metadata.unitFits size)

/-- Whether a telemetry record requires a successor session; its size is not checked here. -/
def v2TelemetryWillRollover (handle : SessionId) (segmentId : ℕ) (body : RecordBody) :
    StoreProg Bool := do
  let files ← requireActive handle
  requireCurrentSegment files segmentId "v2 telemetry must reference the current segment"
  let record ← v2Record cfg handle files.metadata files.metadata.nextEvidenceSeq
    fun _ _ _ => .ok body
  pure (!files.metadata.unitFits record.size)

def BufferOverflowEvent.body (event : BufferOverflowEvent) : RecordBody :=
  .bufferOverflow event.segmentId event.timestampUs event.channel event.droppedBytes

def BufferStatusEvent.body (event : BufferStatusEvent) : RecordBody :=
  .bufferStatus event.segmentId event.timestampUs event.sizeBytes event.usedBytes
    event.highWaterBytes event.droppedBytesTotal event.overflowEvents

end Calls

/-! ## Calls with a preflight -/

/-- The fields the recorder asks about for each kind of action. -/
def uartAttemptFields (attemptId : String) (operationId : Option String) (data : List UInt8)
    (transformation : Json) : Dict String Json :=
  .ofEntries
    [("attempt_id", attemptId), ("operation_id", Json.opt (fun s => (s : String)) operationId),
      ("data_b64", String.ofList (Base64.encode data)), ("byte_length", data.length),
      ("transformation", transformation)]

def uartResultFields (attemptId status : String) (acceptedBytes : Option ℕ) : Dict String Json :=
  .ofEntries
    [("attempt_id", attemptId), ("status", status),
      ("accepted_bytes", Json.opt (fun n => (n : ℕ)) acceptedBytes)]

def controlAttemptFields (attemptId : String) (operationId : Option String)
    (role provider : String) (parameters : Json) : Dict String Json :=
  .ofEntries
    [("attempt_id", attemptId), ("operation_id", Json.opt (fun s => (s : String)) operationId),
      ("role", role), ("provider", provider), ("parameters", parameters)]

def controlResultFields (attemptId status : String) (deviceTimestampUs : Option ℤ) :
    Dict String Json :=
  .ofEntries
    [("attempt_id", attemptId), ("status", status),
      ("device_timestamp_us", Json.opt Json.num deviceTimestampUs)]

/-- An admission the recorder preflights. -/
inductive PreflightCall where
  | uartReceive (event : UartReceiveEvent) (captureResult : UartCaptureResult)
      (rolloverCaptureResult : Option UartCaptureResult)
  | bufferOverflow (event : BufferOverflowEvent)
      (sessionDroppedBytes rolloverSessionDroppedBytes : Option ℕ)
  | bufferStatus (event : BufferStatusEvent) (integrity : StatusIntegrity)
  | startOperation (operationId : String) (operationType : OperationType) (parameters : Json)
  | completeOperation (operationId : String) (result : OperationResult)
  | uartTxAttempt (attemptId : String) (data : List UInt8) (operationId : Option String)
      (transformation : Json)
  | uartTxResult (attemptId status : String) (acceptedBytes : Option ℕ)
  | controlAttempt (attemptId role provider : String) (parameters : Json)
      (operationId : Option String)
  | controlResult (attemptId status : String) (deviceTimestampUs : Option ℤ)

namespace PreflightCall

/-- The question. -/
def preflight (cfg : StoreConfig) (handle : SessionId) : PreflightCall → StoreProg Bool
  | uartReceive event captureResult _ => v2UartReceiveWillRollover cfg handle event captureResult
  | bufferOverflow event _ _ => v2TelemetryWillRollover cfg handle event.segmentId event.body
  | bufferStatus event _ => v2TelemetryWillRollover cfg handle event.segmentId event.body
  | startOperation operationId operationType parameters =>
    v2OperationStartWillRollover cfg handle operationId operationType parameters
  | completeOperation operationId result =>
    v2OperationTerminalWillRollover cfg handle operationId result
  | uartTxAttempt attemptId data operationId transformation =>
    v2ActionWillRollover cfg handle (.attempt .uartTx)
      (uartAttemptFields attemptId operationId data transformation)
  | uartTxResult attemptId status acceptedBytes =>
    v2ActionWillRollover cfg handle (.result .uartTx)
      (uartResultFields attemptId status acceptedBytes)
  | controlAttempt attemptId role provider parameters operationId =>
    v2ActionWillRollover cfg handle (.attempt .control)
      (controlAttemptFields attemptId operationId role provider parameters)
  | controlResult attemptId status deviceTimestampUs =>
    v2ActionWillRollover cfg handle (.result .control)
      (controlResultFields attemptId status deviceTimestampUs)

/-- The append the question is about. -/
def append (cfg : StoreConfig) (depth : ℕ) (handle : SessionId) :
    PreflightCall → StoreProg V2EvidenceAdmission
  | uartReceive event captureResult rolloverCaptureResult =>
    appendV2UartReceive cfg depth handle
      { event := event
        captureResult := some captureResult
        rolloverCaptureResult := rolloverCaptureResult }
  | bufferOverflow event sessionDroppedBytes rolloverSessionDroppedBytes =>
    appendV2BufferOverflow cfg depth handle event sessionDroppedBytes rolloverSessionDroppedBytes
  | bufferStatus event integrity => appendV2BufferStatus cfg depth handle event integrity
  | startOperation operationId operationType parameters =>
    startV2Operation cfg depth handle operationId operationType parameters
  | completeOperation operationId result => completeV2Operation cfg depth handle operationId result
  | uartTxAttempt attemptId data operationId transformation =>
    appendV2UartTxAttempt cfg depth handle attemptId data operationId transformation
  | uartTxResult attemptId status acceptedBytes =>
    appendV2UartTxResult cfg depth handle attemptId status acceptedBytes
  | controlAttempt attemptId role provider parameters operationId =>
    appendV2ControlAttempt cfg depth handle attemptId role provider parameters operationId
  | controlResult attemptId status deviceTimestampUs =>
    appendV2ControlResult cfg depth handle attemptId status deviceTimestampUs

end PreflightCall

/-! ## Sizes -/

/-- Setting distinct keys lists the entries as given. -/
theorem Dict.entries_ofEntries {entries : List (String × Json)}
    (h : (entries.map Prod.fst).Nodup) : (Dict.ofEntries entries).entries = entries := by
  have hfold : ∀ (d : Dict String Json), (∀ e ∈ entries, e.1 ∉ d.keys) →
      (entries.foldl (fun d e => d.set e.1 e.2) d).entries = d.entries ++ entries := by
    induction entries with
    | nil => simp
    | cons e entries ih =>
      intro d hd
      rw [List.map_cons, List.nodup_cons] at h
      have hnew := hd e List.mem_cons_self
      rw [List.foldl_cons, ih h.2, Dict.entries_set_of_notMem _ _ hnew, List.append_assoc]
      · rfl
      · intro e' he'
        rw [Dict.keys, Dict.entries_set_of_notMem _ _ hnew, List.map_append, List.mem_append]
        rintro (hmem | hmem)
        · exact hd e' (List.mem_cons_of_mem _ he') hmem
        · rw [List.map_singleton, List.mem_singleton] at hmem
          exact h.1 (hmem ▸ List.mem_map_of_mem (f := Prod.fst) he')
  have := hfold ∅ (by simp)
  simpa [Dict.ofEntries] using this

/-- Setting one more key. -/
theorem Dict.set_ofEntries (entries : List (String × Json)) (k : String) (v : Json) :
    (Dict.ofEntries entries).set k v = Dict.ofEntries (entries ++ [(k, v)]) := by
  rw [Dict.ofEntries, Dict.ofEntries, List.foldl_append]
  rfl

/-- The order of the fields does not matter for the size of an object. -/
theorem Json.size_obj_perm {fs gs : List (String × Json)} (h : fs.Perm gs) :
    size (.obj fs) = size (.obj gs) := by
  rw [size_obj, size_obj, (h.map _).sum_eq, h.length_eq]

/-- The moment of a record does not change its size. -/
theorem EvidenceRecord.size_recordedAt (evidenceSeq : ℕ) (s t : Timestamp) (body : RecordBody) :
    (⟨evidenceSeq, s, body⟩ : EvidenceRecord).size
      = (⟨evidenceSeq, t, body⟩ : EvidenceRecord).size := by
  cases body <;>
    simp only [EvidenceRecord.size, EvidenceRecord.serialized, EvidenceRecord.toJson,
      List.length_append, Json.length_bytes, Json.size_obj, List.map_cons, size_timestamp,
      List.length_cons]

/-- An action record and the object its preflight sizes have the same fields. -/
theorem size_v2RecordObject {evidenceSeq : ℕ} {recordedAt : Timestamp} {body : RecordBody}
    {projected : Dict String Json}
    (hjson : (⟨evidenceSeq, recordedAt, body⟩ : EvidenceRecord).toJson =
      .obj ([("evidence_seq", (evidenceSeq : Json)), ("type", (body.type : Json)),
        ("recorded_at", recordedAt.toJson)] ++ body.fields))
    (hfields : projected.entries.Perm body.fields)
    (hkeys : (["evidence_seq", "type", "recorded_at"] ++ body.fields.map Prod.fst).Nodup) :
    (v2RecordObject evidenceSeq body.type recordedAt projected).size + 1
      = (⟨evidenceSeq, recordedAt, body⟩ : EvidenceRecord).size := by
  have hperm : ([("evidence_seq", (evidenceSeq : Json)), ("type", (body.type : Json)),
      ("recorded_at", recordedAt.toJson)] ++ projected.entries).Perm
      ([("evidence_seq", (evidenceSeq : Json)), ("type", (body.type : Json)),
        ("recorded_at", recordedAt.toJson)] ++ body.fields) := hfields.append_left _
  have hnodup := (hperm.map Prod.fst).nodup_iff.mpr hkeys
  rw [v2RecordObject, Dict.entries_ofEntries hnodup, EvidenceRecord.size,
    EvidenceRecord.serialized, hjson, List.length_append, Json.length_bytes,
    Json.size_obj_perm hperm]
  rfl

/-- The fields of an action, once the session has added its own, are those of its record. -/
structure ActionBody (recordType : ActionRecord) (projected : Dict String Json)
    (body : RecordBody) : Prop where
  name : body.type = recordType.name
  fields : projected.entries.Perm body.fields
  keys : (["evidence_seq", "type", "recorded_at"] ++ body.fields.map Prod.fst).Nodup
  json : ∀ evidenceSeq recordedAt, (⟨evidenceSeq, recordedAt, body⟩ : EvidenceRecord).toJson =
    .obj ([("evidence_seq", (evidenceSeq : Json)), ("type", (body.type : Json)),
      ("recorded_at", recordedAt.toJson)] ++ body.fields)

theorem ActionBody.size {recordType : ActionRecord} {projected : Dict String Json}
    {body : RecordBody} (h : ActionBody recordType projected body) (evidenceSeq : ℕ)
    (s t : Timestamp) :
    (v2RecordObject evidenceSeq recordType.name s projected).size + 1
      = (⟨evidenceSeq, t, body⟩ : EvidenceRecord).size := by
  rw [← h.name, size_v2RecordObject (h.json evidenceSeq s) h.fields h.keys]
  exact EvidenceRecord.size_recordedAt evidenceSeq s t body

theorem actionBody_uartTxAttempt (attemptId : String) (operationId : Option String)
    (data : List UInt8) (transformation : Json) (segmentId : ℕ) :
    ActionBody (.attempt .uartTx)
      ((uartAttemptFields attemptId operationId data transformation).set "segment_id" segmentId)
      (.uartTxAttempt attemptId operationId (String.ofList (Base64.encode data)) data.length
        transformation segmentId) where
  name := rfl
  fields := by
    rw [uartAttemptFields, Dict.set_ofEntries, Dict.entries_ofEntries (by simp)]
    rfl
  keys := by simp [RecordBody.fields]
  json _ _ := rfl

theorem actionBody_controlAttempt (attemptId : String) (operationId : Option String)
    (role provider : String) (parameters : Json) (segmentId : ℕ) :
    ActionBody (.attempt .control)
      ((controlAttemptFields attemptId operationId role provider parameters).set "segment_id"
        segmentId)
      (.controlAttempt attemptId operationId role provider parameters segmentId) where
  name := rfl
  fields := by
    rw [controlAttemptFields, Dict.set_ofEntries, Dict.entries_ofEntries (by simp)]
    rfl
  keys := by simp [RecordBody.fields]
  json _ _ := rfl

/-- The session's two fields stand last in the object and second in the record. -/
theorem perm_resultFields (a b c d e : String × Json) :
    [a, b, c, d, e].Perm [a, d, e, b, c] :=
  .cons a (@List.perm_append_comm _ [b, c] [d, e])

theorem actionBody_uartTxResult (attemptId status : String) (acceptedBytes : Option ℕ)
    (sessionId : SessionId) (evidenceSeq : ℕ) :
    ActionBody (.result .uartTx)
      (((uartResultFields attemptId status acceptedBytes).set "attempt_session_id" sessionId).set
        "attempt_evidence_seq" evidenceSeq)
      (.uartTxResult attemptId sessionId evidenceSeq status acceptedBytes) where
  name := rfl
  fields := by
    rw [uartResultFields, Dict.set_ofEntries, Dict.set_ofEntries, Dict.entries_ofEntries (by simp)]
    exact perm_resultFields _ _ _ _ _
  keys := by simp [RecordBody.fields]
  json _ _ := rfl

theorem actionBody_controlResult (attemptId status : String) (deviceTimestampUs : Option ℤ)
    (sessionId : SessionId) (evidenceSeq : ℕ) :
    ActionBody (.result .control)
      (((controlResultFields attemptId status deviceTimestampUs).set "attempt_session_id"
        sessionId).set "attempt_evidence_seq" evidenceSeq)
      (.controlResult attemptId sessionId evidenceSeq status deviceTimestampUs) where
  name := rfl
  fields := by
    rw [controlResultFields, Dict.set_ofEntries, Dict.set_ofEntries, Dict.entries_ofEntries (by simp)]
    exact perm_resultFields _ _ _ _ _
  keys := by simp [RecordBody.fields]
  json _ _ := rfl

/-! ## What the question leaves -/

/-- The store is that of before but for the clock. -/
def SameButClock (st st' : Store) : Prop := st' = { st with clockReadings := st'.clockReadings }

theorem clockFree_sameButClock (st : Store) : ClockFree (SameButClock st) := by
  intro st' n h
  rw [SameButClock] at h ⊢
  rw [h]

section Questions

variable {cfg : StoreConfig} {P : Store → Prop}

theorem keeps_requireUnusedOperation {files : SessionFiles} {operationId : String} :
    Keeps P (requireUnusedOperation files operationId) :=
  triple_require (fun _ _ h => h) fun _ _ h => h

theorem related_readClock :
    Related (fun _ _ => True) (fun _ _ => True) (readClock cfg) (readClock cfg) :=
  ⟨fun _ _ _ => ⟨trivial, trivial⟩⟩

/-- Two runs that prepare the same UART unit count the same bytes. -/
theorem related_lineLimitRecords (result : UartCaptureResult) (lines : List OversizedUartLine)
    (evidenceSeq : ℕ) :
    Related (fun _ _ => True) (fun rs rs' => jsonlSize rs = jsonlSize rs')
      (lineLimitRecords cfg result evidenceSeq lines)
      (lineLimitRecords cfg result evidenceSeq lines) := by
  induction lines generalizing evidenceSeq with
  | nil => exact related_pure rfl
  | cons line lines ih =>
    apply related_bind (T := fun r r' => r.size = r'.size)
    · apply related_lift_bind
      intro facts _
      apply related_bind related_readClock
      intro s t _
      exact related_pure (EvidenceRecord.size_recordedAt evidenceSeq s t _)
    · intro r r' hr
      apply related_bind (ih (evidenceSeq + 1))
      intro rs rs' hrs
      apply related_pure
      rw [jsonlSize_cons, jsonlSize_cons, hr, hrs]

theorem related_uartUnit (files : SessionFiles) (a : UartAdmission) :
    Related (fun _ _ => True) (fun u u' => u.unitBytes = u'.unitBytes) (uartUnit cfg files a)
      (uartUnit cfg files a) := by
  apply related_lift_bind
  intro patterns _
  apply related_require_bind Iff.rfl
  intro _
  apply related_bind related_readClock
  intro s t _
  have hsize := EvidenceRecord.size_recordedAt files.metadata.nextEvidenceSeq s t
    (.uartRx a.event.segmentId a.event.timestampUs a.event.channel
      (String.ofList (Base64.encode a.event.data)) files.uartRaw.length
      (files.uartRaw.length + a.event.data.length))
  apply related_require_bind (by rw [hsize])
  intro _
  apply related_lift_bind
  intro document _
  apply related_bind (T := fun rs rs' => jsonlSize rs = jsonlSize rs')
  · unfold unitHardwareEvents
    split
    · exact related_pure rfl
    · exact related_lineLimitRecords _ _ _
  · intro rs rs' hrs
    apply related_pure
    show _ + _ + _ + _ = _ + _ + _ + _
    rw [hsize, hrs]

end Questions

/-- Whether the record of these fields needs a successor is `b`, whatever the clock shows. -/
def Decided (fields : RecordFields) (handle : SessionId) (b : Bool) (st : Store) : Prop :=
  ∃ files, st.sessions.get? handle = some files ∧
    ∀ body recordedAt,
      fields handle files.metadata files.metadata.nextEvidenceSeq = .ok body →
      files.metadata.unitFits
        (⟨files.metadata.nextEvidenceSeq, recordedAt, body⟩ : EvidenceRecord).size = !b

/-- Whether the UART unit of this admission needs a successor is `b`. -/
def DecidedUart (cfg : StoreConfig) (a : UartAdmission) (handle : SessionId) (b : Bool)
    (st : Store) : Prop :=
  ∃ files, st.sessions.get? handle = some files ∧
    ∀ s s' unit, uartUnit cfg files a s = (.ok unit, s') →
      files.metadata.unitFits unit.unitBytes = !b

theorem SameButClock.sessions {st st' : Store} (h : SameButClock st st') :
    st'.sessions = st.sessions := by
  rw [h]

theorem SameButClock.rollovers {st st' : Store} (h : SameButClock st st') :
    st'.rollovers = st.rollovers := by
  rw [h]

section Decisions

variable {cfg : StoreConfig} {st : Store} {handle : SessionId}

/-- The question about one record decides it. -/
theorem triple_v2RecordWillRollover {files : SessionFiles} {fields : RecordFields} :
    Triple (fun s => st.sessions.get? handle = some files ∧ SameButClock st s)
      (v2RecordWillRolloverLocked cfg handle files fields)
      (fun b s => Decided fields handle b st ∧ SameButClock st s)
      (fun _ s => SameButClock st s) := by
  apply triple_assume (fun _ h => h.1)
  intro hget
  apply triple_bind (triple_conseq
    (triple_boundedRecord (clockFree_sameButClock st)) (fun _ h => h.2) (fun _ _ h => h)
    fun _ _ h => h)
  intro r
  refine triple_pure fun s h => ⟨⟨files, hget, ?_⟩, h.2⟩
  obtain ⟨⟨hseq, _, hfields⟩, _⟩ := h
  intro body recordedAt hbody
  cases hfields.symm.trans hbody
  rw [Bool.not_not, ← hseq, EvidenceRecord.size_recordedAt _ recordedAt r.recordedAt]

/-- The files of the session as they were before the clock was read. -/
theorem triple_requireActive_same :
    Triple (SameButClock st) (requireActive handle)
      (fun f s => st.sessions.get? handle = some f ∧ SameButClock st s)
      (fun _ s => SameButClock st s) :=
  triple_conseq triple_requireActive (fun _ h => h)
    (fun _ s h => ⟨by rw [← h.2.2.sessions]; exact h.2.1, h.2.2⟩) fun _ _ h => h

theorem triple_v2TelemetryWillRollover (segmentId : ℕ) (body : ℕ → RecordBody) :
    Triple (SameButClock st) (v2TelemetryWillRollover cfg handle segmentId (body segmentId))
      (fun b s => Decided (fun _ m _ => do
          let segmentId ← currentV2SegmentId m
          pure (body segmentId)) handle b st ∧ SameButClock st s)
      (fun _ s => SameButClock st s) := by
  apply triple_bind triple_requireActive_same
  intro files
  apply triple_assume (fun _ h => h.1)
  intro hget
  refine triple_bind (R := fun _ s => currentV2SegmentId files.metadata = .ok segmentId ∧
    SameButClock st s) ?_ ?_
  · refine triple_lift_bind (fun _ _ _ h => h.2) ?_
    intro current hcurrent
    exact triple_require (fun _ hc h => ⟨hc ▸ hcurrent, h.2⟩) fun _ _ h => h.2
  intro _
  apply triple_assume (fun _ h => h.1)
  intro hsegment
  apply triple_bind (R := fun r s => (r.evidenceSeq = files.metadata.nextEvidenceSeq ∧
    r.body = body segmentId) ∧ SameButClock st s)
  · refine triple_lift_bind (fun _ _ _ h => h.2) ?_
    intro given hgiven
    cases hgiven
    apply triple_bind (triple_conseq (triple_readClock (clockFree_sameButClock st))
      (fun _ h => h.2) (fun _ _ h => h) fun _ _ h => h)
    intro recordedAt
    exact triple_pure fun _ h => ⟨⟨rfl, rfl⟩, h⟩
  intro r
  refine triple_pure fun s h => ⟨⟨files, hget, ?_⟩, h.2⟩
  obtain ⟨⟨hseq, hbody⟩, _⟩ := h
  intro body' recordedAt hbody'
  obtain ⟨current, hcurrent, hbody'⟩ := except_bind_eq_ok.mp hbody'
  cases hsegment.symm.trans hcurrent
  cases hbody'
  rw [Bool.not_not, ← hseq, ← hbody, EvidenceRecord.size_recordedAt _ recordedAt r.recordedAt]

theorem triple_v2ActionWillRollover {recordType : ActionRecord} {given : Dict String Json}
    {fields : RecordFields}
    (hfields : ∀ m evidenceSeq body projected, fields handle m evidenceSeq = .ok body →
      actionFields recordType given m = .ok projected → ActionBody recordType projected body) :
    Triple (SameButClock st) (v2ActionWillRollover cfg handle recordType given)
      (fun b s => Decided fields handle b st ∧ SameButClock st s)
      (fun _ s => SameButClock st s) := by
  apply triple_bind triple_requireActive_same
  intro files
  apply triple_assume (fun _ h => h.1)
  intro hget
  refine triple_lift_bind (fun _ _ _ h => h.2) ?_
  intro projected hprojected
  apply triple_bind (triple_conseq (triple_readClock (clockFree_sameButClock st))
    (fun _ h => h.2) (fun _ _ h => h) fun _ _ h => h)
  intro s
  refine triple_require_bind (fun _ h => h) ?_
  intro _
  refine triple_pure fun s' h => ⟨⟨files, hget, ?_⟩, h⟩
  intro body recordedAt hbody
  rw [Bool.not_not, (hfields _ _ _ _ hbody hprojected).size _ s recordedAt]

theorem triple_v2UartReceiveWillRollover (event : UartReceiveEvent)
    (captureResult : UartCaptureResult) (rolloverCaptureResult : Option UartCaptureResult) :
    Triple (SameButClock st) (v2UartReceiveWillRollover cfg handle event captureResult)
      (fun b s => DecidedUart cfg
        { event := event
          captureResult := some captureResult
          rolloverCaptureResult := rolloverCaptureResult } handle b st ∧ SameButClock st s)
      (fun _ s => SameButClock st s) := by
  apply triple_bind (R := fun _ => SameButClock st)
  · refine triple_require_bind (fun _ h => h) ?_
    intro _
    refine triple_require_bind (fun _ h => h) ?_
    intro _
    exact triple_require (fun _ _ h => h) fun _ _ h => h
  intro _
  apply triple_bind triple_requireActive_same
  intro files
  apply triple_assume (fun _ h => h.1)
  intro hget
  refine triple_bind (R := fun unit s => (∃ s₀ s₁, uartUnit cfg files
    { event := event, captureResult := some captureResult } s₀ = (.ok unit, s₁)) ∧
    SameButClock st s) ⟨fun s hs => ?_⟩ ?_
  · have htriple : Triple (SameButClock st)
        (uartUnit cfg files { event := event, captureResult := some captureResult })
        (fun unit s => UnitOf files event unit ∧ SameButClock st s)
        (fun _ s => SameButClock st s) :=
      triple_uartUnit (clockFree_sameButClock st)
    have hkeeps := htriple.ended s hs.2
    rcases hrun : uartUnit cfg files { event := event, captureResult := some captureResult } s with
      ⟨e | unit, s'⟩
    · rw [hrun] at hkeeps
      exact hkeeps
    · rw [hrun] at hkeeps
      exact ⟨⟨s, s', hrun⟩, hkeeps.2⟩
  intro unit
  refine triple_pure fun s h => ⟨⟨files, hget, ?_⟩, h.2⟩
  obtain ⟨⟨s₀, s₁, hunit⟩, _⟩ := h
  intro s₂ s₃ unit' hunit'
  have hbytes : unit.unitBytes = unit'.unitBytes :=
    (related_uartUnit files { event := event, captureResult := some captureResult }).ok trivial
      hunit hunit'
  rw [Bool.not_not, hbytes]

end Decisions

/-! ## What the append does -/

/-- Assertions that speak about the rollovers only. -/
abbrev AboutRollovers (P : Store → Prop) : Prop :=
  ∀ st st', st'.rollovers = st.rollovers → P st → P st'

/-- The append rolled over as decided; without a rollover none was even begun. -/
def Followed (b : Bool) (R : List Rollover) (admission : V2EvidenceAdmission) (st : Store) : Prop :=
  admission.rolledOver = b ∧ (b = false → st.rollovers = R)

section Appends

variable {cfg : StoreConfig} {handle : SessionId} {P : Store → Prop} {R : List Rollover} {b : Bool}

theorem triple_trivial {α : Type} (m : StoreProg α) :
    Triple (fun _ => True) m (fun _ _ => True) (fun _ _ => True) := by
  refine ⟨fun s _ => ?_⟩
  rcases m s with ⟨_ | _, _⟩ <;> exact trivial

theorem keeps_failActive_rollovers (hP : AboutRollovers P) {cause : StoreException} :
    Keeps P (failActiveV2PersistenceLocked cfg handle cause) := by
  apply triple_bind (triple_conseq triple_sessionFiles (fun _ h => h) (fun _ _ h => h.2)
    fun _ _ h => h)
  intro files
  split
  · exact triple_terminalizeSessionLocked (fun st n h => hP st _ rfl h)
      (fun st st' _ _ _ _ h _ _ _ _ _ _ hframe => hP st st' hframe.rollovers h) fun _ h => h
  · exact triple_pure fun _ h => h

/-- Publishing a unit begins no rollover. -/
theorem keeps_publish (hP : AboutRollovers P) {files : SessionFiles} {m : Metadata} :
    Keeps P (publish handle files m) := by
  refine triple_require_bind (fun _ h => h) ?_
  intro _
  exact triple_change fun st h => hP st _ rfl h

theorem triple_commitRecord_flag (hP : AboutRollovers P) {files : SessionFiles}
    {stream : EvidenceStream} {r : EvidenceRecord} {mutator : MetadataMutator}
    {rolledOver : Bool} :
    Triple P (commitRecord cfg handle files stream r mutator rolledOver)
      (fun admission st => admission.rolledOver = rolledOver ∧ P st) (fun _ => P) := by
  apply triple_bind (R := fun _ => P)
  · apply triple_onPersistenceError
    · refine triple_lift_bind (fun _ _ _ h => h) ?_
      intro m _
      exact keeps_publish hP
    · intro e
      exact keeps_failActive_rollovers hP
  · intro _
    exact triple_pure fun _ h => ⟨rfl, h⟩

theorem triple_commitUartUnit_flag (hP : AboutRollovers P) {files : SessionFiles}
    {event : UartReceiveEvent} {captureResult : Option UartCaptureResult} {unit : UartUnit}
    {rolledOver : Bool} :
    Triple P (commitUartUnit cfg handle files event captureResult unit rolledOver)
      (fun admission st => admission.rolledOver = rolledOver ∧ P st) (fun _ => P) := by
  apply triple_bind (R := fun _ => P)
  · apply triple_onPersistenceError (keeps_publish hP)
    intro e
    exact keeps_failActive_rollovers hP
  · intro _
    exact triple_pure fun _ h => ⟨rfl, h⟩

theorem aboutRollovers_eq (R : List Rollover) : AboutRollovers fun st => st.rollovers = R :=
  fun _ _ h hR => h.trans hR

theorem aboutRollovers_true : AboutRollovers fun _ => True := fun _ _ _ _ => trivial

/-- A record whose fit is decided is appended accordingly. -/
theorem triple_append_decided {depth : ℕ} {stream : EvidenceStream} {fields : RecordFields}
    {mutator : MetadataMutator} :
    Triple (fun st => Decided fields handle b st ∧ st.rollovers = R)
      (appendV2RecordLocked cfg depth handle stream fields mutator) (Followed b R)
      (fun _ st => b = false → st.rollovers = R) := by
  cases depth with
  | zero => exact triple_raise fun _ h _ => h.2
  | succ depth =>
    apply triple_bind (triple_conseq triple_requireActive (fun _ h => h) (fun _ _ h => h)
      fun _ _ h _ => h.2)
    intro files
    apply triple_assume (c := ∀ body recordedAt,
      fields handle files.metadata files.metadata.nextEvidenceSeq = .ok body →
      files.metadata.unitFits
        (⟨files.metadata.nextEvidenceSeq, recordedAt, body⟩ : EvidenceRecord).size = !b)
    · rintro st ⟨_, hget, ⟨files', hget', hdecided⟩, _⟩
      cases hget.symm.trans hget'
      exact hdecided
    intro hdecided
    apply triple_bind (triple_conseq
      (triple_boundedRecord (I := fun st => st.rollovers = R) fun _ _ h => h)
      (fun _ h => h.2.2.2) (fun _ _ h => h) fun _ _ h _ => h)
    intro r
    apply triple_assume (fun _ h => h.1)
    rintro ⟨hseq, _, hfields⟩
    have hfits : files.metadata.unitFits r.size = !b := by
      have := hdecided r.body r.recordedAt hfields
      rw [← hseq] at this
      exact this
    cases b with
    | false =>
      have htrue : files.metadata.unitFits r.size = true := hfits
      rw [if_pos htrue]
      exact triple_conseq (triple_commitRecord_flag (aboutRollovers_eq R)) (fun _ h => h.2)
        (fun _ _ h => ⟨h.1, fun _ => h.2⟩) fun _ _ h _ => h
    | true =>
      have hfalse : files.metadata.unitFits r.size = false := hfits
      rw [if_neg (Bool.eq_false_iff.mp hfalse)]
      refine triple_conseq (?_ : Triple (fun _ => True) _
          (fun admission _ => admission.rolledOver = true) fun _ _ => True)
        (fun _ _ => trivial) (fun _ _ h => ⟨h, fun hb => by cases hb⟩) fun _ _ _ hb => by cases hb
      apply triple_bind (triple_trivial _)
      intro successor
      apply triple_bind (triple_trivial _)
      intro files
      apply triple_bind (triple_trivial _)
      intro record
      refine triple_require_bind (fun _ _ => trivial) ?_
      intro _
      exact triple_conseq (triple_commitRecord_flag aboutRollovers_true) (fun _ h => h)
        (fun _ _ h => h.1) fun _ _ h => h

/-- A check that leaves the store alone comes first. -/
theorem triple_check {α β : Type} {Q : β → Store → Prop} {E : StoreException → Store → Prop}
    {m : StoreProg α} {k : α → StoreProg β} (hE : ∀ e st, P st → E e st)
    (hm : ∀ I : Store → Prop, Keeps I m) (hk : ∀ a, Triple P (k a) Q E) :
    Triple P (m >>= k) Q E :=
  triple_bind (triple_conseq (hm P) (fun _ h => h) (fun _ _ h => h) hE) hk

/-- A check of the active session comes first. -/
theorem triple_requireActive_check {β : Type} {Q : β → Store → Prop}
    {E : StoreException → Store → Prop} {k : SessionFiles → StoreProg β}
    (hE : ∀ e st, P st → E e st) (hk : ∀ files, Triple P (k files) Q E) :
    Triple P (requireActive handle >>= k) Q E :=
  triple_check hE (fun _ => keeps_requireActive) hk

/-- An admission that only has to clean up keeps what it reports. -/
theorem triple_afterwards {m : StoreProg Unit} {admission : V2EvidenceAdmission}
    (hm : ∀ I : Store → Prop, AboutRollovers I → Keeps I m) :
    Triple (Followed b R admission) (m >>= fun _ => pure admission) (Followed b R)
      (fun _ st => b = false → st.rollovers = R) := by
  have habout : AboutRollovers (Followed b R admission) := fun _ _ hsame h =>
    ⟨h.1, fun hb => hsame.trans (h.2 hb)⟩
  apply triple_bind (triple_conseq (hm _ habout) (fun _ h => h) (fun _ _ h => h)
    fun _ _ h => h.2)
  intro _
  exact triple_pure fun _ h => h

theorem keeps_extendLeaseOf_rollovers (hP : AboutRollovers P) {operationId : String} :
    Keeps P (extendLeaseOf handle operationId) := by
  apply triple_look
  intro lease
  cases lease with
  | none => exact triple_pure fun _ h => h.2
  | some lease =>
    apply triple_bind (triple_conseq (triple_sessionFiles (I := P)) (fun _ h => h.2)
      (fun _ _ h => h.2) fun _ _ h => h)
    intro files
    split
    · exact triple_raise fun _ h => h
    · refine triple_require_bind (fun _ h => h) ?_
      intro _
      exact triple_change fun st h => hP st _ rfl h

theorem keeps_applyRetention_rollovers (hP : AboutRollovers P) {held : List SessionId} :
    Keeps P (applyRetentionLocked cfg held) :=
  keeps_applyRetention fun st _ _ _ h => hP st _ rfl h

/-- What an append whose fit is decided starts from. -/
def AppendReady (fields : RecordFields) (handle : SessionId) (b : Bool) (R : List Rollover)
    (st : Store) : Prop :=
  Decided fields handle b st ∧ st.rollovers = R

variable {depth : ℕ}

theorem triple_appendAttempt_decided {key : AttemptKey} {operationId : Option String}
    {fields : RecordFields} :
    Triple (AppendReady fields handle b R) (appendAttempt cfg depth handle key operationId fields)
      (Followed b R) (fun _ st => b = false → st.rollovers = R) := by
  have hE : ∀ (e : StoreException) st, AppendReady fields handle b R st → b = false →
      st.rollovers = R := fun _ _ h _ => h.2
  apply triple_check hE fun I => triple_conseq triple_sessionFiles (fun _ h => h)
    (fun _ _ h => h.2) fun _ _ h => h
  intro journal
  refine triple_lift_bind (fun e _ st h => hE e st h) ?_
  intro seen _
  refine triple_require_bind (fun st h => hE (.value "") st h) ?_
  intro _
  apply triple_requireActive_check hE
  intro files
  refine triple_check hE (fun I => ?_) fun _ => ?_
  · unfold requireV2OperationActive
    split
    · exact triple_pure fun _ h => h
    · exact triple_require (fun _ _ h => h) fun _ _ h => h
  refine triple_require_bind (fun st h => hE (.value "") st h) ?_
  intro _
  exact triple_append_decided

theorem triple_appendResult_decided {key : AttemptKey} {body : PendingAttempt → RecordBody} :
    Triple
      (AppendReady (fun _ m _ => do
        let attempt ← v2PendingAttempt m key
        pure (body attempt)) handle b R)
      (appendResult cfg depth handle key body) (Followed b R)
      (fun _ st => b = false → st.rollovers = R) := by
  apply triple_requireActive_check fun _ _ h _ => h.2
  intro files
  refine triple_lift_bind (fun _ _ _ h _ => h.2) ?_
  intro _ _
  apply triple_bind triple_append_decided
  intro admission
  exact triple_afterwards fun _ hI => keeps_applyRetention_rollovers hI

/-- A UART unit whose fit is decided is admitted accordingly. -/
theorem triple_appendV2UartReceive_decided {a : UartAdmission} :
    Triple (fun st => DecidedUart cfg a handle b st ∧ st.rollovers = R)
      (appendV2UartReceive cfg depth handle a) (Followed b R)
      (fun _ st => b = false → st.rollovers = R) := by
  have hE : ∀ (e : StoreException) st, DecidedUart cfg a handle b st ∧ st.rollovers = R →
      b = false → st.rollovers = R := fun _ _ h _ => h.2
  refine triple_check hE (fun I => ?_) fun _ => ?_
  · refine triple_require_bind (fun _ h => h) ?_
    intro _
    apply triple_bind keeps_requireMatching
    intro _
    refine triple_require_bind (fun _ h => h) ?_
    intro _
    exact triple_require (fun _ _ h => h) fun _ _ h => h
  apply triple_bind (triple_conseq triple_requireActive (fun _ h => h) (fun _ _ h => h)
    fun _ _ h _ => h.2)
  intro files
  apply triple_assume (c := ∀ s s' unit, uartUnit cfg files a s = (.ok unit, s') →
    files.metadata.unitFits unit.unitBytes = !b)
  · rintro st ⟨_, hget, ⟨files', hget', hdecided⟩, _⟩
    cases hget.symm.trans hget'
    exact hdecided
  intro hdecided
  refine triple_bind (R := fun unit st => files.metadata.unitFits unit.unitBytes = !b ∧
    st.rollovers = R) ⟨fun s hs => ?_⟩ ?_
  · have htriple : Triple (fun st => st.rollovers = R) (uartUnit cfg files a)
        (fun unit st => UnitOf files a.event unit ∧ st.rollovers = R)
        (fun _ st => st.rollovers = R) := triple_uartUnit fun _ _ h => h
    have hkeeps := htriple.ended s hs.2.2.2
    rcases hrun : uartUnit cfg files a s with ⟨e | unit, s'⟩
    · rw [hrun] at hkeeps
      exact fun _ => hkeeps
    · rw [hrun] at hkeeps
      exact ⟨hdecided s s' unit hrun, hkeeps.2⟩
  intro unit
  apply triple_assume (fun _ h => h.1)
  intro hfits
  cases b with
  | false =>
    have htrue : files.metadata.unitFits unit.unitBytes = true := hfits
    rw [if_pos htrue]
    exact triple_conseq (triple_commitUartUnit_flag (aboutRollovers_eq R)) (fun _ h => h.2)
      (fun _ _ h => ⟨h.1, fun _ => h.2⟩) fun _ _ h _ => h
  | true =>
    have hfalse : files.metadata.unitFits unit.unitBytes = false := hfits
    rw [if_neg (Bool.eq_false_iff.mp hfalse)]
    refine triple_conseq (?_ : Triple (fun _ => True) _
        (fun admission _ => admission.rolledOver = true) fun _ _ => True)
      (fun _ _ => trivial) (fun _ _ h => ⟨h, fun hb => by cases hb⟩) fun _ _ _ hb => by cases hb
    apply triple_bind (triple_trivial _)
    intro successor
    apply triple_bind (triple_trivial _)
    intro files
    refine triple_lift_bind (fun _ _ _ _ => trivial) ?_
    intro segmentId _
    apply triple_bind (triple_trivial _)
    intro _
    apply triple_bind (triple_trivial _)
    intro unit
    refine triple_require_bind (fun _ _ => trivial) ?_
    intro _
    exact triple_conseq (triple_commitUartUnit_flag aboutRollovers_true) (fun _ h => h)
      (fun _ _ h => h.1) fun _ _ h => h

end Appends

/-! ## Agreement -/

section Agreement

variable {cfg : StoreConfig} {handle : SessionId}

/-- The records of an attempt have the fields its preflight was asked about. -/
theorem actionBody_attempt {type : AttemptType} {given : Dict String Json} {f : ℕ → RecordBody}
    (hf : ∀ segmentId : ℕ, ActionBody (.attempt type) (given.set "segment_id" segmentId)
      (f segmentId))
    (m : Metadata) (_evidenceSeq : ℕ) (body : RecordBody) (projected : Dict String Json)
    (hbody : (do
      let segmentId ← currentV2SegmentId m
      pure (f segmentId)) = Except.ok body)
    (hprojected : actionFields (.attempt type) given m = .ok projected) :
    ActionBody (.attempt type) projected body := by
  obtain ⟨segmentId, hsegment, hbody⟩ := except_bind_eq_ok.mp hbody
  obtain ⟨segmentId', hsegment', hprojected⟩ := except_bind_eq_ok.mp hprojected
  cases hsegment.symm.trans hsegment'
  cases hbody
  cases hprojected
  exact hf segmentId

theorem actionBody_result {type : AttemptType} {given : Dict String Json} {attemptId : String}
    {f : PendingAttempt → RecordBody} (hid : given.get? "attempt_id" = some (.str attemptId))
    (hf : ∀ attempt : PendingAttempt, ActionBody (.result type)
      ((given.set "attempt_session_id" attempt.sessionId).set "attempt_evidence_seq"
        attempt.evidenceSeq) (f attempt))
    (m : Metadata) (_evidenceSeq : ℕ) (body : RecordBody) (projected : Dict String Json)
    (hbody : (do
      let attempt ← v2PendingAttempt m (type, attemptId)
      pure (f attempt)) = Except.ok body)
    (hprojected : actionFields (.result type) given m = .ok projected) :
    ActionBody (.result type) projected body := by
  obtain ⟨attempt, hattempt, hbody⟩ := except_bind_eq_ok.mp hbody
  have hget := v2PendingAttempt_eq_ok hattempt
  simp only [actionFields, hid, hget] at hprojected
  cases hbody
  cases hprojected
  exact hf attempt

theorem triple_attemptWillRollover {st : Store} {type : AttemptType} {given : Dict String Json}
    (f : ℕ → RecordBody)
    (hf : ∀ segmentId : ℕ, ActionBody (.attempt type) (given.set "segment_id" segmentId)
      (f segmentId)) :
    Triple (SameButClock st) (v2ActionWillRollover cfg handle (.attempt type) given)
      (fun b s => Decided (fun _ m _ => do
          let segmentId ← currentV2SegmentId m
          pure (f segmentId)) handle b st ∧ SameButClock st s)
      (fun _ s => SameButClock st s) :=
  triple_v2ActionWillRollover (actionBody_attempt hf)

theorem triple_resultWillRollover {st : Store} {type : AttemptType} {given : Dict String Json}
    {attemptId : String} (hid : given.get? "attempt_id" = some (.str attemptId))
    (f : PendingAttempt → RecordBody)
    (hf : ∀ attempt : PendingAttempt, ActionBody (.result type)
      ((given.set "attempt_session_id" attempt.sessionId).set "attempt_evidence_seq"
        attempt.evidenceSeq) (f attempt)) :
    Triple (SameButClock st) (v2ActionWillRollover cfg handle (.result type) given)
      (fun b s => Decided (fun _ m _ => do
          let attempt ← v2PendingAttempt m (type, attemptId)
          pure (f attempt)) handle b st ∧ SameButClock st s)
      (fun _ s => SameButClock st s) :=
  triple_v2ActionWillRollover (actionBody_result hid hf)

/-- The error a terminal record shows. -/
def OperationResult.projectedError (result : OperationResult) : Option SessionError :=
  result.error.map fun e => boundedError e.1 e.2

theorem triple_v2TerminalProjection {P : Store → Prop} (result : OperationResult) :
    Triple P (v2TerminalProjection result)
      (fun error st => error = result.projectedError ∧ P st) (fun _ => P) := by
  refine triple_require_bind (fun _ h => h) ?_
  intro _
  refine triple_require_bind (fun _ h => h) ?_
  intro _
  refine triple_require_bind (fun _ h => h) ?_
  intro _
  apply triple_bind (R := fun error st => error = result.projectedError ∧ P st)
  · unfold terminalError OperationResult.projectedError
    split
    · rename_i hnone
      exact triple_pure fun _ h => ⟨by rw [hnone]; rfl, h⟩
    · rename_i code detail hsome
      apply triple_bind keeps_validateV2Identifier
      intro _
      exact triple_pure fun _ h => ⟨by rw [hsome]; rfl, h⟩
  intro error
  refine triple_require_bind (fun _ h => h.2) ?_
  intro _
  refine triple_require_bind (fun _ h => h.2) ?_
  intro _
  exact triple_pure fun _ h => h

/-- What the answer `b` says about the append that follows. -/
def PreflightCall.Decides (c : PreflightCall) (cfg : StoreConfig) (handle : SessionId) (b : Bool)
    (st : Store) : Prop :=
  ∀ depth, Triple (SameButClock st) (c.append cfg depth handle) (Followed b st.rollovers)
    (fun _ s => b = false → s.rollovers = st.rollovers)

theorem SameButClock.ready {st s : Store} {fields : RecordFields} {b : Bool}
    (hdecided : Decided fields handle b st) (h : SameButClock st s) :
    AppendReady fields handle b st.rollovers s := by
  obtain ⟨files, hget, hfits⟩ := hdecided
  exact ⟨⟨files, by rw [h.sessions]; exact hget, hfits⟩, h.rollovers⟩

/-- From a decided fit to the append, through the checks of the call. -/
theorem decides_of_ready {c : PreflightCall} {st : Store} {fields : RecordFields} {b : Bool}
    (hdecided : Decided fields handle b st)
    (h : ∀ depth, Triple (AppendReady fields handle b st.rollovers) (c.append cfg depth handle)
      (Followed b st.rollovers) (fun _ s => b = false → s.rollovers = st.rollovers)) :
    c.Decides cfg handle b st := fun depth =>
  triple_conseq (h depth) (fun _ hs => hs.ready hdecided) (fun _ _ h => h) fun _ _ h => h

/-- A question changes nothing but the clock, and its answer decides the append. -/
theorem PreflightCall.triple_preflight (cfg : StoreConfig) (handle : SessionId)
    (c : PreflightCall) (st : Store) :
    Triple (SameButClock st) (c.preflight cfg handle)
      (fun b s => c.Decides cfg handle b st ∧ SameButClock st s)
      (fun _ s => SameButClock st s) := by
  cases c with
  | uartReceive event captureResult rolloverCaptureResult =>
    refine triple_conseq
      (triple_v2UartReceiveWillRollover event captureResult rolloverCaptureResult) (fun _ h => h)
      (fun b s h => ⟨fun depth => ?_, h.2⟩) fun _ _ h => h
    refine triple_conseq triple_appendV2UartReceive_decided (fun s' hs' => ?_) (fun _ _ h => h)
      fun _ _ h => h
    obtain ⟨files, hget, hfits⟩ := h.1
    exact ⟨⟨files, by rw [hs'.sessions]; exact hget, hfits⟩, hs'.rollovers⟩
  | bufferOverflow event dropped rolloverDropped =>
    refine triple_conseq
      (triple_v2TelemetryWillRollover event.segmentId fun segmentId =>
        .bufferOverflow segmentId event.timestampUs event.channel event.droppedBytes)
      (fun _ h => h) (fun b s h => ⟨decides_of_ready h.1 fun depth => ?_, h.2⟩) fun _ _ h => h
    apply triple_requireActive_check fun _ _ h _ => h.2
    intro files
    apply triple_check (fun _ _ h _ => h.2) fun _ => keeps_requireCurrentSegment
    intro _
    exact triple_append_decided
  | bufferStatus event integrity =>
    refine triple_conseq
      (triple_v2TelemetryWillRollover event.segmentId fun segmentId =>
        .bufferStatus segmentId event.timestampUs event.sizeBytes event.usedBytes
          event.highWaterBytes event.droppedBytesTotal event.overflowEvents)
      (fun _ h => h) (fun b s h => ⟨decides_of_ready h.1 fun depth => ?_, h.2⟩) fun _ _ h => h
    apply triple_requireActive_check fun _ _ h _ => h.2
    intro files
    apply triple_check (fun _ _ h _ => h.2) fun _ => keeps_requireCurrentSegment
    intro _
    exact triple_append_decided
  | startOperation operationId operationType parameters =>
    apply triple_bind (triple_conseq keeps_validateV2Identifier (fun _ h => h) (fun _ _ h => h)
      fun _ _ h => h)
    intro _
    apply triple_bind triple_requireActive_same
    intro files
    apply triple_bind (triple_conseq keeps_requireUnusedOperation (fun _ h => h) (fun _ _ h => h)
      fun _ _ h => h.2)
    intro _
    refine triple_conseq triple_v2RecordWillRollover (fun _ h => h)
      (fun b s h => ⟨decides_of_ready h.1 fun depth => ?_, h.2⟩) fun _ _ h => h
    apply triple_check (fun _ _ h _ => h.2) fun _ => keeps_validateV2Identifier
    intro _
    apply triple_requireActive_check fun _ _ h _ => h.2
    intro files
    apply triple_check (fun _ _ h _ => h.2) fun _ => keeps_requireUnusedOperation
    intro _
    exact triple_append_decided
  | completeOperation operationId result =>
    apply triple_bind (triple_conseq keeps_validateV2Identifier (fun _ h => h) (fun _ _ h => h)
      fun _ _ h => h)
    intro _
    -- The error is projected alike in the question and in the append.
    apply triple_bind (triple_v2TerminalProjection result)
    intro error
    apply triple_assume (fun _ h => h.1)
    rintro rfl
    apply triple_bind (triple_conseq triple_requireActive_same (fun _ h => h.2) (fun _ _ h => h)
      fun _ _ h => h)
    intro files
    refine triple_lift_bind (fun _ _ _ h => h.2) ?_
    intro _ _
    refine triple_conseq triple_v2RecordWillRollover (fun _ h => h)
      (fun b s h => ⟨decides_of_ready h.1 fun depth => ?_, h.2⟩) fun _ _ h => h
    apply triple_check (fun _ _ h _ => h.2) fun _ => keeps_validateV2Identifier
    intro _
    apply triple_bind (triple_conseq (triple_v2TerminalProjection result) (fun _ h => h)
      (fun _ _ h => h) fun _ _ h _ => h.2)
    intro error
    apply triple_assume (fun _ h => h.1)
    rintro rfl
    apply triple_bind (triple_conseq keeps_requireActive (fun _ h => h.2) (fun _ _ h => h)
      fun _ _ h _ => h.2)
    intro files
    refine triple_lift_bind (fun _ _ _ h _ => h.2) ?_
    intro _ _
    apply triple_bind triple_append_decided
    intro admission
    exact triple_afterwards fun _ hI => keeps_extendLeaseOf_rollovers hI
  | uartTxAttempt attemptId data operationId transformation =>
    refine triple_conseq
      (triple_attemptWillRollover _ fun segmentId =>
        actionBody_uartTxAttempt attemptId operationId data transformation segmentId)
      (fun _ h => h) (fun b s h => ⟨decides_of_ready h.1 fun depth => ?_, h.2⟩) fun _ _ h => h
    apply triple_check (fun _ _ h _ => h.2) fun _ => keeps_validateV2Identifier
    intro _
    apply triple_check (fun _ _ h _ => h.2) fun _ => keeps_validateOperationId
    intro _
    refine triple_require_bind (fun _ h _ => h.2) ?_
    intro _
    exact triple_appendAttempt_decided
  | uartTxResult attemptId status acceptedBytes =>
    refine triple_conseq
      (triple_resultWillRollover rfl _ fun attempt =>
        actionBody_uartTxResult attemptId status acceptedBytes attempt.sessionId attempt.evidenceSeq)
      (fun _ h => h) (fun b s h => ⟨decides_of_ready h.1 fun depth => ?_, h.2⟩) fun _ _ h => h
    apply triple_check (fun _ _ h _ => h.2) fun _ => keeps_validateV2Identifier
    intro _
    apply triple_check (fun _ _ h _ => h.2) fun _ => keeps_validateV2Identifier
    intro _
    exact triple_appendResult_decided
  | controlAttempt attemptId role provider parameters operationId =>
    refine triple_conseq
      (triple_attemptWillRollover _ fun segmentId =>
        actionBody_controlAttempt attemptId operationId role provider parameters segmentId)
      (fun _ h => h) (fun b s h => ⟨decides_of_ready h.1 fun depth => ?_, h.2⟩) fun _ _ h => h
    apply triple_check (fun _ _ h _ => h.2) fun _ => keeps_validateV2Identifier
    intro _
    apply triple_check (fun _ _ h _ => h.2) fun _ => keeps_validateV2Identifier
    intro _
    apply triple_check (fun _ _ h _ => h.2) fun _ => keeps_validateV2Identifier
    intro _
    apply triple_check (fun _ _ h _ => h.2) fun _ => keeps_validateOperationId
    intro _
    exact triple_appendAttempt_decided
  | controlResult attemptId status deviceTimestampUs =>
    refine triple_conseq
      (triple_resultWillRollover rfl _ fun attempt =>
        actionBody_controlResult attemptId status deviceTimestampUs attempt.sessionId attempt.evidenceSeq)
      (fun _ h => h) (fun b s h => ⟨decides_of_ready h.1 fun depth => ?_, h.2⟩) fun _ _ h => h
    apply triple_check (fun _ _ h _ => h.2) fun _ => keeps_validateV2Identifier
    intro _
    apply triple_check (fun _ _ h _ => h.2) fun _ => keeps_validateV2Identifier
    intro _
    exact triple_appendResult_decided

end Agreement

/-- A preflight changes nothing but the clock, whatever it returns or raises.  When it
answers, an append that follows and succeeds rolled over exactly if the answer was yes, and
after a no the append begins no rollover, even if it raises. -/
theorem preflights_agree (cfg : StoreConfig) (depth : ℕ) (handle : SessionId)
    (c : PreflightCall) (st : Store) :
    SameButClock st (c.preflight cfg handle st).2 ∧
      ∀ b, (c.preflight cfg handle st).1 = .ok b →
        (∀ admission,
          (c.append cfg depth handle (c.preflight cfg handle st).2).1 = .ok admission →
          admission.rolledOver = b) ∧
        (b = false →
          (c.append cfg depth handle (c.preflight cfg handle st).2).2.rollovers
            = st.rollovers) := by
  have hpre := (c.triple_preflight cfg handle st).ended st rfl
  rcases hrun : c.preflight cfg handle st with ⟨e | b, st₁⟩
  · rw [hrun] at hpre
    exact ⟨hpre, fun b hb => by cases hb⟩
  · rw [hrun] at hpre
    obtain ⟨hdecides, hsame⟩ := hpre
    refine ⟨hsame, fun b' hb' => ?_⟩
    cases hb'
    have happend := (hdecides depth).ended st₁ hsame
    rcases happ : c.append cfg depth handle st₁ with ⟨e | admission, st₂⟩
    · rw [happ] at happend
      exact ⟨fun admission hok => (by cases hok), happend⟩
    · rw [happ] at happend
      refine ⟨fun admission' hok => ?_, happend.2⟩
      cases hok
      exact happend.1
