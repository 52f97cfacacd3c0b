/-
# The recorder in steps

What one call of the recorder does to its state and to the session it owns, said once: local
changes, and one step for each record admitted.
-/
import DutchMate.AdmissionOutcomes
import DutchMate.SessionHistory

open Throwing

/-! ## Telemetry records and segments -/

/-- One report about the receive buffer more, with what it makes of the integrity. -/
structure TelemetryRecord (body : ℕ → RecordBody) (droppedBytes : ℕ) (reportedLoss : Bool)
    (f : SessionFiles) (admission : V2EvidenceAdmission) (f' : SessionFiles) : Prop where
  uart : f'.uartRaw = f.uartRaw ∧ f'.uartEvents = f.uartEvents
  patterns : f'.detectedPatterns = f.detectedPatterns
  hardware : ∃ r segmentId, f.metadata.currentSegmentId = some segmentId ∧
    f'.hardwareEvents = f.hardwareEvents ++ [r] ∧
    r.evidenceSeq = f.metadata.nextEvidenceSeq ∧ r.body = body segmentId
  backendIntegrity : ∃ previous, f.metadata.backendIntegrity.droppedBytes = some previous ∧
    f'.metadata.backendIntegrity =
      ⟨if max previous droppedBytes ≠ 0 ∨ reportedLoss = true then .lossReported
        else .noneReported, some debugHelperRxBuffer, some (max previous droppedBytes)⟩
  oversizedLineCount : f'.metadata.oversizedLineCount = f.metadata.oversizedLineCount
  segments : f'.metadata.segments.map SegmentMetadata.segmentId =
    f.metadata.segments.map SegmentMetadata.segmentId
  next : f'.metadata.nextEvidenceSeq = f.metadata.nextEvidenceSeq + 1
  admission : admission.nextEvidenceSeq = f.metadata.nextEvidenceSeq + 1

/-- One segment more, under the next identifier. -/
structure SegmentOpened (f : SessionFiles) (f' : SessionFiles) : Prop where
  uart : f'.uartRaw = f.uartRaw ∧ f'.uartEvents = f.uartEvents
  patterns : f'.detectedPatterns = f.detectedPatterns
  hardware : f'.hardwareEvents = f.hardwareEvents
  backendIntegrity : f'.metadata.backendIntegrity = f.metadata.backendIntegrity
  oversizedLineCount : f'.metadata.oversizedLineCount = f.metadata.oversizedLineCount
  segments : f'.metadata.segments.map SegmentMetadata.segmentId =
    f.metadata.segments.map SegmentMetadata.segmentId ++ [f.metadata.segments.length]
  next : f'.metadata.nextEvidenceSeq = f.metadata.nextEvidenceSeq + 1

theorem currentV2SegmentId_eq_ok {m : Metadata} {n : ℕ} :
    currentV2SegmentId m = .ok n ↔ m.currentSegmentId = some n := by
  unfold currentV2SegmentId
  cases m.currentSegmentId with
  | none => simp [valueError]
  | some k => simp

/-- The fields of a report read the current segment. -/
theorem telemetryRecord_of_committed (timestampUs : ℕ) {body : ℕ → RecordBody} {droppedBytes : ℕ}
    {reportedLoss : Bool} {mutator : MetadataMutator} {handle : SessionId}
    {f f' : SessionFiles} {admission : V2EvidenceAdmission}
    (hmutator : ∀ m m', mutator m admission = .ok m' →
      (do
        let m ← recordV2IntegrityLoss m droppedBytes true (some reportedLoss)
        recordCurrentTimestamp m timestampUs) = .ok m')
    (h : Committed .hardware
      (fun _ m _ => do
        let segmentId ← currentV2SegmentId m
        pure (body segmentId))
      mutator handle f admission f') :
    TelemetryRecord body droppedBytes reportedLoss f admission f' := by
  cases h with
  | @mk r m rolledOver hseq hbound hbody hm hsize =>
    obtain ⟨segmentId, hsegment, hbody⟩ := except_bind_eq_ok.mp hbody
    have hbody : r.body = body segmentId := (Except.ok.inj hbody).symm
    obtain ⟨m₁, hloss, htimestamp⟩ := except_bind_eq_ok.mp (hmutator _ _ hm)
    obtain ⟨current, _, htimestamp⟩ := except_bind_eq_ok.mp htimestamp
    cases htimestamp
    unfold recordV2IntegrityLoss at hloss
    split at hloss
    · cases hloss
    · rename_i previous hprevious
      cases hloss
      refine ⟨⟨rfl, rfl⟩, rfl, ⟨r, segmentId, currentV2SegmentId_eq_ok.mp hsegment, rfl, hseq,
          hbody⟩,
        ⟨previous, hprevious, ?_⟩, rfl, ?_, ?_, ?_⟩
      · simp only [SessionFiles.withMetadata, Metadata.recordSegmentTimestamp, ↓reduceIte,
          Option.some.injEq]
      · exact Metadata.map_segmentId_recordSegmentTimestamp _ _ _
      · show r.evidenceSeq + 1 = _
        rw [hseq]
      · rw [hseq]

section Calls

variable {cfg : StoreConfig} {depth : ℕ} {handle : SessionId} {files : SessionFiles}
  {backend : BackendSnapshot} {st : Store}

theorem keepsActive_telemetry {mutator : MetadataMutator}
    (hmutator : ∀ m admission m', mutator m admission = .ok m' →
      ∃ droppedBytes cumulative reportedLoss timestampUs, (do
        let m ← recordV2IntegrityLoss m droppedBytes cumulative reportedLoss
        recordCurrentTimestamp m timestampUs) = .ok m') : KeepsActive mutator := by
  intro m admission m' h
  obtain ⟨_, _, _, _, h⟩ := hmutator m admission m' h
  obtain ⟨m₁, hloss, h⟩ := except_bind_eq_ok.mp h
  exact (keeps_recordCurrentTimestamp h).1.state.trans (keeps_recordV2IntegrityLoss hloss).1.state

theorem triple_appendV2BufferOverflow_outcome {event : BufferOverflowEvent} {dropped rollover : ℕ}
    (hopen : AllOpenHere st) (hknown : Known handle files backend st) :
    Triple (SameButClock st)
      (appendV2BufferOverflow cfg depth handle event (some dropped) (some rollover))
      (Outcome (fun f admission f' =>
        TelemetryRecord
          (fun segmentId =>
            .bufferOverflow segmentId event.timestampUs event.channel event.droppedBytes)
          (if admission.rolledOver then rollover else dropped) true f admission f')
        handle files backend)
      (fun _ _ => True) := by
  apply triple_guard fun _ _ => keeps_requireActive
  intro current
  apply triple_guard fun _ _ => keeps_requireCurrentSegment
  intro _
  refine triple_conseq (triple_append_outcome ?_ hopen hknown) (fun _ h => h)
    (fun admission _ h => h.mono ?_) fun _ _ h => h
  · exact keepsActive_telemetry fun m admission m' h => ⟨_, _, _, _, h⟩
  · intro f admission f' h
    refine telemetryRecord_of_committed event.timestampUs (fun m m' hm => ?_) h
    rw [overflowMutator] at hm
    cases hrolled : admission.rolledOver with
    | false =>
      rw [hrolled] at hm
      exact hm
    | true =>
      rw [hrolled] at hm
      exact hm

theorem triple_appendV2BufferStatus_outcome {event : BufferStatusEvent} {dropped : ℕ} {loss : Bool}
    (hopen : AllOpenHere st) (hknown : Known handle files backend st) :
    Triple (SameButClock st)
      (appendV2BufferStatus cfg depth handle event
        { sessionDroppedBytes := some dropped
          reportedLoss := some loss
          rolloverSessionDroppedBytes := some 0
          rolloverReportedLoss := some false })
      (Outcome (fun f admission f' =>
        TelemetryRecord
          (fun segmentId =>
            .bufferStatus segmentId event.timestampUs event.sizeBytes event.usedBytes
              event.highWaterBytes event.droppedBytesTotal event.overflowEvents)
          (if admission.rolledOver then 0 else dropped)
          (if admission.rolledOver then false else loss) f admission f')
        handle files backend)
      (fun _ _ => True) := by
  apply triple_guard fun _ _ => keeps_requireActive
  intro current
  apply triple_guard fun _ _ => keeps_requireCurrentSegment
  intro _
  refine triple_conseq (triple_append_outcome ?_ hopen hknown) (fun _ h => h)
    (fun admission _ h => h.mono ?_) fun _ _ h => h
  · exact keepsActive_telemetry fun m admission m' h => ⟨_, _, _, _, h⟩
  · intro f admission f' h
    refine telemetryRecord_of_committed event.timestampUs (fun m m' hm => ?_) h
    rw [statusMutator] at hm
    cases hrolled : admission.rolledOver with
    | false =>
      rw [hrolled] at hm
      exact hm
    | true =>
      rw [hrolled] at hm
      exact hm

theorem segmentOpened_of_committed {snapshot : BackendSnapshot} {startedAt : Timestamp}
    {f f' : SessionFiles} {admission : V2EvidenceAdmission}
    (h : Committed .connection (fun _ m _ => .ok (.segmentOpened m.segments.length))
      (segmentMutator snapshot startedAt) handle f admission f') : SegmentOpened f f' := by
  cases h with
  | @mk r m rolledOver hseq hbound hbody hm hsize =>
    cases hm
    refine ⟨⟨rfl, rfl⟩, rfl, rfl, rfl, rfl, ?_, ?_⟩
    · have hids := map_segmentId_modifyLastSegment (segmentId_closeSegment startedAt "reconnect")
        f.metadata.segments
      show (modifyLastSegment (closeSegment startedAt "reconnect") f.metadata.segments
        ++ [backendSegment snapshot f.metadata.segments.length startedAt]).map
          SegmentMetadata.segmentId = _
      rw [List.map_append, hids]
      rfl
    · show r.evidenceSeq + 1 = _
      rw [hseq]

/-- A session whose next segment was published, or its successor for that segment. -/
def SegmentOutcome (handle : SessionId) (files : SessionFiles) (backend : BackendSnapshot)
    (integrity : UartIntegrity) (id : SessionId) (s : Store) : Prop :=
  ∃ rolledOver next prior f' backend',
    (Landed handle files backend rolledOver id next prior ∧ SegmentOpened next f' ∨
      Landed handle files backend' true id f' prior) ∧
    backend'.integrity = integrity ∧ f'.metadata.state = .active ∧
    Holds handle id f' backend' prior s

theorem triple_publishSegment_outcome {snapshot : BackendSnapshot} (hopen : AllOpenHere st)
    (hknown : Known handle files backend st) :
    Triple (SameButClock st) (publishSegment cfg depth handle snapshot)
      (SegmentOutcome handle files backend snapshot.integrity) (fun _ _ => True) := by
  apply triple_bind (triple_conseq (triple_readClock (clockFree_sameButClock st)) (fun _ h => h)
    (fun _ _ h => h) fun _ _ _ => trivial)
  intro startedAt
  apply triple_bind (R := fun admission => Outcome (fun f _ f' => SegmentOpened f f') handle files
    backend admission)
  · refine triple_conseq (triple_append_outcome ?_ hopen hknown) (fun _ h => h)
      (fun admission _ h => h.mono fun _ _ _ hc => segmentOpened_of_committed hc) fun _ _ h => h
    rintro m admission m' h
    cases h
    rfl
  intro admission
  apply triple_bind (triple_conseq
    (triple_requireActive (I := Outcome (fun f _ f' => SegmentOpened f f') handle files backend
      admission)) (fun _ h => h) (fun _ _ h => h.2.2) fun _ _ _ => trivial)
  intro current
  refine triple_lift_bind (fun _ _ _ _ => trivial) ?_
  intro segmentId _
  refine triple_bind (R := fun _ => SegmentOutcome handle files backend snapshot.integrity
    admission.sessionId) (triple_change ?_) fun _ => triple_pure fun _ h => h
  rintro s ⟨next, prior, f', hlanded, hopened, hactive, hholds⟩
  exact ⟨_, next, prior, f', snapshot.withSegmentId segmentId, .inl ⟨hlanded, hopened⟩, rfl,
    hactive, hholds.session, Dict.get?_set_self _ _ _, hholds.prior⟩

theorem triple_appendV2Segment_outcome {snapshot : BackendSnapshot} (hopen : AllOpenHere st)
    (hknown : Known handle files backend st) :
    Triple (SameButClock st) (appendV2Segment cfg depth handle snapshot)
      (SegmentOutcome handle files backend snapshot.integrity) (fun _ _ => True) := by
  refine triple_require_bind (fun _ _ => trivial) ?_
  intro _
  apply triple_bind (triple_requireActive_known hknown)
  intro current
  apply triple_assume (fun _ h => h.1)
  rintro ⟨rfl, hactive, hget, hbackend⟩
  refine triple_require_bind (fun _ _ => trivial) ?_
  intro _
  refine triple_require_bind (fun _ _ => trivial) ?_
  intro _
  split
  · have hsnapshot : (some (snapshot.withSegmentId 0) <|> st.v2Snapshots.get? handle)
        = some (snapshot.withSegmentId 0) := rfl
    refine triple_conseq (triple_rollover_holds hopen hget hsnapshot) (fun _ h => h.2) ?_
      fun _ _ h => h
    rintro id s ⟨next, prior, hlanded, hactive', hholds⟩
    exact ⟨true, next, some prior, next, snapshot.withSegmentId 0, .inr hlanded, rfl, hactive',
      hholds⟩
  · exact triple_conseq (triple_publishSegment_outcome hopen hknown) (fun _ h => h.2)
      (fun _ _ h => h) fun _ _ h => h

end Calls

/-! ## Recordings -/

/-- A recorder with the session it owns, the backend of that, and the sessions it left. -/
structure Recording where
  recorder : EvidenceRecorder
  files : SessionFiles
  backend : BackendSnapshot
  ended : List (SessionId × SessionFiles)

/-- Where an admission went, among the sessions of a recording. -/
inductive Lands (c : Recording) (backend : BackendSnapshot) :
    Bool → SessionId → SessionFiles → List (SessionId × SessionFiles) → Prop where
  | same : Lands c backend false c.recorder.handle c.files c.ended
  | successor {id : SessionId} {next prior : SessionFiles} (hne : id ≠ c.recorder.handle)
      (hfresh : Fresh id backend next)
      (hprior : EndedOver c.files id prior) :
      Lands c backend true id next (c.ended ++ [(c.recorder.handle, prior)])

/-- Follow an admission, with a reset of the counters where the call makes one. -/
def EvidenceRecorder.follow (r : EvidenceRecorder) (reset : Bool)
    (admission : V2EvidenceAdmission) : EvidenceRecorder :=
  if reset then r.adopt admission else r.publishAdmission admission

/-- The recorder without line state, in the middle of a segment. -/
def EvidenceRecorder.cut (r : EvidenceRecorder) (receiving : Bool) : EvidenceRecorder :=
  { r with receiving := receiving, processor := {}, lineCut := true }

/-- A step that admits no receive data and no report about the receive buffer. -/
inductive RecordingStep (c : Recording) : Recording → Prop where
  /-- Line state is flushed; the source may be gone with it. -/
  | cut {receiving : Bool} (hreceiving : receiving = true → c.recorder.receiving = true) :
      RecordingStep c { c with recorder := c.recorder.cut receiving }
  /-- A record is admitted.  Where a rollover resets the counters no line state is left. -/
  | quiet {reset : Bool} {admission : V2EvidenceAdmission} {next files : SessionFiles}
      {ended : List (SessionId × SessionFiles)}
      (hlands : Lands c c.backend admission.rolledOver admission.sessionId next ended)
      (hquiet : QuietRecord next admission files) (hactive : files.metadata.state = .active)
      (hclean : reset = true → admission.rolledOver = true → c.recorder.processor = {}) :
      RecordingStep c ⟨c.recorder.follow reset admission, files, c.backend, ended⟩
  /-- The session is failed. -/
  | failed {prior : SessionFiles} (hended : EndedFiles c.files prior) :
      RecordingStep c { c with files := prior }

/-- Steps that admit no receive data and no report about the receive buffer. -/
abbrev RecordingPath : Recording → Recording → Prop := Relation.ReflTransGen RecordingStep

/-- A receive event is admitted with what the processor made of it; after a rollover that is
a new processor. -/
inductive Received (event : UartReceiveEvent) (c : Recording) : Recording → Prop where
  | mk {admission : V2EvidenceAdmission} {segmentId : ℕ} {processor : UartCaptureProcessor}
      {next files : SessionFiles} {ended : List (SessionId × SessionFiles)}
      (hreceiving : c.recorder.receiving = true)
      (hlands : Lands c c.backend admission.rolledOver admission.sessionId next ended)
      (hsegment : segmentId = if admission.rolledOver then 0 else c.recorder.storedSegmentId)
      (hprocessor : processor = if admission.rolledOver then {} else c.recorder.processor)
      (hcommitted : UartCommitted { event with segmentId := segmentId }
        (processor.processEvent { event with segmentId := segmentId }).2 next admission files)
      (hactive : files.metadata.state = .active) :
      Received event c
        ⟨EvidenceRecorder.adopt
          { c.recorder with
            processor := (processor.processEvent { event with segmentId := segmentId }).1
            strayed := c.recorder.strayed ||
              !admission.rolledOver && (c.recorder.lineCut || c.recorder.resetMissed) }
          admission, files, c.backend, ended⟩

/-- The dropped bytes of the session with one more overflow. -/
def EvidenceRecorder.projectedOverflow (r : EvidenceRecorder) (droppedBytes : ℕ) : ℕ :=
  max r.sessionDroppedBytes
    (r.connectionStartDroppedBytes + r.explicitOverflowBytes + droppedBytes)

/-- An overflow is admitted. -/
inductive Overflowed (event : BufferOverflowEvent) (c : Recording) : Recording → Prop where
  | mk {admission : V2EvidenceAdmission} {next files : SessionFiles}
      {ended : List (SessionId × SessionFiles)}
      (hreceiving : c.recorder.receiving = true)
      (hlands : Lands c c.backend admission.rolledOver admission.sessionId next ended)
      (htelemetry : TelemetryRecord
        (fun segmentId =>
          .bufferOverflow segmentId event.timestampUs event.channel event.droppedBytes)
        (if admission.rolledOver then event.droppedBytes
          else c.recorder.projectedOverflow event.droppedBytes) true next admission files)
      (hactive : files.metadata.state = .active) :
      Overflowed event c
        ⟨(c.recorder.publishAdmission admission).countOverflow
          (c.recorder.projectedOverflow event.droppedBytes) event.droppedBytes
          admission.rolledOver, files, c.backend, ended⟩

/-- The totals since which the connection counts. -/
def EvidenceRecorder.baselineFor (r : EvidenceRecorder) (event : BufferStatusEvent) : ℕ × ℕ :=
  r.statusBaseline.getD (event.droppedBytesTotal, event.overflowEvents)

/-- The bytes a report says the connection dropped. -/
def EvidenceRecorder.connectionDropped (r : EvidenceRecorder) (event : BufferStatusEvent) : ℕ :=
  max (event.droppedBytesTotal - (r.baselineFor event).1) r.explicitOverflowBytes

def EvidenceRecorder.reportsLoss (r : EvidenceRecorder) (event : BufferStatusEvent) : Bool :=
  r.integrity.lossStatus = .lossReported || 0 < r.connectionDropped event
    || (r.baselineFor event).2 < event.overflowEvents

/-- A status report is admitted. -/
inductive StatusReported (event : BufferStatusEvent) (c : Recording) : Recording → Prop where
  | mk {admission : V2EvidenceAdmission} {next files : SessionFiles}
      {ended : List (SessionId × SessionFiles)}
      (hreceiving : c.recorder.receiving = true)
      (hlands : Lands c c.backend admission.rolledOver admission.sessionId next ended)
      (htelemetry : TelemetryRecord
        (fun segmentId =>
          .bufferStatus segmentId event.timestampUs event.sizeBytes event.usedBytes
            event.highWaterBytes event.droppedBytesTotal event.overflowEvents)
        (if admission.rolledOver then 0
          else c.recorder.connectionStartDroppedBytes + c.recorder.connectionDropped event)
        (if admission.rolledOver then false else c.recorder.reportsLoss event) next admission files)
      (hactive : files.metadata.state = .active) :
      StatusReported event c
        ⟨(EvidenceRecorder.publishAdmission
          { c.recorder with statusBaseline := some (c.recorder.baselineFor event) }
          admission).countStatus (event.droppedBytesTotal, event.overflowEvents)
          (c.recorder.connectionStartDroppedBytes + c.recorder.connectionDropped event)
          (c.recorder.reportsLoss event) admission.rolledOver, files, c.backend, ended⟩

/-- The recorder with an open replacement. -/
def EvidenceRecorder.opened (r : EvidenceRecorder) (handle : SessionId)
    (replacement : Replacement) (files : SessionFiles) : EvidenceRecorder :=
  { r with
    handle := handle
    storedSegmentId := files.metadata.segments.length - 1
    tail := ⟨handle, files.metadata.nextEvidenceSeq⟩
    processor := {}
    lineCut := false
    replacement := some replacement }

/-- A session with no receive data and no report about the receive buffer. -/
structure Blank (backend : BackendSnapshot) (f : SessionFiles) : Prop where
  noUart : f.uartRaw = [] ∧ f.uartEvents = []
  noTelemetry : ∀ r ∈ f.hardwareEvents, r.body.isTelemetry = false
  noPatterns : f.detectedPatterns = []
  backendIntegrity : f.metadata.backendIntegrity = backend.integrity
  oversizedLineCount : f.metadata.oversizedLineCount = 0
  segments : f.metadata.segments.map SegmentMetadata.segmentId = [0]

/-- The segment of a replacement is opened: in the session or a successor, or in a session
created after the last one ended. -/
inductive Opened (snapshot : BackendSnapshot) (manual : Bool) (c : Recording) : Recording → Prop where
  | segment {rolledOver : Bool} {id : SessionId} {next files : SessionFiles}
      {backend : BackendSnapshot} {ended : List (SessionId × SessionFiles)}
      (hfree : c.recorder.receiving = false ∧ c.recorder.replacement = none)
      (hlands : Lands c c.backend rolledOver id next ended ∧ SegmentOpened next files ∨
        Lands c backend true id files ended)
      (hbackend : backend.integrity = snapshot.integrity)
      (hactive : files.metadata.state = .active) :
      Opened snapshot manual c
        ⟨c.recorder.opened id ⟨snapshot, manual, c.recorder.handle, false⟩ files, files, backend,
          ended⟩
  | session {resetMissed : Bool} {id : SessionId} {files : SessionFiles}
      {backend : BackendSnapshot}
      (hfree : c.recorder.receiving = false ∧ c.recorder.replacement = none)
      (hended : c.files.metadata.state ≠ .active) (hblank : Blank backend files)
      (hbackend : backend.integrity = snapshot.integrity) :
      Opened snapshot manual c
        ⟨{ c.recorder.opened id ⟨snapshot, manual, c.recorder.handle, true⟩ files with
            resetMissed := resetMissed }, files, backend,
          c.ended ++ [(c.recorder.handle, c.files)]⟩

/-- The replacement of a recording is connected. -/
inductive Connected (c : Recording) : Recording → Prop where
  | mk {replacement : Replacement} (hreplacement : c.recorder.replacement = some replacement)
      (hactive : c.files.metadata.state = .active) :
      Connected c
        { c with
          recorder :=
            c.recorder.connect replacement (c.files.metadata.segments.length - 1) }

/-- Calls that admit events of the source. -/
def RecorderCall.isEvent : RecorderCall → Bool
  | .uart _ | .overflow _ | .status _ => true
  | _ => false

/-- What a call that returned did to the recording. -/
inductive Performs : RecorderCall → Recording → Recording → Prop where
  | ignored {call : RecorderCall} {c : Recording} (hevent : call.isEvent = true)
      (hreceiving : c.recorder.receiving = false) : Performs call c c
  | uart {event : UartReceiveEvent} {c c₁ c' : Recording} (hpath : RecordingPath c c₁)
      (h : Received event c₁ c') : Performs (.uart event) c c'
  | overflow {event : BufferOverflowEvent} {c c₁ c' : Recording} (hpath : RecordingPath c c₁)
      (h : Overflowed event c₁ c') : Performs (.overflow event) c c'
  | status {event : BufferStatusEvent} {c c₁ c' : Recording} (hpath : RecordingPath c c₁)
      (h : StatusReported event c₁ c') : Performs (.status event) c c'
  | openReplacement {snapshot : BackendSnapshot} {manual : Bool} {c c' : Recording}
      (h : Opened snapshot manual c c') : Performs (.openReplacement snapshot manual) c c'
  | connectReplacement {c c₁ c' : Recording} (hpath : RecordingPath c c₁) (h : Connected c₁ c') :
      Performs .connectReplacement c c'
  | other {call : RecorderCall} {c c' : Recording} (hevent : call.isEvent = false)
      (hconnect : call ≠ .connectReplacement) (hpath : RecordingPath c c') : Performs call c c'

/-- Whether a source is attached after a call that returned. -/
def RecorderCall.attachedAfter (attached : Bool) : RecorderCall → Bool
  | .finishRelease | .disconnect _ _ => false
  | .connectReplacement => true
  | _ => attached

/-- What calls that all returned did to the recording. -/
inductive PerformsAll : List RecorderCall → Recording → Recording → Prop where
  | nil (c : Recording) : PerformsAll [] c c
  | cons {call : RecorderCall} {calls : List RecorderCall} {c c₁ c' : Recording}
      (h : Performs call c c₁)
      (hattached : c₁.recorder.receiving = call.attachedAfter c.recorder.receiving)
      (rest : PerformsAll calls c₁ c') : PerformsAll (call :: calls) c c'
