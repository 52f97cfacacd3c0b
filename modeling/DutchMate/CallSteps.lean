/-
# Calls in steps

Every call of the store is a sequence of steps, some of them rollovers.  A property that
the steps outside a rollover keep, and that a rollover keeps as a whole, is kept by every
call, whatever it returns or raises.
-/
import DutchMate.RolloverSteps

open Throwing

/-! ## Fields and mutators -/

/-- Records about no operation and no attempt, with a mutator that leaves both alone. -/
theorem effective_of_plain {fields : RecordFields} {mutator : MetadataMutator}
    (hfields : ∀ handle m evidenceSeq body, fields handle m evidenceSeq = .ok body →
      body.type ≠ "" ∧ body.Plain)
    (hmutator : ∀ m admission m', mutator m admission = .ok m' →
      AdmissionFrame m m' ∧ SameOwnership m m') :
    Effective .call AnySegments AnySegments fields mutator := by
  intro m admission body m' _ _ hbody hm'
  obtain ⟨htype, hplain⟩ := hfields _ _ _ _ hbody
  obtain ⟨hframe, hsame⟩ := hmutator _ _ _ hm'
  exact ⟨⟨htype, hframe, .plain hplain
    ⟨hsame.activeOperations, hsame.operationSummary, hsame.pendingAttempts⟩⟩, trivial⟩

/-- Fields that read the current segment. -/
theorem plain_of_segment {f : ℕ → RecordBody}
    (hf : ∀ segmentId, (f segmentId).type ≠ "" ∧ (f segmentId).Plain) :
    ∀ (_ : SessionId) (m : Metadata) (_ : ℕ) (body : RecordBody),
      (do
        let segmentId ← currentV2SegmentId m
        pure (f segmentId)) = Except.ok body → body.type ≠ "" ∧ body.Plain := by
  intro handle m evidenceSeq body h
  obtain ⟨segmentId, _, h⟩ := except_bind_eq_ok.mp h
  cases h
  exact hf segmentId

theorem keeps_recordCurrentTimestamp {m m' : Metadata} {timestampUs : ℕ}
    (h : recordCurrentTimestamp m timestampUs = .ok m') :
    AdmissionFrame m m' ∧ SameOwnership m m' := by
  obtain ⟨segmentId, _, h⟩ := except_bind_eq_ok.mp h
  cases h
  exact ⟨⟨.of_ids rfl rfl rfl (Metadata.map_segmentId_recordSegmentTimestamp _ _ _), rfl, rfl,
    rfl, rfl⟩, ⟨rfl, rfl, rfl⟩⟩

theorem keeps_recordV2IntegrityLoss {m m' : Metadata} {droppedBytes : ℕ} {cumulative : Bool}
    {reportedLoss : Option Bool}
    (h : recordV2IntegrityLoss m droppedBytes cumulative reportedLoss = .ok m') :
    AdmissionFrame m m' ∧ SameOwnership m m' := by
  unfold recordV2IntegrityLoss at h
  split at h
  · cases h
  · cases h
    exact ⟨⟨.of_ids rfl rfl rfl rfl, rfl, rfl, rfl, rfl⟩, ⟨rfl, rfl, rfl⟩⟩

theorem effective_lineLimit (facts : LineLimitExceeded) :
    Effective .call AnySegments AnySegments
      (fun _ m _ => do
        let segmentId ← currentV2SegmentId m
        pure (.lineLimitExceeded segmentId facts))
      fun m _ => .ok m := by
  apply effective_of_plain
  · exact plain_of_segment fun _ => ⟨by simp [RecordBody.type], rfl, rfl, rfl⟩
  · rintro m _ m' h
    cases h
    exact ⟨.refl m, .refl m⟩

theorem effective_overflow (event : BufferOverflowEvent) (dropped rolloverDropped : Option ℕ) :
    Effective .call AnySegments AnySegments (overflowFields event)
      (overflowMutator event dropped rolloverDropped) := by
  apply effective_of_plain
  · exact plain_of_segment fun _ => ⟨by simp [RecordBody.type], rfl, rfl, rfl⟩
  · intro m admission m' h
    obtain ⟨m₁, hloss, h⟩ := except_bind_eq_ok.mp h
    obtain ⟨hframe₁, hsame₁⟩ := keeps_recordV2IntegrityLoss hloss
    obtain ⟨hframe₂, hsame₂⟩ := keeps_recordCurrentTimestamp h
    exact ⟨hframe₁.trans hframe₂, hsame₁.trans hsame₂⟩

theorem effective_status (event : BufferStatusEvent) (integrity : StatusIntegrity) :
    Effective .call AnySegments AnySegments (statusFields event) (statusMutator event integrity) := by
  apply effective_of_plain
  · exact plain_of_segment fun _ => ⟨by simp [RecordBody.type], rfl, rfl, rfl⟩
  · intro m admission m' h
    obtain ⟨m₁, hloss, h⟩ := except_bind_eq_ok.mp h
    obtain ⟨hframe₁, hsame₁⟩ := keeps_recordV2IntegrityLoss hloss
    obtain ⟨hframe₂, hsame₂⟩ := keeps_recordCurrentTimestamp h
    exact ⟨hframe₁.trans hframe₂, hsame₁.trans hsame₂⟩

theorem segmentId_closeSegment (endedAt : Timestamp) (endReason : String) (s : SegmentMetadata) :
    (closeSegment endedAt endReason s).segmentId = s.segmentId := by
  unfold closeSegment
  split <;> rfl

theorem effective_connection {eventType : String} (hne : eventType ≠ "") (segmentId : Option ℕ)
    (detail : Json) (disconnectedAt : Timestamp) :
    Effective .call AnySegments AnySegments (connectionFields eventType segmentId detail)
      (connectionMutator eventType disconnectedAt) := by
  apply effective_of_plain
  · intro handle m evidenceSeq body h
    cases segmentId with
    | none =>
      cases h
      exact ⟨hne, rfl, rfl, rfl⟩
    | some segmentId =>
      obtain ⟨current, _, h⟩ := except_bind_eq_ok.mp h
      cases h
      exact ⟨hne, rfl, rfl, rfl⟩
  · intro m admission m' h
    unfold connectionMutator at h
    split at h
    · cases h
      exact ⟨⟨.of_ids rfl rfl rfl (map_segmentId_modifyLastSegment (by intro s; rfl) _), rfl, rfl,
        rfl, rfl⟩, ⟨rfl, rfl, rfl⟩⟩
    · split at h
      · cases h
        exact ⟨⟨.of_ids rfl rfl rfl
          (map_segmentId_modifyLastSegment (segmentId_closeSegment disconnectedAt eventType) _),
          rfl, rfl, rfl, rfl⟩, ⟨rfl, rfl, rfl⟩⟩
      · cases h
        exact ⟨.refl m, .refl m⟩

/-- Room for one more segment. -/
def FewSegments (segments : List SegmentMetadata) : Prop := segments.length < maxSessionSegments

theorem length_modifyLastSegment (f : SegmentMetadata → SegmentMetadata)
    (segments : List SegmentMetadata) : (modifyLastSegment f segments).length = segments.length := by
  induction segments using modifyLastSegment.induct with
  | case1 => rfl
  | case2 s => rfl
  | case3 s t rest ih =>
    rw [modifyLastSegment, List.length_cons, ih]
    rfl

theorem effective_segment (snapshot : BackendSnapshot) (startedAt : Timestamp) :
    Effective .call FewSegments AnySegments (fun _ m _ => .ok (.segmentOpened m.segments.length))
      (segmentMutator snapshot startedAt) := by
  rintro m admission body m' hfew _ hbody hm'
  cases hbody
  cases hm'
  refine ⟨⟨by simp [RecordBody.type], ⟨⟨rfl, rfl, rfl, ?_⟩, rfl, rfl, rfl, rfl⟩,
    .plain ⟨rfl, rfl, rfl⟩ ⟨rfl, rfl, rfl⟩⟩, trivial⟩
  intro hm
  simp only [contiguousNativeSegments, Bool.and_eq_true, decide_eq_true_eq] at hm ⊢
  have hids := map_segmentId_modifyLastSegment (segmentId_closeSegment startedAt "reconnect")
    m.segments
  have hlt : m.segments.length < maxSessionSegments := hfew
  simp only [List.map_append, hids, hm.2, List.length_append, length_modifyLastSegment,
    List.length_singleton, List.range_succ]
  refine ⟨⟨by omega, by omega⟩, rfl⟩

theorem effective_start (operationId : String) (operationType : OperationType)
    (parameters : Json) :
    Effective .call AnySegments AnySegments (startFields operationId operationType parameters)
      (startMutator operationId operationType) := by
  intro m admission body m' _ hseq hbody hm'
  cases hbody
  unfold startMutator at hm'
  split at hm'
  · cases hm'
  · rename_i hnew
    cases hm'
    refine ⟨⟨by simp [RecordBody.type], ⟨.of_ids rfl rfl rfl rfl, rfl, rfl, rfl, rfl⟩, ?_⟩,
      trivial⟩
    exact .started (Bool.eq_false_iff.mpr hnew) (by rw [hseq]) rfl rfl

theorem v2ActiveOperation_eq_ok {m : Metadata} {operationId : String}
    {operation : ActiveOperation} (h : v2ActiveOperation m operationId = .ok operation) :
    m.activeOperations.get? operationId = some operation := by
  unfold v2ActiveOperation at h
  split at h
  · cases h
    assumption
  · cases h

theorem effective_terminal (operationId : String) (result : OperationResult)
    (error : Option SessionError) :
    Effective .call AnySegments AnySegments (terminalFields operationId result error)
      (terminalMutator operationId result.outcome) := by
  intro m admission body m' _ hseq hbody hm'
  obtain ⟨operation, hget, hbody⟩ := except_bind_eq_ok.mp hbody
  cases hbody
  cases hm'
  refine ⟨⟨by simp [RecordBody.type], ⟨.of_ids rfl rfl rfl rfl, rfl, rfl, rfl, rfl⟩, ?_⟩, trivial⟩
  refine .terminal (v2ActiveOperation_eq_ok hget) rfl ?_ rfl
  split <;> rfl

theorem effective_attempt {key : AttemptKey} {f : ℕ → RecordBody}
    (hf : ∀ segmentId, (f segmentId).type ≠ "" ∧ (f segmentId).attempt? = some key ∧
      (f segmentId).result? = none ∧ (f segmentId).operationId? = none) :
    Effective .call AnySegments AnySegments
      (fun _ m _ => do
        let segmentId ← currentV2SegmentId m
        pure (f segmentId))
      (attemptMutator key) := by
  intro m admission body m' _ hseq hbody hm'
  obtain ⟨segmentId, _, hbody⟩ := except_bind_eq_ok.mp hbody
  cases hbody
  obtain ⟨htype, hattempt, hresult, hoperation⟩ := hf segmentId
  unfold attemptMutator at hm'
  split at hm'
  · cases hm'
  · rename_i hnew
    cases hm'
    refine ⟨⟨htype, ⟨.of_ids rfl rfl rfl rfl, rfl, rfl, rfl, rfl⟩, ?_⟩, trivial⟩
    exact .attempt hattempt hresult hoperation (Bool.eq_false_iff.mpr hnew) (by rw [hseq]) rfl rfl

theorem v2PendingAttempt_eq_ok {m : Metadata} {key : AttemptKey} {attempt : PendingAttempt}
    (h : v2PendingAttempt m key = .ok attempt) : m.pendingAttempts.get? key = some attempt := by
  unfold v2PendingAttempt at h
  split at h
  · cases h
    assumption
  · cases h

theorem effective_result {key : AttemptKey} {f : PendingAttempt → RecordBody}
    (hf : ∀ attempt, (f attempt).type ≠ "" ∧ (f attempt).result? = some (key, attempt) ∧
      (f attempt).attempt? = none ∧ (f attempt).operationId? = none) :
    Effective .call AnySegments AnySegments
      (fun _ m _ => do
        let attempt ← v2PendingAttempt m key
        pure (f attempt))
      (resolveMutator key) := by
  intro m admission body m' _ hseq hbody hm'
  obtain ⟨attempt, hget, hbody⟩ := except_bind_eq_ok.mp hbody
  cases hbody
  cases hm'
  obtain ⟨htype, hresult, hattempt, hoperation⟩ := hf attempt
  refine ⟨⟨htype, ⟨.of_ids rfl rfl rfl rfl, rfl, rfl, rfl, rfl⟩, ?_⟩, trivial⟩
  exact .result hresult hattempt hoperation (v2PendingAttempt_eq_ok hget) rfl rfl rfl

/-! ## Invariants of calls -/

/-- A property the steps of a call keep, its rollovers as a whole. -/
structure CallInvariant (cfg : StoreConfig) (depth : ℕ) (I : Store → Prop) : Prop where
  closed : Closed cfg .call I
  rollover : ∀ d, depth ≤ d + 1 → ∀ handle reason snapshot,
    Triple I (rolloverV2Locked cfg (appendV2RecordLocked cfg d) handle reason snapshot)
      (fun id st => I st ∧ ReceivingAt handle id st) (fun _ => I)

/-- What holds of the segments of one session, if it is on disk. -/
def SegmentsAt (S : List SegmentMetadata → Prop) (id : SessionId) (st : Store) : Prop :=
  ∀ files, st.sessions.get? id = some files → S files.metadata.segments

theorem keeps_requireActive {I : Store → Prop} {handle : SessionId} :
    Triple I (requireActive handle) (fun _ => I) (fun _ => I) :=
  triple_conseq triple_requireActive (fun _ h => h) (fun _ _ h => h.2.2) fun _ _ h => h

namespace CallInvariant

variable {cfg : StoreConfig} {depth : ℕ} {I : Store → Prop}

/-- An append to segments in `S`, which those of a fresh session are. -/
theorem append (h : CallInvariant cfg depth I) {S T : List SegmentMetadata → Prop}
    {handle : SessionId} {stream : EvidenceStream} {fields : RecordFields}
    {mutator : MetadataMutator} (heffective : Effective .call S T fields mutator)
    (hfresh : ∀ segments, OneSegment segments → S segments) :
    Triple (fun st => I st ∧ SegmentsAt S handle st)
      (appendRecord cfg depth handle stream fields mutator) (fun _ => I) (fun _ => I) := by
  cases depth with
  | zero => exact triple_raise fun _ h => h.1
  | succ depth =>
    -- The record is read and bounded in the session that takes it, before and after a rollover.
    have hread : ∀ {handle : SessionId}
        {k : SessionFiles → EvidenceRecord → StoreProg V2EvidenceAdmission},
        (∀ files r, S files.metadata.segments → files.metadata.state = .active →
          files.metadata.sessionId = handle → r.evidenceSeq = files.metadata.nextEvidenceSeq →
          r.size ≤ maxV2JsonlRecordBytes →
          fields handle files.metadata files.metadata.nextEvidenceSeq = .ok r.body →
          Triple (fun st => st.sessions.get? handle = some files ∧ I st) (k files r) (fun _ => I)
            (fun _ => I)) →
        Triple (fun st => I st ∧ SegmentsAt S handle st)
          (do
            let files ← requireActive handle
            let record ← boundedRecord cfg handle files.metadata fields
            k files record)
          (fun _ => I) (fun _ => I) := by
      intro handle k hk
      apply triple_bind
        (triple_conseq triple_requireActive (fun _ h => h) (fun _ _ h => h) fun _ _ h => h.1)
      intro files
      apply triple_assume (fun _ h => And.intro h.1 (h.2.2.2 _ h.2.1))
      rintro ⟨⟨hactive, hid⟩, hS⟩
      apply triple_bind
        (triple_conseq
          (triple_boundedRecord (h.closed.clockFree.and_get? handle files))
          (fun _ h => ⟨h.2.1, h.2.2.1⟩) (fun _ _ h => h) fun _ _ h => h.2)
      intro r
      apply triple_assume (fun _ h => h.1)
      rintro ⟨hseq, hbound, hfields⟩
      exact triple_conseq (hk files r hS hactive hid hseq hbound hfields) (fun _ h => h.2)
        (fun _ _ h => h) fun _ _ h => h
    apply hread
    intro files r hS hactive hid hseq hbound hfields
    split
    · rename_i hfits
      exact triple_conseq
        (triple_commitRecord h.closed heffective hS hactive hid hseq hbound hfields hfits)
        (fun _ h => h) (fun _ _ h => h.1) fun _ _ h => h
    · apply triple_bind
        (triple_conseq (h.rollover depth le_rfl _ _ _) (fun _ h => h.2) (fun _ _ h => h)
          fun _ _ h => h)
      intro successor
      refine triple_conseq (hread ?_) ?_ (fun _ _ h => h) fun _ _ h => h
      · intro files r hS hactive hid hseq hbound hfields
        apply triple_require_bind (fun _ h => h.2)
        intro hfits
        exact triple_conseq
          (triple_commitRecord h.closed heffective hS hactive hid hseq hbound hfields hfits)
          (fun _ h => h) (fun _ _ h => h.1) fun _ _ h => h
      · rintro st ⟨hst, files, hget, hreceiving⟩
        refine ⟨hst, fun files' hget' => hfresh _ ?_⟩
        cases hget.symm.trans hget'
        exact hreceiving.segments

/-- An append to any segments. -/
theorem appendAny (h : CallInvariant cfg depth I) {handle : SessionId} {stream : EvidenceStream}
    {fields : RecordFields} {mutator : MetadataMutator}
    (heffective : Effective .call AnySegments AnySegments fields mutator) :
    Keeps I (appendRecord cfg depth handle stream fields mutator) :=
  triple_conseq (h.append heffective fun _ _ => trivial) (fun _ h => ⟨h, fun _ _ => trivial⟩)
    (fun _ _ h => h) fun _ _ h => h

end CallInvariant

/-! ## Calls -/

section Calls

variable {cfg : StoreConfig} {depth : ℕ} {I : Store → Prop}

theorem keeps_validateV2Identifier {value field : String} :
    Keeps I (validateV2Identifier value field) := by
  unfold validateV2Identifier
  split
  · exact triple_raise fun _ h => h
  · split
    · exact triple_raise fun _ h => h
    · split
      · exact triple_raise fun _ h => h
      · exact triple_pure fun _ h => h

theorem triple_validateV2Identifier {value field : String} :
    Triple I (validateV2Identifier value field) (fun _ st => value ≠ "" ∧ I st) (fun _ => I) := by
  unfold validateV2Identifier
  split
  · exact triple_raise fun _ h => h
  · rename_i hne
    split
    · exact triple_raise fun _ h => h
    · split
      · exact triple_raise fun _ h => h
      · exact triple_pure fun _ h => ⟨fun hv => hne (.inl hv), h⟩

theorem keeps_requireMatching {a : UartAdmission} : Keeps I (requireMatching a) := by
  unfold requireMatching
  split
  · exact triple_pure fun _ h => h
  · refine triple_require_bind (fun _ h => h) ?_
    intro _
    refine triple_require_bind (fun _ h => h) ?_
    intro _
    exact triple_require (fun _ _ h => h) fun _ _ h => h

theorem keeps_requireCurrentSegment {files : SessionFiles} {segmentId : ℕ} {message : String} :
    Keeps I (requireCurrentSegment files segmentId message) := by
  refine triple_lift_bind (fun _ _ _ h => h) ?_
  intro current _
  exact triple_require (fun _ _ h => h) fun _ _ h => h

theorem keeps_v2TerminalProjection {result : OperationResult} :
    Keeps I (v2TerminalProjection result) := by
  refine triple_require_bind (fun _ h => h) ?_
  intro _
  refine triple_require_bind (fun _ h => h) ?_
  intro _
  refine triple_require_bind (fun _ h => h) ?_
  intro _
  apply triple_bind (R := fun _ => I)
  · unfold terminalError
    split
    · exact triple_pure fun _ h => h
    · apply triple_bind keeps_validateV2Identifier
      intro _
      exact triple_pure fun _ h => h
  intro error
  refine triple_require_bind (fun _ h => h) ?_
  intro _
  refine triple_require_bind (fun _ h => h) ?_
  intro _
  exact triple_pure fun _ h => h

theorem keeps_validateOperationId {operationId : Option String} :
    Keeps I (validateOperationId operationId) := by
  cases operationId with
  | none => exact triple_pure fun _ h => h
  | some operationId => exact keeps_validateV2Identifier

theorem keeps_dropResult {α : Type} {m : StoreProg α} (h : Keeps I m) : Keeps I (dropResult m) := by
  apply triple_bind h
  intro _
  exact triple_pure fun _ h => h

namespace CallInvariant

/-- A UART unit prepared for the current files is committed by one step. -/
theorem commitUartUnit (h : CallInvariant cfg depth I) {handle : SessionId} {files : SessionFiles}
    {event : UartReceiveEvent} {captureResult : Option UartCaptureResult} {unit : UartUnit}
    {rolledOver : Bool} (hactive : files.metadata.state = .active)
    (hid : files.metadata.sessionId = handle) (hunit : UnitOf files event unit)
    (hne : event.data ≠ []) (hfits : files.metadata.unitFits unit.unitBytes = true) :
    Triple (fun st => st.sessions.get? handle = some files ∧ I st)
      (commitUartUnit cfg handle files event captureResult unit rolledOver) (fun _ => I)
      (fun _ => I) := by
  apply triple_bind (R := fun _ => I)
  · apply triple_onPersistenceError
    · refine triple_require_bind (fun _ h => h.2) ?_
      intro hsize
      exact triple_change fun st hst =>
        h.closed _ _ (.admitted hst.1 hactive hid (.uart hunit hne hfits) hsize rfl
          ⟨rfl, rfl, rfl⟩) hst.2
    · intro e
      exact keeps_failActive h.closed
  · intro _
    exact triple_pure fun _ h => h

theorem admitInSuccessor (h : CallInvariant cfg depth I) {handle : SessionId} {a : UartAdmission}
    (hne : a.event.data ≠ []) : Keeps I (admitInSuccessor cfg depth handle a) := by
  apply triple_bind
    (triple_conseq (h.rollover depth (Nat.le_succ _) _ _ _) (fun _ h => h) (fun _ _ h => h.1)
      fun _ _ h => h)
  intro successor
  apply triple_bind triple_requireActive
  intro files
  apply triple_assume (fun _ h => h.1)
  rintro ⟨hactive, hid⟩
  refine triple_lift_bind (fun _ _ _ h => h.2.2) ?_
  intro segmentId _
  apply triple_bind (R := fun _ st => st.sessions.get? successor = some files ∧ I st)
  · exact triple_conseq keeps_requireMatching (fun _ h => h.2) (fun _ _ h => h) fun _ _ h => h.2
  intro _
  apply triple_bind
    (triple_conseq (triple_uartUnit (h.closed.clockFree.and_get? successor files)) (fun _ h => h)
      (fun _ _ h => h) fun _ _ h => h.2)
  intro unit
  apply triple_assume (fun _ h => h.1)
  intro hunit
  refine triple_require_bind (fun _ h => h.2.2) ?_
  intro hfits
  exact triple_conseq (h.commitUartUnit hactive hid hunit hne hfits) (fun _ h => h.2)
    (fun _ _ h => h) fun _ _ h => h

theorem appendV2UartReceive (h : CallInvariant cfg depth I) {handle : SessionId}
    {a : UartAdmission} : Keeps I (appendV2UartReceive cfg depth handle a) := by
  apply triple_bind (R := fun _ st => a.event.data ≠ [] ∧ I st)
  · refine triple_require_bind (fun _ h => h) ?_
    intro hdata
    apply triple_bind keeps_requireMatching
    intro _
    refine triple_require_bind (fun _ h => h) ?_
    intro _
    exact triple_require (fun _ _ h => ⟨hdata.1, h⟩) fun _ _ h => h
  intro _
  apply triple_assume (fun _ h => h.1)
  intro hne
  apply triple_bind
    (triple_conseq triple_requireActive (fun _ h => h.2) (fun _ _ h => h) fun _ _ h => h)
  intro files
  apply triple_assume (fun _ h => h.1)
  rintro ⟨hactive, hid⟩
  apply triple_bind
    (triple_conseq (triple_uartUnit (h.closed.clockFree.and_get? handle files)) (fun _ h => h.2)
      (fun _ _ h => h) fun _ _ h => h.2)
  intro unit
  apply triple_assume (fun _ h => h.1)
  intro hunit
  split
  · rename_i hfits
    exact triple_conseq (h.commitUartUnit hactive hid hunit hne hfits) (fun _ h => h.2)
      (fun _ _ h => h) fun _ _ h => h
  · exact triple_conseq (h.admitInSuccessor hne) (fun _ h => h.2.2) (fun _ _ h => h)
      fun _ _ h => h

theorem appendV2LineBoundary (h : CallInvariant cfg depth I) {handle : SessionId}
    {results : List UartCaptureResult} :
    Keeps I (appendV2LineBoundary cfg depth handle results) := by
  apply triple_foldlM (I := fun _ => I)
  intro handle line _
  refine triple_lift_bind (fun _ _ _ h => h) ?_
  intro facts _
  apply triple_bind (h.appendAny (effective_lineLimit facts))
  intro admission
  exact triple_pure fun _ h => h

theorem appendV2BufferOverflow (h : CallInvariant cfg depth I) {handle : SessionId}
    {event : BufferOverflowEvent} {dropped rolloverDropped : Option ℕ} :
    Keeps I (appendV2BufferOverflow cfg depth handle event dropped rolloverDropped) := by
  apply triple_bind keeps_requireActive
  intro files
  apply triple_bind keeps_requireCurrentSegment
  intro _
  exact h.appendAny (effective_overflow event dropped rolloverDropped)

theorem appendV2BufferStatus (h : CallInvariant cfg depth I) {handle : SessionId}
    {event : BufferStatusEvent} {integrity : StatusIntegrity} :
    Keeps I (appendV2BufferStatus cfg depth handle event integrity) := by
  apply triple_bind keeps_requireActive
  intro files
  apply triple_bind keeps_requireCurrentSegment
  intro _
  exact h.appendAny (effective_status event integrity)

theorem appendV2ConnectionEvent (h : CallInvariant cfg depth I) {handle : SessionId}
    {eventType : String} {segmentId : Option ℕ} {detail : Json} :
    Keeps I (appendV2ConnectionEvent cfg depth handle eventType segmentId detail) := by
  apply triple_bind triple_validateV2Identifier
  intro _
  apply triple_assume (fun _ h => h.1)
  intro hne
  apply triple_bind
    (triple_conseq keeps_requireActive (fun _ h => h.2) (fun _ _ h => h) fun _ _ h => h)
  intro files
  apply triple_bind (R := fun _ => I)
  · unfold requireSegmentOf
    split
    · exact triple_pure fun _ h => h
    · exact keeps_requireCurrentSegment
  intro _
  apply triple_bind (triple_readClock h.closed.clockFree)
  intro disconnectedAt
  exact h.appendAny (effective_connection hne segmentId detail disconnectedAt)

/-- A session below the segment limit takes one more segment. -/
theorem publishSegment (h : CallInvariant cfg depth I) {handle : SessionId}
    {snapshot : BackendSnapshot} :
    Triple (fun st => I st ∧ SegmentsAt FewSegments handle st)
      (publishSegment cfg depth handle snapshot) (fun _ => I) (fun _ => I) := by
  have hclock : ClockFree fun st => I st ∧ SegmentsAt FewSegments handle st := fun st n hst =>
    ⟨h.closed.clockFree st n hst.1, hst.2⟩
  apply triple_bind
    (triple_conseq (triple_readClock hclock) (fun _ h => h) (fun _ _ h => h) fun _ _ h => h.1)
  intro startedAt
  apply triple_bind (h.append (effective_segment snapshot startedAt) ?_)
  · intro admission
    apply triple_bind keeps_requireActive
    intro files
    refine triple_lift_bind (fun _ _ _ h => h) ?_
    intro segmentId _
    apply triple_bind (R := fun _ => I)
    · exact triple_change fun st hst => h.closed.quiet hst rfl rfl rfl rfl
    · intro _
      exact triple_pure fun _ h => h
  · intro segments hone
    show segments.length < maxSessionSegments
    rw [show segments.length = 1 from hone]
    decide

theorem appendV2Segment (h : CallInvariant cfg depth I)
    (hsegments : ∀ st, I st → ∀ id files, st.sessions.get? id = some files →
      contiguousNativeSegments files.metadata = true)
    {handle : SessionId} {snapshot : BackendSnapshot} :
    Keeps I (appendV2Segment cfg depth handle snapshot) := by
  refine triple_require_bind (fun _ h => h) ?_
  intro _
  apply triple_bind
    (triple_conseq triple_requireActive (fun _ h => h) (fun _ _ h => h.2) fun _ _ h => h)
  intro files
  refine triple_require_bind (fun _ h => h.2) ?_
  intro _
  refine triple_require_bind (fun _ h => h.2) ?_
  intro _
  split
  · exact triple_conseq (h.rollover depth (Nat.le_succ _) _ _ _) (fun _ h => h.2)
      (fun _ _ h => h.1) fun _ _ h => h
  · rename_i hne
    refine triple_conseq h.publishSegment (fun st hst => ⟨hst.2, ?_⟩) (fun _ _ h => h)
      fun _ _ h => h
    intro files' hget
    cases hst.1.symm.trans hget
    have hcontiguous := hsegments st hst.2 _ _ hst.1
    simp only [contiguousNativeSegments, Bool.and_eq_true, decide_eq_true_eq] at hcontiguous
    show files.metadata.segments.length < maxSessionSegments
    omega

theorem startV2Operation (h : CallInvariant cfg depth I) {handle : SessionId}
    {operationId : String} {operationType : OperationType} {parameters : Json} :
    Keeps I (startV2Operation cfg depth handle operationId operationType parameters) := by
  apply triple_bind keeps_validateV2Identifier
  intro _
  apply triple_bind keeps_requireActive
  intro files
  refine triple_require_bind (fun _ h => h) ?_
  intro _
  exact h.appendAny (effective_start operationId operationType parameters)

theorem extendLeaseOf (h : CallInvariant cfg depth I) {handle : SessionId}
    {operationId : String} : Keeps I (extendLeaseOf handle operationId) := by
  apply triple_look
  intro lease
  cases lease with
  | none => exact triple_pure fun _ h => h.2
  | some lease =>
    apply triple_bind
      (triple_conseq (triple_sessionFiles (I := I)) (fun _ h => h.2) (fun _ _ h => h.2)
        fun _ _ h => h)
    intro files
    split
    · exact triple_raise fun _ h => h
    · refine triple_require_bind (fun _ h => h) ?_
      intro _
      exact triple_change fun st hst => h.closed.quiet hst rfl rfl rfl rfl

theorem completeV2Operation (h : CallInvariant cfg depth I) {handle : SessionId}
    {operationId : String} {result : OperationResult} :
    Keeps I (completeV2Operation cfg depth handle operationId result) := by
  apply triple_bind keeps_validateV2Identifier
  intro _
  apply triple_bind keeps_v2TerminalProjection
  intro error
  apply triple_bind keeps_requireActive
  intro files
  refine triple_lift_bind (fun _ _ _ h => h) ?_
  intro _ _
  apply triple_bind (h.appendAny (effective_terminal operationId result error))
  intro admission
  apply triple_bind h.extendLeaseOf
  intro _
  exact triple_pure fun _ h => h

theorem appendAttempt (h : CallInvariant cfg depth I) {handle : SessionId} {key : AttemptKey}
    {operationId : Option String} {fields : RecordFields}
    (heffective : Effective .call AnySegments AnySegments fields (attemptMutator key)) :
    Keeps I (appendAttempt cfg depth handle key operationId fields) := by
  apply triple_bind
    (triple_conseq (triple_sessionFiles (I := I)) (fun _ h => h) (fun _ _ h => h.2)
      fun _ _ h => h)
  intro journal
  refine triple_lift_bind (fun _ _ _ h => h) ?_
  intro seen _
  refine triple_require_bind (fun _ h => h) ?_
  intro _
  apply triple_bind keeps_requireActive
  intro files
  apply triple_bind (R := fun _ => I)
  · unfold requireV2OperationActive
    split
    · exact triple_pure fun _ h => h
    · exact triple_require (fun _ _ h => h) fun _ _ h => h
  intro _
  refine triple_require_bind (fun _ h => h) ?_
  intro _
  exact h.appendAny heffective

theorem appendResult (h : CallInvariant cfg depth I) {handle : SessionId} {key : AttemptKey}
    {body : PendingAttempt → RecordBody}
    (hbody : ∀ attempt, (body attempt).type ≠ "" ∧ (body attempt).result? = some (key, attempt) ∧
      (body attempt).attempt? = none ∧ (body attempt).operationId? = none) :
    Keeps I (appendResult cfg depth handle key body) := by
  apply triple_bind keeps_requireActive
  intro files
  refine triple_lift_bind (fun _ _ _ h => h) ?_
  intro _ _
  apply triple_bind (h.appendAny (effective_result hbody))
  intro admission
  apply triple_bind h.closed.applyRetention
  intro _
  exact triple_pure fun _ h => h

theorem terminalizeSession (h : CallInvariant cfg depth I) {handle : SessionId} {t : Terminal}
    (ht : t.state ≠ .active) : Keeps I (terminalizeSession cfg handle t) := by
  apply triple_bind (R := fun _ => I)
  · apply keeps_terminalize h.closed ht
    rintro m m' hm'
    cases hm'
    exact ⟨m.localRecording, rfl⟩
  intro _
  exact h.closed.applyRetention

/-- Whatever a call returns or raises, it keeps the invariant. -/
theorem runCall (h : CallInvariant cfg depth I)
    (hsegments : ∀ st, I st → ∀ id files, st.sessions.get? id = some files →
      contiguousNativeSegments files.metadata = true)
    (call : StoreCall) : Keeps I (runCall cfg depth call) := by
  cases call with
  | createV2Session profile snapshot =>
    apply keeps_dropResult
    exact triple_conseq
      (triple_createV2SessionLocked h.closed h.closed.clockFree (fun _ h => h) fun _ _ => rfl)
      (fun _ h => h) (fun _ _ h => h.1) fun _ _ h => h
  | appendV2UartReceive => exact keeps_dropResult h.appendV2UartReceive
  | appendV2LineBoundary => exact keeps_dropResult h.appendV2LineBoundary
  | appendV2BufferOverflow => exact keeps_dropResult h.appendV2BufferOverflow
  | appendV2BufferStatus => exact keeps_dropResult h.appendV2BufferStatus
  | appendV2ConnectionEvent => exact keeps_dropResult h.appendV2ConnectionEvent
  | appendV2Segment => exact keeps_dropResult (h.appendV2Segment hsegments)
  | startV2Operation => exact keeps_dropResult h.startV2Operation
  | completeV2Operation => exact keeps_dropResult h.completeV2Operation
  | appendV2UartTxAttempt handle attemptId data operationId transformation =>
    apply keeps_dropResult
    apply triple_bind keeps_validateV2Identifier
    intro _
    apply triple_bind keeps_validateOperationId
    intro _
    refine triple_require_bind (fun _ h => h) ?_
    intro _
    exact h.appendAttempt
      (effective_attempt fun _ => ⟨by simp [RecordBody.type], rfl, rfl, rfl⟩)
  | appendV2UartTxResult handle attemptId status acceptedBytes =>
    apply keeps_dropResult
    apply triple_bind keeps_validateV2Identifier
    intro _
    apply triple_bind keeps_validateV2Identifier
    intro _
    exact h.appendResult fun _ => ⟨by simp [RecordBody.type], rfl, rfl, rfl⟩
  | appendV2ControlAttempt handle attemptId role provider parameters operationId =>
    apply keeps_dropResult
    apply triple_bind keeps_validateV2Identifier
    intro _
    apply triple_bind keeps_validateV2Identifier
    intro _
    apply triple_bind keeps_validateV2Identifier
    intro _
    apply triple_bind keeps_validateOperationId
    intro _
    exact h.appendAttempt
      (effective_attempt fun _ => ⟨by simp [RecordBody.type], rfl, rfl, rfl⟩)
  | appendV2ControlResult handle attemptId status deviceTimestampUs =>
    apply keeps_dropResult
    apply triple_bind keeps_validateV2Identifier
    intro _
    apply triple_bind keeps_validateV2Identifier
    intro _
    exact h.appendResult fun _ => ⟨by simp [RecordBody.type], rfl, rfl, rfl⟩
  | completeSession =>
    apply h.terminalizeSession
    intro hstate
    cases hstate
  | failSession =>
    refine triple_require_bind (fun _ h => h) ?_
    intro _
    apply h.terminalizeSession
    intro hstate
    cases hstate
  | abandonSession =>
    apply h.terminalizeSession
    intro hstate
    cases hstate

end CallInvariant

end Calls

/-- Every sequence of calls keeps the invariant. -/
theorem CallInvariant.runCalls {cfg : StoreConfig} {depth : ℕ} {I : Store → Prop}
    (h : CallInvariant cfg depth I)
    (hsegments : ∀ st, I st → ∀ id files, st.sessions.get? id = some files →
      contiguousNativeSegments files.metadata = true)
    (calls : List StoreCall) {st : Store} (hst : I st) : I (runCalls cfg depth calls st) := by
  induction calls generalizing st with
  | nil => exact hst
  | cons call calls ih => exact ih (state_of_keeps (h.runCall hsegments call) hst)
