/-
# Rollover in steps

A rollover creates the successor, records itself there, moves the operations over one by
one and links the predecessor.  What is moved is small next to the evidence budget, so no
record of it can roll the successor over in turn.
-/
import DutchMate.StoreSteps

open Throwing

/-! ## Sizes -/

theorem length_escapeChar_padded (width n : ℕ) :
    ∀ c ∈ padded width n, (Json.escapeChar c).length = 1 := by
  have hdigit : ∀ d < 10, (Json.escapeChar (Nat.digitChar d)).length = 1 := by decide
  induction width generalizing n with
  | zero => simp [padded]
  | succ width ih =>
    intro c hc
    rcases List.mem_append.mp hc with hc | hc
    · exact ih _ c hc
    · rw [List.mem_singleton.mp hc]
      exact hdigit _ (Nat.mod_lt _ (by decide))

/-- A moment takes 22 bytes. -/
theorem size_timestamp (t : Timestamp) : t.toJson.size = 22 := by
  have hplain : ∀ c ∈ t.chars, (Json.escapeChar c).length = 1 := by
    intro c hc
    simp only [Timestamp.chars, List.mem_append, List.mem_cons, List.not_mem_nil, or_false] at hc
    rcases hc with ((((((hc | rfl | hc) | rfl | hc) | rfl | hc) | rfl | hc) | rfl | hc) | rfl) <;>
      first | exact length_escapeChar_padded _ _ c hc | decide
  show Json.size (.str (String.ofList t.chars)) = 22
  rw [Json.size_str, Json.strSize_of_plain hplain, t.length_chars]

/-- The bytes an operation takes in the metadata. -/
def operationEntrySize (e : String × ActiveOperation) : ℕ :=
  Json.strSize e.1 + 1 + e.2.toJson.size

theorem size_operationsJson (d : Dict String ActiveOperation) :
    (operationsJson d).size
      = 2 + (d.entries.map operationEntrySize).sum + (d.entries.length - 1) := by
  have hperm := d.sortedEntries_perm
  rw [operationsJson, Json.size_obj, List.map_map, List.length_map, hperm.length_eq]
  congr 2
  exact (hperm.map _).sum_eq

/-- A new operation adds at least its entry. -/
theorem size_operationsJson_set {d : Dict String ActiveOperation} {e : String × ActiveOperation}
    (h : e.1 ∉ d.keys) :
    (operationsJson d).size + operationEntrySize e ≤ (operationsJson (d.set e.1 e.2)).size := by
  rw [size_operationsJson, size_operationsJson, Dict.entries_set_of_notMem _ _ h]
  have he : operationEntrySize (e.1, e.2) = operationEntrySize e := rfl
  simp only [List.map_append, List.sum_append, List.map_cons, List.map_nil, List.sum_cons,
    List.sum_nil, List.length_append, List.length_singleton, he]
  omega

/-- The active operations are a field of the document. -/
theorem size_activeOperations_lt (m : Metadata) :
    (operationsJson m.activeOperations).size < m.size := by
  have hfield : Json.strSize "active_operations" + 1 + (operationsJson m.activeOperations).size
      < m.toJson.size := Json.size_field_lt List.mem_cons_self
  rw [Metadata.size]
  omega

/-- A session an operation came from takes a range of the entry. -/
theorem size_operationEntry {operationId : String} {operationType : OperationType}
    {ranges : List OperationRange} {r s : OperationRange} :
    Json.strSize operationId + Json.strSize operationType.name + r.toJson.size + s.toJson.size + 33
      ≤ operationEntrySize (operationId, ⟨operationType, ranges ++ [r] ++ [s]⟩) := by
  have htype : Json.strSize "operation_type" = 16 := by decide
  have hranges : Json.strSize "ranges" = 8 := by decide
  simp only [operationEntrySize, ActiveOperation.toJson, Json.size_obj, Json.size_arr,
    Json.size_str, List.map_cons, List.map_nil, List.map_append, List.sum_cons, List.sum_nil,
    List.sum_append, List.length_cons, List.length_nil, List.length_map, List.length_append, htype,
    hranges]
  omega

/-- The record that continues an operation is no longer than the entry it leads to. -/
theorem size_operationContinued (evidenceSeq : ℕ) (recordedAt : Timestamp) (operationId : String)
    (operationType : OperationType) (handle successor : SessionId) (ranges : List OperationRange)
    (start stop : ℕ) :
    (⟨evidenceSeq, recordedAt, .operationContinued operationId operationType handle⟩ :
        EvidenceRecord).size
      ≤ operationEntrySize (operationId, ⟨operationType,
          ranges ++ [⟨handle, start, some stop⟩] ++ [⟨successor, evidenceSeq, none⟩]⟩) := by
  refine le_trans ?_ size_operationEntry
  have h₁ : Json.strSize "evidence_seq" = 14 := by decide
  have h₂ : Json.strSize "type" = 6 := by decide
  have h₃ : Json.strSize "operation_continued" = 21 := by decide
  have h₄ : Json.strSize "recorded_at" = 13 := by decide
  have h₅ : Json.strSize "operation_id" = 14 := by decide
  have h₆ : Json.strSize "operation_type" = 16 := by decide
  have h₇ : Json.strSize "previous_session_id" = 21 := by decide
  have h₈ : Json.strSize "end_evidence_seq_exclusive" = 28 := by decide
  have h₉ : Json.strSize "session_id" = 12 := by decide
  have h₁₀ : Json.strSize "start_evidence_seq" = 20 := by decide
  simp only [EvidenceRecord.size, EvidenceRecord.serialized, EvidenceRecord.toJson,
    RecordBody.fields, RecordBody.type, OperationRange.toJson, Json.opt, List.length_append,
    Json.length_bytes, Json.size_obj, Json.size_str, Json.size_null, size_timestamp,
    List.map_cons, List.map_nil, List.sum_cons, List.sum_nil, List.length_cons, List.length_nil,
    h₁, h₂, h₃, h₄, h₅, h₆, h₇, h₈, h₉, h₁₀]
  omega

/-! ## Moving ownership -/

/-- The last range of every active operation is open and in this session. -/
def OpenHere (id : SessionId) (m : Metadata) : Prop :=
  ∀ operationId operation, m.activeOperations.get? operationId = some operation →
    ∃ ranges start, operation.ranges = ranges ++ [⟨id, start, none⟩]

theorem closeLastRange_concat (endEvidenceSeq : ℕ) (ranges : List OperationRange)
    (r : OperationRange) :
    closeLastRange endEvidenceSeq (ranges ++ [r])
      = ranges ++ [{ r with endEvidenceSeqExclusive := some endEvidenceSeq }] := by
  induction ranges with
  | nil => rfl
  | cons a ranges ih =>
    cases ranges with
    | nil => rfl
    | cons b ranges =>
      rw [List.cons_append, List.cons_append, closeLastRange, ← List.cons_append, ih]
      rfl

/-- An operation handed over by this session. -/
def HandedOver (handle : SessionId) (e : String × ActiveOperation) : Prop :=
  ∃ ranges start stop, e.2.ranges = ranges ++ [⟨handle, start, some stop⟩]

theorem handedOver_of_openHere {handle : SessionId} {m : Metadata} (h : OpenHere handle m) :
    ∀ e ∈ continuedOperations m, HandedOver handle e := by
  intro e he
  obtain ⟨⟨operationId, operation⟩, hmem, rfl⟩ := List.mem_map.mp he
  obtain ⟨ranges, start, hranges⟩ :=
    h operationId operation ((Dict.mem_sortedEntries_iff _ _ _).mp hmem)
  refine ⟨ranges, start, m.nextEvidenceSeq, ?_⟩
  show closeLastRange m.nextEvidenceSeq operation.ranges = _
  rw [hranges, closeLastRange_concat]

theorem nodup_continuedOperations (m : Metadata) :
    ((continuedOperations m).map Prod.fst).Nodup := by
  rw [continuedOperations, List.map_map]
  exact Dict.nodup_sortedEntries m.activeOperations

/-- A successor while the operations of its predecessor are moved into it. -/
structure Receiving (handle successor : SessionId) (files : SessionFiles) : Prop where
  active : files.metadata.state = .active
  sessionId : files.metadata.sessionId = successor
  predecessor : files.metadata.predecessorSessionId = some handle
  segments : OneSegment files.metadata.segments
  budget : minV2EvidenceBudgetBytes ≤ files.metadata.evidenceBudgetBytes
  accounting : files.metadata.evidenceBytesWritten = files.evidenceBytes
  size : files.metadata.size ≤ metadataMaxBytes
  bytes : files.evidenceBytes
    ≤ maxV2JsonlRecordBytes + 3 + (operationsJson files.metadata.activeOperations).size

/-- There is room for one more record. -/
theorem Receiving.room {handle successor : SessionId} {files : SessionFiles}
    (h : Receiving handle successor files) {r : EvidenceRecord}
    (hr : r.size ≤ maxV2JsonlRecordBytes) : files.metadata.unitFits r.size = true := by
  have hlt := size_activeOperations_lt files.metadata
  have hsize := h.size
  have hbudget := h.budget
  have hbytes := h.bytes
  have haccounting := h.accounting
  simp only [metadataMaxBytes, minV2EvidenceBudgetBytes, maxV2JsonlRecordBytes] at *
  rw [Metadata.unitFits, decide_eq_true_eq]
  omega

/-- A session just created for a rollover. -/
theorem receiving_created (cfg : StoreConfig) {n : ℕ} {startedAt : Timestamp}
    {profile : DutProfile} {snapshot : BackendSnapshot} {handle : SessionId}
    (hbudget : minV2EvidenceBudgetBytes ≤ cfg.evidenceBudgetBytes)
    (hsize : (createdSession cfg n startedAt profile snapshot (some handle)).size
      ≤ metadataMaxBytes) :
    Receiving handle (newSessionId startedAt (cfg.idFactory n))
      { metadata := createdSession cfg n startedAt profile snapshot (some handle) } where
  active := rfl
  sessionId := rfl
  predecessor := rfl
  segments := rfl
  budget := hbudget
  accounting := rfl
  size := hsize
  bytes := by
    show 3 ≤ _
    omega

theorem admissionFrame_carryConnection (predecessor : Metadata)
    (snapshot : Option BackendSnapshot) (m : Metadata) :
    AdmissionFrame m (carryConnection predecessor snapshot m) ∧
      (OneSegment m.segments → OneSegment (carryConnection predecessor snapshot m).segments) ∧
      SameOwnership m (carryConnection predecessor snapshot m) := by
  unfold carryConnection
  split
  · rename_i prior first rest _ hsegments
    split
    · refine ⟨⟨MetadataFrame.of_ids rfl rfl rfl ?_, rfl, rfl, rfl, rfl⟩, ?_, ⟨rfl, rfl, rfl⟩⟩
      · rw [hsegments]
        rfl
      · intro h
        rw [hsegments] at h
        exact h
    · exact ⟨.refl m, id, .refl m⟩
  · exact ⟨.refl m, id, .refl m⟩

theorem effective_transfer (handle : SessionId) (reason : RolloverReason) (predecessor : Metadata)
    (snapshot : Option BackendSnapshot) :
    Effective .rollover OneSegment OneSegment (rolloverFields handle reason)
      (transferRolloverOwnership predecessor snapshot) := by
  intro m admission body m' hS hseq hfields hmutator
  obtain ⟨segmentId, _, hbody⟩ := except_bind_eq_ok.mp hfields
  cases hbody
  cases hmutator
  obtain ⟨hframe, hsegments, howned⟩ := admissionFrame_carryConnection predecessor snapshot
    { m with
      nextEvidenceSeq := m.nextEvidenceSeq + 1
      pendingAttempts := predecessor.pendingAttempts }
  refine ⟨⟨by simp [RecordBody.type], ⟨⟨hframe.sessionId, hframe.nextEvidenceSeq,
    hframe.evidenceBudgetBytes, hframe.segments⟩, hframe.state, hframe.predecessorSessionId,
    hframe.successorSessionId, hframe.interruptedOperations⟩, ?_⟩, hsegments hS⟩
  exact .transferred howned.activeOperations howned.operationSummary

theorem effective_continue (handle : SessionId) (e : String × ActiveOperation) :
    Effective .rollover OneSegment OneSegment (continuedFields handle e) (continueOperation e) := by
  rintro m admission body m' hS hseq hfields hmutator
  cases hfields
  cases hmutator
  refine ⟨⟨by simp [RecordBody.type], ⟨.of_ids rfl rfl rfl rfl, rfl, rfl, rfl, rfl⟩, ?_⟩, hS⟩
  exact .continued e.2.ranges (by rw [hseq]) rfl rfl

/-- The first record of the successor. -/
theorem receiving_transferred {handle successor : SessionId} {files files' : SessionFiles}
    {reason : RolloverReason} {predecessor : Metadata} {snapshot : Option BackendSnapshot}
    {admission : V2EvidenceAdmission} (h : Receiving handle successor files)
    (hbytes : files.evidenceBytes ≤ 3) (hactive : files.metadata.activeOperations = ∅)
    (hcommitted : Committed .connection (rolloverFields handle reason)
      (transferRolloverOwnership predecessor snapshot) successor files admission files') :
    Receiving handle successor files' ∧ files'.metadata.activeOperations = ∅ := by
  obtain ⟨hseq, hbound, hfields, hmutator, hsize⟩ := hcommitted
  rename_i r m rolledOver
  have heffect := effective_transfer handle reason predecessor snapshot files.metadata
    ⟨successor, r.evidenceSeq, rolledOver, r.evidenceSeq + 1⟩ r.body m h.segments hseq hfields
    (hseq ▸ hmutator)
  obtain ⟨⟨_, hframe, howned⟩, hsegments⟩ := heffect
  have hsame : m.activeOperations = files.metadata.activeOperations := by
    cases hmutator
    exact (admissionFrame_carryConnection _ _ _).2.2.activeOperations
  refine ⟨⟨hframe.state.trans h.active, hframe.sessionId.trans h.sessionId,
    hframe.predecessorSessionId.trans h.predecessor, hsegments,
    hframe.evidenceBudgetBytes.symm ▸ h.budget, rfl, hsize, ?_⟩, hsame.trans hactive⟩
  show (files.append .connection r).evidenceBytes ≤ _
  rw [SessionFiles.evidenceBytes_append]
  omega

/-- One more operation. -/
theorem receiving_continued {handle successor : SessionId} {files files' : SessionFiles}
    {e : String × ActiveOperation} {admission : V2EvidenceAdmission}
    (h : Receiving handle successor files) (he : HandedOver handle e)
    (hnew : e.1 ∉ files.metadata.activeOperations.keys)
    (hcommitted : Committed .operation (continuedFields handle e) (continueOperation e) successor
      files admission files') :
    Receiving handle successor files' ∧
      ∀ k ∈ files'.metadata.activeOperations.keys,
        k = e.1 ∨ k ∈ files.metadata.activeOperations.keys := by
  obtain ⟨hseq, hbound, hfields, hmutator, hsize⟩ := hcommitted
  rename_i r m rolledOver
  have heffect := effective_continue handle e files.metadata
    ⟨successor, r.evidenceSeq, rolledOver, r.evidenceSeq + 1⟩ r.body m h.segments hseq hfields
    (hseq ▸ hmutator)
  obtain ⟨⟨_, hframe, _⟩, hsegments⟩ := heffect
  obtain ⟨ranges, start, stop, hranges⟩ := he
  have hactive : m.activeOperations = files.metadata.activeOperations.set e.1
      ⟨e.2.operationType, e.2.ranges ++ [⟨successor, r.evidenceSeq, none⟩]⟩ := by
    cases hmutator
    rfl
  constructor
  · refine ⟨hframe.state.trans h.active, hframe.sessionId.trans h.sessionId,
      hframe.predecessorSessionId.trans h.predecessor, hsegments,
      hframe.evidenceBudgetBytes.symm ▸ h.budget, rfl, hsize, ?_⟩
    show (files.append .operation r).evidenceBytes ≤ _
      + (operationsJson m.activeOperations).size
    have hbytes := h.bytes
    have hentry := size_operationsJson_set
      (e := (e.1, ⟨e.2.operationType, e.2.ranges ++ [⟨successor, r.evidenceSeq, none⟩]⟩)) hnew
    have hrecord := size_operationContinued r.evidenceSeq r.recordedAt e.1 e.2.operationType handle
      successor ranges start stop
    have hr : r = ⟨r.evidenceSeq, r.recordedAt,
        .operationContinued e.1 e.2.operationType handle⟩ := by
      have hbody : r.body = .operationContinued e.1 e.2.operationType handle :=
        (Except.ok.inj hfields).symm
      rw [← hbody]
    rw [← hranges, ← hr] at hrecord
    rw [SessionFiles.evidenceBytes_append, hactive]
    simp only at hentry
    omega
  · intro k hk
    rw [show ((files.append EvidenceStream.operation r).withMetadata m).metadata.activeOperations
      = m.activeOperations from rfl, hactive, Dict.mem_keys_iff] at hk
    obtain ⟨v, hv⟩ := hk
    rw [Dict.get?_set] at hv
    split at hv
    · exact .inl ‹_›
    · exact .inr ((Dict.mem_keys_iff _ _).mpr ⟨v, hv⟩)

section Rollover

variable {cfg : StoreConfig} {kind : StepKind} {I : Store → Prop}

/-- An append to a session that has room for any record. -/
theorem triple_append_of_room (hI : Closed cfg kind I) {S T : List SegmentMetadata → Prop}
    {depth : ℕ} {handle : SessionId} {files : SessionFiles} {stream : EvidenceStream}
    {fields : RecordFields} {mutator : MetadataMutator}
    (heffective : Effective kind S T fields mutator) (hS : S files.metadata.segments)
    (hroom : ∀ r : EvidenceRecord, r.size ≤ maxV2JsonlRecordBytes →
      files.metadata.unitFits r.size = true) :
    Triple (fun st => st.sessions.get? handle = some files ∧ I st)
      (appendV2RecordLocked cfg depth handle stream fields mutator)
      (fun admission st => I st ∧ ∃ files', T files'.metadata.segments ∧
        Committed stream fields mutator handle files admission files' ∧
        st.sessions.get? handle = some files')
      (fun _ => I) := by
  cases depth with
  | zero => exact triple_raise fun _ h => h.2
  | succ depth =>
    apply triple_bind
      (triple_conseq triple_requireActive (fun _ h => h) (fun _ _ h => h) fun _ _ h => h.2)
    intro current
    apply triple_assume (fun st h => h.1)
    rintro ⟨hactive, hid⟩
    apply triple_assume (fun st h => Option.some.inj (h.2.1.symm.trans h.2.2.1))
    rintro rfl
    apply triple_bind
      (triple_conseq (triple_boundedRecord (hI.clockFree.and_get? handle current))
        (fun _ h => h.2.2) (fun _ _ h => h) fun _ _ h => h.2)
    intro r
    apply triple_assume (fun st h => h.1)
    rintro ⟨hseq, hbound, hfields⟩
    rw [if_pos (hroom r hbound)]
    exact triple_conseq
      (triple_commitRecord hI heffective hS hactive hid hseq hbound hfields (hroom r hbound))
      (fun _ h => h.2) (fun _ _ h => h) fun _ _ h => h

/-- What is known of a successor on disk. -/
def ReceivingAt (handle successor : SessionId) (st : Store) : Prop :=
  ∃ files, st.sessions.get? successor = some files ∧ Receiving handle successor files

/-- The operations of the predecessor are moved one by one. -/
theorem triple_continueOperations (hI : Closed cfg .rollover I) {depth : ℕ}
    {handle successor : SessionId} (operations : List (String × ActiveOperation))
    (hhanded : ∀ e ∈ operations, HandedOver handle e)
    (hnodup : (operations.map Prod.fst).Nodup) :
    Triple
      (fun st => I st ∧ ∃ files, st.sessions.get? successor = some files ∧
        Receiving handle successor files ∧
        ∀ e ∈ operations, e.1 ∉ files.metadata.activeOperations.keys)
      (operations.foldlM
        (fun successor e => do
          let admission ← appendV2RecordLocked cfg depth successor .operation
            (continuedFields handle e) (continueOperation e)
          pure admission.sessionId)
        successor)
      (fun id st => id = successor ∧ I st ∧ ReceivingAt handle successor st) (fun _ => I) := by
  induction operations with
  | nil =>
    refine triple_pure fun st h => ?_
    obtain ⟨h, files, hget, hreceiving, _⟩ := h
    exact ⟨rfl, h, files, hget, hreceiving⟩
  | cons e operations ih =>
    rw [List.map_cons, List.nodup_cons] at hnodup
    rw [List.foldlM_cons]
    -- The files the record goes to are fixed first.
    refine ⟨fun st hst => ?_⟩
    obtain ⟨h, files, hget, hreceiving, hkeys⟩ := hst
    refine (triple_bind (P := fun st => st.sessions.get? successor = some files ∧ I st)
      (triple_bind
        (triple_append_of_room hI (effective_continue handle e) hreceiving.segments
          fun _ hr => hreceiving.room hr)
        (Q := fun id st => id = successor ∧ I st ∧ ∃ files, st.sessions.get? successor = some files ∧
          Receiving handle successor files ∧
          ∀ e ∈ operations, e.1 ∉ files.metadata.activeOperations.keys)
        (E := fun _ => I) ?_) ?_).ended st ⟨hget, h⟩
    · intro admission
      refine triple_pure fun st' h' => ?_
      obtain ⟨h', files', _, hcommitted, hget'⟩ := h'
      have hid : admission.sessionId = successor := by
        cases hcommitted
        rfl
      obtain ⟨hreceiving', hkeys'⟩ := receiving_continued hreceiving
        (hhanded e List.mem_cons_self) (hkeys e List.mem_cons_self) hcommitted
      refine ⟨hid, h', files', hget', hreceiving', ?_⟩
      intro e' he' hmem
      rcases hkeys' _ hmem with heq | hmem
      · exact hnodup.1 (heq ▸ List.mem_map_of_mem (f := Prod.fst) he')
      · exact hkeys e' (List.mem_cons_of_mem _ he') hmem
    · intro id
      apply triple_assume (fun _ h => h.1)
      rintro rfl
      exact triple_conseq (ih (fun e' he' => hhanded e' (List.mem_cons_of_mem _ he')) hnodup.2)
        (fun _ h => h.2) (fun _ _ h => h) fun _ _ h => h

/-- The rollover record and the operations go to the successor itself. -/
theorem triple_transferOwnership (hI : Closed cfg .rollover I) {depth : ℕ}
    {handle successor : SessionId} {reason : RolloverReason} {predecessor : Metadata}
    {snapshot : Option BackendSnapshot} (hopen : OpenHere handle predecessor) :
    Triple
      (fun st => I st ∧ ∃ files, st.sessions.get? successor = some files ∧
        Receiving handle successor files ∧ files.evidenceBytes ≤ 3 ∧
        files.metadata.activeOperations = ∅)
      (transferOwnership (appendV2RecordLocked cfg depth) handle successor reason predecessor
        snapshot)
      (fun id st => id = successor ∧ I st ∧ ReceivingAt handle successor st) (fun _ => I) := by
  refine ⟨fun st hst => ?_⟩
  obtain ⟨h, files, hget, hreceiving, hbytes, hempty⟩ := hst
  refine (triple_bind (P := fun st => st.sessions.get? successor = some files ∧ I st)
    (triple_append_of_room hI (effective_transfer handle reason predecessor snapshot)
      hreceiving.segments fun _ hr => hreceiving.room hr) ?_).ended st ⟨hget, h⟩
  intro admission
  apply triple_assume (c := admission.sessionId = successor)
  · rintro st' ⟨_, files', _, hcommitted, _⟩
    cases hcommitted
    rfl
  intro hid
  rw [hid]
  refine triple_conseq
    (triple_continueOperations hI (continuedOperations predecessor) (handedOver_of_openHere hopen)
      (nodup_continuedOperations predecessor)) ?_ (fun _ _ h => h) fun _ _ h => h
  rintro st' ⟨h', files', _, hcommitted, hget'⟩
  obtain ⟨hreceiving', hempty'⟩ := receiving_transferred hreceiving hbytes hempty hcommitted
  refine ⟨h', files', hget', hreceiving', fun e _ he => ?_⟩
  rw [hempty'] at he
  simp at he

/-- Every session on disk keeps its active operations open in itself. -/
def AllOpenHere (st : Store) : Prop :=
  ∀ id files, st.sessions.get? id = some files → OpenHere id files.metadata

/-- A rollover is made of steps, and the session it returns is the fresh successor. -/
theorem triple_rolloverV2Locked (hI : Closed cfg .rollover I) (hopen : ∀ st, I st → AllOpenHere st)
    {depth : ℕ} {handle : SessionId} {reason : RolloverReason}
    {snapshot : Option BackendSnapshot} :
    Triple I (rolloverV2Locked cfg (appendV2RecordLocked cfg depth) handle reason snapshot)
      (fun id st => I st ∧ ReceivingAt handle id st) (fun _ => I) := by
  apply triple_bind triple_requireActive
  intro files
  apply triple_assume (fun _ h => h.1)
  rintro ⟨hactive, _⟩
  apply triple_assume (fun st h => hopen st h.2.2 handle files h.2.1)
  intro hopenHere
  apply triple_bind (R := fun _ st => st.sessions.get? handle = some files ∧ I st)
  · apply triple_look
    intro profile
    apply triple_look
    intro backend
    split
    · exact triple_pure fun _ h => h.2.2.2
    · exact triple_raise fun _ h => h.2.2.2.2
  rintro ⟨profile, backend⟩
  apply triple_bind
    (triple_onPersistenceError
      (triple_createV2SessionLocked hI (hI.clockFree.and_get? handle files) (fun _ h => h.2)
        fun st h => ⟨handle, files, rfl, h.1, hactive⟩)
      fun _ => keeps_terminalizeFault hI)
  intro successor
  -- The successor was not on disk, so it is not the session that rolls over.
  apply triple_assume (c := successor ≠ handle)
  · rintro st ⟨_, st₀, n, startedAt, hst₀, hfresh, _⟩ rfl
    rw [hst₀.1] at hfresh
    cases hfresh
  intro hne
  apply triple_bind
    (R := fun _ st => I st ∧ ∃ files, st.sessions.get? successor = some files ∧
      Receiving handle successor files ∧ files.evidenceBytes ≤ 3 ∧
      files.metadata.activeOperations = ∅)
  · apply triple_change
    rintro st ⟨h, st₀, n, startedAt, _, _, rfl, hsize, hbudget, hsessions⟩
    refine ⟨hI st _ (.quiet rfl rfl le_rfl (List.prefix_append _ _)) h, _, ?_,
      receiving_created cfg hbudget hsize, le_rfl, rfl⟩
    show st.sessions.get? _ = _
    rw [hsessions, Dict.get?_set_self]
  intro _
  apply triple_bind
    (triple_onPersistenceError (triple_transferOwnership hI hopenHere)
      fun _ => keeps_failActive hI)
  intro moved
  apply triple_assume (fun _ h => h.1)
  rintro rfl
  apply triple_bind (R := fun _ st => I st ∧ ReceivingAt handle moved st)
  · have hclock : ClockFree fun st => I st ∧ ReceivingAt handle moved st := fun st n h =>
      ⟨hI.clockFree st n h.1, h.2⟩
    refine triple_conseq
      (triple_terminalizeSessionLocked
        (I := fun st => I st ∧ ReceivingAt handle moved st) hclock ?_ fun _ h => h)
      (fun _ h => h.2) (fun _ _ h => h) fun _ _ h => h.1
    rintro st st' files' m₁ m₂ endedAt ⟨h, next, hnext, hreceiving⟩ hget hactive' hm₁ hm₂ hsize
      hsessions hframe
    refine ⟨hI _ _ (.linked hget hactive' (.mk hm₁ hm₂ ?_) hnext hreceiving.predecessor hsize
      hsessions hframe) h, next, ?_, hreceiving⟩
    · intro hstate
      cases hstate
    · rw [hsessions, Dict.get?_set_of_ne _ _ hne]
      exact hnext
  intro _
  apply triple_bind (R := fun _ st => I st ∧ ReceivingAt handle moved st)
  · refine triple_conseq (keeps_applyRetention ?_) (fun _ h => h) (fun _ _ h => h) fun _ _ h => h.1
    rintro st e hget hended ⟨h, next, hnext, hreceiving⟩
    refine ⟨hI _ _ (.removed hget hended rfl) h, next, ?_, hreceiving⟩
    have hother : moved ≠ e.1 := by
      rintro rfl
      cases hget.symm.trans hnext
      exact hended hreceiving.active
    rw [removeSession, Dict.get?_erase, if_neg hother]
    exact hnext
  intro _
  exact triple_pure fun _ h => h

end Rollover
