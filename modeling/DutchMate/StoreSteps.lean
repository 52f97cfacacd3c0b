/-
# Steps of the session store

What the parts of a store call do to the sessions, said once: a session is created, takes
a unit of evidence, ends, is linked to its successor or is deleted.  A property that every
step keeps is kept by every program made of them.
-/
import DutchMate.Journal

open Throwing

/-! ## What an admission does to ownership -/

/-- Whether a step is part of a rollover. -/
inductive StepKind where
  | call
  | rollover
  deriving DecidableEq, Repr

/-- The operations, their summary and the pending attempts are those of before. -/
structure SameOwnership (m m' : Metadata) : Prop where
  activeOperations : m'.activeOperations = m.activeOperations
  operationSummary : m'.operationSummary = m.operationSummary
  pendingAttempts : m'.pendingAttempts = m.pendingAttempts

theorem SameOwnership.refl (m : Metadata) : SameOwnership m m := ⟨rfl, rfl, rfl⟩

theorem SameOwnership.trans {m₁ m₂ m₃ : Metadata} (h₁ : SameOwnership m₁ m₂)
    (h₂ : SameOwnership m₂ m₃) : SameOwnership m₁ m₃ :=
  ⟨h₂.activeOperations.trans h₁.activeOperations,
    h₂.operationSummary.trans h₁.operationSummary, h₂.pendingAttempts.trans h₁.pendingAttempts⟩

/-- A record that is about no operation and no attempt. -/
structure RecordBody.Plain (body : RecordBody) : Prop where
  operationId : body.operationId? = none
  attempt : body.attempt? = none
  result : body.result? = none

/-- What a record admitted to a session under a sequence number does to the operations and
attempts its metadata owns. -/
inductive OwnershipEffect (handle : SessionId) (evidenceSeq : ℕ) :
    StepKind → RecordBody → Metadata → Metadata → Prop where
  | plain {body : RecordBody} {m m' : Metadata} (hbody : body.Plain) (hm : SameOwnership m m') :
      OwnershipEffect handle evidenceSeq .call body m m'
  | started {operationId : String} {operationType : OperationType} {parameters : Json}
      {cursor : EvidenceCursor} {m m' : Metadata}
      (hnew : m.activeOperations.contains operationId = false)
      (hactive : m'.activeOperations = m.activeOperations.set operationId
        ⟨operationType, [⟨handle, evidenceSeq, none⟩]⟩)
      (hsummary : m'.operationSummary =
        { m.operationSummary with
          started := m.operationSummary.started + 1
          active := m.operationSummary.active + 1 })
      (hpending : m'.pendingAttempts = m.pendingAttempts) :
      OwnershipEffect handle evidenceSeq .call
        (.operationStarted operationId operationType parameters cursor) m m'
  | terminal {operationId outcome : String} {error : Option SessionError}
      {matchedCondition : Option Json} {limited : Bool} {cursor : EvidenceCursor}
      {operation : ActiveOperation} {m m' : Metadata}
      (hget : m.activeOperations.get? operationId = some operation)
      (hactive : m'.activeOperations = m.activeOperations.erase operationId)
      (hsummary : m'.operationSummary =
        if outcome = "error" then
          { m.operationSummary with
            active := m.operationSummary.active - 1
            failed := m.operationSummary.failed + 1 }
        else
          { m.operationSummary with
            active := m.operationSummary.active - 1
            completed := m.operationSummary.completed + 1 })
      (hpending : m'.pendingAttempts = m.pendingAttempts) :
      OwnershipEffect handle evidenceSeq .call
        (.operationTerminal operationId operation.operationType outcome error matchedCondition
          limited cursor (closeLastRange (evidenceSeq + 1) operation.ranges)) m m'
  | attempt {key : AttemptKey} {body : RecordBody} {m m' : Metadata}
      (hbody : body.attempt? = some key) (hresult : body.result? = none)
      (hoperation : body.operationId? = none) (hnew : m.pendingAttempts.contains key = false)
      (hpending : m'.pendingAttempts = m.pendingAttempts.set key ⟨handle, evidenceSeq⟩)
      (hactive : m'.activeOperations = m.activeOperations)
      (hsummary : m'.operationSummary = m.operationSummary) :
      OwnershipEffect handle evidenceSeq .call body m m'
  | result {key : AttemptKey} {origin : PendingAttempt} {body : RecordBody} {m m' : Metadata}
      (hbody : body.result? = some (key, origin)) (hattempt : body.attempt? = none)
      (hoperation : body.operationId? = none)
      (hget : m.pendingAttempts.get? key = some origin)
      (hpending : m'.pendingAttempts = m.pendingAttempts.erase key)
      (hactive : m'.activeOperations = m.activeOperations)
      (hsummary : m'.operationSummary = m.operationSummary) :
      OwnershipEffect handle evidenceSeq .call body m m'
  | transferred {segmentId : ℕ} {predecessor : SessionId} {reason : RolloverReason}
      {m m' : Metadata} (hactive : m'.activeOperations = m.activeOperations)
      (hsummary : m'.operationSummary = m.operationSummary) :
      OwnershipEffect handle evidenceSeq .rollover
        (.rolloverSucceeded segmentId predecessor reason) m m'
  | continued (ranges : List OperationRange) {operationId : String}
      {operationType : OperationType} {predecessor : SessionId} {m m' : Metadata}
      (hactive : m'.activeOperations = m.activeOperations.set operationId
        ⟨operationType, ranges ++ [⟨handle, evidenceSeq, none⟩]⟩)
      (hsummary : m'.operationSummary =
        { m.operationSummary with active := m.operationSummary.active + 1 })
      (hpending : m'.pendingAttempts = m.pendingAttempts) :
      OwnershipEffect handle evidenceSeq .rollover
        (.operationContinued operationId operationType predecessor) m m'

/-! ## Steps -/

/-- One unit of evidence a session takes, with the metadata published for it. -/
inductive Admitted (handle : SessionId) : StepKind → SessionFiles → SessionFiles → Prop where
  | record {kind : StepKind} {files : SessionFiles} {stream : EvidenceStream}
      {r : EvidenceRecord} {m : Metadata}
      (hseq : r.evidenceSeq = files.metadata.nextEvidenceSeq) (htype : r.body.type ≠ "")
      (hfits : files.metadata.unitFits r.size = true)
      (hframe : AdmissionFrame { files.metadata with nextEvidenceSeq := r.evidenceSeq + 1 } m)
      (howned : OwnershipEffect handle r.evidenceSeq kind r.body files.metadata m) :
      Admitted handle kind files ((files.append stream r).withMetadata m)
  | uart {files : SessionFiles} {event : UartReceiveEvent} {unit : UartUnit}
      {captureResult : Option UartCaptureResult} (hunit : UnitOf files event unit)
      (hne : event.data ≠ []) (hfits : files.metadata.unitFits unit.unitBytes = true) :
      Admitted handle .call files
        ((unit.write event.data files).withMetadata
          (unit.metadata event captureResult files.metadata))

/-- The metadata of a session that ended from `m`; a fault only notes the lost recording. -/
inductive EndedAs : Metadata → Metadata → Prop where
  | mk {m m₂ : Metadata} {t : Terminal} {endedAt : Timestamp} {localRecording : LocalRecording}
      (hown : relinquishV2Ownership { m with localRecording := localRecording } = .ok m₂)
      (hstate : t.state ≠ .active) :
      EndedAs m (terminalMetadata t endedAt m₂)

/-- The metadata of a predecessor linked to its successor. -/
inductive LinkedAs (successor : SessionId) : Metadata → Metadata → Prop where
  | mk {m m₁ m₂ : Metadata} {t : Terminal} {endedAt : Timestamp}
      (hlink : linkSuccessor successor m = .ok m₁) (hown : relinquishV2Ownership m₁ = .ok m₂)
      (hstate : t.state ≠ .active) :
      LinkedAs successor m (terminalMetadata t endedAt m₂)

/-- Whom a created session succeeds: an active session in a rollover, else none. -/
def PredecessorOf (st : Store) : StepKind → Option SessionId → Prop
  | .call, predecessor => predecessor = none
  | .rollover, predecessor =>
    ∃ handle files, predecessor = some handle ∧ st.sessions.get? handle = some files ∧
      files.metadata.state = .active

/-- The deleted sessions and the drawn identifiers are those of before. -/
structure StoreFrame (st st' : Store) : Prop where
  removed : st'.removed = st.removed
  idsDrawn : st'.idsDrawn = st.idsDrawn
  rollovers : st'.rollovers = st.rollovers

/-- The session a drawn identifier names. -/
def createdSession (cfg : StoreConfig) (n : ℕ) (startedAt : Timestamp) (profile : DutProfile)
    (snapshot : BackendSnapshot) (predecessor : Option SessionId) : Metadata :=
  initialV2Metadata (newSessionId startedAt (cfg.idFactory n)) startedAt profile snapshot
    cfg.evidenceBudgetBytes predecessor

/-- One step of the store. -/
inductive StoreStep (cfg : StoreConfig) : StepKind → Store → Store → Prop where
  | quiet {kind : StepKind} {st st' : Store} (hsessions : st'.sessions = st.sessions)
      (hremoved : st'.removed = st.removed) (hids : st.idsDrawn ≤ st'.idsDrawn)
      (hrollovers : st.rollovers <+: st'.rollovers) : StoreStep cfg kind st st'
  | created {kind : StepKind} {st st' : Store} {startedAt : Timestamp} {profile : DutProfile}
      {snapshot : BackendSnapshot} {predecessor : Option SessionId}
      (hpredecessor : PredecessorOf st kind predecessor)
      (hbudget : minV2EvidenceBudgetBytes ≤ cfg.evidenceBudgetBytes)
      (hsize : (createdSession cfg st.idsDrawn startedAt profile snapshot predecessor).size
        ≤ metadataMaxBytes)
      (hfresh : st.sessions.get? (newSessionId startedAt (cfg.idFactory st.idsDrawn)) = none)
      (hsessions : st'.sessions = st.sessions.set
        (newSessionId startedAt (cfg.idFactory st.idsDrawn))
        { metadata := createdSession cfg st.idsDrawn startedAt profile snapshot predecessor })
      (hremoved : st'.removed = st.removed) (hids : st'.idsDrawn = st.idsDrawn + 1)
      (hrollovers : st'.rollovers = st.rollovers) : StoreStep cfg kind st st'
  | admitted {kind : StepKind} {st st' : Store} {handle : SessionId}
      {files files' : SessionFiles} (hget : st.sessions.get? handle = some files)
      (hactive : files.metadata.state = .active) (hid : files.metadata.sessionId = handle)
      (hadmitted : Admitted handle kind files files')
      (hsize : files'.metadata.size ≤ metadataMaxBytes)
      (hsessions : st'.sessions = st.sessions.set handle files') (hframe : StoreFrame st st') :
      StoreStep cfg kind st st'
  | ended {kind : StepKind} {st st' : Store} {handle : SessionId} {files : SessionFiles}
      {m : Metadata} (hget : st.sessions.get? handle = some files)
      (hactive : files.metadata.state = .active) (hended : EndedAs files.metadata m)
      (hsize : (files.withMetadata m).metadata.size ≤ metadataMaxBytes)
      (hsessions : st'.sessions = st.sessions.set handle (files.withMetadata m))
      (hframe : StoreFrame st st') : StoreStep cfg kind st st'
  | linked {st st' : Store} {handle successor : SessionId} {files next : SessionFiles}
      {m : Metadata} (hget : st.sessions.get? handle = some files)
      (hactive : files.metadata.state = .active) (hlinked : LinkedAs successor files.metadata m)
      (hnext : st.sessions.get? successor = some next)
      (hpredecessor : next.metadata.predecessorSessionId = some handle)
      (hsize : (files.withMetadata m).metadata.size ≤ metadataMaxBytes)
      (hsessions : st'.sessions = st.sessions.set handle (files.withMetadata m))
      (hframe : StoreFrame st st') : StoreStep cfg .rollover st st'
  | removed {kind : StepKind} {st st' : Store} {e : SessionId × SessionFiles}
      (hget : st.sessions.get? e.1 = some e.2) (hended : e.2.metadata.state ≠ .active)
      (hstep : st' = removeSession st e) : StoreStep cfg kind st st'

/-- A property every step of a kind keeps. -/
def Closed (cfg : StoreConfig) (kind : StepKind) (I : Store → Prop) : Prop :=
  ∀ st st', StoreStep cfg kind st st' → I st → I st'

section Parts

variable {cfg : StoreConfig} {kind : StepKind} {I : Store → Prop} {α : Type}

/-- Steps that touch neither the sessions nor the identifiers. -/
theorem Closed.quiet (hI : Closed cfg kind I) {st st' : Store} (h : I st)
    (hsessions : st'.sessions = st.sessions) (hremoved : st'.removed = st.removed)
    (hids : st'.idsDrawn = st.idsDrawn) (hrollovers : st'.rollovers = st.rollovers) : I st' :=
  hI _ _ (.quiet hsessions hremoved hids.ge ⟨[], by rw [hrollovers, List.append_nil]⟩) h

theorem Closed.clockFree (hI : Closed cfg kind I) : ClockFree I := fun _ _ h =>
  hI.quiet h rfl rfl rfl rfl

/-- What is known of one session while only the clock is read. -/
theorem ClockFree.and_get? (hI : ClockFree I) (handle : SessionId) (files : SessionFiles) :
    ClockFree fun st => st.sessions.get? handle = some files ∧ I st :=
  fun st n h => ⟨h.1, hI st n h.2⟩

/-! ## Reading -/

theorem triple_sessionFiles {id : SessionId} :
    Triple I (sessionFiles id) (fun f st => st.sessions.get? id = some f ∧ I st) (fun _ => I) := by
  apply triple_look
  intro files
  cases files with
  | none => exact triple_raise fun _ h => h.2
  | some f => exact triple_pure fun _ h => h

theorem triple_requireActive {handle : SessionId} :
    Triple I (requireActive handle)
      (fun f st => (f.metadata.state = .active ∧ f.metadata.sessionId = handle) ∧
        st.sessions.get? handle = some f ∧ I st)
      (fun _ => I) := by
  apply triple_bind triple_sessionFiles
  intro f
  apply triple_require_bind (fun _ h => h.2)
  intro hactive
  apply triple_require_bind (fun _ h => h.2)
  intro hid
  exact triple_pure fun _ h => ⟨⟨hactive, hid⟩, h⟩

/-- A bounded record has the next sequence number and the fields computed for it. -/
theorem triple_boundedRecord (hI : ClockFree I) {handle : SessionId} {m : Metadata}
    {fields : RecordFields} :
    Triple I (boundedRecord cfg handle m fields)
      (fun r st => (r.evidenceSeq = m.nextEvidenceSeq ∧ r.size ≤ maxV2JsonlRecordBytes ∧
        fields handle m m.nextEvidenceSeq = .ok r.body) ∧ I st)
      (fun _ => I) := by
  apply triple_bind (R := fun r st => (r.evidenceSeq = m.nextEvidenceSeq ∧
    fields handle m m.nextEvidenceSeq = .ok r.body) ∧ I st)
  · apply triple_lift_bind (fun _ _ _ h => h)
    intro body hbody
    apply triple_bind (triple_readClock hI)
    intro recordedAt
    exact triple_pure fun _ h => ⟨⟨rfl, hbody⟩, h⟩
  · intro r
    apply triple_require_bind (fun _ h => h.2)
    intro hsize
    exact triple_pure fun _ h => ⟨⟨h.1.1, hsize, h.1.2⟩, h.2⟩

/-- A persistence error runs its handler, which keeps what the error branch promises. -/
theorem triple_onPersistenceError {P E : Store → Prop} {m : StoreProg α}
    {handler : StoreException → StoreProg Unit} {Q : α → Store → Prop}
    (hm : Triple P m Q (fun _ => E)) (hh : ∀ e, Keeps E (handler e)) :
    Triple P (onPersistenceError m handler) Q (fun _ => E) := by
  apply triple_catching hm
  intro e
  apply triple_bind (R := fun _ => E)
  · split
    · exact hh e
    · exact triple_pure fun _ h => h
  · intro _
    exact triple_raise fun _ h => h

/-! ## Ending a session -/

theorem triple_checkSegmentEnd {P : Store → Prop} {segments : List SegmentMetadata} :
    Keeps P (checkSegmentEnd segments) := by
  unfold checkSegmentEnd
  split
  · exact triple_raise fun _ h => h
  · split
    · exact triple_raise fun _ h => h
    · split
      · exact triple_raise fun _ h => h
      · exact triple_pure fun _ h => h

/-- A session ends by one step, which the mutator decides. -/
theorem triple_terminalizeSessionLocked {P : Store → Prop} (hP : ClockFree P)
    {handle : SessionId} {t : Terminal} {mutator : Metadata → Except StoreException Metadata}
    (hstep : ∀ st st' files m₁ m₂ endedAt, P st → st.sessions.get? handle = some files →
      files.metadata.state = .active → mutator files.metadata = .ok m₁ →
      relinquishV2Ownership m₁ = .ok m₂ →
      (files.withMetadata (terminalMetadata t endedAt m₂)).metadata.size ≤ metadataMaxBytes →
      st'.sessions = st.sessions.set handle (files.withMetadata (terminalMetadata t endedAt m₂)) →
      StoreFrame st st' → I st')
    (herror : ∀ st, P st → I st) :
    Triple P (terminalizeSessionLocked cfg handle t mutator) (fun _ => I) (fun _ => I) := by
  apply triple_bind
    (triple_conseq triple_sessionFiles (fun _ h => h) (fun _ _ h => h) fun _ st h => herror st h)
  intro files
  apply triple_require_bind (fun _ h => herror _ h.2)
  intro hactive
  apply triple_lift_bind (fun _ _ _ h => herror _ h.2)
  intro m₁ hm₁
  apply triple_lift_bind (fun _ _ _ h => herror _ h.2)
  intro m₂ hm₂
  apply triple_bind (R := fun _ st => st.sessions.get? handle = some files ∧ P st)
  · exact triple_conseq (triple_readClock (hP.and_get? handle files)) (fun _ h => h)
      (fun _ _ h => h) fun _ _ h => herror _ h.2
  intro endedAt
  apply triple_bind (R := fun _ st => st.sessions.get? handle = some files ∧ P st)
  · exact triple_conseq triple_checkSegmentEnd (fun _ h => h) (fun _ _ h => h)
      fun _ _ h => herror _ h.2
  intro _
  apply triple_require_bind (fun _ h => herror _ h.2)
  intro hsize
  apply triple_change
  intro st h
  exact hstep st _ files m₁ m₂ endedAt h.2 h.1 hactive hm₁ hm₂ hsize rfl ⟨rfl, rfl, rfl⟩

/-- A session that ends outside a rollover. -/
theorem keeps_terminalize (hI : Closed cfg kind I) {handle : SessionId} {t : Terminal}
    (ht : t.state ≠ .active) {mutator : Metadata → Except StoreException Metadata}
    (hmutator : ∀ m m', mutator m = .ok m' →
      ∃ localRecording, m' = { m with localRecording := localRecording }) :
    Keeps I (terminalizeSessionLocked cfg handle t mutator) := by
  apply triple_terminalizeSessionLocked hI.clockFree _ fun _ h => h
  intro st st' files m₁ m₂ endedAt h hget hactive hm₁ hm₂ hsize hsessions hframe
  obtain ⟨localRecording, rfl⟩ := hmutator _ _ hm₁
  exact hI _ _ (.ended hget hactive (.mk hm₂ ht) hsize hsessions hframe) h

theorem keeps_terminalizeFault (hI : Closed cfg kind I) {handle : SessionId}
    {cause : StoreException} : Keeps I (terminalizeFault cfg handle cause) := by
  apply keeps_terminalize hI
  · intro h
    cases h
  · rintro m m' h
    cases h
    exact ⟨_, rfl⟩

theorem keeps_failActive (hI : Closed cfg kind I) {handle : SessionId} {cause : StoreException} :
    Keeps I (failActiveV2PersistenceLocked cfg handle cause) := by
  apply triple_bind triple_sessionFiles
  intro files
  split
  · exact triple_conseq (keeps_terminalizeFault hI) (fun _ h => h.2) (fun _ _ h => h)
      fun _ _ h => h
  · exact triple_pure fun _ h => h.2

/-! ## Retention -/

/-- The sessions to delete are on disk under different identifiers, and none is active. -/
theorem mem_retentionDeletes {maxCount : ℕ} {held : List SessionId} {st : Store}
    {e : SessionId × SessionFiles} (he : e ∈ retentionDeletes cfg maxCount held st) :
    st.sessions.get? e.1 = some e.2 ∧ e.1 ∉ protectedSessions cfg held st := by
  unfold retentionDeletes at he
  split at he
  · have hmem := (List.mem_insertionSort _).mp (List.mem_of_mem_take he)
    simp only [List.mem_filter, decide_eq_true_eq] at hmem
    exact ⟨(Dict.get?_eq_some_iff _ _ _).mpr hmem.1, hmem.2⟩
  · cases he

theorem nodup_retentionDeletes (cfg : StoreConfig) (maxCount : ℕ) (held : List SessionId) (st : Store) :
    ((retentionDeletes cfg maxCount held st).map Prod.fst).Nodup := by
  unfold retentionDeletes
  split
  · have hkeys : (st.sessions.entries.map Prod.fst).Nodup := st.sessions.nodup
    have hfilter := hkeys.sublist
      ((List.filter_sublist (p := fun e => e.1 ∉ protectedSessions cfg held st)
        (l := st.sessions.entries)).map Prod.fst)
    have hsorted := ((List.perm_insertionSort (fun a b => startsBefore a b)
      (st.sessions.entries.filter fun e => e.1 ∉ protectedSessions cfg held st)).map
        Prod.fst).nodup_iff.mpr hfilter
    exact hsorted.sublist ((List.take_sublist _ _).map Prod.fst)
  · exact List.nodup_nil

theorem not_active_of_notMem_protected {held : List SessionId} {st : Store}
    {e : SessionId × SessionFiles} (hget : st.sessions.get? e.1 = some e.2)
    (he : e.1 ∉ protectedSessions cfg held st) : e.2.metadata.state ≠ .active := by
  intro hactive
  apply he
  rw [protectedSessions, List.mem_flatMap]
  refine ⟨e, (Dict.get?_eq_some_iff _ _ _).mp hget, ?_⟩
  simp [hactive]

/-- Retention only deletes sessions that ended. -/
theorem keeps_applyRetention {P : Store → Prop}
    (hP : ∀ st e, st.sessions.get? e.1 = some e.2 → e.2.metadata.state ≠ .active → P st →
      P (removeSession st e)) {held : List SessionId} : Keeps P (applyRetentionLocked cfg held) := by
  unfold applyRetentionLocked
  split
  · exact triple_pure fun _ h => h
  · rename_i maxCount _
    apply triple_change
    intro st h
    have hdeletes : ∀ e ∈ retentionDeletes cfg maxCount (held ++ leasedSessions st) st,
        st.sessions.get? e.1 = some e.2 ∧ e.2.metadata.state ≠ .active := fun e he =>
      ⟨(mem_retentionDeletes he).1,
        not_active_of_notMem_protected (mem_retentionDeletes he).1 (mem_retentionDeletes he).2⟩
    have hnodup := nodup_retentionDeletes cfg maxCount (held ++ leasedSessions st) st
    revert hdeletes hnodup
    generalize retentionDeletes cfg maxCount (held ++ leasedSessions st) st = deletes
    intro hdeletes hnodup
    induction deletes generalizing st with
    | nil => exact h
    | cons e rest ih =>
      have he := hdeletes e List.mem_cons_self
      rw [List.map_cons, List.nodup_cons] at hnodup
      apply ih _ (hP st e he.1 he.2 h) _ hnodup.2
      intro e' he'
      have hne : e'.1 ≠ e.1 := fun heq =>
        hnodup.1 (heq ▸ List.mem_map_of_mem (f := Prod.fst) he')
      rw [removeSession, Dict.get?_erase, if_neg hne]
      exact hdeletes e' (List.mem_cons_of_mem _ he')

theorem Closed.applyRetention (hI : Closed cfg kind I) {held : List SessionId} :
    Keeps I (applyRetentionLocked cfg held) :=
  keeps_applyRetention fun st _ hget hended h => hI st _ (.removed hget hended rfl) h

/-! ## Creation -/

/-- A session is created by one step, together with the identifier drawn for it. -/
theorem triple_createV2SessionLocked (hI : Closed cfg kind I) {profile : DutProfile}
    {snapshot : BackendSnapshot} {predecessor : Option SessionId} {P : Store → Prop}
    (hP : ClockFree P) (hPI : ∀ st, P st → I st)
    (hpredecessor : ∀ st, P st → PredecessorOf st kind predecessor) :
    Triple P (createV2SessionLocked cfg profile snapshot predecessor)
      (fun id st => I st ∧ ∃ st₀ n startedAt, P st₀ ∧ st₀.sessions.get? id = none ∧
        id = newSessionId startedAt (cfg.idFactory n) ∧
        (createdSession cfg n startedAt profile snapshot predecessor).size ≤ metadataMaxBytes ∧
        minV2EvidenceBudgetBytes ≤ cfg.evidenceBudgetBytes ∧
        st.sessions = st₀.sessions.set id
          { metadata := createdSession cfg n startedAt profile snapshot predecessor })
      (fun _ => I) := by
  refine triple_require_bind (fun _ h => hPI _ h) ?_
  intro hbudget
  apply triple_bind (R := fun _ => P)
  · refine triple_require_bind (fun _ h => hPI _ h) ?_
    intro _
    refine triple_require_bind (fun _ h => hPI _ h) ?_
    intro _
    exact triple_require (fun _ _ h => h) fun _ _ h => hPI _ h
  intro _
  apply triple_bind (R := fun _ => P)
  · exact triple_conseq (triple_readClock hP) (fun _ h => h) (fun _ _ h => h) fun _ _ h => hPI _ h
  intro startedAt
  -- Until the directory is made, all that happened is that an identifier was drawn.
  apply triple_bind (R := fun suffix st => ∃ st₀, P st₀ ∧ suffix = cfg.idFactory st₀.idsDrawn ∧
    st = { st₀ with idsDrawn := st₀.idsDrawn + 1 })
  · apply triple_look
    intro n
    apply triple_bind (R := fun _ st => ∃ st₀, P st₀ ∧ st₀.idsDrawn = n ∧
      st = { st₀ with idsDrawn := n + 1 })
    · exact triple_change fun st h => ⟨st, h.2, h.1, rfl⟩
    · intro _
      refine triple_pure fun st h => ?_
      obtain ⟨st₀, hst₀, rfl, rfl⟩ := h
      exact ⟨st₀, hst₀, rfl, rfl⟩
  intro suffix
  have hdrawn : ∀ st, (∃ st₀, P st₀ ∧ suffix = cfg.idFactory st₀.idsDrawn ∧
      st = { st₀ with idsDrawn := st₀.idsDrawn + 1 }) → I st := by
    rintro st ⟨st₀, hst₀, _, rfl⟩
    exact hI st₀ _ (.quiet rfl rfl (Nat.le_succ _) (List.prefix_refl _)) (hPI _ hst₀)
  refine triple_require_bind (fun _ h => hdrawn _ h) ?_
  intro _
  apply triple_look
  intro existing
  refine triple_require_bind (fun _ h => hdrawn _ h.2) ?_
  intro hexisting
  refine triple_require_bind (fun _ h => hdrawn _ h.2) ?_
  intro hsize
  refine triple_bind (R := fun _ st => I st ∧ ∃ st₀ n started, P st₀ ∧
    st₀.sessions.get? (newSessionId startedAt suffix) = none ∧
    newSessionId startedAt suffix = newSessionId started (cfg.idFactory n) ∧
    (createdSession cfg n started profile snapshot predecessor).size ≤ metadataMaxBytes ∧
    minV2EvidenceBudgetBytes ≤ cfg.evidenceBudgetBytes ∧
    st.sessions = st₀.sessions.set (newSessionId startedAt suffix)
      { metadata := createdSession cfg n started profile snapshot predecessor })
    (triple_change ?_) fun _ => triple_pure fun _ h => h
  rintro st ⟨hcontains, st₀, hst₀, rfl, rfl⟩
  have hfresh : st₀.sessions.get? (newSessionId startedAt (cfg.idFactory st₀.idsDrawn)) = none := by
    rw [hexisting] at hcontains
    exact Option.isSome_eq_false_iff.mp hcontains |> Option.isNone_iff_eq_none.mp
  refine ⟨?_, st₀, st₀.idsDrawn, startedAt, hst₀, hfresh, rfl, hsize, hbudget, rfl⟩
  exact hI _ _ (.created (hpredecessor _ hst₀) hbudget hsize hfresh rfl rfl rfl rfl) (hPI _ hst₀)

/-! ## Admission -/

/-- Any segments. -/
def AnySegments (_ : List SegmentMetadata) : Prop := True

/-- The segments of a session just created. -/
def OneSegment (segments : List SegmentMetadata) : Prop := segments.length = 1

/-- Fields and mutator of a record, from segments in `S` to segments in `T`. -/
def Effective (kind : StepKind) (S T : List SegmentMetadata → Prop) (fields : RecordFields)
    (mutator : MetadataMutator) : Prop :=
  ∀ (m : Metadata) (admission : V2EvidenceAdmission) (body : RecordBody) (m' : Metadata),
    S m.segments → admission.evidenceSeq = m.nextEvidenceSeq →
    fields admission.sessionId m m.nextEvidenceSeq = .ok body →
    mutator { m with nextEvidenceSeq := m.nextEvidenceSeq + 1 } admission = .ok m' →
    (body.type ≠ "" ∧ AdmissionFrame { m with nextEvidenceSeq := m.nextEvidenceSeq + 1 } m' ∧
      OwnershipEffect admission.sessionId m.nextEvidenceSeq kind body m m') ∧ T m'.segments

/-- What committing a record of these fields leaves of the files. -/
inductive Committed (stream : EvidenceStream) (fields : RecordFields)
    (mutator : MetadataMutator) (handle : SessionId) (files : SessionFiles) :
    V2EvidenceAdmission → SessionFiles → Prop where
  | mk {r : EvidenceRecord} {m : Metadata} {rolledOver : Bool}
      (hseq : r.evidenceSeq = files.metadata.nextEvidenceSeq)
      (hbound : r.size ≤ maxV2JsonlRecordBytes)
      (hfields : fields handle files.metadata files.metadata.nextEvidenceSeq = .ok r.body)
      (hmutator : mutator { files.metadata with nextEvidenceSeq := r.evidenceSeq + 1 }
        ⟨handle, r.evidenceSeq, rolledOver, r.evidenceSeq + 1⟩ = .ok m)
      (hsize : ((files.append stream r).withMetadata m).metadata.size ≤ metadataMaxBytes) :
      Committed stream fields mutator handle files
        ⟨handle, r.evidenceSeq, rolledOver, r.evidenceSeq + 1⟩
        ((files.append stream r).withMetadata m)

/-- A record with the next number that fits is committed by one step. -/
theorem triple_commitRecord (hI : Closed cfg kind I) {S T : List SegmentMetadata → Prop}
    {handle : SessionId} {files : SessionFiles} {stream : EvidenceStream} {r : EvidenceRecord}
    {fields : RecordFields} {mutator : MetadataMutator} {rolledOver : Bool}
    (heffective : Effective kind S T fields mutator) (hS : S files.metadata.segments)
    (hactive : files.metadata.state = .active) (hid : files.metadata.sessionId = handle)
    (hseq : r.evidenceSeq = files.metadata.nextEvidenceSeq)
    (hbound : r.size ≤ maxV2JsonlRecordBytes)
    (hfields : fields handle files.metadata files.metadata.nextEvidenceSeq = .ok r.body)
    (hfits : files.metadata.unitFits r.size = true) :
    Triple (fun st => st.sessions.get? handle = some files ∧ I st)
      (commitRecord cfg handle files stream r mutator rolledOver)
      (fun admission st => I st ∧ ∃ files', T files'.metadata.segments ∧
        Committed stream fields mutator handle files admission files' ∧
        st.sessions.get? handle = some files')
      (fun _ => I) := by
  apply triple_bind (R := fun _ st => I st ∧ ∃ files', T files'.metadata.segments ∧
    Committed stream fields mutator handle files
      ⟨handle, r.evidenceSeq, rolledOver, r.evidenceSeq + 1⟩ files' ∧
    st.sessions.get? handle = some files')
  · apply triple_onPersistenceError
    · apply triple_lift_bind (fun _ _ _ h => h.2)
      intro m hm
      have heffect := heffective files.metadata
        ⟨handle, r.evidenceSeq, rolledOver, r.evidenceSeq + 1⟩ r.body m hS hseq hfields
        (hseq ▸ hm)
      rw [← hseq] at heffect
      obtain ⟨⟨htype, hframe, howned⟩, hT⟩ := heffect
      apply triple_require_bind (fun _ h => h.2)
      intro hsize
      refine triple_change fun st h => ⟨?_, ?_⟩
      · exact hI _ _ (.admitted h.1 hactive hid (.record hseq htype hfits hframe howned) hsize rfl
          ⟨rfl, rfl, rfl⟩) h.2
      · exact ⟨_, hT, .mk hseq hbound hfields hm hsize, Dict.get?_set_self _ _ _⟩
    · intro e
      exact keeps_failActive hI
  · intro _
    exact triple_pure fun _ h => h

end Parts
