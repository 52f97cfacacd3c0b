/-
# What a rollover hands over

A rollover that returns leaves the predecessor completed and linked, with its evidence as it
was, and a successor that owns exactly what the predecessor owned: its pending attempts, and
its active operations with their ranges closed there and continued here, one record for each.
-/
import DutchMate.Preflights

open Throwing

/-! ## One session changes -/

/-- The store is that of before but for one session, the clock and what no reader sees. -/
structure Replaced (st : Store) (id : SessionId) (f : SessionFiles) (s : Store) : Prop where
  session : s.sessions.get? id = some f
  others : ∀ id' ≠ id, s.sessions.get? id' = st.sessions.get? id'
  removed : s.removed = st.removed
  snapshots : s.v2Snapshots = st.v2Snapshots

theorem clockFree_replaced (st : Store) (id : SessionId) (f : SessionFiles) :
    ClockFree (Replaced st id f) := fun _ _ h => ⟨h.session, h.others, h.removed, h.snapshots⟩

theorem Replaced.set {st s s' : Store} {id : SessionId} {f f' : SessionFiles}
    (h : Replaced st id f s) (hsessions : s'.sessions = s.sessions.set id f')
    (hremoved : s'.removed = s.removed) (hsnapshots : s'.v2Snapshots = s.v2Snapshots) :
    Replaced st id f' s' where
  session := by rw [hsessions, Dict.get?_set_self]
  others id' hne := by rw [hsessions, Dict.get?_set_of_ne _ _ hne, h.others id' hne]
  removed := hremoved.trans h.removed
  snapshots := hsnapshots.trans h.snapshots

section Rollover

variable {cfg : StoreConfig} {st : Store} {handle successor : SessionId}

/-- An append to a session with room changes that session alone, as committing does. -/
theorem triple_append_replaced {depth : ℕ} {files : SessionFiles} {stream : EvidenceStream}
    {fields : RecordFields} {mutator : MetadataMutator}
    (hroom : ∀ r : EvidenceRecord, r.size ≤ maxV2JsonlRecordBytes →
      files.metadata.unitFits r.size = true) :
    Triple (Replaced st handle files)
      (appendV2RecordLocked cfg depth handle stream fields mutator)
      (fun admission s => ∃ files', Committed stream fields mutator handle files admission files' ∧
        Replaced st handle files' s)
      (fun _ _ => True) := by
  cases depth with
  | zero => exact triple_raise fun _ _ => trivial
  | succ depth =>
    apply triple_bind (triple_conseq triple_requireActive (fun _ h => h) (fun _ _ h => h)
      fun _ _ _ => trivial)
    intro current
    apply triple_assume (fun s h => Option.some.inj (h.2.1.symm.trans h.2.2.session))
    rintro rfl
    apply triple_bind (triple_conseq
      (triple_boundedRecord (clockFree_replaced st handle current)) (fun _ h => h.2.2)
      (fun _ _ h => h) fun _ _ _ => trivial)
    intro r
    apply triple_assume (fun _ h => h.1)
    rintro ⟨hseq, hbound, hfields⟩
    rw [if_pos (hroom r hbound)]
    apply triple_bind (R := fun _ s => ∃ files',
      Committed stream fields mutator handle current
        ⟨handle, r.evidenceSeq, false, r.evidenceSeq + 1⟩ files' ∧ Replaced st handle files' s)
    · apply triple_onPersistenceError
      · refine triple_lift_bind (fun _ _ _ _ => trivial) ?_
        intro m hm
        refine triple_require_bind (fun _ _ => trivial) ?_
        intro hsize
        exact triple_change fun s h =>
          ⟨_, .mk hseq hbound hfields hm hsize, h.2.set rfl rfl rfl⟩
      · intro e
        exact triple_trivial _
    · intro _
      exact triple_pure fun _ h => h

/-! ## The successor's records -/

/-- Continuing operations one by one. -/
inductive Continued (handle successor : SessionId) :
    List (String × ActiveOperation) → SessionFiles → SessionFiles → Prop where
  | nil (f : SessionFiles) : Continued handle successor [] f f
  | cons {e : String × ActiveOperation} {operations : List (String × ActiveOperation)}
      {f f₁ f₂ : SessionFiles} {admission : V2EvidenceAdmission}
      (hcommitted : Committed .operation (continuedFields handle e) (continueOperation e)
        successor f admission f₁)
      (rest : Continued handle successor operations f₁ f₂) :
      Continued handle successor (e :: operations) f f₂

theorem triple_continueOperations_replaced {depth : ℕ}
    (operations : List (String × ActiveOperation)) (f : SessionFiles)
    (hhanded : ∀ e ∈ operations, HandedOver handle e)
    (hnodup : (operations.map Prod.fst).Nodup) (hreceiving : Receiving handle successor f)
    (hkeys : ∀ e ∈ operations, e.1 ∉ f.metadata.activeOperations.keys) :
    Triple (Replaced st successor f)
      (operations.foldlM
        (fun successor e => do
          let admission ← appendV2RecordLocked cfg depth successor .operation
            (continuedFields handle e) (continueOperation e)
          pure admission.sessionId)
        successor)
      (fun id s => id = successor ∧ ∃ f', Continued handle successor operations f f' ∧
        Receiving handle successor f' ∧ Replaced st successor f' s)
      (fun _ _ => True) := by
  induction operations generalizing f with
  | nil => exact triple_pure fun _ h => ⟨rfl, f, .nil f, hreceiving, h⟩
  | cons e operations ih =>
    rw [List.map_cons, List.nodup_cons] at hnodup
    rw [List.foldlM_cons]
    apply triple_bind (R := fun id s => id = successor ∧ ∃ admission f₁,
      Committed .operation (continuedFields handle e) (continueOperation e) successor f admission
        f₁ ∧ Replaced st successor f₁ s)
    · apply triple_bind (triple_append_replaced fun r hr => hreceiving.room hr)
      intro admission
      refine triple_pure fun s h => ?_
      obtain ⟨f₁, hcommitted, hreplaced⟩ := h
      refine ⟨?_, admission, f₁, hcommitted, hreplaced⟩
      cases hcommitted
      rfl
    intro id
    apply triple_assume (fun _ h => h.1)
    rintro rfl
    refine ⟨fun s h => ?_⟩
    obtain ⟨_, admission, f₁, hcommitted, hreplaced⟩ := h
    obtain ⟨hreceiving₁, hkeys₁⟩ := receiving_continued hreceiving
      (hhanded e List.mem_cons_self) (hkeys e List.mem_cons_self) hcommitted
    have hrest := ih f₁ (fun e' he' => hhanded e' (List.mem_cons_of_mem _ he')) hnodup.2
      hreceiving₁ (by
        intro e' he' hmem
        rcases hkeys₁ _ hmem with heq | hmem
        · exact hnodup.1 (heq ▸ List.mem_map_of_mem (f := Prod.fst) he')
        · exact hkeys e' (List.mem_cons_of_mem _ he') hmem)
    refine (triple_conseq hrest (fun _ h => h) ?_ fun _ _ h => h).ended s hreplaced
    rintro id' s' ⟨hid, f', hcontinued, hreceiving', hreplaced'⟩
    exact ⟨hid, f', .cons hcommitted hcontinued, hreceiving', hreplaced'⟩

/-- The rollover record first, then the operations. -/
def Transferred (handle successor : SessionId) (reason : RolloverReason) (predecessor : Metadata)
    (snapshot : Option BackendSnapshot) (f f' : SessionFiles) : Prop :=
  ∃ admission f₁,
    Committed .connection (rolloverFields handle reason)
      (transferRolloverOwnership predecessor snapshot) successor f admission f₁ ∧
    Continued handle successor (continuedOperations predecessor) f₁ f'

theorem triple_transferOwnership_replaced {depth : ℕ} {reason : RolloverReason}
    {predecessor : Metadata} {snapshot : Option BackendSnapshot} {f : SessionFiles}
    (hopen : OpenHere handle predecessor) (hreceiving : Receiving handle successor f)
    (hbytes : f.evidenceBytes ≤ 3) (hempty : f.metadata.activeOperations = ∅) :
    Triple (Replaced st successor f)
      (transferOwnership (appendV2RecordLocked cfg depth) handle successor reason predecessor
        snapshot)
      (fun id s => id = successor ∧ ∃ f',
        Transferred handle successor reason predecessor snapshot f f' ∧
        Receiving handle successor f' ∧ Replaced st successor f' s)
      (fun _ _ => True) := by
  apply triple_bind (triple_append_replaced fun r hr => hreceiving.room hr)
  intro admission
  refine ⟨fun s h => ?_⟩
  obtain ⟨f₁, hcommitted, hreplaced⟩ := h
  have hid : admission.sessionId = successor := by
    cases hcommitted
    rfl
  obtain ⟨hreceiving₁, hempty₁⟩ := receiving_transferred hreceiving hbytes hempty hcommitted
  rw [hid]
  refine (triple_conseq
    (triple_continueOperations_replaced (continuedOperations predecessor) f₁
      (handedOver_of_openHere hopen) (nodup_continuedOperations predecessor) hreceiving₁ ?_)
    (fun _ h => h) ?_ fun _ _ h => h).ended s hreplaced
  · intro e _ he
    rw [hempty₁] at he
    simp at he
  · rintro id s' ⟨hid', f', hcontinued, hreceiving', hreplaced'⟩
    exact ⟨hid', f', ⟨admission, f₁, hcommitted, hcontinued⟩, hreceiving', hreplaced'⟩

/-! ## What the records leave -/

/-- The operations a successor owns: their ranges go on here, in the order of the records. -/
def continuedEntries (successor : SessionId) :
    ℕ → List (String × ActiveOperation) → List (String × ActiveOperation)
  | _, [] => []
  | evidenceSeq, e :: rest =>
    (e.1, { e.2 with ranges := e.2.ranges ++ [⟨successor, evidenceSeq, none⟩] })
      :: continuedEntries successor (evidenceSeq + 1) rest

/-- What continuing operations changes of the files. -/
structure ContinuedFiles (handle successor : SessionId)
    (operations : List (String × ActiveOperation)) (f f' : SessionFiles) : Prop where
  nextEvidenceSeq : f'.metadata.nextEvidenceSeq = f.metadata.nextEvidenceSeq + operations.length
  activeOperations : f'.metadata.activeOperations.entries = f.metadata.activeOperations.entries
    ++ continuedEntries successor f.metadata.nextEvidenceSeq operations
  operationSummary : f'.metadata.operationSummary =
    { f.metadata.operationSummary with
      active := f.metadata.operationSummary.active + operations.length }
  pendingAttempts : f'.metadata.pendingAttempts = f.metadata.pendingAttempts
  uartRaw : f'.uartRaw = f.uartRaw
  uartEvents : f'.uartEvents = f.uartEvents
  operationEvents : f'.operationEvents.map EvidenceRecord.body
    = f.operationEvents.map EvidenceRecord.body
      ++ operations.map fun e => .operationContinued e.1 e.2.operationType handle
  hardwareEvents : f'.hardwareEvents = f.hardwareEvents
  connectionEvents : f'.connectionEvents = f.connectionEvents

theorem keys_set_of_notMem {d : Dict String ActiveOperation} {k : String} {v : ActiveOperation}
    (h : k ∉ d.keys) : (d.set k v).keys = d.keys ++ [k] := by
  rw [Dict.keys, Dict.entries_set_of_notMem _ _ h, List.map_append]
  rfl

theorem Continued.files {operations : List (String × ActiveOperation)} {f f' : SessionFiles}
    (h : Continued handle successor operations f f') (hnodup : (operations.map Prod.fst).Nodup)
    (hkeys : ∀ e ∈ operations, e.1 ∉ f.metadata.activeOperations.keys) :
    ContinuedFiles handle successor operations f f' := by
  induction h with
  | nil f =>
    exact ⟨rfl, by simp [continuedEntries], rfl, rfl, rfl, rfl, by simp, rfl, rfl⟩
  | @cons e operations f f₁ f₂ admission hcommitted rest ih =>
    rw [List.map_cons, List.nodup_cons] at hnodup
    have hnew := hkeys e List.mem_cons_self
    cases hcommitted with
    | @mk r m rolledOver hseq hbound hfields hmutator hsize =>
      cases hmutator
      have hbody : r.body = .operationContinued e.1 e.2.operationType handle :=
        (Except.ok.inj hfields).symm
      have hrest := ih hnodup.2 (by
        intro e' he' hmem
        have hmem : e'.1 ∈ (f.metadata.activeOperations.set e.1
            { e.2 with ranges := e.2.ranges ++ [⟨successor, r.evidenceSeq, none⟩] }).keys := hmem
        rw [keys_set_of_notMem hnew, List.mem_append, List.mem_singleton] at hmem
        rcases hmem with hmem | heq
        · exact hkeys e' (List.mem_cons_of_mem _ he') hmem
        · exact hnodup.1 (heq ▸ List.mem_map_of_mem (f := Prod.fst) he'))
      constructor
      case nextEvidenceSeq =>
        rw [hrest.nextEvidenceSeq, List.length_cons]
        show r.evidenceSeq + 1 + _ = _
        omega
      case activeOperations =>
        rw [hrest.activeOperations]
        show (f.metadata.activeOperations.set e.1 _).entries ++
          continuedEntries successor (r.evidenceSeq + 1) operations = _
        rw [Dict.entries_set_of_notMem _ _ hnew, List.append_assoc, hseq]
        rfl
      case operationSummary =>
        rw [hrest.operationSummary, List.length_cons]
        show ({ f.metadata.operationSummary with
            active := f.metadata.operationSummary.active + 1 + operations.length } :
            OperationSummary) =
          { f.metadata.operationSummary with
            active := f.metadata.operationSummary.active + (operations.length + 1) }
        rw [Nat.add_assoc, Nat.add_comm 1]
      case pendingAttempts => exact hrest.pendingAttempts
      case uartRaw => exact hrest.uartRaw
      case uartEvents => exact hrest.uartEvents
      case operationEvents =>
        rw [hrest.operationEvents]
        show (f.operationEvents ++ [r]).map EvidenceRecord.body ++ _ = _
        rw [List.map_append, List.append_assoc, List.map_cons, List.map_cons, hbody]
        rfl
      case hardwareEvents => exact hrest.hardwareEvents
      case connectionEvents => exact hrest.connectionEvents

/-! ## The predecessor and the successor -/

/-- What a rollover that returned made of the session and its successor. -/
structure HandsOver (handle successor : SessionId) (reason : RolloverReason)
    (files prior next : SessionFiles) : Prop where
  evidence : prior = { files with metadata := prior.metadata }
  completed : prior.metadata.state = .completed ∧
    prior.metadata.endReason = some reason.name ∧ prior.metadata.error = none
  linked : prior.metadata.successorSessionId = some successor ∧
    next.metadata.predecessorSessionId = some handle
  released : prior.metadata.activeOperations = ∅ ∧ prior.metadata.pendingAttempts = ∅ ∧
    prior.metadata.operationSummary = { files.metadata.operationSummary with active := 0 } ∧
    prior.metadata.interruptedOperations = files.metadata.interruptedOperations
  active : next.metadata.state = .active ∧ next.metadata.sessionId = successor
  pendingAttempts : next.metadata.pendingAttempts = files.metadata.pendingAttempts
  activeOperations : next.metadata.activeOperations.entries =
    continuedEntries successor 1 (continuedOperations files.metadata)
  operationSummary : next.metadata.operationSummary =
    { active := files.metadata.activeOperations.length }
  nextEvidenceSeq : next.metadata.nextEvidenceSeq = files.metadata.activeOperations.length + 1
  connectionEvents : next.connectionEvents.map EvidenceRecord.body =
    [.rolloverSucceeded 0 handle reason]
  operationEvents : next.operationEvents.map EvidenceRecord.body =
    (continuedOperations files.metadata).map fun e =>
      .operationContinued e.1 e.2.operationType handle
  noUart : next.uartRaw = [] ∧ next.uartEvents = [] ∧ next.hardwareEvents = []

theorem length_continuedOperations (m : Metadata) :
    (continuedOperations m).length = m.activeOperations.length := by
  rw [continuedOperations, List.length_map, m.activeOperations.sortedEntries_perm.length_eq]
  rfl

/-- The successor's side. -/
theorem Transferred.owns {reason : RolloverReason} {predecessor : Metadata}
    {snapshot : Option BackendSnapshot} {n : ℕ} {startedAt : Timestamp} {profile : DutProfile}
    {backend : BackendSnapshot} {f' : SessionFiles}
    (h : Transferred handle successor reason predecessor snapshot
      { metadata := createdSession cfg n startedAt profile backend (some handle) } f') :
    f'.metadata.pendingAttempts = predecessor.pendingAttempts ∧
      f'.metadata.activeOperations.entries =
        continuedEntries successor 1 (continuedOperations predecessor) ∧
      f'.metadata.operationSummary = { active := predecessor.activeOperations.length } ∧
      f'.metadata.nextEvidenceSeq = predecessor.activeOperations.length + 1 ∧
      f'.connectionEvents.map EvidenceRecord.body = [.rolloverSucceeded 0 handle reason] ∧
      f'.operationEvents.map EvidenceRecord.body = (continuedOperations predecessor).map
        (fun e => .operationContinued e.1 e.2.operationType handle) ∧
      f'.uartRaw = [] ∧ f'.uartEvents = [] ∧ f'.hardwareEvents = [] := by
  obtain ⟨admission, f₁, hcommitted, hcontinued⟩ := h
  cases hcommitted with
  | @mk r m rolledOver hseq hbound hfields hmutator hsize =>
    have hframe := admissionFrame_carryConnection predecessor snapshot
      { createdSession cfg n startedAt profile backend (some handle) with
        nextEvidenceSeq := r.evidenceSeq + 1
        pendingAttempts := predecessor.pendingAttempts }
    have hm : m = carryConnection predecessor snapshot
        { createdSession cfg n startedAt profile backend (some handle) with
          nextEvidenceSeq := r.evidenceSeq + 1
          pendingAttempts := predecessor.pendingAttempts } := (Except.ok.inj hmutator).symm
    subst hm
    have hbody : r.body = .rolloverSucceeded 0 handle reason := (Except.ok.inj hfields).symm
    have hzero : r.evidenceSeq = 0 := hseq
    have hempty : ∀ e ∈ continuedOperations predecessor, e.1 ∉
        (carryConnection predecessor snapshot
          { createdSession cfg n startedAt profile backend (some handle) with
            nextEvidenceSeq := r.evidenceSeq + 1
            pendingAttempts := predecessor.pendingAttempts }).activeOperations.keys := by
      intro e _ he
      rw [hframe.2.2.activeOperations] at he
      simp [createdSession, initialV2Metadata] at he
    have hfiles := hcontinued.files (nodup_continuedOperations predecessor) hempty
    have hlength := length_continuedOperations predecessor
    have hnext : (carryConnection predecessor snapshot
        { createdSession cfg n startedAt profile backend (some handle) with
          nextEvidenceSeq := r.evidenceSeq + 1
          pendingAttempts := predecessor.pendingAttempts }).nextEvidenceSeq = 1 := by
      rw [hframe.1.nextEvidenceSeq, hzero]
    refine ⟨hfiles.pendingAttempts.trans hframe.2.2.pendingAttempts, ?_, ?_, ?_, ?_, ?_,
      hfiles.uartRaw, hfiles.uartEvents, hfiles.hardwareEvents⟩
    · rw [hfiles.activeOperations]
      show (carryConnection _ _ _).activeOperations.entries
        ++ continuedEntries successor (carryConnection _ _ _).nextEvidenceSeq _ = _
      rw [hframe.2.2.activeOperations, hnext]
      rfl
    · rw [hfiles.operationSummary]
      show ({ (carryConnection _ _ _).operationSummary with
        active := (carryConnection _ _ _).operationSummary.active + _ } : OperationSummary) = _
      rw [hframe.2.2.operationSummary, hlength]
      show OperationSummary.mk 0 0 0 (0 + _) = OperationSummary.mk 0 0 0 _
      rw [Nat.zero_add]
    · rw [hfiles.nextEvidenceSeq, hlength]
      show (carryConnection _ _ _).nextEvidenceSeq + _ = _
      rw [hnext, Nat.add_comm]
    · rw [hfiles.connectionEvents]
      show [r].map EvidenceRecord.body = _
      rw [List.map_singleton, hbody]
    · rw [hfiles.operationEvents]
      rfl

/-- The predecessor's side. -/
theorem released_of_linked {m m₁ m₂ : Metadata} (t : Terminal) (endedAt : Timestamp)
    (hlink : linkSuccessor successor m = .ok m₁) (hown : relinquishV2Ownership m₁ = .ok m₂) :
    (terminalMetadata t endedAt m₂).successorSessionId = some successor ∧
      (terminalMetadata t endedAt m₂).activeOperations = ∅ ∧
      (terminalMetadata t endedAt m₂).pendingAttempts = ∅ ∧
      (terminalMetadata t endedAt m₂).operationSummary = { m.operationSummary with active := 0 } ∧
      (terminalMetadata t endedAt m₂).interruptedOperations = m.interruptedOperations := by
  obtain ⟨_, rfl⟩ := linkSuccessor_eq_ok hlink
  obtain ⟨_, interrupted, hfold, rfl⟩ := relinquishV2Ownership_eq_ok hown
  rw [Dict.sortedEntries_empty] at hfold
  cases hfold
  exact ⟨rfl, rfl, rfl, rfl, rfl⟩

/-- A created session is the only change, but for the backend remembered with it. -/
theorem triple_create_replaced (st : Store) {profile : DutProfile} {backend : BackendSnapshot}
    {predecessor : Option SessionId} :
    Triple (fun s => s.sessions = st.sessions ∧ s.removed = st.removed ∧
        s.v2Snapshots = st.v2Snapshots)
      (createV2SessionLocked cfg profile backend predecessor)
      (fun id s => st.sessions.get? id = none ∧ ∃ n startedAt,
        id = newSessionId startedAt (cfg.idFactory n) ∧
        (createdSession cfg n startedAt profile backend predecessor).size ≤ metadataMaxBytes ∧
        minV2EvidenceBudgetBytes ≤ cfg.evidenceBudgetBytes ∧
        Replaced { st with v2Snapshots := st.v2Snapshots.set id backend } id
          { metadata := createdSession cfg n startedAt profile backend predecessor } s)
      (fun _ _ => True) := by
  have hclock : ClockFree fun s => s.sessions = st.sessions ∧ s.removed = st.removed ∧
      s.v2Snapshots = st.v2Snapshots := fun _ _ h => h
  refine triple_require_bind (fun _ _ => trivial) ?_
  intro hbudget
  apply triple_bind (R := fun _ s => s.sessions = st.sessions ∧ s.removed = st.removed ∧
    s.v2Snapshots = st.v2Snapshots)
  · refine triple_require_bind (fun _ _ => trivial) ?_
    intro _
    refine triple_require_bind (fun _ _ => trivial) ?_
    intro _
    exact triple_require (fun _ _ h => h) fun _ _ _ => trivial
  intro _
  apply triple_bind (triple_conseq (triple_readClock hclock) (fun _ h => h) (fun _ _ h => h)
    fun _ _ _ => trivial)
  intro startedAt
  apply triple_bind (R := fun suffix s => (∃ n, suffix = cfg.idFactory n) ∧
    s.sessions = st.sessions ∧ s.removed = st.removed ∧ s.v2Snapshots = st.v2Snapshots)
  · apply triple_look
    intro n
    apply triple_bind (R := fun _ s => s.sessions = st.sessions ∧ s.removed = st.removed ∧
      s.v2Snapshots = st.v2Snapshots)
    · exact triple_change fun _ h => h.2
    · intro _
      exact triple_pure fun _ h => ⟨⟨n, rfl⟩, h⟩
  intro suffix
  apply triple_assume (fun _ h => h.1)
  rintro ⟨n, rfl⟩
  refine triple_require_bind (fun _ _ => trivial) ?_
  intro _
  apply triple_look
  intro existing
  refine triple_require_bind (fun _ _ => trivial) ?_
  intro hexisting
  refine triple_require_bind (fun _ _ => trivial) ?_
  intro hsize
  refine triple_bind (R := fun _ s => st.sessions.get? (newSessionId startedAt (cfg.idFactory n)) =
    none ∧ Replaced
      { st with
        v2Snapshots :=
          st.v2Snapshots.set (newSessionId startedAt (cfg.idFactory n)) backend }
      (newSessionId startedAt (cfg.idFactory n))
      { metadata := createdSession cfg n startedAt profile backend predecessor } s)
    (triple_change ?_) fun _ => triple_pure fun _ h =>
      ⟨h.1, n, startedAt, rfl, hsize, hbudget, h.2⟩
  rintro s ⟨hcontains, _, hsessions, hremoved, hsnapshots⟩
  have hfresh : st.sessions.get? (newSessionId startedAt (cfg.idFactory n)) = none := by
    rw [hexisting, hsessions] at hcontains
    exact Option.isNone_iff_eq_none.mp (Option.isSome_eq_false_iff.mp hcontains)
  refine ⟨hfresh, ?_, fun id' hne => ?_, hremoved, ?_⟩
  · exact Dict.get?_set_self _ _ _
  · rw [← hsessions]
    exact Dict.get?_set_of_ne _ _ hne
  · rw [← hsnapshots]

/-- What a session that was ended became; what a refusal leaves does not matter here. -/
theorem triple_terminalize_ended {P Q : Store → Prop} (hP : ClockFree P) {t : Terminal}
    {mutator : Metadata → Except StoreException Metadata}
    (hstep : ∀ s s' files m₁ m₂ endedAt, P s → s.sessions.get? handle = some files →
      mutator files.metadata = .ok m₁ → relinquishV2Ownership m₁ = .ok m₂ →
      s'.sessions = s.sessions.set handle (files.withMetadata (terminalMetadata t endedAt m₂)) →
      s'.removed = s.removed → s'.v2Snapshots = s.v2Snapshots.erase handle → Q s') :
    Triple P (terminalizeSessionLocked cfg handle t mutator) (fun _ => Q) (fun _ _ => True) := by
  apply triple_bind (triple_conseq triple_sessionFiles (fun _ h => h) (fun _ _ h => h)
    fun _ _ _ => trivial)
  intro files
  refine triple_require_bind (fun _ _ => trivial) ?_
  intro _
  refine triple_lift_bind (fun _ _ _ _ => trivial) ?_
  intro m₁ hm₁
  refine triple_lift_bind (fun _ _ _ _ => trivial) ?_
  intro m₂ hm₂
  apply triple_bind (triple_conseq (triple_readClock (hP.and_get? handle files)) (fun _ h => h)
    (fun _ _ h => h) fun _ _ _ => trivial)
  intro endedAt
  apply triple_bind (triple_conseq triple_checkSegmentEnd (fun _ h => h) (fun _ _ h => h)
    fun _ _ _ => trivial)
  intro _
  refine triple_require_bind (fun _ _ => trivial) ?_
  intro _
  exact triple_change fun s h => hstep s _ files m₁ m₂ endedAt h.2 h.1 hm₁ hm₂ rfl rfl rfl

/-! ## The rollover -/

/-- A rollover up to retention: the successor was created, took what was handed over, and
the predecessor was closed over it. -/
inductive Succeeded (cfg : StoreConfig) (st : Store) (handle : SessionId)
    (reason : RolloverReason) (snapshot : Option BackendSnapshot) : SessionId → Store → Prop where
  | mk {n : ℕ} {startedAt : Timestamp} {profile : DutProfile} {backend : BackendSnapshot}
      {successor : SessionId} {files next : SessionFiles} {m₁ m₂ : Metadata}
      {endedAt : Timestamp} {s s' : Store} (hget : st.sessions.get? handle = some files)
      (hbackend : (snapshot <|> st.v2Snapshots.get? handle) = some backend)
      (hid : successor = newSessionId startedAt (cfg.idFactory n))
      (hfresh : st.sessions.get? successor = none)
      (htransferred : Transferred handle successor reason files.metadata snapshot
        { metadata := createdSession cfg n startedAt profile backend (some handle) } next)
      (hreceiving : Receiving handle successor next)
      (hreplaced : Replaced { st with v2Snapshots := st.v2Snapshots.set successor backend }
        successor next s)
      (hlink : linkSuccessor successor files.metadata = .ok m₁)
      (hown : relinquishV2Ownership m₁ = .ok m₂)
      (hsessions : s'.sessions = s.sessions.set handle (files.withMetadata
        (terminalMetadata ⟨.completed, reason.name, none⟩ endedAt m₂)))
      (hremoved : s'.removed = s.removed)
      (hsnapshots : s'.v2Snapshots = s.v2Snapshots.erase handle) :
      Succeeded cfg st handle reason snapshot successor s'

/-- From the created successor on. -/
theorem triple_rollover_created {depth : ℕ} {reason : RolloverReason}
    {snapshot : Option BackendSnapshot} {n : ℕ} {startedAt : Timestamp} {profile : DutProfile}
    {backend : BackendSnapshot} {files : SessionFiles} (hopen : OpenHere handle files.metadata)
    (hget : st.sessions.get? handle = some files)
    (hbackend : (snapshot <|> st.v2Snapshots.get? handle) = some backend)
    (hid : successor = newSessionId startedAt (cfg.idFactory n))
    (hfresh : st.sessions.get? successor = none)
    (hreceiving : Receiving handle successor
      { metadata := createdSession cfg n startedAt profile backend (some handle) })
    {R : SessionId → Store → Prop}
    (hR : ∀ id s, Succeeded cfg st handle reason snapshot id s → R id s)
    (hremove : ∀ id s e, s.sessions.get? e.1 = some e.2 → e.2.metadata.state ≠ .active →
      R id s → R id (removeSession s e)) :
    Triple
      (Replaced { st with v2Snapshots := st.v2Snapshots.set successor backend } successor
        { metadata := createdSession cfg n startedAt profile backend (some handle) })
      (do
        noteRollover handle reason files snapshot successor
        let successor ← onPersistenceError
          (transferOwnership (appendV2RecordLocked cfg depth) handle successor reason
            files.metadata snapshot)
          (failActiveV2PersistenceLocked cfg handle)
        terminalizeSessionLocked cfg handle
          { state := .completed, endReason := reason.name, error := none }
          (linkSuccessor successor)
        applyRetentionLocked cfg [successor]
        pure successor)
      R (fun _ _ => True) := by
  have hne : successor ≠ handle := by
    rintro rfl
    rw [hget] at hfresh
    cases hfresh
  apply triple_bind (R := fun _ =>
    Replaced { st with v2Snapshots := st.v2Snapshots.set successor backend } successor
      { metadata := createdSession cfg n startedAt profile backend (some handle) })
  · exact triple_change fun s h => ⟨h.session, h.others, h.removed, h.snapshots⟩
  intro _
  apply triple_bind (triple_onPersistenceError
    (triple_transferOwnership_replaced hopen hreceiving le_rfl rfl) fun _ => triple_trivial _)
  intro moved
  apply triple_assume (fun _ h => h.1)
  rintro rfl
  apply triple_bind (R := fun _ => R moved)
  · refine triple_terminalize_ended (fun s n h => ?_) ?_
    · obtain ⟨hid, next, htransferred, hreceiving', hreplaced⟩ := h
      exact ⟨hid, next, htransferred, hreceiving', clockFree_replaced _ _ _ s n hreplaced⟩
    · rintro s s' files' m₁ m₂ endedAt ⟨_, next, htransferred, hreceiving', hreplaced⟩ hfiles hlink
        hown hsessions hremoved hsnapshots
      have hold : s.sessions.get? handle = some files := by
        rw [hreplaced.others handle (Ne.symm hne), hget]
      cases hfiles.symm.trans hold
      exact hR _ _ (.mk hget hbackend hid hfresh htransferred hreceiving' hreplaced hlink hown
        hsessions hremoved hsnapshots)
  intro _
  apply triple_bind (triple_conseq
    (keeps_applyRetention fun s e hget hended h => hremove moved s e hget hended h)
    (fun _ h => h) (fun _ _ h => h) fun _ _ _ => trivial)
  intro _
  exact triple_pure fun _ h => h

/-- A rollover that returns left what its successor needs, and retention may have removed
ended sessions since. -/
theorem triple_rollover {depth : ℕ} {reason : RolloverReason}
    {snapshot : Option BackendSnapshot} (hopen : AllOpenHere st)
    {R : SessionId → Store → Prop}
    (hR : ∀ id s, Succeeded cfg st handle reason snapshot id s → R id s)
    (hremove : ∀ id s e, s.sessions.get? e.1 = some e.2 → e.2.metadata.state ≠ .active →
      R id s → R id (removeSession s e)) :
    Triple (fun s => s = st)
      (rolloverV2Locked cfg (appendV2RecordLocked cfg depth) handle reason snapshot)
      R (fun _ _ => True) := by
  apply triple_bind (triple_conseq triple_requireActive (fun _ h => h) (fun _ _ h => h)
    fun _ _ _ => trivial)
  intro files
  apply triple_assume (c := st.sessions.get? handle = some files)
  · rintro s ⟨_, hget, rfl⟩
    exact hget
  intro hget
  apply triple_bind (R := fun p s => (snapshot <|> st.v2Snapshots.get? handle) = some p.2 ∧ s = st)
  · apply triple_look
    intro profile
    apply triple_look
    intro backend
    split
    · refine triple_pure ?_
      rintro s ⟨hbackend, _, _, _, rfl⟩
      exact ⟨hbackend, rfl⟩
    · exact triple_raise fun _ _ => trivial
  rintro ⟨profile, backend⟩
  apply triple_assume (fun _ h => h.1)
  intro hbackend
  apply triple_bind (triple_onPersistenceError
    (triple_conseq (triple_create_replaced st)
      (fun s hs => by rw [hs.2]; exact ⟨rfl, rfl, rfl⟩)
      (fun _ _ h => h) fun _ _ h => h) fun _ => triple_trivial _)
  intro successor
  refine ⟨fun s h => ?_⟩
  obtain ⟨hfresh, n, startedAt, hid, hsize, hbudget, hreplaced⟩ := h
  refine (triple_rollover_created (hopen handle files hget) hget hbackend hid hfresh ?_ hR
    hremove).ended s hreplaced
  rw [hid]
  exact receiving_created cfg hbudget hsize

/-! ## What it hands over -/

/-- What a rollover that returned left, up to what retention removed afterwards. -/
structure RolledOver (st : Store) (handle : SessionId) (reason : RolloverReason)
    (successor : SessionId) (s : Store) : Prop where
  handsOver : ∃ files prior next, st.sessions.get? handle = some files ∧
    s.history handle = some prior ∧ s.sessions.get? successor = some next ∧
    HandsOver handle successor reason files prior next
  others : ∀ id, id ≠ handle → id ≠ successor → s.history id = st.history id

/-- The predecessor is closed over the successor. -/
theorem Succeeded.rolledOver {reason : RolloverReason} {snapshot : Option BackendSnapshot}
    {s : Store} (h : Succeeded cfg st handle reason snapshot successor s) :
    RolledOver st handle reason successor s := by
  cases h with
  | @mk _ _ _ _ _ files next _ _ endedAt s₁ _ hget _ _ hfresh htransferred hreceiving hreplaced
      hlink hown hsessions hremoved _ =>
    have hne : successor ≠ handle := by
      rintro rfl
      rw [hget] at hfresh
      cases hfresh
    obtain ⟨hsuccessor, hactive, hpending, hsummary, hinterrupted⟩ :=
      released_of_linked ⟨.completed, reason.name, none⟩ endedAt hlink hown
    obtain ⟨hpending', hactive', hsummary', hnext, hconnection, hoperation, hnone⟩ :=
      htransferred.owns
    constructor
    case handsOver =>
      refine ⟨files, _, next, hget, by rw [history_set hsessions hremoved, if_pos rfl], ?_, ?_⟩
      · rw [hsessions, Dict.get?_set_of_ne _ _ hne]
        exact hreplaced.session
      · exact ⟨rfl, ⟨rfl, rfl, rfl⟩, ⟨hsuccessor, hreceiving.predecessor⟩,
          ⟨hactive, hpending, hsummary, hinterrupted⟩, ⟨hreceiving.active, hreceiving.sessionId⟩,
          hpending', hactive', hsummary', hnext, hconnection, hoperation, hnone⟩
    case others =>
      intro id hhandle hsuccessor
      rw [history_set hsessions hremoved, if_neg hhandle, Store.history, Store.history,
        hreplaced.others id hsuccessor, hreplaced.removed]

/-- Retention keeps the history and the active successor. -/
theorem RolledOver.removeSession {reason : RolloverReason} {s : Store}
    {e : SessionId × SessionFiles} (h : RolledOver st handle reason successor s)
    (hget : s.sessions.get? e.1 = some e.2) (hended : e.2.metadata.state ≠ .active) :
    RolledOver st handle reason successor (removeSession s e) where
  handsOver := by
    obtain ⟨files, prior, next, hfiles, hprior, hnext, hands⟩ := h.handsOver
    refine ⟨files, prior, next, hfiles, by rw [history_removeSession hget]; exact hprior, ?_,
      hands⟩
    have hother : successor ≠ e.1 := by
      rintro rfl
      cases hget.symm.trans hnext
      exact hended hands.active.1
    show (s.sessions.erase e.1).get? successor = some next
    rw [Dict.get?_erase, if_neg hother]
    exact hnext
  others id hhandle hsuccessor := by
    rw [history_removeSession hget]
    exact h.others id hhandle hsuccessor

end Rollover
