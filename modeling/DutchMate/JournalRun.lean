/-
# Well-formed journals over runs of the store

Every step keeps the journal of every session well formed, so every sequence of calls
does, and the validators of the reader accept what was left.
-/
import DutchMate.CallSteps

open Throwing

/-! ## History -/

/-- The sessions on disk, and those retention deleted. -/
def Store.history (st : Store) (id : SessionId) : Option SessionFiles :=
  (st.sessions.get? id).or (st.removed.get? id)

theorem history_of_get? {st : Store} {id : SessionId} {files : SessionFiles}
    (h : st.sessions.get? id = some files) : st.history id = some files := by
  rw [Store.history, h, Option.some_or]

/-- One session is replaced or added. -/
theorem history_set {st st' : Store} {id : SessionId} {files : SessionFiles}
    (hsessions : st'.sessions = st.sessions.set id files) (hremoved : st'.removed = st.removed)
    (id' : SessionId) :
    st'.history id' = if id' = id then some files else st.history id' := by
  rw [Store.history, hsessions, hremoved, Dict.get?_set]
  split
  · rw [Option.some_or]
  · rfl

/-- Deleting a session does not change its history. -/
theorem history_removeSession {st : Store} {e : SessionId × SessionFiles}
    (hget : st.sessions.get? e.1 = some e.2) : (removeSession st e).history = st.history := by
  funext id
  rw [Store.history, Store.history, removeSession, Dict.get?_erase, Dict.get?_set]
  split
  · rename_i hid
    rw [hid, hget, Option.none_or, Option.some_or]
  · rfl

/-! ## Steps keep sessions well formed -/

theorem relinquishV2Ownership_eq_ok {m m' : Metadata} (h : relinquishV2Ownership m = .ok m') :
    m.operationSummary.active = m.activeOperations.length ∧
      ∃ interrupted,
        m.activeOperations.sortedEntries.foldlM (interruptOperation m.nextEvidenceSeq)
          m.interruptedOperations = .ok interrupted ∧
        m' =
          { m with
            activeOperations := ∅
            interruptedOperations := interrupted
            operationSummary := { m.operationSummary with active := 0 } } := by
  unfold relinquishV2Ownership at h
  split at h
  · cases h
  · rename_i hactive
    obtain ⟨interrupted, hfold, h⟩ := except_bind_eq_ok.mp h
    cases h
    exact ⟨not_not.mp hactive, interrupted, hfold, rfl⟩

theorem linkSuccessor_eq_ok {successor : SessionId} {m m' : Metadata}
    (h : linkSuccessor successor m = .ok m') :
    m.operationSummary.active = m.activeOperations.length ∧
      m' =
        { m with
          successorSessionId := some successor
          operationSummary := { m.operationSummary with active := 0 }
          activeOperations := ∅
          pendingAttempts := ∅ } := by
  unfold linkSuccessor at h
  split at h
  · cases h
  · rename_i hactive
    cases h
    exact ⟨not_not.mp hactive, rfl⟩

/-- What ending a session leaves of its metadata. -/
theorem EndedAs.frame {m m' : Metadata} (h : EndedAs m m') :
    MetadataFrame m m' ∧ m'.activeOperations = ∅ := by
  obtain ⟨hown, _⟩ := h
  obtain ⟨_, interrupted, _, rfl⟩ := relinquishV2Ownership_eq_ok hown
  exact ⟨.of_ids rfl rfl rfl
    (map_segmentId_modifyLastSegment (segmentId_closeSegment _ _) m.segments), rfl⟩

theorem LinkedAs.frame {successor : SessionId} {m m' : Metadata} (h : LinkedAs successor m m') :
    MetadataFrame m m' ∧ m'.activeOperations = ∅ := by
  obtain ⟨hlink, hown, _⟩ := h
  obtain ⟨_, rfl⟩ := linkSuccessor_eq_ok hlink
  obtain ⟨_, interrupted, _, rfl⟩ := relinquishV2Ownership_eq_ok hown
  exact ⟨.of_ids rfl rfl rfl
    (map_segmentId_modifyLastSegment (segmentId_closeSegment _ _) m.segments), rfl⟩

/-- Ownership after an admission keeps every active operation open in its session. -/
theorem OwnershipEffect.openHere {handle : SessionId} {evidenceSeq : ℕ} {kind : StepKind}
    {body : RecordBody} {m m' : Metadata}
    (h : OwnershipEffect handle evidenceSeq kind body m m') (hopen : OpenHere handle m) :
    OpenHere handle m' := by
  intro operationId operation hget
  cases h with
  | plain _ hm => exact hopen _ _ (hm.activeOperations ▸ hget)
  | started _ hactive =>
    rw [hactive, Dict.get?_set] at hget
    split at hget
    · cases hget
      exact ⟨[], evidenceSeq, rfl⟩
    · exact hopen _ _ hget
  | terminal _ hactive =>
    rw [hactive, Dict.get?_erase] at hget
    split at hget
    · cases hget
    · exact hopen _ _ hget
  | attempt _ _ _ _ _ hactive => exact hopen _ _ (hactive ▸ hget)
  | result _ _ _ _ _ hactive => exact hopen _ _ (hactive ▸ hget)
  | transferred hactive => exact hopen _ _ (hactive ▸ hget)
  | continued ranges hactive =>
    rw [hactive, Dict.get?_set] at hget
    split at hget
    · cases hget
      exact ⟨ranges, evidenceSeq, rfl⟩
    · exact hopen _ _ hget

theorem sameOwnership_unit (unit : UartUnit) (event : UartReceiveEvent)
    (captureResult : Option UartCaptureResult) (m : Metadata) :
    SameOwnership m (unit.metadata event captureResult m) := by
  cases captureResult <;> exact ⟨rfl, rfl, rfl⟩

/-- A session whose journal is well formed and whose operations are open in it. -/
structure SessionWellFormed (id : SessionId) (files : SessionFiles) : Prop where
  journal : JournalWellFormed id files
  openHere : OpenHere id files.metadata

theorem Admitted.wellFormed {handle : SessionId} {kind : StepKind} {files files' : SessionFiles}
    (h : Admitted handle kind files files') (hfiles : SessionWellFormed handle files) :
    SessionWellFormed handle files' := by
  cases h with
  | record hseq htype hfits hframe howned =>
    exact ⟨hfiles.journal.append hseq htype hfits hframe.toMetadataFrame,
      howned.openHere hfiles.openHere⟩
  | uart hunit hne hfits =>
    refine ⟨hfiles.journal.writeUnit hunit hne hfits, fun operationId operation hget => ?_⟩
    rw [SessionFiles.withMetadata, (sameOwnership_unit _ _ _ _).activeOperations] at hget
    exact hfiles.openHere operationId operation hget

/-- Every session, also a deleted one, is well formed. -/
def Sound (st : Store) : Prop := ∀ id files, st.history id = some files → SessionWellFormed id files

/-- One session may be replaced by a well-formed one. -/
theorem Sound.set {st st' : Store} {id : SessionId} {files : SessionFiles} (h : Sound st)
    (hfiles : SessionWellFormed id files) (hsessions : st'.sessions = st.sessions.set id files)
    (hremoved : st'.removed = st.removed) : Sound st' := by
  intro id' files' hget
  rw [history_set hsessions hremoved] at hget
  split at hget
  · rename_i hid
    cases hget
    exact hid ▸ hfiles
  · exact h id' files' hget

/-- Every step keeps every session well formed. -/
theorem closed_sound (cfg : StoreConfig) (kind : StepKind) : Closed cfg kind Sound := by
  intro st st' hstep h
  cases hstep with
  | quiet hsessions hremoved =>
    intro id files hget
    rw [Store.history, hsessions, hremoved] at hget
    exact h id files hget
  | created _ hbudget _ _ hsessions hremoved =>
    exact h.set ⟨wellFormed_initial _ _ _ _ hbudget _, fun _ _ hget => by cases hget⟩ hsessions
      hremoved
  | admitted hget _ _ hadmitted _ hsessions hframe =>
    exact h.set (hadmitted.wellFormed (h _ _ (history_of_get? hget))) hsessions hframe.removed
  | ended hget _ hended _ hsessions hframe =>
    obtain ⟨hm, hactive⟩ := hended.frame
    have hfiles := h _ _ (history_of_get? hget)
    refine h.set ⟨hfiles.journal.withMetadata hm, fun _ _ hop => ?_⟩ hsessions hframe.removed
    rw [SessionFiles.withMetadata, hactive] at hop
    cases hop
  | linked hget _ hlinked _ _ _ hsessions hframe =>
    obtain ⟨hm, hactive⟩ := hlinked.frame
    have hfiles := h _ _ (history_of_get? hget)
    refine h.set ⟨hfiles.journal.withMetadata hm, fun _ _ hop => ?_⟩ hsessions hframe.removed
    rw [SessionFiles.withMetadata, hactive] at hop
    cases hop
  | removed hget _ hst =>
    subst hst
    intro id files hid
    rw [history_removeSession hget] at hid
    exact h id files hid

/-- Every rollover keeps what its steps keep, where sessions are well formed. -/
theorem callInvariant_of_closed {cfg : StoreConfig} {depth : ℕ} {I : Store → Prop}
    (hI : ∀ kind, Closed cfg kind I) (hsound : ∀ st, I st → Sound st) :
    CallInvariant cfg depth I where
  closed := hI .call
  rollover _ _ _ _ _ := triple_rolloverV2Locked (hI .rollover)
    fun st hst id files hget => (hsound st hst id files (history_of_get? hget)).openHere

theorem segments_of_sound {st : Store} (h : Sound st) (id : SessionId) (files : SessionFiles)
    (hget : st.sessions.get? id = some files) : contiguousNativeSegments files.metadata = true :=
  (h id files (history_of_get? hget)).journal.segments

/-! ## Runs -/

/-- Every sequence of calls keeps every session well formed. -/
theorem sound_runCalls (cfg : StoreConfig) (depth : ℕ) (calls : List StoreCall) {st : Store}
    (hst : Sound st) : Sound (runCalls cfg depth calls st) :=
  (callInvariant_of_closed (closed_sound cfg) fun _ h => h).runCalls
    (fun _ h => segments_of_sound h) calls hst

theorem sound_empty : Sound {} := fun _ _ h => by cases h

/-- After any calls on an empty store every session's journal is well formed, and the
validators accept it. -/
theorem journals_wellFormed (cfg : StoreConfig) (depth : ℕ) (calls : List StoreCall)
    (id : SessionId) (f : SessionFiles)
    (hf : (runCalls cfg depth calls {}).sessions.get? id = some f) :
    JournalWellFormed id f ∧ validateV2PrimaryOrder f = true ∧ validateV2UartRecords f = true := by
  have hjournal := (sound_runCalls cfg depth calls sound_empty id f (history_of_get? hf)).journal
  exact ⟨hjournal, validateV2PrimaryOrder_of_wellFormed hjournal,
    validateV2UartRecords_of_wellFormed hjournal⟩

/-! A session that received one byte. -/

def exampleTimestamp : Timestamp := ⟨2024, 5, 6, 7, 8, 9, by decide⟩

/-- Identifiers are drawn in order; nothing is ever deleted. -/
def exampleConfig : StoreConfig where
  clock _ := exampleTimestamp
  idFactory n := String.ofList (padded 8 n)
  evidenceBudgetBytes := minV2EvidenceBudgetBytes
  maxCount := none
  baselineSessionId := none
  sessionDetailOk _ := true

def exampleProfile : DutProfile where
  name := none
  digestSha256 := ""
  projection := .obj []
  backendMode := .basic
  currentSerialPort := some "p"
  reconnectTimeoutS := "5.0"
  topology := "external_uart"
  selectorStrategy := "exact_path"
  selectorExactPath := some "p"

def exampleSnapshot : BackendSnapshot where
  info := { mode := .basic, port := "p", device := none, firmware := none, capabilities := [] }
  capabilities := []
  txPolicyEnabled := false
  segment := some
    { segmentId := 0
      timestamp :=
        { source := "host"
          clock := "monotonic"
          sourceOriginUs := 0
          observationPoint := "read"
          eventGranularity := "chunk" } }
  integrity := ⟨.notObservable, none, none⟩
  serialProvenance := none

def exampleId : SessionId := newSessionId exampleTimestamp "00000000"

def exampleCalls : List StoreCall :=
  [.createV2Session exampleProfile exampleSnapshot,
    .appendV2UartReceive exampleId
      { event := { segmentId := 0, timestampUs := 1, channel := 0, data := [65] } }]

theorem isSome_exampleSession :
    ((runCalls exampleConfig 1 exampleCalls {}).sessions.get? exampleId).isSome = true := by
  decide +kernel

theorem journals_wellFormed_oneByte :
    ∃ f, (runCalls exampleConfig 1 exampleCalls {}).sessions.get? exampleId = some f ∧
      JournalWellFormed exampleId f ∧ validateV2PrimaryOrder f = true ∧
        validateV2UartRecords f = true := by
  obtain ⟨f, hf⟩ := Option.isSome_iff_exists.mp isSome_exampleSession
  exact ⟨f, hf, journals_wellFormed exampleConfig 1 exampleCalls exampleId f hf⟩
