/-
# Where an admission goes

An admission that returns went to the session it was asked for, or to a successor that held
no evidence of its own yet: then the session it was asked for has ended with its evidence as
it was.
-/
import DutchMate.EvidenceRecorder

open Throwing

/-- A session no receive, telemetry or line record has reached. -/
structure Fresh (id : SessionId) (backend : BackendSnapshot) (f : SessionFiles) : Prop where
  active : f.metadata.state = .active
  sessionId : f.metadata.sessionId = id
  noUart : f.uartRaw = [] ∧ f.uartEvents = []
  noHardware : f.hardwareEvents = []
  noPatterns : f.detectedPatterns = []
  backendIntegrity : f.metadata.backendIntegrity = backend.integrity
  oversizedLineCount : f.metadata.oversizedLineCount = 0
  segments : f.metadata.segments.map SegmentMetadata.segmentId = [0]

/-- What taking over from a predecessor leaves alone. -/
structure TakesOver (f f' : SessionFiles) : Prop where
  state : f'.metadata.state = f.metadata.state
  sessionId : f'.metadata.sessionId = f.metadata.sessionId
  uart : f'.uartRaw = f.uartRaw ∧ f'.uartEvents = f.uartEvents
  hardware : f'.hardwareEvents = f.hardwareEvents
  patterns : f'.detectedPatterns = f.detectedPatterns
  backendIntegrity : f'.metadata.backendIntegrity = f.metadata.backendIntegrity
  oversizedLineCount : f'.metadata.oversizedLineCount = f.metadata.oversizedLineCount
  segments : f'.metadata.segments.map SegmentMetadata.segmentId =
    f.metadata.segments.map SegmentMetadata.segmentId

theorem TakesOver.trans {f₁ f₂ f₃ : SessionFiles} (h₁ : TakesOver f₁ f₂) (h₂ : TakesOver f₂ f₃) :
    TakesOver f₁ f₃ :=
  ⟨h₂.state.trans h₁.state, h₂.sessionId.trans h₁.sessionId,
    ⟨h₂.uart.1.trans h₁.uart.1, h₂.uart.2.trans h₁.uart.2⟩, h₂.hardware.trans h₁.hardware,
    h₂.patterns.trans h₁.patterns, h₂.backendIntegrity.trans h₁.backendIntegrity,
    h₂.oversizedLineCount.trans h₁.oversizedLineCount, h₂.segments.trans h₁.segments⟩

section Successor

variable {handle successor : SessionId}

theorem Continued.takesOver {operations : List (String × ActiveOperation)} {f f' : SessionFiles}
    (h : Continued handle successor operations f f') : TakesOver f f' := by
  induction h with
  | nil f => exact ⟨rfl, rfl, ⟨rfl, rfl⟩, rfl, rfl, rfl, rfl, rfl⟩
  | cons hcommitted rest ih =>
    refine TakesOver.trans ?_ ih
    cases hcommitted with
    | mk hseq hbound hfields hmutator hsize =>
      cases hmutator
      exact ⟨rfl, rfl, ⟨rfl, rfl⟩, rfl, rfl, rfl, rfl, rfl⟩

/-- A closed connection that goes on changes no identifier. -/
theorem segmentIds_carryConnection (predecessor m : Metadata)
    (snapshot : Option BackendSnapshot) :
    (carryConnection predecessor snapshot m).segments.map SegmentMetadata.segmentId =
      m.segments.map SegmentMetadata.segmentId := by
  unfold carryConnection
  split
  · rename_i hsegments
    split
    · rw [hsegments]
      rfl
    · rfl
  · rfl

theorem takesOver_carryConnection (predecessor m : Metadata)
    (snapshot : Option BackendSnapshot) :
    (carryConnection predecessor snapshot m).state = m.state ∧
      (carryConnection predecessor snapshot m).sessionId = m.sessionId ∧
      (carryConnection predecessor snapshot m).backendIntegrity = m.backendIntegrity ∧
      (carryConnection predecessor snapshot m).oversizedLineCount = m.oversizedLineCount := by
  unfold carryConnection
  split
  · split
    · exact ⟨rfl, rfl, rfl, rfl⟩
    · exact ⟨rfl, rfl, rfl, rfl⟩
  · exact ⟨rfl, rfl, rfl, rfl⟩

theorem Transferred.takesOver {reason : RolloverReason} {predecessor : Metadata}
    {snapshot : Option BackendSnapshot} {f f' : SessionFiles}
    (h : Transferred handle successor reason predecessor snapshot f f') : TakesOver f f' := by
  obtain ⟨admission, f₁, hcommitted, hcontinued⟩ := h
  refine TakesOver.trans ?_ hcontinued.takesOver
  cases hcommitted with
  | @mk r m rolledOver hseq hbound hfields hmutator hsize =>
    cases hmutator
    obtain ⟨hstate, hid, hintegrity, hoversized⟩ := takesOver_carryConnection predecessor
      { f.metadata with
        nextEvidenceSeq := r.evidenceSeq + 1
        pendingAttempts := predecessor.pendingAttempts } snapshot
    exact ⟨hstate, hid, ⟨rfl, rfl⟩, rfl, rfl, hintegrity, hoversized,
      segmentIds_carryConnection _ _ _⟩

theorem fresh_created (cfg : StoreConfig) (n : ℕ) (startedAt : Timestamp) (profile : DutProfile)
    (backend : BackendSnapshot) (predecessor : Option SessionId) :
    Fresh (newSessionId startedAt (cfg.idFactory n)) backend
      { metadata := createdSession cfg n startedAt profile backend predecessor } :=
  ⟨rfl, rfl, ⟨rfl, rfl⟩, rfl, rfl, rfl, rfl, rfl⟩

/-- Taking over keeps a session fresh. -/
theorem Fresh.takesOver {id : SessionId} {backend : BackendSnapshot} {f f' : SessionFiles}
    (h : Fresh id backend f) (htakes : TakesOver f f') : Fresh id backend f' :=
  ⟨htakes.state.trans h.active, htakes.sessionId.trans h.sessionId,
    ⟨htakes.uart.1.trans h.noUart.1, htakes.uart.2.trans h.noUart.2⟩,
    htakes.hardware.trans h.noHardware, htakes.patterns.trans h.noPatterns,
    htakes.backendIntegrity.trans h.backendIntegrity,
    htakes.oversizedLineCount.trans h.oversizedLineCount, htakes.segments.trans h.segments⟩

end Successor

/-! ## Destinations -/

/-- A session that ended with its evidence as it was. -/
structure EndedFiles (files prior : SessionFiles) : Prop where
  evidence : prior = { files with metadata := prior.metadata }
  ended : prior.metadata.state ≠ .active
  backendIntegrity : prior.metadata.backendIntegrity = files.metadata.backendIntegrity
  oversizedLineCount : prior.metadata.oversizedLineCount = files.metadata.oversizedLineCount
  segments : prior.metadata.segments.map SegmentMetadata.segmentId =
    files.metadata.segments.map SegmentMetadata.segmentId

theorem endedFiles_of_relinquished {files : SessionFiles} {t : Terminal} {endedAt : Timestamp}
    {m₁ m₂ : Metadata} (hown : relinquishV2Ownership m₁ = .ok m₂) (ht : t.state ≠ .active)
    (hintegrity : m₁.backendIntegrity = files.metadata.backendIntegrity)
    (hoversized : m₁.oversizedLineCount = files.metadata.oversizedLineCount)
    (hsegments : m₁.segments = files.metadata.segments) :
    EndedFiles files (files.withMetadata (terminalMetadata t endedAt m₂)) := by
  obtain ⟨_, interrupted, _, rfl⟩ := relinquishV2Ownership_eq_ok hown
  refine ⟨rfl, ht, hintegrity, hoversized, ?_⟩
  have hids := map_segmentId_modifyLastSegment (segmentId_closeSegment endedAt t.endReason)
    m₁.segments
  exact hids.trans (congrArg (List.map SegmentMetadata.segmentId) hsegments)

/-- A session that ended over a fresh successor. -/
structure EndedOver (files : SessionFiles) (successor : SessionId) (prior : SessionFiles) : Prop
    extends EndedFiles files prior where
  linked : prior.metadata.successorSessionId = some successor

theorem endedOver_of_linked {files : SessionFiles} {successor : SessionId} {m₁ m₂ : Metadata}
    {reason : RolloverReason} {endedAt : Timestamp}
    (hlink : linkSuccessor successor files.metadata = .ok m₁)
    (hown : relinquishV2Ownership m₁ = .ok m₂) :
    EndedOver files successor
      (files.withMetadata (terminalMetadata ⟨.completed, reason.name, none⟩ endedAt m₂)) := by
  have hlinked := (released_of_linked ⟨.completed, reason.name, none⟩ endedAt hlink hown).1
  obtain ⟨_, rfl⟩ := linkSuccessor_eq_ok hlink
  have hcompleted : SessionState.completed ≠ .active := by decide
  exact ⟨endedFiles_of_relinquished hown hcompleted rfl rfl rfl, hlinked⟩

/-- The session an admission to `handle` goes to, as it is before, with what `handle` became
if that is another. -/
inductive Landed (handle : SessionId) (files : SessionFiles) (backend : BackendSnapshot) :
    Bool → SessionId → SessionFiles → Option SessionFiles → Prop where
  | same : Landed handle files backend false handle files none
  | successor {successor : SessionId} {next prior : SessionFiles}
      (hne : successor ≠ handle) (hfresh : Fresh successor backend next)
      (hprior : EndedOver files successor prior) :
      Landed handle files backend true successor next (some prior)

/-- The store holds these files and this backend for a session, and what another became. -/
structure Holds (handle id : SessionId) (f : SessionFiles) (backend : BackendSnapshot)
    (prior : Option SessionFiles) (s : Store) : Prop where
  session : s.sessions.get? id = some f
  snapshot : s.v2Snapshots.get? id = some backend
  prior : ∀ p, prior = some p → s.history handle = some p

theorem clockFree_holds (handle id : SessionId) (f : SessionFiles) (backend : BackendSnapshot)
    (prior : Option SessionFiles) : ClockFree (Holds handle id f backend prior) :=
  fun _ _ h => ⟨h.session, h.snapshot, h.prior⟩

/-- Retention removes ended sessions only. -/
theorem Holds.removeSession {handle id : SessionId} {f : SessionFiles} {backend : BackendSnapshot}
    {prior : Option SessionFiles} {s : Store} {e : SessionId × SessionFiles}
    (h : Holds handle id f backend prior s) (hactive : f.metadata.state = .active)
    (hget : s.sessions.get? e.1 = some e.2) (hended : e.2.metadata.state ≠ .active) :
    Holds handle id f backend prior (removeSession s e) where
  session := by
    have hother : id ≠ e.1 := by
      rintro rfl
      cases hget.symm.trans h.session
      exact hended hactive
    show (s.sessions.erase e.1).get? id = some f
    rw [Dict.get?_erase, if_neg hother]
    exact h.session
  snapshot := h.snapshot
  prior p hp := by
    rw [history_removeSession hget]
    exact h.prior p hp

/-- One session changes; the other, if any, is not it. -/
theorem Holds.set {handle id : SessionId} {f f' : SessionFiles} {backend : BackendSnapshot}
    {prior : Option SessionFiles} {s s' : Store} (h : Holds handle id f backend prior s)
    (hne : prior.isSome → id ≠ handle) (hsessions : s'.sessions = s.sessions.set id f')
    (hremoved : s'.removed = s.removed) (hsnapshots : s'.v2Snapshots = s.v2Snapshots) :
    Holds handle id f' backend prior s' where
  session := by rw [hsessions, Dict.get?_set_self]
  snapshot := by rw [hsnapshots, h.snapshot]
  prior p hp := by
    have hother := hne (by rw [hp]; rfl)
    rw [history_set hsessions hremoved, if_neg (Ne.symm hother)]
    exact h.prior p hp

/-- An admission that returned: where it went, and what it did there. -/
def Outcome (K : SessionFiles → V2EvidenceAdmission → SessionFiles → Prop) (handle : SessionId)
    (files : SessionFiles) (backend : BackendSnapshot) (admission : V2EvidenceAdmission)
    (s : Store) : Prop :=
  ∃ next prior f', Landed handle files backend admission.rolledOver admission.sessionId next
    prior ∧ K next admission f' ∧ f'.metadata.state = .active ∧
    Holds handle admission.sessionId f' backend prior s

section Outcomes

variable {cfg : StoreConfig} {handle : SessionId} {files : SessionFiles}
  {backend : BackendSnapshot} {K : SessionFiles → V2EvidenceAdmission → SessionFiles → Prop}

theorem Outcome.removeSession {admission : V2EvidenceAdmission} {s : Store}
    {e : SessionId × SessionFiles} (h : Outcome K handle files backend admission s)
    (hget : s.sessions.get? e.1 = some e.2) (hended : e.2.metadata.state ≠ .active) :
    Outcome K handle files backend admission (removeSession s e) := by
  obtain ⟨next, prior, f', hlanded, hK, hactive, hholds⟩ := h
  exact ⟨next, prior, f', hlanded, hK, hactive, hholds.removeSession hactive hget hended⟩

theorem Outcome.mono {L : SessionFiles → V2EvidenceAdmission → SessionFiles → Prop}
    (hKL : ∀ next admission f', K next admission f' → L next admission f')
    {admission : V2EvidenceAdmission} {s : Store}
    (h : Outcome K handle files backend admission s) :
    Outcome L handle files backend admission s := by
  obtain ⟨next, prior, f', hlanded, hK, hactive, hholds⟩ := h
  exact ⟨next, prior, f', hlanded, hKL _ _ _ hK, hactive, hholds⟩

/-- A rollover lands in a fresh successor. -/
theorem Succeeded.holds {reason : RolloverReason} {snapshot : Option BackendSnapshot}
    {st s : Store} {id : SessionId} (h : Succeeded cfg st handle reason snapshot id s)
    (hget : st.sessions.get? handle = some files)
    (hbackend : (snapshot <|> st.v2Snapshots.get? handle) = some backend) :
    ∃ next prior, Landed handle files backend true id next (some prior) ∧
      next.metadata.state = .active ∧ Holds handle id next backend (some prior) s := by
  cases h with
  | @mk n startedAt profile _ successor _ next m₁ m₂ endedAt s₁ s' hget' hbackend' hid
      hfresh htransferred hreceiving hreplaced hlink hown hsessions hremoved hsnapshots =>
    cases hget'.symm.trans hget
    cases hbackend'.symm.trans hbackend
    -- The identifier was drawn while the store still had the predecessor.
    have hne : id ≠ handle := by
      rintro rfl
      rw [hget] at hfresh
      cases hfresh
    have hnext : Fresh id backend next := by
      refine Fresh.takesOver ?_ htransferred.takesOver
      rw [hid]
      exact fresh_created cfg n startedAt profile backend (some handle)
    refine ⟨next, files.withMetadata (terminalMetadata ⟨.completed, reason.name, none⟩ endedAt m₂),
      .successor hne hnext (endedOver_of_linked hlink hown), hnext.active, ?_, ?_, ?_⟩
    · rw [hsessions, Dict.get?_set_of_ne _ _ hne]
      exact hreplaced.session
    · rw [hsnapshots, hreplaced.snapshots, Dict.get?_erase, if_neg hne]
      exact Dict.get?_set_self _ _ _
    · rintro p hp
      cases hp
      rw [history_set hsessions hremoved, if_pos rfl]

theorem triple_rollover_holds {depth : ℕ} {reason : RolloverReason}
    {snapshot : Option BackendSnapshot} {st : Store} (hopen : AllOpenHere st)
    (hget : st.sessions.get? handle = some files)
    (hbackend : (snapshot <|> st.v2Snapshots.get? handle) = some backend) :
    Triple (SameButClock st)
      (rolloverV2Locked cfg (appendV2RecordLocked cfg depth) handle reason snapshot)
      (fun id s => ∃ next prior, Landed handle files backend true id next (some prior) ∧
        next.metadata.state = .active ∧ Holds handle id next backend (some prior) s)
      (fun _ _ => True) := by
  refine ⟨fun s hs => ?_⟩
  have hopen' : AllOpenHere s := by
    rw [hs]
    exact hopen
  rw [← hs.sessions] at hget
  have hbackend' : (snapshot <|> s.v2Snapshots.get? handle) = some backend := by
    rw [hs]
    exact hbackend
  refine (triple_rollover hopen' (fun id s h => h.holds hget hbackend') ?_).ended s rfl
  rintro id s e hgete hended ⟨next, prior, hlanded, hactive, hholds⟩
  exact ⟨next, prior, hlanded, hactive, hholds.removeSession hactive hgete hended⟩

/-- Committing a record leaves the session active. -/
def KeepsActive (mutator : MetadataMutator) : Prop :=
  ∀ m admission m', mutator m admission = .ok m' → m'.state = m.state

/-- One record is committed where it landed. -/
theorem triple_commitRecord_outcome {stream : EvidenceStream} {fields : RecordFields}
    {mutator : MetadataMutator} (hmutator : KeepsActive mutator) {rolledOver : Bool}
    {id : SessionId} {next : SessionFiles} {prior : Option SessionFiles} {r : EvidenceRecord}
    (hlanded : Landed handle files backend rolledOver id next prior)
    (hactive : next.metadata.state = .active)
    (hseq : r.evidenceSeq = next.metadata.nextEvidenceSeq)
    (hbound : r.size ≤ maxV2JsonlRecordBytes)
    (hfields : fields id next.metadata next.metadata.nextEvidenceSeq = .ok r.body) :
    Triple (Holds handle id next backend prior)
      (commitRecord cfg id next stream r mutator rolledOver)
      (Outcome (fun f admission f' =>
        Committed stream fields mutator admission.sessionId f admission f') handle files backend)
      (fun _ _ => True) := by
  apply triple_bind (R := fun _ s => ∃ f', Committed stream fields mutator id next
    ⟨id, r.evidenceSeq, rolledOver, r.evidenceSeq + 1⟩ f' ∧ f'.metadata.state = .active ∧
    Holds handle id f' backend prior s)
  · apply triple_onPersistenceError
    · refine triple_lift_bind (fun _ _ _ _ => trivial) ?_
      intro m hm
      refine triple_require_bind (fun _ _ => trivial) ?_
      intro hsize
      refine triple_change fun s h => ⟨_, .mk hseq hbound hfields hm hsize, ?_, ?_⟩
      · exact (hmutator _ _ _ hm).trans hactive
      · refine h.set (fun hsome => ?_) rfl rfl rfl
        cases hlanded with
        | same => cases hsome
        | successor hne _ _ => exact hne
    · intro e
      exact triple_trivial _
  · intro _
    refine triple_pure ?_
    rintro s ⟨f', hcommitted, hactive', hholds⟩
    exact ⟨next, prior, f', hlanded, hcommitted, hactive', hholds⟩

/-- What is known of a session as long as it is active. -/
def Known (handle : SessionId) (files : SessionFiles) (backend : BackendSnapshot) (s : Store) :
    Prop :=
  ∀ f, s.sessions.get? handle = some f → f.metadata.state = .active →
    f = files ∧ s.v2Snapshots.get? handle = some backend

theorem triple_requireActive_known {st : Store} (hknown : Known handle files backend st) :
    Triple (SameButClock st) (requireActive handle)
      (fun f s => (f = files ∧ files.metadata.state = .active ∧
        st.sessions.get? handle = some files ∧ st.v2Snapshots.get? handle = some backend) ∧
        SameButClock st s)
      (fun _ _ => True) := by
  refine triple_conseq triple_requireActive (fun _ h => h) ?_ fun _ _ _ => trivial
  rintro f s ⟨⟨hactive, _⟩, hget, hs⟩
  rw [hs.sessions] at hget
  obtain ⟨rfl, hbackend⟩ := hknown f hget hactive
  exact ⟨⟨rfl, hactive, hget, hbackend⟩, hs⟩

/-- An append goes to the session or, after a rollover, to its successor. -/
theorem triple_append_outcome {depth : ℕ} {stream : EvidenceStream} {fields : RecordFields}
    {mutator : MetadataMutator} (hmutator : KeepsActive mutator) {st : Store}
    (hopen : AllOpenHere st) (hknown : Known handle files backend st) :
    Triple (SameButClock st) (appendV2RecordLocked cfg depth handle stream fields mutator)
      (Outcome (fun f admission f' =>
        Committed stream fields mutator admission.sessionId f admission f') handle files backend)
      (fun _ _ => True) := by
  cases depth with
  | zero => exact triple_raise fun _ _ => trivial
  | succ depth =>
    apply triple_bind (triple_requireActive_known hknown)
    intro current
    apply triple_assume (fun _ h => h.1)
    rintro ⟨rfl, hactive, hget, hbackend⟩
    apply triple_bind (R := fun r s => (r.evidenceSeq = current.metadata.nextEvidenceSeq ∧
      r.size ≤ maxV2JsonlRecordBytes ∧
      fields handle current.metadata current.metadata.nextEvidenceSeq = .ok r.body) ∧
      SameButClock st s)
    · exact triple_conseq (triple_boundedRecord (clockFree_sameButClock st)) (fun _ h => h.2)
        (fun _ _ h => h) fun _ _ _ => trivial
    intro r
    apply triple_assume (fun _ h => h.1)
    rintro ⟨hseq, hbound, hfields⟩
    -- Either the record fits, or the session rolls over and the record is made again.
    split
    · refine triple_conseq (triple_commitRecord_outcome hmutator .same hactive hseq hbound hfields)
        ?_ (fun _ _ h => h) fun _ _ h => h
      rintro s ⟨_, h⟩
      rw [h]
      exact ⟨hget, hbackend, fun _ hp => by cases hp⟩
    · apply triple_bind (triple_conseq (triple_rollover_holds hopen hget hbackend)
        (fun _ h => h.2) (fun _ _ h => h) fun _ _ h => h)
      intro id
      refine ⟨fun s h => ?_⟩
      obtain ⟨next, prior, hlanded, hactive', hholds⟩ := h
      refine Triple.ended (P := Holds handle id next backend (some prior)) ?_ s hholds
      apply triple_bind (triple_conseq triple_requireActive (fun _ h => h) (fun _ _ h => h)
        fun _ _ _ => trivial)
      intro again
      apply triple_assume (fun s h => Option.some.inj (h.2.1.symm.trans h.2.2.session))
      rintro rfl
      apply triple_bind (triple_conseq
        (triple_boundedRecord (clockFree_holds handle id again backend (some prior)))
        (fun _ h => h.2.2) (fun _ _ h => h) fun _ _ _ => trivial)
      intro r'
      apply triple_assume (fun _ h => h.1)
      rintro ⟨hseq', hbound', hfields'⟩
      refine triple_require_bind (fun _ _ => trivial) ?_
      intro _
      exact triple_conseq
        (triple_commitRecord_outcome hmutator hlanded hactive' hseq' hbound' hfields')
        (fun _ h => h.2) (fun _ _ h => h) fun _ _ h => h

/-! ## UART units -/

/-- A record that states the facts of an oversized line. -/
def Limits (result : UartCaptureResult) (line : OversizedUartLine) (r : EvidenceRecord) : Prop :=
  ∃ facts, lineLimitExceededEvent result line = .ok facts ∧
    r.body = .lineLimitExceeded result.segmentId facts

/-- A unit prepared for an event in the current segment, with what its result found. -/
structure PreparedUnit (f : SessionFiles) (event : UartReceiveEvent) (result : UartCaptureResult)
    (unit : UartUnit) : Prop where
  current : f.metadata.currentSegmentId = some event.segmentId
  unitOf : UnitOf f event unit
  patterns : ∃ patterns growth,
    detectedPatternRecords result event.segmentId event.timestampUs = .ok patterns ∧
    v2PatternDocument f.detectedPatterns f.metadata.nextEvidenceSeq event patterns
      = .ok (unit.patterns, growth)
  hardware : List.Forall₂ (Limits result) result.oversizedLines unit.hardwareEvents

theorem ofEvidence_eq_ok {α : Type} {x : Except String α} {a : α} (h : ofEvidence x = .ok a) :
    x = .ok a := by
  cases x with
  | ok b => exact congrArg Except.ok (Except.ok.inj h)
  | error e => cases h

theorem triple_lineLimitRecords_limits {P : Store → Prop} (hP : ClockFree P)
    (result : UartCaptureResult) (start : ℕ) (lines : List OversizedUartLine) :
    Triple P (lineLimitRecords cfg result start lines)
      (fun rs s => List.Forall₂ (Limits result) lines rs ∧ P s) (fun _ => P) := by
  induction lines generalizing start with
  | nil => exact triple_pure fun _ h => ⟨.nil, h⟩
  | cons line lines ih =>
    apply triple_bind (R := fun r s => Limits result line r ∧ P s)
    · refine triple_lift_bind (fun _ _ _ h => h) ?_
      intro facts hfacts
      apply triple_bind (triple_readClock hP)
      intro recordedAt
      exact triple_pure fun _ h => ⟨⟨facts, ofEvidence_eq_ok hfacts, rfl⟩, h⟩
    intro r
    apply triple_assume (fun _ h => h.1)
    intro hr
    apply triple_bind
      (triple_conseq (ih (start + 1)) (fun _ h => h.2) (fun _ _ h => h) fun _ _ h => h)
    intro rs
    exact triple_pure fun _ h => ⟨.cons hr h.1, h.2⟩

theorem triple_uartUnit_prepared {P : Store → Prop} (hP : ClockFree P) {f : SessionFiles}
    {a : UartAdmission} {result : UartCaptureResult} (hresult : a.captureResult = some result) :
    Triple P (uartUnit cfg f a) (fun unit s => PreparedUnit f a.event result unit ∧ P s)
      (fun _ => P) := by
  refine ⟨fun s hs => ?_⟩
  have hprepared : Triple P (uartUnit cfg f a) _ _ := triple_uartUnit hP
  have hunit := hprepared.ended s hs
  have hrest : Triple P (uartUnit cfg f a)
      (fun unit s => (f.metadata.currentSegmentId = some a.event.segmentId ∧
        (∃ patterns growth,
          detectedPatternRecords result a.event.segmentId a.event.timestampUs = .ok patterns ∧
          v2PatternDocument f.detectedPatterns f.metadata.nextEvidenceSeq a.event patterns
            = .ok (unit.patterns, growth)) ∧
        List.Forall₂ (Limits result) result.oversizedLines unit.hardwareEvents) ∧ P s)
      (fun _ => P) := by
    refine triple_lift_bind (fun _ _ _ h => h) ?_
    intro patterns hpatterns
    rw [UartAdmission.patterns, hresult] at hpatterns
    refine triple_require_bind (fun _ h => h) ?_
    intro hcurrent
    apply triple_bind (triple_readClock hP)
    intro recordedAt
    refine triple_require_bind (fun _ h => h) ?_
    intro _
    refine triple_lift_bind (fun _ _ _ h => h) ?_
    intro document hdocument
    rw [hresult]
    apply triple_bind (triple_lineLimitRecords_limits hP result _ _)
    intro hardwareEvents
    exact triple_pure fun _ h => ⟨⟨hcurrent, ⟨patterns, document.2,
      ofEvidence_eq_ok hpatterns, hdocument⟩, h.1⟩, h.2⟩
  have hprepared := hrest.ended s hs
  rcases hrun : uartUnit cfg f a s with ⟨e | unit, s'⟩
  · rw [hrun] at hunit
    exact hunit
  · rw [hrun] at hunit hprepared
    obtain ⟨⟨hcurrent, hpatterns, hhardware⟩, hs'⟩ := hprepared
    exact ⟨⟨hcurrent, hunit.1, hpatterns, hhardware⟩, hs'⟩

/-- What admitting an event with its result leaves of the files. -/
def UartCommitted (event : UartReceiveEvent) (result : UartCaptureResult) (f : SessionFiles)
    (admission : V2EvidenceAdmission) (f' : SessionFiles) : Prop :=
  ∃ unit, PreparedUnit f event result unit ∧
    f' = (unit.write event.data f).withMetadata
      (unit.metadata event (some result) f.metadata) ∧
    admission.evidenceSeq = f.metadata.nextEvidenceSeq ∧
    admission.nextEvidenceSeq = f.metadata.nextEvidenceSeq + 1 + unit.hardwareEvents.length

theorem triple_commitUartUnit_outcome {event : UartReceiveEvent} {result : UartCaptureResult}
    {unit : UartUnit} {rolledOver : Bool} {id : SessionId} {next : SessionFiles}
    {prior : Option SessionFiles}
    (hlanded : Landed handle files backend rolledOver id next prior)
    (hactive : next.metadata.state = .active) (hprepared : PreparedUnit next event result unit) :
    Triple (Holds handle id next backend prior)
      (commitUartUnit cfg id next event (some result) unit rolledOver)
      (Outcome (fun f admission f' => admission.rolledOver = rolledOver ∧
        UartCommitted event result f admission f') handle files backend)
      (fun _ _ => True) := by
  obtain ⟨recordedAt, hrecord⟩ := hprepared.unitOf.record
  have hseq : unit.record.evidenceSeq = next.metadata.nextEvidenceSeq := by rw [hrecord]
  apply triple_bind (R := fun _ s =>
    Holds handle id ((unit.write event.data next).withMetadata
      (unit.metadata event (some result) next.metadata)) backend prior s)
  · apply triple_onPersistenceError
    · refine triple_require_bind (fun _ _ => trivial) ?_
      intro _
      refine triple_change fun s h => h.set (fun hsome => ?_) rfl rfl rfl
      cases hlanded with
      | same => cases hsome
      | successor hne _ _ => exact hne
    · intro e
      exact triple_trivial _
  · intro _
    refine triple_pure fun s hholds => ?_
    refine ⟨next, prior, _, hlanded, ⟨rfl, unit, hprepared, rfl, hseq, ?_⟩, ?_, hholds⟩
    · show unit.record.evidenceSeq + 1 + _ = _
      rw [hseq]
    · exact (admissionFrame_unit unit event (some result) next.metadata).state.trans hactive

/-- A receive event goes to the session with its result or, after a rollover, to the first
segment of the successor with the result made for that. -/
theorem triple_appendV2UartReceive_outcome {depth : ℕ} {event : UartReceiveEvent}
    {result rolloverResult : UartCaptureResult} {st : Store}
    (hopen : AllOpenHere st) (hknown : Known handle files backend st) :
    Triple (SameButClock st)
      (appendV2UartReceive cfg depth handle
        { event := event
          captureResult := some result
          rolloverCaptureResult := some rolloverResult })
      (Outcome (fun f admission f' =>
        if admission.rolledOver then
          UartCommitted { event with segmentId := 0 } rolloverResult f admission f'
        else UartCommitted event result f admission f') handle files backend)
      (fun _ _ => True) := by
  apply triple_bind (R := fun _ => SameButClock st)
  · refine triple_require_bind (fun _ _ => trivial) ?_
    intro _
    apply triple_bind (triple_conseq keeps_requireMatching (fun _ h => h) (fun _ _ h => h)
      fun _ _ _ => trivial)
    intro _
    refine triple_require_bind (fun _ _ => trivial) ?_
    intro _
    exact triple_require (fun _ _ h => h) fun _ _ _ => trivial
  intro _
  apply triple_bind (triple_requireActive_known hknown)
  intro current
  apply triple_assume (fun _ h => h.1)
  rintro ⟨rfl, hactive, hget, hbackend⟩
  apply triple_bind (triple_conseq
    (triple_uartUnit_prepared (clockFree_sameButClock st) rfl) (fun _ h => h.2)
    (fun _ _ h => h) fun _ _ _ => trivial)
  intro unit
  apply triple_assume (fun _ h => h.1)
  intro hprepared
  split
  · have hsame : Landed handle current backend false handle current none := .same
    refine triple_conseq (triple_commitUartUnit_outcome hsame hactive hprepared) ?_ ?_
      fun _ _ h => h
    · rintro s ⟨_, h⟩
      rw [h]
      exact ⟨hget, hbackend, fun _ hp => by cases hp⟩
    · refine fun admission s h => h.mono ?_
      rintro next admission f' ⟨hrolled, hcommitted⟩
      rw [hrolled]
      exact hcommitted
  · apply triple_bind (triple_conseq (triple_rollover_holds hopen hget hbackend)
      (fun _ h => h.2) (fun _ _ h => h) fun _ _ h => h)
    intro id
    refine ⟨fun s h => ?_⟩
    obtain ⟨next, prior, hlanded, hactive', hholds⟩ := h
    refine Triple.ended (P := Holds handle id next backend (some prior)) ?_ s hholds
    apply triple_bind (triple_conseq triple_requireActive (fun _ h => h) (fun _ _ h => h)
      fun _ _ _ => trivial)
    intro again
    apply triple_assume (fun s h => Option.some.inj (h.2.1.symm.trans h.2.2.session))
    rintro rfl
    -- The successor has one segment, for which the second result was made.
    have hsegment : currentV2SegmentId again.metadata = .ok 0 := by
      cases hlanded with
      | successor _ hfresh _ =>
        have hlast := congrArg List.getLast? hfresh.segments
        rw [List.getLast?_map] at hlast
        rw [currentV2SegmentId, Metadata.currentSegmentId, hlast]
        rfl
    refine triple_lift_bind (fun _ _ _ _ => trivial) ?_
    intro segmentId hok
    cases hsegment.symm.trans hok
    apply triple_bind (R := fun _ => Holds handle id again backend (some prior))
    · exact triple_conseq keeps_requireMatching (fun _ h => h.2.2) (fun _ _ h => h)
        fun _ _ _ => trivial
    intro _
    apply triple_bind (triple_conseq
      (triple_uartUnit_prepared (clockFree_holds handle id again backend (some prior)) rfl)
      (fun _ h => h) (fun _ _ h => h) fun _ _ _ => trivial)
    intro unit'
    apply triple_assume (fun _ h => h.1)
    intro hprepared'
    refine triple_require_bind (fun _ _ => trivial) ?_
    intro _
    refine triple_conseq (triple_commitUartUnit_outcome hlanded hactive' hprepared')
      (fun _ h => h.2) ?_ fun _ _ h => h
    refine fun admission s h => h.mono ?_
    rintro next admission f' ⟨hrolled, hcommitted⟩
    rw [hrolled]
    exact hcommitted

end Outcomes

/-! ## Records without receive or telemetry data -/

/-- A report about the receive buffer. -/
def RecordBody.isTelemetry : RecordBody → Bool
  | .bufferOverflow .. => true
  | .bufferStatus .. => true
  | _ => false

/-- Metadata that says the same about receive data, integrity and segments. -/
structure SameView (m m' : Metadata) : Prop where
  state : m'.state = m.state
  backendIntegrity : m'.backendIntegrity = m.backendIntegrity
  oversizedLineCount : m'.oversizedLineCount = m.oversizedLineCount
  nextEvidenceSeq : m'.nextEvidenceSeq = m.nextEvidenceSeq
  segments : m'.segments.map SegmentMetadata.segmentId = m.segments.map SegmentMetadata.segmentId

/-- One record more, which is not about receive data. -/
structure QuietRecord (f : SessionFiles) (admission : V2EvidenceAdmission) (f' : SessionFiles) :
    Prop where
  uart : f'.uartRaw = f.uartRaw ∧ f'.uartEvents = f.uartEvents
  patterns : f'.detectedPatterns = f.detectedPatterns
  hardware : ∃ rs, f'.hardwareEvents = f.hardwareEvents ++ rs ∧
    ∀ r ∈ rs, r.body.isTelemetry = false
  backendIntegrity : f'.metadata.backendIntegrity = f.metadata.backendIntegrity
  oversizedLineCount : f'.metadata.oversizedLineCount = f.metadata.oversizedLineCount
  segments : f'.metadata.segments.map SegmentMetadata.segmentId =
    f.metadata.segments.map SegmentMetadata.segmentId
  next : f'.metadata.nextEvidenceSeq = f.metadata.nextEvidenceSeq + 1
  admission : admission.evidenceSeq = f.metadata.nextEvidenceSeq ∧
    admission.nextEvidenceSeq = f.metadata.nextEvidenceSeq + 1

/-- A mutator that leaves the view alone. -/
def Unseen (mutator : MetadataMutator) : Prop :=
  ∀ m admission m', mutator m admission = .ok m' → SameView m m'

/-- Fields of records that are no telemetry. -/
def NoTelemetry (fields : RecordFields) : Prop :=
  ∀ handle m evidenceSeq body, fields handle m evidenceSeq = .ok body → body.isTelemetry = false

theorem Unseen.keepsActive {mutator : MetadataMutator} (h : Unseen mutator) :
    KeepsActive mutator := fun m admission m' hm => (h m admission m' hm).state

theorem quietRecord_of_committed {stream : EvidenceStream} {fields : RecordFields}
    {mutator : MetadataMutator} {handle : SessionId} {f f' : SessionFiles}
    {admission : V2EvidenceAdmission} (hfields : NoTelemetry fields) (hmutator : Unseen mutator)
    (h : Committed stream fields mutator handle f admission f') : QuietRecord f admission f' := by
  cases h with
  | @mk r m rolledOver hseq hbound hbody hm hsize =>
    have hview := hmutator _ _ _ hm
    have htelemetry := hfields _ _ _ _ hbody
    constructor
    case uart => cases stream <;> exact ⟨rfl, rfl⟩
    case patterns => cases stream <;> rfl
    case hardware =>
      cases stream with
      | operation => exact ⟨[], (List.append_nil _).symm, by simp⟩
      | hardware => exact ⟨[r], rfl, by simpa using htelemetry⟩
      | connection => exact ⟨[], (List.append_nil _).symm, by simp⟩
    case backendIntegrity => exact hview.backendIntegrity
    case oversizedLineCount => exact hview.oversizedLineCount
    case segments => exact hview.segments
    case next =>
      show m.nextEvidenceSeq = _
      rw [hview.nextEvidenceSeq, ← hseq]
    case admission => exact ⟨hseq, by rw [← hseq]⟩

theorem unseen_id : Unseen fun m _ => .ok m := by
  rintro m _ m' h
  cases h
  exact ⟨rfl, rfl, rfl, rfl, rfl⟩

theorem unseen_startMutator (operationId : String) (operationType : OperationType) :
    Unseen (startMutator operationId operationType) := by
  intro m admission m' h
  unfold startMutator at h
  split at h
  · cases h
  · cases h
    exact ⟨rfl, rfl, rfl, rfl, rfl⟩

theorem unseen_terminalMutator (operationId outcome : String) :
    Unseen (terminalMutator operationId outcome) := by
  rintro m _ m' h
  cases h
  exact ⟨rfl, rfl, rfl, rfl, rfl⟩

theorem unseen_attemptMutator (key : AttemptKey) : Unseen (attemptMutator key) := by
  intro m admission m' h
  unfold attemptMutator at h
  split at h
  · cases h
  · cases h
    exact ⟨rfl, rfl, rfl, rfl, rfl⟩

theorem unseen_resolveMutator (key : AttemptKey) : Unseen (resolveMutator key) := by
  rintro m _ m' h
  cases h
  exact ⟨rfl, rfl, rfl, rfl, rfl⟩

theorem unseen_connectionMutator (eventType : String) (disconnectedAt : Timestamp) :
    Unseen (connectionMutator eventType disconnectedAt) := by
  intro m admission m' h
  unfold connectionMutator at h
  split at h
  · cases h
    exact ⟨rfl, rfl, rfl, rfl, map_segmentId_modifyLastSegment (by intro s; rfl) _⟩
  · split at h
    · cases h
      exact ⟨rfl, rfl, rfl, rfl,
        map_segmentId_modifyLastSegment (segmentId_closeSegment disconnectedAt eventType) _⟩
    · cases h
      exact ⟨rfl, rfl, rfl, rfl, rfl⟩

/-- Fields that read the current segment. -/
theorem noTelemetry_of_segment {f : ℕ → RecordBody} (hf : ∀ n, (f n).isTelemetry = false) :
    NoTelemetry (fun _ m _ => do
      let segmentId ← currentV2SegmentId m
      pure (f segmentId)) := by
  intro handle m evidenceSeq body h
  obtain ⟨segmentId, _, h⟩ := except_bind_eq_ok.mp h
  cases h
  exact hf segmentId

section Records

variable {cfg : StoreConfig} {depth : ℕ} {handle : SessionId} {files : SessionFiles}
  {backend : BackendSnapshot} {st : Store}

theorem triple_append_quiet {stream : EvidenceStream} {fields : RecordFields}
    {mutator : MetadataMutator} (hfields : NoTelemetry fields) (hmutator : Unseen mutator)
    (hopen : AllOpenHere st) (hknown : Known handle files backend st) :
    Triple (SameButClock st) (appendRecord cfg depth handle stream fields mutator)
      (Outcome QuietRecord handle files backend) (fun _ _ => True) :=
  triple_conseq (triple_append_outcome hmutator.keepsActive hopen hknown) (fun _ h => h)
    (fun _ _ h => h.mono fun _ _ _ hc => quietRecord_of_committed hfields hmutator hc)
    fun _ _ h => h

/-- A check before an admission. -/
theorem triple_guard {α : Type} {Q : V2EvidenceAdmission → Store → Prop} {m : StoreProg α}
    {k : α → StoreProg V2EvidenceAdmission} (hm : ∀ I : Store → Prop, ClockFree I → Keeps I m)
    (hk : ∀ a, Triple (SameButClock st) (k a) Q fun _ _ => True) :
    Triple (SameButClock st) (m >>= k) Q fun _ _ => True :=
  triple_bind (triple_conseq (hm _ (clockFree_sameButClock st)) (fun _ h => h) (fun _ _ h => h)
    fun _ _ _ => trivial) hk

theorem triple_appendV2ConnectionEvent_outcome {eventType : String} {segmentId : Option ℕ}
    {detail : Json} (hopen : AllOpenHere st) (hknown : Known handle files backend st) :
    Triple (SameButClock st)
      (appendV2ConnectionEvent cfg depth handle eventType segmentId detail)
      (Outcome QuietRecord handle files backend) (fun _ _ => True) := by
  apply triple_guard fun _ _ => keeps_validateV2Identifier
  intro _
  apply triple_guard fun _ _ => keeps_requireActive
  intro current
  apply triple_guard fun _ _ => ?_
  swap
  · unfold requireSegmentOf
    split
    · exact triple_pure fun _ h => h
    · exact keeps_requireCurrentSegment
  intro _
  apply triple_guard fun _ hI => triple_readClock hI
  intro disconnectedAt
  refine triple_append_quiet ?_ (unseen_connectionMutator eventType disconnectedAt) hopen hknown
  intro handle m evidenceSeq body h
  cases segmentId with
  | none =>
    cases h
    rfl
  | some segmentId =>
    obtain ⟨_, _, h⟩ := except_bind_eq_ok.mp h
    cases h
    rfl

theorem triple_appendBoundaryFact_outcome {line : UartCaptureResult × OversizedUartLine}
    (hopen : AllOpenHere st) (hknown : Known handle files backend st) :
    Triple (SameButClock st) (appendBoundaryFact cfg depth handle line)
      (Outcome QuietRecord handle files backend) (fun _ _ => True) := by
  refine triple_lift_bind (fun _ _ _ _ => trivial) ?_
  intro facts _
  exact triple_append_quiet (noTelemetry_of_segment fun _ => by rfl) unseen_id hopen hknown

/-! ## Actions and operations -/

/-- What follows an admission only cleans up. -/
theorem triple_outcome_afterwards {K : SessionFiles → V2EvidenceAdmission → SessionFiles → Prop}
    {m : StoreProg Unit} {admission : V2EvidenceAdmission}
    (hm : Keeps (Outcome K handle files backend admission) m) :
    Triple (Outcome K handle files backend admission) (m >>= fun _ => pure admission)
      (Outcome K handle files backend) (fun _ _ => True) := by
  apply triple_bind (triple_conseq hm (fun _ h => h) (fun _ _ h => h) fun _ _ _ => trivial)
  intro _
  exact triple_pure fun _ h => h

theorem keeps_extendLeaseOf_outcome {K : SessionFiles → V2EvidenceAdmission → SessionFiles → Prop}
    {admission : V2EvidenceAdmission} {id : SessionId} {operationId : String} :
    Keeps (Outcome K handle files backend admission) (extendLeaseOf id operationId) := by
  apply triple_look
  intro lease
  cases lease with
  | none => exact triple_pure fun _ h => h.2
  | some lease =>
    apply triple_bind
      (triple_conseq (triple_sessionFiles (I := Outcome K handle files backend admission))
        (fun _ h => h.2) (fun _ _ h => h.2) fun _ _ h => h)
    intro current
    split
    · exact triple_raise fun _ h => h
    · refine triple_require_bind (fun _ h => h) ?_
      intro _
      refine triple_change fun s h => ?_
      obtain ⟨next, prior, f', hlanded, hK, hactive, hholds⟩ := h
      exact ⟨next, prior, f', hlanded, hK, hactive, hholds.session, hholds.snapshot,
        hholds.prior⟩

theorem triple_startV2Operation_outcome {operationId : String} {operationType : OperationType}
    {parameters : Json} (hopen : AllOpenHere st) (hknown : Known handle files backend st) :
    Triple (SameButClock st)
      (startV2Operation cfg depth handle operationId operationType parameters)
      (Outcome QuietRecord handle files backend) (fun _ _ => True) := by
  apply triple_guard fun _ _ => keeps_validateV2Identifier
  intro _
  apply triple_guard fun _ _ => keeps_requireActive
  intro current
  apply triple_guard fun _ _ => keeps_requireUnusedOperation
  intro _
  refine triple_append_quiet ?_ (unseen_startMutator operationId operationType) hopen hknown
  intro handle m evidenceSeq body h
  cases h
  rfl

theorem triple_completeV2Operation_outcome {operationId : String} {result : OperationResult}
    (hopen : AllOpenHere st) (hknown : Known handle files backend st) :
    Triple (SameButClock st) (completeV2Operation cfg depth handle operationId result)
      (Outcome QuietRecord handle files backend) (fun _ _ => True) := by
  apply triple_guard fun _ _ => keeps_validateV2Identifier
  intro _
  apply triple_guard fun _ _ => keeps_v2TerminalProjection
  intro error
  apply triple_guard fun _ _ => keeps_requireActive
  intro current
  refine triple_lift_bind (fun _ _ _ _ => trivial) ?_
  intro _ _
  apply triple_bind (triple_append_quiet ?_ (unseen_terminalMutator operationId result.outcome)
    hopen hknown)
  · intro admission
    exact triple_outcome_afterwards keeps_extendLeaseOf_outcome
  · intro handle m evidenceSeq body h
    obtain ⟨_, _, h⟩ := except_bind_eq_ok.mp h
    cases h
    rfl

theorem triple_appendAttempt_outcome {key : AttemptKey} {operationId : Option String}
    {fields : RecordFields} (hfields : NoTelemetry fields) (hopen : AllOpenHere st)
    (hknown : Known handle files backend st) :
    Triple (SameButClock st) (appendAttempt cfg depth handle key operationId fields)
      (Outcome QuietRecord handle files backend) (fun _ _ => True) := by
  apply triple_guard fun _ _ => triple_conseq triple_sessionFiles (fun _ h => h)
    (fun _ _ h => h.2) fun _ _ h => h
  intro journal
  refine triple_lift_bind (fun _ _ _ _ => trivial) ?_
  intro seen _
  refine triple_require_bind (fun _ _ => trivial) ?_
  intro _
  apply triple_guard fun _ _ => keeps_requireActive
  intro current
  apply triple_guard fun _ _ => ?_
  swap
  · unfold requireV2OperationActive
    split
    · exact triple_pure fun _ h => h
    · exact triple_require (fun _ _ h => h) fun _ _ h => h
  intro _
  refine triple_require_bind (fun _ _ => trivial) ?_
  intro _
  exact triple_append_quiet hfields (unseen_attemptMutator key) hopen hknown

theorem triple_appendResult_outcome {key : AttemptKey} {body : PendingAttempt → RecordBody}
    (hbody : ∀ attempt, (body attempt).isTelemetry = false) (hopen : AllOpenHere st)
    (hknown : Known handle files backend st) :
    Triple (SameButClock st) (appendResult cfg depth handle key body)
      (Outcome QuietRecord handle files backend) (fun _ _ => True) := by
  apply triple_guard fun _ _ => keeps_requireActive
  intro current
  refine triple_lift_bind (fun _ _ _ _ => trivial) ?_
  intro _ _
  apply triple_bind (triple_append_quiet ?_ (unseen_resolveMutator key) hopen hknown)
  · intro admission
    exact triple_outcome_afterwards
      (keeps_applyRetention fun _ _ hget hended h => h.removeSession hget hended)
  · intro handle m evidenceSeq record h
    obtain ⟨attempt, _, h⟩ := except_bind_eq_ok.mp h
    cases h
    exact hbody attempt

/-- Every call the recorder preflights, receive and telemetry calls apart. -/
theorem triple_preflightCall_outcome {c : PreflightCall}
    (hquiet : ∀ event result rollover, c ≠ .uartReceive event result rollover)
    (hoverflow : ∀ event dropped rollover, c ≠ .bufferOverflow event dropped rollover)
    (hstatus : ∀ event integrity, c ≠ .bufferStatus event integrity)
    (hopen : AllOpenHere st) (hknown : Known handle files backend st) :
    Triple (SameButClock st) (c.append cfg depth handle)
      (Outcome QuietRecord handle files backend) (fun _ _ => True) := by
  cases c with
  | uartReceive event result rollover => exact absurd rfl (hquiet event result rollover)
  | bufferOverflow event dropped rollover => exact absurd rfl (hoverflow event dropped rollover)
  | bufferStatus event integrity => exact absurd rfl (hstatus event integrity)
  | startOperation operationId operationType parameters =>
    exact triple_startV2Operation_outcome hopen hknown
  | completeOperation operationId result => exact triple_completeV2Operation_outcome hopen hknown
  | uartTxAttempt attemptId data operationId transformation =>
    apply triple_guard fun _ _ => keeps_validateV2Identifier
    intro _
    apply triple_guard fun _ _ => keeps_validateOperationId
    intro _
    refine triple_require_bind (fun _ _ => trivial) ?_
    intro _
    exact triple_appendAttempt_outcome (noTelemetry_of_segment fun _ => by rfl) hopen hknown
  | uartTxResult attemptId status acceptedBytes =>
    apply triple_guard fun _ _ => keeps_validateV2Identifier
    intro _
    apply triple_guard fun _ _ => keeps_validateV2Identifier
    intro _
    exact triple_appendResult_outcome (fun _ => rfl) hopen hknown
  | controlAttempt attemptId role provider parameters operationId =>
    apply triple_guard fun _ _ => keeps_validateV2Identifier
    intro _
    apply triple_guard fun _ _ => keeps_validateV2Identifier
    intro _
    apply triple_guard fun _ _ => keeps_validateV2Identifier
    intro _
    apply triple_guard fun _ _ => keeps_validateOperationId
    intro _
    exact triple_appendAttempt_outcome (noTelemetry_of_segment fun _ => by rfl) hopen hknown
  | controlResult attemptId status deviceTimestampUs =>
    apply triple_guard fun _ _ => keeps_validateV2Identifier
    intro _
    apply triple_guard fun _ _ => keeps_validateV2Identifier
    intro _
    exact triple_appendResult_outcome (fun _ => rfl) hopen hknown

end Records
