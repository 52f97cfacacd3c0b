/-
# Reported and recorded loss

How many bytes were lost is counted twice: the recorder keeps counters while it records, and
the loss of a session is recomputed from its stored reports.  While no rollover left the
counters behind, the two agree.
-/
import DutchMate.LossWindows
import DutchMate.RecorderRuns

/-! ## What the recorder accounts for -/

/-- The initial integrity of a backend. -/
def integrityForBackend : BackendMode → UartIntegrity
  | .basic => ⟨.notObservable, none, none⟩
  | .enhanced => ⟨.noneReported, some debugHelperRxBuffer, some 0⟩

/-- The integrity that counted windows amount to. -/
def IntegrityWindows.integrity (windows : IntegrityWindows) : UartIntegrity :=
  ⟨if windows.reportedLoss then .lossReported else .noneReported, some debugHelperRxBuffer,
    some windows.lostBytes⟩

def SessionFiles.windows (f : SessionFiles) : IntegrityWindows := countedWindows f.hardwareEvents

/-- The segments of a session are numbered up to the current one, and its reports are theirs. -/
structure Numbered (n : ℕ) (f : SessionFiles) : Prop where
  segments : f.metadata.segments.map SegmentMetadata.segmentId = List.range (n + 1)
  reports : ∀ r ∈ f.hardwareEvents, ∀ segmentId report,
    r.body.report? = some (segmentId, report) → segmentId ≤ n
  rises : TotalsRise f.hardwareEvents

section Files

variable {n : ℕ} {f f' : SessionFiles}

theorem Numbered.length (h : Numbered n f) : f.metadata.segments.length = n + 1 := by
  simpa using congrArg List.length h.segments

theorem Numbered.current (h : Numbered n f) : f.metadata.currentSegmentId = some n := by
  have hlast := congrArg List.getLast? h.segments
  rw [List.getLast?_map, List.range_succ, List.getLast?_concat] at hlast
  exact hlast

/-- A segment no record reports about has an empty window. -/
theorem getD_countedWindows {records : List EvidenceRecord} {segmentId : ℕ}
    (h : ∀ r ∈ records, ∀ k report, r.body.report? = some (k, report) → k ≠ segmentId) :
    (countedWindows records).getD segmentId {} = {} := by
  induction records using List.reverseRecOn with
  | nil => rfl
  | append_singleton records record ih =>
    have hold := ih fun r hr => h r (List.mem_append_left _ hr)
    have hrecord := h record (List.mem_append_right _ (List.mem_singleton_self _))
    rw [countedWindows_append, List.foldl_cons, List.foldl_nil]
    cases hreport : record.body.report? with
    | none => simpa [enterRecord, hreport] using hold
    | some entry =>
      rw [enterRecord_zero hreport, Dict.getD_set, if_neg (Ne.symm (hrecord entry.1 entry.2 hreport))]
      exact hold

theorem report?_eq_none {body : RecordBody} (h : body.isTelemetry = false) :
    body.report? = none := by
  cases body <;> first | rfl | cases h

/-- Records without reports change neither numbers nor windows. -/
theorem Numbered.quiet (h : Numbered n f)
    (hhardware : ∃ rs, f'.hardwareEvents = f.hardwareEvents ++ rs ∧
      ∀ r ∈ rs, r.body.isTelemetry = false)
    (hsegments : f'.metadata.segments.map SegmentMetadata.segmentId =
      f.metadata.segments.map SegmentMetadata.segmentId) :
    Numbered n f' ∧ f'.windows = f.windows := by
  obtain ⟨rs, hrs, hquiet⟩ := hhardware
  have hnone : ∀ r ∈ rs, r.body.report? = none := fun r hr => report?_eq_none (hquiet r hr)
  have hrises : ∀ records, (∀ r ∈ records, r.body.report? = none) →
      TotalsRise (f.hardwareEvents ++ records) := by
    intro records hrecords
    induction records using List.reverseRecOn with
    | nil => simpa using h.rises
    | append_singleton records record ih =>
      rw [← List.append_assoc]
      refine (ih fun r hr => hrecords r (List.mem_append_left _ hr)).concat ?_
      intro segmentId t o hreport
      rw [hrecords record (List.mem_append_right _ (List.mem_singleton_self _))] at hreport
      cases hreport
  refine ⟨⟨hsegments.trans h.segments, fun r hr segmentId report hreport => ?_, ?_⟩, ?_⟩
  · rw [hrs] at hr
    rcases List.mem_append.mp hr with hr | hr
    · exact h.reports r hr segmentId report hreport
    · rw [hnone r hr] at hreport
      cases hreport
  · rw [hrs]
    exact hrises rs hnone
  · rw [SessionFiles.windows, hrs]
    exact countedWindows_quiet hnone

/-- A report of the current segment is counted in its window. -/
theorem Numbered.telemetry (h : Numbered n f) {body : ℕ → RecordBody} {report : BufferReport}
    {droppedBytes : ℕ} {reportedLoss : Bool} {admission : V2EvidenceAdmission}
    (htelemetry : TelemetryRecord body droppedBytes reportedLoss f admission f')
    (hbody : (body n).report? = some (n, report))
    (hrises : ∀ t o, report = .status t o → ∀ b, (f.windows.getD n {}).statusBaseline = some b →
      b.1 ≤ t ∧ b.2 ≤ o) :
    Numbered n f' ∧ f'.windows = f.windows.set n ((f.windows.getD n {}).count report) := by
  obtain ⟨r, segmentId, hcurrent, hhardware, _, hr⟩ := htelemetry.hardware
  cases h.current.symm.trans hcurrent
  have hreport : r.body.report? = some (n, report) := by rw [hr, hbody]
  refine ⟨⟨htelemetry.segments.trans h.segments, fun r' hr' k report' hreport' => ?_, ?_⟩, ?_⟩
  · rw [hhardware] at hr'
    rcases List.mem_append.mp hr' with hr' | hr'
    · exact h.reports r' hr' k report' hreport'
    · cases List.mem_singleton.mp hr'
      cases hreport.symm.trans hreport'
      exact le_rfl
  · rw [hhardware]
    refine h.rises.concat fun k t o hstatus b hb => ?_
    cases hreport.symm.trans hstatus
    exact hrises t o rfl b hb
  · rw [SessionFiles.windows, hhardware]
    exact countedWindows_report hreport

/-- The next segment has no report yet. -/
theorem Numbered.opened (h : Numbered n f) (hopened : SegmentOpened f f') :
    Numbered (n + 1) f' ∧ f'.windows = f.windows ∧ f'.windows.getD (n + 1) {} = {} := by
  have hhardware := hopened.hardware
  have hwindows : f'.windows = f.windows := by
    rw [SessionFiles.windows, hhardware]
    rfl
  refine ⟨⟨?_, ?_, hhardware ▸ h.rises⟩, hwindows, ?_⟩
  · rw [hopened.segments, h.segments, h.length, List.range_succ (n := n + 1)]
  · rw [hhardware]
    exact fun r hr segmentId report hreport =>
      (h.reports r hr segmentId report hreport).trans (Nat.le_succ n)
  · rw [hwindows]
    exact getD_countedWindows fun r hr k report hreport =>
      Nat.ne_of_lt (Nat.lt_succ_of_le (h.reports r hr k report hreport))

/-- A blank session has counted nothing. -/
theorem Blank.numbered {backend : BackendSnapshot} (h : Blank backend f) :
    Numbered 0 f ∧ f.windows = ∅ := by
  have hnone : ∀ r ∈ f.hardwareEvents, r.body.report? = none := fun r hr =>
    report?_eq_none (h.noTelemetry r hr)
  have hempty : Numbered 0 { f with hardwareEvents := [] } :=
    ⟨h.segments, fun _ hr => absurd hr List.not_mem_nil, totalsRise_nil⟩
  exact hempty.quiet ⟨f.hardwareEvents, rfl, h.noTelemetry⟩ rfl

theorem EndedFiles.numbered (hended : EndedFiles f f') (h : Numbered n f) :
    Numbered n f' ∧ f'.windows = f.windows := by
  refine h.quiet ⟨[], ?_, by simp⟩ hended.segments
  rw [hended.evidence, List.append_nil]

/-- What was committed of a receive event reports nothing. -/
theorem UartCommitted.quiet {event : UartReceiveEvent} {result : UartCaptureResult}
    {admission : V2EvidenceAdmission} (h : UartCommitted event result f admission f') :
    (∃ rs, f'.hardwareEvents = f.hardwareEvents ++ rs ∧ ∀ r ∈ rs, r.body.isTelemetry = false) ∧
      f'.metadata.segments.map SegmentMetadata.segmentId =
        f.metadata.segments.map SegmentMetadata.segmentId ∧
      f'.metadata.backendIntegrity = f.metadata.backendIntegrity := by
  obtain ⟨unit, hprepared, rfl, _⟩ := h
  refine ⟨⟨unit.hardwareEvents, rfl, fun r hr => ?_⟩,
    Metadata.map_segmentId_recordSegmentTimestamp _ _ _, rfl⟩
  obtain ⟨segmentId, facts, hbody⟩ := hprepared.unitOf.lineLimits r hr
  rw [hbody]
  rfl

end Files

/-- The health of the recorder and the stored integrity are what the windows amount to. -/
structure AccountsFor (r : EvidenceRecorder) (f : SessionFiles) : Prop where
  stored : f.metadata.backendIntegrity = f.windows.integrity
  health : r.integrity = f.windows.integrity
  dropped : r.sessionDroppedBytes = f.windows.lostBytes

/-- The counters of the connection are the window of the current segment. -/
structure Follows (r : EvidenceRecorder) (f : SessionFiles) (n : ℕ) : Prop where
  explicit : (f.windows.getD n {}).explicitDroppedBytes = r.explicitOverflowBytes
  baseline : (f.windows.getD n {}).statusBaseline = r.statusBaseline
  start : r.connectionStartDroppedBytes + (f.windows.getD n {}).lostBytes = f.windows.lostBytes

/-- A session about which nothing was reported. -/
structure Untold (f : SessionFiles) : Prop where
  windows : f.windows = ∅
  stored : f.metadata.backendIntegrity = integrityForBackend .enhanced

/-- While a replacement is open: the new segment has no report, and the session is the old
one, accounted for, or another without reports. -/
structure Waiting (replacement : Replacement) (n : ℕ) (c : Recording) : Prop where
  snapshot : replacement.snapshot.integrity = integrityForBackend .enhanced
  detached : c.recorder.receiving = false
  untold : c.files.windows.getD n {} = {}
  moved : replacement.newOwnershipSession = true ∨
    c.recorder.handle ≠ replacement.previousSessionId → Untold c.files
  stayed : replacement.newOwnershipSession = false →
    c.recorder.handle = replacement.previousSessionId → c.recorder.resetMissed = false →
      AccountsFor c.recorder c.files

/-- The accounts of a recording.  `last` are the last totals the connection reported. -/
structure LossAccounts (last : Option (ℕ × ℕ)) (n : ℕ) (c : Recording) : Prop where
  numbered : Numbered n c.files
  backend : c.backend.integrity = integrityForBackend .enhanced
  snapshot : c.recorder.snapshot.integrity = integrityForBackend .enhanced
  last : ∀ b, (c.files.windows.getD n {}).statusBaseline = some b → ∃ t, last = some t ∧
    b.1 ≤ t.1 ∧ b.2 ≤ t.2 ∧ (c.files.windows.getD n {}).statusDroppedBytes ≤ t.1 - b.1
  accountsFor : c.recorder.replacement = none → c.recorder.resetMissed = false →
    AccountsFor c.recorder c.files ∧ Follows c.recorder c.files n
  waiting : ∀ replacement, c.recorder.replacement = some replacement → Waiting replacement n c

/-- Counters that did not move. -/
structure CountersStay (r r' : EvidenceRecorder) : Prop where
  handle : r'.handle = r.handle
  receiving : r'.receiving = true → r.receiving = true
  replacement : r'.replacement = r.replacement
  snapshot : r'.snapshot = r.snapshot
  integrity : r'.integrity = r.integrity
  sessionDroppedBytes : r'.sessionDroppedBytes = r.sessionDroppedBytes
  connectionStartDroppedBytes : r'.connectionStartDroppedBytes = r.connectionStartDroppedBytes
  explicitOverflowBytes : r'.explicitOverflowBytes = r.explicitOverflowBytes
  statusBaseline : r'.statusBaseline = r.statusBaseline
  resetMissed : r'.resetMissed = r.resetMissed

/-- Counters of a session about which nothing was reported. -/
structure ZeroCounters (r : EvidenceRecorder) : Prop where
  integrity : r.integrity = integrityForBackend .enhanced
  sessionDroppedBytes : r.sessionDroppedBytes = 0
  connectionStartDroppedBytes : r.connectionStartDroppedBytes = 0
  explicitOverflowBytes : r.explicitOverflowBytes = 0
  statusBaseline : r.statusBaseline = none

/-- The totals a connection reported last. -/
def RecorderCall.totalsAfter (last : Option (ℕ × ℕ)) : RecorderCall → Option (ℕ × ℕ)
  | .status event => some (event.droppedBytesTotal, event.overflowEvents)
  | .connectReplacement => none
  | _ => last

/-- A call is one of an enhanced connection whose totals do not fall. -/
def RecorderCall.Rises (last : Option (ℕ × ℕ)) : RecorderCall → Prop
  | .status event =>
    ∀ t, last = some t → t.1 ≤ event.droppedBytesTotal ∧ t.2 ≤ event.overflowEvents
  | .openReplacement snapshot _ => snapshot.integrity = integrityForBackend .enhanced
  | _ => True

/-- Calls of enhanced connections; within a connection the reported totals do not fall. -/
def TotalsRiseFrom : Option (ℕ × ℕ) → List RecorderCall → Prop
  | _, [] => True
  | last, call :: calls => call.Rises last ∧ TotalsRiseFrom (call.totalsAfter last) calls

section Steps

variable {last : Option (ℕ × ℕ)} {n : ℕ} {c c' : Recording}

theorem ZeroCounters.accountsFor {r : EvidenceRecorder} {f : SessionFiles} (h : ZeroCounters r)
    (hf : Untold f) : AccountsFor r f ∧ ∀ n, Follows r f n := by
  have hwindows := hf.windows
  refine ⟨⟨?_, ?_, ?_⟩, fun n => ⟨?_, ?_, ?_⟩⟩
  · rw [hf.stored, hwindows]
    rfl
  · rw [h.integrity, hwindows]
    rfl
  · rw [h.sessionDroppedBytes, hwindows]
    rfl
  · rw [h.explicitOverflowBytes, hwindows]
    rfl
  · rw [h.statusBaseline, hwindows]
    rfl
  · rw [h.connectionStartDroppedBytes, hwindows]
    rfl

/-- Nothing is reported, and no counter moves. -/
theorem LossAccounts.same (h : LossAccounts last n c) (hr : CountersStay c.recorder c'.recorder)
    (hbackend : c'.backend = c.backend)
    (hf : Numbered n c'.files ∧ c'.files.windows = c.files.windows)
    (hstored : c'.files.metadata.backendIntegrity = c.files.metadata.backendIntegrity) :
    LossAccounts last n c' := by
  obtain ⟨hnumbered, hwindows⟩ := hf
  have hagrees : AccountsFor c.recorder c.files → AccountsFor c'.recorder c'.files := fun ha =>
    ⟨by rw [hstored, hwindows]; exact ha.stored, by rw [hr.integrity, hwindows]; exact ha.health,
      by rw [hr.sessionDroppedBytes, hwindows]; exact ha.dropped⟩
  refine ⟨hnumbered, by rw [hbackend]; exact h.backend, by rw [hr.snapshot]; exact h.snapshot,
    by rw [hwindows]; exact h.last, fun hnone hreset => ?_, fun replacement hreplacement => ?_⟩
  · obtain ⟨ha, hfollows⟩ := h.accountsFor (hr.replacement ▸ hnone) (hr.resetMissed ▸ hreset)
    refine ⟨hagrees ha, ?_, ?_, ?_⟩
    · rw [hwindows, hr.explicitOverflowBytes]
      exact hfollows.explicit
    · rw [hwindows, hr.statusBaseline]
      exact hfollows.baseline
    · rw [hwindows, hr.connectionStartDroppedBytes]
      exact hfollows.start
  · have hwaiting := h.waiting replacement (hr.replacement ▸ hreplacement)
    refine ⟨hwaiting.snapshot, ?_, ?_, fun hmoved => ?_, fun hold hhandle hreset => ?_⟩
    · by_contra hattached
      have hbefore := hr.receiving (Bool.not_eq_false _ ▸ hattached)
      rw [hwaiting.detached] at hbefore
      cases hbefore
    · rw [hwindows]
      exact hwaiting.untold
    · rw [hr.handle] at hmoved
      have huntold := hwaiting.moved hmoved
      exact ⟨hwindows.trans huntold.windows, hstored.trans huntold.stored⟩
    · rw [hr.handle] at hhandle
      rw [hr.resetMissed] at hreset
      exact hagrees (hwaiting.stayed hold hhandle hreset)

/-- Higher totals are reported. -/
theorem LossAccounts.raise {t' : ℕ × ℕ} (h : LossAccounts last n c)
    (hlast : ∀ t, last = some t → t.1 ≤ t'.1 ∧ t.2 ≤ t'.2) : LossAccounts (some t') n c := by
  refine ⟨h.numbered, h.backend, h.snapshot, fun b hb => ?_, h.accountsFor, h.waiting⟩
  obtain ⟨t, ht, hdropped, hoverflows, hobserved⟩ := h.last b hb
  obtain ⟨htotal, htotal'⟩ := hlast t ht
  exact ⟨t', rfl, hdropped.trans htotal, hoverflows.trans htotal',
    hobserved.trans (Nat.sub_le_sub_right htotal _)⟩

/-- A session without reports, with counters that were reset or a reset that is missed. -/
theorem LossAccounts.moved (h : LossAccounts last n c)
    (hreplacement : c'.recorder.replacement = c.recorder.replacement)
    (hreceiving : c'.recorder.receiving = true → c.recorder.receiving = true)
    (hsnapshot : c'.recorder.snapshot = c.recorder.snapshot) (hbackend : c'.backend = c.backend)
    (hr : c'.recorder.resetMissed = false → ZeroCounters c'.recorder)
    (hnumbered : Numbered 0 c'.files) (huntold : Untold c'.files) : LossAccounts last 0 c' := by
  have hempty : c'.files.windows.getD 0 {} = {} := by
    rw [huntold.windows]
    rfl
  refine ⟨hnumbered, by rw [hbackend]; exact h.backend, by rw [hsnapshot]; exact h.snapshot,
    fun b hb => ?_, fun _ hreset => ?_, fun replacement hsome => ?_⟩
  · rw [hempty] at hb
    cases hb
  · exact ⟨((hr hreset).accountsFor huntold).1, ((hr hreset).accountsFor huntold).2 0⟩
  · have hwaiting := h.waiting replacement (hreplacement ▸ hsome)
    refine ⟨hwaiting.snapshot, ?_, hempty, fun _ => huntold, fun _ _ hreset => ?_⟩
    · by_contra hattached
      have hbefore := hreceiving (Bool.not_eq_false _ ▸ hattached)
      rw [hwaiting.detached] at hbefore
      cases hbefore
    · exact ((hr hreset).accountsFor huntold).1

theorem countersStay_follow {r : EvidenceRecorder} {admission : V2EvidenceAdmission} (reset : Bool)
    (hrolled : admission.rolledOver = false) (hid : admission.sessionId = r.handle) :
    CountersStay r (r.follow reset admission) := by
  have hfollow : r.follow reset admission = r.publishAdmission admission := by
    simp [EvidenceRecorder.follow, EvidenceRecorder.adopt, hrolled]
  have hmissed : (r.publishAdmission admission).resetMissed = r.resetMissed := by
    simp [EvidenceRecorder.publishAdmission, hrolled]
  rw [hfollow]
  exact ⟨hid, id, rfl, rfl, rfl, rfl, rfl, rfl, rfl, hmissed⟩

/-- After a rollover the counters are reset to the connection, or the reset is missed. -/
theorem zeroCounters_follow {r : EvidenceRecorder} {admission : V2EvidenceAdmission} (reset : Bool)
    (hrolled : admission.rolledOver = true)
    (hsnapshot : r.snapshot.integrity = integrityForBackend .enhanced)
    (hreset : (r.follow reset admission).resetMissed = false) :
    ZeroCounters (r.follow reset admission) := by
  cases reset with
  | false => simp [EvidenceRecorder.follow, EvidenceRecorder.publishAdmission, hrolled] at hreset
  | true =>
    have hfollow : r.follow true admission =
        (r.publishAdmission admission).resetIntegrity r.snapshot.integrity := by
      simp [EvidenceRecorder.follow, EvidenceRecorder.adopt, hrolled,
        EvidenceRecorder.resetIntegrityAfterRollover, EvidenceRecorder.publishAdmission]
    rw [hfollow, hsnapshot]
    exact ⟨rfl, rfl, rfl, rfl, rfl⟩

theorem connection_follow (r : EvidenceRecorder) (reset : Bool)
    (admission : V2EvidenceAdmission) : (r.follow reset admission).snapshot = r.snapshot := by
  unfold EvidenceRecorder.follow EvidenceRecorder.adopt
  split
  · split <;> rfl
  · rfl

/-- A session without reports, before anything happens in it. -/
theorem LossAccounts.landed {last : Option (ℕ × ℕ)} {id : SessionId} {next : SessionFiles}
    (h : LossAccounts last n c) (hfresh : Fresh id c.backend next) :
    Numbered 0 next ∧ Untold next := by
  obtain ⟨hnumbered, hwindows⟩ := hfresh.blank.numbered
  exact ⟨hnumbered, hwindows, hfresh.backendIntegrity.trans h.backend⟩

/-- Where an admission landed that reports nothing. -/
theorem LossAccounts.lands {rolledOver : Bool} {id : SessionId} {next f : SessionFiles}
    {ended : List (SessionId × SessionFiles)} {r : EvidenceRecorder} (h : LossAccounts last n c)
    (hlands : Lands c c.backend rolledOver id next ended)
    (hquiet : (∃ rs, f.hardwareEvents = next.hardwareEvents ++ rs ∧
        ∀ r ∈ rs, r.body.isTelemetry = false) ∧
      f.metadata.segments.map SegmentMetadata.segmentId =
        next.metadata.segments.map SegmentMetadata.segmentId ∧
      f.metadata.backendIntegrity = next.metadata.backendIntegrity)
    (hsame : rolledOver = false → id = c.recorder.handle → CountersStay c.recorder r)
    (hconnection : SameConnection c.recorder { r with processor := c.recorder.processor })
    (hsnapshot : r.snapshot = c.recorder.snapshot)
    (hzero : rolledOver = true → r.resetMissed = false → ZeroCounters r) :
    ∃ n', LossAccounts last n' ⟨r, f, c.backend, ended⟩ := by
  obtain ⟨hhardware, hsegments, hstored⟩ := hquiet
  cases hlands with
  | same =>
    exact ⟨n, h.same (hsame rfl rfl) rfl (h.numbered.quiet hhardware hsegments) hstored⟩
  | successor hne hfresh hprior =>
    obtain ⟨hnumbered, huntold⟩ := h.landed hfresh
    obtain ⟨hnumbered', hwindows⟩ := hnumbered.quiet hhardware hsegments
    refine ⟨0, h.moved hconnection.replacement ?_ hsnapshot rfl (hzero rfl) hnumbered'
      ⟨hwindows.trans huntold.windows, hstored.trans huntold.stored⟩⟩
    intro hattached
    exact hconnection.receiving.symm.trans hattached

theorem LossAccounts.step (h : LossAccounts last n c) (hstep : RecordingStep c c') :
    ∃ n', LossAccounts last n' c' := by
  cases hstep with
  | cut hreceiving =>
    exact ⟨n, h.same ⟨rfl, hreceiving, rfl, rfl, rfl, rfl, rfl, rfl, rfl, rfl⟩ rfl
      ⟨h.numbered, rfl⟩ rfl⟩
  | @quiet reset admission next files ended hlands hquiet =>
    have hfollow := sameConnection_follow c.recorder reset admission
    exact h.lands hlands ⟨hquiet.hardware, hquiet.segments, hquiet.backendIntegrity⟩
      (countersStay_follow reset) ⟨hfollow.receiving, hfollow.replacement, rfl⟩
      (connection_follow _ _ _) fun hrolled => zeroCounters_follow reset hrolled h.snapshot
  | failed hended =>
    exact ⟨n, h.same ⟨rfl, id, rfl, rfl, rfl, rfl, rfl, rfl, rfl, rfl⟩ rfl
      (hended.numbered h.numbered) hended.backendIntegrity⟩

theorem LossAccounts.path (h : LossAccounts last n c) (hpath : RecordingPath c c') :
    ∃ n', LossAccounts last n' c' := by
  induction hpath with
  | refl => exact ⟨n, h⟩
  | tail _ hstep ih =>
    obtain ⟨n', h'⟩ := ih
    exact h'.step hstep

theorem LossAccounts.received {event : UartReceiveEvent} (h : LossAccounts last n c)
    (hreceived : Received event c c') : ∃ n', LossAccounts last n' c' := by
  cases hreceived with
  | @mk admission segmentId processor next files ended hreceiving hlands hsegment hprocessor
      hcommitted hactive =>
    let r : EvidenceRecorder :=
      { c.recorder with
        processor := (processor.processEvent { event with segmentId := segmentId }).1
        strayed := c.recorder.strayed ||
          !admission.rolledOver && (c.recorder.lineCut || c.recorder.resetMissed) }
    have hfollow := sameConnection_follow r true admission
    refine h.lands hlands hcommitted.quiet (fun hrolled hid => ?_)
      ⟨hfollow.receiving, hfollow.replacement, rfl⟩ (connection_follow r true admission)
      fun hrolled => zeroCounters_follow (r := r) true hrolled h.snapshot
    have hsame := countersStay_follow (r := r) true hrolled hid
    exact ⟨hsame.handle, hsame.receiving, hsame.replacement, hsame.snapshot, hsame.integrity,
      hsame.sessionDroppedBytes, hsame.connectionStartDroppedBytes, hsame.explicitOverflowBytes,
      hsame.statusBaseline, hsame.resetMissed⟩

/-- An attached source has no open replacement. -/
theorem LossAccounts.attached (h : LossAccounts last n c) (hattached : c.recorder.receiving = true) :
    c.recorder.replacement = none := by
  rw [Option.eq_none_iff_forall_ne_some]
  intro replacement hsome
  rw [(h.waiting replacement hsome).detached] at hattached
  cases hattached

/-- What a report leaves of the counters but those it moves. -/
structure Counting (r r' : EvidenceRecorder) : Prop where
  replacement : r'.replacement = r.replacement
  snapshot : r'.snapshot = r.snapshot
  connectionStartDroppedBytes : r'.connectionStartDroppedBytes = r.connectionStartDroppedBytes
  resetMissed : r'.resetMissed = r.resetMissed

/-- The stored integrity after a report whose total did not fall. -/
theorem TelemetryRecord.storedIntegrity {body : ℕ → RecordBody} {droppedBytes previous : ℕ}
    {loss : Bool} {admission : V2EvidenceAdmission} {f f' : SessionFiles}
    (h : TelemetryRecord body droppedBytes loss f admission f')
    (hprevious : f.metadata.backendIntegrity.droppedBytes = some previous)
    (hgrows : previous ≤ droppedBytes) (hzero : loss = false → droppedBytes = 0) :
    f'.metadata.backendIntegrity =
      ⟨if loss then .lossReported else .noneReported, some debugHelperRxBuffer,
        some droppedBytes⟩ := by
  obtain ⟨previous', hprevious', hstored⟩ := h.backendIntegrity
  cases hprevious.symm.trans hprevious'
  rw [hstored, max_eq_right hgrows]
  cases loss with
  | true => simp
  | false => simp [hzero rfl]

/-- A report is counted alike by the recorder, in the stored integrity and in the window. -/
theorem LossAccounts.counted {last' : Option (ℕ × ℕ)} {body : ℕ → RecordBody}
    {droppedBytes : ℕ} {loss : Bool} {admission : V2EvidenceAdmission} {f : SessionFiles}
    {ended : List (SessionId × SessionFiles)} {r : EvidenceRecorder}
    (h : LossAccounts last n c) (hattached : c.recorder.receiving = true)
    (hcounting : Counting c.recorder r) (report : BufferReport)
    (htelemetry : TelemetryRecord body droppedBytes loss c.files admission f)
    (hbody : (body n).report? = some (n, report))
    (hrises : ∀ t o, report = .status t o → ∀ b,
      (c.files.windows.getD n {}).statusBaseline = some b → b.1 ≤ t ∧ b.2 ≤ o)
    (hlast : ∀ b, ((c.files.windows.getD n {}).count report).statusBaseline = some b →
      ∃ t, last' = some t ∧ b.1 ≤ t.1 ∧ b.2 ≤ t.2 ∧
        ((c.files.windows.getD n {}).count report).statusDroppedBytes ≤ t.1 - b.1)
    (hcount : c.recorder.resetMissed = false → AccountsFor c.recorder c.files →
      Follows c.recorder c.files n →
      ((c.files.windows.getD n {}).count report).explicitDroppedBytes = r.explicitOverflowBytes ∧
      ((c.files.windows.getD n {}).count report).statusBaseline = r.statusBaseline ∧
      r.sessionDroppedBytes = droppedBytes ∧ c.files.windows.lostBytes ≤ droppedBytes ∧
      c.recorder.connectionStartDroppedBytes + ((c.files.windows.getD n {}).count report).lostBytes
        = droppedBytes ∧
      loss = (c.files.windows.reportedLoss ||
        ((c.files.windows.getD n {}).count report).reportedLoss) ∧
      r.integrity = ⟨if loss then .lossReported else .noneReported, some debugHelperRxBuffer,
        some droppedBytes⟩) :
    LossAccounts last' n ⟨r, f, c.backend, ended⟩ := by
  have hnone := h.attached hattached
  obtain ⟨hnumbered, hwindows⟩ := h.numbered.telemetry htelemetry hbody hrises
  set window := (c.files.windows.getD n {}).count report with hwindow
  have hle := V2IntegrityWindow.le_count (c.files.windows.getD n {}) report
  have hget : f.windows.getD n {} = window := by rw [hwindows, Dict.getD_set, if_pos rfl]
  refine ⟨hnumbered, h.backend, hcounting.snapshot ▸ h.snapshot, by rw [hget]; exact hlast,
    fun _ hreset => ?_, fun replacement hsome => ?_⟩
  · rw [hcounting.resetMissed] at hreset
    obtain ⟨ha, hfollows⟩ := h.accountsFor hnone hreset
    obtain ⟨hexplicit, hbaseline, hdropped, hgrows, hsum, hloss, hintegrity⟩ :=
      hcount hreset ha hfollows
    -- The window of the current segment is exchanged in the sum.
    have hlost : f.windows.lostBytes = droppedBytes := by
      have hset := IntegrityWindows.lostBytes_set c.files.windows n window
      rw [hwindows]
      have hstart := hfollows.start
      omega
    have hreported : f.windows.reportedLoss = loss := by
      rw [hwindows, IntegrityWindows.reportedLoss_set hle, hloss]
    have hamount : f.windows.integrity =
        ⟨if loss then .lossReported else .noneReported, some debugHelperRxBuffer,
          some droppedBytes⟩ := by
      rw [IntegrityWindows.integrity, hlost, hreported]
    refine ⟨⟨?_, hintegrity.trans hamount.symm, hdropped.trans hlost.symm⟩, ?_, ?_, ?_⟩
    · have hprevious : c.files.metadata.backendIntegrity.droppedBytes =
          some c.files.windows.lostBytes := by rw [ha.stored]; rfl
      rw [hamount]
      refine htelemetry.storedIntegrity hprevious hgrows fun hnot => ?_
      -- Windows that lost a byte report loss.
      by_contra hne
      have hwell := (wellCounted_countedWindows f.hardwareEvents).reported
      have hreported' := hwell (by rw [← SessionFiles.windows, hlost]; exact hne)
      rw [← SessionFiles.windows, hreported, hnot] at hreported'
      cases hreported'
    · rw [hget]
      exact hexplicit
    · rw [hget]
      exact hbaseline
    · rw [hget, hlost, hcounting.connectionStartDroppedBytes]
      exact hsum
  · rw [hcounting.replacement, hnone] at hsome
    cases hsome

/-- One overflow more in the session. -/
theorem LossAccounts.overflow {event : BufferOverflowEvent} (admission : V2EvidenceAdmission)
    {f : SessionFiles} {ended : List (SessionId × SessionFiles)} {r : EvidenceRecorder}
    (h : LossAccounts last n c) (hattached : c.recorder.receiving = true)
    (hcounting : Counting c.recorder r)
    (htelemetry : TelemetryRecord
      (fun segmentId =>
        .bufferOverflow segmentId event.timestampUs event.channel event.droppedBytes)
      (c.recorder.projectedOverflow event.droppedBytes) true c.files admission f)
    (hexplicit : r.explicitOverflowBytes =
      c.recorder.explicitOverflowBytes + event.droppedBytes)
    (hbaseline : r.statusBaseline = c.recorder.statusBaseline)
    (hdropped : r.sessionDroppedBytes = c.recorder.projectedOverflow event.droppedBytes)
    (hintegrity : r.integrity = ⟨.lossReported, some debugHelperRxBuffer,
      some (c.recorder.projectedOverflow event.droppedBytes)⟩) :
    LossAccounts last n ⟨r, f, c.backend, ended⟩ := by
  refine h.counted hattached hcounting (.overflow event.droppedBytes) htelemetry rfl
    (fun t o hstatus => by cases hstatus) h.last fun _ ha hfollows => ?_
  have hsession := ha.dropped
  have hstart := hfollows.start
  have hwindow := hfollows.explicit
  simp only [V2IntegrityWindow.lostBytes] at hstart
  refine ⟨?_, ?_, hdropped, ?_, ?_, by simp [V2IntegrityWindow.count], ?_⟩
  · rw [hexplicit, ← hwindow]
    rfl
  · rw [hbaseline, ← hfollows.baseline]
    rfl
  · rw [EvidenceRecorder.projectedOverflow, ← hsession]
    exact le_max_left _ _
  · simp only [V2IntegrityWindow.count, V2IntegrityWindow.lostBytes,
      EvidenceRecorder.projectedOverflow]
    omega
  · simpa using hintegrity

/-- A status report moves the window of a connection as it moves the counters. -/
theorem V2IntegrityWindow.WellCounted.count_status {window : V2IntegrityWindow}
    {r : EvidenceRecorder} {event : BufferStatusEvent} (h : window.WellCounted)
    (hexplicit : window.explicitDroppedBytes = r.explicitOverflowBytes)
    (hbaseline : window.statusBaseline = r.statusBaseline)
    (hobserved : ∀ b, window.statusBaseline = some b →
      window.statusDroppedBytes ≤ event.droppedBytesTotal - b.1) :
    (window.count (.status event.droppedBytesTotal event.overflowEvents)).statusBaseline =
        some (r.baselineFor event) ∧
      (window.count (.status event.droppedBytesTotal event.overflowEvents)).lostBytes =
        r.connectionDropped event ∧
      (window.count (.status event.droppedBytesTotal event.overflowEvents)).reportedLoss =
        (window.reportedLoss || 0 < r.connectionDropped event ||
          (r.baselineFor event).2 < event.overflowEvents) := by
  have hlost : 0 < window.explicitDroppedBytes → window.reportedLoss = true := by
    intro hpos
    refine h.lost (Nat.ne_of_gt (lt_of_lt_of_le hpos ?_))
    exact le_max_left _ _
  cases hwas : window.statusBaseline with
  | none =>
    -- The report is its own baseline: the connection dropped what it was told so far.
    have hfor : r.baselineFor event = (event.droppedBytesTotal, event.overflowEvents) := by
      rw [EvidenceRecorder.baselineFor, ← hbaseline, hwas, Option.getD_none]
    rw [count_status_none hwas]
    refine ⟨by rw [hfor], ?_, ?_⟩
    · simp [V2IntegrityWindow.lostBytes, EvidenceRecorder.connectionDropped, hfor,
        h.unobserved hwas, hexplicit]
    · by_cases hpos : 0 < window.explicitDroppedBytes
      · simp [hlost hpos]
      · simp [EvidenceRecorder.connectionDropped, hfor, ← hexplicit, Nat.eq_zero_of_not_pos hpos]
  | some b =>
    have hfor : r.baselineFor event = b := by
      rw [EvidenceRecorder.baselineFor, ← hbaseline, hwas, Option.getD_some]
    rw [count_status_some hwas]
    refine ⟨hwas.trans (congrArg some hfor.symm), ?_, ?_⟩
    · simp only [V2IntegrityWindow.lostBytes, EvidenceRecorder.connectionDropped, hfor,
        max_eq_right (hobserved b hwas), hexplicit]
      exact max_comm _ _
    · by_cases hpos : 0 < window.explicitDroppedBytes
      · simp [hlost hpos]
      · simp [EvidenceRecorder.connectionDropped, hfor, ← hexplicit, Nat.eq_zero_of_not_pos hpos]

/-- One status report more in the session. -/
theorem LossAccounts.status {event : BufferStatusEvent} (admission : V2EvidenceAdmission)
    {f : SessionFiles} {ended : List (SessionId × SessionFiles)} {r : EvidenceRecorder}
    (h : LossAccounts last n c) (hattached : c.recorder.receiving = true)
    (hcounting : Counting c.recorder r)
    (hlast : ∀ t, last = some t → t.1 ≤ event.droppedBytesTotal ∧ t.2 ≤ event.overflowEvents)
    (htelemetry : TelemetryRecord
      (fun segmentId =>
        .bufferStatus segmentId event.timestampUs event.sizeBytes event.usedBytes
          event.highWaterBytes event.droppedBytesTotal event.overflowEvents)
      (c.recorder.connectionStartDroppedBytes + c.recorder.connectionDropped event)
      (c.recorder.reportsLoss event) c.files admission f)
    (hexplicit : r.explicitOverflowBytes = c.recorder.explicitOverflowBytes)
    (hbaseline : r.statusBaseline = some (c.recorder.baselineFor event))
    (hdropped : r.sessionDroppedBytes =
      c.recorder.connectionStartDroppedBytes + c.recorder.connectionDropped event)
    (hintegrity : r.integrity =
      ⟨if c.recorder.reportsLoss event then .lossReported else .noneReported,
        some debugHelperRxBuffer,
        some (c.recorder.connectionStartDroppedBytes + c.recorder.connectionDropped event)⟩) :
    LossAccounts (some (event.droppedBytesTotal, event.overflowEvents)) n
      ⟨r, f, c.backend, ended⟩ := by
  set window := c.files.windows.getD n {} with hwindow
  have hrises : ∀ b, window.statusBaseline = some b →
      b.1 ≤ event.droppedBytesTotal ∧ b.2 ≤ event.overflowEvents ∧
        window.statusDroppedBytes ≤ event.droppedBytesTotal - b.1 := by
    intro b hb
    obtain ⟨t, ht, hdroppedLe, hoverflowsLe, hobserved⟩ := h.last b hb
    obtain ⟨htotal, hoverflows⟩ := hlast t ht
    exact ⟨hdroppedLe.trans htotal, hoverflowsLe.trans hoverflows,
      hobserved.trans (Nat.sub_le_sub_right htotal _)⟩
  have hwell := (wellCounted_countedWindows c.files.hardwareEvents).getD n
  rw [← SessionFiles.windows, ← hwindow] at hwell
  refine h.counted hattached hcounting
    (.status event.droppedBytesTotal event.overflowEvents) htelemetry rfl
    (fun t o hstatus b hb => ?_) (fun b hb => ?_) fun _ ha hfollows => ?_
  · cases hstatus
    exact ⟨(hrises b hb).1, (hrises b hb).2.1⟩
  · rw [← hwindow] at hb ⊢
    refine ⟨_, rfl, ?_⟩
    cases hwas : window.statusBaseline with
    | none =>
      rw [V2IntegrityWindow.count_status_none hwas] at hb ⊢
      cases hb
      exact ⟨le_rfl, le_rfl, by simp [hwell.unobserved hwas]⟩
    | some baseline =>
      rw [V2IntegrityWindow.count_status_some hwas] at hb ⊢
      cases hwas.symm.trans hb
      obtain ⟨hdroppedLe, hoverflowsLe, hobserved⟩ := hrises b hwas
      exact ⟨hdroppedLe, hoverflowsLe, max_le hobserved le_rfl⟩
  · have hstart := hfollows.start
    have hgrows := V2IntegrityWindow.le_count window
      (.status event.droppedBytesTotal event.overflowEvents)
    obtain ⟨hcountedBaseline, hcountedLost, hcountedLoss⟩ :=
      hwell.count_status hfollows.explicit hfollows.baseline fun b hb => (hrises b hb).2.2
    rw [← hwindow] at hstart ⊢
    refine ⟨?_, hcountedBaseline.trans hbaseline.symm, hdropped, ?_, ?_, ?_, hintegrity⟩
    · rw [hexplicit, ← hfollows.explicit]
      exact V2IntegrityWindow.explicit_count_status _ _ _
    · have hle := hgrows.lostBytes
      omega
    · rw [hcountedLost]
    · have hsome : window.reportedLoss = true → c.files.windows.reportedLoss = true :=
        IntegrityWindows.reported_of_getD
      rw [hcountedLoss, EvidenceRecorder.reportsLoss, ha.health, IntegrityWindows.integrity]
      cases hany : c.files.windows.reportedLoss with
      | true => simp
      | false =>
        have hquiet : window.reportedLoss = false := by
          by_contra hloss
          rw [hsome (Bool.not_eq_false _ ▸ hloss)] at hany
          cases hany
        simp [hquiet]

/-- A rollover for a report, before the report. -/
theorem LossAccounts.turned {id : SessionId} {next : SessionFiles}
    (h : LossAccounts last n c) (hfresh : Fresh id c.backend next)
    (ended : List (SessionId × SessionFiles)) :
    LossAccounts last 0
      ⟨c.recorder.resetIntegrity (integrityForBackend .enhanced), next, c.backend, ended⟩ := by
  obtain ⟨hnumbered, huntold⟩ := h.landed hfresh
  refine h.moved rfl ?_ rfl rfl (fun _ => ⟨rfl, rfl, rfl, rfl, rfl⟩) hnumbered huntold
  intro hattached
  exact hattached

theorem LossAccounts.overflowed {event : BufferOverflowEvent} (h : LossAccounts last n c)
    (hoverflowed : Overflowed event c c') : ∃ n', LossAccounts last n' c' := by
  cases hoverflowed with
  | @mk admission next files ended hreceiving hlands htelemetry hactive =>
    generalize hrolled : admission.rolledOver = rolledOver at hlands htelemetry
    generalize hid : admission.sessionId = id at hlands
    cases hlands with
    | same =>
      refine ⟨n, h.overflow admission hreceiving ⟨rfl, rfl, rfl, ?_⟩ htelemetry rfl rfl rfl rfl⟩
      simp [EvidenceRecorder.countOverflow, EvidenceRecorder.publishAdmission, hrolled]
    | @successor _ _ prior hne hfresh hprior =>
      have hturned := h.turned hfresh (c.ended ++ [(c.recorder.handle, prior)])
      have hprojected : (c.recorder.resetIntegrity (integrityForBackend .enhanced)).projectedOverflow
          event.droppedBytes = event.droppedBytes := by
        simp [EvidenceRecorder.projectedOverflow, EvidenceRecorder.resetIntegrity,
          integrityForBackend]
      refine ⟨0, hturned.overflow admission hreceiving ⟨rfl, rfl, rfl, rfl⟩ ?_
        (Nat.zero_add _).symm rfl hprojected.symm ?_⟩
      · rw [hprojected]
        exact htelemetry
      · rw [hprojected]
        rfl

theorem LossAccounts.reported {event : BufferStatusEvent} (h : LossAccounts last n c)
    (hlast : ∀ t, last = some t → t.1 ≤ event.droppedBytesTotal ∧ t.2 ≤ event.overflowEvents)
    (hreported : StatusReported event c c') :
    ∃ n', LossAccounts (some (event.droppedBytesTotal, event.overflowEvents)) n' c' := by
  cases hreported with
  | @mk admission next files ended hreceiving hlands htelemetry hactive =>
    generalize hrolled : admission.rolledOver = rolledOver at hlands htelemetry
    generalize hid : admission.sessionId = id at hlands
    cases hlands with
    | same =>
      refine ⟨n, h.status admission hreceiving ⟨rfl, rfl, rfl, ?_⟩ hlast htelemetry rfl rfl rfl rfl⟩
      simp [EvidenceRecorder.countStatus, EvidenceRecorder.publishAdmission, hrolled]
    | @successor _ _ prior hne hfresh hprior =>
      have hturned := h.turned hfresh (c.ended ++ [(c.recorder.handle, prior)])
      -- The first report of a session is its own baseline.
      have hnothing :
          (c.recorder.resetIntegrity (integrityForBackend .enhanced)).connectionDropped event = 0 ∧
          (c.recorder.resetIntegrity (integrityForBackend .enhanced)).reportsLoss event = false := by
        constructor <;> simp [EvidenceRecorder.connectionDropped, EvidenceRecorder.reportsLoss,
          EvidenceRecorder.baselineFor, EvidenceRecorder.resetIntegrity, integrityForBackend]
      obtain ⟨hdropped, hloss⟩ := hnothing
      refine ⟨0, hturned.status admission hreceiving ⟨rfl, rfl, rfl, rfl⟩ hlast ?_
        rfl rfl ?_ ?_⟩
      · rw [hdropped, hloss]
        exact htelemetry
      · rw [hdropped]
        rfl
      · rw [hdropped, hloss]
        rfl

/-- The accounts of a recording whose replacement is open. -/
theorem LossAccounts.awaiting {replacement : Replacement} (hnumbered : Numbered n c.files)
    (hbackend : c.backend.integrity = integrityForBackend .enhanced)
    (hsnapshot : c.recorder.snapshot.integrity = integrityForBackend .enhanced)
    (hreplacement : c.recorder.replacement = some replacement) (hwaiting : Waiting replacement n c) :
    LossAccounts last n c := by
  refine ⟨hnumbered, hbackend, hsnapshot, fun b hb => ?_, fun hnone _ => ?_, fun other hother => ?_⟩
  · rw [hwaiting.untold] at hb
    cases hb
  · cases hreplacement.symm.trans hnone
  · cases hreplacement.symm.trans hother
    exact hwaiting

/-- A session without reports, in which a replacement is open. -/
theorem LossAccounts.unreported {replacement : Replacement} (hnumbered : Numbered n c.files)
    (huntold : Untold c.files) (hbackend : c.backend.integrity = integrityForBackend .enhanced)
    (hsnapshot : c.recorder.snapshot.integrity = integrityForBackend .enhanced)
    (hreplacement : c.recorder.replacement = some replacement)
    (hopened : replacement.snapshot.integrity = integrityForBackend .enhanced)
    (hdetached : c.recorder.receiving = false)
    (hmoved : replacement.newOwnershipSession = true ∨
      c.recorder.handle ≠ replacement.previousSessionId) : LossAccounts last n c := by
  refine .awaiting hnumbered hbackend hsnapshot hreplacement
    ⟨hopened, hdetached, by rw [huntold.windows]; rfl, fun _ => huntold, fun hold hhandle _ => ?_⟩
  rcases hmoved with hnew | hother
  · rw [hold] at hnew
    cases hnew
  · exact absurd hhandle hother

theorem LossAccounts.opened {snapshot : BackendSnapshot} {manual : Bool}
    (h : LossAccounts last n c) (hsnapshot : snapshot.integrity = integrityForBackend .enhanced)
    (hopened : Opened snapshot manual c c') : ∃ n', LossAccounts last n' c' := by
  cases hopened with
  | @segment rolledOver id next files backend ended hfree hlands hbackend hactive =>
    obtain ⟨hdetached, hnone⟩ := hfree
    have hstored := hbackend.trans hsnapshot
    rcases hlands with ⟨hlands, hsegment⟩ | hlands
    · cases hlands with
      | same =>
        obtain ⟨hnumbered, hwindows, huntold⟩ := h.numbered.opened hsegment
        refine ⟨n + 1, .awaiting hnumbered hstored h.snapshot rfl
          ⟨hsnapshot, hdetached, huntold, fun hmoved => ?_, fun _ _ hreset => ?_⟩⟩
        · rcases hmoved with hnew | hother
          · cases hnew
          · exact absurd rfl hother
        · obtain ⟨ha, _⟩ := h.accountsFor hnone hreset
          refine ⟨?_, ?_, ?_⟩
          · exact (hsegment.backendIntegrity.trans ha.stored).trans
              (congrArg IntegrityWindows.integrity hwindows.symm)
          · exact ha.health.trans (congrArg IntegrityWindows.integrity hwindows.symm)
          · exact ha.dropped.trans (congrArg IntegrityWindows.lostBytes hwindows.symm)
      | successor hne hfresh hprior =>
        obtain ⟨hnumbered, huntold⟩ := h.landed hfresh
        obtain ⟨hnumbered', hwindows, _⟩ := hnumbered.opened hsegment
        exact ⟨1, .unreported hnumbered'
          ⟨hwindows.trans huntold.windows, hsegment.backendIntegrity.trans huntold.stored⟩ hstored
          h.snapshot rfl hsnapshot hdetached (.inr hne)⟩
    · cases hlands with
      | successor hne hfresh hprior =>
        obtain ⟨hnumbered, hwindows⟩ := hfresh.blank.numbered
        exact ⟨0, .unreported hnumbered ⟨hwindows, hfresh.backendIntegrity.trans hstored⟩ hstored
          h.snapshot rfl hsnapshot hdetached (.inr hne)⟩
  | @session resetMissed id files backend hfree hended hblank hbackend =>
    obtain ⟨hnumbered, hwindows⟩ := hblank.numbered
    have hstored := hbackend.trans hsnapshot
    exact ⟨0, .unreported hnumbered ⟨hwindows, hblank.backendIntegrity.trans hstored⟩ hstored
      h.snapshot rfl hsnapshot hfree.1 (.inl rfl)⟩

theorem replacement_connect (r : EvidenceRecorder) (replacement : Replacement)
    (storedSegmentId : ℕ) : (r.connect replacement storedSegmentId).replacement = none := by
  simp only [EvidenceRecorder.connect]
  split <;> rfl

/-- In another session the counters start over. -/
theorem zeroCounters_connect {r : EvidenceRecorder} {replacement : Replacement}
    {storedSegmentId : ℕ}
    (hmoved : replacement.newOwnershipSession = true ∨ r.handle ≠ replacement.previousSessionId)
    (hopened : replacement.snapshot.integrity = integrityForBackend .enhanced) :
    ZeroCounters (r.connect replacement storedSegmentId) := by
  have hreset : (replacement.newOwnershipSession ||
      decide (r.handle ≠ replacement.previousSessionId)) = true := by simpa using hmoved
  simp only [EvidenceRecorder.connect, hreset, if_true, EvidenceRecorder.resetIntegrity, hopened,
    ite_self]
  exact ⟨rfl, rfl, rfl, rfl, rfl⟩

/-- In the same session the connection counts from what the session lost so far. -/
theorem LossAccounts.connected (h : LossAccounts last n c) (hconnected : Connected c c') :
    LossAccounts none n c' := by
  cases hconnected with
  | @mk replacement hreplacement hactive =>
    have hwaiting := h.waiting replacement hreplacement
    have huntold := hwaiting.untold
    have hnone := replacement_connect c.recorder replacement
      (c.files.metadata.segments.length - 1)
    refine ⟨h.numbered, h.backend, hwaiting.snapshot, fun b hb => ?_, fun _ hreset => ?_,
      fun other hother => by cases hnone.symm.trans hother⟩
    · rw [huntold] at hb
      cases hb
    · by_cases hmoved : replacement.newOwnershipSession = true ∨
          c.recorder.handle ≠ replacement.previousSessionId
      · obtain ⟨ha, hfollows⟩ :=
          (zeroCounters_connect hmoved hwaiting.snapshot).accountsFor (hwaiting.moved hmoved)
        exact ⟨ha, hfollows n⟩
      · obtain ⟨hold, hhandle⟩ := not_or.mp hmoved
        rw [Bool.not_eq_true] at hold
        rw [not_not] at hhandle
        simp only [EvidenceRecorder.connect, hold, hhandle, Bool.false_or, ne_eq, not_true,
          decide_false, Bool.false_eq_true, if_false] at hreset ⊢
        have ha := hwaiting.stayed hold hhandle hreset
        exact ⟨⟨ha.stored, ha.health, ha.dropped⟩, by rw [huntold], by rw [huntold],
          by rw [huntold]; exact ha.dropped⟩

/-- What a call that returned accounts for. -/
theorem LossAccounts.performs {call : RecorderCall} (h : LossAccounts last n c)
    (hrises : call.Rises last) (hperforms : Performs call c c') :
    ∃ n', LossAccounts (call.totalsAfter last) n' c' := by
  cases hperforms with
  | ignored hevent hreceiving =>
    cases call with
    | status event => exact ⟨n, h.raise hrises⟩
    | uart event => exact ⟨n, h⟩
    | overflow event => exact ⟨n, h⟩
    | _ => cases hevent
  | uart hpath hreceived =>
    obtain ⟨n₁, h₁⟩ := h.path hpath
    exact h₁.received hreceived
  | overflow hpath hoverflowed =>
    obtain ⟨n₁, h₁⟩ := h.path hpath
    exact h₁.overflowed hoverflowed
  | status hpath hreported =>
    obtain ⟨n₁, h₁⟩ := h.path hpath
    exact h₁.reported hrises hreported
  | openReplacement hopened => exact h.opened hrises hopened
  | connectReplacement hpath hconnected =>
    obtain ⟨n₁, h₁⟩ := h.path hpath
    exact ⟨n₁, h₁.connected hconnected⟩
  | other hevent hconnect hpath =>
    obtain ⟨n₁, h₁⟩ := h.path hpath
    cases call with
    | status event => cases hevent
    | connectReplacement => exact absurd rfl hconnect
    | _ => exact ⟨n₁, h₁⟩

theorem LossAccounts.performsAll {calls : List RecorderCall} (h : LossAccounts last n c)
    (hrises : TotalsRiseFrom last calls) (hperforms : PerformsAll calls c c') :
    ∃ last' n', LossAccounts last' n' c' := by
  induction hperforms generalizing last n with
  | nil => exact ⟨last, n, h⟩
  | cons hcall _ _ ih =>
    obtain ⟨hfirst, hrest⟩ := hrises
    obtain ⟨n₁, h₁⟩ := h.performs hfirst hcall
    exact ih h₁ hrest

/-- A recording starts with nothing reported. -/
theorem Started.lossAccounts {profile : DutProfile} {snapshot : BackendSnapshot}
    (hsnapshot : snapshot.integrity = integrityForBackend .enhanced)
    (h : Started profile snapshot c) : LossAccounts none 0 c := by
  have hdropped : snapshot.integrity.droppedBytes.getD 0 = 0 := by rw [hsnapshot]; rfl
  have hcounters : ZeroCounters c.recorder := by
    cases h
    exact ⟨hsnapshot, hdropped, hdropped, rfl, rfl⟩
  cases h with
  | mk hblank hended =>
    obtain ⟨hnumbered, hwindows⟩ := hblank.numbered
    obtain ⟨ha, hfollows⟩ :=
      hcounters.accountsFor ⟨hwindows, hblank.backendIntegrity.trans hsnapshot⟩
    refine ⟨hnumbered, hsnapshot, hsnapshot, fun b hb => ?_, fun _ _ => ⟨ha, hfollows 0⟩,
      fun replacement hsome => by cases hsome⟩
    rw [hwindows] at hb
    cases hb

end Steps

/-- While no rollover left the counters behind and no replacement is open, the health of the
recorder is the stored integrity of its session, and both are the loss recomputed from the
stored reports.  No range of the session lost more. -/
theorem recorder_countsLoss (cfg : StoreConfig) (depth : ℕ) (profile : DutProfile)
    (snapshot : BackendSnapshot) (calls : List RecorderCall) (st st' : Store)
    (r : EvidenceRecorder) (hsound : Sound st) (hdrawn : AllDrawn cfg st)
    (hsnapshot : snapshot.integrity = integrityForBackend .enhanced)
    (hrises : TotalsRiseFrom none calls)
    (hrun : recordRun cfg depth profile snapshot calls st = (.ok r, st'))
    (hreset : r.resetMissed = false) (hreplacement : r.replacement = none) :
    ∃ (f : SessionFiles) (loss : Bool) (total : ℕ), st'.history r.handle = some f ∧
      r.integrity = f.metadata.backendIntegrity ∧
      f.metadata.backendIntegrity = ⟨if loss then .lossReported else .noneReported,
        some debugHelperRxBuffer, some total⟩ ∧
      (f.metadata.profile.backendMode = .enhanced →
        v2RangeIntegrity f.metadata f.hardwareEvents
          ⟨r.handle, 0, f.metadata.nextEvidenceSeq⟩ = some (loss, total)) ∧
      ∀ range loss' total', v2RangeIntegrity f.metadata f.hardwareEvents range
          = some (loss', total') → (loss' = true → loss = true) ∧ total' ≤ total := by
  obtain ⟨c₀, c, hstarted, hperforms, rfl, hat⟩ := performs_recordRun hsound hdrawn hrun
  obtain ⟨last, n, h⟩ := (hstarted.lossAccounts hsnapshot).performsAll hrises hperforms
  obtain ⟨ha, _⟩ := h.accountsFor hreplacement hreset
  have hbelow : ∀ record ∈ c.files.hardwareEvents,
      record.evidenceSeq < c.files.metadata.nextEvidenceSeq := by
    intro record hrecord
    have hjournal := (hat.backed.sound _ _ hat.history).journal
    refine List.mem_range.mp (hjournal.sequences.subset ?_)
    refine List.mem_map_of_mem (f := EvidenceRecord.evidenceSeq) ?_
    simp [SessionFiles.primaryRecords, hrecord]
  refine ⟨c.files, c.files.windows.reportedLoss, c.files.windows.lostBytes, hat.history,
    ha.health.trans ha.stored.symm, ha.stored, fun hmode => ?_, fun range loss' total' hrange => ?_⟩
  · rw [v2RangeIntegrity, hmode]
    simp only
    rw [v2RangeWindows_whole hbelow]
    rfl
  · have hle := v2RangeWindows_le range h.numbered.rises
    cases hmode : c.files.metadata.profile.backendMode with
    | basic =>
      rw [v2RangeIntegrity, hmode] at hrange
      cases hrange
    | enhanced =>
      rw [v2RangeIntegrity, hmode] at hrange
      cases hrange
      exact hle

theorem recorder_countsLoss_enhancedCalls :
    ∃ (r : EvidenceRecorder) (st' : Store) (f : SessionFiles) (loss : Bool) (total : ℕ),
      recordRun exampleConfig 1 enhancedProfile enhancedSnapshot enhancedCalls {} = (.ok r, st') ∧
      st'.history r.handle = some f ∧
      f.metadata.backendIntegrity = ⟨if loss then .lossReported else .noneReported,
        some debugHelperRxBuffer, some total⟩ ∧ total = 7 := by
  obtain ⟨r, st', hrun, hids, hreset, hreplacement, hcut, hdropped⟩ := recordRun_enhancedCalls
  have hrises : TotalsRiseFrom none enhancedCalls := by
    simp [enhancedCalls, TotalsRiseFrom, RecorderCall.Rises, RecorderCall.totalsAfter]
  obtain ⟨f, loss, total, hf, hhealth, hstored, _, _⟩ :=
    recorder_countsLoss exampleConfig 1 enhancedProfile enhancedSnapshot enhancedCalls {} st' r
      sound_empty (allDrawn_empty exampleConfig) rfl hrises hrun hreset
      (Option.isNone_iff_eq_none.mp hreplacement)
  rw [hhealth, hstored] at hdropped
  exact ⟨r, st', f, loss, total, hrun, hf, hstored, Option.some.inj hdropped⟩
