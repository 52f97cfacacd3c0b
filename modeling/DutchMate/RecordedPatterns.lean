/-
# Recorded patterns

The recorder finds patterns and oversized lines while it records, with line state that it
flushes, drops and carries over.  Where no receive event met line state that was cut, it finds
what a reading of the stored records from the start finds.
-/
import DutchMate.RecordedEvents
import DutchMate.StoredLines

open LogReplay StoredLines Throwing

/-! ## What a session says was found -/

/-- What a session says was found in its receive data is what its records give again. -/
structure Derived (f : SessionFiles) : Prop where
  patterns : f.detectedPatterns = (lineReplay f.received).patterns
  oversized : f.metadata.oversizedLineCount = (lineReplay f.received).oversizedLineCount
  ordered : f.received.Pairwise fun event next => event.segmentId ≤ next.segmentId

/-- The same receive data, and the same found in it. -/
structure SameReceived (f f' : SessionFiles) : Prop where
  uartEvents : f'.uartEvents = f.uartEvents
  patterns : f'.detectedPatterns = f.detectedPatterns
  oversized : f'.metadata.oversizedLineCount = f.metadata.oversizedLineCount
  segments : f'.metadata.segments.map SegmentMetadata.segmentId =
    f.metadata.segments.map SegmentMetadata.segmentId

section Files

variable {f f' : SessionFiles} {event : UartReceiveEvent} {admission : V2EvidenceAdmission}

theorem received_of_uartEvents (h : f'.uartEvents = f.uartEvents) : f'.received = f.received := by
  rw [SessionFiles.received, SessionFiles.received, h]

theorem Derived.same (h : Derived f) (huart : f'.uartEvents = f.uartEvents)
    (hpatterns : f'.detectedPatterns = f.detectedPatterns)
    (hoversized : f'.metadata.oversizedLineCount = f.metadata.oversizedLineCount) :
    Derived f' := by
  have hreceived := received_of_uartEvents huart
  constructor
  · rw [hpatterns, hreceived]
    exact h.patterns
  · rw [hoversized, hreceived]
    exact h.oversized
  · rw [hreceived]
    exact h.ordered

/-- Nothing is found where nothing was received. -/
theorem derived_empty (huart : f.uartEvents = []) (hpatterns : f.detectedPatterns = [])
    (hoversized : f.metadata.oversizedLineCount = 0) : f.received = [] ∧ Derived f := by
  have hreceived : f.received = [] := by
    rw [SessionFiles.received, huart]
    rfl
  refine ⟨hreceived, ?_, ?_, ?_⟩
  · rw [hpatterns, hreceived]
    rfl
  · rw [hoversized, hreceived]
    rfl
  · rw [hreceived]
    exact .nil

theorem QuietRecord.sameReceived (h : QuietRecord f admission f') : SameReceived f f' :=
  ⟨h.uart.2, h.patterns, h.oversizedLineCount, h.segments⟩

theorem TelemetryRecord.sameReceived {body : ℕ → RecordBody} {droppedBytes : ℕ}
    {reportedLoss : Bool} (h : TelemetryRecord body droppedBytes reportedLoss f admission f') :
    SameReceived f f' :=
  ⟨h.uart.2, h.patterns, h.oversizedLineCount, h.segments⟩

theorem EndedFiles.sameReceived (h : EndedFiles f f') : SameReceived f f' := by
  refine ⟨h.uart.2, ?_, h.oversizedLineCount, h.segments⟩
  rw [h.evidence]

theorem SameReceived.derived (h : SameReceived f f') (hderived : Derived f) : Derived f' :=
  hderived.same h.uartEvents h.patterns h.oversized

/-- The patterns of a record are put behind those before it. -/
theorem getD_v2PatternDocument {existing patterns : List DetectedPattern} {seq growth : ℕ}
    {document : Option (List DetectedPattern)}
    (h : v2PatternDocument existing seq event patterns = .ok (document, growth)) :
    document.getD existing =
      existing ++ patterns.map fun p => { p with sourceEvidenceSeq := seq } := by
  rw [v2PatternDocument] at h
  split at h
  · rename_i hnone
    cases h
    rw [hnone, List.map_nil, List.append_nil]
    rfl
  · split at h
    · cases h
    · obtain ⟨_, _, hdocument⟩ := except_bind_eq_ok.mp h
      cases hdocument
      rfl

/-- The record of an event, as it is read back. -/
def UartReceiveEvent.stored (event : UartReceiveEvent) (evidenceSeq : ℕ) : UartEvent :=
  ⟨event.segmentId, event.channel, event.timestampUs, event.data, some evidenceSeq⟩

theorem UartCommitted.received {result : UartCaptureResult}
    (h : UartCommitted event result f admission f') :
    f'.received = f.received ++ [event.stored f.metadata.nextEvidenceSeq] := by
  obtain ⟨unit, hprepared, rfl, _⟩ := h
  obtain ⟨recordedAt, hrecord⟩ := hprepared.unitOf.record
  show (f.uartEvents ++ [unit.record]).filterMap EvidenceRecord.received? = _
  rw [List.filterMap_append, hrecord]
  simp [SessionFiles.received, EvidenceRecord.received?, Base64.decode_encode,
    UartReceiveEvent.stored]

/-- What a processor in the state of the replay finds, the replay finds. -/
theorem UartCommitted.derived {processor : UartCaptureProcessor}
    (hprocessor : processor = (lineReplay f.received).processorFor event.segmentId)
    (h : UartCommitted event (processor.processEvent event).2 f admission f')
    (hderived : Derived f) (hlast : ∀ e ∈ f.received, e.segmentId ≤ event.segmentId) :
    Derived f' := by
  have hreceived := h.received
  obtain ⟨unit, hprepared, rfl, _⟩ := h
  obtain ⟨patterns, growth, hrecords, hdocument⟩ := hprepared.patterns
  constructor
  · show unit.patterns.getD f.detectedPatterns = _
    rw [getD_v2PatternDocument hdocument, hreceived, lineReplay_concat, hderived.patterns]
    subst hprocessor
    refine congrArg ((lineReplay f.received).patterns ++ ·) ?_
    rw [LineReplay.sourced]
    exact congrArg (List.map _) (congrArg (fun x => (Except.toOption x).getD []) hrecords.symm)
  · show f.metadata.oversizedLineCount +
      (processor.processEvent event).2.newlyOversizedLineCount = _
    rw [hreceived, lineReplay_concat, hderived.oversized]
    subst hprocessor
    rfl
  · rw [hreceived]
    refine List.pairwise_append.mpr
      ⟨hderived.ordered, List.pairwise_singleton _ _, fun e he e' he' => ?_⟩
    cases List.mem_singleton.mp he'
    exact hlast e he

/-- The processor stays in the state of the replay. -/
theorem UartCommitted.processor {processor : UartCaptureProcessor}
    (hprocessor : processor = (lineReplay f.received).processorFor event.segmentId)
    (h : UartCommitted event (processor.processEvent event).2 f admission f') :
    (processor.processEvent event).1 = (lineReplay f'.received).processorFor event.segmentId := by
  rw [h.received, lineReplay_concat, LineReplay.processorFor]
  refine Eq.trans ?_ (if_pos rfl).symm
  subst hprocessor
  rfl

end Files

/-! ## Line state -/

/-- The line state of a recording.  Unless a receive event met line state that was cut, every
session holds what its records give; unless it is cut now, the processor is that of the
replay. -/
structure LineState (c : Recording) : Prop where
  derived : c.recorder.strayed = false → ∀ e ∈ c.sessions, Derived e.2
  segments : c.files.metadata.segments.map SegmentMetadata.segmentId =
    List.range (c.recorder.storedSegmentId + 1)
  reached : ∀ event ∈ c.files.received, event.segmentId ≤ c.recorder.storedSegmentId
  processor : c.recorder.lineCut = false → c.recorder.resetMissed = false →
    c.recorder.processor =
      (lineReplay c.files.received).processorFor c.recorder.storedSegmentId
  waiting : c.recorder.replacement ≠ none → c.recorder.receiving = false ∧
    ∀ event ∈ c.files.received, event.segmentId < c.recorder.storedSegmentId

/-- Line state that goes on. -/
structure LinesStay (r r' : EvidenceRecorder) : Prop where
  strayed : r'.strayed = r.strayed
  storedSegmentId : r'.storedSegmentId = r.storedSegmentId
  lineCut : r'.lineCut = false → r.lineCut = false
  resetMissed : r'.resetMissed = r.resetMissed
  processor : r'.lineCut = false → r'.processor = r.processor
  replacement : r'.replacement = r.replacement
  receiving : r'.receiving = true → r.receiving = true

/-- Line state of a session that follows a rollover. -/
structure LinesRestart (r r' : EvidenceRecorder) : Prop where
  strayed : r'.strayed = r.strayed
  storedSegmentId : r'.storedSegmentId = 0
  processor : r'.resetMissed = false → r'.processor = {}
  replacement : r'.replacement = r.replacement
  receiving : r'.receiving = true → r.receiving = true

section Steps

variable {c c' : Recording}

/-- Nothing of the current segment is received yet. -/
theorem LineState.unread (hderived : c.recorder.strayed = false → ∀ e ∈ c.sessions, Derived e.2)
    (hsegments : c.files.metadata.segments.map SegmentMetadata.segmentId =
      List.range (c.recorder.storedSegmentId + 1))
    (hbefore : ∀ event ∈ c.files.received, event.segmentId < c.recorder.storedSegmentId)
    (hprocessor : c.recorder.resetMissed = false → c.recorder.processor = {})
    (hdetached : c.recorder.replacement ≠ none → c.recorder.receiving = false) : LineState c where
  derived := hderived
  segments := hsegments
  reached := fun event hevent => (hbefore event hevent).le
  processor := by
    intro _ hreset
    rw [hprocessor hreset, processorFor_lineReplay fun event hevent => (hbefore event hevent).ne]
  waiting := fun hsome => ⟨hdetached hsome, hbefore⟩

/-- The current segment is the last of the session, and nothing of it is received yet. -/
theorem LineState.unreadLast {n : ℕ}
    (hderived : c.recorder.strayed = false → ∀ e ∈ c.sessions, Derived e.2)
    (hlast : c.recorder.storedSegmentId = c.files.metadata.segments.length - 1)
    (hsegments : c.files.metadata.segments.map SegmentMetadata.segmentId = List.range (n + 1))
    (hbefore : ∀ event ∈ c.files.received, event.segmentId < n)
    (hprocessor : c.recorder.processor = {})
    (hdetached : c.recorder.replacement ≠ none → c.recorder.receiving = false) : LineState c := by
  have hlength : c.files.metadata.segments.length = n + 1 := by
    simpa using congrArg List.length hsegments
  have hstored : c.recorder.storedSegmentId = n := by
    rw [hlast, hlength]
    rfl
  refine .unread hderived ?_ ?_ (fun _ => hprocessor) hdetached
  · rw [hstored]
    exact hsegments
  · rw [hstored]
    exact hbefore

/-- The line state goes on in the same session. -/
theorem LineState.stay (h : LineState c) (hr : LinesStay c.recorder c'.recorder)
    (hf : SameReceived c.files c'.files) (hended : c'.ended = c.ended) : LineState c' := by
  have hreceived := received_of_uartEvents hf.uartEvents
  refine ⟨fun hstrayed e he => ?_, ?_, ?_, fun hcut hreset => ?_, fun hsome => ?_⟩
  · have hbefore := h.derived (hr.strayed ▸ hstrayed)
    rw [Recording.sessions, hended] at he
    rcases mem_sessions_concat he with he | rfl
    · exact hbefore e (List.mem_append_left _ he)
    · exact hf.derived (hbefore _ (List.mem_append_right _ (List.mem_singleton_self _)))
  · rw [hf.segments, hr.storedSegmentId]
    exact h.segments
  · rw [hreceived, hr.storedSegmentId]
    exact h.reached
  · rw [hr.processor hcut, hreceived, hr.storedSegmentId]
    exact h.processor (hr.lineCut hcut) (hr.resetMissed ▸ hreset)
  · obtain ⟨hdetached, hbefore⟩ := h.waiting (hr.replacement ▸ hsome)
    rw [hreceived, hr.storedSegmentId]
    refine ⟨?_, hbefore⟩
    by_contra hattached
    have hattached' := hr.receiving (Bool.not_eq_false _ ▸ hattached)
    rw [hdetached] at hattached'
    cases hattached'

/-- The sessions of a recording that went on to a successor. -/
theorem LineState.left (h : LineState c) (hstrayed : c.recorder.strayed = false)
    {prior : SessionFiles} (hprior : EndedFiles c.files prior) {e : SessionId × SessionFiles}
    (he : e ∈ c.ended ++ [(c.recorder.handle, prior)]) : Derived e.2 := by
  have hbefore := h.derived hstrayed
  rcases mem_sessions_concat he with he | rfl
  · exact hbefore e (List.mem_append_left _ he)
  · exact hprior.sameReceived.derived
      (hbefore _ (List.mem_append_right _ (List.mem_singleton_self _)))

/-- Where an admission landed that added no receive data. -/
theorem LineState.lands {rolledOver : Bool} {id : SessionId} {next f : SessionFiles}
    {backend backend' : BackendSnapshot} {ended : List (SessionId × SessionFiles)}
    {r : EvidenceRecorder} (h : LineState c) (hlands : Lands c backend rolledOver id next ended)
    (hf : SameReceived next f) (hstay : rolledOver = false → LinesStay c.recorder r)
    (hrestart : rolledOver = true → LinesRestart c.recorder r) :
    LineState ⟨r, f, backend', ended⟩ := by
  cases hlands with
  | same => exact h.stay (hstay rfl) hf rfl
  | @successor _ _ prior hne hfresh hprior =>
    -- A successor has received nothing, so every processor that starts over is right for it.
    have hr := hrestart rfl
    obtain ⟨hnone, hempty⟩ :=
      derived_empty hfresh.noUart.2 hfresh.noPatterns hfresh.oversizedLineCount
    have hreceived : f.received = [] := (received_of_uartEvents hf.uartEvents).trans hnone
    refine .unread (fun hstrayed e he => ?_) ?_ (fun event hevent => ?_) hr.processor
      fun hsome => ?_
    · rcases mem_sessions_concat he with he | rfl
      · exact h.left (hr.strayed ▸ hstrayed) hprior.toEndedFiles he
      · exact hf.derived hempty
    · show f.metadata.segments.map SegmentMetadata.segmentId = List.range (r.storedSegmentId + 1)
      rw [hf.segments, hfresh.segments, hr.storedSegmentId]
      rfl
    · rw [hreceived] at hevent
      cases hevent
    · obtain ⟨hdetached, _⟩ := h.waiting (hr.replacement ▸ hsome)
      by_contra hattached
      have hattached' := hr.receiving (Bool.not_eq_false _ ▸ hattached)
      rw [hdetached] at hattached'
      cases hattached'

theorem linesStay_follow {r : EvidenceRecorder} {admission : V2EvidenceAdmission} (reset : Bool)
    (hrolled : admission.rolledOver = false) : LinesStay r (r.follow reset admission) := by
  have hfollow : r.follow reset admission = r.publishAdmission admission := by
    simp [EvidenceRecorder.follow, EvidenceRecorder.adopt, hrolled]
  rw [hfollow]
  constructor <;> simp [EvidenceRecorder.publishAdmission, hrolled]

theorem linesRestart_follow {r : EvidenceRecorder} {admission : V2EvidenceAdmission} (reset : Bool)
    (hrolled : admission.rolledOver = true) (hclean : reset = true → r.processor = {}) :
    LinesRestart r (r.follow reset admission) := by
  cases reset with
  | false =>
    constructor <;> simp [EvidenceRecorder.follow, EvidenceRecorder.publishAdmission, hrolled]
  | true =>
    have hfollow : r.follow true admission =
        (r.publishAdmission admission).resetIntegrity r.snapshot.integrity := by
      simp [EvidenceRecorder.follow, EvidenceRecorder.adopt, hrolled,
        EvidenceRecorder.resetIntegrityAfterRollover, EvidenceRecorder.publishAdmission]
    rw [hfollow]
    refine ⟨rfl, ?_, fun _ => hclean rfl, rfl, id⟩
    simp [EvidenceRecorder.resetIntegrity, EvidenceRecorder.publishAdmission, hrolled]

theorem LineState.step (h : LineState c) (hstep : RecordingStep c c') : LineState c' := by
  cases hstep with
  | cut hreceiving =>
    exact h.stay ⟨rfl, rfl, nofun, rfl, nofun, rfl, hreceiving⟩ ⟨rfl, rfl, rfl, rfl⟩ rfl
  | @quiet reset admission next files ended hlands hquiet hactive hclean =>
    exact h.lands hlands hquiet.sameReceived (linesStay_follow reset) fun hrolled =>
      linesRestart_follow reset hrolled fun hreset => hclean hreset hrolled
  | failed hended =>
    exact h.stay ⟨rfl, rfl, id, rfl, fun _ => rfl, rfl, id⟩ hended.sameReceived rfl

theorem LineState.path (h : LineState c) (hpath : RecordingPath c c') : LineState c' := by
  induction hpath with
  | refl => exact h
  | tail _ hstep ih => exact ih.step hstep

theorem UartCommitted.segments {event : UartReceiveEvent} {result : UartCaptureResult}
    {admission : V2EvidenceAdmission} {f f' : SessionFiles}
    (h : UartCommitted event result f admission f') :
    f'.metadata.segments.map SegmentMetadata.segmentId =
      f.metadata.segments.map SegmentMetadata.segmentId := by
  obtain ⟨unit, _, rfl, _⟩ := h
  exact Metadata.map_segmentId_recordSegmentTimestamp _ _ _

section Received

variable {event : UartReceiveEvent} {admission : V2EvidenceAdmission} {files : SessionFiles}
  {strayed : Bool}

/-- A receive event of a session that goes on.  Either its processor is that of the replay, or
line state was cut before it and the event strays. -/
theorem LineState.receivedSame (h : LineState c) (hrolled : admission.rolledOver = false)
    (hsegment : event.segmentId = c.recorder.storedSegmentId)
    (hcommitted : UartCommitted event (c.recorder.processor.processEvent event).2 c.files admission
      files)
    (hnone : c.recorder.replacement = none)
    (hstrays : strayed = false → c.recorder.strayed = false ∧ c.recorder.lineCut = false ∧
      c.recorder.resetMissed = false) :
    LineState ⟨EvidenceRecorder.adopt
      { c.recorder with
        processor := (c.recorder.processor.processEvent event).1
        strayed := strayed } admission, files, c.backend, c.ended⟩ := by
  have hstay := linesStay_follow (r :=
    { c.recorder with
      processor := (c.recorder.processor.processEvent event).1
      strayed := strayed }) true hrolled
  have hreads : c.recorder.lineCut = false → c.recorder.resetMissed = false →
      c.recorder.processor = (lineReplay c.files.received).processorFor event.segmentId := by
    rw [hsegment]
    exact h.processor
  refine ⟨fun hstrayed e he => ?_, ?_, fun e he => ?_, fun hcut hreset => ?_, fun hsome => ?_⟩
  -- The sessions before are as they were; in this one the event is read by the replay, too.
  · obtain ⟨hkept, hcut, hreset⟩ := hstrays (hstay.strayed.symm.trans hstrayed)
    have hbefore := h.derived hkept
    rcases mem_sessions_concat he with he | rfl
    · exact hbefore e (List.mem_append_left _ he)
    · exact hcommitted.derived (hreads hcut hreset)
        (hbefore _ (List.mem_append_right _ (List.mem_singleton_self _))) (hsegment ▸ h.reached)
  · exact (hcommitted.segments.trans h.segments).trans
      (congrArg (fun n => List.range (n + 1)) hstay.storedSegmentId.symm)
  · rw [hcommitted.received] at he
    refine le_of_le_of_eq ?_ hstay.storedSegmentId.symm
    rcases List.mem_append.mp he with he | he
    · exact h.reached e he
    · cases List.mem_singleton.mp he
      exact hsegment.le
  · have hprocessed := hcommitted.processor
      (hreads (hstay.lineCut hcut) (hstay.resetMissed.symm.trans hreset))
    exact (hstay.processor hcut).trans
      (hprocessed.trans (congrArg _ (hsegment.trans hstay.storedSegmentId.symm)))
  · exact absurd (hstay.replacement.trans hnone) hsome

/-- A receive event that rolled over is the first that a new processor reads. -/
theorem LineState.receivedSuccessor {id : SessionId} {backend : BackendSnapshot}
    {next prior : SessionFiles} (h : LineState c) (hrolled : admission.rolledOver = true)
    (hsegment : event.segmentId = 0) (hfresh : Fresh id backend next)
    (hprior : EndedFiles c.files prior)
    (hcommitted : UartCommitted event (({} : UartCaptureProcessor).processEvent event).2 next
      admission files)
    (hnone : c.recorder.replacement = none)
    (hstrays : strayed = false → c.recorder.strayed = false) :
    LineState ⟨EvidenceRecorder.adopt
      { c.recorder with
        processor := (({} : UartCaptureProcessor).processEvent event).1
        strayed := strayed } admission, files, c.backend,
      c.ended ++ [(c.recorder.handle, prior)]⟩ := by
  obtain ⟨hempty, hderived⟩ :=
    derived_empty hfresh.noUart.2 hfresh.noPatterns hfresh.oversizedLineCount
  have hreads : {} = (lineReplay next.received).processorFor event.segmentId := by
    rw [hempty]
    rfl
  have hadopt : ∀ r : EvidenceRecorder, r.adopt admission =
      { r.publishAdmission admission with
        storedSegmentId := 0 }.resetIntegrity r.snapshot.integrity := by
    intro r
    simp [EvidenceRecorder.adopt, hrolled, EvidenceRecorder.resetIntegrityAfterRollover,
      EvidenceRecorder.publishAdmission]
  rw [hadopt]
  refine ⟨fun hstrayed e he => ?_, hcommitted.segments.trans hfresh.segments, fun e he => ?_,
    fun _ _ => ?_, fun hsome => absurd hnone hsome⟩
  · rcases mem_sessions_concat he with he | rfl
    · exact h.left (hstrays hstrayed) hprior he
    · exact hcommitted.derived hreads hderived (by simp [hempty])
  · rw [hcommitted.received, hempty] at he
    cases List.mem_singleton.mp he
    exact hsegment.le
  · exact (hcommitted.processor hreads).trans (congrArg _ hsegment)

/-- A receive event goes to the processor of the replay, unless line state was cut before it. -/
theorem LineState.received {event : UartReceiveEvent} (h : LineState c)
    (hreceived : Received event c c') : LineState c' := by
  cases hreceived with
  | @mk admission segmentId processor next files ended hreceiving hlands hsegment hprocessor
      hcommitted hactive =>
    have hnone : c.recorder.replacement = none := by
      by_contra hsome
      have hdetached := (h.waiting hsome).1
      rw [hreceiving] at hdetached
      cases hdetached
    generalize hrolled : admission.rolledOver = rolledOver at hlands hsegment hprocessor
    generalize hid : admission.sessionId = id at hlands
    cases hlands with
    | same =>
      cases (hprocessor : processor = c.recorder.processor)
      refine h.receivedSame hrolled hsegment hcommitted hnone fun hstrayed => ?_
      rwa [Bool.not_false, Bool.true_and, Bool.or_eq_false_iff, Bool.or_eq_false_iff] at hstrayed
    | successor hne hfresh hprior =>
      cases (hprocessor : processor = {})
      refine h.receivedSuccessor hrolled hsegment hfresh hprior.toEndedFiles hcommitted hnone ?_
      intro hstrayed
      exact (Bool.or_eq_false_iff.mp hstrayed).1

end Received

theorem LineState.overflowed {event : BufferOverflowEvent} (h : LineState c)
    (hoverflowed : Overflowed event c c') : LineState c' := by
  cases hoverflowed with
  | @mk admission next files ended hreceiving hlands htelemetry hactive =>
    refine h.lands hlands htelemetry.sameReceived (fun hrolled => ?_) fun hrolled => ?_
    · constructor <;>
        simp [EvidenceRecorder.countOverflow, EvidenceRecorder.publishAdmission, hrolled]
    · constructor <;>
        simp [EvidenceRecorder.countOverflow, EvidenceRecorder.publishAdmission, hrolled]

theorem LineState.reported {event : BufferStatusEvent} (h : LineState c)
    (hreported : StatusReported event c c') : LineState c' := by
  cases hreported with
  | @mk admission next files ended hreceiving hlands htelemetry hactive =>
    refine h.lands hlands htelemetry.sameReceived (fun hrolled => ?_) fun hrolled => ?_
    · constructor <;>
        simp [EvidenceRecorder.countStatus, EvidenceRecorder.publishAdmission, hrolled]
    · constructor <;>
        simp [EvidenceRecorder.countStatus, EvidenceRecorder.publishAdmission, hrolled]

/-- The recorder starts over with the segment of a replacement. -/
theorem LineState.opened {snapshot : BackendSnapshot} {manual : Bool} (h : LineState c)
    (hopened : Opened snapshot manual c c') : LineState c' := by
  cases hopened with
  | @segment rolledOver id next files backend ended hfree hlands hbackend hactive =>
    -- The segment is behind all that have records, in the session or in its successor.
    obtain ⟨hdetached, _⟩ := hfree
    rcases hlands with ⟨hlands, hsegment⟩ | hlands
    · have hreceived := received_of_uartEvents hsegment.uart.2
      have hkept : Derived next → Derived files := fun hderived =>
        hderived.same hsegment.uart.2 hsegment.patterns hsegment.oversizedLineCount
      have hsegments : ∀ n, next.metadata.segments.map SegmentMetadata.segmentId =
          List.range (n + 1) →
          files.metadata.segments.map SegmentMetadata.segmentId = List.range (n + 1 + 1) := by
        intro n hnext
        have hlength : next.metadata.segments.length = n + 1 := by
          simpa using congrArg List.length hnext
        rw [hsegment.segments, hnext, hlength, ← List.range_succ]
      cases hlands with
      | same =>
        refine .unreadLast (fun hstrayed e he => ?_) rfl (hsegments _ h.segments) (fun e he => ?_)
          rfl fun _ => hdetached
        · have hbefore := h.derived hstrayed
          rcases mem_sessions_concat he with he | rfl
          · exact hbefore e (List.mem_append_left _ he)
          · exact hkept (hbefore _ (List.mem_append_right _ (List.mem_singleton_self _)))
        · rw [hreceived] at he
          exact Nat.lt_succ_of_le (h.reached e he)
      | @successor _ _ prior hne hfresh hprior =>
        obtain ⟨hempty, hderived⟩ :=
          derived_empty hfresh.noUart.2 hfresh.noPatterns hfresh.oversizedLineCount
        refine .unreadLast (fun hstrayed e he => ?_) rfl (hsegments 0 hfresh.segments)
          (fun e he => ?_) rfl fun _ => hdetached
        · rcases mem_sessions_concat he with he | rfl
          · exact h.left hstrayed hprior.toEndedFiles he
          · exact hkept hderived
        · rw [hreceived, hempty] at he
          cases he
    · cases hlands with
      | @successor _ _ prior hne hfresh hprior =>
        obtain ⟨hempty, hderived⟩ :=
          derived_empty hfresh.noUart.2 hfresh.noPatterns hfresh.oversizedLineCount
        refine .unreadLast (n := 0) (fun hstrayed e he => ?_) rfl hfresh.segments
          (fun e he => ?_) rfl fun _ => hdetached
        · rcases mem_sessions_concat he with he | rfl
          · exact h.left hstrayed hprior.toEndedFiles he
          · exact hderived
        · rw [hempty] at he
          cases he
  | @session resetMissed id files backend hfree hended hblank hbackend =>
    obtain ⟨hempty, hderived⟩ :=
      derived_empty hblank.noUart.2 hblank.noPatterns hblank.oversizedLineCount
    refine .unreadLast (n := 0) (fun hstrayed e he => ?_) rfl hblank.segments (fun e he => ?_) rfl
      fun _ => hfree.1
    · rcases mem_sessions_concat he with he | rfl
      · exact h.derived hstrayed e he
      · exact hderived
    · rw [hempty] at he
      cases he

/-- The line state of the connection is that of the replacement's segment. -/
theorem LineState.connected (h : LineState c) (hconnected : Connected c c') : LineState c' := by
  cases hconnected with
  | @mk replacement hreplacement hactive =>
    obtain ⟨hdetached, hbefore⟩ := h.waiting (by rw [hreplacement]; exact nofun)
    have hfields : ∀ n, (c.recorder.connect replacement n).strayed = c.recorder.strayed ∧
        (c.recorder.connect replacement n).storedSegmentId = n ∧
        (c.recorder.connect replacement n).processor = {} ∧
        (c.recorder.connect replacement n).replacement = none := by
      intro n
      simp only [EvidenceRecorder.connect]
      split <;> exact ⟨rfl, rfl, rfl, rfl⟩
    obtain ⟨hstrayed, hstored, hprocessor, hnone⟩ :=
      hfields (c.files.metadata.segments.length - 1)
    refine .unreadLast (fun hnot e he => ?_) hstored h.segments hbefore hprocessor
      fun hsome => absurd hnone hsome
    rw [Recording.sessions, handle_connect] at he
    exact h.derived (hstrayed.symm.trans hnot) e he

end Steps

/-! ## Runs -/

section Runs

variable {c c' : Recording}

theorem LineState.performs {call : RecorderCall} (h : LineState c)
    (hperforms : Performs call c c') : LineState c' := by
  cases hperforms with
  | ignored => exact h
  | uart hpath hreceived => exact (h.path hpath).received hreceived
  | overflow hpath hoverflowed => exact (h.path hpath).overflowed hoverflowed
  | status hpath hreported => exact (h.path hpath).reported hreported
  | openReplacement hopened => exact h.opened hopened
  | connectReplacement hpath hconnected => exact (h.path hpath).connected hconnected
  | other _ _ hpath => exact h.path hpath

theorem LineState.performsAll {calls : List RecorderCall} (h : LineState c)
    (hperforms : PerformsAll calls c c') : LineState c' := by
  induction hperforms with
  | nil => exact h
  | cons hcall _ _ ih => exact ih (h.performs hcall)

/-- A recording starts with nothing received. -/
theorem Started.lineState {profile : DutProfile} {snapshot : BackendSnapshot}
    (h : Started profile snapshot c) : LineState c := by
  have hempty : ∀ {f : SessionFiles}, Blank snapshot f → f.received = [] ∧ Derived f := fun hf =>
    derived_empty hf.noUart.2 hf.noPatterns hf.oversizedLineCount
  cases h with
  | @mk id tail files ended hblank hended =>
    refine .unread (fun _ e he => ?_) hblank.segments (fun e he => ?_) (fun _ => rfl)
      fun hsome => absurd rfl hsome
    · rcases mem_sessions_concat he with he | rfl
      · exact (hempty (hended e he)).2
      · exact (hempty hblank).2
    · rw [(hempty hblank).1] at he
      cases he

end Runs

/-- Where no receive event met cut line state, each session a run went through holds the
patterns and the count of oversized lines that its receive records give when they are read
again: the patterns of their terminated lines that are not oversized, and the number of those
that are.  Together these sessions hold every byte that was received. -/
theorem recorder_derivesPatterns (cfg : StoreConfig) (depth : ℕ) (profile : DutProfile)
    (snapshot : BackendSnapshot) (calls : List RecorderCall) (st st' : Store)
    (r : EvidenceRecorder) (hsound : Sound st) (hdrawn : AllDrawn cfg st)
    (hrun : recordRun cfg depth profile snapshot calls st = (.ok r, st'))
    (hids : DistinctIds cfg st'.idsDrawn) (hstrayed : r.strayed = false) :
    ∃ left : List SessionId, (left ++ [r.handle]).Nodup ∧
      (left ++ [r.handle]).flatMap st'.rawOf =
        (attachedEvents true calls).flatMap UartReceiveEvent.data ∧
      ∀ id ∈ left ++ [r.handle], ∃ f, st'.history id = some f ∧
        f.detectedPatterns = (lineReplay f.received).patterns ∧
        f.metadata.oversizedLineCount = (lineReplay f.received).oversizedLineCount ∧
        (f.detectedPatterns.map unsourced).Perm (patternsOf (placed f.received)) ∧
        f.metadata.oversizedLineCount = oversizedCountOf (placed f.received) := by
  obtain ⟨c₀, c, hstarted, hperforms, rfl, hat⟩ := performs_recordRun hsound hdrawn hrun
  have hholds := hstarted.holdsEvents.1.performsAll hperforms
  rw [hstarted.holdsEvents.2, List.nil_append] at hholds
  have hderived := (hstarted.lineState.performsAll hperforms).derived hstrayed
  have hhistory := hat.history_sessions hids
  have hsessions := c.map_fst_sessions
  refine ⟨c.ended.map Prod.fst, hat.backed.nodup hids, ?_, fun id hid => ?_⟩
  · rw [← hsessions, ← hholds.raw]
    exact flatMap_rawOf hhistory
  · rw [← hsessions] at hid
    obtain ⟨e, he, rfl⟩ := List.mem_map.mp hid
    obtain ⟨hpatterns, hoversized, hordered⟩ := hderived e he
    obtain ⟨hlines, hcount⟩ := lineReplay_reads hordered
    exact ⟨e.2, hhistory e he, hpatterns, hoversized, hpatterns ▸ hlines, hoversized.trans hcount⟩

/-- A pattern in a line that came in two parts. -/
def panicCalls : List RecorderCall :=
  [.uart ⟨0, 1, 0, [80, 65, 78]⟩, .uart ⟨0, 2, 0, [73, 67, 10]⟩]

theorem recorder_derivesPatterns_panicCalls :
    ∃ r st' f, recordRun exampleConfig 1 exampleProfile exampleSnapshot panicCalls {} =
        (.ok r, st') ∧ st'.history r.handle = some f ∧
      (lineReplay f.received).patterns.map DetectedPattern.pattern = ["PANIC"] := by
  have hok : ReturnsWith (fun r st' => st'.idsDrawn = 1 ∧ r.strayed = false ∧
      (st'.history r.handle).map (fun f => f.detectedPatterns.map DetectedPattern.pattern)
        = some ["PANIC"])
      (recordRun exampleConfig 1 exampleProfile exampleSnapshot panicCalls {}) = true := by
    decide +kernel
  obtain ⟨r, st', hrun, h⟩ := exists_of_returnsWith hok
  obtain ⟨hids, hstrayed, hfound⟩ := of_decide_eq_true h
  obtain ⟨left, _, _, hderived⟩ :=
    recorder_derivesPatterns exampleConfig 1 exampleProfile exampleSnapshot panicCalls {} st' r
      sound_empty (allDrawn_empty exampleConfig) hrun (hids ▸ distinctIds_one exampleConfig)
      hstrayed
  obtain ⟨f, hf, hpatterns, _⟩ := hderived r.handle (List.mem_append_right _ (.head _))
  rw [hf, Option.map_some, hpatterns] at hfound
  exact ⟨r, st', f, hrun, hf, Option.some.inj hfound⟩
