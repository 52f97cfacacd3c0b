/-
# Runs of the recorder

A call of the recorder over the store that returns does to the recorder and its session what
the steps of a recording do, so a property that every step keeps holds over every run.
-/
import DutchMate.RecorderSteps

open Throwing

/-! ## Recordings over the store -/

/-- What holds of the store whatever the recorder calls: sessions are well formed and their
identifiers were drawn.  As long as those were distinct, the sessions the recorder left stay
as they ended. -/
structure Backed (cfg : StoreConfig) (ended : List (SessionId × SessionFiles))
    (ids : List SessionId) (s : Store) : Prop where
  sound : Sound s
  drawn : AllDrawn cfg s
  kept : DistinctIds cfg s.idsDrawn → ∀ e ∈ ended, s.history e.1 = some e.2 ∧
    e.2.metadata.state ≠ .active
  nodup : DistinctIds cfg s.idsDrawn → ids.Nodup

/-- The session of a recording as the store has it. -/
structure SessionAt (cfg : StoreConfig) (ended : List (SessionId × SessionFiles))
    (id : SessionId) (files : SessionFiles) (backend : BackendSnapshot) (s : Store) : Prop where
  backed : Backed cfg ended (ended.map Prod.fst ++ [id]) s
  history : s.history id = some files
  known : Known id files backend s

/-- The recording is what the store has. -/
def RecordedAt (cfg : StoreConfig) (c : Recording) : Store → Prop :=
  SessionAt cfg c.ended c.recorder.handle c.files c.backend

/-- A program left a recording that `R` allows, with this recorder. -/
def Arrives (cfg : StoreConfig) (R : Recording → Prop) (r : EvidenceRecorder) (s : Store) : Prop :=
  ∃ c, R c ∧ c.recorder = r ∧ RecordedAt cfg c s

section Backing

variable {cfg : StoreConfig} {depth : ℕ} {ended : List (SessionId × SessionFiles)}
  {ids : List SessionId} {id : SessionId} {files : SessionFiles} {backend : BackendSnapshot}

theorem closed_backed (kind : StepKind) : Closed cfg kind (Backed cfg ended ids) := by
  intro st st' hstep h
  have hle := hstep.history.idsDrawn_le
  refine ⟨closed_sound cfg kind st st' hstep h.sound, hstep.history.allDrawn h.drawn, ?_,
    fun hids => h.nodup (hids.mono hle)⟩
  intro hids e he
  obtain ⟨hget, hended⟩ := h.kept (hids.mono hle) e he
  obtain ⟨f', hget', hgrown⟩ := hstep.history.grown h.drawn hids hget
  -- A session that ended does not change any more.
  rw [hgrown.ended hended] at hget'
  exact ⟨hget', hended⟩

theorem callInvariant_backed : CallInvariant cfg depth (Backed cfg ended ids) :=
  callInvariant_of_closed closed_backed fun _ h => h.sound

theorem Backed.allOpenHere {s : Store} (h : Backed cfg ended ids s) : AllOpenHere s :=
  fun id files hget => (h.sound id files (history_of_get? hget)).openHere

/-- One session more that ended. -/
theorem Backed.push {s : Store} (h : Backed cfg ended ids s) (hget : s.history id = some files)
    (hended : files.metadata.state ≠ .active) : Backed cfg (ended ++ [(id, files)]) ids s := by
  refine ⟨h.sound, h.drawn, fun hids e he => ?_, h.nodup⟩
  rcases List.mem_append.mp he with he | he
  · exact h.kept hids e he
  · cases List.mem_singleton.mp he
    exact ⟨hget, hended⟩

theorem Backed.anti {ended' : List (SessionId × SessionFiles)} {ids' : List SessionId} {s : Store}
    (h : Backed cfg ended' ids' s) (hsub : ∀ e ∈ ended, e ∈ ended') (hids : ids.Sublist ids') :
    Backed cfg ended ids s :=
  ⟨h.sound, h.drawn, fun hdistinct e he => h.kept hdistinct e (hsub e he),
    fun hdistinct => hids.nodup (h.nodup hdistinct)⟩

/-- A session that is active is none of those that ended. -/
theorem Backed.current {s : Store} (h : Backed cfg ended (ended.map Prod.fst) s)
    (hget : s.history id = some files) (hactive : files.metadata.state = .active) :
    Backed cfg ended (ended.map Prod.fst ++ [id]) s := by
  refine ⟨h.sound, h.drawn, h.kept, fun hids => ?_⟩
  rw [List.nodup_append]
  refine ⟨h.nodup hids, by simp, ?_⟩
  rintro a ha b hb rfl
  rw [List.mem_singleton] at hb
  subst hb
  obtain ⟨e, he, heq⟩ := List.mem_map.mp ha
  obtain ⟨hold, hended⟩ := h.kept hids e he
  rw [heq, hget] at hold
  cases hold
  exact hended hactive

/-- A session that ended is known. -/
theorem sessionAt_ended {s : Store} (h : Backed cfg ended (ended.map Prod.fst ++ [id]) s)
    (hget : s.history id = some files)
    (hended : files.metadata.state ≠ .active) : SessionAt cfg ended id files backend s := by
  refine ⟨h, hget, fun f hf hactive => ?_⟩
  cases hget.symm.trans (history_of_get? hf)
  exact absurd hactive hended

theorem Holds.sessionAt {handle : SessionId} {prior : Option SessionFiles} {s : Store}
    (h : Holds handle id files backend prior s)
    (hbacked : Backed cfg ended (ended.map Prod.fst ++ [id]) s) :
    SessionAt cfg ended id files backend s := by
  refine ⟨hbacked, history_of_get? h.session, fun f hf _ => ?_⟩
  cases hf.symm.trans h.session
  exact ⟨rfl, h.snapshot⟩

/-- Reading the session reads its files. -/
theorem triple_sessionFiles_at :
    Triple (SessionAt cfg ended id files backend) (sessionFiles id)
      (fun f s => f = files ∧ SessionAt cfg ended id files backend s) (fun _ _ => True) := by
  refine triple_conseq triple_sessionFiles (fun _ h => h) ?_ fun _ _ _ => trivial
  rintro f s ⟨hget, h⟩
  exact ⟨Option.some.inj ((history_of_get? hget).symm.trans h.history), h⟩

/-- Dropping what a call returns does not change what it keeps. -/
theorem keeps_of_dropResult {α : Type} {I : Store → Prop} {m : StoreProg α}
    (h : Keeps I (dropResult m)) : Keeps I m := by
  refine ⟨fun s hs => ?_⟩
  have h₁ := h.ended s hs
  unfold dropResult at h₁
  simp only [bind] at h₁
  rcases hr : m s with ⟨e | a, s'⟩ <;> rw [hr] at h₁ <;> exact h₁

theorem keeps_call (call : StoreCall) : Keeps (Backed cfg ended ids) (runCall cfg depth call) :=
  callInvariant_backed.runCall (fun _ h => segments_of_sound h.sound) call

theorem PreflightCall.keeps_append (c : PreflightCall) :
    Keeps (Backed cfg ended ids) (c.append cfg depth id) := by
  cases c with
  | uartReceive => exact callInvariant_backed.appendV2UartReceive
  | bufferOverflow => exact callInvariant_backed.appendV2BufferOverflow
  | bufferStatus => exact callInvariant_backed.appendV2BufferStatus
  | startOperation => exact callInvariant_backed.startV2Operation
  | completeOperation => exact callInvariant_backed.completeV2Operation
  | uartTxAttempt attemptId data operationId transformation =>
    exact keeps_of_dropResult
      (keeps_call (.appendV2UartTxAttempt id attemptId data operationId transformation))
  | uartTxResult attemptId status acceptedBytes =>
    exact keeps_of_dropResult
      (keeps_call (.appendV2UartTxResult id attemptId status acceptedBytes))
  | controlAttempt attemptId role provider parameters operationId =>
    exact keeps_of_dropResult (keeps_call
      (.appendV2ControlAttempt id attemptId role provider parameters operationId))
  | controlResult attemptId status deviceTimestampUs =>
    exact keeps_of_dropResult
      (keeps_call (.appendV2ControlResult id attemptId status deviceTimestampUs))

end Backing

section Admissions

variable {cfg : StoreConfig} {depth : ℕ} {c : Recording}

/-- Where an admission landed, among the sessions of the recording. -/
theorem Landed.lands {rolledOver : Bool} {id : SessionId} {next f : SessionFiles}
    {backend backend' : BackendSnapshot} {prior : Option SessionFiles} {s : Store}
    (h : Landed c.recorder.handle c.files backend rolledOver id next prior)
    (hbacked : Backed cfg c.ended (c.ended.map Prod.fst ++ [c.recorder.handle]) s)
    (hholds : Holds c.recorder.handle id f backend' prior s) (hactive : f.metadata.state = .active) :
    ∃ ended, Lands c backend rolledOver id next ended ∧ SessionAt cfg ended id f backend' s ∧
      ∀ e, ended = c.ended ++ [e] → s.history e.1 = some e.2 := by
  cases h with
  | same => exact ⟨c.ended, .same, hholds.sessionAt hbacked, fun e he => by simp at he⟩
  | @successor _ _ prior hne hfresh hprior =>
    have hhistory := hholds.prior _ rfl
    refine ⟨_, .successor hne hfresh hprior, hholds.sessionAt (Backed.current ?_
      (history_of_get? hholds.session) hactive), fun e he => ?_⟩
    · rw [List.map_append, List.map_singleton]
      exact hbacked.push hhistory hprior.ended
    · cases List.singleton_inj.mp (List.append_cancel_left he)
      exact hhistory

/-- An admission that returned landed in the session of the recording or in a successor. -/
def Admits (cfg : StoreConfig) (c : Recording)
    (K : SessionFiles → V2EvidenceAdmission → SessionFiles → Prop)
    (admission : V2EvidenceAdmission) (s : Store) : Prop :=
  ∃ next ended files, Lands c c.backend admission.rolledOver admission.sessionId next ended ∧
    K next admission files ∧ files.metadata.state = .active ∧
    SessionAt cfg ended admission.sessionId files c.backend s ∧
    ∀ e, ended = c.ended ++ [e] → s.history e.1 = some e.2

/-- A program that ends in an outcome and keeps what backs the recording. -/
def Admitting (cfg : StoreConfig) (c : Recording)
    (K : SessionFiles → V2EvidenceAdmission → SessionFiles → Prop)
    (m : StoreProg V2EvidenceAdmission) : Prop :=
  (∀ st, AllOpenHere st → Known c.recorder.handle c.files c.backend st →
    Triple (SameButClock st) m (Outcome K c.recorder.handle c.files c.backend) fun _ _ => True) ∧
  Keeps (Backed cfg c.ended (c.ended.map Prod.fst ++ [c.recorder.handle])) m

theorem Admitting.triple {K : SessionFiles → V2EvidenceAdmission → SessionFiles → Prop}
    {m : StoreProg V2EvidenceAdmission} (h : Admitting cfg c K m) :
    Triple (RecordedAt cfg c) m (Admits cfg c K) (fun _ _ => True) := by
  refine ⟨fun s hs => ?_⟩
  have hboth := triple_and (h.1 s hs.backed.allOpenHere hs.known) h.2
  refine (triple_conseq hboth (fun _ h => h) ?_ fun _ _ _ => trivial).ended s ⟨rfl, hs.backed⟩
  rintro admission s' ⟨⟨next, prior, files, hlanded, hK, hactive, hholds⟩, hbacked⟩
  obtain ⟨ended, hlands, hat, hleft⟩ := hlanded.lands hbacked hholds hactive
  exact ⟨next, ended, files, hlands, hK, hactive, hat, hleft⟩

@[simp] theorem handle_follow (r : EvidenceRecorder) (reset : Bool)
    (admission : V2EvidenceAdmission) : (r.follow reset admission).handle = admission.sessionId := by
  unfold EvidenceRecorder.follow EvidenceRecorder.adopt
  split
  · split <;> rfl
  · rfl

@[simp] theorem handle_adopt (r : EvidenceRecorder) (admission : V2EvidenceAdmission) :
    (r.adopt admission).handle = admission.sessionId := handle_follow r true admission

/-- The recorder follows a quiet record by one step. -/
theorem Admits.step {admission : V2EvidenceAdmission} {s : Store}
    (h : Admits cfg c QuietRecord admission s) (reset : Bool)
    (hclean : reset = true → admission.rolledOver = true → c.recorder.processor = {}) :
    Arrives cfg (RecordingStep c) (c.recorder.follow reset admission) s := by
  obtain ⟨next, ended, files, hlands, hquiet, hactive, hat, _⟩ := h
  refine ⟨_, .quiet hlands hquiet hactive hclean, rfl, ?_⟩
  rw [RecordedAt, handle_follow]
  exact hat

/-- One quiet admission and what the recorder makes of it. -/
theorem triple_follow {m : StoreProg V2EvidenceAdmission} (hm : Admitting cfg c QuietRecord m)
    (reset : Bool) (hclean : reset = true → c.recorder.processor = {}) :
    Triple (RecordedAt cfg c) m
      (fun admission s => Arrives cfg (RecordingStep c) (c.recorder.follow reset admission) s)
      (fun _ _ => True) :=
  triple_conseq hm.triple (fun _ h => h) (fun _ _ h => h.step reset fun hreset _ => hclean hreset)
    fun _ _ h => h

/-- A quiet admission and a program that goes on with the recorder that followed it. -/
theorem triple_bind_follow {α : Type} {m : StoreProg V2EvidenceAdmission}
    {k : V2EvidenceAdmission → StoreProg α} {Q : α → Store → Prop}
    (hm : Admitting cfg c QuietRecord m) (reset : Bool)
    (hclean : reset = true → c.recorder.processor = {})
    (hk : ∀ admission c₁, RecordingStep c c₁ → c.recorder.follow reset admission = c₁.recorder →
      Triple (RecordedAt cfg c₁) (k admission) Q (fun _ _ => True)) :
    Triple (RecordedAt cfg c) (m >>= k) Q (fun _ _ => True) := by
  apply triple_bind (triple_follow hm reset hclean)
  intro admission
  apply triple_exists
  intro c₁
  apply triple_assume (fun _ h => And.intro h.1 h.2.1)
  rintro ⟨hstep, hrecorder⟩
  exact triple_conseq (hk admission c₁ hstep hrecorder.symm) (fun _ h => h.2.2) (fun _ _ h => h)
    fun _ _ h => h

theorem admitting_connectionEvent {eventType : String}
    {segmentId : Option ℕ} {detail : Json} :
    Admitting cfg c QuietRecord
      (appendV2ConnectionEvent cfg depth c.recorder.handle eventType segmentId detail) :=
  ⟨fun _ hopen hknown => triple_appendV2ConnectionEvent_outcome hopen hknown,
    callInvariant_backed.appendV2ConnectionEvent⟩

theorem admitting_boundaryFact
    {line : UartCaptureResult × OversizedUartLine} :
    Admitting cfg c QuietRecord (appendBoundaryFact cfg depth c.recorder.handle line) := by
  refine ⟨fun _ hopen hknown => triple_appendBoundaryFact_outcome hopen hknown, ?_⟩
  refine triple_lift_bind (fun _ _ _ h => h) ?_
  intro facts _
  exact callInvariant_backed.appendAny (effective_lineLimit facts)

theorem admitting_completeOperation {operationId : String}
    {result : OperationResult} :
    Admitting cfg c QuietRecord
      (completeV2Operation cfg depth c.recorder.handle operationId result) :=
  ⟨fun _ hopen hknown => triple_completeV2Operation_outcome hopen hknown,
    callInvariant_backed.completeV2Operation⟩

end Admissions

/-! ## Flushing -/

section Flushing

variable {cfg : StoreConfig} {depth : ℕ} {c : Recording}

/-- What following admissions leaves of the recorder. -/
structure SameConnection (r r' : EvidenceRecorder) : Prop where
  receiving : r'.receiving = r.receiving
  replacement : r'.replacement = r.replacement
  processor : r'.processor = r.processor

theorem SameConnection.trans {r₁ r₂ r₃ : EvidenceRecorder} (h₁ : SameConnection r₁ r₂)
    (h₂ : SameConnection r₂ r₃) : SameConnection r₁ r₃ :=
  ⟨h₂.receiving.trans h₁.receiving, h₂.replacement.trans h₁.replacement,
    h₂.processor.trans h₁.processor⟩

theorem sameConnection_follow (r : EvidenceRecorder) (reset : Bool)
    (admission : V2EvidenceAdmission) : SameConnection r (r.follow reset admission) := by
  unfold EvidenceRecorder.follow EvidenceRecorder.adopt
  split
  · split <;> exact ⟨rfl, rfl, rfl⟩
  · exact ⟨rfl, rfl, rfl⟩

theorem sameConnection_adopts (r : EvidenceRecorder) (admissions : List V2EvidenceAdmission) :
    SameConnection r (admissions.foldl EvidenceRecorder.adopt r) := by
  induction admissions generalizing r with
  | nil => exact ⟨rfl, rfl, rfl⟩
  | cons admission admissions ih =>
    exact (sameConnection_follow r true admission).trans (ih (r.adopt admission))

/-- The facts of a boundary are admitted one after the other; no line state is left to lose. -/
theorem triple_lineBoundaryAdmissions
    (lines : List (UartCaptureResult × OversizedUartLine)) (hclean : c.recorder.processor = {}) :
    Triple (RecordedAt cfg c) (lineBoundaryAdmissions cfg depth c.recorder.handle lines)
      (fun admissions s =>
        Arrives cfg (RecordingPath c) (admissions.foldl EvidenceRecorder.adopt c.recorder) s)
      (fun _ _ => True) := by
  induction lines generalizing c with
  | nil => exact triple_pure fun s h => ⟨c, .refl, rfl, h⟩
  | cons line lines ih =>
    refine triple_bind_follow admitting_boundaryFact true (fun _ => hclean) ?_
    intro admission c₁ hstep hrecorder
    -- The facts after this one follow it into its session.
    have hhandle : admission.sessionId = c₁.recorder.handle := by
      rw [← hrecorder, handle_follow]
    have hclean₁ : c₁.recorder.processor = {} := by
      rw [← hrecorder]
      exact (sameConnection_follow c.recorder true admission).processor.trans hclean
    rw [hhandle]
    apply triple_bind (ih hclean₁)
    intro admissions
    refine triple_pure ?_
    rintro s ⟨c₂, hpath, hrecorder₂, hat⟩
    refine ⟨c₂, .head hstep hpath, ?_, hat⟩
    rw [hrecorder₂, ← hrecorder]
    rfl

/-- Line state is flushed by a cut and quiet steps. -/
theorem triple_flushLineState (receiving : Bool)
    (hreceiving : receiving = true → c.recorder.receiving = true) :
    Triple (RecordedAt cfg c)
      (flushLineState cfg depth { c.recorder with receiving := receiving })
      (fun r s => (r.processor = {} ∧ r.receiving = receiving ∧
          r.replacement = c.recorder.replacement) ∧ Arrives cfg (RecordingPath c) r s)
      (fun _ _ => True) := by
  have hcut := RecordingStep.cut hreceiving
  simp only [flushLineState]
  split
  · exact triple_pure fun s h => ⟨⟨rfl, rfl, rfl⟩, _, .single hcut, rfl, h⟩
  · have hlines : ∀ lines, Triple (RecordedAt cfg c)
        (lineBoundaryAdmissions cfg depth c.recorder.handle lines)
        (fun admissions s => Arrives cfg
          (RecordingPath { c with recorder := c.recorder.cut receiving })
          (admissions.foldl EvidenceRecorder.adopt (c.recorder.cut receiving)) s)
        (fun _ _ => True) := fun lines =>
      triple_lineBoundaryAdmissions (c := { c with recorder := c.recorder.cut receiving })
        lines rfl
    apply triple_bind (hlines _)
    intro admissions
    refine triple_pure ?_
    rintro s ⟨c₁, hpath, hrecorder, hat⟩
    have hsame := sameConnection_adopts (c.recorder.cut receiving) admissions
    exact ⟨⟨hsame.processor, hsame.receiving, hsame.replacement⟩, c₁, .head hcut hpath, hrecorder,
      hat⟩

/-- A flush before a rollover leaves the source attached. -/
theorem triple_flushIf (willRollover : Bool) :
    Triple (RecordedAt cfg c) (flushIf cfg depth willRollover c.recorder)
      (fun r s => ((willRollover = true → r.processor = {}) ∧
          r.receiving = c.recorder.receiving) ∧ Arrives cfg (RecordingPath c) r s)
      (fun _ _ => True) := by
  unfold flushIf
  split
  · exact triple_conseq (triple_flushLineState c.recorder.receiving fun h => h)
      (fun _ h => h) (fun r s h => ⟨⟨fun _ => h.1.1, h.1.2.1⟩, h.2⟩) fun _ _ h => h
  · rename_i hno
    exact triple_pure fun s h => ⟨⟨fun h => absurd h hno, rfl⟩, c, .refl, rfl, h⟩

end Flushing

/-! ## Calls -/

section Events

variable {cfg : StoreConfig} {depth : ℕ} {c : Recording}

/-- What follows starts from a recording that was arrived at. -/
theorem triple_bind_arrives {R : Recording → Prop} {A : EvidenceRecorder → Prop}
    {P : Store → Prop} {α : Type} {m : StoreProg EvidenceRecorder}
    {k : EvidenceRecorder → StoreProg α} {Q : α → Store → Prop}
    (hm : Triple P m (fun r s => A r ∧ Arrives cfg R r s) fun _ _ => True)
    (hk : ∀ c₁, R c₁ → A c₁.recorder →
      Triple (RecordedAt cfg c₁) (k c₁.recorder) Q fun _ _ => True) :
    Triple P (m >>= k) Q fun _ _ => True := by
  apply triple_bind hm
  intro r
  apply triple_assume (fun _ h => h.1)
  intro hr
  refine triple_of_exists (fun c₁ s => R c₁ ∧ c₁.recorder = r ∧ RecordedAt cfg c₁ s)
    (fun _ h => h.2) ?_
  intro c₁
  apply triple_assume (fun _ h => And.intro h.1 h.2.1)
  rintro ⟨hR, rfl⟩
  exact triple_conseq (hk c₁ hR hr) (fun _ h => h.2.2) (fun _ _ h => h) fun _ _ h => h

theorem Arrives.mono {R R' : Recording → Prop} {r : EvidenceRecorder} {s : Store}
    (hR : ∀ c, R c → R' c) (h : Arrives cfg R r s) : Arrives cfg R' r s := by
  obtain ⟨c, hc, hrecorder, hat⟩ := h
  exact ⟨c, hR c hc, hrecorder, hat⟩

theorem RecordedAt.sameButClock {st s : Store} (h : RecordedAt cfg c st)
    (hs : SameButClock st s) : RecordedAt cfg c s := by
  rw [SameButClock] at hs
  rw [hs]
  exact ⟨⟨h.backed.sound, h.backed.drawn, h.backed.kept, h.backed.nodup⟩, h.history, h.known⟩

/-- A question leaves the recording, and decides the append it is about. -/
theorem triple_preflight_at (call : PreflightCall) :
    Triple (RecordedAt cfg c) (call.preflight cfg c.recorder.handle)
      (fun b s => ∃ st, call.Decides cfg c.recorder.handle b st ∧ SameButClock st s ∧
        RecordedAt cfg c s)
      (fun _ _ => True) := by
  refine ⟨fun st hst => ?_⟩
  refine (triple_conseq (call.triple_preflight cfg c.recorder.handle st) (fun _ h => h) ?_
    fun _ _ _ => trivial).ended st rfl
  rintro b s ⟨hdecides, hs⟩
  exact ⟨st, hdecides, hs, hst.sameButClock hs⟩

/-- An event call: the question, the flush, the admission. -/
theorem triple_flushed (call : PreflightCall)
    {k : EvidenceRecorder → StoreProg EvidenceRecorder} {R : Recording → Recording → Prop}
    (hk : ∀ c₁, RecordingPath c c₁ → c₁.recorder.receiving = c.recorder.receiving →
      Triple (RecordedAt cfg c₁) (k c₁.recorder) (Arrives cfg (R c₁)) fun _ _ => True) :
    Triple (RecordedAt cfg c)
      (do
        let willRollover ← call.preflight cfg c.recorder.handle
        let r ← flushIf cfg depth willRollover c.recorder
        k r)
      (Arrives cfg fun c' => ∃ c₁, RecordingPath c c₁ ∧ R c₁ c') (fun _ _ => True) := by
  apply triple_bind (R := fun _ => RecordedAt cfg c)
  · refine triple_conseq (triple_preflight_at call) (fun _ h => h) ?_ fun _ _ h => h
    rintro b s ⟨_, _, _, hat⟩
    exact hat
  intro willRollover
  refine triple_bind_arrives (triple_flushIf willRollover) ?_
  intro c₁ hpath hsame
  refine triple_conseq (hk c₁ hpath hsame.2) (fun _ h => h) ?_ fun _ _ h => h
  intro r s h
  exact h.mono fun c' hc' => ⟨c₁, hpath, hc'⟩

theorem admitting_uartReceive {event : UartReceiveEvent}
    {result rolloverResult : UartCaptureResult} :
    Admitting cfg c
      (fun f admission f' =>
        if admission.rolledOver then
          UartCommitted { event with segmentId := 0 } rolloverResult f admission f'
        else UartCommitted event result f admission f')
      (appendV2UartReceive cfg depth c.recorder.handle
        { event := event
          captureResult := some result
          rolloverCaptureResult := some rolloverResult }) :=
  ⟨fun _ hopen hknown => triple_appendV2UartReceive_outcome hopen hknown,
    callInvariant_backed.appendV2UartReceive⟩

/-- A receive event flushes where it will roll over, and is admitted. -/
theorem triple_recordUart {event : UartReceiveEvent}
    (hreceiving : c.recorder.receiving = true) :
    Triple (RecordedAt cfg c) (recordUart cfg depth c.recorder event)
      (Arrives cfg (Performs (.uart event) c)) (fun _ _ => True) := by
  let first := { event with segmentId := c.recorder.storedSegmentId }
  refine triple_conseq (triple_flushed (R := Received event)
    (.uartReceive first (c.recorder.processor.processEvent first).2 none) ?_)
    (fun _ h => h) ?_ fun _ _ h => h
  · intro c₁ hpath hsame
    apply triple_bind (admitting_uartReceive).triple
    intro admission
    refine triple_pure ?_
    rintro s ⟨next, ended, files, hlands, hcommitted, hactive, hat, _⟩
    -- After a rollover the event is the first that a new processor reads.
    cases hrolled : admission.rolledOver with
    | true =>
      rw [hrolled] at hcommitted
      refine ⟨_, .mk (hsame.trans hreceiving) hlands rfl rfl ?_ hactive, ?_, ?_⟩
      · rw [hrolled]
        exact hcommitted
      · rw [hrolled]
        rfl
      · rw [RecordedAt, handle_adopt]
        exact hat
    | false =>
      rw [hrolled] at hcommitted
      refine ⟨_, .mk (hsame.trans hreceiving) hlands rfl rfl ?_ hactive, ?_, ?_⟩
      · rw [hrolled]
        exact hcommitted
      · rw [hrolled]
        rfl
      · rw [RecordedAt, handle_adopt]
        exact hat
  · intro r s h
    refine h.mono ?_
    rintro c' ⟨c₁, hpath, hreceived⟩
    exact .uart hpath hreceived

@[simp] theorem handle_countOverflow (r : EvidenceRecorder) (projectedDropped droppedBytes : ℕ)
    (rolledOver : Bool) : (r.countOverflow projectedDropped droppedBytes rolledOver).handle =
      r.handle := by
  cases rolledOver <;> rfl

@[simp] theorem handle_countStatus (r : EvidenceRecorder) (totals : ℕ × ℕ) (projectedDropped : ℕ)
    (reportedLoss rolledOver : Bool) :
    (r.countStatus totals projectedDropped reportedLoss rolledOver).handle = r.handle := by
  cases rolledOver <;> rfl

theorem triple_recordOverflow {event : BufferOverflowEvent}
    (hreceiving : c.recorder.receiving = true) :
    Triple (RecordedAt cfg c) (recordOverflow cfg depth c.recorder event)
      (Arrives cfg (Performs (.overflow event) c)) (fun _ _ => True) := by
  refine triple_conseq (triple_flushed (R := Overflowed event)
    (.bufferOverflow { event with segmentId := c.recorder.storedSegmentId } none none) ?_)
    (fun _ h => h) ?_ fun _ _ h => h
  · intro c₁ hpath hsame
    have hadmitting : Admitting cfg c₁ _ (appendV2BufferOverflow cfg depth c₁.recorder.handle
        { event with segmentId := c₁.recorder.storedSegmentId }
        (some (c₁.recorder.projectedOverflow event.droppedBytes)) (some event.droppedBytes)) :=
      ⟨fun _ hopen hknown => triple_appendV2BufferOverflow_outcome hopen hknown,
        callInvariant_backed.appendV2BufferOverflow⟩
    apply triple_bind hadmitting.triple
    intro admission
    refine triple_pure ?_
    rintro s ⟨next, ended, files, hlands, htelemetry, hactive, hat, _⟩
    refine ⟨_, .mk (hsame.trans hreceiving) hlands htelemetry hactive, rfl, ?_⟩
    rw [RecordedAt, handle_countOverflow]
    exact hat
  · intro r s h
    refine h.mono ?_
    rintro c' ⟨c₁, hpath, hoverflowed⟩
    exact .overflow hpath hoverflowed

theorem triple_recordStatus {event : BufferStatusEvent}
    (hreceiving : c.recorder.receiving = true) :
    Triple (RecordedAt cfg c) (recordStatus cfg depth c.recorder event)
      (Arrives cfg (Performs (.status event) c)) (fun _ _ => True) := by
  refine triple_conseq (triple_flushed (R := StatusReported event)
    (.bufferStatus { event with segmentId := c.recorder.storedSegmentId } {}) ?_)
    (fun _ h => h) ?_ fun _ _ h => h
  · intro c₁ hpath hsame
    have hadmitting : Admitting cfg c₁ _ (appendV2BufferStatus cfg depth c₁.recorder.handle
        { event with segmentId := c₁.recorder.storedSegmentId }
        { sessionDroppedBytes := some
            (c₁.recorder.connectionStartDroppedBytes + c₁.recorder.connectionDropped event)
          reportedLoss := some (c₁.recorder.reportsLoss event)
          rolloverSessionDroppedBytes := some 0
          rolloverReportedLoss := some false }) :=
      ⟨fun _ hopen hknown => triple_appendV2BufferStatus_outcome hopen hknown,
        callInvariant_backed.appendV2BufferStatus⟩
    apply triple_bind hadmitting.triple
    intro admission
    refine triple_require_bind (fun _ _ => trivial) ?_
    intro _
    refine triple_pure ?_
    rintro s ⟨next, ended, files, hlands, htelemetry, hactive, hat, _⟩
    refine ⟨_, .mk (hsame.trans hreceiving) hlands htelemetry hactive, rfl, ?_⟩
    rw [RecordedAt, handle_countStatus]
    exact hat
  · intro r s h
    refine h.mono ?_
    rintro c' ⟨c₁, hpath, hreported⟩
    exact .status hpath hreported

end Events

section Actions

variable {cfg : StoreConfig} {depth : ℕ} {c : Recording}

theorem Arrives.path {r : EvidenceRecorder} {s : Store}
    (h : Arrives cfg (RecordingStep c) r s) : Arrives cfg (RecordingPath c) r s :=
  h.mono fun _ hstep => .single hstep

/-- A path from where a path led. -/
theorem Arrives.trans {c₁ : Recording} {r : EvidenceRecorder} {s : Store}
    (hpath : RecordingPath c c₁) (h : Arrives cfg (RecordingPath c₁) r s) :
    Arrives cfg (RecordingPath c) r s :=
  h.mono fun _ hpath' => hpath.trans hpath'

/-- A record the recorder preflights is admitted by quiet steps.  Where the answer was no
the append does not roll over; where it was yes the line state was flushed. -/
theorem triple_admitPreflighted {call : PreflightCall}
    (hquiet : ∀ event result rollover, call ≠ .uartReceive event result rollover)
    (hoverflow : ∀ event dropped rollover, call ≠ .bufferOverflow event dropped rollover)
    (hstatus : ∀ event integrity, call ≠ .bufferStatus event integrity) :
    Triple (RecordedAt cfg c) (admitPreflighted cfg depth c.recorder call)
      (Arrives cfg (RecordingPath c)) (fun _ _ => True) := by
  have hadmitting : ∀ c₁ : Recording,
      Admitting cfg c₁ QuietRecord (call.append cfg depth c₁.recorder.handle) := fun c₁ =>
    ⟨fun _ hopen hknown => triple_preflightCall_outcome hquiet hoverflow hstatus hopen hknown,
      call.keeps_append⟩
  apply triple_bind (triple_preflight_at call)
  intro willRollover
  apply triple_exists
  intro st
  apply triple_assume (fun _ h => h.1)
  intro hdecides
  cases willRollover with
  | false =>
    -- The preflight answers no only where the append does not roll over.
    show Triple _ (call.append cfg depth c.recorder.handle >>= fun admission =>
      pure (c.recorder.adopt admission)) _ _
    apply triple_bind (triple_conseq
      (triple_and (hdecides depth) (hadmitting c).triple) (fun _ h => h.2) (fun _ _ h => h)
      fun _ _ _ => trivial)
    intro admission
    refine triple_pure ?_
    rintro s ⟨hfollowed, hadmits⟩
    refine Arrives.path (hadmits.step true fun _ hrolled => ?_)
    rw [hfollowed.1] at hrolled
    cases hrolled
  | true =>
    refine triple_bind_arrives (triple_conseq (triple_flushIf true) (fun _ h => h.2.2)
      (fun _ _ h => h) fun _ _ h => h) ?_
    intro c₁ hpath hflushed
    apply triple_bind (triple_follow (hadmitting c₁) true fun _ => hflushed.1 rfl)
    intro admission
    exact triple_pure fun s h => h.path.trans hpath

theorem triple_admitAction (call : AuditCall) :
    Triple (RecordedAt cfg c) (admitAction cfg depth c.recorder call)
      (Arrives cfg (RecordingPath c)) (fun _ _ => True) := by
  refine triple_admitPreflighted ?_ ?_ ?_ <;> cases call <;> intros <;>
    simp [AuditCall.toCall]

theorem triple_startMonitorOperation {operationId : String}
    {operationType : OperationType} {parameters : Json} :
    Triple (RecordedAt cfg c)
      (startMonitorOperation cfg depth c.recorder operationId operationType parameters)
      (Arrives cfg (RecordingPath c)) (fun _ _ => True) :=
  triple_admitPreflighted (by simp) (by simp) (by simp)

theorem arrives_refl {s : Store} (h : RecordedAt cfg c s) :
    Arrives cfg (RecordingPath c) c.recorder s := ⟨c, .refl, rfl, h⟩

theorem triple_completeMonitorOperation {operationId : String}
    {result : OperationResult} :
    Triple (RecordedAt cfg c) (completeMonitorOperation cfg depth c.recorder operationId result)
      (Arrives cfg (RecordingPath c)) (fun _ _ => True) := by
  apply triple_bind triple_sessionFiles_at
  intro files
  apply triple_assume (fun _ h => h.1)
  rintro rfl
  split
  · exact triple_conseq (triple_admitPreflighted (by simp) (by simp) (by simp))
      (fun _ h => h.2) (fun _ _ h => h) fun _ _ h => h
  · exact triple_pure fun _ h => arrives_refl h.2

theorem triple_connectionEvent {eventType : String} :
    Triple (RecordedAt cfg c) (connectionEvent cfg depth c.recorder eventType)
      (Arrives cfg (RecordingPath c)) (fun _ _ => True) := by
  apply triple_bind (triple_follow (admitting_connectionEvent) false fun h => by cases h)
  intro admission
  exact triple_pure fun _ h => h.path

theorem triple_connectionEventIfActive {eventType : String} :
    Triple (RecordedAt cfg c) (connectionEventIfActive cfg depth c.recorder eventType)
      (Arrives cfg (RecordingPath c)) (fun _ _ => True) := by
  apply triple_bind triple_sessionFiles_at
  intro files
  split
  · exact triple_conseq (triple_connectionEvent) (fun _ h => h.2) (fun _ _ h => h)
      fun _ _ h => h
  · exact triple_pure fun _ h => arrives_refl h.2

theorem triple_finishRelease :
    Triple (RecordedAt cfg c) (finishRelease cfg depth c.recorder)
      (Arrives cfg (RecordingPath c)) (fun _ _ => True) := by
  refine triple_bind_arrives (triple_flushLineState false fun h => by cases h) ?_
  intro c₁ hpath _
  exact triple_conseq (triple_connectionEvent) (fun _ h => h) (fun _ _ h => h.trans hpath)
    fun _ _ h => h

/-- A recorder without line state stays without. -/
theorem triple_follow_clean {m : StoreProg V2EvidenceAdmission}
    (hm : Admitting cfg c QuietRecord m) (hclean : c.recorder.processor = {}) :
    Triple (RecordedAt cfg c)
      (do
        let admission ← m
        pure (c.recorder.adopt admission))
      (fun r s => r.processor = {} ∧ Arrives cfg (RecordingPath c) r s) (fun _ _ => True) := by
  apply triple_bind (triple_follow hm true fun _ => hclean)
  intro admission
  exact triple_pure fun s h =>
    ⟨(sameConnection_follow c.recorder true admission).processor.trans hclean, h.path⟩

theorem triple_recordDisconnect {error : String}
    {timeoutS : Json} :
    Triple (RecordedAt cfg c) (recordDisconnect cfg depth c.recorder error timeoutS)
      (Arrives cfg (RecordingPath c)) (fun _ _ => True) := by
  refine triple_bind_arrives (triple_flushLineState false fun h => by cases h) ?_
  intro c₁ hpath₁ hflushed
  refine triple_bind_follow admitting_connectionEvent true (fun _ => hflushed.1) ?_
  intro admission c₂ hstep₂ hrecorder₂
  have hclean₂ : c₂.recorder.processor = {} := by
    rw [← hrecorder₂]
    exact (sameConnection_follow c₁.recorder true admission).processor.trans hflushed.1
  have hadopted : c₁.recorder.adopt admission = c₂.recorder := hrecorder₂
  simp only [hadopted]
  apply triple_bind (triple_follow (admitting_connectionEvent) true fun _ => hclean₂)
  intro reconnectStarted
  refine triple_pure fun s h => ?_
  have hclean₃ : (c₂.recorder.adopt reconnectStarted).processor = {} :=
    (sameConnection_follow c₂.recorder true reconnectStarted).processor.trans hclean₂
  -- The flush left no line state, so there is none to drop after a rollover.
  have hrecorder₃ : { c₂.recorder.adopt reconnectStarted with
      processor := if reconnectStarted.rolledOver then {}
        else (c₂.recorder.adopt reconnectStarted).processor } =
      c₂.recorder.adopt reconnectStarted := by
    rw [hclean₃, ite_self, ← hclean₃]
  rw [hrecorder₃]
  exact h.path.trans (hpath₁.tail hstep₂)

theorem triple_disconnectOperations (operationIds : List String) :
    Triple (RecordedAt cfg c) (disconnectOperations cfg depth c.recorder operationIds)
      (Arrives cfg (RecordingPath c)) (fun _ _ => True) := by
  induction operationIds generalizing c with
  | nil => exact triple_pure fun _ h => arrives_refl h
  | cons operationId rest ih =>
    refine triple_bind_follow admitting_completeOperation false (fun h => by cases h) ?_
    intro admission c₁ hstep hrecorder
    have hpublished : c.recorder.publishAdmission admission = c₁.recorder := hrecorder
    rw [hpublished]
    exact triple_conseq ih (fun _ h => h) (fun _ _ h => h.trans (.single hstep)) fun _ _ h => h

end Actions

section Connections

variable {cfg : StoreConfig} {depth : ℕ} {c : Recording}

/-- The session of the recording is failed; retention may delete it then. -/
theorem triple_failSession_at {endReason errorCode detail : String} :
    Triple (RecordedAt cfg c) (failSession cfg c.recorder.handle endReason errorCode detail)
      (fun _ => Arrives cfg (RecordingStep c) c.recorder) (fun _ _ => True) := by
  refine triple_require_bind (fun _ _ => trivial) ?_
  intro _
  let t : Terminal :=
    { state := .failed, endReason := endReason, error := some (boundedError errorCode detail) }
  have hfailed : t.state ≠ .active := by
    show SessionState.failed ≠ .active
    decide
  have hended : Triple (RecordedAt cfg c) (terminalizeSession cfg c.recorder.handle t)
      (fun _ s => ∃ prior, EndedFiles c.files prior ∧ s.history c.recorder.handle = some prior)
      (fun _ _ => True) := by
    apply triple_bind (triple_terminalize_ended (Q := fun s => ∃ prior, EndedFiles c.files prior ∧
      s.history c.recorder.handle = some prior) (fun s n h => h.sameButClock rfl) ?_)
    · intro _
      -- Retention may delete the session; the history still has it.
      refine triple_conseq (keeps_applyRetention ?_) (fun _ h => h) (fun _ _ h => h)
        fun _ _ _ => trivial
      rintro s e hget _ ⟨prior, hprior, hhistory⟩
      exact ⟨prior, hprior, by rw [history_removeSession hget]; exact hhistory⟩
    · rintro s s' files m₁ m₂ endedAt hat hget hmutator hown hsessions hremoved _
      cases hmutator
      cases (history_of_get? hget).symm.trans hat.history
      refine ⟨c.files.withMetadata (terminalMetadata t endedAt m₂),
        endedFiles_of_relinquished hown hfailed rfl rfl rfl, ?_⟩
      rw [history_set hsessions hremoved, if_pos rfl]
  have hcalls : CallInvariant cfg 0
      (Backed cfg c.ended (c.ended.map Prod.fst ++ [c.recorder.handle])) := callInvariant_backed
  have hkeeps : Keeps (Backed cfg c.ended (c.ended.map Prod.fst ++ [c.recorder.handle]))
      (terminalizeSession cfg c.recorder.handle t) :=
    hcalls.terminalizeSession hfailed
  refine triple_conseq (triple_and hended hkeeps) (fun _ h => ⟨h, h.backed⟩) ?_
    fun _ _ _ => trivial
  rintro _ s ⟨⟨prior, hprior, hhistory⟩, hbacked⟩
  exact ⟨_, .failed hprior, rfl, sessionAt_ended hbacked hhistory hprior.ended⟩

theorem triple_reconnectTimedOut {reason : String} :
    Triple (RecordedAt cfg c) (reconnectTimedOut cfg depth c.recorder reason)
      (Arrives cfg (RecordingPath c)) (fun _ _ => True) := by
  refine triple_bind_follow admitting_connectionEvent false (fun h => by cases h) ?_
  intro admission c₁ hstep hrecorder
  have hpublished : c.recorder.publishAdmission admission = c₁.recorder := hrecorder
  simp only [hpublished]
  apply triple_bind triple_sessionFiles_at
  intro files
  refine triple_bind_arrives (A := fun _ => True) (triple_conseq
    (triple_disconnectOperations _) (fun _ h => h.2) (fun _ _ h => ⟨trivial, h⟩)
    fun _ _ h => h) ?_
  intro c₂ hpath _
  apply triple_bind (triple_failSession_at)
  intro _
  exact triple_pure fun s h => (h.path.trans hpath).trans (.single hstep)

/-- A segment was published for the session of the recording or its successor. -/
theorem triple_appendV2Segment_at {snapshot : BackendSnapshot} :
    Triple (RecordedAt cfg c) (appendV2Segment cfg depth c.recorder.handle snapshot)
      (fun id s => ∃ rolledOver next files backend ended,
        (Lands c c.backend rolledOver id next ended ∧ SegmentOpened next files ∨
          Lands c backend true id files ended) ∧
        backend.integrity = snapshot.integrity ∧ files.metadata.state = .active ∧
        SessionAt cfg ended id files backend s)
      (fun _ _ => True) := by
  refine ⟨fun st hst => ?_⟩
  have hkeeps : Keeps (Backed cfg c.ended (c.ended.map Prod.fst ++ [c.recorder.handle]))
      (appendV2Segment cfg depth c.recorder.handle snapshot) :=
    callInvariant_backed.appendV2Segment fun _ h => segments_of_sound h.sound
  refine (triple_conseq (triple_and
    (triple_appendV2Segment_outcome hst.backed.allOpenHere hst.known) hkeeps) (fun _ h => h) ?_
    fun _ _ _ => trivial).ended st ⟨rfl, hst.backed⟩
  rintro id s ⟨⟨rolledOver, next, prior, files, backend, hlanded, hbackend, hactive, hholds⟩,
    hbacked⟩
  rcases hlanded with ⟨hlanded, hopened⟩ | hlanded
  · obtain ⟨ended, hlands, hat, _⟩ := hlanded.lands hbacked hholds hactive
    exact ⟨rolledOver, next, files, backend, ended, .inl ⟨hlands, hopened⟩, hbackend, hactive, hat⟩
  · obtain ⟨ended, hlands, hat, _⟩ := hlanded.lands hbacked hholds hactive
    exact ⟨true, next, files, backend, ended, .inr hlands, hbackend, hactive, hat⟩

/-- A created session is fresh. -/
theorem triple_createV2Session_fresh (ended : List (SessionId × SessionFiles))
    {profile : DutProfile} {snapshot : BackendSnapshot} :
    Triple (Backed cfg ended (ended.map Prod.fst)) (createV2Session cfg profile snapshot)
      (fun id s => ∃ files, Fresh id snapshot files ∧ SessionAt cfg ended id files snapshot s)
      (fun _ _ => True) := by
  refine ⟨fun st hst => ?_⟩
  have hcall : Keeps (Backed cfg ended (ended.map Prod.fst))
      (runCall cfg 0 (.createV2Session profile snapshot)) := keeps_call _
  refine (triple_conseq (triple_and (triple_create_replaced st) (keeps_of_dropResult hcall))
    (fun _ h => h) ?_ fun _ _ _ => trivial).ended st ⟨⟨rfl, rfl, rfl⟩, hst⟩
  rintro id s ⟨⟨_, n, startedAt, rfl, _, _, hreplaced⟩, hbacked⟩
  have hfresh := fresh_created cfg n startedAt profile snapshot none
  have hget := history_of_get? hreplaced.session
  have hsnapshot : s.v2Snapshots.get? (newSessionId startedAt (cfg.idFactory n)) =
      some snapshot := by
    rw [hreplaced.snapshots]
    exact Dict.get?_set_self _ _ _
  refine ⟨_, hfresh, hbacked.current hget hfresh.active, hget, fun f hf _ => ?_⟩
  cases hf.symm.trans hreplaced.session
  exact ⟨rfl, hsnapshot⟩

/-! ## Replacements -/

theorem Fresh.blank {id : SessionId} {backend : BackendSnapshot} {f : SessionFiles}
    (h : Fresh id backend f) : Blank backend f :=
  ⟨h.noUart, by simp [h.noHardware], h.noPatterns, h.backendIntegrity, h.oversizedLineCount,
    h.segments⟩

theorem Blank.quiet {backend : BackendSnapshot} {f f' : SessionFiles}
    {admission : V2EvidenceAdmission} (h : Blank backend f) (hquiet : QuietRecord f admission f') :
    Blank backend f' := by
  obtain ⟨rs, hhardware, hrs⟩ := hquiet.hardware
  refine ⟨⟨hquiet.uart.1.trans h.noUart.1, hquiet.uart.2.trans h.noUart.2⟩, fun r hr => ?_,
    hquiet.patterns.trans h.noPatterns, hquiet.backendIntegrity.trans h.backendIntegrity,
    hquiet.oversizedLineCount.trans h.oversizedLineCount, hquiet.segments.trans h.segments⟩
  rw [hhardware] at hr
  rcases List.mem_append.mp hr with hr | hr
  · exact h.noTelemetry r hr
  · exact hrs r hr

theorem Blank.ended {backend : BackendSnapshot} {f prior : SessionFiles}
    (h : Blank backend f) (hended : EndedFiles f prior) : Blank backend prior := by
  obtain ⟨hevidence, _, hintegrity, hoversized, hsegments⟩ := hended
  rw [hevidence]
  exact ⟨h.noUart, h.noTelemetry, h.noPatterns, hintegrity.trans h.backendIntegrity,
    hoversized.trans h.oversizedLineCount, hsegments.trans h.segments⟩

/-- What publishing the segment of a replacement leaves. -/
inductive Published (snapshot : BackendSnapshot) (c : Recording) :
    Bool → Recording → Prop where
  | segment {rolledOver : Bool} {id : SessionId} {next files : SessionFiles}
      {backend : BackendSnapshot} {ended : List (SessionId × SessionFiles)}
      (hlands : Lands c c.backend rolledOver id next ended ∧ SegmentOpened next files ∨
        Lands c backend true id files ended)
      (hbackend : backend.integrity = snapshot.integrity)
      (hactive : files.metadata.state = .active) :
      Published snapshot c false
        ⟨{ c.recorder with handle := id }, files, backend, ended⟩
  | session {r : EvidenceRecorder} {resetMissed lineCut : Bool} {id : SessionId}
      {storedSegmentId : ℕ} {tail : EvidenceCursor} {files : SessionFiles}
      {backend : BackendSnapshot} (hended : c.files.metadata.state ≠ .active)
      (hblank : Blank backend files) (hbackend : backend.integrity = snapshot.integrity)
      (hr : r = { c.recorder with
        handle := id
        storedSegmentId := storedSegmentId
        tail := tail
        resetMissed := resetMissed
        lineCut := lineCut }) :
      Published snapshot c true
        ⟨r, files, backend, c.ended ++ [(c.recorder.handle, c.files)]⟩

theorem Published.opened {snapshot : BackendSnapshot} {newOwnershipSession : Bool}
    {c' : Recording} {manual : Bool} (h : Published snapshot c newOwnershipSession c')
    (hfree : c.recorder.receiving = false ∧ c.recorder.replacement = none) :
    Opened snapshot manual c
      { c' with
        recorder := c'.recorder.opened c'.recorder.handle
          ⟨snapshot, manual, c.recorder.handle, newOwnershipSession⟩ c'.files } := by
  cases h with
  | segment hlands hbackend hactive => exact .segment hfree hlands hbackend hactive
  | session hended hblank hbackend hr =>
    rw [hr]
    exact .session hfree hended hblank hbackend

theorem triple_publishReplacement {replacement : Replacement}
    (hnew : replacement.newOwnershipSession = true → c.files.metadata.state ≠ .active) :
    Triple (RecordedAt cfg c) (publishReplacement cfg depth c.recorder replacement)
      (Arrives cfg (Published replacement.snapshot c replacement.newOwnershipSession))
      (fun _ _ => True) := by
  unfold publishReplacement
  split
  · rename_i hsession
    rw [hsession]
    have hended := hnew hsession
    have hleaves : ∀ s, RecordedAt cfg c s → Backed cfg (c.ended ++ [(c.recorder.handle, c.files)])
        ((c.ended ++ [(c.recorder.handle, c.files)]).map Prod.fst) s := by
      intro s h
      rw [List.map_append]
      exact h.backed.push h.history hended
    apply triple_bind (triple_conseq (triple_createV2Session_fresh _) hleaves (fun _ _ h => h)
      fun _ _ h => h)
    intro id
    apply triple_exists
    intro files
    apply triple_assume (fun _ h => h.1)
    intro hfresh
    -- The recording right before the first fact of the new session.
    let c₁ : Recording :=
      ⟨{ c.recorder with handle := id, storedSegmentId := 0 }, files,
        replacement.snapshot.withSegmentId 0, c.ended ++ [(c.recorder.handle, c.files)]⟩
    have hconnected : Admitting cfg c₁ QuietRecord
        (appendV2ConnectionEvent cfg depth id "reacquire_started" (some 0) (.obj [])) :=
      admitting_connectionEvent
    refine triple_bind (R := fun r s => (∃ admission, r = c₁.recorder.publishAdmission admission) ∧
      ∃ f, Blank (replacement.snapshot.withSegmentId 0) f ∧
        SessionAt cfg (c.ended ++ [(c.recorder.handle, c.files)]) id f
          (replacement.snapshot.withSegmentId 0) s) ?_ ?_
    · apply triple_bind (triple_conseq hconnected.triple (fun _ h => h.2) (fun _ _ h => h)
        fun _ _ h => h)
      intro admission
      refine triple_pure ?_
      rintro s ⟨next, ended, f, hlands, hquiet, hactive, hat, hleft⟩
      refine ⟨⟨admission, rfl⟩, ?_⟩
      generalize hrolled : admission.rolledOver = rolledOver at hlands
      generalize hid : admission.sessionId = session at hlands hat
      cases hlands with
      | same => exact ⟨f, hfresh.blank.quiet hquiet, hat⟩
      | successor hne hfresh' hprior =>
        -- The fact rolled over: the recorder still goes on with the session it created.
        refine ⟨_, hfresh.blank.ended hprior.toEndedFiles, sessionAt_ended (hat.backed.anti
          (fun e he => List.mem_append_left _ he) ?_) ?_ hprior.ended⟩
        · rw [@List.map_append _ _ _ _ [(id, _)]]
          exact List.sublist_append_left _ _
        · exact hleft _ rfl
    · intro r
      refine triple_pure ?_
      rintro s ⟨⟨admission, rfl⟩, f, hblank, hat⟩
      exact ⟨_, .session hended hblank rfl rfl, rfl, hat⟩
  · rename_i hsegment
    rw [Bool.not_eq_true] at hsegment
    rw [hsegment]
    apply triple_bind (triple_appendV2Segment_at)
    intro id
    refine triple_pure ?_
    rintro s ⟨rolledOver, next, files, backend, ended, hlands, hbackend, hactive, hat⟩
    exact ⟨_, .segment hlands hbackend hactive, rfl, hat⟩

theorem triple_openReplacement {snapshot : BackendSnapshot}
    {manual : Bool} :
    Triple (RecordedAt cfg c) (openReplacement cfg depth c.recorder snapshot manual)
      (Arrives cfg (Opened snapshot manual c)) (fun _ _ => True) := by
  refine triple_require_bind (fun _ _ => trivial) ?_
  intro _
  refine triple_require_bind (fun _ _ => trivial) ?_
  rintro ⟨hreceiving, hnone⟩
  apply triple_bind triple_sessionFiles_at
  intro files
  apply triple_assume (fun _ h => h.1)
  rintro rfl
  refine triple_bind_arrives (A := fun _ => True) (triple_conseq
    (triple_publishReplacement ?_) (fun _ h => h.2) (fun _ _ h => ⟨trivial, h⟩)
    fun _ _ h => h) ?_
  · intro hnew
    simpa using (Bool.and_eq_true_iff.mp hnew).2
  intro c₁ hpublished _
  apply triple_bind triple_sessionFiles_at
  intro files
  apply triple_assume (fun _ h => h.1)
  rintro rfl
  refine triple_require_bind (fun _ _ => trivial) ?_
  intro _
  exact triple_pure fun s h => ⟨_, hpublished.opened ⟨hreceiving, by simpa using hnone⟩,
    rfl, h.2⟩

@[simp] theorem handle_connect (r : EvidenceRecorder) (replacement : Replacement)
    (storedSegmentId : ℕ) : (r.connect replacement storedSegmentId).handle = r.handle := by
  simp only [EvidenceRecorder.connect]
  split <;> rfl

theorem triple_connectReplacement :
    Triple (RecordedAt cfg c) (connectReplacement cfg depth c.recorder)
      (Arrives cfg (Performs .connectReplacement c)) (fun _ _ => True) := by
  unfold connectReplacement
  split
  · exact triple_raise fun _ _ => trivial
  · rename_i replacement hreplacement
    apply triple_bind (admitting_connectionEvent).triple
    intro connected
    refine triple_of_exists (fun c₁ s => (RecordingStep c c₁ ∧
        c₁.recorder = c.recorder.publishAdmission connected ∧
        c₁.files.metadata.state = .active) ∧ RecordedAt cfg c₁ s) ?_ ?_
    · rintro s ⟨next, ended, files, hlands, hquiet, hactive, hat, _⟩
      have hfalse : false = true → connected.rolledOver = true → c.recorder.processor = {} :=
        fun h => by cases h
      exact ⟨_, ⟨.quiet hlands hquiet hactive hfalse, rfl, hactive⟩, hat⟩
    · intro c₁
      apply triple_assume (fun _ h => h.1)
      rintro ⟨hstep, hrecorder, hactive⟩
      have hhandle : connected.sessionId = c₁.recorder.handle := by
        rw [hrecorder]
        rfl
      rw [hhandle]
      apply triple_bind (triple_conseq triple_sessionFiles_at (fun _ h => h.2) (fun _ _ h => h)
        fun _ _ h => h)
      intro files
      apply triple_assume (fun _ h => h.1)
      rintro rfl
      refine triple_require_bind (fun _ _ => trivial) ?_
      intro _
      refine triple_pure fun s h => ⟨_, .connectReplacement (.single hstep)
        (.mk ((congrArg EvidenceRecorder.replacement hrecorder).trans hreplacement) hactive), ?_,
        ?_⟩
      · rw [hrecorder]
      · rw [RecordedAt, handle_connect]
        exact h.2

end Connections

/-! ## Attachment -/

section Attachment

variable {cfg : StoreConfig} {depth : ℕ} {r : EvidenceRecorder}

/-- However it ends, a program that returns a recorder returns one so attached. -/
abbrev Attaches (m : StoreProg EvidenceRecorder) (attached : Bool) : Prop :=
  Triple (fun _ => True) m (fun r _ => r.receiving = attached) (fun _ _ => True)

/-- Whatever comes first, the rest decides. -/
theorem attaches_bind {α : Type} {m : StoreProg α} {k : α → StoreProg EvidenceRecorder}
    {attached : Bool} (hk : ∀ a, Attaches (k a) attached) : Attaches (m >>= k) attached :=
  triple_bind (triple_trivial m) hk

theorem attaches_pure {attached : Bool} (h : r.receiving = attached) :
    Attaches (pure r) attached := triple_pure fun _ _ => h

theorem receiving_follow (r : EvidenceRecorder) (reset : Bool) (admission : V2EvidenceAdmission) :
    (r.follow reset admission).receiving = r.receiving :=
  (sameConnection_follow r reset admission).receiving

theorem attaches_flushLineState : Attaches (flushLineState cfg depth r) r.receiving := by
  simp only [flushLineState]
  split
  · exact attaches_pure rfl
  · refine attaches_bind fun admissions => attaches_pure ?_
    exact (sameConnection_adopts { r with processor := {}, lineCut := true } admissions).receiving

/-- A program that goes on after a flush. -/
theorem attaches_flushed {willRollover : Bool} {k : EvidenceRecorder → StoreProg EvidenceRecorder}
    {attached : Bool} (hk : ∀ r', r'.receiving = r.receiving → Attaches (k r') attached) :
    Attaches (flushIf cfg depth willRollover r >>= k) attached := by
  refine triple_bind (R := fun r' _ => r'.receiving = r.receiving) ?_ ?_
  · unfold flushIf
    split
    · exact attaches_flushLineState
    · exact attaches_pure rfl
  · intro r'
    exact triple_assume (fun _ h => h) fun h =>
      triple_conseq (hk r' h) (fun _ _ => trivial) (fun _ _ h => h) fun _ _ h => h

theorem attaches_admitPreflighted (call : PreflightCall) :
    Attaches (admitPreflighted cfg depth r call) r.receiving :=
  attaches_bind fun _ => attaches_flushed fun r' h => attaches_bind fun admission =>
    attaches_pure ((receiving_follow r' true admission).trans h)

theorem attaches_connectionEvent (eventType : String) :
    Attaches (connectionEvent cfg depth r eventType) r.receiving :=
  attaches_bind fun _ => attaches_pure rfl

theorem attaches_connectionEventIfActive (eventType : String) :
    Attaches (connectionEventIfActive cfg depth r eventType) r.receiving := by
  refine attaches_bind fun files => ?_
  split
  · exact attaches_connectionEvent eventType
  · exact attaches_pure rfl

theorem attaches_disconnectOperations (operationIds : List String) :
    Attaches (disconnectOperations cfg depth r operationIds) r.receiving := by
  induction operationIds generalizing r with
  | nil => exact attaches_pure rfl
  | cons operationId rest ih =>
    exact attaches_bind fun admission => ih (r := r.publishAdmission admission)

theorem receiving_connect (r : EvidenceRecorder) (replacement : Replacement)
    (storedSegmentId : ℕ) : (r.connect replacement storedSegmentId).receiving = true := by
  simp only [EvidenceRecorder.connect]
  split <;> rfl

theorem attaches_publishReplacement (replacement : Replacement) :
    Attaches (publishReplacement cfg depth r replacement) r.receiving := by
  unfold publishReplacement
  split
  · refine attaches_bind fun id => triple_bind (attaches_connectionEvent "reacquire_started") ?_
    exact fun r' => triple_pure fun _ h => h
  · exact attaches_bind fun id => attaches_pure rfl

/-- A call detaches or attaches the source as its kind says. -/
theorem attaches_runRecorderCall (call : RecorderCall) :
    Attaches (runRecorderCall cfg depth r call) (call.attachedAfter r.receiving) := by
  cases call with
  | uart event =>
    refine triple_ite (fun _ => ?_) fun _ => attaches_pure rfl
    exact attaches_bind fun _ => attaches_flushed fun r' h => attaches_bind fun admission =>
      attaches_pure ((receiving_follow _ true admission).trans h)
  | overflow event =>
    refine triple_ite (fun _ => ?_) fun _ => attaches_pure rfl
    refine attaches_bind fun _ => attaches_flushed fun r' h => attaches_bind fun admission => ?_
    refine attaches_pure ?_
    unfold EvidenceRecorder.countOverflow
    split <;> exact h
  | status event =>
    refine triple_ite (fun _ => ?_) fun _ => attaches_pure rfl
    refine attaches_bind fun _ => attaches_flushed fun r' h => attaches_bind fun admission =>
      attaches_bind fun _ => ?_
    refine attaches_pure ?_
    unfold EvidenceRecorder.countStatus
    split <;> exact h
  | action call => exact attaches_admitPreflighted call.toCall
  | startOperation => exact attaches_admitPreflighted _
  | completeOperation operationId result =>
    refine attaches_bind fun files => ?_
    split
    · exact attaches_admitPreflighted _
    · exact attaches_pure rfl
  | requestRelease => exact attaches_connectionEvent _
  | finishRelease =>
    refine triple_bind (attaches_flushLineState (r := { r with receiving := false })) fun r' => ?_
    exact triple_assume (fun _ h => h) fun h => triple_conseq (attaches_connectionEvent _)
      (fun _ _ => trivial) (fun _ _ h' => h'.trans h) fun _ _ h => h
  | disconnect error timeoutS =>
    refine triple_bind (attaches_flushLineState (r := { r with receiving := false })) fun r' => ?_
    refine triple_assume (fun _ h => h) fun h => triple_conseq ?_ (fun _ _ => trivial)
      (fun _ _ h => h) fun _ _ h => h
    refine attaches_bind fun admission => attaches_bind fun reconnectStarted => attaches_pure ?_
    exact (receiving_follow _ true reconnectStarted).trans
      ((receiving_follow r' true admission).trans h)
  | beginReacquire => exact attaches_connectionEventIfActive _
  | reacquireFailed => exact attaches_connectionEventIfActive _
  | openReplacement snapshot manual =>
    refine attaches_bind fun _ => attaches_bind fun _ => attaches_bind fun files => ?_
    refine triple_bind (attaches_publishReplacement _) fun r' => ?_
    refine triple_assume (fun _ h => h) fun h => triple_conseq ?_ (fun _ _ => trivial)
      (fun _ _ h => h) fun _ _ h => h
    exact attaches_bind fun _ => attaches_bind fun _ => attaches_pure h
  | connectReplacement =>
    show Attaches (connectReplacement cfg depth r) true
    unfold connectReplacement
    split
    · exact triple_raise fun _ _ => trivial
    · exact attaches_bind fun _ => attaches_bind fun _ => attaches_bind fun _ =>
        attaches_pure (receiving_connect _ _ _)
  | reconnectTimedOut reason =>
    refine attaches_bind fun admission => attaches_bind fun files => ?_
    refine triple_bind (attaches_disconnectOperations _) fun r' => ?_
    refine triple_assume (fun _ h => h) fun h => triple_conseq ?_ (fun _ _ => trivial)
      (fun _ _ h => h) fun _ _ h => h
    exact attaches_bind fun _ => attaches_pure h

end Attachment

/-! ## Runs -/

section Runs

variable {cfg : StoreConfig} {depth : ℕ} {c : Recording}

/-- What a call does to the store and the recorder is what it does to the recording. -/
theorem triple_runRecorderCall (call : RecorderCall) :
    Triple (RecordedAt cfg c) (runRecorderCall cfg depth c.recorder call)
      (Arrives cfg (Performs call c)) (fun _ _ => True) := by
  have hpath : call.isEvent = false → call ≠ .connectReplacement →
      ∀ {m : StoreProg EvidenceRecorder},
        Triple (RecordedAt cfg c) m (Arrives cfg (RecordingPath c)) (fun _ _ => True) →
        Triple (RecordedAt cfg c) m (Arrives cfg (Performs call c)) (fun _ _ => True) :=
    fun hevent hconnect _ hm => triple_conseq hm (fun _ h => h)
      (fun _ _ h => h.mono fun _ hc => .other hevent hconnect hc) fun _ _ h => h
  have hevent : call.isEvent = true → ∀ {m : StoreProg EvidenceRecorder},
      (c.recorder.receiving = true →
        Triple (RecordedAt cfg c) m (Arrives cfg (Performs call c)) (fun _ _ => True)) →
      Triple (RecordedAt cfg c) (if c.recorder.receiving then m else pure c.recorder)
        (Arrives cfg (Performs call c)) (fun _ _ => True) := by
    intro hcall m hm
    refine triple_ite hm fun hnot => triple_pure fun s h => ⟨c, .ignored hcall ?_, rfl, h⟩
    exact Bool.not_eq_true _ ▸ hnot
  cases call with
  | uart event => exact hevent rfl (triple_recordUart)
  | overflow event => exact hevent rfl (triple_recordOverflow)
  | status event => exact hevent rfl (triple_recordStatus)
  | action call => exact hpath rfl (by simp) (triple_admitAction call)
  | startOperation => exact hpath rfl (by simp) (triple_startMonitorOperation)
  | completeOperation => exact hpath rfl (by simp) (triple_completeMonitorOperation)
  | requestRelease => exact hpath rfl (by simp) (triple_connectionEvent)
  | finishRelease => exact hpath rfl (by simp) (triple_finishRelease)
  | disconnect => exact hpath rfl (by simp) (triple_recordDisconnect)
  | beginReacquire => exact hpath rfl (by simp) (triple_connectionEventIfActive)
  | reacquireFailed => exact hpath rfl (by simp) (triple_connectionEventIfActive)
  | openReplacement =>
    exact triple_conseq (triple_openReplacement) (fun _ h => h)
      (fun _ _ h => h.mono fun _ hc => .openReplacement hc) fun _ _ h => h
  | connectReplacement => exact triple_connectReplacement
  | reconnectTimedOut => exact hpath rfl (by simp) (triple_reconnectTimedOut)

/-- A run of the recorder over the store is a run of the recording. -/
theorem triple_runRecorder (calls : List RecorderCall) :
    Triple (RecordedAt cfg c) (runRecorder cfg depth c.recorder calls)
      (Arrives cfg (PerformsAll calls c)) (fun _ _ => True) := by
  induction calls generalizing c with
  | nil => exact triple_pure fun _ h => ⟨c, .nil c, rfl, h⟩
  | cons call calls ih =>
    show Triple _ (runRecorderCall cfg depth c.recorder call >>= fun r =>
      runRecorder cfg depth r calls) _ _
    have hcall : Triple (RecordedAt cfg c) (runRecorderCall cfg depth c.recorder call)
        (fun r s => r.receiving = call.attachedAfter c.recorder.receiving ∧
          Arrives cfg (Performs call c) r s) (fun _ _ => True) :=
      triple_conseq (triple_and (attaches_runRecorderCall call)
        (triple_runRecorderCall call)) (fun _ h => ⟨trivial, h⟩) (fun _ _ h => h)
        fun _ _ _ => trivial
    refine triple_bind_arrives hcall ?_
    intro c₁ hperforms hattached
    exact triple_conseq ih (fun _ h => h)
      (fun _ _ h => h.mono fun _ hrest => .cons hperforms hattached hrest) fun _ _ h => h

/-- The recording a recorder starts with: the first session, and in `ended` what a rollover
by its connection fact would leave. -/
inductive Started (profile : DutProfile) (snapshot : BackendSnapshot) : Recording → Prop where
  | mk {id : SessionId} {tail : EvidenceCursor} {files : SessionFiles}
      {ended : List (SessionId × SessionFiles)} (hblank : Blank snapshot files)
      (hended : ∀ e ∈ ended, Blank snapshot e.2) :
      Started profile snapshot
        { recorder :=
            { profile := profile
              handle := id
              tail := tail
              snapshot := snapshot
              integrity := snapshot.integrity
              sessionDroppedBytes := snapshot.integrity.droppedBytes.getD 0
              connectionStartDroppedBytes := snapshot.integrity.droppedBytes.getD 0 }
          files := files
          backend := snapshot
          ended := ended }

theorem triple_startRecorder {profile : DutProfile}
    {snapshot : BackendSnapshot} :
    Triple (fun s => Sound s ∧ AllDrawn cfg s) (startRecorder cfg depth profile snapshot)
      (Arrives cfg (Started profile snapshot)) (fun _ _ => True) := by
  apply triple_bind (triple_conseq (triple_createV2Session_fresh [])
    (fun _ h => ⟨h.1, h.2, fun _ _ he => absurd he List.not_mem_nil, fun _ => List.nodup_nil⟩)
    (fun _ _ h => h) fun _ _ h => h)
  intro id
  apply triple_exists
  intro files
  apply triple_assume (fun _ h => h.1)
  intro hfresh
  let c : Recording :=
    { recorder :=
        { profile := profile
          handle := id
          tail := ⟨id, 0⟩
          snapshot := snapshot
          integrity := snapshot.integrity
          sessionDroppedBytes := 0
          connectionStartDroppedBytes := 0 }
      files := files
      backend := snapshot
      ended := [] }
  have hconnected : Admitting cfg c QuietRecord
      (appendV2ConnectionEvent cfg depth id "connected" (some 0)
        (.obj [("connection_generation", (0 : ℕ))])) := admitting_connectionEvent
  apply triple_bind (triple_conseq hconnected.triple (fun _ h => h.2) (fun _ _ h => h)
    fun _ _ h => h)
  intro connected
  refine triple_pure ?_
  rintro s ⟨next, ended, f, hlands, hquiet, _, hat, _⟩
  generalize hrolled : connected.rolledOver = rolledOver at hlands
  generalize hid : connected.sessionId = session at hlands hat
  cases hlands with
  | same => exact ⟨_, .mk (hfresh.blank.quiet hquiet) (by simp), rfl, hat⟩
  | successor hne hfresh' hprior =>
    refine ⟨_, .mk (hfresh'.blank.quiet hquiet) fun e he => ?_, rfl, hat⟩
    cases List.mem_singleton.mp he
    exact hfresh.blank.ended hprior.toEndedFiles

/-- A recorder that starts on the store and runs its calls. -/
def recordRun (cfg : StoreConfig) (depth : ℕ) (profile : DutProfile) (snapshot : BackendSnapshot)
    (calls : List RecorderCall) : StoreProg EvidenceRecorder := do
  let r ← startRecorder cfg depth profile snapshot
  runRecorder cfg depth r calls

/-- Every run of the recorder that returns performs its calls from a start. -/
theorem performs_recordRun {profile : DutProfile}
    {snapshot : BackendSnapshot} {calls : List RecorderCall} {st st' : Store}
    {r : EvidenceRecorder} (hsound : Sound st) (hdrawn : AllDrawn cfg st)
    (hrun : recordRun cfg depth profile snapshot calls st = (.ok r, st')) :
    ∃ c₀ c, Started profile snapshot c₀ ∧ PerformsAll calls c₀ c ∧ c.recorder = r ∧
      RecordedAt cfg c st' := by
  have htriple : Triple (fun s => Sound s ∧ AllDrawn cfg s)
      (recordRun cfg depth profile snapshot calls)
      (Arrives cfg fun c => ∃ c₀, Started profile snapshot c₀ ∧ PerformsAll calls c₀ c)
      (fun _ _ => True) := by
    refine triple_bind_arrives (A := fun _ => True) (triple_conseq (triple_startRecorder)
      (fun _ h => h) (fun _ _ h => ⟨trivial, h⟩) fun _ _ h => h) ?_
    intro c₀ hstarted _
    exact triple_conseq (triple_runRecorder calls) (fun _ h => h)
      (fun _ _ h => h.mono fun c hperforms => ⟨c₀, hstarted, hperforms⟩) fun _ _ h => h
  obtain ⟨c, ⟨c₀, hstarted, hperforms⟩, hrecorder, hat⟩ := ok_of_triple htriple ⟨hsound, hdrawn⟩ hrun
  exact ⟨c₀, c, hstarted, hperforms, hrecorder, hat⟩

end Runs

/-! A recorder on an enhanced connection, with reports before and after a line. -/

/-- The run returned, and what it left satisfies `p`. -/
def ReturnsWith (p : EvidenceRecorder → Store → Bool) :
    Except StoreException EvidenceRecorder × Store → Bool
  | (.ok r, st) => p r st
  | (.error _, _) => false

theorem exists_of_returnsWith {p : EvidenceRecorder → Store → Bool}
    {run : Except StoreException EvidenceRecorder × Store} (h : ReturnsWith p run = true) :
    ∃ r st, run = (.ok r, st) ∧ p r st = true := by
  obtain ⟨e | r, st⟩ := run
  · cases h
  · exact ⟨r, st, rfl, h⟩

def enhancedProfile : DutProfile := { exampleProfile with backendMode := .enhanced }

def enhancedSnapshot : BackendSnapshot :=
  { exampleSnapshot with
    info := { exampleSnapshot.info with mode := .enhanced }
    integrity := ⟨.noneReported, some debugHelperRxBuffer, some 0⟩ }

def enhancedCalls : List RecorderCall :=
  [.status ⟨0, 1, 64, 0, 0, 5, 1⟩, .uart ⟨0, 2, 0, [66, 10]⟩, .overflow ⟨0, 3, 0, 4⟩,
    .status ⟨0, 4, 64, 0, 0, 12, 2⟩]

theorem recordRun_enhancedCalls :
    ∃ r st', recordRun exampleConfig 1 enhancedProfile enhancedSnapshot enhancedCalls {} =
        (.ok r, st') ∧
      (st'.idsDrawn = 1 ∧ r.resetMissed = false ∧ r.replacement.isNone ∧ r.lineCut = false ∧
        r.integrity.droppedBytes = some 7) := by
  have hok : ReturnsWith (fun r st' => st'.idsDrawn = 1 ∧ r.resetMissed = false ∧
      r.replacement.isNone ∧ r.lineCut = false ∧ r.integrity.droppedBytes = some 7)
      (recordRun exampleConfig 1 enhancedProfile enhancedSnapshot enhancedCalls {}) = true := by
    decide +kernel
  obtain ⟨r, st', hrun, h⟩ := exists_of_returnsWith hok
  exact ⟨r, st', hrun, of_decide_eq_true h⟩
