/-
# Recorded receive data

Whatever the recorder does between two receive events, over rollovers, reconnects and new
sessions, the sessions it went through hold what it was given: every event of an attached
source once, in order, and no other byte.
-/
import DutchMate.RecorderRuns

/-- The receive events that come while a source is attached. -/
def attachedEvents : Bool → List RecorderCall → List UartReceiveEvent
  | _, [] => []
  | true, .uart event :: calls => event :: attachedEvents true calls
  | attached, call :: calls => attachedEvents (call.attachedAfter attached) calls

/-- When, where and what was received, as a record says it. -/
def RecordBody.chunk? : RecordBody → Option (ℕ × ℕ × String)
  | .uartRx _ timestampUs channel dataB64 _ _ => some (timestampUs, channel, dataB64)
  | _ => none

def UartReceiveEvent.chunk (event : UartReceiveEvent) : ℕ × ℕ × String :=
  (event.timestampUs, event.channel, String.ofList (Base64.encode event.data))

def SessionFiles.chunks (f : SessionFiles) : List (ℕ × ℕ × String) :=
  f.uartEvents.filterMap fun r => r.body.chunk?

/-- The bytes and the chunks of a session in the history. -/
def Store.rawOf (st : Store) (id : SessionId) : List UInt8 :=
  ((st.history id).map SessionFiles.uartRaw).getD []

def Store.chunksOf (st : Store) (id : SessionId) : List (ℕ × ℕ × String) :=
  ((st.history id).map SessionFiles.chunks).getD []

/-- In these sessions, one after the other, are these events. -/
structure HoldsEvents (sessions : List (SessionId × SessionFiles))
    (events : List UartReceiveEvent) : Prop where
  raw : (sessions.flatMap fun e => e.2.uartRaw) = events.flatMap UartReceiveEvent.data
  chunks : (sessions.flatMap fun e => e.2.chunks) = events.map UartReceiveEvent.chunk

/-- The sessions of a recording, the current one last. -/
def Recording.sessions (c : Recording) : List (SessionId × SessionFiles) :=
  c.ended ++ [(c.recorder.handle, c.files)]

theorem Recording.map_fst_sessions (c : Recording) :
    c.sessions.map Prod.fst = c.ended.map Prod.fst ++ [c.recorder.handle] := by
  rw [Recording.sessions, List.map_append]
  rfl

theorem mem_sessions_concat {e : SessionId × SessionFiles} {ended : List (SessionId × SessionFiles)}
    {id : SessionId} {f : SessionFiles} (h : e ∈ ended ++ [(id, f)]) : e ∈ ended ∨ e = (id, f) :=
  (List.mem_append.mp h).imp_right List.mem_singleton.mp

/-- Each session of a recording is in the history. -/
theorem RecordedAt.history_sessions {cfg : StoreConfig} {c : Recording} {st : Store}
    (hat : RecordedAt cfg c st) (hids : DistinctIds cfg st.idsDrawn) : ∀ e ∈ c.sessions, st.history e.1 = some e.2 := by
  intro e he
  rcases mem_sessions_concat he with he | rfl
  · exact (hat.backed.kept hids e he).1
  · exact hat.history

/-- The raw bytes of sessions are those of the history. -/
theorem flatMap_rawOf {st : Store} {sessions : List (SessionId × SessionFiles)}
    (h : ∀ e ∈ sessions, st.history e.1 = some e.2) :
    (sessions.map Prod.fst).flatMap st.rawOf = sessions.flatMap fun e => e.2.uartRaw := by
  rw [List.flatMap_map]
  refine List.flatMap_congr fun e he => ?_
  rw [Store.rawOf, h e he]
  rfl

/-- The chunks of sessions are those of the history. -/
theorem flatMap_chunksOf {st : Store} {sessions : List (SessionId × SessionFiles)}
    (h : ∀ e ∈ sessions, st.history e.1 = some e.2) :
    (sessions.map Prod.fst).flatMap st.chunksOf = sessions.flatMap fun e => e.2.chunks := by
  rw [List.flatMap_map]
  refine List.flatMap_congr fun e he => ?_
  rw [Store.chunksOf, h e he]
  rfl

theorem chunks_of_uartEvents {f f' : SessionFiles} (h : f'.uartEvents = f.uartEvents) :
    f'.chunks = f.chunks := by
  rw [SessionFiles.chunks, SessionFiles.chunks, h]

section Steps

variable {es : List (SessionId × SessionFiles)} {id : SessionId} {f f' : SessionFiles}
  {events : List UartReceiveEvent}

/-- The last session has more. -/
theorem HoldsEvents.extend (h : HoldsEvents (es ++ [(id, f)]) events)
    (added : List UartReceiveEvent)
    (hraw : f'.uartRaw = f.uartRaw ++ added.flatMap UartReceiveEvent.data)
    (hchunks : f'.chunks = f.chunks ++ added.map UartReceiveEvent.chunk) :
    HoldsEvents (es ++ [(id, f')]) (events ++ added) := by
  constructor
  · simp [hraw, ← h.raw]
  · simp [hchunks, ← h.chunks]

/-- The last session has the same. -/
theorem HoldsEvents.same (h : HoldsEvents (es ++ [(id, f)]) events)
    (huart : f'.uartRaw = f.uartRaw ∧ f'.uartEvents = f.uartEvents) :
    HoldsEvents (es ++ [(id, f')]) events := by
  have hextended : HoldsEvents (es ++ [(id, f')]) (events ++ []) :=
    h.extend [] (by simpa using huart.1) (by simpa using chunks_of_uartEvents huart.2)
  rwa [List.append_nil] at hextended

/-- One session more. -/
theorem HoldsEvents.push (h : HoldsEvents es events) (added : List UartReceiveEvent)
    (hraw : f.uartRaw = added.flatMap UartReceiveEvent.data)
    (hchunks : f.chunks = added.map UartReceiveEvent.chunk) :
    HoldsEvents (es ++ [(id, f)]) (events ++ added) := by
  constructor
  · rw [List.flatMap_append, List.flatMap_append, h.raw]
    simp [hraw]
  · rw [List.flatMap_append, List.map_append, h.chunks]
    simp [hchunks]

theorem EndedFiles.uart {prior : SessionFiles} (h : EndedFiles f prior) :
    prior.uartRaw = f.uartRaw ∧ prior.uartEvents = f.uartEvents := by
  rw [h.evidence]
  exact ⟨rfl, rfl⟩

variable {c c' : Recording}

/-- Where an admission landed, with what it added. -/
theorem HoldsEvents.lands {rolledOver : Bool} {next : SessionFiles} {backend : BackendSnapshot}
    {ended : List (SessionId × SessionFiles)} (h : HoldsEvents c.sessions events)
    (hlands : Lands c backend rolledOver id next ended) (added : List UartReceiveEvent)
    (hraw : f.uartRaw = next.uartRaw ++ added.flatMap UartReceiveEvent.data)
    (hchunks : f.chunks = next.chunks ++ added.map UartReceiveEvent.chunk) :
    HoldsEvents (ended ++ [(id, f)]) (events ++ added) := by
  cases hlands with
  | same => exact h.extend added hraw hchunks
  | successor hne hfresh hprior =>
    -- The session that was left keeps what it has; its successor starts with none.
    have hnone : next.chunks = [] := by rw [SessionFiles.chunks, hfresh.noUart.2]; rfl
    refine (h.same hprior.uart).push added ?_ ?_
    · rw [hraw, hfresh.noUart.1, List.nil_append]
    · rw [hchunks, hnone, List.nil_append]

/-- Where an admission landed that added no receive data. -/
theorem HoldsEvents.lands_quiet {rolledOver : Bool} {next : SessionFiles}
    {backend : BackendSnapshot} {ended : List (SessionId × SessionFiles)}
    (h : HoldsEvents c.sessions events) (hlands : Lands c backend rolledOver id next ended)
    (huart : f.uartRaw = next.uartRaw ∧ f.uartEvents = next.uartEvents) :
    HoldsEvents (ended ++ [(id, f)]) events := by
  have hlanded : HoldsEvents (ended ++ [(id, f)]) (events ++ []) :=
    h.lands hlands [] (by simpa using huart.1) (by simpa using chunks_of_uartEvents huart.2)
  rwa [List.append_nil] at hlanded

theorem HoldsEvents.step (h : HoldsEvents c.sessions events) (hstep : RecordingStep c c') :
    HoldsEvents c'.sessions events := by
  cases hstep with
  | cut => exact h
  | quiet hlands hquiet =>
    rw [Recording.sessions, handle_follow]
    exact h.lands_quiet hlands hquiet.uart
  | failed hended => exact h.same hended.uart

theorem HoldsEvents.path (h : HoldsEvents c.sessions events) (hpath : RecordingPath c c') :
    HoldsEvents c'.sessions events := by
  induction hpath with
  | refl => exact h
  | tail _ hstep ih => exact ih.step hstep

/-- What was committed of an event. -/
theorem UartCommitted.receives {event : UartReceiveEvent} {result : UartCaptureResult}
    {admission : V2EvidenceAdmission} (h : UartCommitted event result f admission f') :
    f'.uartRaw = f.uartRaw ++ event.data ∧ f'.chunks = f.chunks ++ [event.chunk] := by
  obtain ⟨unit, hprepared, rfl, _⟩ := h
  obtain ⟨recordedAt, hrecord⟩ := hprepared.unitOf.record
  refine ⟨rfl, ?_⟩
  show (f.uartEvents ++ [unit.record]).filterMap (fun r => r.body.chunk?) = _
  rw [List.filterMap_append, hrecord]
  rfl

theorem HoldsEvents.received {event : UartReceiveEvent} (h : HoldsEvents c.sessions events)
    (hreceived : Received event c c') : HoldsEvents c'.sessions (events ++ [event]) := by
  cases hreceived with
  | mk hreceiving hlands hsegment hprocessor hcommitted hactive =>
    obtain ⟨hraw, hchunks⟩ := hcommitted.receives
    rw [Recording.sessions, handle_adopt]
    exact h.lands hlands [event] (by simpa using hraw) hchunks

theorem HoldsEvents.overflowed {event : BufferOverflowEvent} (h : HoldsEvents c.sessions events)
    (hoverflowed : Overflowed event c c') : HoldsEvents c'.sessions events := by
  cases hoverflowed with
  | mk hreceiving hlands htelemetry hactive =>
    rw [Recording.sessions, handle_countOverflow]
    exact h.lands_quiet hlands htelemetry.uart

theorem HoldsEvents.reported {event : BufferStatusEvent} (h : HoldsEvents c.sessions events)
    (hreported : StatusReported event c c') : HoldsEvents c'.sessions events := by
  cases hreported with
  | mk hreceiving hlands htelemetry hactive =>
    rw [Recording.sessions, handle_countStatus]
    exact h.lands_quiet hlands htelemetry.uart

theorem HoldsEvents.opened {snapshot : BackendSnapshot} {manual : Bool}
    (h : HoldsEvents c.sessions events) (hopened : Opened snapshot manual c c') :
    HoldsEvents c'.sessions events := by
  cases hopened with
  | segment _ hlands =>
    rcases hlands with ⟨hlands, hsegment⟩ | hlands
    · exact h.lands_quiet hlands hsegment.uart
    · exact h.lands_quiet hlands ⟨rfl, rfl⟩
  | @session _ id files _ _ _ hblank =>
    have hnone : files.chunks = [] := by rw [SessionFiles.chunks, hblank.noUart.2]; rfl
    have hpushed : HoldsEvents (c.sessions ++ [(id, files)]) (events ++ []) :=
      h.push [] hblank.noUart.1 hnone
    rwa [List.append_nil] at hpushed

theorem HoldsEvents.connected (h : HoldsEvents c.sessions events) (hconnected : Connected c c') :
    HoldsEvents c'.sessions events := by
  cases hconnected with
  | mk =>
    rw [Recording.sessions, handle_connect]
    exact h

end Steps

/-! ## Runs -/

section Runs

variable {c c' : Recording} {events : List UartReceiveEvent}

theorem attachedEvents_cons (attached : Bool) (call : RecorderCall) (calls : List RecorderCall) :
    attachedEvents attached (call :: calls) =
      attachedEvents attached [call] ++ attachedEvents (call.attachedAfter attached) calls := by
  cases attached <;> cases call <;> rfl

theorem RecordingPath.receiving (hpath : RecordingPath c c') (h : c'.recorder.receiving = true) :
    c.recorder.receiving = true := by
  induction hpath with
  | refl => exact h
  | tail _ hstep ih =>
    apply ih
    cases hstep with
    | cut hreceiving => exact hreceiving h
    | quiet => exact (receiving_follow _ _ _).symm.trans h
    | failed => exact h

/-- A call adds the event it admits, and nothing else. -/
theorem HoldsEvents.performs {call : RecorderCall} (h : HoldsEvents c.sessions events)
    (hperforms : Performs call c c') :
    HoldsEvents c'.sessions (events ++ attachedEvents c.recorder.receiving [call]) := by
  have hnone : ∀ {c'}, (∀ event, call ≠ .uart event) → HoldsEvents (Recording.sessions c') events →
      HoldsEvents (Recording.sessions c') (events ++ attachedEvents c.recorder.receiving [call]) := by
    intro c' hcall hc'
    have hempty : attachedEvents c.recorder.receiving [call] = [] := by
      cases hreceiving : c.recorder.receiving <;> cases call with
      | uart event => exact absurd rfl (hcall event)
      | _ => rfl
    rwa [hempty, List.append_nil]
  cases hperforms with
  | ignored hevent hreceiving =>
    rw [hreceiving]
    cases call <;> simpa [attachedEvents] using h
  | @uart event _ c₁ _ hpath hreceived =>
    have hreceiving : c.recorder.receiving = true := by
      apply hpath.receiving
      cases hreceived with
      | mk hreceiving => exact hreceiving
    rw [hreceiving]
    exact (h.path hpath).received hreceived
  | overflow hpath hoverflowed =>
    exact hnone (by simp) ((h.path hpath).overflowed hoverflowed)
  | status hpath hreported => exact hnone (by simp) ((h.path hpath).reported hreported)
  | openReplacement hopened => exact hnone (by simp) (h.opened hopened)
  | connectReplacement hpath hconnected =>
    exact hnone (by simp) ((h.path hpath).connected hconnected)
  | other hevent _ hpath =>
    refine hnone ?_ (h.path hpath)
    rintro event rfl
    cases hevent

theorem HoldsEvents.performsAll {calls : List RecorderCall} (h : HoldsEvents c.sessions events)
    (hperforms : PerformsAll calls c c') :
    HoldsEvents c'.sessions (events ++ attachedEvents c.recorder.receiving calls) := by
  induction hperforms generalizing events with
  | nil c => simpa [attachedEvents] using h
  | @cons call calls c c₁ c' hcall hattached rest ih =>
    rw [attachedEvents_cons, ← List.append_assoc, ← hattached]
    exact ih (h.performs hcall)

/-- A started recording holds nothing yet. -/
theorem Started.holdsEvents {profile : DutProfile} {snapshot : BackendSnapshot}
    (h : Started profile snapshot c) :
    HoldsEvents c.sessions [] ∧ c.recorder.receiving = true := by
  have hchunks : ∀ {f : SessionFiles}, Blank snapshot f → f.chunks = [] := by
    intro f hf
    rw [SessionFiles.chunks, hf.noUart.2]
    rfl
  cases h with
  | mk hblank hended =>
    refine ⟨⟨?_, ?_⟩, rfl⟩
    · rw [Recording.sessions, List.flatMap_append,
        List.flatMap_eq_nil_iff.mpr fun e he => (hended e he).noUart.1]
      simp [hblank.noUart.1]
    · rw [Recording.sessions, List.flatMap_append,
        List.flatMap_eq_nil_iff.mpr fun e he => hchunks (hended e he)]
      simp [hchunks hblank]

end Runs

/-- Every run of the recorder that returns leaves what it was given in the sessions it went
through: each event that came while a source was attached is one record, in order, and their
bytes are the raw bytes. -/
theorem recorder_keepsEvents (cfg : StoreConfig) (depth : ℕ) (profile : DutProfile)
    (snapshot : BackendSnapshot) (calls : List RecorderCall) (st st' : Store)
    (r : EvidenceRecorder) (hsound : Sound st) (hdrawn : AllDrawn cfg st)
    (hrun : recordRun cfg depth profile snapshot calls st = (.ok r, st'))
    (hids : DistinctIds cfg st'.idsDrawn) :
    ∃ left : List SessionId, (left ++ [r.handle]).Nodup ∧
      (∀ id ∈ left, ∃ f, st'.history id = some f ∧ f.metadata.state ≠ .active) ∧
      (left ++ [r.handle]).flatMap st'.rawOf =
        (attachedEvents true calls).flatMap UartReceiveEvent.data ∧
      (left ++ [r.handle]).flatMap st'.chunksOf =
        (attachedEvents true calls).map UartReceiveEvent.chunk := by
  obtain ⟨c₀, c, hstarted, hperforms, rfl, hat⟩ := performs_recordRun hsound hdrawn hrun
  have hholds := hstarted.holdsEvents.1.performsAll hperforms
  rw [hstarted.holdsEvents.2, List.nil_append] at hholds
  have hhistory := hat.history_sessions hids
  have hsessions := c.map_fst_sessions
  refine ⟨c.ended.map Prod.fst, hat.backed.nodup hids, ?_, ?_, ?_⟩
  · intro id hid
    obtain ⟨e, he, rfl⟩ := List.mem_map.mp hid
    exact ⟨e.2, hat.backed.kept hids e he⟩
  · rw [← hsessions, ← hholds.raw]
    exact flatMap_rawOf hhistory
  · rw [← hsessions, ← hholds.chunks]
    exact flatMap_chunksOf hhistory

theorem recorder_keepsEvents_enhancedCalls :
    ∃ r st', recordRun exampleConfig 1 enhancedProfile enhancedSnapshot enhancedCalls {} =
        (.ok r, st') ∧
      ∃ left : List SessionId, (left ++ [r.handle]).flatMap st'.rawOf = [66, 10] := by
  obtain ⟨r, st', hrun, hids, _⟩ := recordRun_enhancedCalls
  obtain ⟨left, _, _, hraw, _⟩ :=
    recorder_keepsEvents exampleConfig 1 enhancedProfile enhancedSnapshot enhancedCalls {} st' r
      sound_empty (allDrawn_empty exampleConfig) hrun (hids ▸ distinctIds_one exampleConfig)
  exact ⟨r, st', hrun, left, hraw⟩
