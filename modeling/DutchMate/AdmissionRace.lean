/-
# Admissions of concurrent threads

The ingest thread, any number of action and bounded-operation threads and the reconnect
coordinator share the recorder.  A critical section under the admission lock is one step
here, and so is every section under the condition alone; between two steps of a thread
the others do as they like.

Three threads capture a handle or a segment before they take the admission lock: the
ingest thread before it blocks in `read_event`, the coordinator in `replace_source` and
in `reconnect_timed_out`.  `_record_disconnect` leaves the lock before it publishes its
second admission.  `run_undisturbed` says that nothing else can go wrong: where no
rollover falls into one of these gaps, every admission is on the current segment.
-/
import DutchMate.BoundedWait
import DutchMate.RecorderOwnership

open Throwing RecorderOwnership

namespace AdmissionRace

variable {Event : Type}

/-! ## The threads -/

/-- Where the ingest thread stands.  `since` is the store's session when the thread took
what it holds. -/
inductive IngestPoint (Event : Type)
  | sampling
  | reading (source segment since : ℕ)
  | admitting (event : Event) (source segment since : ℕ)
  | disconnected (source : ℕ)
  | publishing (source : ℕ) (started : Admission) (since : ℕ)
  | waiting (source : ℕ)
  | finished
  deriving DecidableEq

/-- Where the reconnect coordinator stands. -/
inductive CoordinatorPoint
  | idle
  | detaching
  | replacing (handle segment since : ℕ)
  | initializing
  | timingOut (handle segment since : ℕ)
  | timedOut (handle : ℕ)
  deriving DecidableEq

/-- An event in the journal: the session and segment of its record, and the store's head
when it was admitted. -/
structure Admitted (Event : Type) where
  event : Event
  session : ℕ
  segment : Option ℕ
  head : JournalHead
  deriving DecidableEq

def Admitted.OnCurrent (admitted : Admitted Event) : Prop :=
  admitted.session = admitted.head.session ∧
    ∃ id, admitted.segment = some id ∧ id + 1 = admitted.head.segments

/-- The recorder between two steps.  A source is named by its connection generation. -/
structure Recorder (Event : Type) where
  owner : Ownership
  generation : ℕ
  source : Option ℕ
  state : RecorderState
  fault : Bool
  replacementAllowed : Bool
  ingest : IngestPoint Event
  coordinator : CoordinatorPoint
  /-- what `read_event` returned, in order -/
  returned : List Event
  admitted : List (Admitted Event)
  deriving DecidableEq

namespace Recorder

def initial : Recorder Event where
  owner := .initial
  generation := 1
  source := some 1
  state := .connected
  fault := false
  replacementAllowed := false
  ingest := .sampling
  coordinator := .idle
  returned := []
  admitted := []

/-- `_record_fatal` up to its critical section. -/
def recordFatal (s : Recorder Event) (source : Option ℕ) : Recorder Event :=
  if s.fault = true ∨ (source.isSome = true ∧ s.source ≠ source) then s
  else { s with fault := true, state := .faulted, source := none }

end Recorder

/-! ## The critical sections of the recorder's own threads -/

/-- `_record_disconnect` under the lock: the second admission is returned, not published. -/
def recordDisconnect (flushed : List Verdict) (disconnect reconnect : Verdict) :
    Section Admission := do
  flushLineState flushed
  let handle ← look (·.handle)
  let segment ← look (·.storedSegment)
  let admission ← append handle (some segment) disconnect
  publishAdmission admission
  let segment ← look (·.storedSegment)
  append admission.handle (some segment) reconnect

/-- `append_v2_segment` opens the next segment, in a successor when the session is full. -/
def appendSegment (handle segment : ℕ) (verdict : Verdict) : Section Unit := do
  useStore handle (some segment)
  let segments ← look (·.head.segments)
  if segments = 32 then
    if verdict.isAdmitted then rollover else raise ()
  else do
    let _ ← judge handle verdict
    change fun o => { o with head := { o.head with segments := o.head.segments + 1 } }

/-- The recorder takes over what the store has published. -/
def adoptHead : Section Unit := change fun o =>
  { o with handle := o.head.session, storedSegment := o.head.segments - 1 }

/-- `_replace_source_admitted` up to the initializer. -/
def openSegment (handle segment : ℕ) (verdict : Verdict) : Section Unit := do
  appendSegment handle segment verdict
  adoptHead

/-- `_replace_source_admitted` after the initializer. -/
def recordConnected (verdict : Verdict) : Section Unit := do
  let handle ← look (·.handle)
  let segment ← look (·.storedSegment)
  let _ ← append handle (some segment) verdict
  adoptHead

/-- `reconnect_timed_out` under the lock. -/
def recordTimeout (handle segment : ℕ) (verdict : Verdict) (terminals : List Verdict) :
    Section Admission := do
  let failed ← append handle (some segment) verdict
  publishAdmission failed
  let failed ← completeOperations failed terminals
  failSession failed.handle
  pure failed

/-- `_record_fatal` under the lock. -/
def terminalizeFault (terminals : List Verdict) : Section Unit := do
  let handle ← look (·.handle)
  let last ← completeOperations ⟨handle, false⟩ terminals
  failSession last.handle

/-! ## Steps -/

/-- One step of one thread.  What the store answers comes with it. -/
inductive Move (Event : Type)
  /-- an action, or the start of a bounded operation -/
  | act (plan : Plan)
  /-- the end of a bounded operation -/
  | complete (plan : Plan)
  | sample
  | readEvent (event : Event)
  | readNothing
  | readDisconnect
  | admitEvent (plan : Plan)
  | recordDisconnect (flushed : List Verdict) (disconnect reconnect : Verdict)
  | publishDisconnect
  | wake
  | detach
  | confirmDetached
  | sampleReplacement
  | openSegment (verdict : Verdict)
  /-- an action of the connection initializer -/
  | configure (plan : Plan)
  | connect (verdict : Verdict)
  | sampleTimeout
  | recordTimeout (verdict : Verdict) (terminals : List Verdict)
  | publishTimeout
  | terminalizeFault (terminals : List Verdict)
  deriving DecidableEq

namespace Recorder

/-- A step of the ingest thread. -/
def ingestStep (s : Recorder Event) : Move Event → Option (Recorder Event)
  | .sample =>
    match s.ingest with
    | .sampling =>
      if s.fault then some { s with ingest := .finished }
      else s.source.map fun source =>
        { s with ingest := .reading source s.owner.storedSegment s.owner.head.session }
    | _ => none
  | .readEvent event =>
    match s.ingest with
    | .reading source segment since =>
      some { s with
        ingest := .admitting event source segment since
        returned := s.returned ++ [event] }
    | _ => none
  | .readNothing =>
    match s.ingest with
    | .reading _ _ _ => some { s with ingest := .sampling }
    | _ => none
  | .readDisconnect =>
    match s.ingest with
    | .reading source _ _ => some { s with ingest := .disconnected source }
    | _ => none
  | .admitEvent plan =>
    match s.ingest with
    | .admitting event source segment _ =>
      match admitRecord plan (some segment) s.owner with
      | (.ok placed, owner) =>
        some { s with
          owner := owner
          ingest := .sampling
          admitted := s.admitted ++ [⟨event, owner.handle, placed, owner.head⟩] }
      | (.error _, owner) =>
        some { s.recordFatal (some source) with owner := owner, ingest := .finished }
    | _ => none
  | .recordDisconnect flushed disconnect reconnect =>
    match s.ingest with
    | .disconnected source =>
      if s.source = some source then
        match AdmissionRace.recordDisconnect flushed disconnect reconnect s.owner with
        | (.ok started, owner) =>
          some { s with owner := owner, ingest := .publishing source started owner.head.session }
        | (.error _, owner) =>
          some { s.recordFatal (some source) with owner := owner, ingest := .sampling }
      else some { s with ingest := .sampling }
    | _ => none
  | .publishDisconnect =>
    match s.ingest with
    | .publishing source started _ =>
      if s.source = some source then
        -- the handle is set without the lock, and may be older than the one it replaces
        some { s with
          owner := { s.owner with
            handle := started.handle
            storedSegment := if started.rolledOver then 0 else s.owner.storedSegment }
          state := .reconnecting
          replacementAllowed := true
          ingest := .waiting source }
      else some { s with ingest := .sampling }
    | _ => none
  | .wake =>
    match s.ingest with
    | .waiting source => if s.source = some source then none else some { s with ingest := .sampling }
    | _ => none
  | _ => none

/-- A step of the reconnect coordinator. -/
def coordinatorStep (s : Recorder Event) : Move Event → Option (Recorder Event)
  | .detach =>
    if s.coordinator = .idle ∧ s.state = .reconnecting ∧ s.replacementAllowed = true
        ∧ s.source.isSome = true then
      some { s with source := none, replacementAllowed := false, coordinator := .detaching }
    else none
  | .confirmDetached =>
    match s.coordinator with
    | .detaching =>
      some { s with
        replacementAllowed := s.replacementAllowed || (s.state == .reconnecting)
        coordinator := .idle }
    | _ => none
  | .sampleReplacement =>
    if s.coordinator = .idle ∧ s.state = .reconnecting ∧ s.replacementAllowed = true
        ∧ s.source = none then
      some { s with
        coordinator := .replacing s.owner.handle s.owner.storedSegment s.owner.head.session }
    else none
  | .openSegment verdict =>
    match s.coordinator with
    | .replacing handle segment _ =>
      match AdmissionRace.openSegment handle segment verdict s.owner with
      | (.ok _, owner) => some { s with owner := owner, coordinator := .initializing }
      | (.error _, owner) => some { s.recordFatal none with owner := owner, coordinator := .idle }
    | _ => none
  | .configure plan =>
    match s.coordinator with
    | .initializing =>
      match admitRecord plan none s.owner with
      | (.ok _, owner) => some { s with owner := owner }
      | (.error _, owner) => some { s.recordFatal none with owner := owner, coordinator := .idle }
    | _ => none
  | .connect verdict =>
    match s.coordinator with
    | .initializing =>
      match recordConnected verdict s.owner with
      | (.ok _, owner) =>
        some { s with
          owner := owner
          generation := s.generation + 1
          source := some (s.generation + 1)
          state := .connected
          replacementAllowed := false
          coordinator := .idle }
      | (.error _, owner) => some { s.recordFatal none with owner := owner, coordinator := .idle }
    | _ => none
  | .sampleTimeout =>
    if s.coordinator = .idle ∧ s.state = .reconnecting ∧ s.source = none then
      some { s with
        coordinator := .timingOut s.owner.handle s.owner.storedSegment s.owner.head.session }
    else none
  | .recordTimeout verdict terminals =>
    match s.coordinator with
    | .timingOut handle segment _ =>
      match AdmissionRace.recordTimeout handle segment verdict terminals s.owner with
      | (.ok failed, owner) => some { s with owner := owner, coordinator := .timedOut failed.handle }
      | (.error _, owner) => some { s.recordFatal none with owner := owner, coordinator := .idle }
    | _ => none
  | .publishTimeout =>
    match s.coordinator with
    | .timedOut handle =>
      some { s with
        owner := { s.owner with handle := handle }
        state := .disconnected
        replacementAllowed := false
        coordinator := .idle }
    | _ => none
  | _ => none

/-- What one move does; `none` where it is not enabled. -/
def step (s : Recorder Event) : Move Event → Option (Recorder Event)
  | .act plan =>
    -- the error of an action goes to its caller
    if s.fault then none else some { s with owner := (admitRecord plan none s.owner).2 }
  | .complete plan => some { s with owner := (admitRecord plan none s.owner).2 }
  | .terminalizeFault terminals =>
    if s.fault then some { s with owner := (AdmissionRace.terminalizeFault terminals s.owner).2 }
    else none
  | .sample => s.ingestStep .sample
  | .readEvent event => s.ingestStep (.readEvent event)
  | .readNothing => s.ingestStep .readNothing
  | .readDisconnect => s.ingestStep .readDisconnect
  | .admitEvent plan => s.ingestStep (.admitEvent plan)
  | .recordDisconnect flushed disconnect reconnect =>
    s.ingestStep (.recordDisconnect flushed disconnect reconnect)
  | .publishDisconnect => s.ingestStep .publishDisconnect
  | .wake => s.ingestStep .wake
  | move => s.coordinatorStep move

def run (s : Recorder Event) (moves : List (Move Event)) : Option (Recorder Event) :=
  moves.foldlM step s

end Recorder

/-! ## What the claims of a run are, and when they hold -/

/-- The store refuses none of the step's records. -/
def Move.isAdmitted : Move Event → Bool
  | .act plan => plan.isAdmitted
  | .complete plan => plan.isAdmitted
  | .admitEvent plan => plan.isAdmitted
  | .recordDisconnect flushed disconnect reconnect =>
    flushed.all Verdict.isAdmitted && disconnect.isAdmitted && reconnect.isAdmitted
  | .openSegment verdict => verdict.isAdmitted
  | .configure plan => plan.isAdmitted
  | .connect verdict => verdict.isAdmitted
  | .recordTimeout verdict terminals => verdict.isAdmitted && terminals.all Verdict.isAdmitted
  | .terminalizeFault terminals => terminals.all Verdict.isAdmitted
  | _ => true

namespace Recorder

/-- The event between `read_event` and its admission. -/
def inFlight (s : Recorder Event) : List Event :=
  match s.ingest with
  | .admitting event _ _ _ => [event]
  | _ => []

/-- The recorder is not faulted, its events are in the journal in read order, each on the
segment that was current, and no call named another handle or segment. -/
structure Undisturbed (s : Recorder Event) : Prop where
  fault : s.fault = false
  state : s.state ≠ .faulted
  inOrder : s.returned = s.admitted.map (·.event) ++ s.inFlight
  admitted : ∀ admitted ∈ s.admitted, admitted.OnCurrent
  uses : ∀ use ∈ s.owner.uses, use.Current

/-- `reconnect_started` has rolled the journal over and is not published yet. -/
def rolledUnpublished (s : Recorder Event) : Bool :=
  match s.ingest with
  | .publishing _ started _ => started.rolledOver
  | _ => false

/-- No rollover since the ingest thread took the segment, or it took the first one. -/
def eventCurrent (s : Recorder Event) : Prop :=
  match s.ingest with
  | .admitting _ _ segment since => since = s.owner.head.session ∨ segment = 0
  | _ => True

/-- No rollover since `_record_disconnect` left the lock. -/
def disconnectCurrent (s : Recorder Event) : Prop :=
  match s.ingest with
  | .publishing _ _ since => since = s.owner.head.session
  | _ => True

/-- No rollover since the coordinator took its handle. -/
def coordinatorCurrent (s : Recorder Event) : Prop :=
  match s.coordinator with
  | .replacing _ _ since => since = s.owner.head.session
  | .timingOut _ _ since => since = s.owner.head.session
  | _ => True

/-- The step is not one of those that go wrong: it uses nothing captured before another
thread's rollover, and the store's own limits refuse none of the recorder's records. -/
def Quiet (s : Recorder Event) : Move Event → Prop
  | .act plan => plan.settled = true ∧ s.rolledUnpublished = false
  | .complete plan => plan.settled = true ∧ s.rolledUnpublished = false
  | .admitEvent plan => plan.isAdmitted = true ∧ s.eventCurrent
  | .recordDisconnect flushed disconnect reconnect =>
    flushed.all Verdict.isAdmitted = true ∧ disconnect.isAdmitted = true
      ∧ reconnect.isAdmitted = true
  | .publishDisconnect => s.disconnectCurrent
  | .openSegment verdict => verdict.isAdmitted = true ∧ s.coordinatorCurrent
  | .configure plan => plan.isAdmitted = true
  | .connect verdict => verdict.isAdmitted = true
  | .recordTimeout verdict terminals =>
    (verdict.isAdmitted = true ∧ terminals.all Verdict.isAdmitted = true) ∧ s.coordinatorCurrent
  | _ => True

/-- Every step of the run is quiet. -/
def QuietRun (s : Recorder Event) : List (Move Event) → Prop
  | [] => True
  | move :: moves => s.Quiet move ∧ ∀ s' ∈ s.step move, s'.QuietRun moves

instance (s : Recorder Event) : Decidable s.eventCurrent :=
  match h : s.ingest with
  | .admitting _ _ segment since =>
    decidable_of_iff (since = s.owner.head.session ∨ segment = 0) (by rw [eventCurrent, h])
  | .sampling | .reading _ _ _ | .disconnected _ | .publishing _ _ _ | .waiting _ | .finished =>
    isTrue (by rw [eventCurrent, h]; trivial)

instance (s : Recorder Event) : Decidable s.disconnectCurrent :=
  match h : s.ingest with
  | .publishing _ _ since =>
    decidable_of_iff (since = s.owner.head.session) (by rw [disconnectCurrent, h])
  | .sampling | .reading _ _ _ | .admitting _ _ _ _ | .disconnected _ | .waiting _ | .finished =>
    isTrue (by rw [disconnectCurrent, h]; trivial)

instance (s : Recorder Event) : Decidable s.coordinatorCurrent :=
  match h : s.coordinator with
  | .replacing _ _ since =>
    decidable_of_iff (since = s.owner.head.session) (by rw [coordinatorCurrent, h])
  | .timingOut _ _ since =>
    decidable_of_iff (since = s.owner.head.session) (by rw [coordinatorCurrent, h])
  | .idle | .detaching | .initializing | .timedOut _ =>
    isTrue (by rw [coordinatorCurrent, h]; trivial)

instance (s : Recorder Event) : (move : Move Event) → Decidable (s.Quiet move)
  | .act _ => inferInstanceAs (Decidable (_ ∧ _))
  | .complete _ => inferInstanceAs (Decidable (_ ∧ _))
  | .admitEvent _ => inferInstanceAs (Decidable (_ ∧ _))
  | .recordDisconnect _ _ _ => inferInstanceAs (Decidable (_ ∧ _))
  | .publishDisconnect => inferInstanceAs (Decidable s.disconnectCurrent)
  | .openSegment _ => inferInstanceAs (Decidable (_ ∧ _))
  | .configure _ => inferInstanceAs (Decidable (_ = true))
  | .connect _ => inferInstanceAs (Decidable (_ = true))
  | .recordTimeout _ _ => inferInstanceAs (Decidable (_ ∧ _))
  | .sample | .readEvent _ | .readNothing | .readDisconnect | .wake | .detach | .confirmDetached
  | .sampleReplacement | .sampleTimeout | .publishTimeout | .terminalizeFault _ => isTrue trivial

def QuietRun.decide (s : Recorder Event) : (moves : List (Move Event)) → Decidable (s.QuietRun moves)
  | [] => isTrue trivial
  | move :: moves =>
    have : ∀ s' : Recorder Event, Decidable (s'.QuietRun moves) := fun s' =>
      QuietRun.decide s' moves
    inferInstanceAs (Decidable (s.Quiet move ∧ ∀ s' ∈ s.step move, s'.QuietRun moves))

instance (s : Recorder Event) (moves : List (Move Event)) : Decidable (s.QuietRun moves) :=
  QuietRun.decide s moves

end Recorder

/-! ## The invariant -/

/-- A segment captured at session `since`: it is the last one until a rollover. -/
structure Captured (head : JournalHead) (segment since : ℕ) : Prop where
  since_le : since ≤ head.session
  last : since = head.session → segment + 1 = head.segments
  rolled : since ≠ head.session → head.segments = 1

/-- The source is the recorder's, and events come from it. -/
structure Receiving (source : Option ℕ) (state : RecorderState) (id : ℕ) : Prop where
  source : source = some id
  state : state = .connected

/-- The source is detached and its replacement is on the way. -/
structure Replacing (source : Option ℕ) (state : RecorderState) : Prop where
  source : source = none
  state : state = .reconnecting

/-- What the ingest thread relies on. -/
def IngestPoint.Holds (head : JournalHead) (source : Option ℕ) (state : RecorderState) :
    IngestPoint Event → Prop
  | .sampling => True
  | .reading id segment since => Receiving source state id ∧ Captured head segment since
  | .admitting _ id segment since => Receiving source state id ∧ Captured head segment since
  | .disconnected id => Receiving source state id
  | .publishing id started since => Receiving source state id ∧ since ≤ head.session
    ∧ (since = head.session → started.handle = head.session)
    ∧ (started.rolledOver = true → since = head.session ∧ head.segments = 1)
  | .waiting _ => True
  | .finished => True

/-- What the coordinator relies on. -/
def CoordinatorPoint.Holds (head : JournalHead) (source : Option ℕ) (state : RecorderState) :
    CoordinatorPoint → Prop
  | .idle => True
  | .detaching => Replacing source state
  | .replacing handle segment since => Replacing source state ∧ Captured head segment since
    ∧ (since = head.session → handle = head.session)
  | .initializing => Replacing source state
  | .timingOut handle segment since => Replacing source state ∧ Captured head segment since
    ∧ (since = head.session → handle = head.session)
  | .timedOut handle => Replacing source state ∧ handle = head.session ∧ head.active = false

namespace Recorder

structure Invariant (s : Recorder Event) : Prop where
  undisturbed : s.Undisturbed
  known : s.rolledUnpublished = false → Published s.owner
  active : s.state ≠ .disconnected → (∀ handle, s.coordinator ≠ .timedOut handle) →
    s.owner.head.active = true
  sourced : ∀ id, s.source = some id → s.state = .connected ∨ s.ingest = .waiting id
  ingest : s.ingest.Holds s.owner.head s.source s.state
  coordinator : s.coordinator.Holds s.owner.head s.source s.state

theorem initial_invariant : (initial : Recorder Event).Invariant where
  undisturbed := ⟨rfl, nofun, rfl, nofun, nofun⟩
  known _ := ⟨rfl, rfl⟩
  active _ _ := rfl
  sourced _ _ := .inl rfl
  ingest := trivial
  coordinator := trivial

end Recorder

/-! ## Rollovers of other threads -/

variable {head head' : JournalHead} {source : Option ℕ} {state : RecorderState}
  {segment since : ℕ}

theorem Captured.now {o : Ownership} (h : Published o) :
    Captured o.head o.storedSegment o.head.session :=
  ⟨le_rfl, fun _ => h.storedSegment, fun hne => absurd rfl hne⟩

theorem Captured.advance (h : Captured head segment since) (ha : head.Advanced head') :
    Captured head' segment since := by
  rcases ha.moved with hsame | ⟨_, hlt, hone⟩
  · rw [hsame]
    exact h
  · have hle := h.since_le
    exact ⟨by omega, fun hsince => by omega, fun _ => hone⟩

/-- A handle captured with a session stays that session's. -/
theorem captured_handle_advance {handle : ℕ} (hle : since ≤ head.session)
    (h : since = head.session → handle = head.session) (ha : head.Advanced head') :
    since = head'.session → handle = head'.session := by
  rcases ha.moved with hsame | ⟨_, hlt, _⟩
  · rw [hsame]
    exact h
  · intro hsince
    omega

theorem IngestPoint.Holds.advance {point : IngestPoint Event}
    (h : point.Holds head source state) (ha : head.Advanced head')
    (hrolled : ∀ id started since, point = .publishing id started since →
      started.rolledOver = false) : point.Holds head' source state := by
  cases point with
  | sampling => trivial
  | reading id segment since => exact ⟨h.1, h.2.advance ha⟩
  | admitting event id segment since => exact ⟨h.1, h.2.advance ha⟩
  | disconnected id => exact h
  | publishing id started since =>
    obtain ⟨hreceiving, hle, hhandle, _⟩ := h
    refine ⟨hreceiving, ?_, captured_handle_advance hle hhandle ha, fun ht => ?_⟩
    · rcases ha.moved with hsame | ⟨_, hlt, _⟩
      · rw [hsame]
        exact hle
      · omega
    · rw [hrolled id started since rfl] at ht
      exact absurd ht Bool.false_ne_true
  | waiting id => trivial
  | finished => trivial

theorem CoordinatorPoint.Holds.advance {point : CoordinatorPoint}
    (h : point.Holds head source state) (ha : head.Advanced head') :
    point.Holds head' source state := by
  cases point with
  | idle => trivial
  | detaching => exact h
  | replacing handle segment since =>
    exact ⟨h.1, h.2.1.advance ha, captured_handle_advance h.2.1.since_le h.2.2 ha⟩
  | initializing => exact h
  | timingOut handle segment since =>
    exact ⟨h.1, h.2.1.advance ha, captured_handle_advance h.2.1.since_le h.2.2 ha⟩
  | timedOut handle =>
    rcases ha.moved with hsame | ⟨hactive, _⟩
    · rw [hsame]
      exact h
    · rw [h.2.2] at hactive
      exact absurd hactive Bool.false_ne_true

/-- Without a connected source the ingest thread holds nothing, whatever becomes of the
source and the state. -/
theorem IngestPoint.Holds.of_reconnecting {point : IngestPoint Event}
    (h : point.Holds head source state) (hstate : state ≠ .connected)
    (head' : JournalHead) (source' : Option ℕ) (state' : RecorderState) :
    point.Holds head' source' state' := by
  cases point with
  | sampling => trivial
  | reading _ _ _ => exact absurd h.1.state hstate
  | admitting _ _ _ _ => exact absurd h.1.state hstate
  | disconnected _ => exact absurd h.state hstate
  | publishing _ _ _ => exact absurd h.1.state hstate
  | waiting _ => trivial
  | finished => trivial

/-- The ingest thread and the coordinator never work on one source at once. -/
theorem Receiving.coordinator_idle {id : ℕ} (h : Receiving source state id)
    {point : CoordinatorPoint} (hc : point.Holds head source state) : point = .idle := by
  have hnot : ¬ Replacing source state := by
    intro hr
    rw [h.source] at hr
    exact absurd hr.source nofun
  cases point with
  | idle => rfl
  | detaching => exact absurd hc hnot
  | replacing _ _ _ => exact absurd hc.1 hnot
  | initializing => exact absurd hc hnot
  | timingOut _ _ _ => exact absurd hc.1 hnot
  | timedOut _ => exact absurd hc.1 hnot

namespace Recorder

variable {s s' : Recorder Event}

theorem Invariant.rolled_eq (hrolled : s.rolledUnpublished = false) (id : ℕ) (started : Admission)
    (since : ℕ) (hpoint : s.ingest = .publishing id started since) :
    started.rolledOver = false := by
  unfold rolledUnpublished at hrolled
  rw [hpoint] at hrolled
  exact hrolled

/-- A section of another thread that ends with a recorder that knows the head. -/
theorem Invariant.ownerStep (hi : s.Invariant) (hrolled : s.rolledUnpublished = false)
    {o : Ownership} (hreached : Reached s.owner o) (hpublished : Published o) :
    Invariant { s with owner := o } where
  undisturbed := {
    fault := hi.undisturbed.fault
    state := hi.undisturbed.state
    inOrder := hi.undisturbed.inOrder
    admitted := hi.undisturbed.admitted
    uses := hreached.uses hi.undisturbed.uses }
  known _ := hpublished
  active hstate hopen := hreached.head.active.trans (hi.active hstate hopen)
  sourced := hi.sourced
  ingest := hi.ingest.advance hreached.head (Invariant.rolled_eq hrolled)
  coordinator := hi.coordinator.advance hreached.head

/-- `ownerStep` for an admission, whether it returned or raised. -/
theorem Invariant.admission (hi : s.Invariant) (hrolled : s.rolledUnpublished = false)
    {plan : Plan} (hsettled : plan.settled = true) :
    Invariant { s with owner := (admitRecord plan none s.owner).2 } := by
  have hended := (admitRecord_triple s.owner none plan).ended s.owner
    ⟨.refl _, hi.known hrolled, nofun⟩
  rcases hrun : admitRecord plan none s.owner with ⟨_ | placed, o⟩ <;> rw [hrun] at hended
  · exact hi.ownerStep hrolled hended.1 (hended.2.1 hsettled)
  · exact hi.ownerStep hrolled hended.1.1 hended.1.2.1

/-! ## Steps of the ingest thread -/

/-- The ingest thread moves to a point it may hold; nothing else changes. -/
theorem Invariant.moveIngest (hi : s.Invariant) (point : IngestPoint Event)
    (hholds : point.Holds s.owner.head s.source s.state)
    (hflight : inFlight { s with ingest := point } = s.inFlight)
    (hrolled : s.rolledUnpublished = false)
    (hsourced : ∀ id, s.source = some id → s.state = .connected ∨ point = .waiting id) :
    Invariant { s with ingest := point } where
  undisturbed := {
    fault := hi.undisturbed.fault
    state := hi.undisturbed.state
    inOrder := hi.undisturbed.inOrder.trans (congrArg _ hflight.symm)
    admitted := hi.undisturbed.admitted
    uses := hi.undisturbed.uses }
  known _ := hi.known hrolled
  active := hi.active
  sourced := hsourced
  ingest := hholds
  coordinator := hi.coordinator

/-- What holds while the ingest thread receives from the recorder's source. -/
structure Ingesting (s : Recorder Event) (id : ℕ) : Prop where
  receiving : Receiving s.source s.state id
  rolled : s.rolledUnpublished = false

theorem Ingesting.sourced {id : ℕ} (h : s.Ingesting id) (point : IngestPoint Event) (other : ℕ)
    (_ : s.source = some other) : s.state = .connected ∨ point = .waiting other :=
  .inl h.receiving.state

theorem Ingesting.active {id : ℕ} (h : s.Ingesting id) (hi : s.Invariant) :
    s.owner.head.active = true := by
  apply hi.active
  · rw [h.receiving.state]
    decide
  · rw [h.receiving.coordinator_idle hi.coordinator]
    exact nofun

theorem Invariant.sample (hi : s.Invariant) (hstep : s.step .sample = some s') : s'.Invariant := by
  change s.ingestStep .sample = some s' at hstep
  unfold ingestStep at hstep
  dsimp only at hstep
  split at hstep
  · rename_i hpoint
    rw [if_neg (Bool.not_eq_true _ ▸ hi.undisturbed.fault)] at hstep
    obtain ⟨id, hsource, rfl⟩ := Option.map_eq_some_iff.mp hstep
    have hrolled : s.rolledUnpublished = false := by
      unfold rolledUnpublished
      rw [hpoint]
    -- with a source and no thread waiting for it to change, the recorder is connected
    have hstate : s.state = .connected := by
      rcases hi.sourced id hsource with hstate | hwaiting
      · exact hstate
      · rw [hpoint] at hwaiting
        exact absurd hwaiting nofun
    have hflight : s.inFlight = [] := by
      unfold inFlight
      rw [hpoint]
    exact hi.moveIngest (.reading id s.owner.storedSegment s.owner.head.session)
      ⟨⟨hsource, hstate⟩, .now (hi.known hrolled)⟩ hflight.symm hrolled fun _ _ => .inl hstate
  · exact absurd hstep nofun

theorem Invariant.readEvent (hi : s.Invariant) {event : Event}
    (hstep : s.step (.readEvent event) = some s') : s'.Invariant := by
  change s.ingestStep (.readEvent event) = some s' at hstep
  unfold ingestStep at hstep
  dsimp only at hstep
  split at hstep
  · rename_i id segment since hpoint
    obtain rfl := Option.some.inj hstep
    have hrolled : s.rolledUnpublished = false := by
      unfold rolledUnpublished
      rw [hpoint]
    have hholds := hi.ingest
    have horder := hi.undisturbed.inOrder
    rw [hpoint] at hholds
    unfold inFlight at horder
    rw [hpoint] at horder
    exact {
      undisturbed := {
        fault := hi.undisturbed.fault
        state := hi.undisturbed.state
        inOrder := by
          show s.returned ++ [event] = s.admitted.map (·.event) ++ [event]
          rw [horder, List.append_nil]
        admitted := hi.undisturbed.admitted
        uses := hi.undisturbed.uses }
      known := fun _ => hi.known hrolled
      active := hi.active
      sourced := fun _ _ => .inl hholds.1.state
      ingest := hholds
      coordinator := hi.coordinator }
  · exact absurd hstep nofun

theorem Invariant.readNothing (hi : s.Invariant) (hstep : s.step .readNothing = some s') :
    s'.Invariant := by
  change s.ingestStep .readNothing = some s' at hstep
  unfold ingestStep at hstep
  dsimp only at hstep
  split at hstep
  · rename_i id segment since hpoint
    obtain rfl := Option.some.inj hstep
    have hholds := hi.ingest
    rw [hpoint] at hholds
    refine hi.moveIngest .sampling trivial ?_ ?_ fun _ _ => .inl hholds.1.state
    · unfold inFlight
      rw [hpoint]
    · unfold rolledUnpublished
      rw [hpoint]
  · exact absurd hstep nofun

theorem Invariant.readDisconnect (hi : s.Invariant) (hstep : s.step .readDisconnect = some s') :
    s'.Invariant := by
  change s.ingestStep .readDisconnect = some s' at hstep
  unfold ingestStep at hstep
  dsimp only at hstep
  split at hstep
  · rename_i id segment since hpoint
    obtain rfl := Option.some.inj hstep
    have hholds := hi.ingest
    rw [hpoint] at hholds
    refine hi.moveIngest (.disconnected id) hholds.1 ?_ ?_ fun _ _ => .inl hholds.1.state
    · unfold inFlight
      rw [hpoint]
    · unfold rolledUnpublished
      rw [hpoint]
  · exact absurd hstep nofun

/-- The event is admitted on the current segment: no rollover came between, or the segment
it names is the first one of whatever session is current. -/
theorem Invariant.admitEvent (hi : s.Invariant) {plan : Plan} (hquiet : s.Quiet (.admitEvent plan))
    (hstep : s.step (.admitEvent plan) = some s') : s'.Invariant := by
  change s.ingestStep (.admitEvent plan) = some s' at hstep
  obtain ⟨hadmitted, hcurrent⟩ := hquiet
  unfold ingestStep at hstep
  dsimp only at hstep
  split at hstep
  · rename_i event id segment since hpoint
    have hholds := hi.ingest
    rw [hpoint] at hholds
    unfold eventCurrent at hcurrent
    rw [hpoint] at hcurrent
    have hingesting : s.Ingesting id := by
      refine ⟨hholds.1, ?_⟩
      unfold rolledUnpublished
      rw [hpoint]
    have hsegment : OnLast (some segment) s.owner := by
      rintro _ ⟨⟩
      rcases hcurrent with hsince | hzero
      · exact hholds.2.last hsince
      · by_cases hsince : since = s.owner.head.session
        · exact hholds.2.last hsince
        · rw [hzero, hholds.2.rolled hsince]
    have hended := (admitRecord_triple s.owner _ plan).ended s.owner
      ⟨.refl _, hi.known hingesting.rolled, hsegment⟩
    rcases hrun : admitRecord plan (some segment) s.owner with ⟨_ | placed, o⟩ <;>
      rw [hrun] at hended hstep
    · exact absurd ⟨hingesting.active hi, hadmitted⟩ hended.2.2
    · obtain rfl := Option.some.inj hstep
      obtain ⟨⟨hreached, hpublished, hplaced⟩, hsome⟩ := hended
      obtain ⟨last, rfl⟩ := Option.isSome_iff_exists.mp hsome
      have horder := hi.undisturbed.inOrder
      unfold inFlight at horder
      rw [hpoint] at horder
      exact {
        undisturbed := {
          fault := hi.undisturbed.fault
          state := hi.undisturbed.state
          inOrder := by
            show s.returned = (s.admitted ++ [_]).map Admitted.event ++ []
            rw [horder, List.map_append, List.append_nil]
            rfl
          admitted := by
            intro admitted hmem
            rcases List.mem_append.mp hmem with hold | hnew
            · exact hi.undisturbed.admitted admitted hold
            · rw [List.mem_singleton.mp hnew]
              exact ⟨hpublished.handle, last, rfl, hplaced last rfl⟩
          uses := hreached.uses hi.undisturbed.uses }
        known := fun _ => hpublished
        active := fun hstate hopen => hreached.head.active.trans (hi.active hstate hopen)
        sourced := fun _ _ => .inl hholds.1.state
        ingest := trivial
        coordinator := hi.coordinator.advance hreached.head }
  · exact absurd hstep nofun

/-- Any other admission faults the recorder: a segment beyond the first, taken before a
rollover, is not a segment of the successor. -/
theorem Invariant.admitEvent_stale (hi : s.Invariant) {plan : Plan} (hstale : ¬ s.eventCurrent)
    (hstep : s.step (.admitEvent plan) = some s') : s'.fault = true := by
  change s.ingestStep (.admitEvent plan) = some s' at hstep
  unfold ingestStep at hstep
  dsimp only at hstep
  split at hstep
  · rename_i event id segment since hpoint
    have hholds := hi.ingest
    rw [hpoint] at hholds
    unfold eventCurrent at hstale
    rw [hpoint] at hstale
    obtain ⟨hsince, hsegment⟩ := not_or.mp hstale
    have hrefused : ¬ s.owner.head.Accepts s.owner.handle (some segment) := by
      rintro ⟨-, -, hlast⟩
      have hone := hholds.2.rolled hsince
      have hnext := hlast segment rfl
      omega
    obtain ⟨o, hrun⟩ := admitRecord_refused plan hrefused
    rw [hrun] at hstep
    obtain rfl := Option.some.inj hstep
    show (s.recordFatal (some id)).fault = true
    unfold recordFatal
    rw [if_neg]
    rintro (hfault | hother)
    · rw [hi.undisturbed.fault] at hfault
      exact absurd hfault nofun
    · exact hother.2 hholds.1.source
  · exact absurd hstep nofun

/-- Both records of a disconnect are in; the second one is not published yet. -/
theorem recordDisconnect_triple (o₀ : Ownership) (flushed : List Verdict)
    (disconnect reconnect : Verdict) :
    Triple (fun o => Reached o₀ o ∧ Published o)
      (AdmissionRace.recordDisconnect flushed disconnect reconnect)
      (fun started o => Reached o₀ o ∧ Pending started.handle started.rolledOver o)
      (fun _ _ => ¬ (o₀.head.active = true ∧ flushed.all Verdict.isAdmitted = true
        ∧ disconnect.isAdmitted = true ∧ reconnect.isAdmitted = true)) := by
  refine triple_bind (triple_conseq (flushLineState_triple flushed) (fun _ h => h)
    (fun _ _ h => h) fun _ _ h hall => h.2.2 ⟨hall.1, hall.2.1⟩) fun _ => ?_
  refine triple_look fun handle => triple_look fun stored => triple_bind (triple_conseq
    (append_triple o₀ handle false (some stored) disconnect) ?_ (fun _ _ h => h)
    fun _ _ h hall => h.2.2 ⟨hall.1, hall.2.2.1⟩) fun admission => ?_
  · rintro o ⟨rfl, rfl, hreached, hpublished⟩
    refine ⟨hreached, hpublished.pending, ?_⟩
    rintro _ ⟨⟩
    exact hpublished.storedSegment
  refine triple_bind (R := fun _ o => Reached o₀ o ∧ Published o ∧
    admission.handle = o.head.session) ⟨fun o h => ?_⟩ fun _ => triple_look fun stored => ?_
  · obtain ⟨⟨hreached, hpending, -⟩, -⟩ := h
    rw [Bool.false_or] at hpending
    have hpublished := (publishAdmission_triple admission).ended o ⟨hreached, hpending⟩
    exact ⟨hpublished.1, hpublished.2, hpending.newest⟩
  · refine triple_conseq (append_triple o₀ admission.handle false (some stored) reconnect) ?_ ?_
      fun _ _ h hall => h.2.2 ⟨hall.1, hall.2.2.2⟩
    · rintro o ⟨rfl, hreached, hpublished, hnewest⟩
      refine ⟨hreached, ⟨hnewest, nofun, fun _ => hpublished⟩, ?_⟩
      rintro _ ⟨⟩
      exact hpublished.storedSegment
    · intro started o h
      refine ⟨h.1.1, ?_⟩
      have hpending := h.1.2.1
      rw [Bool.false_or] at hpending
      exact hpending

theorem Invariant.recordDisconnect (hi : s.Invariant) {flushed : List Verdict}
    {disconnect reconnect : Verdict} (hquiet : s.Quiet (.recordDisconnect flushed disconnect reconnect))
    (hstep : s.step (.recordDisconnect flushed disconnect reconnect) = some s') :
    s'.Invariant := by
  change s.ingestStep (.recordDisconnect flushed disconnect reconnect) = some s' at hstep
  unfold ingestStep at hstep
  dsimp only at hstep
  split at hstep
  · rename_i id hpoint
    have hholds := hi.ingest
    rw [hpoint] at hholds
    have hingesting : s.Ingesting id := by
      refine ⟨hholds, ?_⟩
      unfold rolledUnpublished
      rw [hpoint]
    have hflight : s.inFlight = [] := by
      unfold inFlight
      rw [hpoint]
    rw [if_pos hholds.source] at hstep
    have hended := (recordDisconnect_triple s.owner flushed disconnect reconnect).ended s.owner
      ⟨.refl _, hi.known hingesting.rolled⟩
    rcases hrun : AdmissionRace.recordDisconnect flushed disconnect reconnect s.owner with
      ⟨_ | started, o⟩ <;> rw [hrun] at hended hstep
    · exact absurd ⟨hingesting.active hi, hquiet⟩ hended
    · obtain rfl := Option.some.inj hstep
      obtain ⟨hreached, hpending⟩ := hended
      exact {
        undisturbed := {
          fault := hi.undisturbed.fault
          state := hi.undisturbed.state
          inOrder := by
            show s.returned = s.admitted.map Admitted.event ++ []
            rw [hi.undisturbed.inOrder, hflight]
          admitted := hi.undisturbed.admitted
          uses := hreached.uses hi.undisturbed.uses }
        known := hpending.published
        active := fun hstate hopen => hreached.head.active.trans (hi.active hstate hopen)
        sourced := fun _ _ => .inl hholds.state
        ingest := ⟨hholds, le_rfl, fun _ => hpending.newest, fun ht => ⟨rfl, hpending.opened ht⟩⟩
        coordinator := hi.coordinator.advance hreached.head }
  · exact absurd hstep nofun

/-- With no rollover since the lock was released, the handle that is set is the newest. -/
theorem Invariant.publishDisconnect (hi : s.Invariant) (hquiet : s.Quiet .publishDisconnect)
    (hstep : s.step .publishDisconnect = some s') : s'.Invariant := by
  change s.ingestStep .publishDisconnect = some s' at hstep
  change s.disconnectCurrent at hquiet
  unfold ingestStep at hstep
  dsimp only at hstep
  split at hstep
  · rename_i id started since hpoint
    have hholds := hi.ingest
    rw [hpoint] at hholds
    unfold disconnectCurrent at hquiet
    rw [hpoint] at hquiet
    obtain ⟨hreceiving, _, hhandle, hopened⟩ := hholds
    have hidle := hreceiving.coordinator_idle hi.coordinator
    have hflight : s.inFlight = [] := by
      unfold inFlight
      rw [hpoint]
    rw [if_pos hreceiving.source] at hstep
    obtain rfl := Option.some.inj hstep
    exact {
      undisturbed := {
        fault := hi.undisturbed.fault
        state := show RecorderState.reconnecting ≠ .faulted by decide
        inOrder := by
          show s.returned = s.admitted.map Admitted.event ++ []
          rw [hi.undisturbed.inOrder, hflight]
        admitted := hi.undisturbed.admitted
        uses := hi.undisturbed.uses }
      known := fun _ => by
        refine ⟨hhandle hquiet, ?_⟩
        show (if started.rolledOver = true then 0 else s.owner.storedSegment) + 1
          = s.owner.head.segments
        split
        · rename_i hrolled
          rw [(hopened hrolled).2]
        · rename_i hrolled
          refine (hi.known ?_).storedSegment
          unfold rolledUnpublished
          rw [hpoint]
          exact Bool.not_eq_true _ ▸ hrolled
      active := fun _ hopen => by
        apply hi.active
        · rw [hreceiving.state]
          decide
        · exact hopen
      sourced := by
        intro other hother
        have hsame := hreceiving.source.symm.trans hother
        injection hsame with hsame
        exact .inr (congrArg _ hsame)
      ingest := trivial
      coordinator := by
        show s.coordinator.Holds _ _ _
        rw [hidle]
        trivial }
  · exact absurd hstep nofun

theorem Invariant.wake (hi : s.Invariant) (hstep : s.step .wake = some s') : s'.Invariant := by
  change s.ingestStep .wake = some s' at hstep
  unfold ingestStep at hstep
  dsimp only at hstep
  split at hstep
  · rename_i id hpoint
    split at hstep
    · exact absurd hstep nofun
    · rename_i hsource
      obtain rfl := Option.some.inj hstep
      refine hi.moveIngest .sampling trivial ?_ ?_ fun other hother => ?_
      · unfold inFlight
        rw [hpoint]
      · unfold rolledUnpublished
        rw [hpoint]
      · -- a source the thread did not wait on is the one of a new connection
        rcases hi.sourced other hother with hstate | hwaiting
        · exact .inl hstate
        · rw [hpoint] at hwaiting
          injection hwaiting with hsame
          exact absurd (hsame ▸ hother) hsource
  · exact absurd hstep nofun

/-! ## Steps of the coordinator -/

theorem Invariant.rolled_of_state (hi : s.Invariant) (hstate : s.state = .reconnecting) :
    s.rolledUnpublished = false := by
  unfold rolledUnpublished
  split
  · rename_i id started since hpoint
    have hholds := hi.ingest
    rw [hpoint] at hholds
    rw [hholds.1.state] at hstate
    exact absurd hstate (by decide)
  · rfl

/-- A step of the coordinator: it starts while the source is gone, and ends in a recorder
that knows the head and in a point the coordinator may hold. -/
theorem Invariant.coordinatorMove (hi : s.Invariant) (hbefore : s.state = .reconnecting)
    (o : Ownership) (generation : ℕ) (source : Option ℕ) (state : RecorderState) (allowed : Bool)
    (point : CoordinatorPoint) (hstate : state ≠ .faulted) (hpublished : Published o)
    (huses : ∀ use ∈ o.uses, use.Current)
    (hactive : state ≠ .disconnected → (∀ handle, point ≠ .timedOut handle) →
      o.head.active = true)
    (hsourced : ∀ id, source = some id → state = .connected ∨ s.ingest = .waiting id)
    (hholds : point.Holds o.head source state) :
    Invariant { s with
      owner := o, generation := generation, source := source, state := state,
      replacementAllowed := allowed, coordinator := point } where
  undisturbed := {
    fault := hi.undisturbed.fault
    state := hstate
    inOrder := hi.undisturbed.inOrder
    admitted := hi.undisturbed.admitted
    uses := huses }
  known _ := hpublished
  active := hactive
  sourced := hsourced
  ingest := by
    refine hi.ingest.of_reconnecting ?_ _ _ _
    rw [hbefore]
    exact nofun
  coordinator := hholds

/-- The coordinator keeps the state and the source it found. -/
theorem Invariant.coordinatorKeeps (hi : s.Invariant) (hbefore : Replacing s.source s.state)
    (o : Ownership) (allowed : Bool) (point : CoordinatorPoint) (hpublished : Published o)
    (huses : ∀ use ∈ o.uses, use.Current)
    (hactive : (∀ handle, point ≠ .timedOut handle) → o.head.active = true)
    (hholds : point.Holds o.head s.source s.state) :
    Invariant { s with owner := o, replacementAllowed := allowed, coordinator := point } := by
  refine hi.coordinatorMove hbefore.state o s.generation s.source s.state allowed point
    hi.undisturbed.state hpublished huses (fun _ => hactive) (fun id hid => ?_) hholds
  rw [hbefore.source] at hid
  exact absurd hid nofun

/-- What a section leaves that opens or connects a segment. -/
structure Renewed (o₀ o : Ownership) : Prop where
  published : Published o
  active : o.head.active = o₀.head.active
  uses : (∀ use ∈ o₀.uses, use.Current) → ∀ use ∈ o.uses, use.Current

theorem adoptHead_triple (o₀ : Ownership) :
    Triple (fun o => o.head.active = o₀.head.active ∧ 0 < o.head.segments ∧
        ((∀ use ∈ o₀.uses, use.Current) → ∀ use ∈ o.uses, use.Current))
      adoptHead (fun _ o => Renewed o₀ o) (fun _ _ => False) := by
  refine triple_change fun o h => ⟨⟨rfl, ?_⟩, h.1, h.2.2⟩
  exact Nat.sub_add_cancel h.2.1

theorem openSegment_triple (o₀ : Ownership) (handle segment : ℕ) (verdict : Verdict) :
    Triple (fun o => Reached o₀ o ∧ Published o ∧ handle = o.head.session
        ∧ OnLast (some segment) o)
      (AdmissionRace.openSegment handle segment verdict) (fun _ o => Renewed o₀ o)
      (fun _ _ => ¬ (o₀.head.active = true ∧ verdict.isAdmitted = true)) := by
  refine triple_bind (triple_bind (triple_conseq (useStore_triple o₀ handle false (some segment))
    (fun o h => ⟨h.1, ⟨h.2.2.1, nofun, fun _ => h.2.1⟩, h.2.2.2⟩) (fun _ _ h => h) ?_)
    fun _ => ?_) fun _ => triple_conseq (adoptHead_triple o₀) (fun _ h => h) (fun _ _ h => h)
      fun _ _ h => h.elim
  · rintro _ o ⟨-, hinactive⟩ hall
    rw [hall.1] at hinactive
    exact absurd hinactive nofun
  apply triple_assume (c := o₀.head.active = true) fun _ h => h.2
  intro hactive
  refine triple_look fun segments => triple_ite (fun _ => ?_) fun _ => ?_
  · -- a full session: the segment is the first one of a successor
    refine triple_ite (fun _ => triple_change fun o h => ?_) fun hnot =>
      triple_raise fun _ _ hall => hnot hall.2
    exact ⟨h.2.1.1.head.active, Nat.one_pos, h.2.1.1.uses⟩
  · refine triple_bind (triple_conseq (judge_triple handle false verdict hactive) (fun _ h => h.2.1) (fun _ _ h => h) fun _ _ h hall => ?_) fun _ =>
        triple_change fun o h => ⟨h.1.1.head.active, Nat.succ_pos _, h.1.1.uses⟩
    rw [h.2.2] at hall
    exact absurd hall.2 nofun

theorem recordConnected_triple (o₀ : Ownership) (verdict : Verdict) :
    Triple (fun o => Reached o₀ o ∧ Published o) (recordConnected verdict)
      (fun _ o => Renewed o₀ o)
      (fun _ _ => ¬ (o₀.head.active = true ∧ verdict.isAdmitted = true)) := by
  refine triple_look fun handle => triple_look fun stored => triple_bind (triple_conseq
    (append_triple o₀ handle false (some stored) verdict) ?_ (fun _ _ h => h)
    fun _ _ h => h.2.2) fun admission => triple_conseq (adoptHead_triple o₀) ?_ (fun _ _ h => h)
      fun _ _ h => h.elim
  · rintro o ⟨rfl, rfl, hreached, hpublished⟩
    refine ⟨hreached, hpublished.pending, ?_⟩
    rintro _ ⟨⟩
    exact hpublished.storedSegment
  · rintro o ⟨⟨hreached, hpending, -⟩, -⟩
    refine ⟨hreached.head.active, ?_, hreached.uses⟩
    cases hrolled : admission.rolledOver <;> rw [hrolled] at hpending
    · have hstored := (hpending.published rfl).storedSegment
      omega
    · rw [hpending.opened rfl]
      exact Nat.one_pos

theorem recordTimeout_triple (o₀ : Ownership) (handle segment : ℕ) (verdict : Verdict)
    (terminals : List Verdict) :
    Triple (fun o => Reached o₀ o ∧ Published o ∧ handle = o.head.session
        ∧ OnLast (some segment) o)
      (AdmissionRace.recordTimeout handle segment verdict terminals)
      (fun failed o => (Published o ∧ failed.handle = o.head.session) ∧ o.head.active = false ∧
        ((∀ use ∈ o₀.uses, use.Current) → ∀ use ∈ o.uses, use.Current))
      (fun _ _ => ¬ (o₀.head.active = true ∧ verdict.isAdmitted = true
        ∧ terminals.all Verdict.isAdmitted = true)) := by
  refine triple_bind (triple_conseq (append_triple o₀ handle false (some segment) verdict)
    (fun o h => ⟨h.1, ⟨h.2.2.1, nofun, fun _ => h.2.1⟩, h.2.2.2⟩) (fun _ _ h => h)
    fun _ _ h hall => h.2.2 ⟨hall.1, hall.2.1⟩) fun failed => ?_
  refine triple_bind (R := fun _ o => Reached o₀ o ∧ Published o ∧
    failed.handle = o.head.session) ⟨fun o h => ?_⟩ fun _ => ?_
  · obtain ⟨⟨hreached, hpending, -⟩, -⟩ := h
    rw [Bool.false_or] at hpending
    have hpublished := (publishAdmission_triple failed).ended o ⟨hreached, hpending⟩
    exact ⟨hpublished.1, hpublished.2, hpending.newest⟩
  refine triple_bind (triple_conseq (completeOperations_triple o₀ failed terminals)
    (fun _ h => h) (fun _ _ h => h) fun _ _ h hall => h ⟨hall.1, hall.2.2⟩) fun last => ?_
  refine triple_bind (triple_conseq (failSession_triple o₀ last.handle) (fun _ h => h)
    (fun _ _ h => h) fun _ _ h hall => ?_) fun _ => triple_pure fun _ h => h
  rw [hall.1] at h
  exact absurd h nofun

/-- While the coordinator works the session is active, until it has timed out. -/
theorem Invariant.active_of_replacing (hi : s.Invariant) (hreplacing : Replacing s.source s.state)
    (hopen : ∀ handle, s.coordinator ≠ .timedOut handle) : s.owner.head.active = true := by
  apply hi.active
  · rw [hreplacing.state]
    decide
  · exact hopen

theorem Invariant.detach (hi : s.Invariant) (hstep : s.step .detach = some s') : s'.Invariant := by
  change s.coordinatorStep .detach = some s' at hstep
  unfold coordinatorStep at hstep
  dsimp only at hstep
  split at hstep
  · rename_i h
    obtain ⟨hidle, hstate, _, _⟩ := h
    obtain rfl := Option.some.inj hstep
    refine hi.coordinatorMove hstate s.owner s.generation none s.state false .detaching
      hi.undisturbed.state (hi.known (hi.rolled_of_state hstate)) hi.undisturbed.uses
      (fun hnot _ => ?_) nofun ⟨rfl, hstate⟩
    apply hi.active hnot
    rw [hidle]
    exact nofun
  · exact absurd hstep nofun

theorem Invariant.confirmDetached (hi : s.Invariant) (hstep : s.step .confirmDetached = some s') :
    s'.Invariant := by
  change s.coordinatorStep .confirmDetached = some s' at hstep
  unfold coordinatorStep at hstep
  dsimp only at hstep
  split at hstep
  · rename_i hpoint
    obtain rfl := Option.some.inj hstep
    have hreplacing := hi.coordinator
    rw [hpoint] at hreplacing
    refine hi.coordinatorKeeps hreplacing s.owner _ .idle
      (hi.known (hi.rolled_of_state hreplacing.state)) hi.undisturbed.uses (fun _ => ?_) trivial
    apply hi.active_of_replacing hreplacing
    rw [hpoint]
    exact nofun
  · exact absurd hstep nofun

/-- A capture under the condition alone takes what is current at that moment. -/
theorem Invariant.capture (hi : s.Invariant) (hidle : s.coordinator = .idle)
    (hreplacing : Replacing s.source s.state) (point : CoordinatorPoint)
    (hholds : Published s.owner → point.Holds s.owner.head s.source s.state) :
    Invariant { s with coordinator := point } := by
  have hknown := hi.known (hi.rolled_of_state hreplacing.state)
  refine hi.coordinatorKeeps hreplacing s.owner s.replacementAllowed point hknown
    hi.undisturbed.uses (fun _ => ?_) (hholds hknown)
  apply hi.active_of_replacing hreplacing
  rw [hidle]
  exact nofun

theorem Invariant.sampleReplacement (hi : s.Invariant)
    (hstep : s.step .sampleReplacement = some s') : s'.Invariant := by
  change s.coordinatorStep .sampleReplacement = some s' at hstep
  unfold coordinatorStep at hstep
  dsimp only at hstep
  split at hstep
  · rename_i h
    obtain ⟨hidle, hstate, _, hsource⟩ := h
    obtain rfl := Option.some.inj hstep
    exact hi.capture hidle ⟨hsource, hstate⟩ _
      fun hknown => ⟨⟨hsource, hstate⟩, .now hknown, fun _ => hknown.handle⟩
  · exact absurd hstep nofun

theorem Invariant.sampleTimeout (hi : s.Invariant) (hstep : s.step .sampleTimeout = some s') :
    s'.Invariant := by
  change s.coordinatorStep .sampleTimeout = some s' at hstep
  unfold coordinatorStep at hstep
  dsimp only at hstep
  split at hstep
  · rename_i h
    obtain ⟨hidle, hstate, hsource⟩ := h
    obtain rfl := Option.some.inj hstep
    exact hi.capture hidle ⟨hsource, hstate⟩ _
      fun hknown => ⟨⟨hsource, hstate⟩, .now hknown, fun _ => hknown.handle⟩
  · exact absurd hstep nofun

theorem Invariant.openSegment (hi : s.Invariant) {verdict : Verdict}
    (hquiet : s.Quiet (.openSegment verdict)) (hstep : s.step (.openSegment verdict) = some s') :
    s'.Invariant := by
  change s.coordinatorStep (.openSegment verdict) = some s' at hstep
  obtain ⟨hadmitted, hcurrent⟩ := hquiet
  unfold coordinatorStep at hstep
  dsimp only at hstep
  split at hstep
  · rename_i handle segment since hpoint
    have hholds := hi.coordinator
    rw [hpoint] at hholds
    unfold coordinatorCurrent at hcurrent
    rw [hpoint] at hcurrent
    obtain ⟨hreplacing, hcaptured, hhandle⟩ := hholds
    have hactive : s.owner.head.active = true := by
      apply hi.active_of_replacing hreplacing
      rw [hpoint]
      exact nofun
    have hlast : OnLast (some segment) s.owner := by
      rintro _ ⟨⟩
      exact hcaptured.last hcurrent
    have hended := (openSegment_triple s.owner handle segment verdict).ended s.owner
      ⟨.refl _, hi.known (hi.rolled_of_state hreplacing.state), hhandle hcurrent, hlast⟩
    rcases hrun : AdmissionRace.openSegment handle segment verdict s.owner with ⟨_ | _, o⟩ <;>
      rw [hrun] at hended hstep
    · exact absurd ⟨hactive, hadmitted⟩ hended
    · obtain rfl := Option.some.inj hstep
      exact hi.coordinatorKeeps hreplacing o s.replacementAllowed .initializing hended.published
        (hended.uses hi.undisturbed.uses) (fun _ => hended.active.trans hactive) hreplacing
  · exact absurd hstep nofun

theorem Invariant.configure (hi : s.Invariant) {plan : Plan} (hquiet : s.Quiet (.configure plan))
    (hstep : s.step (.configure plan) = some s') : s'.Invariant := by
  change s.coordinatorStep (.configure plan) = some s' at hstep
  unfold coordinatorStep at hstep
  dsimp only at hstep
  split at hstep
  · rename_i hpoint
    have hreplacing := hi.coordinator
    rw [hpoint] at hreplacing
    have hactive : s.owner.head.active = true := by
      apply hi.active_of_replacing hreplacing
      rw [hpoint]
      exact nofun
    have hrolled := hi.rolled_of_state hreplacing.state
    have hended := (admitRecord_triple s.owner none plan).ended s.owner
      ⟨.refl _, hi.known hrolled, nofun⟩
    rcases hrun : admitRecord plan none s.owner with ⟨_ | _, o⟩ <;> rw [hrun] at hended hstep
    · exact absurd ⟨hactive, hquiet⟩ hended.2.2
    · obtain rfl := Option.some.inj hstep
      exact hi.ownerStep hrolled hended.1.1 hended.1.2.1
  · exact absurd hstep nofun

theorem Invariant.connect (hi : s.Invariant) {verdict : Verdict}
    (hquiet : s.Quiet (.connect verdict)) (hstep : s.step (.connect verdict) = some s') :
    s'.Invariant := by
  change s.coordinatorStep (.connect verdict) = some s' at hstep
  unfold coordinatorStep at hstep
  dsimp only at hstep
  split at hstep
  · rename_i hpoint
    have hreplacing := hi.coordinator
    rw [hpoint] at hreplacing
    have hactive : s.owner.head.active = true := by
      apply hi.active_of_replacing hreplacing
      rw [hpoint]
      exact nofun
    have hended := (recordConnected_triple s.owner verdict).ended s.owner
      ⟨.refl _, hi.known (hi.rolled_of_state hreplacing.state)⟩
    rcases hrun : recordConnected verdict s.owner with ⟨_ | _, o⟩ <;> rw [hrun] at hended hstep
    · exact absurd ⟨hactive, hquiet⟩ hended
    · obtain rfl := Option.some.inj hstep
      exact hi.coordinatorMove hreplacing.state o (s.generation + 1) (some (s.generation + 1))
        .connected false .idle nofun hended.published (hended.uses hi.undisturbed.uses)
        (fun _ _ => hended.active.trans hactive) (fun _ _ => .inl rfl) trivial
  · exact absurd hstep nofun

theorem Invariant.recordTimeout (hi : s.Invariant) {verdict : Verdict} {terminals : List Verdict}
    (hquiet : s.Quiet (.recordTimeout verdict terminals))
    (hstep : s.step (.recordTimeout verdict terminals) = some s') : s'.Invariant := by
  change s.coordinatorStep (.recordTimeout verdict terminals) = some s' at hstep
  obtain ⟨hadmitted, hcurrent⟩ := hquiet
  unfold coordinatorStep at hstep
  dsimp only at hstep
  split at hstep
  · rename_i handle segment since hpoint
    have hholds := hi.coordinator
    rw [hpoint] at hholds
    unfold coordinatorCurrent at hcurrent
    rw [hpoint] at hcurrent
    obtain ⟨hreplacing, hcaptured, hhandle⟩ := hholds
    have hactive : s.owner.head.active = true := by
      apply hi.active_of_replacing hreplacing
      rw [hpoint]
      exact nofun
    have hlast : OnLast (some segment) s.owner := by
      rintro _ ⟨⟩
      exact hcaptured.last hcurrent
    have hended := (recordTimeout_triple s.owner handle segment verdict terminals).ended s.owner
      ⟨.refl _, hi.known (hi.rolled_of_state hreplacing.state), hhandle hcurrent, hlast⟩
    rcases hrun : AdmissionRace.recordTimeout handle segment verdict terminals s.owner with
      ⟨_ | failed, o⟩ <;> rw [hrun] at hended hstep
    · exact absurd ⟨hactive, hadmitted⟩ hended
    · obtain rfl := Option.some.inj hstep
      obtain ⟨⟨hpublished, hnewest⟩, hinactive, huses⟩ := hended
      exact hi.coordinatorKeeps hreplacing o s.replacementAllowed (.timedOut failed.handle)
        hpublished (huses hi.undisturbed.uses) (fun hopen => absurd rfl (hopen failed.handle))
        ⟨hreplacing, hnewest, hinactive⟩
  · exact absurd hstep nofun

theorem Invariant.publishTimeout (hi : s.Invariant) (hstep : s.step .publishTimeout = some s') :
    s'.Invariant := by
  change s.coordinatorStep .publishTimeout = some s' at hstep
  unfold coordinatorStep at hstep
  dsimp only at hstep
  split at hstep
  · rename_i handle hpoint
    obtain rfl := Option.some.inj hstep
    have hholds := hi.coordinator
    rw [hpoint] at hholds
    obtain ⟨hreplacing, hnewest, _⟩ := hholds
    have hknown := hi.known (hi.rolled_of_state hreplacing.state)
    refine hi.coordinatorMove hreplacing.state { s.owner with handle := handle } s.generation
      s.source .disconnected false .idle nofun ⟨hnewest, hknown.storedSegment⟩
      hi.undisturbed.uses (fun hnot => absurd rfl hnot) (fun id hid => ?_) trivial
    rw [hreplacing.source] at hid
    exact absurd hid nofun
  · exact absurd hstep nofun

/-! ## Runs -/

theorem Invariant.step (hi : s.Invariant) {move : Move Event} (hquiet : s.Quiet move)
    (hstep : s.step move = some s') : s'.Invariant := by
  cases move with
  | act plan =>
    simp only [Recorder.step] at hstep
    split at hstep
    · exact absurd hstep nofun
    · obtain rfl := Option.some.inj hstep
      exact hi.admission hquiet.2 hquiet.1
  | complete plan =>
    obtain rfl := Option.some.inj hstep
    exact hi.admission hquiet.2 hquiet.1
  | sample => exact hi.sample hstep
  | readEvent event => exact hi.readEvent hstep
  | readNothing => exact hi.readNothing hstep
  | readDisconnect => exact hi.readDisconnect hstep
  | admitEvent plan => exact hi.admitEvent hquiet hstep
  | recordDisconnect flushed disconnect reconnect => exact hi.recordDisconnect hquiet hstep
  | publishDisconnect => exact hi.publishDisconnect hquiet hstep
  | wake => exact hi.wake hstep
  | detach => exact hi.detach hstep
  | confirmDetached => exact hi.confirmDetached hstep
  | sampleReplacement => exact hi.sampleReplacement hstep
  | openSegment verdict => exact hi.openSegment hquiet hstep
  | configure plan => exact hi.configure hquiet hstep
  | connect verdict => exact hi.connect hquiet hstep
  | sampleTimeout => exact hi.sampleTimeout hstep
  | recordTimeout verdict terminals => exact hi.recordTimeout hquiet hstep
  | publishTimeout => exact hi.publishTimeout hstep
  | terminalizeFault terminals =>
    simp only [Recorder.step] at hstep
    rw [if_neg (Bool.not_eq_true _ ▸ hi.undisturbed.fault)] at hstep
    exact absurd hstep nofun

theorem Invariant.run {moves : List (Move Event)} (hi : s.Invariant) (hquiet : s.QuietRun moves)
    (hrun : s.run moves = some s') : s'.Invariant := by
  induction moves generalizing s with
  | nil =>
    obtain rfl := Option.some.inj hrun
    exact hi
  | cons move moves ih =>
    obtain ⟨s₁, hstep, hrest⟩ := Option.bind_eq_some_iff.mp hrun
    exact ih (hi.step hquiet.1 hstep) (hquiet.2 s₁ hstep) hrest

/-- In a run of quiet steps, in any order of the threads, the recorder is never faulted,
every event `read_event` returned is admitted once and in order on the segment that is
current then (all but the one in flight), and no call names a stale handle or segment. -/
theorem run_undisturbed (moves : List (Move Event))
    (hquiet : (initial : Recorder Event).QuietRun moves) :
    ∀ s ∈ (initial : Recorder Event).run moves, s.Undisturbed :=
  fun _ hrun => (initial_invariant.run hquiet hrun).undisturbed

/-- A first connection, its loss and a second one; an event of the first, a rollover by an
action of the second before the ingest thread samples, and an event after it. -/
def reconnectedRun : List (Move ℕ) :=
  [.sample, .readEvent 1, .admitEvent ⟨none, .fits⟩, .sample, .readDisconnect,
    .recordDisconnect [] .fits .fits, .publishDisconnect, .detach, .wake, .confirmDetached,
    .sampleReplacement, .openSegment .fits, .configure ⟨none, .fits⟩, .connect .fits,
    .act ⟨some [.fits], .rollsOver⟩, .sample, .act ⟨none, .fits⟩, .readEvent 2,
    .admitEvent ⟨none, .fits⟩]

theorem run_undisturbed_reconnected :
    ((initial : Recorder ℕ).run reconnectedRun).isSome = true ∧
      ∀ s ∈ (initial : Recorder ℕ).run reconnectedRun, s.Undisturbed :=
  ⟨by decide +kernel, run_undisturbed reconnectedRun (by decide +kernel)⟩

/-- The same reconnect; the action rolls the journal over after the ingest thread has
sampled the second segment. -/
def staleSegmentRun : List (Move ℕ) :=
  [.sample, .readDisconnect, .recordDisconnect [] .fits .fits, .publishDisconnect, .detach, .wake,
    .confirmDetached, .sampleReplacement, .openSegment .fits, .connect .fits, .sample,
    .act ⟨some [], .rollsOver⟩, .readEvent 7, .admitEvent ⟨none, .fits⟩]

/-- Without any failure of the store, the stale segment faults the recorder. -/
theorem not_undisturbed_staleSegment :
    ¬ ∀ moves : List (Move ℕ), (∀ move ∈ moves, move.isAdmitted = true) →
      ∀ s ∈ (initial : Recorder ℕ).run moves, s.Undisturbed := by
  intro hclaim
  have hfault : ∃ s ∈ (initial : Recorder ℕ).run staleSegmentRun, s.fault = true := by decide +kernel
  obtain ⟨s, hs, hfault⟩ := hfault
  have h := (hclaim staleSegmentRun (by decide +kernel) s hs).fault
  rw [hfault] at h
  exact absurd h nofun

end Recorder

end AdmissionRace
