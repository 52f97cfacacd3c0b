/-
# The ingest thread and the threads that stop it

`ContinuousEvidenceRecorder._ingest` reads the recorder's source until `release()`,
`close()` or a fault ends it.  They hand over through one lock, one condition and five
flags, and a source that is closed under the reader ends in an exception, in `None`, or
with events that are still to be drained.

Every section under the condition is one step, and every section under the admission
lock that other threads cannot look into.  What a source returns, what it says is pending
and which calls into the store fail come with the step.
-/
import DutchMate.BoundedWait
import DutchMate.EventSource

namespace IngestLoop

abbrev Failure := ReadFailure

/-- Where `_ingest` stands, and the source it has sampled. -/
inductive IngestPoint (Event : Type)
  | sampling
  | reading (source : ℕ)
  | admitting (source : ℕ) (event : Event)
  /-- `read_event` returned `None` -/
  | receivedNothing (source : ℕ)
  | checkingClosing (source : ℕ)
  /-- `read_event` raised -/
  | raised (source : ℕ) (failure : Failure)
  /-- in `_finish_release_drain`, waiting for the release to close the source -/
  | drainingRelease (source : ℕ)
  /-- `_finish_release_drain` has returned `False` -/
  | notReleasing (source : ℕ) (failure : Failure)
  /-- in `_finish_shutdown_drain`, waiting for the shutdown to close the source -/
  | drainingShutdown (source : ℕ) (failure : Failure)
  /-- `_finish_shutdown_drain` has returned `False` -/
  | notDraining (source : ℕ) (failure : Failure)
  /-- in `_record_disconnect`, before its critical section -/
  | recording (source : ℕ)
  | publishing (source : ℕ)
  | waiting (source : ℕ)
  /-- about to call `_record_fatal` -/
  | failing (source : ℕ)
  | finished
  deriving DecidableEq

/-- The source the thread has sampled and still works on. -/
def IngestPoint.held {Event : Type} : IngestPoint Event → Option ℕ
  | sampling => none
  | reading source => some source
  | admitting source _ => some source
  | receivedNothing source => some source
  | checkingClosing source => some source
  | raised source _ => some source
  | drainingRelease source => some source
  | notReleasing source _ => some source
  | drainingShutdown source _ => some source
  | notDraining source _ => some source
  | recording source => some source
  | publishing source => some source
  | waiting _ => none
  | failing source => some source
  | finished => none

/-- Where `release()` stands, and the source it captured. -/
inductive ReleasePoint
  | idle
  | requesting (source : ℕ)
  | closing (source : ℕ)
  /-- in `_release_drained.wait()` -/
  | waiting (source : ℕ)
  | publishing (source : ℕ)
  | returned
  | raised
  deriving DecidableEq, Repr

/-- The release holds the admission lock. -/
def ReleasePoint.locked : ReleasePoint → Bool
  | requesting _ => true
  | publishing _ => true
  | _ => false

/-- The call has not ended, so the coordinator is suspended. -/
def ReleasePoint.inProgress : ReleasePoint → Bool
  | idle => false
  | returned => false
  | raised => false
  | _ => true

/-- Where the first caller of `close()` stands. -/
inductive ClosePoint
  | idle
  | closing (source : ℕ)
  | joining
  | completing
  | publishing
  | settling
  | done
  deriving DecidableEq, Repr

/-- What a call of `close()` can report. -/
inductive CloseError
  | source | persistence
  deriving DecidableEq, Repr

/-- The records this is about.  UART evidence names the source it came from. -/
inductive Entry (Event : Type)
  | uart (source : ℕ) (event : Event)
  | unexpectedDisconnect
  | reconnectStarted
  | releaseRequested
  | released
  /-- `reconnect_succeeded` or `reacquire_succeeded` -/
  | connected
  /-- the session ends with `service_shutdown` -/
  | completed
  deriving DecidableEq

/-- The recorder and its threads.  A source is named by its connection generation. -/
structure Recorder (Event : Type) where
  source : Option ℕ
  generation : ℕ
  state : RecorderState
  fault : Bool
  sessionActive : Bool
  releasing : Bool
  releaseCloseComplete : Bool
  releaseDrained : Bool
  closing : Bool
  sourceCloseComplete : Bool
  closed : Bool
  closeError : Option CloseError
  closeComplete : Bool
  ingest : IngestPoint Event
  release : ReleasePoint
  close : ClosePoint
  /-- callers of `close()` that wait for the first one -/
  waiters : ℕ
  /-- what the calls of `close()` that have ended reported, the first ones first -/
  outcomes : List (Option CloseError)
  closedSources : List ℕ
  /-- what `read_event` returned, and from which source -/
  returned : List (ℕ × Event)
  journal : List (Entry Event)
  deriving DecidableEq

inductive Move (Event : Type)
  | sample
  | readEvent (event : Event)
  | readNothing
  | readRaises (failure : Failure)
  | admitEvent (succeeds : Bool)
  | inspect
  | checkClosing (pending : Bool)
  | enterReleaseDrain
  | finishReleaseDrain (pending : Bool)
  | enterShutdownDrain
  | finishShutdownDrain (pending : Bool)
  | leaveOrRecord
  | fail
  | recordDisconnect (succeeds : Bool)
  | publishDisconnect
  | wake
  | beginRelease
  | requestRelease (succeeds : Bool)
  | closeReleased (succeeds : Bool)
  | recordReleased (succeeds : Bool)
  | publishReleased
  | beginClose
  | closeSource (succeeds : Bool)
  | join
  | complete (succeeds : Bool)
  | publishClosed
  | settle
  | closeAgain
  | waiterReturns
  | detach
  | reconnect
  | reconnectTimesOut
  | beginReacquire
  | reacquire
  | reacquireFails
  /-- `_record_fatal` of another thread -/
  | fatal
  /-- the critical section of a `_record_fatal` -/
  | failSession
  deriving DecidableEq

variable {Event : Type}

/-- The UART evidence among some records. -/
def uarts (entries : List (Entry Event)) : List (ℕ × Event) :=
  entries.filterMap fun
    | .uart source event => some (source, event)
    | _ => none

@[simp] theorem uarts_append (entries more : List (Entry Event)) :
    uarts (entries ++ more) = uarts entries ++ uarts more := List.filterMap_append

namespace Recorder

def initial : Recorder Event where
  source := some 1
  generation := 1
  state := .connected
  fault := false
  sessionActive := true
  releasing := false
  releaseCloseComplete := false
  releaseDrained := false
  closing := false
  sourceCloseComplete := false
  closed := false
  closeError := none
  closeComplete := false
  ingest := .sampling
  release := .idle
  close := .idle
  waiters := 0
  outcomes := []
  closedSources := []
  returned := []
  journal := []

/-- `_record_fatal` up to its critical section. -/
def recordFatal (s : Recorder Event) (source : Option ℕ) : Recorder Event :=
  if s.fault = true ∨ s.closed = true ∨ (source.isSome = true ∧ s.source ≠ source) then s
  else { s with releaseDrained := true, fault := true, state := .faulted, source := none }

/-- The part of `_ingest` up to the handling of what `read_event` did. -/
def readStep (s : Recorder Event) : Move Event → Option (Recorder Event)
  | .sample =>
    match s.ingest, s.source with
    | .sampling, none =>
      if s.fault ∨ s.closing then some { s with ingest := .finished } else none
    | .sampling, some source =>
      if s.fault then some { s with ingest := .finished }
      else some { s with ingest := .reading source }
    | _, _ => none
  | .readEvent event =>
    match s.ingest with
    | .reading source =>
      some { s with
        ingest := .admitting source event
        returned := s.returned ++ [(source, event)] }
    | _ => none
  | .readNothing =>
    match s.ingest with
    | .reading source => some { s with ingest := .receivedNothing source }
    | _ => none
  | .readRaises failure =>
    match s.ingest with
    | .reading source => some { s with ingest := .raised source failure }
    | _ => none
  | .admitEvent succeeds =>
    match s.ingest with
    | .admitting source event =>
      if s.release.locked then none
      else if succeeds = true ∧ s.sessionActive = true then
        some { s with ingest := .sampling, journal := s.journal ++ [.uart source event] }
      else some { s.recordFatal (some source) with ingest := .finished }
    | _ => none
  | _ => none

/-- `_ingest` after `read_event` returned `None` or raised. -/
def handleStep (s : Recorder Event) : Move Event → Option (Recorder Event)
  | .inspect =>
    match s.ingest with
    | .receivedNothing source =>
      if s.releasing = true ∧ s.releaseCloseComplete = true then
        some { s with ingest := .drainingRelease source }
      else some { s with ingest := .checkingClosing source }
    | _ => none
  | .checkClosing pending =>
    match s.ingest with
    | .checkingClosing _ =>
      if s.closing = true ∧ s.sourceCloseComplete = true ∧ pending = false then
        some { s with ingest := .finished }
      else some { s with ingest := .sampling }
    | _ => none
  | .enterReleaseDrain =>
    match s.ingest with
    | .raised source failure =>
      if s.releasing then some { s with ingest := .drainingRelease source }
      else some { s with ingest := .notReleasing source failure }
    | _ => none
  | .finishReleaseDrain pending =>
    match s.ingest with
    | .drainingRelease source =>
      if s.releaseCloseComplete = true ∨ s.fault = true then
        if pending then some { s with ingest := .sampling }
        else some { s with
          source := if s.source = some source then none else s.source
          releaseDrained := true
          ingest := .sampling }
      else none
    | _ => none
  | .enterShutdownDrain =>
    match s.ingest with
    | .notReleasing source failure =>
      if s.closing then some { s with ingest := .drainingShutdown source failure }
      else some { s with ingest := .notDraining source failure }
    | _ => none
  | .finishShutdownDrain pending =>
    match s.ingest with
    | .drainingShutdown source failure =>
      if s.sourceCloseComplete then
        if pending then some { s with ingest := .sampling }
        else some { s with ingest := .notDraining source failure }
      else none
    | _ => none
  | .leaveOrRecord =>
    match s.ingest with
    | .notDraining source failure =>
      if s.closing then some { s with ingest := .finished }
      else
        match failure with
        | .disconnected => some { s with ingest := .recording source }
        | .failed => some { s with ingest := .failing source }
    | _ => none
  | .fail =>
    match s.ingest with
    | .failing source => some { s.recordFatal (some source) with ingest := .finished }
    | _ => none
  | _ => none

/-- `_record_disconnect`. -/
def disconnectStep (s : Recorder Event) : Move Event → Option (Recorder Event)
  | .recordDisconnect succeeds =>
    match s.ingest with
    | .recording source =>
      if s.release.locked then none
      else if s.closing = true ∨ s.source ≠ some source then some { s with ingest := .sampling }
      else if succeeds = true ∧ s.sessionActive = true then
        some { s with
          ingest := .publishing source
          journal := s.journal ++ [.unexpectedDisconnect, .reconnectStarted] }
      else some { s.recordFatal (some source) with ingest := .sampling }
    | _ => none
  | .publishDisconnect =>
    match s.ingest with
    | .publishing source =>
      if s.closing = true ∨ s.source ≠ some source then some { s with ingest := .sampling }
      else some { s with state := .reconnecting, ingest := .waiting source }
    | _ => none
  | .wake =>
    match s.ingest with
    | .waiting source =>
      if s.source ≠ some source ∨ s.closing = true ∨ s.fault = true then
        some { s with ingest := .sampling }
      else none
    | _ => none
  | _ => none

/-- `release()`. -/
def releaseStep (s : Recorder Event) : Move Event → Option (Recorder Event)
  | .beginRelease =>
    match s.source with
    | some source =>
      if s.release.inProgress = false ∧ s.state = .connected ∧ s.closing = false then
        some { s with
          releasing := true
          releaseCloseComplete := false
          releaseDrained := false
          release := .requesting source }
      else none
    | none => none
  | .requestRelease succeeds =>
    match s.release with
    | .requesting source =>
      if succeeds = true ∧ s.sessionActive = true then
        some { s with release := .closing source, journal := s.journal ++ [.releaseRequested] }
      else some { s.recordFatal none with release := .raised }
    | _ => none
  | .closeReleased succeeds =>
    match s.release with
    | .closing source =>
      if succeeds then
        some { s with
          releaseCloseComplete := true
          closedSources := source :: s.closedSources
          release := .waiting source }
      else some { s.recordFatal none with releaseCloseComplete := true, release := .raised }
    | _ => none
  | .recordReleased succeeds =>
    match s.release with
    | .waiting source =>
      if s.releaseDrained = false then none
      else if s.fault = false ∧ succeeds = true ∧ s.sessionActive = true then
        some { s with release := .publishing source, journal := s.journal ++ [.released] }
      else some { s.recordFatal none with release := .raised }
    | _ => none
  | .publishReleased =>
    match s.release with
    | .publishing _ =>
      some { s with state := .released, releasing := false, release := .returned }
    | _ => none
  | _ => none

/-- `close()`. -/
def closeStep (s : Recorder Event) : Move Event → Option (Recorder Event)
  | .beginClose =>
    if s.closed = true ∨ s.closing = true then none
    else
      match s.source with
      | some source =>
        some { s with closing := true, sourceCloseComplete := false, close := .closing source }
      | none => some { s with closing := true, sourceCloseComplete := true, close := .joining }
  | .closeSource succeeds =>
    match s.close with
    | .closing source =>
      some { s with
        sourceCloseComplete := true
        closeError := if succeeds then none else some .source
        closedSources := if succeeds then source :: s.closedSources else s.closedSources
        close := .joining }
    | _ => none
  | .join =>
    match s.close, s.ingest with
    | .joining, .finished => some { s with close := .completing }
    | _, _ => none
  | .complete succeeds =>
    match s.close with
    | .completing =>
      if succeeds then
        some { s with
          sessionActive := false
          journal := if s.sessionActive then s.journal ++ [.completed] else s.journal
          close := .publishing }
      else some { s with
        closeError := s.closeError.or (some .persistence)
        close := .publishing }
    | _ => none
  | .publishClosed =>
    match s.close with
    | .publishing =>
      some { s with source := none, state := .closed, closed := true, close := .settling }
    | _ => none
  | .settle =>
    match s.close with
    | .settling =>
      some { s with
        closeComplete := true
        outcomes := s.outcomes ++ [s.closeError]
        close := .done }
    | _ => none
  | .closeAgain =>
    if s.closed then some { s with outcomes := s.outcomes ++ [s.closeError] }
    else if s.closing then some { s with waiters := s.waiters + 1 }
    else none
  | .waiterReturns =>
    if s.closeComplete = true ∧ 0 < s.waiters then
      some { s with waiters := s.waiters - 1, outcomes := s.outcomes ++ [s.closeError] }
    else none
  | _ => none

/-- The reconnect coordinator, and what other threads do to the recorder. -/
def otherStep (s : Recorder Event) : Move Event → Option (Recorder Event)
  | .detach =>
    if s.release.inProgress = false ∧ s.state = .reconnecting ∧ s.closing = false
        ∧ s.source.isSome = true then
      some { s with source := none }
    else none
  | .reconnect =>
    if s.release.inProgress = false ∧ s.state = .reconnecting ∧ s.closing = false
        ∧ s.source = none ∧ s.fault = false ∧ s.sessionActive = true then
      some { s with
        source := some (s.generation + 1)
        generation := s.generation + 1
        state := .connected
        journal := s.journal ++ [.connected] }
    else none
  | .reconnectTimesOut =>
    if s.release.inProgress = false ∧ s.state = .reconnecting ∧ s.closing = false
        ∧ s.source = none then
      some { s with state := .disconnected, sessionActive := false }
    else none
  | .beginReacquire =>
    if s.release.inProgress = false ∧ (s.state = .released ∨ s.state = .disconnected)
        ∧ s.closing = false ∧ s.fault = false then
      some { s with state := .reacquiring }
    else none
  | .reacquire =>
    if s.release.inProgress = false ∧ s.state = .reacquiring ∧ s.closing = false
        ∧ s.source = none ∧ s.fault = false then
      some { s with
        source := some (s.generation + 1)
        generation := s.generation + 1
        state := .connected
        sessionActive := true
        journal := s.journal ++ [.connected] }
    else none
  | .reacquireFails =>
    if s.state = .reacquiring then
      some { s with state := if s.sessionActive then .released else .disconnected }
    else none
  | .fatal => some (s.recordFatal none)
  | .failSession => if s.fault then some { s with sessionActive := false } else none
  | _ => none

/-- What one move does; `none` where it is not enabled. -/
def step (s : Recorder Event) (move : Move Event) : Option (Recorder Event) :=
  match move with
  | .sample | .readEvent _ | .readNothing | .readRaises _ | .admitEvent _ => s.readStep move
  | .inspect | .checkClosing _ | .enterReleaseDrain | .finishReleaseDrain _ | .enterShutdownDrain
  | .finishShutdownDrain _ | .leaveOrRecord | .fail => s.handleStep move
  | .recordDisconnect _ | .publishDisconnect | .wake => s.disconnectStep move
  | .beginRelease | .requestRelease _ | .closeReleased _ | .recordReleased _
  | .publishReleased => s.releaseStep move
  | .beginClose | .closeSource _ | .join | .complete _ | .publishClosed | .settle | .closeAgain
  | .waiterReturns => s.closeStep move
  | .detach | .reconnect | .reconnectTimesOut | .beginReacquire | .reacquire | .reacquireFails
  | .fatal | .failSession => s.otherStep move

def run (s : Recorder Event) (moves : List (Move Event)) : Option (Recorder Event) :=
  moves.foldlM step s

/-- The UART evidence of the journal. -/
def admitted (s : Recorder Event) : List (ℕ × Event) := uarts s.journal

/-- The event between `read_event` and its admission. -/
def inFlight (s : Recorder Event) : List (ℕ × Event) :=
  match s.ingest with
  | .admitting source event => [(source, event)]
  | _ => []

/-! ## What holds in every reachable state -/

structure Consistent (s : Recorder Event) : Prop where
  fault : s.fault = true → s.releaseDrained = true ∧ s.source = none
  connected : s.state = .connected → s.fault = false
  held : ∀ source, s.ingest.held = some source → s.fault = false → s.source = some source
  reconnecting : s.state = .reconnecting → s.closing = false → s.fault = false →
    ∀ source, s.source = some source → s.ingest = .waiting source
  closing : s.closing = false → s.close = .idle
  joined : s.closed = true ∨ s.close = .completing ∨ s.close = .publishing → s.ingest = .finished
  closed : s.closed = true → s.closing = true ∧ s.state ≠ .connected
  inOrder : s.fault = false → s.returned = s.admitted ++ s.inFlight

theorem consistent_initial : (initial : Recorder Event).Consistent where
  fault := nofun
  connected _ := rfl
  held := nofun
  reconnecting := nofun
  closing _ := rfl
  joined := nofun
  closed := nofun
  inOrder _ := rfl

variable {s s' : Recorder Event}

/-- While the ingest thread waits for nothing, a source that is there is connected. -/
theorem Consistent.not_reconnecting (hi : s.Consistent) (hwaiting : ∀ id, s.ingest ≠ .waiting id)
    (hstate : s.state = .reconnecting) (hclosing : s.closing = false) (hfault : s.fault = false)
    (id : ℕ) : s.source ≠ some id :=
  fun hsource => hwaiting id (hi.reconnecting hstate hclosing hfault id hsource)

theorem Consistent.not_joined (hi : s.Consistent) (hpoint : s.ingest ≠ .finished) :
    ¬ (s.closed = true ∨ s.close = .completing ∨ s.close = .publishing) :=
  fun h => hpoint (hi.joined h)

/-- The ingest thread moves on with the source it has, or lets go of it. -/
theorem Consistent.toPoint (hi : s.Consistent) (point : IngestPoint Event)
    (hheld : ∀ id, point.held = some id → s.ingest.held = some id ∨ s.source = some id)
    (hflight : inFlight { s with ingest := point } = s.inFlight)
    (hwaiting : ∀ id, s.ingest ≠ .waiting id) (hfinished : s.ingest ≠ .finished) :
    Consistent { s with ingest := point } where
  fault := hi.fault
  connected := hi.connected
  held id hid hfault := by
    rcases hheld id hid with hold | hnew
    · exact hi.held id hold hfault
    · exact hnew
  reconnecting hstate hclosing hfault id hsource :=
    absurd hsource (hi.not_reconnecting hwaiting hstate hclosing hfault id)
  closing := hi.closing
  joined h := absurd h (hi.not_joined hfinished)
  closed := hi.closed
  inOrder hfault := (hi.inOrder hfault).trans (congrArg _ hflight.symm)

/-- A fault lets go of the source. -/
theorem Consistent.recordFatal (hi : s.Consistent) (source : Option ℕ) :
    (s.recordFatal source).Consistent := by
  unfold Recorder.recordFatal
  split
  · exact hi
  · rename_i h
    simp only [not_or] at h
    exact {
      fault := fun _ => ⟨rfl, rfl⟩
      connected := nofun
      held := fun _ _ => nofun
      reconnecting := nofun
      closing := hi.closing
      joined := hi.joined
      closed := fun hclosed => absurd hclosed h.2.1
      inOrder := nofun }

/-- A thread that holds its source does fault the recorder. -/
theorem Consistent.recordFatal_fault (hi : s.Consistent) {id : ℕ}
    (hheld : s.ingest.held = some id) : (s.recordFatal (some id)).fault = true := by
  unfold Recorder.recordFatal
  split
  · rename_i h
    rcases h with hfault | hclosed | ⟨_, hother⟩
    · exact hfault
    · rw [hi.joined (.inl hclosed)] at hheld
      exact absurd hheld nofun
    · by_contra hno
      exact hother (hi.held id hheld (Bool.not_eq_true _ ▸ hno))
  · rfl

/-- After a fault of its own source the thread may stand anywhere. -/
theorem Consistent.fatalPoint (hi : s.Consistent) {id : ℕ} (hheld : s.ingest.held = some id)
    (point : IngestPoint Event) :
    Consistent { s.recordFatal (some id) with ingest := point } := by
  have hfault := hi.recordFatal_fault hheld
  have hnot : s.ingest ≠ .finished := by
    intro h
    rw [h] at hheld
    exact absurd hheld nofun
  have hfatal := hi.recordFatal (some id)
  have hclose : (s.recordFatal (some id)).close = s.close
      ∧ (s.recordFatal (some id)).closed = s.closed := by
    unfold Recorder.recordFatal
    split <;> exact ⟨rfl, rfl⟩
  exact {
    fault := hfatal.fault
    connected := hfatal.connected
    held := fun _ _ h => absurd (hfault.symm.trans h) nofun
    reconnecting := fun _ _ h => absurd (hfault.symm.trans h) nofun
    closing := hfatal.closing
    joined := fun h => by
      rw [hclose.1, hclose.2] at h
      exact absurd h (hi.not_joined hnot)
    closed := hfatal.closed
    inOrder := fun h => absurd (hfault.symm.trans h) nofun }

theorem Consistent.readStep (hi : s.Consistent) {move : Move Event}
    (hstep : s.readStep move = some s') : s'.Consistent := by
  cases move with
  | sample =>
    simp only [Recorder.readStep] at hstep
    split at hstep
    · rename_i hpoint hsource
      split at hstep
      · obtain rfl := Option.some.inj hstep
        exact hi.toPoint .finished nofun (by simp [inFlight, hpoint]) (by simp [hpoint])
          (by simp [hpoint])
      · exact absurd hstep nofun
    · rename_i id hpoint hsource
      split at hstep
      · obtain rfl := Option.some.inj hstep
        exact hi.toPoint .finished nofun (by simp [inFlight, hpoint]) (by simp [hpoint])
          (by simp [hpoint])
      · obtain rfl := Option.some.inj hstep
        refine hi.toPoint (.reading id) (fun other hother => .inr ?_) (by simp [inFlight, hpoint])
          (by simp [hpoint]) (by simp [hpoint])
        rw [hsource, show id = other from Option.some.inj hother]
    · exact absurd hstep nofun
  | readEvent event =>
    simp only [Recorder.readStep] at hstep
    split at hstep
    · rename_i id hpoint
      obtain rfl := Option.some.inj hstep
      have hwaiting : ∀ id, s.ingest ≠ .waiting id := by simp [hpoint]
      exact {
        fault := hi.fault
        connected := hi.connected
        held := fun other hother => hi.held other (by rw [hpoint]; exact hother)
        reconnecting := fun hstate hclosing hfault other hsource =>
          absurd hsource (hi.not_reconnecting hwaiting hstate hclosing hfault other)
        closing := hi.closing
        joined := fun h => absurd h (hi.not_joined (by simp [hpoint]))
        closed := hi.closed
        inOrder := fun hfault => by
          have horder := hi.inOrder hfault
          rw [show s.inFlight = [] by simp [inFlight, hpoint], List.append_nil] at horder
          show s.returned ++ [(id, event)] = s.admitted ++ [(id, event)]
          rw [horder] }
    · exact absurd hstep nofun
  | readNothing =>
    simp only [Recorder.readStep] at hstep
    split at hstep
    · rename_i id hpoint
      obtain rfl := Option.some.inj hstep
      exact hi.toPoint (.receivedNothing id) (fun _ h => .inl (by rw [hpoint]; exact h))
        (by simp [inFlight, hpoint]) (by simp [hpoint]) (by simp [hpoint])
    · exact absurd hstep nofun
  | readRaises failure =>
    simp only [Recorder.readStep] at hstep
    split at hstep
    · rename_i id hpoint
      obtain rfl := Option.some.inj hstep
      exact hi.toPoint (.raised id failure) (fun _ h => .inl (by rw [hpoint]; exact h))
        (by simp [inFlight, hpoint]) (by simp [hpoint]) (by simp [hpoint])
    · exact absurd hstep nofun
  | admitEvent succeeds =>
    simp only [Recorder.readStep] at hstep
    split at hstep
    · rename_i id event hpoint
      have hwaiting : ∀ id, s.ingest ≠ .waiting id := by simp [hpoint]
      split at hstep
      · exact absurd hstep nofun
      · split at hstep
        · obtain rfl := Option.some.inj hstep
          exact {
            fault := hi.fault
            connected := hi.connected
            held := nofun
            reconnecting := fun hstate hclosing hfault other hsource =>
              absurd hsource (hi.not_reconnecting hwaiting hstate hclosing hfault other)
            closing := hi.closing
            joined := fun h => absurd h (hi.not_joined (by simp [hpoint]))
            closed := hi.closed
            inOrder := fun hfault => by
              have horder := hi.inOrder hfault
              rw [show s.inFlight = [(id, event)] by simp [inFlight, hpoint]] at horder
              show s.returned = uarts (s.journal ++ [.uart id event]) ++ []
              rw [uarts_append, List.append_nil]
              exact horder }
        · obtain rfl := Option.some.inj hstep
          exact hi.fatalPoint (by rw [hpoint]; rfl) .finished
    · exact absurd hstep nofun
  | _ => simp [Recorder.readStep] at hstep

/-- `toPoint` for a thread that keeps its source or lets go of it, with no event in hand. -/
theorem Consistent.follow (hi : s.Consistent) {point : IngestPoint Event}
    (hpoint : s.ingest = point) (next : IngestPoint Event)
    (hheld : next.held = none ∨ next.held = point.held)
    (hflight : inFlight { s with ingest := next } = inFlight { s with ingest := point })
    (hwaiting : ∀ id, point ≠ .waiting id) (hfinished : point ≠ .finished) :
    Consistent { s with ingest := next } := by
  subst hpoint
  refine hi.toPoint next (fun id hid => .inl ?_) hflight hwaiting hfinished
  rcases hheld with hnone | hsame
  · rw [hnone] at hid
    exact absurd hid nofun
  · exact hsame ▸ hid

theorem Consistent.handleStep (hi : s.Consistent) {move : Move Event}
    (hstep : s.handleStep move = some s') : s'.Consistent := by
  cases move with
  | inspect =>
    simp only [Recorder.handleStep] at hstep
    split at hstep
    · rename_i id hpoint
      split at hstep <;> obtain rfl := Option.some.inj hstep
      · exact hi.follow hpoint (.drainingRelease id) (.inr rfl) rfl nofun nofun
      · exact hi.follow hpoint (.checkingClosing id) (.inr rfl) rfl nofun nofun
    · exact absurd hstep nofun
  | checkClosing pending =>
    simp only [Recorder.handleStep] at hstep
    split at hstep
    · rename_i id hpoint
      split at hstep <;> obtain rfl := Option.some.inj hstep
      · exact hi.follow hpoint .finished (.inl rfl) rfl nofun nofun
      · exact hi.follow hpoint .sampling (.inl rfl) rfl nofun nofun
    · exact absurd hstep nofun
  | enterReleaseDrain =>
    simp only [Recorder.handleStep] at hstep
    split at hstep
    · rename_i id failure hpoint
      split at hstep <;> obtain rfl := Option.some.inj hstep
      · exact hi.follow hpoint (.drainingRelease id) (.inr rfl) rfl nofun nofun
      · exact hi.follow hpoint (.notReleasing id failure) (.inr rfl) rfl nofun nofun
    · exact absurd hstep nofun
  | finishReleaseDrain pending =>
    simp only [Recorder.handleStep] at hstep
    split at hstep
    · rename_i id hpoint
      split at hstep
      · split at hstep <;> obtain rfl := Option.some.inj hstep
        · exact hi.follow hpoint .sampling (.inl rfl) rfl nofun nofun
        · -- the thread gives the source up and tells the release so
          have hsampling := hi.follow hpoint .sampling (.inl rfl) rfl nofun nofun
          have hsource : ∀ other,
              (if s.source = some id then none else s.source) = some other →
                s.source = some other := by
            intro other h
            split at h
            · exact absurd h nofun
            · exact h
          exact {
            fault := fun hfault => ⟨rfl, by rw [(hi.fault hfault).2]; rfl⟩
            connected := hi.connected
            held := nofun
            reconnecting := fun hstate hclosing hfault other h =>
              absurd (hsource other h) (hi.not_reconnecting (by simp [hpoint]) hstate hclosing
                hfault other)
            closing := hi.closing
            joined := hsampling.joined
            closed := hi.closed
            inOrder := hsampling.inOrder }
      · exact absurd hstep nofun
    · exact absurd hstep nofun
  | enterShutdownDrain =>
    simp only [Recorder.handleStep] at hstep
    split at hstep
    · rename_i id failure hpoint
      split at hstep <;> obtain rfl := Option.some.inj hstep
      · exact hi.follow hpoint (.drainingShutdown id failure) (.inr rfl) rfl nofun nofun
      · exact hi.follow hpoint (.notDraining id failure) (.inr rfl) rfl nofun nofun
    · exact absurd hstep nofun
  | finishShutdownDrain pending =>
    simp only [Recorder.handleStep] at hstep
    split at hstep
    · rename_i id failure hpoint
      split at hstep
      · split at hstep <;> obtain rfl := Option.some.inj hstep
        · exact hi.follow hpoint .sampling (.inl rfl) rfl nofun nofun
        · exact hi.follow hpoint (.notDraining id failure) (.inr rfl) rfl nofun nofun
      · exact absurd hstep nofun
    · exact absurd hstep nofun
  | leaveOrRecord =>
    simp only [Recorder.handleStep] at hstep
    split at hstep
    · rename_i id failure hpoint
      split at hstep
      · obtain rfl := Option.some.inj hstep
        exact hi.follow hpoint .finished (.inl rfl) rfl nofun nofun
      · cases failure <;> obtain rfl := Option.some.inj hstep
        · exact hi.follow hpoint (.recording id) (.inr rfl) rfl nofun nofun
        · exact hi.follow hpoint (.failing id) (.inr rfl) rfl nofun nofun
    · exact absurd hstep nofun
  | fail =>
    simp only [Recorder.handleStep] at hstep
    split at hstep
    · rename_i id hpoint
      obtain rfl := Option.some.inj hstep
      exact hi.fatalPoint (by rw [hpoint]; rfl) .finished
    · exact absurd hstep nofun
  | _ => simp [Recorder.handleStep] at hstep

theorem Consistent.disconnectStep (hi : s.Consistent) {move : Move Event}
    (hstep : s.disconnectStep move = some s') : s'.Consistent := by
  cases move with
  | recordDisconnect succeeds =>
    simp only [Recorder.disconnectStep] at hstep
    split at hstep
    · rename_i id hpoint
      split at hstep
      · exact absurd hstep nofun
      · split at hstep
        · obtain rfl := Option.some.inj hstep
          exact hi.follow hpoint .sampling (.inl rfl) rfl nofun nofun
        · split at hstep <;> obtain rfl := Option.some.inj hstep
          · have hpublishing := hi.follow hpoint (.publishing id) (.inr rfl) rfl nofun nofun
            exact { hpublishing with
              inOrder := fun hfault => by
                have horder := hpublishing.inOrder hfault
                show s.returned = uarts (s.journal ++ [_, _]) ++ []
                rw [uarts_append, show uarts ([_, _] : List (Entry Event)) = [] from rfl, List.append_nil]
                exact horder }
          · exact hi.fatalPoint (by rw [hpoint]; rfl) .sampling
    · exact absurd hstep nofun
  | publishDisconnect =>
    simp only [Recorder.disconnectStep] at hstep
    split at hstep
    · rename_i id hpoint
      split at hstep
      · obtain rfl := Option.some.inj hstep
        exact hi.follow hpoint .sampling (.inl rfl) rfl nofun nofun
      · rename_i hkept
        simp only [not_or, not_not] at hkept
        obtain rfl := Option.some.inj hstep
        have hwaiting := hi.follow hpoint (.waiting id) (.inl rfl) rfl nofun nofun
        exact {
          fault := hi.fault
          connected := nofun
          held := nofun
          reconnecting := fun _ _ _ other hother => by
            rw [show s.source = some other from hother] at hkept
            exact congrArg _ (Option.some.inj hkept.2).symm
          closing := hi.closing
          joined := hwaiting.joined
          closed := fun hclosed => ⟨(hi.closed hclosed).1, nofun⟩
          inOrder := hwaiting.inOrder }
    · exact absurd hstep nofun
  | wake =>
    simp only [Recorder.disconnectStep] at hstep
    split at hstep
    · rename_i id hpoint
      split at hstep
      · rename_i hwakes
        obtain rfl := Option.some.inj hstep
        exact {
          fault := hi.fault
          connected := hi.connected
          held := nofun
          reconnecting := fun hstate hclosing hfault other hother => by
            -- a source other than the one it waited on would be a connected one
            have hsame := hi.reconnecting hstate hclosing hfault other hother
            rw [hpoint] at hsame
            injection hsame with hsame
            rcases hwakes with hsource | hc | hf
            · exact absurd (hsame ▸ hother) hsource
            · exact absurd (hc.symm.trans hclosing) nofun
            · exact absurd (hf.symm.trans hfault) nofun
          closing := hi.closing
          joined := fun h => absurd h (hi.not_joined (by simp [hpoint]))
          closed := hi.closed
          inOrder := fun hfault => by
            have horder := hi.inOrder hfault
            rw [show s.inFlight = [] by simp [inFlight, hpoint]] at horder
            exact horder }
      · exact absurd hstep nofun
    · exact absurd hstep nofun
  | _ => simp [Recorder.disconnectStep] at hstep

/-- A record that is no UART evidence. -/
theorem Consistent.append (hi : s.Consistent) (entry : Entry Event) (huart : uarts [entry] = []) :
    Consistent { s with journal := s.journal ++ [entry] } := by
  refine { hi with inOrder := fun hfault => ?_ }
  show s.returned = uarts (s.journal ++ [entry]) ++ s.inFlight
  rw [uarts_append, huart, List.append_nil]
  exact hi.inOrder hfault

theorem Consistent.releaseStep (hi : s.Consistent) {move : Move Event}
    (hstep : s.releaseStep move = some s') : s'.Consistent := by
  cases move with
  | beginRelease =>
    simp only [Recorder.releaseStep] at hstep
    split at hstep
    · rename_i id hsource
      split at hstep
      · rename_i h
        obtain rfl := Option.some.inj hstep
        refine { hi with fault := fun hfault => ?_ }
        exact absurd ((hi.connected h.2.1).symm.trans hfault) nofun
      · exact absurd hstep nofun
    · exact absurd hstep nofun
  | requestRelease succeeds =>
    simp only [Recorder.releaseStep] at hstep
    split at hstep
    · split at hstep <;> obtain rfl := Option.some.inj hstep
      · exact { hi.append .releaseRequested rfl with }
      · exact { hi.recordFatal none with }
    · exact absurd hstep nofun
  | closeReleased succeeds =>
    simp only [Recorder.releaseStep] at hstep
    split at hstep
    · split at hstep <;> obtain rfl := Option.some.inj hstep
      · exact { hi with }
      · exact { hi.recordFatal none with }
    · exact absurd hstep nofun
  | recordReleased succeeds =>
    simp only [Recorder.releaseStep] at hstep
    split at hstep
    · split at hstep
      · exact absurd hstep nofun
      · split at hstep <;> obtain rfl := Option.some.inj hstep
        · exact { hi.append .released rfl with }
        · exact { hi.recordFatal none with }
    · exact absurd hstep nofun
  | publishReleased =>
    simp only [Recorder.releaseStep] at hstep
    split at hstep
    · obtain rfl := Option.some.inj hstep
      exact { hi with
        connected := nofun
        reconnecting := nofun
        closed := fun hclosed => ⟨(hi.closed hclosed).1, nofun⟩ }
    · exact absurd hstep nofun
  | _ => simp [Recorder.releaseStep] at hstep

theorem Consistent.closeStep (hi : s.Consistent) {move : Move Event}
    (hstep : s.closeStep move = some s') : s'.Consistent := by
  cases move with
  | beginClose =>
    simp only [Recorder.closeStep] at hstep
    split at hstep
    · exact absurd hstep nofun
    · rename_i hopen
      simp only [not_or, Bool.not_eq_true] at hopen
      have hjoined : ¬ s.closed = true := by
        rw [hopen.1]
        exact nofun
      split at hstep <;> obtain rfl := Option.some.inj hstep <;>
        exact { hi with
          reconnecting := nofun
          closing := nofun
          joined := by
            rintro (hclosed | hclose | hclose)
            · exact absurd hclosed hjoined
            · exact absurd hclose nofun
            · exact absurd hclose nofun
          closed := fun hclosed => absurd hclosed hjoined }
  | closeSource succeeds =>
    simp only [Recorder.closeStep] at hstep
    split at hstep
    · rename_i id hpoint
      obtain rfl := Option.some.inj hstep
      exact { hi with
        closing := fun hc => absurd (hpoint.symm.trans (hi.closing hc)) nofun
        joined := by
          rintro (hclosed | hclose | hclose)
          · exact hi.joined (.inl hclosed)
          · exact absurd hclose nofun
          · exact absurd hclose nofun }
    · exact absurd hstep nofun
  | join =>
    simp only [Recorder.closeStep] at hstep
    split at hstep
    · rename_i hpoint hfinished
      obtain rfl := Option.some.inj hstep
      exact { hi with
        closing := fun hc => absurd (hpoint.symm.trans (hi.closing hc)) nofun
        joined := fun _ => hfinished }
    · exact absurd hstep nofun
  | complete succeeds =>
    simp only [Recorder.closeStep] at hstep
    split at hstep
    · rename_i hpoint
      have hclosing : s.closing ≠ false :=
        fun hc => absurd (hpoint.symm.trans (hi.closing hc)) nofun
      have hfinished : s.ingest = .finished := hi.joined (.inr (.inl hpoint))
      split at hstep <;> obtain rfl := Option.some.inj hstep
      · refine { hi with
          closing := fun hc => absurd hc hclosing
          joined := fun _ => hfinished
          inOrder := fun hfault => ?_ }
        show s.returned = uarts (if s.sessionActive then s.journal ++ [.completed] else s.journal)
          ++ s.inFlight
        split
        · exact (hi.append .completed rfl).inOrder hfault
        · exact hi.inOrder hfault
      · exact { hi with
          closing := fun hc => absurd hc hclosing
          joined := fun _ => hfinished }
    · exact absurd hstep nofun
  | publishClosed =>
    simp only [Recorder.closeStep] at hstep
    split at hstep
    · rename_i hpoint
      have hclosing : s.closing ≠ false :=
        fun hc => absurd (hpoint.symm.trans (hi.closing hc)) nofun
      have hfinished : s.ingest = .finished := hi.joined (.inr (.inr hpoint))
      obtain rfl := Option.some.inj hstep
      exact { hi with
        fault := fun hfault => ⟨(hi.fault hfault).1, rfl⟩
        connected := nofun
        held := fun id hid => by
          rw [show s.ingest.held = none by rw [hfinished]; rfl] at hid
          exact absurd hid nofun
        reconnecting := nofun
        closing := fun hc => absurd hc hclosing
        joined := fun _ => hfinished
        closed := fun _ => ⟨Bool.not_eq_false _ ▸ hclosing, nofun⟩ }
    · exact absurd hstep nofun
  | settle =>
    simp only [Recorder.closeStep] at hstep
    split at hstep
    · rename_i hpoint
      obtain rfl := Option.some.inj hstep
      exact { hi with
        closing := fun hc => absurd (hpoint.symm.trans (hi.closing hc)) nofun
        joined := by
          rintro (hclosed | hclose | hclose)
          · exact hi.joined (.inl hclosed)
          · exact absurd hclose nofun
          · exact absurd hclose nofun }
    · exact absurd hstep nofun
  | closeAgain =>
    simp only [Recorder.closeStep] at hstep
    split at hstep
    · obtain rfl := Option.some.inj hstep
      exact { hi with }
    · split at hstep
      · obtain rfl := Option.some.inj hstep
        exact { hi with }
      · exact absurd hstep nofun
  | waiterReturns =>
    simp only [Recorder.closeStep] at hstep
    split at hstep
    · obtain rfl := Option.some.inj hstep
      exact { hi with }
    · exact absurd hstep nofun
  | _ => simp [Recorder.closeStep] at hstep

/-- A source comes where there was none. -/
theorem Consistent.newSource (hi : s.Consistent) (hsource : s.source = none)
    (hfault : s.fault = false) (hclosing : s.closing = false) :
    Consistent { s with
      source := some (s.generation + 1), generation := s.generation + 1, state := .connected,
      journal := s.journal ++ [.connected] } := by
  refine { hi.append .connected rfl with
    fault := fun h => absurd (hfault.symm.trans h) nofun
    connected := fun _ => hfault
    held := fun id hid _ => ?_
    reconnecting := nofun
    closed := fun hclosed => absurd (hclosing.symm.trans (hi.closed hclosed).1) nofun }
  exact absurd (hsource.symm.trans (hi.held id hid hfault)) nofun

theorem Consistent.otherStep (hi : s.Consistent) {move : Move Event}
    (hstep : s.otherStep move = some s') : s'.Consistent := by
  cases move with
  | detach =>
    simp only [Recorder.otherStep] at hstep
    split at hstep
    · rename_i h
      obtain rfl := Option.some.inj hstep
      refine { hi with
        fault := fun hfault => ⟨(hi.fault hfault).1, rfl⟩
        held := fun id hid hfault => ?_
        reconnecting := nofun }
      -- the thread that held the source waits for it to change
      have hwaiting := hi.reconnecting h.2.1 h.2.2.1 hfault id (hi.held id hid hfault)
      rw [show s.ingest.held = none by rw [hwaiting]; rfl] at hid
      exact absurd hid nofun
    · exact absurd hstep nofun
  | reconnect =>
    simp only [Recorder.otherStep] at hstep
    split at hstep
    · rename_i h
      obtain rfl := Option.some.inj hstep
      exact hi.newSource h.2.2.2.1 h.2.2.2.2.1 h.2.2.1
    · exact absurd hstep nofun
  | reconnectTimesOut =>
    simp only [Recorder.otherStep] at hstep
    split at hstep
    · obtain rfl := Option.some.inj hstep
      exact { hi with
        connected := nofun
        reconnecting := nofun
        closed := fun hclosed => ⟨(hi.closed hclosed).1, nofun⟩ }
    · exact absurd hstep nofun
  | beginReacquire =>
    simp only [Recorder.otherStep] at hstep
    split at hstep
    · obtain rfl := Option.some.inj hstep
      exact { hi with
        connected := nofun
        reconnecting := nofun
        closed := fun hclosed => ⟨(hi.closed hclosed).1, nofun⟩ }
    · exact absurd hstep nofun
  | reacquire =>
    simp only [Recorder.otherStep] at hstep
    split at hstep
    · rename_i h
      obtain rfl := Option.some.inj hstep
      exact { hi.newSource h.2.2.2.1 h.2.2.2.2 h.2.2.1 with }
    · exact absurd hstep nofun
  | reacquireFails =>
    simp only [Recorder.otherStep] at hstep
    split at hstep
    · obtain rfl := Option.some.inj hstep
      have hstate : ∀ state : RecorderState, state = .connected ∨ state = .reconnecting →
          (if s.sessionActive then RecorderState.released else .disconnected) ≠ state := by
        rintro _ (rfl | rfl) <;> split <;> exact nofun
      exact { hi with
        connected := fun h => absurd h (hstate _ (.inl rfl))
        reconnecting := fun h => absurd h (hstate _ (.inr rfl))
        closed := fun hclosed => ⟨(hi.closed hclosed).1, hstate _ (.inl rfl)⟩ }
    · exact absurd hstep nofun
  | fatal =>
    obtain rfl := Option.some.inj hstep
    exact hi.recordFatal none
  | failSession =>
    simp only [Recorder.otherStep] at hstep
    split at hstep
    · obtain rfl := Option.some.inj hstep
      exact { hi with }
    · exact absurd hstep nofun
  | _ => simp [Recorder.otherStep] at hstep

theorem Consistent.step (hi : s.Consistent) {move : Move Event} (hstep : s.step move = some s') :
    s'.Consistent := by
  unfold Recorder.step at hstep
  split at hstep
  all_goals first
    | exact hi.readStep hstep
    | exact hi.handleStep hstep
    | exact hi.disconnectStep hstep
    | exact hi.releaseStep hstep
    | exact hi.closeStep hstep
    | exact hi.otherStep hstep

theorem Consistent.run (hi : s.Consistent) {moves : List (Move Event)}
    (hrun : s.run moves = some s') : s'.Consistent := by
  induction moves generalizing s with
  | nil =>
    obtain rfl := Option.some.inj hrun
    exact hi
  | cons move moves ih =>
    obtain ⟨s₁, hstep, hrest⟩ := Option.bind_eq_some_iff.mp hrun
    exact ih (hi.step hstep) hrest

end Recorder

end IngestLoop
