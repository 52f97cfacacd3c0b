/-
# The steps of a recorder without fault

`Effect` says once what each step of the recorder's threads can do to a recorder that is
without fault after it; `effect` reads it off the step.  From it follow what such a
recorder's threads know of a release under way, and how a session comes to its end.
-/
import DutchMate.IngestLoop

namespace IngestLoop

variable {Event : Type}

/-- `complete_session` has been called. -/
def ClosePoint.completed : ClosePoint → Bool
  | publishing => true
  | settling => true
  | done => true
  | _ => false

/-- The source is not closed yet. -/
def ClosePoint.early : ClosePoint → Bool
  | idle => true
  | closing _ => true
  | _ => false

/-- The points the thread comes to after a read that raised. -/
def IngestPoint.handlesRaise : IngestPoint Event → Bool
  | raised _ _ => true
  | notReleasing _ _ => true
  | drainingShutdown _ _ => true
  | notDraining _ _ => true
  | _ => false

/-- How the ingest thread sees the result of a read. -/
def readMove : ReadResult Event → Move Event
  | .event event => .readEvent event
  | .nothing => .readNothing
  | .raised failure => .readRaises failure

namespace Recorder

/-- What one step does to a recorder that is without fault after it. -/
inductive Effect (r : Recorder Event) : Move Event → Recorder Event → Prop
  | sampleNothing (hpoint : r.ingest = .sampling) (hsource : r.source = none)
      (hclosing : r.closing = true) : Effect r .sample { r with ingest := .finished }
  | sample (id : ℕ) (hpoint : r.ingest = .sampling) (hsource : r.source = some id) :
      Effect r .sample { r with ingest := .reading id }
  | readEvent (id : ℕ) (event : Event) (hpoint : r.ingest = .reading id) :
      Effect r (.readEvent event) { r with
        ingest := .admitting id event
        returned := r.returned ++ [(id, event)] }
  | readNothing (id : ℕ) (hpoint : r.ingest = .reading id) :
      Effect r .readNothing { r with ingest := .receivedNothing id }
  | readRaises (id : ℕ) (failure : Failure) (hpoint : r.ingest = .reading id) :
      Effect r (.readRaises failure) { r with ingest := .raised id failure }
  | admitEvent (id : ℕ) (event : Event) (hpoint : r.ingest = .admitting id event)
      (hactive : r.sessionActive = true) :
      Effect r (.admitEvent true) { r with
        ingest := .sampling
        journal := r.journal ++ [.uart id event] }
  | inspectReleased (id : ℕ) (hpoint : r.ingest = .receivedNothing id)
      (hreleasing : r.releasing = true) :
      Effect r .inspect { r with ingest := .drainingRelease id }
  | inspect (id : ℕ) (hpoint : r.ingest = .receivedNothing id) :
      Effect r .inspect { r with ingest := .checkingClosing id }
  | finishClosing (id : ℕ) (hpoint : r.ingest = .checkingClosing id) (hclosing : r.closing = true)
      (hcomplete : r.sourceCloseComplete = true) :
      Effect r (.checkClosing false) { r with ingest := .finished }
  | checkClosing (id : ℕ) (pending : Bool) (hpoint : r.ingest = .checkingClosing id) :
      Effect r (.checkClosing pending) { r with ingest := .sampling }
  | enterReleaseDrain (id : ℕ) (failure : Failure) (hpoint : r.ingest = .raised id failure)
      (hreleasing : r.releasing = true) :
      Effect r .enterReleaseDrain { r with ingest := .drainingRelease id }
  | notReleasing (id : ℕ) (failure : Failure) (hpoint : r.ingest = .raised id failure)
      (hreleasing : r.releasing = false) :
      Effect r .enterReleaseDrain { r with ingest := .notReleasing id failure }
  | releasePending (id : ℕ) (hpoint : r.ingest = .drainingRelease id) :
      Effect r (.finishReleaseDrain true) { r with ingest := .sampling }
  | releaseDrained (id : ℕ) (hpoint : r.ingest = .drainingRelease id)
      (hcomplete : r.releaseCloseComplete = true) :
      Effect r (.finishReleaseDrain false) { r with
        source := none
        releaseDrained := true
        ingest := .sampling }
  | enterShutdownDrain (id : ℕ) (failure : Failure) (hpoint : r.ingest = .notReleasing id failure)
      (hclosing : r.closing = true) :
      Effect r .enterShutdownDrain { r with ingest := .drainingShutdown id failure }
  | notClosing (id : ℕ) (failure : Failure) (hpoint : r.ingest = .notReleasing id failure)
      (hclosing : r.closing = false) :
      Effect r .enterShutdownDrain { r with ingest := .notDraining id failure }
  | shutdownPending (id : ℕ) (failure : Failure) (hpoint : r.ingest = .drainingShutdown id failure) :
      Effect r (.finishShutdownDrain true) { r with ingest := .sampling }
  | shutdownDrained (id : ℕ) (failure : Failure) (hpoint : r.ingest = .drainingShutdown id failure)
      (hcomplete : r.sourceCloseComplete = true) :
      Effect r (.finishShutdownDrain false) { r with ingest := .notDraining id failure }
  | leave (id : ℕ) (failure : Failure) (hpoint : r.ingest = .notDraining id failure)
      (hclosing : r.closing = true) : Effect r .leaveOrRecord { r with ingest := .finished }
  | disconnected (id : ℕ) (hpoint : r.ingest = .notDraining id .disconnected)
      (hclosing : r.closing = false) :
      Effect r .leaveOrRecord { r with ingest := .recording id }
  | failed (id : ℕ) (hpoint : r.ingest = .notDraining id .failed) (hclosing : r.closing = false) :
      Effect r .leaveOrRecord { r with ingest := .failing id }
  | skipDisconnect (id : ℕ) (succeeds : Bool) (hpoint : r.ingest = .recording id) :
      Effect r (.recordDisconnect succeeds) { r with ingest := .sampling }
  | recordDisconnect (id : ℕ) (hpoint : r.ingest = .recording id)
      (hactive : r.sessionActive = true) :
      Effect r (.recordDisconnect true) { r with
        ingest := .publishing id
        journal := r.journal ++ [.unexpectedDisconnect, .reconnectStarted] }
  | skipPublish (id : ℕ) (hpoint : r.ingest = .publishing id) :
      Effect r .publishDisconnect { r with ingest := .sampling }
  | publishDisconnect (id : ℕ) (hpoint : r.ingest = .publishing id) :
      Effect r .publishDisconnect { r with state := .reconnecting, ingest := .waiting id }
  | wake (id : ℕ) (hpoint : r.ingest = .waiting id) :
      Effect r .wake { r with ingest := .sampling }
  | beginRelease (id : ℕ) (hsource : r.source = some id) (hidle : r.release.inProgress = false)
      (hclosing : r.closing = false) :
      Effect r .beginRelease { r with
        releasing := true
        releaseCloseComplete := false
        releaseDrained := false
        release := .requesting id }
  | requestRelease (id : ℕ) (hrelease : r.release = .requesting id)
      (hactive : r.sessionActive = true) :
      Effect r (.requestRelease true) { r with
        release := .closing id
        journal := r.journal ++ [.releaseRequested] }
  | closeReleased (id : ℕ) (hrelease : r.release = .closing id) :
      Effect r (.closeReleased true) { r with
        releaseCloseComplete := true
        closedSources := id :: r.closedSources
        release := .waiting id }
  | recordReleased (id : ℕ) (hrelease : r.release = .waiting id)
      (hdrained : r.releaseDrained = true) (hactive : r.sessionActive = true) :
      Effect r (.recordReleased true) { r with
        release := .publishing id
        journal := r.journal ++ [.released] }
  | publishReleased (id : ℕ) (hrelease : r.release = .publishing id) :
      Effect r .publishReleased { r with
        state := .released
        releasing := false
        release := .returned }
  | requestFails (id : ℕ) (succeeds : Bool) (hrelease : r.release = .requesting id)
      (hactive : succeeds = true → r.sessionActive = false) (hclosed : r.closed = true) :
      Effect r (.requestRelease succeeds) { r with release := .raised }
  | closeFails (id : ℕ) (hrelease : r.release = .closing id) (hclosed : r.closed = true) :
      Effect r (.closeReleased false) { r with releaseCloseComplete := true, release := .raised }
  | releasedFails (id : ℕ) (succeeds : Bool) (hrelease : r.release = .waiting id)
      (hclosed : r.closed = true) :
      Effect r (.recordReleased succeeds) { r with release := .raised }
  | beginClose (id : ℕ) (hsource : r.source = some id) (hclosing : r.closing = false) :
      Effect r .beginClose { r with
        closing := true
        sourceCloseComplete := false
        close := .closing id }
  | beginCloseNothing (hsource : r.source = none) (hclosing : r.closing = false) :
      Effect r .beginClose { r with
        closing := true
        sourceCloseComplete := true
        close := .joining }
  | closeSource (id : ℕ) (succeeds : Bool) (hclose : r.close = .closing id) :
      Effect r (.closeSource succeeds) { r with
        sourceCloseComplete := true
        closeError := if succeeds then none else some .source
        closedSources := if succeeds then id :: r.closedSources else r.closedSources
        close := .joining }
  | join (hclose : r.close = .joining) (hpoint : r.ingest = .finished) :
      Effect r .join { r with close := .completing }
  | complete (hclose : r.close = .completing) :
      Effect r (.complete true) { r with
        sessionActive := false
        journal := if r.sessionActive then r.journal ++ [.completed] else r.journal
        close := .publishing }
  | completeFails (hclose : r.close = .completing) :
      Effect r (.complete false) { r with
        closeError := r.closeError.or (some .persistence)
        close := .publishing }
  | publishClosed (hclose : r.close = .publishing) :
      Effect r .publishClosed { r with
        source := none
        state := .closed
        closed := true
        close := .settling }
  | settle (hclose : r.close = .settling) :
      Effect r .settle { r with
        closeComplete := true
        outcomes := r.outcomes ++ [r.closeError]
        close := .done }
  | closeAgain (hclosed : r.closed = true) :
      Effect r .closeAgain { r with outcomes := r.outcomes ++ [r.closeError] }
  | awaitClose (waiters : ℕ) : Effect r .closeAgain { r with waiters := waiters }
  | waiterReturns (waiters : ℕ) (hcomplete : r.closeComplete = true) :
      Effect r .waiterReturns { r with
        waiters := waiters
        outcomes := r.outcomes ++ [r.closeError] }
  | detach (hclosing : r.closing = false) (hidle : r.release.inProgress = false)
      (hstate : r.state = .reconnecting) : Effect r .detach { r with source := none }
  | reconnect (hclosing : r.closing = false) (hidle : r.release.inProgress = false)
      (hsource : r.source = none) (hactive : r.sessionActive = true) :
      Effect r .reconnect { r with
        source := some (r.generation + 1)
        generation := r.generation + 1
        state := .connected
        journal := r.journal ++ [.connected] }
  | reconnectTimesOut (hclosing : r.closing = false) (hsource : r.source = none) :
      Effect r .reconnectTimesOut { r with state := .disconnected, sessionActive := false }
  | reacquire (hclosing : r.closing = false) (hidle : r.release.inProgress = false)
      (hsource : r.source = none) :
      Effect r .reacquire { r with
        source := some (r.generation + 1)
        generation := r.generation + 1
        state := .connected
        sessionActive := true
        journal := r.journal ++ [.connected] }
  | state (move : Move Event) (state : RecorderState)
      (hmove : move = .beginReacquire ∨ move = .reacquireFails ∨ move = .fatal) :
      Effect r move { r with state := state }

variable {r r' : Recorder Event}

/-- A recorder that is without fault after `_record_fatal` was closed before. -/
theorem recordFatal_none (h : (r.recordFatal none).fault = false) :
    r.recordFatal none = r ∧ r.closed = true := by
  unfold recordFatal at h ⊢
  split at h
  · rename_i hskipped
    rw [if_pos hskipped]
    refine ⟨rfl, ?_⟩
    rcases hskipped with hfault | hclosed | ⟨hsome, _⟩
    · exact Bool.noConfusion (h.symm.trans hfault)
    · exact hclosed
    · exact Bool.noConfusion hsome
  · exact absurd h nofun

theorem Effect.ofRead (hi : r.Consistent) {move : Move Event} (hstep : r.readStep move = some r')
    (hfault : r'.fault = false) : r.Effect move r' := by
  cases move with
  | sample =>
    simp only [Recorder.readStep] at hstep
    split at hstep
    · rename_i hpoint hsource
      split at hstep
      · rename_i hended
        obtain rfl := Option.some.inj hstep
        have hclosing : r.closing = true := by
          rcases hended with h | h
          · exact Bool.noConfusion (hfault.symm.trans h)
          · exact h
        exact .sampleNothing hpoint hsource hclosing
      · cases hstep
    · rename_i id hpoint hsource
      split at hstep <;> obtain rfl := Option.some.inj hstep
      · rename_i h
        exact Bool.noConfusion (hfault.symm.trans h)
      · exact .sample id hpoint hsource
    · cases hstep
  | readEvent event =>
    simp only [Recorder.readStep] at hstep
    split at hstep
    · rename_i id hpoint
      obtain rfl := Option.some.inj hstep
      exact .readEvent id event hpoint
    · cases hstep
  | readNothing =>
    simp only [Recorder.readStep] at hstep
    split at hstep
    · rename_i id hpoint
      obtain rfl := Option.some.inj hstep
      exact .readNothing id hpoint
    · cases hstep
  | readRaises failure =>
    simp only [Recorder.readStep] at hstep
    split at hstep
    · rename_i id hpoint
      obtain rfl := Option.some.inj hstep
      exact .readRaises id failure hpoint
    · cases hstep
  | admitEvent succeeds =>
    simp only [Recorder.readStep] at hstep
    split at hstep
    · rename_i id event hpoint
      split at hstep
      · cases hstep
      · split at hstep
        · rename_i h
          obtain rfl := Option.some.inj hstep
          obtain ⟨rfl, hactive⟩ := h
          exact .admitEvent id event hpoint hactive
        · -- its own source: the fault takes effect
          obtain rfl := Option.some.inj hstep
          exact Bool.noConfusion
            (hfault.symm.trans (hi.recordFatal_fault (by rw [hpoint]; rfl : r.ingest.held = some id)))
    · cases hstep
  | _ => simp [Recorder.readStep] at hstep

theorem Effect.ofHandle (hi : r.Consistent) {move : Move Event}
    (hstep : r.handleStep move = some r') (hfault : r'.fault = false) : r.Effect move r' := by
  cases move with
  | inspect =>
    simp only [Recorder.handleStep] at hstep
    split at hstep
    · rename_i id hpoint
      split at hstep <;> obtain rfl := Option.some.inj hstep
      · rename_i h
        exact .inspectReleased id hpoint h.1
      · exact .inspect id hpoint
    · cases hstep
  | checkClosing pending =>
    simp only [Recorder.handleStep] at hstep
    split at hstep
    · rename_i id hpoint
      split at hstep <;> obtain rfl := Option.some.inj hstep
      · rename_i h
        obtain ⟨hclosing, hcomplete, rfl⟩ := h
        exact .finishClosing id hpoint hclosing hcomplete
      · exact .checkClosing id pending hpoint
    · cases hstep
  | enterReleaseDrain =>
    simp only [Recorder.handleStep] at hstep
    split at hstep
    · rename_i id failure hpoint
      split at hstep <;> obtain rfl := Option.some.inj hstep
      · exact .enterReleaseDrain id failure hpoint ‹_›
      · exact .notReleasing id failure hpoint (Bool.not_eq_true _ ▸ ‹¬ _›)
    · cases hstep
  | finishReleaseDrain pending =>
    simp only [Recorder.handleStep] at hstep
    split at hstep
    · rename_i id hpoint
      split at hstep
      · rename_i hended
        split at hstep <;> obtain rfl := Option.some.inj hstep
        · rename_i hpending
          subst hpending
          exact .releasePending id hpoint
        · rename_i hpending
          obtain rfl := Bool.not_eq_true _ ▸ hpending
          have hcomplete : r.releaseCloseComplete = true :=
            hended.resolve_right fun h => Bool.noConfusion (hfault.symm.trans h)
          have hsource : r.source = some id := hi.held id (by rw [hpoint]; rfl) hfault
          rw [if_pos hsource]
          exact .releaseDrained id hpoint hcomplete
      · cases hstep
    · cases hstep
  | enterShutdownDrain =>
    simp only [Recorder.handleStep] at hstep
    split at hstep
    · rename_i id failure hpoint
      split at hstep <;> obtain rfl := Option.some.inj hstep
      · exact .enterShutdownDrain id failure hpoint ‹_›
      · exact .notClosing id failure hpoint (Bool.not_eq_true _ ▸ ‹¬ _›)
    · cases hstep
  | finishShutdownDrain pending =>
    simp only [Recorder.handleStep] at hstep
    split at hstep
    · rename_i id failure hpoint
      split at hstep
      · rename_i hcomplete
        split at hstep <;> obtain rfl := Option.some.inj hstep
        · rename_i hpending
          subst hpending
          exact .shutdownPending id failure hpoint
        · rename_i hpending
          obtain rfl := Bool.not_eq_true _ ▸ hpending
          exact .shutdownDrained id failure hpoint hcomplete
      · cases hstep
    · cases hstep
  | leaveOrRecord =>
    simp only [Recorder.handleStep] at hstep
    split at hstep
    · rename_i id failure hpoint
      split at hstep
      · obtain rfl := Option.some.inj hstep
        exact .leave id failure hpoint ‹_›
      · rename_i hclosing
        have hclosing : r.closing = false := Bool.not_eq_true _ ▸ hclosing
        cases failure <;> obtain rfl := Option.some.inj hstep
        · exact .disconnected id hpoint hclosing
        · exact .failed id hpoint hclosing
    · cases hstep
  | fail =>
    simp only [Recorder.handleStep] at hstep
    split at hstep
    · rename_i id hpoint
      obtain rfl := Option.some.inj hstep
      exact Bool.noConfusion
        (hfault.symm.trans (hi.recordFatal_fault (by rw [hpoint]; rfl : r.ingest.held = some id)))
    · cases hstep
  | _ => simp [Recorder.handleStep] at hstep

theorem Effect.ofDisconnect (hi : r.Consistent) {move : Move Event}
    (hstep : r.disconnectStep move = some r') (hfault : r'.fault = false) : r.Effect move r' := by
  cases move with
  | recordDisconnect succeeds =>
    simp only [Recorder.disconnectStep] at hstep
    split at hstep
    · rename_i id hpoint
      split at hstep
      · cases hstep
      · split at hstep
        · obtain rfl := Option.some.inj hstep
          exact .skipDisconnect id succeeds hpoint
        · split at hstep <;> obtain rfl := Option.some.inj hstep
          · rename_i h
            obtain ⟨rfl, hactive⟩ := h
            exact .recordDisconnect id hpoint hactive
          · exact Bool.noConfusion
              (hfault.symm.trans (hi.recordFatal_fault (by rw [hpoint]; rfl : r.ingest.held = some id)))
    · cases hstep
  | publishDisconnect =>
    simp only [Recorder.disconnectStep] at hstep
    split at hstep
    · rename_i id hpoint
      split at hstep <;> obtain rfl := Option.some.inj hstep
      · exact .skipPublish id hpoint
      · exact .publishDisconnect id hpoint
    · cases hstep
  | wake =>
    simp only [Recorder.disconnectStep] at hstep
    split at hstep
    · rename_i id hpoint
      split at hstep
      · obtain rfl := Option.some.inj hstep
        exact .wake id hpoint
      · cases hstep
    · cases hstep
  | _ => simp [Recorder.disconnectStep] at hstep

theorem Effect.ofRelease {move : Move Event} (hstep : r.releaseStep move = some r')
    (hfault : r'.fault = false) : r.Effect move r' := by
  cases move with
  | beginRelease =>
    simp only [Recorder.releaseStep] at hstep
    split at hstep
    · rename_i id hsource
      split at hstep
      · rename_i h
        obtain rfl := Option.some.inj hstep
        exact .beginRelease id hsource h.1 h.2.2
      · cases hstep
    · cases hstep
  | requestRelease succeeds =>
    simp only [Recorder.releaseStep] at hstep
    split at hstep
    · rename_i id hrelease
      split at hstep <;> obtain rfl := Option.some.inj hstep
      · rename_i h
        obtain ⟨rfl, hactive⟩ := h
        exact .requestRelease id hrelease hactive
      · rename_i h
        obtain ⟨hsame, hclosed⟩ := recordFatal_none hfault
        rw [hsame]
        refine .requestFails id succeeds hrelease (fun hsucceeds => ?_) hclosed
        exact Bool.not_eq_true _ ▸ fun hactive => h ⟨hsucceeds, hactive⟩
    · cases hstep
  | closeReleased succeeds =>
    simp only [Recorder.releaseStep] at hstep
    split at hstep
    · rename_i id hrelease
      split at hstep <;> obtain rfl := Option.some.inj hstep
      · rename_i h
        subst h
        exact .closeReleased id hrelease
      · rename_i h
        obtain rfl := Bool.not_eq_true _ ▸ h
        obtain ⟨hsame, hclosed⟩ := recordFatal_none hfault
        rw [hsame]
        exact .closeFails id hrelease hclosed
    · cases hstep
  | recordReleased succeeds =>
    simp only [Recorder.releaseStep] at hstep
    split at hstep
    · rename_i id hrelease
      split at hstep
      · cases hstep
      · rename_i hdrained
        split at hstep <;> obtain rfl := Option.some.inj hstep
        · rename_i h
          obtain ⟨_, rfl, hactive⟩ := h
          exact .recordReleased id hrelease (Bool.not_eq_false _ ▸ hdrained) hactive
        · obtain ⟨hsame, hclosed⟩ := recordFatal_none hfault
          rw [hsame]
          exact .releasedFails id succeeds hrelease hclosed
    · cases hstep
  | publishReleased =>
    simp only [Recorder.releaseStep] at hstep
    split at hstep
    · rename_i id hrelease
      obtain rfl := Option.some.inj hstep
      exact .publishReleased id hrelease
    · cases hstep
  | _ => simp [Recorder.releaseStep] at hstep

theorem Effect.ofClose {move : Move Event} (hstep : r.closeStep move = some r') :
    r.Effect move r' := by
  cases move with
  | beginClose =>
    simp only [Recorder.closeStep] at hstep
    split at hstep
    · cases hstep
    · rename_i h
      rw [not_or, Bool.not_eq_true, Bool.not_eq_true] at h
      split at hstep <;> obtain rfl := Option.some.inj hstep
      · exact .beginClose _ ‹_› h.2
      · exact .beginCloseNothing ‹_› h.2
  | closeSource succeeds =>
    simp only [Recorder.closeStep] at hstep
    split at hstep
    · rename_i id hclose
      obtain rfl := Option.some.inj hstep
      exact .closeSource id succeeds hclose
    · cases hstep
  | join =>
    simp only [Recorder.closeStep] at hstep
    split at hstep
    · rename_i hclose hpoint
      obtain rfl := Option.some.inj hstep
      exact .join hclose hpoint
    · cases hstep
  | complete succeeds =>
    simp only [Recorder.closeStep] at hstep
    split at hstep
    · rename_i hclose
      split at hstep <;> obtain rfl := Option.some.inj hstep
      · rename_i h
        subst h
        exact .complete hclose
      · rename_i h
        obtain rfl := Bool.not_eq_true _ ▸ h
        exact .completeFails hclose
    · cases hstep
  | publishClosed =>
    simp only [Recorder.closeStep] at hstep
    split at hstep
    · obtain rfl := Option.some.inj hstep
      exact .publishClosed ‹_›
    · cases hstep
  | settle =>
    simp only [Recorder.closeStep] at hstep
    split at hstep
    · obtain rfl := Option.some.inj hstep
      exact .settle ‹_›
    · cases hstep
  | closeAgain =>
    simp only [Recorder.closeStep] at hstep
    split at hstep
    · obtain rfl := Option.some.inj hstep
      exact .closeAgain ‹_›
    · split at hstep
      · obtain rfl := Option.some.inj hstep
        exact .awaitClose _
      · cases hstep
  | waiterReturns =>
    simp only [Recorder.closeStep] at hstep
    split at hstep
    · rename_i h
      obtain rfl := Option.some.inj hstep
      exact .waiterReturns _ h.1
    · cases hstep
  | _ => simp [Recorder.closeStep] at hstep

theorem Effect.ofOther {move : Move Event} (hstep : r.otherStep move = some r')
    (hfault : r'.fault = false) : r.Effect move r' := by
  cases move with
  | detach =>
    simp only [Recorder.otherStep] at hstep
    split at hstep
    · rename_i h
      obtain rfl := Option.some.inj hstep
      exact .detach h.2.2.1 h.1 h.2.1
    · cases hstep
  | reconnect =>
    simp only [Recorder.otherStep] at hstep
    split at hstep
    · rename_i h
      obtain rfl := Option.some.inj hstep
      exact .reconnect h.2.2.1 h.1 h.2.2.2.1 h.2.2.2.2.2
    · cases hstep
  | reconnectTimesOut =>
    simp only [Recorder.otherStep] at hstep
    split at hstep
    · rename_i h
      obtain rfl := Option.some.inj hstep
      exact .reconnectTimesOut h.2.2.1 h.2.2.2
    · cases hstep
  | beginReacquire =>
    simp only [Recorder.otherStep] at hstep
    split at hstep
    · obtain rfl := Option.some.inj hstep
      exact .state _ _ (.inl rfl)
    · cases hstep
  | reacquire =>
    simp only [Recorder.otherStep] at hstep
    split at hstep
    · rename_i h
      obtain rfl := Option.some.inj hstep
      exact .reacquire h.2.2.1 h.1 h.2.2.2.1
    · cases hstep
  | reacquireFails =>
    simp only [Recorder.otherStep] at hstep
    split at hstep
    · obtain rfl := Option.some.inj hstep
      exact .state _ _ (.inr (.inl rfl))
    · cases hstep
  | fatal =>
    obtain rfl := Option.some.inj hstep
    rw [(recordFatal_none hfault).1]
    exact .state _ r.state (.inr (.inr rfl))
  | failSession =>
    simp only [Recorder.otherStep] at hstep
    split at hstep
    · rename_i h
      obtain rfl := Option.some.inj hstep
      exact Bool.noConfusion (hfault.symm.trans h)
    · cases hstep
  | _ => simp [Recorder.otherStep] at hstep

theorem effect (hi : r.Consistent) {move : Move Event} (hstep : r.step move = some r')
    (hfault : r'.fault = false) : r.Effect move r' := by
  unfold Recorder.step at hstep
  split at hstep
  all_goals first
    | exact .ofRead hi hstep hfault
    | exact .ofHandle hi hstep hfault
    | exact .ofDisconnect hi hstep hfault
    | exact .ofRelease hstep hfault
    | exact .ofClose hstep
    | exact .ofOther hstep hfault

/-- A fault stays. -/
theorem Effect.fault {move : Move Event} (he : r.Effect move r') : r'.fault = r.fault := by
  cases he <;> rfl

/-- What the threads of a recorder without fault know of a release. -/
structure ReleaseOrder (r : Recorder Event) : Prop where
  releasing : r.release.inProgress = true → r.releasing = true
  inProgress : r.closed = false → r.releasing = true → r.release.inProgress = true
  drained : r.release.inProgress = true → r.releaseDrained = true → r.source = none
  publishing : ∀ id, r.release = .publishing id → r.releaseDrained = true
  draining : ∀ id, r.ingest = .drainingRelease id → r.releasing = true

/-- What they know of the end of the session. -/
structure SessionEnd (r : Recorder Event) : Prop where
  active : r.source ≠ none → r.close.completed = false → r.sessionActive = true
  completed : r.close.completed = true → r.closeError = none → r.sessionActive = false
  present : .completed ∈ r.journal → r.close.completed = true ∧ r.sessionActive = false
  last : ∀ before after, r.journal = before ++ .completed :: after → after = []
  early : r.close.early = true → r.closeError = none
  closed : r.closed = true → r.close = .settling ∨ r.close = .done
  settling : r.close = .settling ∨ r.close = .done → r.closed = true
  closeComplete : r.closeComplete = true → r.closed = true
  unreported : r.closed = false → r.outcomes = []
  reported : ∀ outcome ∈ r.outcomes, outcome = r.closeError
  started : r.closing = false → r.ingest ≠ .finished

/-! ## The release and the session in a recorder without fault -/

theorem releaseOrder_initial : (initial : Recorder Event).ReleaseOrder where
  releasing := nofun
  inProgress _ := nofun
  drained := nofun
  publishing := nofun
  draining := nofun

/-- The ingest thread moves on, not into a release's drain. -/
theorem ReleaseOrder.toPoint (ho : r.ReleaseOrder) {point : IngestPoint Event}
    (hpoint : ∀ id, point ≠ .drainingRelease id) : ReleaseOrder { r with ingest := point } :=
  { ho with draining := fun id h => absurd h (hpoint id) }

/-- With a release under way that is drained, the thread does not hold a source. -/
theorem ReleaseOrder.not_draining (ho : r.ReleaseOrder) (hi : r.Consistent)
    (hfault : r.fault = false) {id : ℕ} (hrelease : r.release = .publishing id) (other : ℕ) :
    r.ingest ≠ .drainingRelease other := by
  intro hpoint
  have hsource := hi.held other (by rw [hpoint]; rfl) hfault
  have hnone := ho.drained (by rw [hrelease]; rfl) (ho.publishing id hrelease)
  exact absurd (hsource.symm.trans hnone) nofun

theorem Effect.releaseOrder {move : Move Event} (he : r.Effect move r') (hi : r.Consistent)
    (hfault : r.fault = false) (ho : r.ReleaseOrder) : r'.ReleaseOrder := by
  cases he with
  | inspectReleased id hpoint hreleasing =>
    exact { ho with draining := fun _ _ => hreleasing }
  | enterReleaseDrain id failure hpoint hreleasing =>
    exact { ho with draining := fun _ _ => hreleasing }
  | readEvent => exact { ho with draining := nofun }
  | admitEvent => exact { ho with draining := nofun }
  | recordDisconnect => exact { ho with draining := nofun }
  | publishDisconnect => exact { ho with draining := nofun }
  | releaseDrained id hpoint hcomplete =>
    exact { ho with
      drained := fun _ _ => rfl
      publishing := fun _ _ => rfl
      draining := nofun }
  | beginRelease id hsource hidle hclosing =>
    exact {
      releasing := fun _ => rfl
      inProgress := fun _ _ => rfl
      drained := fun _ => nofun
      publishing := nofun
      draining := fun _ _ => rfl }
  | requestRelease id hrelease hactive =>
    exact {
      releasing := fun _ => ho.releasing (by rw [hrelease]; rfl)
      inProgress := fun _ _ => rfl
      drained := fun _ => ho.drained (by rw [hrelease]; rfl)
      publishing := nofun
      draining := ho.draining }
  | closeReleased id hrelease =>
    exact {
      releasing := fun _ => ho.releasing (by rw [hrelease]; rfl)
      inProgress := fun _ _ => rfl
      drained := fun _ => ho.drained (by rw [hrelease]; rfl)
      publishing := nofun
      draining := ho.draining }
  | recordReleased id hrelease hdrained hactive =>
    exact {
      releasing := fun _ => ho.releasing (by rw [hrelease]; rfl)
      inProgress := fun _ _ => rfl
      drained := fun _ => ho.drained (by rw [hrelease]; rfl)
      publishing := fun _ _ => hdrained
      draining := ho.draining }
  | publishReleased id hrelease =>
    exact {
      releasing := nofun
      inProgress := fun _ => nofun
      drained := nofun
      publishing := nofun
      draining := fun other h => absurd h (ho.not_draining hi hfault hrelease other) }
  | requestFails id succeeds hrelease hactive hclosed =>
    exact {
      releasing := nofun
      inProgress := fun h => Bool.noConfusion (h.symm.trans hclosed)
      drained := nofun
      publishing := nofun
      draining := ho.draining }
  | closeFails id hrelease hclosed =>
    exact {
      releasing := nofun
      inProgress := fun h => Bool.noConfusion (h.symm.trans hclosed)
      drained := nofun
      publishing := nofun
      draining := ho.draining }
  | releasedFails id succeeds hrelease hclosed =>
    exact {
      releasing := nofun
      inProgress := fun h => Bool.noConfusion (h.symm.trans hclosed)
      drained := nofun
      publishing := nofun
      draining := ho.draining }
  | publishClosed hclose =>
    exact { ho with
      inProgress := nofun
      drained := fun _ _ => rfl }
  | detach => exact { ho with drained := fun _ _ => rfl }
  | reconnect hclosing hidle hsource hactive =>
    exact { ho with drained := fun h => Bool.noConfusion (hidle.symm.trans h) }
  | reacquire hclosing hidle hsource =>
    exact { ho with drained := fun h => Bool.noConfusion (hidle.symm.trans h) }
  | _ => first
    | exact ho.toPoint nofun
    | exact { ho with }

theorem sessionEnd_initial : (initial : Recorder Event).SessionEnd where
  active _ _ := rfl
  completed := nofun
  present := nofun
  last before after h := by
    have hlength := congrArg List.length h
    simp [initial] at hlength
  early _ := rfl
  closed := nofun
  settling := by rintro (h | h) <;> exact absurd h nofun
  closeComplete := nofun
  unreported _ := rfl
  reported := nofun
  started _ := nofun

/-- The journal of an active session has no end yet; it grows by other records. -/
theorem SessionEnd.append (hs : r.SessionEnd) (hactive : r.sessionActive = true)
    {entries : List (Entry Event)} (hentries : .completed ∉ entries) :
    .completed ∉ r.journal ++ entries := by
  intro h
  rcases List.mem_append.mp h with hold | hnew
  · exact Bool.noConfusion ((hs.present hold).2.symm.trans hactive)
  · exact hentries hnew

theorem not_mem_last {entries : List (Entry Event)} (h : .completed ∉ entries)
    (before after : List (Entry Event)) (heq : entries = before ++ .completed :: after) :
    after = [] :=
  absurd (heq ▸ List.mem_append_right before List.mem_cons_self) h

/-- `append` as the invariant: the session goes on. -/
theorem SessionEnd.record (hs : r.SessionEnd) (hactive : r.sessionActive = true)
    (entries : List (Entry Event)) (hentries : .completed ∉ entries) :
    SessionEnd { r with journal := r.journal ++ entries } :=
  { hs with
    present := fun h => absurd h (hs.append hactive hentries)
    last := not_mem_last (hs.append hactive hentries) }

theorem SessionEnd.toPoint (hs : r.SessionEnd) {point : IngestPoint Event}
    (hpoint : r.closing = false → point ≠ .finished) :
    SessionEnd { r with ingest := point } :=
  { hs with started := hpoint }

theorem SessionEnd.not_closed (hs : r.SessionEnd) {point : ClosePoint} (hclose : r.close = point)
    (hsettling : point ≠ .settling) (hdone : point ≠ .done) : r.closed = false := by
  by_contra h
  rcases hs.closed (Bool.not_eq_false _ ▸ h) with h | h
  · exact hsettling (hclose.symm.trans h)
  · exact hdone (hclose.symm.trans h)

theorem SessionEnd.report (hs : r.SessionEnd) (hclosed : r.closed = true) (waiters : ℕ) {entries}
    (hentries : entries = r.outcomes ++ [r.closeError]) :
    SessionEnd { r with outcomes := entries, waiters := waiters } :=
  { hs with
    unreported := fun h => Bool.noConfusion (h.symm.trans hclosed)
    reported := by
      subst hentries
      intro outcome h
      rcases List.mem_append.mp h with hold | hnew
      · exact hs.reported outcome hold
      · exact List.mem_singleton.mp hnew }

/-- Before the session's end, `close()` moves on to another point before it. -/
theorem SessionEnd.toClose (hs : r.SessionEnd) (close : ClosePoint) (error : Option CloseError)
    (hbefore : r.close.completed = false) (hafter : close.completed = false)
    (hclosed : r.closed = false) (hsettling : close ≠ .settling) (hdone : close ≠ .done)
    (hearly : close.early = true → error = none) :
    SessionEnd { r with close := close, closeError := error } :=
  { hs with
    active := fun h _ => hs.active h hbefore
    completed := fun h => Bool.noConfusion (hafter.symm.trans h)
    present := fun h => Bool.noConfusion (hbefore.symm.trans (hs.present h).1)
    early := hearly
    closed := fun h => Bool.noConfusion (hclosed.symm.trans h)
    settling := fun h => by
      rcases h with h | h
      · exact absurd h hsettling
      · exact absurd h hdone
    reported := fun outcome h => by
      rw [hs.unreported hclosed] at h
      exact absurd h nofun }

theorem Effect.sessionEnd {move : Move Event} (he : r.Effect move r') (hi : r.Consistent)
    (hs : r.SessionEnd) : r'.SessionEnd := by
  have hopen : r.closing = false → r.close.completed = false ∧ r.closed = false := by
    intro h
    refine ⟨by rw [hi.closing h]; rfl, ?_⟩
    by_contra hclosed
    exact Bool.noConfusion (h.symm.trans (hi.closed (Bool.not_eq_false _ ▸ hclosed)).1)
  cases he with
  | sampleNothing hpoint hsource hclosing =>
    exact hs.toPoint fun h => Bool.noConfusion (h.symm.trans hclosing)
  | finishClosing id hpoint hclosing hcomplete =>
    exact hs.toPoint fun h => Bool.noConfusion (h.symm.trans hclosing)
  | leave id failure hpoint hclosing =>
    exact hs.toPoint fun h => Bool.noConfusion (h.symm.trans hclosing)
  | readEvent => exact { hs with started := fun _ => nofun }
  | admitEvent id event hpoint hactive =>
    exact { hs.record hactive [.uart id event] (by simp) with
      started := fun _ => nofun }
  | recordDisconnect id hpoint hactive =>
    exact { hs.record hactive [.unexpectedDisconnect, .reconnectStarted] (by simp) with
      started := fun _ => nofun }
  | publishDisconnect => exact { hs with started := fun _ => nofun }
  | releaseDrained =>
    exact { hs with
      active := fun h => absurd rfl h
      started := fun _ => nofun }
  | requestRelease id hrelease hactive =>
    exact { hs.record hactive [.releaseRequested] (by simp) with }
  | recordReleased id hrelease hdrained hactive =>
    exact { hs.record hactive [.released] (by simp) with }
  | beginClose id hsource hclosing =>
    exact { hs.toClose (.closing id) r.closeError (hopen hclosing).1 rfl
      (hopen hclosing).2 nofun nofun (fun _ => hs.early (by rw [hi.closing hclosing]; rfl)) with
        started := nofun }
  | beginCloseNothing hsource hclosing =>
    exact { hs.toClose .joining r.closeError (hopen hclosing).1 rfl
      (hopen hclosing).2 nofun nofun nofun with
        started := nofun }
  | closeSource id succeeds hclose =>
    exact { hs.toClose .joining _ (by rw [hclose]; rfl) rfl
      (hs.not_closed hclose nofun nofun) nofun nofun nofun with }
  | join hclose hpoint =>
    exact { hs.toClose .completing r.closeError (by rw [hclose]; rfl) rfl
      (hs.not_closed hclose nofun nofun) nofun nofun nofun with }
  | complete hclose =>
    have hfresh : .completed ∉ r.journal := fun h => by
      have hcompleted := (hs.present h).1
      rw [hclose] at hcompleted
      exact Bool.noConfusion hcompleted
    exact { hs with
      active := fun _ => nofun
      completed := fun _ _ => rfl
      present := fun _ => ⟨rfl, rfl⟩
      last := fun before after h => by
        have h : (if r.sessionActive then r.journal ++ [.completed] else r.journal)
            = before ++ .completed :: after := h
        split at h
        · rcases List.eq_nil_or_concat after with hnil | ⟨rest, last, rfl⟩
          · exact hnil
          · rw [List.concat_eq_append, ← List.cons_append, ← List.append_assoc] at h
            have hjournal := List.append_inj_left' h rfl
            exact absurd (hjournal ▸ List.mem_append_right before List.mem_cons_self) hfresh
        · exact not_mem_last hfresh before after h
      early := nofun
      closed := fun h => Bool.noConfusion ((hs.not_closed hclose nofun nofun).symm.trans h)
      settling := by rintro (h | h) <;> exact absurd h nofun }
  | completeFails hclose =>
    have hfresh : .completed ∉ r.journal := fun h => by
      have hcompleted := (hs.present h).1
      rw [hclose] at hcompleted
      exact Bool.noConfusion hcompleted
    have hclosed := hs.not_closed hclose nofun nofun
    exact { hs with
      active := fun _ => nofun
      completed := fun _ h => by
        have h : r.closeError.or (some .persistence) = none := h
        rw [Option.or_eq_none_iff] at h
        exact absurd h.2 nofun
      present := fun h => absurd h hfresh
      early := nofun
      closed := fun h => Bool.noConfusion (hclosed.symm.trans h)
      settling := by rintro (h | h) <;> exact absurd h nofun
      reported := fun outcome h => by
        have h : outcome ∈ r.outcomes := h
        rw [hs.unreported hclosed] at h
        exact absurd h nofun }
  | publishClosed hclose =>
    have hclosed := hs.not_closed hclose nofun nofun
    exact { hs with
      active := fun h => absurd rfl h
      completed := fun _ => hs.completed (by rw [hclose]; rfl)
      present := fun h => ⟨rfl, (hs.present h).2⟩
      early := nofun
      closed := fun _ => .inl rfl
      settling := fun _ => rfl
      closeComplete := fun _ => rfl
      unreported := nofun
      reported := fun outcome h => by
        have h : outcome ∈ r.outcomes := h
        rw [hs.unreported hclosed] at h
        exact absurd h nofun }
  | settle hclose =>
    have hclosed : r.closed = true := hs.settling (.inl hclose)
    exact { hs.report hclosed r.waiters rfl with
      active := fun _ => nofun
      completed := fun _ => hs.completed (by rw [hclose]; rfl)
      present := fun h => ⟨rfl, (hs.present h).2⟩
      early := nofun
      closed := fun _ => .inr rfl
      settling := fun _ => hclosed
      closeComplete := fun _ => hclosed }
  | closeAgain hclosed => exact hs.report hclosed r.waiters rfl
  | waiterReturns waiters hcomplete => exact hs.report (hs.closeComplete hcomplete) waiters rfl
  | detach => exact { hs with active := fun h => absurd rfl h }
  | reconnect hclosing hidle hsource hactive =>
    exact { hs.record hactive [.connected] (by simp) with
      active := fun _ _ => hactive }
  | reconnectTimesOut hclosing hsource =>
    have hfresh : .completed ∉ r.journal := fun h =>
      Bool.noConfusion ((hopen hclosing).1.symm.trans (hs.present h).1)
    exact { hs with
      active := fun h => absurd hsource h
      completed := fun _ _ => rfl
      present := fun h => absurd h hfresh }
  | reacquire hclosing hidle hsource =>
    have hfresh : .completed ∉ r.journal ++ [Entry.connected] := fun h => by
      rcases List.mem_append.mp h with h | h
      · exact Bool.noConfusion ((hopen hclosing).1.symm.trans (hs.present h).1)
      · exact absurd (List.mem_singleton.mp h) nofun
    exact { hs with
      active := fun _ _ => rfl
      completed := fun h => Bool.noConfusion ((hopen hclosing).1.symm.trans h)
      present := fun h => absurd h hfresh
      last := not_mem_last hfresh }
  | _ => first
    | exact hs.toPoint fun _ => nofun
    | exact { hs with }

end Recorder

end IngestLoop
