/-
# The release protocol

`release()` closes the recorder's source and waits until the ingest thread has drained
it.  The ingest thread learns of the release from a flag it looks at when `read_event`
raised or returned `None`; the thread that has already looked when the flag is set records
a disconnect instead and waits for a source that nobody will replace, and the thread that
leaves for a concurrent `close()` drains nothing.

`release_sound` says that these are the only ways to go wrong.
-/
import DutchMate.IngestLoop

namespace IngestLoop

variable {Event : Type}

/-! ## What the journal says of a release -/

/-- Who owns the source, by the records so far. -/
inductive Phase
  | owned | releasing | released
  deriving DecidableEq, Repr

/-- No disconnect is recorded in a release, and no evidence after it. -/
def Phase.next : Phase → Entry Event → Option Phase
  | owned, .uart _ _ => some owned
  | releasing, .uart _ _ => some releasing
  | released, .uart _ _ => none
  | owned, .unexpectedDisconnect => some owned
  | owned, .reconnectStarted => some owned
  | _, .unexpectedDisconnect => none
  | _, .reconnectStarted => none
  | owned, .releaseRequested => some releasing
  | _, .releaseRequested => none
  | releasing, .released => some released
  | _, .released => none
  | _, .connected => some owned
  | phase, .completed => some phase

def phase (entries : List (Entry Event)) : Option Phase := entries.foldlM Phase.next .owned

theorem phase_append (entries : List (Entry Event)) (entry : Entry Event) :
    phase (entries ++ [entry]) = (phase entries).bind (Phase.next · entry) := by
  unfold phase
  rw [List.foldlM_append]
  cases entries.foldlM Phase.next Phase.owned with
  | none => rfl
  | some p =>
    show (Phase.next p entry).bind some = Phase.next p entry
    cases Phase.next p entry <;> rfl

/-! ## What is claimed, and when it holds -/

/-- A step of the ingest thread, of the coordinator, or of a `close()` that has begun. -/
def Move.isPeer : Move Event → Bool
  | .beginRelease => false
  | .requestRelease _ => false
  | .closeReleased _ => false
  | .recordReleased _ => false
  | .publishReleased => false
  | .beginClose => false
  | .fatal => false
  | .failSession => false
  | _ => true

/-- The source of a release that has not ended its wait. -/
def ReleasePoint.awaited : ReleasePoint → Option ℕ
  | requesting source => some source
  | closing source => some source
  | waiting source => some source
  | _ => none

/-- From this point the ingest thread still comes to drain a release, or to fault: it is
not past a check that the release, or a shutdown that overtook it, came too late for. -/
def IngestPoint.drains (closing closeComplete : Bool) : IngestPoint Event → Bool
  | sampling => !closing || closeComplete
  | reading _ => !closing || closeComplete
  | admitting _ _ => !closing || closeComplete
  | receivedNothing _ => !closing || closeComplete
  | checkingClosing _ => !closing
  | raised _ _ => true
  | drainingRelease _ => true
  | notReleasing _ .failed => !closing
  | notDraining _ .failed => !closing
  | failing _ => true
  | _ => false

/-- A release whose source is closed is only easier to drain. -/
theorem IngestPoint.drains_of_complete {closing complete : Bool} {point : IngestPoint Event}
    (h : point.drains closing complete = true) : point.drains closing true = true := by
  cases point with
  | sampling => exact Bool.or_true _
  | reading _ => exact Bool.or_true _
  | admitting _ _ => exact Bool.or_true _
  | receivedNothing _ => exact Bool.or_true _
  | notReleasing _ failure => cases failure <;> exact h
  | notDraining _ failure => cases failure <;> exact h
  | _ => exact h

/-- The thread has nothing in hand. -/
def IngestPoint.idle : IngestPoint Event → Bool
  | sampling => true
  | finished => true
  | _ => false

theorem IngestPoint.held_of_idle {point : IngestPoint Event} (h : point.idle = true) :
    point.held = none := by
  cases point <;> first | rfl | exact Bool.noConfusion h

namespace Recorder

/-- Some steps of the other threads let a waiting `release()` go on. -/
def CanDrain (s : Recorder Event) : Prop :=
  ∃ moves : List (Move Event), (∀ move ∈ moves, move.isPeer = true) ∧
    ∃ s' ∈ s.run moves, s'.releaseDrained = true

/-- `release()` waits, and no step of another thread can ever let it go on. -/
structure Wedged (s : Recorder Event) : Prop where
  waiting : ∃ source, s.release = .waiting source
  undrained : s.releaseDrained = false
  stuck : ¬ s.CanDrain

/-- `release()` has returned for a source: it is detached and closed, the recorder is
released, and the journal has all that was read before its `released` record. -/
structure Released (source : ℕ) (s : Recorder Event) : Prop where
  detached : s.source = none
  closed : source ∈ s.closedSources
  state : s.state = .released
  drained : ∃ before after, s.journal = before ++ .released :: after ∧ uarts before = s.returned
    ∧ uarts after = []

/-- A release is under way and its source is not drained. -/
def undrained (s : Recorder Event) : Bool := s.release.awaited.isSome && !s.releaseDrained

/-- The release begins, and the shutdown, while the ingest thread still comes to drain. -/
def Prompt (s : Recorder Event) : Move Event → Prop
  | .beginRelease => s.ingest.drains false false = true
  | .beginClose => s.undrained = true → s.ingest.drains true s.releaseCloseComplete = true
  | _ => True

def PromptRun (s : Recorder Event) : List (Move Event) → Prop
  | [] => True
  | move :: moves => s.Prompt move ∧ ∀ s' ∈ s.step move, s'.PromptRun moves

instance (s : Recorder Event) : (move : Move Event) → Decidable (s.Prompt move)
  | .beginRelease => inferInstanceAs (Decidable (_ = true))
  | .beginClose => inferInstanceAs (Decidable (_ → _))
  | .sample | .readEvent _ | .readNothing | .readRaises _ | .admitEvent _ | .inspect
  | .checkClosing _ | .enterReleaseDrain | .finishReleaseDrain _ | .enterShutdownDrain
  | .finishShutdownDrain _ | .leaveOrRecord | .fail | .recordDisconnect _ | .publishDisconnect
  | .wake | .requestRelease _ | .closeReleased _ | .recordReleased _ | .publishReleased
  | .closeSource _ | .join | .complete _ | .publishClosed | .settle | .closeAgain
  | .waiterReturns | .detach | .reconnect | .reconnectTimesOut | .beginReacquire | .reacquire
  | .reacquireFails | .fatal | .failSession => isTrue trivial

def PromptRun.decide (s : Recorder Event) :
    (moves : List (Move Event)) → Decidable (s.PromptRun moves)
  | [] => isTrue trivial
  | move :: moves =>
    have : ∀ s' : Recorder Event, Decidable (s'.PromptRun moves) := fun s' =>
      PromptRun.decide s' moves
    inferInstanceAs (Decidable (s.Prompt move ∧ ∀ s' ∈ s.step move, s'.PromptRun moves))

instance (s : Recorder Event) (moves : List (Move Event)) : Decidable (s.PromptRun moves) :=
  PromptRun.decide s moves

/-! ## The invariant -/

structure Releasing (s : Recorder Event) : Prop where
  consistent : s.Consistent
  /-- until the drain, the release's source is the recorder's and the thread comes for it -/
  awaited : ∀ source, s.release.awaited = some source → s.releaseDrained = false →
    s.source = some source ∧ s.ingest.drains s.closing s.releaseCloseComplete = true
  releasing : s.release.awaited.isSome = true → s.releasing = true
  complete : ∀ source, s.release.awaited = some source →
    (s.releaseCloseComplete = true ↔ s.release = .waiting source)
  /-- a drain that was no fault leaves nothing behind -/
  drained : s.release.awaited.isSome = true → s.releaseDrained = true → s.fault = false →
    s.source = none ∧ s.ingest.idle = true
  closedSource : ∀ source, s.release = .waiting source ∨ s.release = .publishing source →
    source ∈ s.closedSources
  requestingPhase : ∀ source, s.release = .requesting source → phase s.journal = some .owned
  awaitedPhase : ∀ source, s.release = .closing source ∨ s.release = .waiting source →
    phase s.journal = some .releasing
  publishingPhase : ∀ source, s.release = .publishing source → phase s.journal = some .released
  ordered : (phase s.journal).isSome = true
  releasingPhase : phase s.journal = some .releasing →
    s.fault = true ∨ s.closed = true ∨ s.release.awaited.isSome = true
  releasedPhase : phase s.journal = some .released →
    s.source = none ∧ s.ingest.idle = true ∧ s.returned = s.admitted

theorem releasing_initial : (initial : Recorder Event).Releasing where
  consistent := consistent_initial
  awaited := nofun
  releasing := nofun
  complete := nofun
  drained := nofun
  closedSource := nofun
  requestingPhase := nofun
  awaitedPhase := nofun
  publishingPhase := nofun
  ordered := rfl
  releasingPhase := nofun
  releasedPhase := nofun

variable {s s' : Recorder Event}

/-- What may be used of an undrained release. -/
structure Awaiting (s : Recorder Event) (source : ℕ) : Prop where
  release : s.release.awaited = some source
  source : s.source = some source
  releasing : s.releasing = true
  fault : s.fault = false
  drains : s.ingest.drains s.closing s.releaseCloseComplete = true

theorem Releasing.awaiting (hi : s.Releasing) {source : ℕ}
    (hrelease : s.release.awaited = some source) (hdrained : s.releaseDrained = false) :
    s.Awaiting source where
  release := hrelease
  source := (hi.awaited source hrelease hdrained).1
  releasing := hi.releasing (by rw [hrelease]; rfl)
  fault := by
    by_contra hfault
    have hd := (hi.consistent.fault (Bool.not_eq_false _ ▸ hfault)).1
    exact absurd (hdrained.symm.trans hd) nofun
  drains := (hi.awaited source hrelease hdrained).2

/-- The ingest thread moves on, and may have read an event. -/
theorem Releasing.toPoint (hi : s.Releasing) (point : IngestPoint Event)
    (returned : List (ℕ × Event))
    (hconsistent : Consistent { s with ingest := point, returned := returned })
    (hdrains : ∀ source, s.Awaiting source →
      point.drains s.closing s.releaseCloseComplete = true)
    (hidle : s.source = none → s.ingest.idle = true → point.idle = true)
    (hreturned : s.ingest.idle = true → returned = s.returned) :
    Releasing { s with ingest := point, returned := returned } := by
  refine { hi with
    consistent := hconsistent
    awaited := fun source hrelease hdrained => ?_
    drained := fun hrelease hdrained hfault => ?_
    releasedPhase := fun hphase => ?_ }
  · exact ⟨(hi.awaited source hrelease hdrained).1, hdrains source (hi.awaiting hrelease hdrained)⟩
  · obtain ⟨hsource, hpoint⟩ := hi.drained hrelease hdrained hfault
    exact ⟨hsource, hidle hsource hpoint⟩
  · obtain ⟨hsource, hpoint, hall⟩ := hi.releasedPhase hphase
    exact ⟨hsource, hidle hsource hpoint, (hreturned hpoint).trans hall⟩

theorem Releasing.recordFatal (hi : s.Releasing) (source : Option ℕ) :
    (s.recordFatal source).Releasing := by
  have hconsistent := hi.consistent.recordFatal source
  unfold Recorder.recordFatal at hconsistent ⊢
  split
  · exact hi
  · rename_i h
    rw [if_neg h] at hconsistent
    exact { hi with
      consistent := hconsistent
      awaited := fun _ _ => nofun
      drained := fun _ _ => nofun
      releasingPhase := fun _ => .inl rfl
      releasedPhase := fun hphase => ⟨rfl, (hi.releasedPhase hphase).2⟩ }

/-- The ingest thread faults the recorder over its own source. -/
theorem Releasing.fatalPoint (hi : s.Releasing) {id : ℕ} (hheld : s.ingest.held = some id)
    (point : IngestPoint Event) :
    Releasing { s.recordFatal (some id) with ingest := point } := by
  have hconsistent := hi.consistent.fatalPoint hheld point
  have hfault := hi.consistent.recordFatal_fault hheld
  have hfatal := hi.recordFatal (some id)
  have hkept : (s.recordFatal (some id)).ingest = s.ingest := by
    unfold Recorder.recordFatal
    split <;> rfl
  exact { hfatal with
    consistent := hconsistent
    awaited := fun source _ hdrained =>
      absurd ((hfatal.consistent.fault hfault).1.symm.trans hdrained) nofun
    drained := fun _ _ h => absurd (hfault.symm.trans h) nofun
    releasedPhase := fun hphase => by
      -- a thread that holds a source is not idle
      have hpoint := (hfatal.releasedPhase hphase).2.1
      rw [hkept] at hpoint
      exact absurd (hheld.symm.trans (IngestPoint.held_of_idle hpoint)) nofun }

/-! ## Steps of the ingest thread -/

/-- `toPoint` for a thread that is at a point known not to be idle and reads nothing. -/
theorem Releasing.follow (hi : s.Releasing) {point : IngestPoint Event} (hpoint : s.ingest = point)
    (next : IngestPoint Event) (hconsistent : Consistent { s with ingest := next })
    (hdrains : ∀ source, s.Awaiting source →
      point.drains s.closing s.releaseCloseComplete = true →
        next.drains s.closing s.releaseCloseComplete = true)
    (hidle : point.idle = true → next.idle = true) :
    Releasing { s with ingest := next } := by
  subst hpoint
  exact hi.toPoint next s.returned hconsistent (fun source h => hdrains source h h.drains)
    (fun _ => hidle) fun _ => rfl

/-- Evidence does not change who owns the source, and none comes when it is released. -/
theorem Releasing.phase_uart (hi : s.Releasing) (hidle : s.ingest.idle = false) (id : ℕ)
    (event : Event) : phase (s.journal ++ [.uart id event]) = phase s.journal := by
  rw [phase_append]
  have hordered := hi.ordered
  cases hphase : phase s.journal with
  | none =>
    rw [hphase] at hordered
    exact Bool.noConfusion hordered
  | some p =>
    cases p with
    | owned => rfl
    | releasing => rfl
    | released => exact absurd (hidle.symm.trans (hi.releasedPhase hphase).2.1) nofun

theorem Releasing.readStep (hi : s.Releasing) {move : Move Event}
    (hstep : s.readStep move = some s') : s'.Releasing := by
  have hconsistent := hi.consistent.readStep hstep
  cases move with
  | sample =>
    simp only [Recorder.readStep] at hstep
    split at hstep
    · rename_i hpoint hsource
      split at hstep
      · obtain rfl := Option.some.inj hstep
        refine hi.follow hpoint .finished hconsistent (fun source h _ => ?_) fun _ => rfl
        exact absurd (hsource.symm.trans h.source) (by simp)
      · cases hstep
    · rename_i id hpoint hsource
      split at hstep
      · rename_i hfault
        obtain rfl := Option.some.inj hstep
        refine hi.follow hpoint .finished hconsistent (fun source h _ => ?_) fun _ => rfl
        exact absurd (hfault.symm.trans h.fault) (by simp)
      · obtain rfl := Option.some.inj hstep
        refine hi.toPoint (.reading id) s.returned hconsistent (fun source h => ?_)
          (fun hnone => ?_) fun _ => rfl
        · have hdrains := h.drains
          rw [hpoint] at hdrains
          exact hdrains
        · exact absurd (hsource.symm.trans hnone) (by simp)
    · cases hstep
  | readEvent event =>
    simp only [Recorder.readStep] at hstep
    split at hstep
    · rename_i id hpoint
      obtain rfl := Option.some.inj hstep
      refine hi.toPoint (.admitting id event) _ hconsistent (fun source h => ?_)
        (fun _ hidle => ?_) fun hidle => ?_
      · have hdrains := h.drains
        rw [hpoint] at hdrains
        exact hdrains
      · rw [hpoint] at hidle
        exact Bool.noConfusion hidle
      · rw [hpoint] at hidle
        exact Bool.noConfusion hidle
    · cases hstep
  | readNothing =>
    simp only [Recorder.readStep] at hstep
    split at hstep
    · rename_i id hpoint
      obtain rfl := Option.some.inj hstep
      exact hi.follow hpoint (.receivedNothing id) hconsistent (fun _ _ h => h) (by rintro ⟨⟩)
    · cases hstep
  | readRaises failure =>
    simp only [Recorder.readStep] at hstep
    split at hstep
    · rename_i id hpoint
      obtain rfl := Option.some.inj hstep
      exact hi.follow hpoint (.raised id failure) hconsistent (fun _ _ _ => rfl) (by rintro ⟨⟩)
    · cases hstep
  | admitEvent succeeds =>
    simp only [Recorder.readStep] at hstep
    split at hstep
    · rename_i id event hpoint
      split at hstep
      · cases hstep
      · split at hstep
        · obtain rfl := Option.some.inj hstep
          have hphase := hi.phase_uart (by rw [hpoint]; rfl) id event
          refine { hi with
            consistent := hconsistent
            awaited := fun source hrelease hdrained => ⟨(hi.awaited source hrelease hdrained).1, ?_⟩
            drained := fun hrelease hdrained hfault =>
              ⟨(hi.drained hrelease hdrained hfault).1, rfl⟩
            requestingPhase := fun source h => hphase.trans (hi.requestingPhase source h)
            awaitedPhase := fun source h => hphase.trans (hi.awaitedPhase source h)
            publishingPhase := fun source h => hphase.trans (hi.publishingPhase source h)
            ordered := by rw [hphase]; exact hi.ordered
            releasingPhase := fun h => hi.releasingPhase (hphase.symm.trans h)
            releasedPhase := fun h => ?_ }
          · have hdrains := (hi.awaited source hrelease hdrained).2
            rw [hpoint] at hdrains
            exact hdrains
          · have hidle := (hi.releasedPhase (hphase.symm.trans h)).2.1
            rw [hpoint] at hidle
            exact Bool.noConfusion hidle
        · obtain rfl := Option.some.inj hstep
          exact hi.fatalPoint (by rw [hpoint]; rfl) .finished
    · cases hstep
  | _ => simp [Recorder.readStep] at hstep

theorem Releasing.handleStep (hi : s.Releasing) {move : Move Event}
    (hstep : s.handleStep move = some s') : s'.Releasing := by
  have hconsistent := hi.consistent.handleStep hstep
  cases move with
  | inspect =>
    simp only [Recorder.handleStep] at hstep
    split at hstep
    · rename_i id hpoint
      split at hstep
      · obtain rfl := Option.some.inj hstep
        exact hi.follow hpoint (.drainingRelease id) hconsistent (fun _ _ _ => rfl) (by rintro ⟨⟩)
      · rename_i hnot
        obtain rfl := Option.some.inj hstep
        refine hi.follow hpoint (.checkingClosing id) hconsistent (fun source h hdrains => ?_)
          (by rintro ⟨⟩)
        -- the release is not complete, so no shutdown has overtaken it
        have hincomplete : s.releaseCloseComplete = false :=
          Bool.not_eq_true _ ▸ fun hc => hnot ⟨h.releasing, hc⟩
        rw [hincomplete] at hdrains
        simpa [IngestPoint.drains] using hdrains
    · cases hstep
  | checkClosing pending =>
    simp only [Recorder.handleStep] at hstep
    split at hstep
    · rename_i id hpoint
      split at hstep
      · rename_i hleaves
        obtain rfl := Option.some.inj hstep
        refine hi.follow hpoint .finished hconsistent (fun source h hdrains => ?_) (by rintro ⟨⟩)
        rw [hleaves.1] at hdrains
        exact Bool.noConfusion hdrains
      · obtain rfl := Option.some.inj hstep
        refine hi.follow hpoint .sampling hconsistent (fun source h hdrains => ?_) (by rintro ⟨⟩)
        exact Bool.or_eq_true _ _ ▸ .inl hdrains
    · cases hstep
  | enterReleaseDrain =>
    simp only [Recorder.handleStep] at hstep
    split at hstep
    · rename_i id failure hpoint
      split at hstep
      · obtain rfl := Option.some.inj hstep
        exact hi.follow hpoint (.drainingRelease id) hconsistent (fun _ _ _ => rfl) (by rintro ⟨⟩)
      · rename_i hnot
        obtain rfl := Option.some.inj hstep
        exact hi.follow hpoint (.notReleasing id failure) hconsistent
          (fun _ h _ => absurd h.releasing hnot) (by rintro ⟨⟩)
    · cases hstep
  | finishReleaseDrain pending =>
    simp only [Recorder.handleStep] at hstep
    split at hstep
    · rename_i id hpoint
      split at hstep
      · rename_i hready
        have hcomplete : ∀ source, s.Awaiting source → s.releaseCloseComplete = true := by
          intro source h
          rcases hready with hc | hf
          · exact hc
          · exact absurd (hf.symm.trans h.fault) (by simp)
        split at hstep
        · obtain rfl := Option.some.inj hstep
          refine hi.follow hpoint .sampling hconsistent (fun source h _ => ?_) (by rintro ⟨⟩)
          exact Bool.or_eq_true _ _ ▸ .inr (hcomplete source h)
        · obtain rfl := Option.some.inj hstep
          have hgone : ∀ h : s.fault = false,
              (if s.source = some id then none else s.source) = none :=
            fun h => if_pos (hi.consistent.held id (by rw [hpoint]; rfl) h)
          exact { hi with
            consistent := hconsistent
            awaited := fun _ _ => by rintro ⟨⟩
            drained := fun _ _ hfault => ⟨hgone hfault, rfl⟩
            releasedPhase := fun hphase => by
              have hidle := (hi.releasedPhase hphase).2.1
              rw [hpoint] at hidle
              exact Bool.noConfusion hidle }
      · cases hstep
    · cases hstep
  | enterShutdownDrain =>
    simp only [Recorder.handleStep] at hstep
    split at hstep
    · rename_i id failure hpoint
      split at hstep
      · rename_i hclosing
        obtain rfl := Option.some.inj hstep
        refine hi.follow hpoint (.drainingShutdown id failure) hconsistent
          (fun source h hdrains => ?_) (by rintro ⟨⟩)
        rw [hclosing] at hdrains
        cases failure <;> exact Bool.noConfusion hdrains
      · obtain rfl := Option.some.inj hstep
        refine hi.follow hpoint (.notDraining id failure) hconsistent
          (fun source h hdrains => ?_) (by rintro ⟨⟩)
        cases failure <;> exact hdrains
    · cases hstep
  | finishShutdownDrain pending =>
    simp only [Recorder.handleStep] at hstep
    split at hstep
    · rename_i id failure hpoint
      split at hstep
      · split at hstep <;> obtain rfl := Option.some.inj hstep
        · exact hi.follow hpoint .sampling hconsistent (fun _ _ h => Bool.noConfusion h)
            (by rintro ⟨⟩)
        · exact hi.follow hpoint (.notDraining id failure) hconsistent
            (fun _ _ h => Bool.noConfusion h) (by rintro ⟨⟩)
      · cases hstep
    · cases hstep
  | leaveOrRecord =>
    simp only [Recorder.handleStep] at hstep
    split at hstep
    · rename_i id failure hpoint
      split at hstep
      · rename_i hclosing
        obtain rfl := Option.some.inj hstep
        refine hi.follow hpoint .finished hconsistent (fun source h hdrains => ?_) (by rintro ⟨⟩)
        rw [hclosing] at hdrains
        cases failure <;> exact Bool.noConfusion hdrains
      · cases failure <;> obtain rfl := Option.some.inj hstep
        · exact hi.follow hpoint (.recording id) hconsistent
            (fun _ _ h => Bool.noConfusion h) (by rintro ⟨⟩)
        · exact hi.follow hpoint (.failing id) hconsistent (fun _ _ _ => rfl) (by rintro ⟨⟩)
    · cases hstep
  | fail =>
    simp only [Recorder.handleStep] at hstep
    split at hstep
    · rename_i id hpoint
      obtain rfl := Option.some.inj hstep
      exact hi.fatalPoint (by rw [hpoint]; rfl) .finished
    · cases hstep
  | _ => simp [Recorder.handleStep] at hstep

/-- A disconnect is only recorded while nobody releases the source. -/
theorem Releasing.recording_owned (hi : s.Releasing) {id : ℕ} (hpoint : s.ingest = .recording id)
    (hclosing : s.closing = false) (hsource : s.source = some id) :
    phase s.journal = some .owned ∧ s.release.awaited = none := by
  have hfault : s.fault = false := by
    by_contra h
    have hnone := (hi.consistent.fault (Bool.not_eq_false _ ▸ h)).2
    exact absurd (hnone.symm.trans hsource) nofun
  have hrelease : s.release.awaited = none := by
    cases hr : s.release.awaited with
    | none => rfl
    | some source =>
      exfalso
      cases hdrained : s.releaseDrained with
      | false =>
        have hdrains := (hi.awaited source hr hdrained).2
        rw [hpoint] at hdrains
        exact Bool.noConfusion hdrains
      | true =>
        have hnone := (hi.drained (by rw [hr]; rfl) hdrained hfault).1
        exact absurd (hnone.symm.trans hsource) nofun
  refine ⟨?_, hrelease⟩
  have hordered := hi.ordered
  cases hphase : phase s.journal with
  | none =>
    rw [hphase] at hordered
    exact Bool.noConfusion hordered
  | some p =>
    cases p with
    | owned => rfl
    | releasing =>
      rcases hi.releasingPhase hphase with h | h | h
      · exact absurd (h.symm.trans hfault) nofun
      · exact absurd ((hi.consistent.closed h).1.symm.trans hclosing) nofun
      · rw [hrelease] at h
        exact Bool.noConfusion h
    | released => exact absurd ((hi.releasedPhase hphase).1.symm.trans hsource) nofun

theorem Releasing.disconnectStep (hi : s.Releasing) {move : Move Event}
    (hstep : s.disconnectStep move = some s') : s'.Releasing := by
  have hconsistent := hi.consistent.disconnectStep hstep
  cases move with
  | recordDisconnect succeeds =>
    simp only [Recorder.disconnectStep] at hstep
    split at hstep
    · rename_i id hpoint
      split at hstep
      · cases hstep
      · split at hstep
        · obtain rfl := Option.some.inj hstep
          exact hi.follow hpoint .sampling hconsistent (fun _ _ h => Bool.noConfusion h)
            (by rintro ⟨⟩)
        · rename_i hkept
          simp only [not_or, not_not, Bool.not_eq_true] at hkept
          split at hstep <;> obtain rfl := Option.some.inj hstep
          · obtain ⟨howned, hrelease⟩ := hi.recording_owned hpoint hkept.1 hkept.2
            have hphase : phase (s.journal ++ [.unexpectedDisconnect, .reconnectStarted])
                = some .owned := by
              rw [List.append_cons, phase_append, phase_append, howned]
              rfl
            exact {
              consistent := hconsistent
              awaited := fun source h => absurd (h.symm.trans hrelease) (by simp)
              releasing := hi.releasing
              complete := hi.complete
              drained := fun h => by
                rw [show s.release.awaited = none from hrelease] at h
                exact Bool.noConfusion h
              closedSource := hi.closedSource
              requestingPhase := fun _ _ => hphase
              awaitedPhase := fun source h => by
                rcases h with h | h <;>
                  cases (congrArg _ h).symm.trans hrelease
              publishingPhase := fun source h =>
                absurd ((hi.publishingPhase source h).symm.trans howned) (by simp)
              ordered := by rw [hphase]; rfl
              releasingPhase := fun h => absurd (hphase.symm.trans h) (by simp)
              releasedPhase := fun h => absurd (hphase.symm.trans h) (by simp) }
          · exact hi.fatalPoint (by rw [hpoint]; rfl) .sampling
    · cases hstep
  | publishDisconnect =>
    simp only [Recorder.disconnectStep] at hstep
    split at hstep
    · rename_i id hpoint
      split at hstep <;> obtain rfl := Option.some.inj hstep
      · exact hi.follow hpoint .sampling hconsistent (fun _ _ h => Bool.noConfusion h)
          (by rintro ⟨⟩)
      · have hwaiting := hi.follow hpoint (.waiting id)
          (hi.consistent.follow hpoint (.waiting id) (.inl rfl) rfl (by rintro _ ⟨⟩) (by rintro ⟨⟩))
          (fun _ _ h => Bool.noConfusion h) (by rintro ⟨⟩)
        exact { hwaiting with consistent := hconsistent }
    · cases hstep
  | wake =>
    simp only [Recorder.disconnectStep] at hstep
    split at hstep
    · rename_i id hpoint
      split at hstep
      · obtain rfl := Option.some.inj hstep
        exact hi.follow hpoint .sampling hconsistent (fun _ _ h => Bool.noConfusion h)
          (by rintro ⟨⟩)
      · cases hstep
    · cases hstep
  | _ => simp [Recorder.disconnectStep] at hstep

/-! ## Steps of the release -/

/-- A release that has not begun to wait ends in a fault, or after the shutdown. -/
theorem Releasing.raise (hi : s.Releasing) (complete : Bool) :
    Releasing { s.recordFatal none with releaseCloseComplete := complete, release := .raised } := by
  have hfatal := hi.recordFatal none
  have hended : (s.recordFatal none).fault = true ∨ (s.recordFatal none).closed = true := by
    unfold Recorder.recordFatal
    split
    · rename_i h
      rcases h with hfault | hclosed | ⟨hsome, _⟩
      · exact .inl hfault
      · exact .inr hclosed
      · exact Bool.noConfusion hsome
    · exact .inl rfl
  exact { hfatal with
    consistent := { hfatal.consistent with }
    awaited := nofun
    releasing := nofun
    complete := nofun
    drained := nofun
    closedSource := nofun
    requestingPhase := nofun
    awaitedPhase := nofun
    publishingPhase := nofun
    releasingPhase := fun _ => hended.elim .inl fun h => .inr (.inl h) }

theorem Releasing.beginRelease (hi : s.Releasing) (hprompt : s.Prompt .beginRelease)
    (hstep : s.releaseStep .beginRelease = some s') : s'.Releasing := by
  have hconsistent := hi.consistent.releaseStep hstep
  simp only [Recorder.releaseStep] at hstep
  split at hstep
  · rename_i id hsource
    split at hstep
    · rename_i h
      obtain ⟨hprogress, hstate, hclosing⟩ := h
      obtain rfl := Option.some.inj hstep
      have hfault := hi.consistent.connected hstate
      have hnot : s.release.awaited = none := by
        cases hr : s.release <;> rw [hr] at hprogress <;>
          first | rfl | exact Bool.noConfusion hprogress
      -- the recorder owns the source, by the journal too
      have howned : phase s.journal = some .owned := by
        have hordered := hi.ordered
        cases hphase : phase s.journal with
        | none =>
          rw [hphase] at hordered
          exact Bool.noConfusion hordered
        | some p =>
          cases p with
          | owned => rfl
          | releasing =>
            rcases hi.releasingPhase hphase with h | h | h
            · exact absurd (h.symm.trans hfault) (by simp)
            · exact absurd ((hi.consistent.closed h).1.symm.trans hclosing) (by simp)
            · rw [hnot] at h
              exact Bool.noConfusion h
          | released => exact absurd ((hi.releasedPhase hphase).1.symm.trans hsource) (by simp)
      exact {
        consistent := hconsistent
        awaited := fun source hrelease _ => by
          obtain rfl := Option.some.inj hrelease
          refine ⟨hsource, ?_⟩
          show s.ingest.drains s.closing false = true
          rw [hclosing]
          exact hprompt
        releasing := fun _ => rfl
        complete := fun source _ => ⟨by rintro ⟨⟩, by rintro ⟨⟩⟩
        drained := fun _ => by rintro ⟨⟩
        closedSource := fun source h => by rcases h with h | h <;> cases h
        requestingPhase := fun _ _ => howned
        awaitedPhase := fun source h => by rcases h with h | h <;> cases h
        publishingPhase := by rintro _ ⟨⟩
        ordered := hi.ordered
        releasingPhase := fun _ => .inr (.inr rfl)
        releasedPhase := hi.releasedPhase }
    · cases hstep
  · cases hstep

theorem Releasing.releaseStep (hi : s.Releasing) {move : Move Event} (hprompt : s.Prompt move)
    (hstep : s.releaseStep move = some s') : s'.Releasing := by
  have hconsistent := hi.consistent.releaseStep hstep
  cases move with
  | beginRelease => exact hi.beginRelease hprompt hstep
  | requestRelease succeeds =>
    simp only [Recorder.releaseStep] at hstep
    split at hstep
    · rename_i id hpoint
      split at hstep
      · obtain rfl := Option.some.inj hstep
        have hphase : phase (s.journal ++ [.releaseRequested]) = some .releasing := by
          rw [phase_append, hi.requestingPhase id hpoint]
          rfl
        have hawaited : s.release.awaited = some id := by rw [hpoint]; rfl
        exact {
          consistent := hconsistent
          awaited := fun source h => hi.awaited source (hawaited.trans h)
          releasing := fun _ => hi.releasing (by rw [hawaited]; rfl)
          complete := fun source h => by
            have hc := hi.complete source (hawaited.trans h)
            rw [hpoint] at hc
            exact ⟨fun ht => absurd (hc.mp ht) (by simp), by rintro ⟨⟩⟩
          drained := fun _ => hi.drained (by rw [hawaited]; rfl)
          closedSource := fun source h => by rcases h with h | h <;> cases h
          requestingPhase := by rintro _ ⟨⟩
          awaitedPhase := fun _ _ => hphase
          publishingPhase := by rintro _ ⟨⟩
          ordered := by rw [hphase]; rfl
          releasingPhase := fun _ => .inr (.inr rfl)
          releasedPhase := fun h => absurd (hphase.symm.trans h) (by simp) }
      · obtain rfl := Option.some.inj hstep
        exact hi.raise _
    · cases hstep
  | closeReleased succeeds =>
    simp only [Recorder.releaseStep] at hstep
    split at hstep
    · rename_i id hpoint
      have hawaited : s.release.awaited = some id := by rw [hpoint]; rfl
      split at hstep
      · obtain rfl := Option.some.inj hstep
        exact { hi with
          consistent := hconsistent
          awaited := fun source h hdrained => by
            obtain ⟨hsource, hdrains⟩ := hi.awaited source (hawaited.trans h) hdrained
            exact ⟨hsource, IngestPoint.drains_of_complete hdrains⟩
          releasing := fun _ => hi.releasing (by rw [hawaited]; rfl)
          complete := fun source h => ⟨fun _ => congrArg _ (Option.some.inj h), fun _ => rfl⟩
          drained := fun _ hdrained hfault => hi.drained (by rw [hawaited]; rfl) hdrained hfault
          closedSource := fun source h => by
            rcases h with h | h
            · injection h with h
              rw [h]
              exact List.mem_cons_self
            · cases h
          requestingPhase := by rintro _ ⟨⟩
          awaitedPhase := fun _ _ => hi.awaitedPhase id (.inl hpoint)
          publishingPhase := by rintro _ ⟨⟩
          releasingPhase := fun _ => .inr (.inr rfl) }
      · obtain rfl := Option.some.inj hstep
        exact hi.raise _
    · cases hstep
  | recordReleased succeeds =>
    simp only [Recorder.releaseStep] at hstep
    split at hstep
    · rename_i id hpoint
      have hawaited : s.release.awaited = some id := by rw [hpoint]; rfl
      split at hstep
      · cases hstep
      · rename_i hdrained
        split at hstep
        · rename_i h
          obtain rfl := Option.some.inj hstep
          have hphase : phase (s.journal ++ [.released]) = some .released := by
            rw [phase_append, hi.awaitedPhase id (.inr hpoint)]
            rfl
          obtain ⟨hsource, hidle⟩ :=
            hi.drained (by rw [hawaited]; rfl) (Bool.not_eq_false _ ▸ hdrained) h.1
          have hflight : s.inFlight = [] := by
            unfold inFlight
            split
            · rename_i hs
              rw [hs] at hidle
              exact Bool.noConfusion hidle
            · rfl
          exact {
            consistent := hconsistent
            awaited := by rintro _ ⟨⟩
            releasing := by rintro ⟨⟩
            complete := by rintro _ ⟨⟩
            drained := by rintro ⟨⟩
            closedSource := fun source h => by
              rcases h with h | h
              · cases h
              · injection h with h
                exact h ▸ hi.closedSource id (.inl hpoint)
            requestingPhase := by rintro _ ⟨⟩
            awaitedPhase := fun source h => by rcases h with h | h <;> cases h
            publishingPhase := fun _ _ => hphase
            ordered := by rw [hphase]; rfl
            releasingPhase := fun h => absurd (hphase.symm.trans h) (by simp)
            releasedPhase := fun _ => by
              refine ⟨hsource, hidle, ?_⟩
              have horder := hi.consistent.inOrder h.1
              show s.returned = uarts (s.journal ++ [.released])
              rw [uarts_append, horder, hflight]
              rfl }
        · obtain rfl := Option.some.inj hstep
          exact hi.raise _
    · cases hstep
  | publishReleased =>
    simp only [Recorder.releaseStep] at hstep
    split at hstep
    · rename_i id hpoint
      obtain rfl := Option.some.inj hstep
      exact { hi with
        consistent := hconsistent
        awaited := by rintro _ ⟨⟩
        releasing := by rintro ⟨⟩
        complete := by rintro _ ⟨⟩
        drained := by rintro ⟨⟩
        closedSource := fun source h => by rcases h with h | h <;> cases h
        requestingPhase := by rintro _ ⟨⟩
        awaitedPhase := fun source h => by rcases h with h | h <;> cases h
        publishingPhase := by rintro _ ⟨⟩
        releasingPhase := fun h =>
          absurd ((hi.publishingPhase id hpoint).symm.trans h) (by simp) }
    · cases hstep
  | _ => simp [Recorder.releaseStep] at hstep

/-! ## Steps of the shutdown and of other threads -/

theorem Releasing.beginClose (hi : s.Releasing) (hprompt : s.Prompt .beginClose)
    (hstep : s.closeStep .beginClose = some s') : s'.Releasing := by
  have hconsistent := hi.consistent.closeStep hstep
  have hdrains : ∀ source, s.release.awaited = some source → s.releaseDrained = false →
      s.source = some source ∧ s.ingest.drains true s.releaseCloseComplete = true := by
    intro source hrelease hdrained
    refine ⟨(hi.awaited source hrelease hdrained).1, hprompt ?_⟩
    unfold undrained
    rw [hrelease, hdrained]
    rfl
  simp only [Recorder.closeStep] at hstep
  split at hstep
  · cases hstep
  · split at hstep <;> obtain rfl := Option.some.inj hstep <;>
      exact { hi with
        consistent := hconsistent
        awaited := hdrains }

/-- The session is completed, which no release looks at. -/
theorem Releasing.completed (hi : s.Releasing) (sessionActive : Bool) (close : ClosePoint)
    (hconsistent : Consistent { s with
      sessionActive := sessionActive, journal := s.journal ++ [.completed], close := close }) :
    Releasing { s with
      sessionActive := sessionActive, journal := s.journal ++ [.completed], close := close } := by
  have hphase : phase (s.journal ++ [.completed]) = phase s.journal := by
    rw [phase_append]
    cases phase s.journal with
    | none => rfl
    | some p => cases p <;> rfl
  refine { hi with
    consistent := hconsistent
    requestingPhase := fun source h => hphase.trans (hi.requestingPhase source h)
    awaitedPhase := fun source h => hphase.trans (hi.awaitedPhase source h)
    publishingPhase := fun source h => hphase.trans (hi.publishingPhase source h)
    ordered := by rw [hphase]; exact hi.ordered
    releasingPhase := fun h => hi.releasingPhase (hphase.symm.trans h)
    releasedPhase := fun h => ?_ }
  obtain ⟨hsource, hidle, hall⟩ := hi.releasedPhase (hphase.symm.trans h)
  refine ⟨hsource, hidle, ?_⟩
  show s.returned = uarts (s.journal ++ [.completed])
  rw [uarts_append, hall]
  exact (List.append_nil _).symm

theorem Releasing.closeStep (hi : s.Releasing) {move : Move Event} (hprompt : s.Prompt move)
    (hstep : s.closeStep move = some s') : s'.Releasing := by
  have hconsistent := hi.consistent.closeStep hstep
  cases move with
  | beginClose => exact hi.beginClose hprompt hstep
  | closeSource succeeds =>
    simp only [Recorder.closeStep] at hstep
    split at hstep
    · obtain rfl := Option.some.inj hstep
      refine { hi with
        consistent := hconsistent
        closedSource := fun source h => ?_ }
      have hmem := hi.closedSource source h
      show source ∈ if succeeds then _ :: s.closedSources else s.closedSources
      split
      · exact List.mem_cons_of_mem _ hmem
      · exact hmem
    · cases hstep
  | join =>
    simp only [Recorder.closeStep] at hstep
    split at hstep
    · obtain rfl := Option.some.inj hstep
      exact { hi with consistent := hconsistent }
    · cases hstep
  | complete succeeds =>
    simp only [Recorder.closeStep] at hstep
    split at hstep
    · split at hstep <;> obtain rfl := Option.some.inj hstep
      · cases hactive : s.sessionActive <;> rw [hactive] at hconsistent
        · exact { hi with consistent := hconsistent }
        · exact hi.completed false .publishing hconsistent
      · exact { hi with consistent := hconsistent }
    · cases hstep
  | publishClosed =>
    simp only [Recorder.closeStep] at hstep
    split at hstep
    · rename_i hpoint
      obtain rfl := Option.some.inj hstep
      have hfinished := hi.consistent.joined (.inr (.inr hpoint))
      exact { hi with
        consistent := hconsistent
        awaited := fun source hrelease hdrained => by
          -- the thread that has ended drains nothing
          have hdrains := (hi.awaited source hrelease hdrained).2
          rw [hfinished] at hdrains
          exact Bool.noConfusion hdrains
        drained := fun hrelease hdrained hfault =>
          ⟨rfl, (hi.drained hrelease hdrained hfault).2⟩
        releasingPhase := fun _ => .inr (.inl rfl)
        releasedPhase := fun h => ⟨rfl, (hi.releasedPhase h).2⟩ }
    · cases hstep
  | settle =>
    simp only [Recorder.closeStep] at hstep
    split at hstep
    · obtain rfl := Option.some.inj hstep
      exact { hi with consistent := hconsistent }
    · cases hstep
  | closeAgain =>
    simp only [Recorder.closeStep] at hstep
    split at hstep
    · obtain rfl := Option.some.inj hstep
      exact { hi with consistent := hconsistent }
    · split at hstep
      · obtain rfl := Option.some.inj hstep
        exact { hi with consistent := hconsistent }
      · cases hstep
  | waiterReturns =>
    simp only [Recorder.closeStep] at hstep
    split at hstep
    · obtain rfl := Option.some.inj hstep
      exact { hi with consistent := hconsistent }
    · cases hstep
  | _ => simp [Recorder.closeStep] at hstep

theorem ReleasePoint.awaited_of_inProgress {point : ReleasePoint}
    (h : point.inProgress = false) : point.awaited = none := by
  cases point <;> first | rfl | exact Bool.noConfusion h

/-- A new source, while no release is under way. -/
theorem Releasing.newSource (hi : s.Releasing) (hprogress : s.release.inProgress = false)
    (sessionActive : Bool)
    (hconsistent : Consistent { s with
      source := some (s.generation + 1), generation := s.generation + 1, state := .connected,
      sessionActive := sessionActive, journal := s.journal ++ [.connected] }) :
    Releasing { s with
      source := some (s.generation + 1), generation := s.generation + 1, state := .connected,
      sessionActive := sessionActive, journal := s.journal ++ [.connected] } := by
  have hnot := ReleasePoint.awaited_of_inProgress hprogress
  have hphase : phase (s.journal ++ [.connected]) = some .owned := by
    rw [phase_append]
    have hordered := hi.ordered
    cases hp : phase s.journal with
    | none =>
      rw [hp] at hordered
      exact Bool.noConfusion hordered
    | some p => cases p <;> rfl
  have hpoint : ∀ point : ReleasePoint, s.release = point → point.inProgress = false :=
    fun _ h => h ▸ hprogress
  exact {
    consistent := hconsistent
    awaited := fun source h => absurd (hnot.symm.trans h) nofun
    releasing := hi.releasing
    complete := hi.complete
    drained := fun h => by
      rw [show s.release.awaited = none from hnot] at h
      exact Bool.noConfusion h
    closedSource := hi.closedSource
    requestingPhase := fun source h => Bool.noConfusion (hpoint _ h)
    awaitedPhase := fun source h => by rcases h with h | h <;> exact Bool.noConfusion (hpoint _ h)
    publishingPhase := fun source h => Bool.noConfusion (hpoint _ h)
    ordered := by rw [hphase]; rfl
    releasingPhase := fun h => absurd (hphase.symm.trans h) nofun
    releasedPhase := fun h => absurd (hphase.symm.trans h) nofun }

theorem Releasing.otherStep (hi : s.Releasing) {move : Move Event}
    (hstep : s.otherStep move = some s') : s'.Releasing := by
  have hconsistent := hi.consistent.otherStep hstep
  cases move with
  | detach =>
    simp only [Recorder.otherStep] at hstep
    split at hstep
    · rename_i h
      obtain rfl := Option.some.inj hstep
      have hnot := ReleasePoint.awaited_of_inProgress h.1
      exact { hi with
        consistent := hconsistent
        awaited := fun source hr => absurd (hnot.symm.trans hr) (by simp)
        drained := fun hr => by
          rw [show s.release.awaited = none from hnot] at hr
          exact Bool.noConfusion hr
        releasedPhase := fun hphase => ⟨rfl, (hi.releasedPhase hphase).2⟩ }
    · cases hstep
  | reconnect =>
    simp only [Recorder.otherStep] at hstep
    split at hstep
    · rename_i h
      obtain rfl := Option.some.inj hstep
      exact hi.newSource h.1 s.sessionActive hconsistent
    · cases hstep
  | reacquire =>
    simp only [Recorder.otherStep] at hstep
    split at hstep
    · rename_i h
      obtain rfl := Option.some.inj hstep
      exact hi.newSource h.1 true hconsistent
    · cases hstep
  | fatal =>
    obtain rfl := Option.some.inj hstep
    exact hi.recordFatal none
  | reconnectTimesOut =>
    simp only [Recorder.otherStep] at hstep
    split at hstep
    · obtain rfl := Option.some.inj hstep
      exact { hi with consistent := hconsistent }
    · cases hstep
  | beginReacquire =>
    simp only [Recorder.otherStep] at hstep
    split at hstep
    · obtain rfl := Option.some.inj hstep
      exact { hi with consistent := hconsistent }
    · cases hstep
  | reacquireFails =>
    simp only [Recorder.otherStep] at hstep
    split at hstep
    · obtain rfl := Option.some.inj hstep
      exact { hi with consistent := hconsistent }
    · cases hstep
  | failSession =>
    simp only [Recorder.otherStep] at hstep
    split at hstep
    · obtain rfl := Option.some.inj hstep
      exact { hi with consistent := hconsistent }
    · cases hstep
  | _ => simp [Recorder.otherStep] at hstep

theorem Releasing.step (hi : s.Releasing) {move : Move Event} (hprompt : s.Prompt move)
    (hstep : s.step move = some s') : s'.Releasing := by
  unfold Recorder.step at hstep
  split at hstep
  all_goals first
    | exact hi.readStep hstep
    | exact hi.handleStep hstep
    | exact hi.disconnectStep hstep
    | exact hi.releaseStep hprompt hstep
    | exact hi.closeStep hprompt hstep
    | exact hi.otherStep hstep

theorem Releasing.run (hi : s.Releasing) {moves : List (Move Event)} (hprompt : s.PromptRun moves)
    (hrun : s.run moves = some s') : s'.Releasing := by
  induction moves generalizing s with
  | nil =>
    obtain rfl := Option.some.inj hrun
    exact hi
  | cons move moves ih =>
    obtain ⟨s₁, hstep, hrest⟩ := Option.bind_eq_some_iff.mp hrun
    exact ih (hi.step hprompt.1 hstep) (hprompt.2 s₁ hstep) hrest

/-! ## A waiting release can go on -/

theorem CanDrain.of_step {move : Move Event} (hpeer : move.isPeer = true)
    (hstep : s.step move = some s') (h : s'.CanDrain) : s.CanDrain := by
  obtain ⟨moves, hpeers, s'', hrun, hdrained⟩ := h
  refine ⟨move :: moves, ?_, s'', ?_, hdrained⟩
  · intro m hm
    rcases List.mem_cons.mp hm with rfl | hm
    · exact hpeer
    · exact hpeers m hm
  · show (s.step move).bind (fun s₁ => s₁.run moves) = some s''
    rw [hstep]
    exact hrun

theorem CanDrain.now (h : s.releaseDrained = true) : s.CanDrain :=
  ⟨[], nofun, s, rfl, h⟩

/-- The release waits, and its source is closed and still the recorder's. -/
structure Waiting (s : Recorder Event) : Prop where
  release : ∃ source, s.release = .waiting source
  complete : s.releaseCloseComplete = true
  releasing : s.releasing = true
  source : ∃ source, s.source = some source
  fault : s.fault = false

theorem Waiting.drainingRelease (h : s.Waiting) {id : ℕ} (hpoint : s.ingest = .drainingRelease id) :
    s.CanDrain := by
  have hstep : s.step (.finishReleaseDrain false) = some { s with
      source := if s.source = some id then none else s.source
      releaseDrained := true
      ingest := .sampling } := by
    simp only [Recorder.step, handleStep, hpoint]
    rw [if_pos (.inl h.complete)]
    rfl
  exact .of_step rfl hstep (.now rfl)

theorem Waiting.raised (h : s.Waiting) {id : ℕ} {failure : Failure}
    (hpoint : s.ingest = .raised id failure) : s.CanDrain := by
  have hstep : s.step .enterReleaseDrain = some { s with ingest := .drainingRelease id } := by
    simp only [Recorder.step, handleStep, hpoint]
    rw [if_pos h.releasing]
  refine .of_step rfl hstep (Waiting.drainingRelease ?_ rfl)
  exact ⟨h.release, h.complete, h.releasing, h.source, h.fault⟩

theorem Waiting.reading (h : s.Waiting) {id : ℕ} (hpoint : s.ingest = .reading id) :
    s.CanDrain := by
  have hstep : s.step (.readRaises .disconnected)
      = some { s with ingest := .raised id .disconnected } := by
    simp only [Recorder.step, readStep, hpoint]
  refine .of_step rfl hstep (Waiting.raised ?_ rfl)
  exact ⟨h.release, h.complete, h.releasing, h.source, h.fault⟩

theorem Waiting.sampling (h : s.Waiting) (hpoint : s.ingest = .sampling) : s.CanDrain := by
  obtain ⟨id, hsource⟩ := h.source
  have hstep : s.step .sample = some { s with ingest := .reading id } := by
    simp only [Recorder.step, readStep, hpoint, hsource]
    rw [if_neg (Bool.not_eq_true _ ▸ h.fault)]
  refine .of_step rfl hstep (Waiting.reading ?_ rfl)
  exact ⟨h.release, h.complete, h.releasing, ⟨id, hsource⟩, h.fault⟩

theorem Waiting.receivedNothing (h : s.Waiting) {id : ℕ} (hpoint : s.ingest = .receivedNothing id) :
    s.CanDrain := by
  have hstep : s.step .inspect = some { s with ingest := .drainingRelease id } := by
    simp only [Recorder.step, handleStep, hpoint]
    rw [if_pos ⟨h.releasing, h.complete⟩]
  refine .of_step rfl hstep (Waiting.drainingRelease ?_ rfl)
  exact ⟨h.release, h.complete, h.releasing, h.source, h.fault⟩

/-- A fault over the source in hand lets the release go on, into its error. -/
theorem Consistent.drained_of_fatal (hi : s.Consistent) {id : ℕ}
    (hheld : s.ingest.held = some id) : (s.recordFatal (some id)).releaseDrained = true :=
  ((hi.recordFatal (some id)).fault (hi.recordFatal_fault hheld)).1

theorem Waiting.admitting (h : s.Waiting) (hi : s.Consistent) {id : ℕ} {event : Event}
    (hpoint : s.ingest = .admitting id event) : s.CanDrain := by
  obtain ⟨source, hrelease⟩ := h.release
  have hunlocked : s.release.locked = false := by rw [hrelease]; rfl
  by_cases hactive : s.sessionActive = true
  · have hstep : s.step (.admitEvent true) = some { s with
        ingest := .sampling, journal := s.journal ++ [.uart id event] } := by
      simp only [Recorder.step, readStep, hpoint]
      rw [if_neg (Bool.not_eq_true _ ▸ hunlocked), if_pos ⟨trivial, hactive⟩]
    refine .of_step rfl hstep (Waiting.sampling ?_ rfl)
    exact ⟨h.release, h.complete, h.releasing, h.source, h.fault⟩
  · have hstep : s.step (.admitEvent true) = some { s.recordFatal (some id) with
        ingest := .finished } := by
      simp only [Recorder.step, readStep, hpoint]
      rw [if_neg (Bool.not_eq_true _ ▸ hunlocked), if_neg fun hc => hactive hc.2]
    exact .of_step rfl hstep (.now (hi.drained_of_fatal (by rw [hpoint]; rfl)))

theorem Waiting.checkingClosing (h : s.Waiting) {id : ℕ} (hpoint : s.ingest = .checkingClosing id) :
    s.CanDrain := by
  have hstep : s.step (.checkClosing true) = some { s with ingest := .sampling } := by
    simp only [Recorder.step, handleStep, hpoint]
    rw [if_neg fun hc => Bool.noConfusion hc.2.2]
  refine .of_step rfl hstep (Waiting.sampling ?_ rfl)
  exact ⟨h.release, h.complete, h.releasing, h.source, h.fault⟩

theorem failing_canDrain (hi : s.Consistent) {id : ℕ} (hpoint : s.ingest = .failing id) :
    s.CanDrain := by
  have hstep : s.step .fail = some { s.recordFatal (some id) with ingest := .finished } := by
    simp only [Recorder.step, handleStep, hpoint]
  exact .of_step rfl hstep (.now (hi.drained_of_fatal (by rw [hpoint]; rfl)))

theorem notDraining_canDrain (hi : s.Consistent) {id : ℕ} (hpoint : s.ingest = .notDraining id .failed)
    (hclosing : s.closing = false) : s.CanDrain := by
  have hstep : s.step .leaveOrRecord = some { s with ingest := .failing id } := by
    simp only [Recorder.step, handleStep, hpoint]
    rw [if_neg (Bool.not_eq_true _ ▸ hclosing)]
  exact .of_step rfl hstep (failing_canDrain (hi.step hstep) rfl)

theorem notReleasing_canDrain (hi : s.Consistent) {id : ℕ}
    (hpoint : s.ingest = .notReleasing id .failed) (hclosing : s.closing = false) :
    s.CanDrain := by
  have hstep : s.step .enterShutdownDrain = some { s with ingest := .notDraining id .failed } := by
    simp only [Recorder.step, handleStep, hpoint]
    rw [if_neg (Bool.not_eq_true _ ▸ hclosing)]
  exact .of_step rfl hstep (notDraining_canDrain (hi.step hstep) rfl hclosing)

/-- Wherever the ingest thread stands, it can still drain the release or fault. -/
theorem Releasing.not_wedged (hi : s.Releasing) : ¬ s.Wedged := by
  rintro ⟨⟨source, hrelease⟩, hundrained, hstuck⟩
  have hawaited : s.release.awaited = some source := by rw [hrelease]; rfl
  have hawaiting := hi.awaiting hawaited hundrained
  have hwaiting : s.Waiting := {
    release := ⟨source, hrelease⟩
    complete := (hi.complete source hawaited).mpr hrelease
    releasing := hawaiting.releasing
    source := ⟨source, hawaiting.source⟩
    fault := hawaiting.fault }
  have hdrains := hawaiting.drains
  apply hstuck
  cases hpoint : s.ingest with
  | sampling => exact hwaiting.sampling hpoint
  | reading id => exact hwaiting.reading hpoint
  | admitting id event => exact hwaiting.admitting hi.consistent hpoint
  | receivedNothing id => exact hwaiting.receivedNothing hpoint
  | checkingClosing id => exact hwaiting.checkingClosing hpoint
  | raised id failure => exact hwaiting.raised hpoint
  | drainingRelease id => exact hwaiting.drainingRelease hpoint
  | failing id => exact failing_canDrain hi.consistent hpoint
  | notReleasing id failure =>
    rw [hpoint] at hdrains
    cases failure with
    | disconnected => exact Bool.noConfusion hdrains
    | failed => exact notReleasing_canDrain hi.consistent hpoint (Bool.not_eq_true' _ ▸ hdrains)
  | notDraining id failure =>
    rw [hpoint] at hdrains
    cases failure with
    | disconnected => exact Bool.noConfusion hdrains
    | failed => exact notDraining_canDrain hi.consistent hpoint (Bool.not_eq_true' _ ▸ hdrains)
  | drainingShutdown id failure =>
    rw [hpoint] at hdrains
    exact Bool.noConfusion hdrains
  | recording id =>
    rw [hpoint] at hdrains
    exact Bool.noConfusion hdrains
  | publishing id =>
    rw [hpoint] at hdrains
    exact Bool.noConfusion hdrains
  | waiting id =>
    rw [hpoint] at hdrains
    exact Bool.noConfusion hdrains
  | finished =>
    rw [hpoint] at hdrains
    exact Bool.noConfusion hdrains

/-! ## What a returned release says -/

/-- A journal that ends released has a `released` record with no evidence after it. -/
theorem exists_released {entries : List (Entry Event)} (h : phase entries = some .released) :
    ∃ before after, entries = before ++ .released :: after ∧ uarts after = [] := by
  induction entries using List.reverseRecOn with
  | nil => exact absurd h nofun
  | append_singleton entries entry ih =>
    rw [phase_append] at h
    obtain ⟨p, hp, hnext⟩ := Option.bind_eq_some_iff.mp h
    cases entry with
    | released => exact ⟨entries, [], rfl, rfl⟩
    | completed =>
      have hp' : p = .released := by cases p <;> first | rfl | exact absurd hnext nofun
      obtain ⟨before, after, rfl, huarts⟩ := ih (hp' ▸ hp)
      refine ⟨before, after ++ [.completed], by simp, ?_⟩
      rw [uarts_append, huarts]
      rfl
    | uart source event => cases p <;> exact absurd hnext nofun
    | unexpectedDisconnect => cases p <;> exact absurd hnext nofun
    | reconnectStarted => cases p <;> exact absurd hnext nofun
    | releaseRequested => cases p <;> exact absurd hnext nofun
    | connected => cases p <;> exact absurd hnext nofun

theorem Releasing.released (hi : s.Releasing) {source : ℕ} (hpoint : s.release = .publishing source)
    (hstep : s.step .publishReleased = some s') : s'.Released source := by
  have hstep' : s.step .publishReleased = some { s with
      state := .released, releasing := false, release := .returned } := by
    simp only [Recorder.step, Recorder.releaseStep, hpoint]
  rw [hstep'] at hstep
  obtain rfl := Option.some.inj hstep
  have hphase := hi.publishingPhase source hpoint
  obtain ⟨hsource, _, hall⟩ := hi.releasedPhase hphase
  obtain ⟨before, after, hjournal, huarts⟩ := exists_released hphase
  refine ⟨hsource, hi.closedSource source (.inr hpoint), rfl, before, after, hjournal, ?_, huarts⟩
  show uarts before = s.returned
  rw [hall]
  show uarts before = uarts s.journal
  rw [hjournal, uarts_append]
  show uarts before = uarts before ++ uarts after
  rw [huarts, List.append_nil]

/-- In every order of the threads' steps in which `release()` and a `close()` that overtakes
it come while the ingest thread still looks for them: no release is wedged, the journal has
no disconnect inside a release and no evidence between it and the next connection, and a
release that returns has drained its source. -/
theorem release_sound (moves : List (Move Event))
    (hprompt : (initial : Recorder Event).PromptRun moves) :
    ∀ s ∈ (initial : Recorder Event).run moves, ¬ s.Wedged ∧ (phase s.journal).isSome = true ∧
      ∀ source, s.release = .publishing source →
        ∀ s' ∈ s.step .publishReleased, s'.Released source := by
  intro s hrun
  have hi : s.Releasing := releasing_initial.run hprompt hrun
  exact ⟨hi.not_wedged, hi.ordered, fun source hpoint s' hstep => hi.released hpoint hstep⟩

/-- Evidence, a disconnect and a reconnect, then a release that finds events pending, and a
shutdown that comes while the ingest thread drains it. -/
def releasedRun : List (Move ℕ) :=
  [.sample, .readEvent 1, .admitEvent true, .sample, .readRaises .disconnected, .enterReleaseDrain,
    .enterShutdownDrain, .leaveOrRecord, .recordDisconnect true, .publishDisconnect, .detach, .wake,
    .reconnect, .sample, .beginRelease, .requestRelease true, .readRaises .failed,
    .enterReleaseDrain, .beginClose, .closeReleased true, .finishReleaseDrain true, .sample,
    .readEvent 2, .admitEvent true, .sample, .readNothing, .inspect, .finishReleaseDrain false,
    .recordReleased true]

theorem release_sound_releasedRun :
    ((initial : Recorder ℕ).run releasedRun).isSome = true ∧
      ∀ s ∈ (initial : Recorder ℕ).run releasedRun,
        ¬ s.Wedged ∧ (phase s.journal).isSome = true ∧
          ∀ source, s.release = .publishing source →
            ∀ s' ∈ s.step .publishReleased, s'.Released source :=
  ⟨by decide +kernel, release_sound releasedRun (by decide +kernel)⟩

/-! ## The release that comes too late -/

/-- The ingest thread waits for a source that only the suspended coordinator replaces. -/
structure Stranded (s : Recorder Event) : Prop where
  ingest : ∃ source, s.ingest = .waiting source ∧ s.source = some source
  release : s.release.inProgress = true
  undrained : s.releaseDrained = false
  fault : s.fault = false
  closing : s.closing = false
  close : s.close = .idle
  closed : s.closed = false
  closeComplete : s.closeComplete = false

theorem Stranded.step (h : s.Stranded) {move : Move Event} (hpeer : move.isPeer = true)
    (hstep : s.step move = some s') : s'.Stranded := by
  obtain ⟨⟨id, hpoint, hsource⟩, hrelease, hundrained, hfault, hclosing, hclose, hclosed,
    hcomplete⟩ := h
  unfold Recorder.step at hstep
  cases move with
  | wake =>
    simp only [Recorder.disconnectStep, hpoint] at hstep
    rw [if_neg] at hstep
    · cases hstep
    · rintro (h | h | h)
      · exact h hsource
      · exact absurd (h.symm.trans hclosing) (by simp)
      · exact absurd (h.symm.trans hfault) (by simp)
  | reacquireFails =>
    simp only [Recorder.otherStep] at hstep
    split at hstep
    · obtain rfl := Option.some.inj hstep
      exact ⟨⟨id, hpoint, hsource⟩, hrelease, hundrained, hfault, hclosing, hclose, hclosed,
        hcomplete⟩
    · cases hstep
  | _ =>
    -- no other step is enabled
    simp [Recorder.readStep, Recorder.handleStep, Recorder.disconnectStep, Recorder.closeStep,
      Recorder.otherStep, Move.isPeer, *] at hstep hpeer

theorem Stranded.not_canDrain (h : s.Stranded) : ¬ s.CanDrain := by
  rintro ⟨moves, hpeers, s', hrun, hdrained⟩
  induction moves generalizing s with
  | nil =>
    obtain rfl := Option.some.inj hrun
    exact absurd (h.undrained.symm.trans hdrained) nofun
  | cons move moves ih =>
    obtain ⟨s₁, hstep, hrest⟩ := Option.bind_eq_some_iff.mp hrun
    exact ih (h.step (hpeers move List.mem_cons_self) hstep)
      (fun m hm => hpeers m (List.mem_cons_of_mem _ hm)) hrest

/-- The connection is lost, and the ingest thread has seen that nobody releases or closes
the source when the release begins. -/
def strandedRun : List (Move ℕ) :=
  [.sample, .readRaises .disconnected, .enterReleaseDrain, .enterShutdownDrain, .leaveOrRecord,
    .beginRelease, .requestRelease true, .recordDisconnect true, .publishDisconnect,
    .closeReleased true]

theorem not_release_sound_stranded :
    ¬ ∀ moves : List (Move ℕ), ∀ s ∈ (initial : Recorder ℕ).run moves,
      ¬ s.Wedged ∧ (phase s.journal).isSome = true ∧
        ∀ source, s.release = .publishing source →
          ∀ s' ∈ s.step .publishReleased, s'.Released source := by
  intro hclaim
  have hrun : ∃ s ∈ (initial : Recorder ℕ).run strandedRun,
      (s.ingest = .waiting 1 ∧ s.source = some 1) ∧ s.release = .waiting 1
        ∧ s.releaseDrained = false ∧ s.fault = false ∧ s.closing = false ∧ s.close = .idle
        ∧ s.closed = false ∧ s.closeComplete = false := by decide +kernel
  obtain ⟨s, hs, hpoint, hrelease, hundrained, hfault, hclosing, hclose, hclosed, hcomplete⟩ := hrun
  have hstranded : s.Stranded :=
    ⟨⟨1, hpoint⟩, by rw [hrelease]; rfl, hundrained, hfault, hclosing, hclose, hclosed, hcomplete⟩
  exact (hclaim strandedRun s hs).1 ⟨⟨1, hrelease⟩, hundrained, hstranded.not_canDrain⟩

end Recorder

end IngestLoop
