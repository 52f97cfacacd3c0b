/-
# Shutdown and the events of the source

The recorder's threads together with the source they read.  What `read_event` did, whether
a close of the source returned, and what `has_pending_events` says are no longer chosen
with the step: the source decides them.

`close()` loses no event unless it begins after the ingest thread has found that nobody
closes the source, and before the thread looks at `_closing` once more.  A read of the
Basic source raises only when nothing is left, so nothing is lost then; the Enhanced host
raises while an event still waits for its queue, and that event is drained after the
thread has gone.
-/
import DutchMate.BasicSource
import DutchMate.EnhancedHost
import DutchMate.RecorderEffects

open IngestLoop

/-- A recorder and the newest source it had. -/
structure ShutdownSystem {Event : Type} (S : EventSource Event) where
  recorder : Recorder Event
  source : S.State
  /-- `close()` found the source with the recorder -/
  captured : Bool

/-- A step of the source, the return of the read under way, or another step of the
recorder's threads. -/
inductive ShutdownMove {Event : Type} (S : EventSource Event)
  | internal (move : S.Internal)
  | readReturns
  | act (move : Move Event)

/-- The step of the ingest thread after both drains. -/
def ShutdownMove.leaves {Event : Type} {S : EventSource Event} : ShutdownMove S → Bool
  | .act .leaveOrRecord => true
  | _ => false

namespace ShutdownSystem

variable {Event : Type} {S : EventSource Event}

def initial (S : EventSource Event) : ShutdownSystem S where
  recorder := .initial
  source := S.start
  captured := false

/-- What a step says of the source is what the source says. -/
def agrees (σ : S.State) : Move Event → Bool
  | .readEvent _ => false
  | .readNothing => false
  | .readRaises _ => false
  | .checkClosing pending => pending == S.pending σ
  | .finishReleaseDrain pending => pending == S.pending σ
  | .finishShutdownDrain pending => pending == S.pending σ
  | .closeReleased succeeds => S.closeResult σ == some succeeds
  | .closeSource succeeds => S.closeResult σ == some succeeds
  | _ => true

/-- What a step asks of the source; a new connection brings a new one. -/
def ask (r : Recorder Event) (σ : S.State) : Move Event → S.State
  | .sample => if r.source.isSome then S.beginRead σ else σ
  | .requestRelease succeeds => if succeeds && r.sessionActive then S.requestClose σ else σ
  | .beginClose => if r.source.isSome then S.requestClose σ else σ
  | .detach => S.requestClose σ
  | .reconnect => S.start
  | .reacquire => S.start
  | _ => σ

/-- A step that faults the recorder closes the source. -/
def respond (r r' : Recorder Event) (σ : S.State) (move : Move Event) : S.State :=
  if r'.fault then if r.source.isSome && !r.fault then S.requestClose σ else σ else ask r σ move

/-- `close()` captures the source the recorder has. -/
def captures (s : ShutdownSystem S) : Move Event → Bool
  | .beginClose => s.recorder.source.isSome
  | _ => s.captured

def step (s : ShutdownSystem S) : ShutdownMove S → Option (ShutdownSystem S)
  | .internal move =>
    match S.internal s.source move with
    | some σ => some { s with source := σ }
    | none => none
  | .readReturns =>
    match S.readResult s.source with
    | some (result, σ) =>
      match s.recorder.step (readMove result) with
      | some r => some { s with recorder := r, source := σ }
      | none => none
    | none => none
  | .act move =>
    if agrees s.source move then
      match s.recorder.step move with
      | some r => some {
          recorder := r
          source := respond s.recorder r s.source move
          captured := s.captures move }
      | none => none
    else none

def run (s : ShutdownSystem S) (moves : List (ShutdownMove S)) : Option (ShutdownSystem S) :=
  moves.foldlM step s

/-- The ingest thread is about to return because of `_closing`, after a read that raised. -/
def leaving (s : ShutdownSystem S) : Bool :=
  match s.recorder.ingest with
  | .notDraining _ _ => s.recorder.closing && !s.recorder.fault
  | _ => false

/-- The ingest thread returns so only when the source has nothing left, or its close has
failed. -/
def Clean (s : ShutdownSystem S) (move : ShutdownMove S) : Prop :=
  move.leaves = true → s.leaving = true →
    S.exhausted s.source = true ∨ s.recorder.closeError ≠ none

instance (s : ShutdownSystem S) (move : ShutdownMove S) : Decidable (s.Clean move) :=
  inferInstanceAs (Decidable (_ = true → _ = true → _ ∨ _))

def CleanRun (s : ShutdownSystem S) : List (ShutdownMove S) → Prop
  | [] => True
  | move :: moves => s.Clean move ∧ ∀ s' ∈ s.step move, s'.CleanRun moves

def CleanRun.decide (s : ShutdownSystem S) :
    (moves : List (ShutdownMove S)) → Decidable (s.CleanRun moves)
  | [] => isTrue trivial
  | move :: moves =>
    have : ∀ s' : ShutdownSystem S, Decidable (s'.CleanRun moves) := fun s' =>
      CleanRun.decide s' moves
    inferInstanceAs (Decidable (s.Clean move ∧ ∀ s' ∈ s.step move, s'.CleanRun moves))

instance (s : ShutdownSystem S) (moves : List (ShutdownMove S)) : Decidable (s.CleanRun moves) :=
  CleanRun.decide s moves

/-- The events of the recorder's newest source among some. -/
def ofSource (s : ShutdownSystem S) (entries : List (ℕ × Event)) : List Event :=
  (entries.filter fun entry => entry.1 == s.recorder.generation).map Prod.snd

/-! ## The source of a recorder without fault -/

structure Coupled (L : S.Lawful) (s : ShutdownSystem S) : Prop where
  valid : L.Valid s.source
  named : ∀ id, s.recorder.source = some id → id = s.recorder.generation
  old : ∀ entry ∈ s.recorder.returned, entry.1 ≤ s.recorder.generation
  returned : s.ofSource s.recorder.returned = S.delivered s.source
  reading : S.reading s.source = true ↔ ∃ id, s.recorder.ingest = .reading id
  released : s.recorder.releasing = true → s.recorder.releaseCloseComplete = true →
    s.recorder.closed = false → S.closeResult s.source = some true
  closed : s.captured = true → s.recorder.sourceCloseComplete = true →
    s.recorder.closeError = none → S.closeResult s.source = some true
  captured : s.captured = true → s.recorder.closing = true
  uncaptured : s.recorder.closing = true → s.captured = false → s.recorder.source = none
  gone : s.captured = true → s.recorder.closeError = none →
    s.recorder.source = none ∨ s.recorder.ingest = .finished → S.exhausted s.source = true
  active : s.captured = true → s.recorder.close.completed = false →
    s.recorder.sessionActive = true
  present : s.captured = true → s.recorder.close.completed = true →
    s.recorder.closeError = none → .completed ∈ s.recorder.journal

variable {L : S.Lawful} {s s' : ShutdownSystem S}

theorem coupled_initial : Coupled L (initial S) where
  valid := L.start_valid
  named _ h := (Option.some.inj h).symm
  old := nofun
  returned := L.start_delivered.symm
  reading := by
    rw [show S.reading (initial S).source = false from L.start_reading]
    exact ⟨nofun, fun ⟨_, h⟩ => absurd h nofun⟩
  released := nofun
  closed := nofun
  captured := nofun
  uncaptured := nofun
  gone := nofun
  active := nofun
  present := nofun

/-- The source takes a step that is no read's end. -/
theorem Coupled.toSource (hc : Coupled L s) {σ : S.State} (hvalid : L.Valid σ)
    (hkeeps : S.Keeps s.source σ) (hreading : S.reading σ = S.reading s.source) :
    Coupled L { s with source := σ } :=
  { hc with
    valid := hvalid
    returned := hc.returned.trans hkeeps.delivered.symm
    reading := by
      show S.reading σ = true ↔ _
      rw [hreading]
      exact hc.reading
    released := fun h h' h'' => hkeeps.closeResult true (hc.released h h' h'')
    closed := fun h h' h'' => hkeeps.closeResult true (hc.closed h h' h'')
    gone := fun h h' h'' => hkeeps.exhausted (hc.gone h h' h'') }

theorem Coupled.requestClose (hc : Coupled L s) :
    Coupled L { s with source := S.requestClose s.source } :=
  hc.toSource (L.requestClose_valid _ hc.valid) (L.requestClose_keeps _ hc.valid)
    (L.requestClose_reading _)

/-- The ingest thread moves on, with no read under way. -/
theorem Coupled.toPoint (hc : Coupled L s) (point : IngestPoint Event)
    (hold : ∀ id, s.recorder.ingest ≠ .reading id) (hnew : ∀ id, point ≠ .reading id)
    (hfinished : point = .finished → s.captured = true → s.recorder.closeError = none →
      S.exhausted s.source = true) :
    Coupled L { s with recorder := { s.recorder with ingest := point } } :=
  { hc with
    reading := by
      rw [hc.reading]
      exact ⟨fun ⟨id, h⟩ => absurd h (hold id), fun ⟨id, h⟩ => absurd h (hnew id)⟩
    gone := fun hcaptured herror h => by
      rcases h with h | h
      · exact hc.gone hcaptured herror (.inl h)
      · exact hfinished h hcaptured herror }

theorem Coupled.not_reading (hc : Coupled L s) (hpoint : ∀ id, s.recorder.ingest ≠ .reading id) :
    S.reading s.source = false := by
  by_contra h
  obtain ⟨id, h⟩ := hc.reading.mp (Bool.not_eq_false _ ▸ h)
  exact hpoint id h

/-- The recorder's source was captured by the shutdown under way. -/
theorem Coupled.captured_of_closing (hc : Coupled L s) (hclosing : s.recorder.closing = true)
    {id : ℕ} (hsource : s.recorder.source = some id) : s.captured = true := by
  by_contra h
  exact absurd (hsource.symm.trans (hc.uncaptured hclosing (Bool.not_eq_true _ ▸ h))) nofun

/-- Before `close()` nothing is captured. -/
theorem Coupled.not_captured (hc : Coupled L s) (hclosing : s.recorder.closing = false) :
    s.captured = false := by
  by_contra h
  exact Bool.noConfusion (hclosing.symm.trans (hc.captured (Bool.not_eq_false _ ▸ h)))

/-- A new connection: no event of it has been returned. -/
theorem Coupled.newSource (hc : Coupled L s) (hi : s.recorder.Consistent)
    (ho : s.recorder.ReleaseOrder) (hclosing : s.recorder.closing = false)
    (hidle : s.recorder.release.inProgress = false) (hsource : s.recorder.source = none)
    (hfault : s.recorder.fault = false) (state : RecorderState) (sessionActive : Bool) :
    Coupled L { s with
      recorder := { s.recorder with
        source := some (s.recorder.generation + 1)
        generation := s.recorder.generation + 1
        state := state
        sessionActive := sessionActive
        journal := s.recorder.journal ++ [.connected] }
      source := S.start } := by
  have hcaptured := hc.not_captured hclosing
  have hclosed : s.recorder.closed = false := by
    by_contra h
    exact Bool.noConfusion (hclosing.symm.trans (hi.closed (Bool.not_eq_false _ ▸ h)).1)
  refine ⟨L.start_valid, fun id h => (Option.some.inj h).symm, fun entry h => ?_, ?_, ?_,
    fun h => ?_, fun h => ?_, fun h => ?_, fun h => ?_, fun h => ?_, fun h => ?_, fun h => ?_⟩
  · exact Nat.le_succ_of_le (hc.old entry h)
  · -- the entries name older connections
    show (s.recorder.returned.filter fun entry => entry.1 == s.recorder.generation + 1).map Prod.snd
      = S.delivered S.start
    rw [L.start_delivered, List.filter_eq_nil_iff.mpr]
    · rfl
    · intro entry h heq
      have hle := hc.old entry h
      have heq : entry.1 = s.recorder.generation + 1 := beq_iff_eq.mp heq
      omega
  · show S.reading S.start = true ↔ ∃ id, s.recorder.ingest = .reading id
    rw [L.start_reading]
    refine ⟨nofun, fun ⟨id, h⟩ => ?_⟩
    exact absurd (hsource.symm.trans (hi.held id (by rw [h]; rfl) hfault)) nofun
  · exact absurd (hidle.symm.trans (ho.inProgress hclosed h)) nofun
  · exact Bool.noConfusion (hcaptured.symm.trans h)
  · exact Bool.noConfusion (hcaptured.symm.trans h)
  · exact Bool.noConfusion (hclosing.symm.trans h)
  · exact Bool.noConfusion (hcaptured.symm.trans h)
  · exact Bool.noConfusion (hcaptured.symm.trans h)
  · exact Bool.noConfusion (hcaptured.symm.trans h)

theorem Coupled.effect {move : Move Event} {r' : Recorder Event}
    (he : s.recorder.Effect move r') (hc : Coupled L s) (hi : s.recorder.Consistent)
    (ho : s.recorder.ReleaseOrder) (hs : s.recorder.SessionEnd) (hfault : s.recorder.fault = false)
    (hagrees : agrees s.source move = true) (hclean : s.Clean (.act move)) :
    Coupled L {
      recorder := r'
      source := ask s.recorder s.source move
      captured := s.captures move } := by
  cases he with
  | sampleNothing hpoint hsource hclosing =>
    rw [show ask s.recorder s.source .sample = s.source by simp [ask, hsource]]
    exact hc.toPoint _ (by simp [hpoint]) nofun fun _ h h' => hc.gone h h' (.inl hsource)
  | sample id hpoint hsource =>
    rw [show ask s.recorder s.source .sample = S.beginRead s.source by simp [ask, hsource]]
    have hidle := hc.not_reading (by simp [hpoint])
    have hkeeps := L.beginRead_keeps _ hc.valid hidle
    exact { hc with
      valid := L.beginRead_valid _ hc.valid hidle
      returned := hc.returned.trans hkeeps.delivered.symm
      reading := ⟨fun _ => ⟨id, rfl⟩, fun _ => L.beginRead_reading _⟩
      released := fun h h' h'' => hkeeps.closeResult true (hc.released h h' h'')
      closed := fun h h' h'' => hkeeps.closeResult true (hc.closed h h' h'')
      gone := fun h h' h'' => by
        rcases h'' with h'' | h''
        · exact hkeeps.exhausted (hc.gone h h' (.inl h''))
        · exact absurd h'' nofun }
  | readEvent => exact Bool.noConfusion hagrees
  | readNothing => exact Bool.noConfusion hagrees
  | readRaises => exact Bool.noConfusion hagrees
  | admitEvent id event hpoint hactive =>
    exact { hc.toPoint .sampling (by simp [hpoint]) nofun nofun with
      present := fun h h' h'' => List.mem_append_left _ (hc.present h h' h'') }
  | inspectReleased id hpoint => exact hc.toPoint _ (by simp [hpoint]) nofun nofun
  | inspect id hpoint => exact hc.toPoint _ (by simp [hpoint]) nofun nofun
  | finishClosing id hpoint hclosing hcomplete =>
    have hpending : S.pending s.source = false := (beq_iff_eq.mp hagrees).symm
    have hidle := hc.not_reading (by simp [hpoint])
    exact hc.toPoint _ (by simp [hpoint]) nofun fun _ hcaptured herror =>
      L.drained _ hc.valid hidle (hc.closed hcaptured hcomplete herror) hpending
  | checkClosing id pending hpoint => exact hc.toPoint _ (by simp [hpoint]) nofun nofun
  | enterReleaseDrain id failure hpoint => exact hc.toPoint _ (by simp [hpoint]) nofun nofun
  | notReleasing id failure hpoint => exact hc.toPoint _ (by simp [hpoint]) nofun nofun
  | releasePending id hpoint => exact hc.toPoint _ (by simp [hpoint]) nofun nofun
  | releaseDrained id hpoint hcomplete =>
    have hpending : S.pending s.source = false := (beq_iff_eq.mp hagrees).symm
    have hidle := hc.not_reading (by simp [hpoint])
    have hclosed : s.recorder.closed = false := by
      by_contra h
      have hfinished := hi.joined (.inl (Bool.not_eq_false _ ▸ h))
      exact absurd (hpoint.symm.trans hfinished) nofun
    have hexhausted : S.exhausted s.source = true :=
      L.drained _ hc.valid hidle (hc.released (ho.draining id hpoint) hcomplete hclosed) hpending
    exact { hc.toPoint .sampling (by simp [hpoint]) nofun nofun with
      named := nofun
      uncaptured := fun _ _ => rfl
      gone := fun _ _ _ => hexhausted }
  | enterShutdownDrain id failure hpoint => exact hc.toPoint _ (by simp [hpoint]) nofun nofun
  | notClosing id failure hpoint => exact hc.toPoint _ (by simp [hpoint]) nofun nofun
  | shutdownPending id failure hpoint => exact hc.toPoint _ (by simp [hpoint]) nofun nofun
  | shutdownDrained id failure hpoint => exact hc.toPoint _ (by simp [hpoint]) nofun nofun
  | leave id failure hpoint hclosing =>
    have hleaving : s.leaving = true := by
      rw [leaving, hpoint, hclosing, hfault]
      rfl
    exact hc.toPoint _ (by simp [hpoint]) nofun fun _ _ herror =>
      (hclean rfl hleaving).resolve_right fun h => h herror
  | disconnected id hpoint => exact hc.toPoint _ (by simp [hpoint]) nofun nofun
  | failed id hpoint => exact hc.toPoint _ (by simp [hpoint]) nofun nofun
  | skipDisconnect id succeeds hpoint => exact hc.toPoint _ (by simp [hpoint]) nofun nofun
  | recordDisconnect id hpoint hactive =>
    exact { hc.toPoint (.publishing id) (by simp [hpoint]) nofun nofun with
      present := fun h h' h'' => List.mem_append_left _ (hc.present h h' h'') }
  | skipPublish id hpoint => exact hc.toPoint _ (by simp [hpoint]) nofun nofun
  | publishDisconnect id hpoint =>
    exact { hc.toPoint (.waiting id) (by simp [hpoint]) nofun nofun with }
  | wake id hpoint => exact hc.toPoint _ (by simp [hpoint]) nofun nofun
  | beginRelease => exact { hc with released := fun _ => nofun }
  | requestRelease id hrelease hactive =>
    rw [show ask s.recorder s.source (.requestRelease true) = S.requestClose s.source by
      simp [ask, hactive]]
    exact { hc.requestClose with
      present := fun h h' h'' => List.mem_append_left _ (hc.present h h' h'') }
  | closeReleased id hrelease =>
    exact { hc with released := fun _ _ _ => beq_iff_eq.mp hagrees }
  | recordReleased =>
    exact { hc with
      present := fun h h' h'' => List.mem_append_left _ (hc.present h h' h'') }
  | publishReleased => exact { hc with released := nofun }
  | requestFails id succeeds hrelease hactive hclosed =>
    have hask : ask s.recorder s.source (.requestRelease succeeds) = s.source := by
      cases succeeds
      · rfl
      · simp [ask, hactive rfl]
    rw [hask]
    exact { hc with }
  | closeFails id hrelease hclosed =>
    exact { hc with released := fun _ _ h => Bool.noConfusion (h.symm.trans hclosed) }
  | releasedFails => exact { hc with }
  | beginClose id hsource hclosing =>
    rw [show ask s.recorder s.source .beginClose = S.requestClose s.source by simp [ask, hsource]]
    exact { hc.requestClose with
      closed := fun _ => nofun
      captured := fun _ => rfl
      uncaptured := fun _ h => by
        have h : s.recorder.source.isSome = false := h
        rw [hsource] at h
        exact absurd h nofun
      gone := fun _ _ h => by
        rcases h with h | h
        · exact absurd (hsource.symm.trans h) nofun
        · exact absurd h (hs.started hclosing)
      active := fun _ _ => hs.active (by simp [hsource]) (by rw [hi.closing hclosing]; rfl)
      present := fun _ => nofun }
  | beginCloseNothing hsource hclosing =>
    rw [show ask s.recorder s.source .beginClose = s.source by simp [ask, hsource],
      show s.captures .beginClose = false by simp [captures, hsource]]
    exact { hc with
      closed := nofun
      captured := nofun
      uncaptured := fun _ _ => hsource
      gone := nofun
      active := nofun
      present := nofun }
  | closeSource id succeeds hclose =>
    have hresult : S.closeResult s.source = some succeeds := beq_iff_eq.mp hagrees
    have herror := hs.early (by rw [hclose]; rfl)
    exact { hc with
      closed := fun _ _ h => by
        cases succeeds
        · exact absurd h nofun
        · exact hresult
      gone := fun h _ h' => hc.gone h herror h'
      active := fun h _ => hc.active h (by rw [hclose]; rfl)
      present := fun _ => nofun }
  | join hclose hpoint => exact { hc with
      active := fun h _ => hc.active h (by rw [hclose]; rfl)
      present := fun _ => nofun }
  | complete hclose =>
    have hactive := fun h => hc.active h (by rw [hclose]; rfl)
    exact { hc with
      active := fun _ => nofun
      present := fun h _ _ => by
        show _ ∈ if s.recorder.sessionActive then _ else _
        rw [if_pos (hactive h)]
        exact List.mem_append_right _ List.mem_cons_self }
  | completeFails hclose =>
    have herror : ∀ {p : Prop}, s.recorder.closeError.or (some .persistence) = none → p := by
      intro p h
      rw [Option.or_eq_none_iff] at h
      exact absurd h.2 nofun
    exact { hc with
      closed := fun _ _ h => herror h
      gone := fun _ h => herror h
      active := fun _ => nofun
      present := fun _ _ h => herror h }
  | publishClosed hclose =>
    have hfinished := hi.joined (.inr (.inr hclose))
    exact { hc with
      named := nofun
      released := fun _ _ => nofun
      uncaptured := fun _ _ => rfl
      gone := fun h h' _ => hc.gone h h' (.inr hfinished)
      active := fun _ => nofun
      present := fun h _ => hc.present h (by rw [hclose]; rfl) }
  | settle hclose =>
    exact { hc with
      active := fun _ => nofun
      present := fun h _ => hc.present h (by rw [hclose]; rfl) }
  | closeAgain => exact { hc with }
  | awaitClose => exact { hc with }
  | waiterReturns => exact { hc with }
  | detach hclosing hidle hstate =>
    have hcaptured := hc.not_captured hclosing
    exact { hc.requestClose with
      named := nofun
      uncaptured := fun _ _ => rfl
      gone := fun h => Bool.noConfusion (hcaptured.symm.trans h) }
  | reconnect hclosing hidle hsource hactive =>
    exact hc.newSource hi ho hclosing hidle hsource hfault .connected
      s.recorder.sessionActive
  | reconnectTimesOut hclosing hsource =>
    exact { hc with active := fun h => Bool.noConfusion ((hc.not_captured hclosing).symm.trans h) }
  | reacquire hclosing hidle hsource =>
    exact hc.newSource hi ho hclosing hidle hsource hfault .connected true
  | state move state hmove =>
    rcases hmove with rfl | rfl | rfl <;> exact { hc with }

/-- The read under way returns. -/
theorem Coupled.readReturns {result : ReadResult Event} {σ : S.State} {r' : Recorder Event}
    (hc : Coupled L s) (hresult : S.readResult s.source = some (result, σ))
    (he : s.recorder.Effect (readMove result) r') (hi : s.recorder.Consistent)
    (hfault : s.recorder.fault = false) :
    Coupled L { s with recorder := r', source := σ } := by
  have hvalid := L.readResult_valid _ _ _ hc.valid hresult
  have hdelivered := L.readResult_delivered _ _ _ hresult
  have hclose := L.readResult_closeResult _ _ _ hresult
  have hexhausted : S.exhausted s.source = true → S.exhausted σ = true := fun h =>
    (L.readResult_exhausted _ _ _ hc.valid hresult h).1
  have hnothing : ∀ {point : IngestPoint Event}, result.events = [] →
      (∀ id, point ≠ .reading id) → point ≠ .finished →
      Coupled L { s with recorder := { s.recorder with ingest := point }, source := σ } := by
    intro point hevents hreading hfinished
    rw [hevents, List.append_nil] at hdelivered
    exact { hc with
      valid := hvalid
      returned := hc.returned.trans hdelivered.symm
      reading := by
        rw [L.readResult_reading _ _ _ hresult]
        exact ⟨nofun, fun ⟨id, h⟩ => absurd h (hreading id)⟩
      released := fun h h' h'' => hclose.trans (hc.released h h' h'')
      closed := fun h h' h'' => hclose.trans (hc.closed h h' h'')
      gone := fun h h' h'' => by
        rcases h'' with h'' | h''
        · exact hexhausted (hc.gone h h' (.inl h''))
        · exact absurd h'' hfinished }
  cases result with
  | nothing =>
    cases he
    · exact hnothing rfl nofun nofun
    · rename_i hmove
      exact absurd hmove (by simp [readMove])
  | raised failure =>
    cases he
    · exact hnothing rfl nofun nofun
    · rename_i hmove
      exact absurd hmove (by simp [readMove])
  | event event =>
    cases he
    · rename_i id hpoint
      have hid : id = s.recorder.generation :=
        hc.named id (hi.held id (by rw [hpoint]; rfl) hfault)
      exact { hc with
        valid := hvalid
        old := fun entry h => by
          rcases List.mem_append.mp h with h | h
          · exact hc.old entry h
          · rw [List.mem_singleton.mp h]
            exact le_of_eq hid
        returned := by
          show (List.filter (fun entry => entry.1 == s.recorder.generation)
            (s.recorder.returned ++ [(id, event)])).map Prod.snd = S.delivered σ
          rw [hdelivered, List.filter_append, List.map_append, ← hc.returned]
          simp [ofSource, ReadResult.events, hid]
        reading := by
          rw [L.readResult_reading _ _ _ hresult]
          exact ⟨by rintro ⟨⟩, by rintro ⟨id, ⟨⟩⟩⟩
        released := fun h h' h'' => hclose.trans (hc.released h h' h'')
        closed := fun h h' h'' => hclose.trans (hc.closed h h' h'')
        gone := fun h h' h'' => by
          rcases h'' with h'' | h''
          · exact hexhausted (hc.gone h h' (.inl h''))
          · cases h'' }
    · rename_i hmove
      exact absurd hmove (by simp [readMove])

/-! ## Every step, and every run -/

structure Sound (L : S.Lawful) (s : ShutdownSystem S) : Prop where
  consistent : s.recorder.Consistent
  order : s.recorder.fault = false → s.recorder.ReleaseOrder
  ending : s.recorder.fault = false → s.recorder.SessionEnd
  coupled : s.recorder.fault = false → Coupled L s

theorem sound_initial : Sound L (initial S) where
  consistent := Recorder.consistent_initial
  order _ := Recorder.releaseOrder_initial
  ending _ := Recorder.sessionEnd_initial
  coupled _ := coupled_initial

theorem Sound.step {move : ShutdownMove S} (h : Sound L s) (hclean : s.Clean move)
    (hstep : s.step move = some s') : Sound L s' := by
  cases move with
  | internal move =>
    simp only [ShutdownSystem.step] at hstep
    split at hstep
    · rename_i σ hinternal
      obtain rfl := Option.some.inj hstep
      refine ⟨h.consistent, h.order, h.ending, fun hfault => ?_⟩
      have hc := h.coupled hfault
      exact hc.toSource (L.internal_valid _ _ _ hc.valid hinternal)
        (L.internal_keeps _ _ _ hc.valid hinternal) (L.internal_reading _ _ _ hc.valid hinternal)
    · exact absurd hstep nofun
  | readReturns =>
    simp only [ShutdownSystem.step] at hstep
    split at hstep
    · rename_i result σ hresult
      split at hstep
      · rename_i r hrecorder
        obtain rfl := Option.some.inj hstep
        have he := fun hfault => Recorder.effect h.consistent hrecorder hfault
        have hbefore : ∀ hfault : r.fault = false, s.recorder.fault = false :=
          fun hfault => (he hfault).fault.symm.trans hfault
        exact {
          consistent := h.consistent.step hrecorder
          order := fun hfault => (he hfault).releaseOrder h.consistent (hbefore hfault)
            (h.order (hbefore hfault))
          ending := fun hfault => (he hfault).sessionEnd h.consistent (h.ending (hbefore hfault))
          coupled := fun hfault => (h.coupled (hbefore hfault)).readReturns hresult (he hfault)
            h.consistent (hbefore hfault) }
      · exact absurd hstep nofun
    · exact absurd hstep nofun
  | act move =>
    simp only [ShutdownSystem.step] at hstep
    split at hstep
    · rename_i hagrees
      split at hstep
      · rename_i r hrecorder
        obtain rfl := Option.some.inj hstep
        have he := fun hfault => Recorder.effect h.consistent hrecorder hfault
        have hbefore : ∀ hfault : r.fault = false, s.recorder.fault = false :=
          fun hfault => (he hfault).fault.symm.trans hfault
        refine {
          consistent := h.consistent.step hrecorder
          order := fun hfault => (he hfault).releaseOrder h.consistent (hbefore hfault)
            (h.order (hbefore hfault))
          ending := fun hfault => (he hfault).sessionEnd h.consistent (h.ending (hbefore hfault))
          coupled := fun hfault => ?_ }
        have hfault : r.fault = false := hfault
        rw [show respond s.recorder r s.source move = ask s.recorder s.source move by
          simp [respond, hfault]]
        exact (h.coupled (hbefore hfault)).effect (he hfault) h.consistent
          (h.order (hbefore hfault)) (h.ending (hbefore hfault)) (hbefore hfault) hagrees hclean
      · exact absurd hstep nofun
    · exact absurd hstep nofun

theorem Sound.run (h : Sound L s) {moves : List (ShutdownMove S)} (hclean : s.CleanRun moves)
    (hrun : s.run moves = some s') : Sound L s' := by
  induction moves generalizing s with
  | nil =>
    obtain rfl := Option.some.inj hrun
    exact h
  | cons move moves ih =>
    obtain ⟨s₁, hstep, hrest⟩ := Option.bind_eq_some_iff.mp hrun
    exact ih (h.step hclean.1 hstep) (hclean.2 s₁ hstep) hrest

/-! ## A source whose reads raise only when nothing is left -/

/-- What a raised read says of such a source. -/
structure Spent (s : ShutdownSystem S) : Prop where
  requested : S.closeRequested s.source = true →
    s.recorder.releasing = true ∨ s.recorder.closing = true ∨ s.recorder.source = none
  raised : ∀ id failure, s.recorder.ingest = .raised id failure →
    s.recorder.releasing = false → s.recorder.closing = false → S.exhausted s.source = true
  notReleasing : ∀ id failure, s.recorder.ingest = .notReleasing id failure →
    s.recorder.closing = false → S.exhausted s.source = true
  draining : ∀ id failure, s.recorder.ingest = .drainingShutdown id failure →
    s.recorder.closing = true
  notDraining : ∀ id failure, s.recorder.ingest = .notDraining id failure →
    S.exhausted s.source = true ∨ s.recorder.closeError ≠ none

theorem spent_initial (L : S.Lawful) : Spent (initial S) where
  requested h := Bool.noConfusion (L.start_closeRequested.symm.trans h)
  raised := nofun
  notReleasing := nofun
  draining := nofun
  notDraining := nofun

theorem Spent.toPoint (hp : s.Spent) (point : IngestPoint Event)
    (hpoint : point.handlesRaise = false) :
    Spent { s with recorder := { s.recorder with ingest := point } } where
  requested := hp.requested
  raised id failure h := by
    have h : point = .raised id failure := h
    rw [h] at hpoint
    exact absurd hpoint nofun
  notReleasing id failure h := by
    have h : point = .notReleasing id failure := h
    rw [h] at hpoint
    exact absurd hpoint nofun
  draining id failure h := by
    have h : point = .drainingShutdown id failure := h
    rw [h] at hpoint
    exact absurd hpoint nofun
  notDraining id failure h := by
    have h : point = .notDraining id failure := h
    rw [h] at hpoint
    exact absurd hpoint nofun

/-- The source takes a step, and is closed only where a thread asked for it. -/
theorem Spent.toSource (hp : s.Spent) {σ : S.State} (hkeeps : S.Keeps s.source σ)
    (hrequested : S.closeRequested σ = true →
      s.recorder.releasing = true ∨ s.recorder.closing = true ∨ s.recorder.source = none) :
    Spent { s with source := σ } where
  requested := hrequested
  raised id failure h h' h'' := hkeeps.exhausted (hp.raised id failure h h' h'')
  notReleasing id failure h h' := hkeeps.exhausted (hp.notReleasing id failure h h')
  draining := hp.draining
  notDraining id failure h := (hp.notDraining id failure h).imp_left hkeeps.exhausted

theorem Spent.effect {move : Move Event} {r' : Recorder Event} (he : s.recorder.Effect move r')
    (hp : s.Spent) (hc : Coupled L s) (hi : s.recorder.Consistent) (ho : s.recorder.ReleaseOrder)
    (hs : s.recorder.SessionEnd) (hfault : s.recorder.fault = false)
    (hagrees : agrees s.source move = true) :
    Spent {
      recorder := r'
      source := ask s.recorder s.source move
      captured := s.captures move } := by
  -- a new connection is not closed, and no read of it is under way
  have hnew : s.recorder.source = none → ∀ state sessionActive journal, Spent {
      recorder := { s.recorder with
        source := some (s.recorder.generation + 1)
        generation := s.recorder.generation + 1
        state := state
        sessionActive := sessionActive
        journal := journal }
      source := S.start
      captured := s.captured } := by
    intro hsource state sessionActive journal
    have hheld : ∀ point : IngestPoint Event, s.recorder.ingest = point → point.held = none := by
      rintro point rfl
      cases hid : s.recorder.ingest.held with
      | none => rfl
      | some id => exact absurd (hsource.symm.trans (hi.held id hid hfault)) nofun
    exact {
      requested := fun h => Bool.noConfusion (L.start_closeRequested.symm.trans h)
      raised := fun id failure h => absurd (hheld _ h) nofun
      notReleasing := fun id failure h => absurd (hheld _ h) nofun
      draining := fun id failure h => absurd (hheld _ h) nofun
      notDraining := fun id failure h => absurd (hheld _ h) nofun }
  cases he with
  | sample id hpoint hsource =>
    rw [show ask s.recorder s.source .sample = S.beginRead s.source by simp [ask, hsource]]
    have hidle := hc.not_reading (by simp [hpoint])
    refine { (hp.toPoint (.reading id) rfl).toSource (σ := S.beginRead s.source)
      (L.beginRead_keeps _ hc.valid hidle) fun h => ?_ with }
    rw [L.beginRead_closeRequested] at h
    exact hp.requested h
  | sampleNothing hpoint hsource hclosing =>
    rw [show ask s.recorder s.source .sample = s.source by simp [ask, hsource]]
    exact hp.toPoint _ rfl
  | readEvent => exact Bool.noConfusion hagrees
  | readNothing => exact Bool.noConfusion hagrees
  | readRaises => exact Bool.noConfusion hagrees
  | admitEvent => exact { hp.toPoint .sampling rfl with }
  | notReleasing id failure hpoint hreleasing =>
    exact {
      requested := hp.requested
      raised := nofun
      notReleasing := fun _ _ _ hclosing => hp.raised id failure hpoint hreleasing hclosing
      draining := nofun
      notDraining := nofun }
  | releaseDrained =>
    exact { hp.toPoint .sampling rfl with requested := fun _ => .inr (.inr rfl) }
  | enterShutdownDrain id failure hpoint hclosing =>
    exact {
      requested := hp.requested
      raised := nofun
      notReleasing := nofun
      draining := fun _ _ _ => hclosing
      notDraining := nofun }
  | notClosing id failure hpoint hclosing =>
    exact {
      requested := hp.requested
      raised := nofun
      notReleasing := nofun
      draining := nofun
      notDraining := fun _ _ _ => .inl (hp.notReleasing id failure hpoint hclosing) }
  | shutdownDrained id failure hpoint hcomplete =>
    have hpending : S.pending s.source = false := (beq_iff_eq.mp hagrees).symm
    have hidle := hc.not_reading (by simp [hpoint])
    have hsource := hi.held id (by rw [hpoint]; rfl) hfault
    have hcaptured := hc.captured_of_closing (hp.draining id failure hpoint) hsource
    refine {
      requested := hp.requested
      raised := nofun
      notReleasing := nofun
      draining := nofun
      notDraining := fun _ _ _ => ?_ }
    by_cases herror : s.recorder.closeError = none
    · exact .inl (L.drained _ hc.valid hidle (hc.closed hcaptured hcomplete herror) hpending)
    · exact .inr herror
  | recordDisconnect id => exact { hp.toPoint (.publishing id) rfl with }
  | publishDisconnect id => exact { hp.toPoint (.waiting id) rfl with }
  | beginRelease =>
    exact { hp with
      requested := fun _ => .inl rfl
      raised := fun _ _ _ => nofun }
  | requestRelease id hrelease hactive =>
    rw [show ask s.recorder s.source (.requestRelease true) = S.requestClose s.source by
      simp [ask, hactive]]
    exact { hp.toSource (L.requestClose_keeps _ hc.valid)
      (fun _ => .inl (ho.releasing (by rw [hrelease]; rfl))) with }
  | requestFails id succeeds hrelease hactive hclosed =>
    have hask : ask s.recorder s.source (.requestRelease succeeds) = s.source := by
      cases succeeds
      · rfl
      · simp [ask, hactive rfl]
    rw [hask]
    exact { hp with }
  | publishReleased id hrelease =>
    -- the released source is drained, and the thread has let go of it
    have hsource := ho.drained (by rw [hrelease]; rfl) (ho.publishing id hrelease)
    exact { hp with
      requested := fun _ => .inr (.inr hsource)
      raised := fun other failure h => by
        have hheld := hi.held other (by rw [show s.recorder.ingest = _ from h]; rfl) hfault
        exact absurd (hheld.symm.trans hsource) nofun }
  | beginClose id hsource hclosing =>
    rw [show ask s.recorder s.source .beginClose = S.requestClose s.source by simp [ask, hsource]]
    exact {
      requested := fun _ => .inr (.inl rfl)
      raised := fun _ _ _ _ => nofun
      notReleasing := fun _ _ _ => nofun
      draining := fun _ _ _ => rfl
      notDraining := fun id failure h =>
        (hp.notDraining id failure h).imp_left (L.requestClose_keeps _ hc.valid).exhausted }
  | beginCloseNothing hsource hclosing =>
    rw [show ask s.recorder s.source .beginClose = s.source by simp [ask, hsource]]
    exact { hp with
      requested := fun _ => .inr (.inl rfl)
      raised := fun _ _ _ _ => nofun
      notReleasing := fun _ _ _ => nofun
      draining := fun _ _ _ => rfl }
  | closeSource id succeeds hclose =>
    have herror := hs.early (by rw [hclose]; rfl)
    exact { hp with
      notDraining := fun id failure h =>
        .inl ((hp.notDraining id failure h).resolve_right fun h => h herror) }
  | completeFails hclose =>
    exact { hp with
      notDraining := fun id failure h => .inr fun h => by
        have h : s.recorder.closeError.or (some .persistence) = none := h
        rw [Option.or_eq_none_iff] at h
        exact absurd h.2 nofun }
  | publishClosed => exact { hp with requested := fun _ => .inr (.inr rfl) }
  | detach =>
    exact { hp with
      requested := fun _ => .inr (.inr rfl)
      raised := fun id failure h h' h'' =>
        (L.requestClose_keeps _ hc.valid).exhausted (hp.raised id failure h h' h'')
      notReleasing := fun id failure h h' =>
        (L.requestClose_keeps _ hc.valid).exhausted (hp.notReleasing id failure h h')
      notDraining := fun id failure h =>
        (hp.notDraining id failure h).imp_left (L.requestClose_keeps _ hc.valid).exhausted }
  | reconnect hclosing hidle hsource hactive => exact hnew hsource _ _ _
  | reacquire hclosing hidle hsource => exact hnew hsource _ _ _
  | state move state hmove => rcases hmove with rfl | rfl | rfl <;> exact { hp with }
  | _ => first
    | exact hp.toPoint _ rfl
    | exact { hp with }

theorem Spent.readReturns {result : ReadResult Event} {σ : S.State} {r' : Recorder Event}
    (hp : s.Spent) (hraises : S.RaisesExhausted L) (hc : Coupled L s)
    (hresult : S.readResult s.source = some (result, σ))
    (he : s.recorder.Effect (readMove result) r') (hi : s.recorder.Consistent)
    (hfault : s.recorder.fault = false) :
    Spent { s with recorder := r', source := σ } := by
  have hrequested : S.closeRequested σ = true → s.recorder.releasing = true ∨
      s.recorder.closing = true ∨ s.recorder.source = none := by
    rw [L.readResult_closeRequested _ _ _ hresult]
    exact hp.requested
  cases result with
  | nothing =>
    cases he
    · exact {
        requested := hrequested
        raised := nofun
        notReleasing := nofun
        draining := nofun
        notDraining := nofun }
    · rename_i hmove
      exact absurd hmove (by simp [readMove])
  | event event =>
    cases he
    · exact {
        requested := hrequested
        raised := nofun
        notReleasing := nofun
        draining := nofun
        notDraining := nofun }
    · rename_i hmove
      exact absurd hmove (by simp [readMove])
  | raised failure =>
    cases he
    · rename_i id hpoint
      have hsource := hi.held id (by rw [hpoint]; rfl) hfault
      refine {
        requested := hrequested
        raised := fun _ _ _ hreleasing hclosing => ?_
        notReleasing := nofun
        draining := nofun
        notDraining := nofun }
      refine hraises _ _ _ hc.valid hresult (Bool.not_eq_true _ ▸ fun h => ?_)
      rcases hp.requested h with h | h | h
      · exact Bool.noConfusion (hreleasing.symm.trans h)
      · exact Bool.noConfusion (hclosing.symm.trans h)
      · exact absurd (hsource.symm.trans h) nofun
    · rename_i hmove
      exact absurd hmove (by simp [readMove])

theorem Spent.step (hp : s.recorder.fault = false → s.Spent) (hraises : S.RaisesExhausted L)
    (h : Sound L s) {move : ShutdownMove S} (hstep : s.step move = some s')
    (hfault' : s'.recorder.fault = false) : s'.Spent := by
  cases move with
  | internal move =>
    simp only [ShutdownSystem.step] at hstep
    split at hstep
    · rename_i σ hinternal
      obtain rfl := Option.some.inj hstep
      have hc := h.coupled hfault'
      refine (hp hfault').toSource (L.internal_keeps _ _ _ hc.valid hinternal) fun hrequested => ?_
      rw [L.internal_closeRequested _ _ _ hc.valid hinternal] at hrequested
      exact (hp hfault').requested hrequested
    · exact absurd hstep nofun
  | readReturns =>
    simp only [ShutdownSystem.step] at hstep
    split at hstep
    · rename_i result σ hresult
      split at hstep
      · rename_i r hrecorder
        obtain rfl := Option.some.inj hstep
        have he := Recorder.effect h.consistent hrecorder hfault'
        have hfault : s.recorder.fault = false := he.fault.symm.trans hfault'
        exact (hp hfault).readReturns hraises (h.coupled hfault) hresult he h.consistent hfault
      · exact absurd hstep nofun
    · exact absurd hstep nofun
  | act move =>
    simp only [ShutdownSystem.step] at hstep
    split at hstep
    · rename_i hagrees
      split at hstep
      · rename_i r hrecorder
        obtain rfl := Option.some.inj hstep
        have he := Recorder.effect h.consistent hrecorder hfault'
        have hfault : s.recorder.fault = false := he.fault.symm.trans hfault'
        have hquiet : r.fault = false := hfault'
        rw [show respond s.recorder r s.source move = ask s.recorder s.source move by
          simp [respond, hquiet]]
        exact (hp hfault).effect he (h.coupled hfault) h.consistent (h.order hfault)
          (h.ending hfault) hfault hagrees
      · exact absurd hstep nofun
    · exact absurd hstep nofun

theorem Spent.clean (hp : s.recorder.fault = false → s.Spent) (move : ShutdownMove S) :
    s.Clean move := by
  intro _ hleaving
  unfold leaving at hleaving
  split at hleaving
  · rename_i id failure hpoint
    rw [Bool.and_eq_true, Bool.not_eq_true'] at hleaving
    exact (hp hleaving.2).notDraining id failure hpoint
  · exact absurd hleaving nofun

/-- Every run of such a source is clean. -/
theorem Sound.cleanRun (h : Sound L s) (hp : s.recorder.fault = false → s.Spent)
    (hraises : S.RaisesExhausted L) (moves : List (ShutdownMove S)) : s.CleanRun moves := by
  induction moves generalizing s with
  | nil => trivial
  | cons move moves ih =>
    refine ⟨Spent.clean hp move, fun s₁ hstep => ?_⟩
    exact ih (h.step (Spent.clean hp move) hstep)
      (fun hfault => Spent.step hp hraises h hstep hfault)

/-! ## Nothing comes after a source that is exhausted -/

theorem fault_of_run (hi : s.recorder.Consistent) {moves : List (ShutdownMove S)}
    (hrun : s.run moves = some s') (hfault : s'.recorder.fault = false) :
    s.recorder.fault = false := by
  induction moves generalizing s with
  | nil =>
    obtain rfl := Option.some.inj hrun
    exact hfault
  | cons move moves ih =>
    obtain ⟨s₁, hstep, hrest⟩ := Option.bind_eq_some_iff.mp hrun
    cases move with
    | internal move =>
      simp only [ShutdownSystem.step] at hstep
      split at hstep
      · rename_i σ hinternal
        obtain rfl := Option.some.inj hstep
        exact ih (s := { s with source := σ }) hi hrest
      · exact absurd hstep nofun
    | readReturns =>
      simp only [ShutdownSystem.step] at hstep
      split at hstep
      · split at hstep
        · rename_i r hrecorder
          obtain rfl := Option.some.inj hstep
          have hfault₁ := ih (hi.step hrecorder) hrest
          exact (Recorder.effect hi hrecorder hfault₁).fault.symm.trans hfault₁
        · exact absurd hstep nofun
      · exact absurd hstep nofun
    | act move =>
      simp only [ShutdownSystem.step] at hstep
      split at hstep
      · split at hstep
        · rename_i r hrecorder
          obtain rfl := Option.some.inj hstep
          have hfault₁ := ih (hi.step hrecorder) hrest
          exact (Recorder.effect hi hrecorder hfault₁).fault.symm.trans hfault₁
        · exact absurd hstep nofun
      · exact absurd hstep nofun

/-- The shutdown is under way, and its source has nothing left. -/
structure Ended (s : ShutdownSystem S) : Prop where
  closing : s.recorder.closing = true
  exhausted : S.exhausted s.source = true

theorem Ended.effect {move : Move Event} {r' : Recorder Event} (hd : s.Ended)
    (he : s.recorder.Effect move r') (hc : Coupled L s) (hagrees : agrees s.source move = true) :
    r'.closing = true ∧ S.exhausted (ask s.recorder s.source move) = true ∧
      r'.returned = s.recorder.returned := by
  obtain ⟨hclosing, hexhausted⟩ := hd
  have hrequest : S.exhausted (S.requestClose s.source) = true :=
    (L.requestClose_keeps _ hc.valid).exhausted hexhausted
  have hopen : ∀ {p : Prop}, s.recorder.closing = false → p := fun h =>
    Bool.noConfusion (h.symm.trans hclosing)
  cases he with
  | sample id hpoint hsource =>
    rw [show ask s.recorder s.source .sample = S.beginRead s.source by simp [ask, hsource]]
    have hidle := hc.not_reading (by simp [hpoint])
    exact ⟨hclosing, (L.beginRead_keeps _ hc.valid hidle).exhausted hexhausted, rfl⟩
  | sampleNothing hpoint hsource =>
    rw [show ask s.recorder s.source .sample = s.source by simp [ask, hsource]]
    exact ⟨hclosing, hexhausted, rfl⟩
  | readEvent => exact Bool.noConfusion hagrees
  | requestRelease id hrelease hactive =>
    rw [show ask s.recorder s.source (.requestRelease true) = S.requestClose s.source by
      simp [ask, hactive]]
    exact ⟨hclosing, hrequest, rfl⟩
  | requestFails id succeeds hrelease hactive hclosed =>
    rw [show ask s.recorder s.source (.requestRelease succeeds) = s.source by
      cases succeeds
      · rfl
      · simp [ask, hactive rfl]]
    exact ⟨hclosing, hexhausted, rfl⟩
  | beginRelease id hsource hidle h => exact hopen h
  | beginClose id hsource h => exact hopen h
  | beginCloseNothing hsource h => exact hopen h
  | detach h => exact hopen h
  | reconnect h => exact hopen h
  | reconnectTimesOut h => exact hopen h
  | reacquire h => exact hopen h
  | state move state hmove =>
    rcases hmove with rfl | rfl | rfl <;> exact ⟨hclosing, hexhausted, rfl⟩
  | _ => exact ⟨hclosing, hexhausted, rfl⟩

theorem Ended.step (hd : s.Ended) (h : Sound L s) {move : ShutdownMove S}
    (hstep : s.step move = some s') (hfault' : s'.recorder.fault = false) :
    s'.Ended ∧ s'.recorder.returned = s.recorder.returned := by
  cases move with
  | internal move =>
    simp only [ShutdownSystem.step] at hstep
    split at hstep
    · rename_i σ hinternal
      obtain rfl := Option.some.inj hstep
      have hc := h.coupled hfault'
      exact ⟨⟨hd.closing, (L.internal_keeps _ _ _ hc.valid hinternal).exhausted hd.exhausted⟩, rfl⟩
    · exact absurd hstep nofun
  | readReturns =>
    simp only [ShutdownSystem.step] at hstep
    split at hstep
    · rename_i result σ hresult
      split at hstep
      · rename_i r hrecorder
        obtain rfl := Option.some.inj hstep
        have he := Recorder.effect h.consistent hrecorder hfault'
        have hfault : s.recorder.fault = false := he.fault.symm.trans hfault'
        obtain ⟨hexhausted, hevents⟩ :=
          L.readResult_exhausted _ _ _ (h.coupled hfault).valid hresult hd.exhausted
        cases result with
        | event event => exact absurd hevents nofun
        | nothing =>
          cases he
          · exact ⟨⟨hd.closing, hexhausted⟩, rfl⟩
          · rename_i hmove
            exact absurd hmove (by simp [readMove])
        | raised failure =>
          cases he
          · exact ⟨⟨hd.closing, hexhausted⟩, rfl⟩
          · rename_i hmove
            exact absurd hmove (by simp [readMove])
      · exact absurd hstep nofun
    · exact absurd hstep nofun
  | act move =>
    simp only [ShutdownSystem.step] at hstep
    split at hstep
    · rename_i hagrees
      split at hstep
      · rename_i r hrecorder
        obtain rfl := Option.some.inj hstep
        have he := Recorder.effect h.consistent hrecorder hfault'
        have hfault : s.recorder.fault = false := he.fault.symm.trans hfault'
        have hquiet : r.fault = false := hfault'
        rw [show respond s.recorder r s.source move = ask s.recorder s.source move by
          simp [respond, hquiet]]
        obtain ⟨hclosing, hexhausted, hreturned⟩ := hd.effect he (h.coupled hfault) hagrees
        exact ⟨⟨hclosing, hexhausted⟩, hreturned⟩
      · exact absurd hstep nofun
    · exact absurd hstep nofun

/-- With nothing left, every step is clean. -/
theorem Ended.clean (hd : s.Ended) (move : ShutdownMove S) : s.Clean move :=
  fun _ _ => .inl hd.exhausted

theorem Ended.run (hd : s.Ended) (h : Sound L s) {moves : List (ShutdownMove S)}
    (hrun : s.run moves = some s') (hfault : s'.recorder.fault = false) :
    s'.recorder.returned = s.recorder.returned := by
  induction moves generalizing s with
  | nil =>
    obtain rfl := Option.some.inj hrun
    rfl
  | cons move moves ih =>
    obtain ⟨s₁, hstep, hrest⟩ := Option.bind_eq_some_iff.mp hrun
    have h₁ := h.step (hd.clean move) hstep
    obtain ⟨hd₁, hreturned⟩ := hd.step h hstep (fault_of_run h₁.consistent hrest hfault)
    exact (ih hd₁ h₁ hrest).trans hreturned

/-! ## The shutdown -/

/-- What a `close()` that returned normally leaves behind. -/
structure ShutDown (s : ShutdownSystem S) : Prop where
  /-- the source's events were returned, and admitted, once each and in order -/
  returned : s.recorder.returned = s.recorder.admitted
  admitted : s.captured = true → s.ofSource s.recorder.admitted = S.produced s.source
  /-- the session of a source that was there ends after all of them -/
  completed : s.captured = true → .completed ∈ s.recorder.journal
  last : ∀ before after, s.recorder.journal = before ++ .completed :: after → after = []
  terminal : s.recorder.sessionActive = false
  finished : s.recorder.ingest = .finished
  outcomes : ∀ outcome ∈ s.recorder.outcomes, outcome = s.recorder.closeError

/-- `has_pending_events` of a source that `close()` has closed is `False` only when no read
of it, whatever happens next, returns an event. -/
def PendingSound (s : ShutdownSystem S) : Prop :=
  s.recorder.closing = true → S.closeResult s.source = some true →
    S.reading s.source = false → S.pending s.source = false →
    ∀ moves, ∀ s' ∈ s.run moves, s'.recorder.fault = false →
      s'.recorder.returned = s.recorder.returned

/-- The shutdown loses no event. -/
def Lossless (s : ShutdownSystem S) : Prop :=
  s.recorder.fault = false →
    (s.recorder.close = .done → s.recorder.closeError = none → s.ShutDown) ∧ s.PendingSound

theorem Sound.lossless (h : Sound L s) : s.Lossless := by
  intro hfault
  have hi := h.consistent
  have hs := h.ending hfault
  have hc := h.coupled hfault
  refine ⟨fun hdone herror => ?_, fun hclosing hclosed hreading hpending moves s' hrun hfault' => ?_⟩
  · have hcompleted : s.recorder.close.completed = true := by
      rw [hdone]
      rfl
    have hfinished : s.recorder.ingest = .finished := hi.joined (.inl (hs.settling (.inr hdone)))
    have hreturned : s.recorder.returned = s.recorder.admitted := by
      rw [hi.inOrder hfault, Recorder.inFlight, hfinished, List.append_nil]
    exact {
      returned := hreturned
      admitted := fun hcaptured => by
        rw [← hreturned, hc.returned]
        exact L.exhausted_delivered _ hc.valid (hc.gone hcaptured herror (.inr hfinished))
      completed := fun hcaptured => hc.present hcaptured hcompleted herror
      last := hs.last
      terminal := hs.completed hcompleted herror
      finished := hfinished
      outcomes := hs.reported }
  · have hd : s.Ended := ⟨hclosing, L.drained _ hc.valid hreading hclosed hpending⟩
    exact hd.run h hrun hfault'

/-- With the Basic source no shutdown loses an event; with the Enhanced host none does in
whose run the ingest thread leaves, after a read that raised, only a source that has
nothing left. -/
theorem shutdown_lossless (capacity : ℕ) :
    (∀ moves, ∀ s ∈ (initial (BasicSource.source Event capacity)).run moves, s.Lossless) ∧
      ∀ moves, (initial (EnhancedHost.source Event capacity)).CleanRun moves →
        ∀ s ∈ (initial (EnhancedHost.source Event capacity)).run moves, s.Lossless := by
  constructor
  · intro moves s hrun
    have hinitial : Sound (BasicSource.lawful capacity)
        (initial (BasicSource.source Event capacity)) :=
      sound_initial
    have hclean := hinitial.cleanRun (fun _ => spent_initial (BasicSource.lawful capacity))
      (BasicSource.raisesExhausted capacity) moves
    exact (hinitial.run hclean hrun).lossless
  · intro moves hclean s hrun
    have hinitial : Sound (EnhancedHost.lawful capacity)
        (initial (EnhancedHost.source Event capacity)) :=
      sound_initial
    exact (hinitial.run hclean hrun).lossless

/-- A shutdown while one event is queued and one waits for the queue: the host drains both,
and the ingest thread reads them before it leaves. -/
def drainedRun : List (ShutdownMove (EnhancedHost.source ℕ 1)) :=
  [.internal (.normalize 1), .internal (.normalize 2), .act .sample, .act .beginClose,
    .internal .closeBegins, .internal .closeTerminates, .internal .cancelReader,
    .internal (.closeResource true), .internal .closeDrains, .internal .closeKeeps,
    .internal .closeAwaits, .internal (.closeStops true), .act (.closeSource true),
    .internal .next, .readReturns, .act (.admitEvent true), .act .sample, .internal .next,
    .readReturns, .act (.admitEvent true), .act .sample, .internal .next, .readReturns,
    .act .enterReleaseDrain, .act .enterShutdownDrain, .act (.finishShutdownDrain false),
    .act .leaveOrRecord, .act .join, .act (.complete true), .act .publishClosed, .act .settle]

theorem shutdown_lossless_drainedRun :
    (∃ s ∈ (initial (EnhancedHost.source ℕ 1)).run drainedRun,
      s.recorder.close = .done ∧ s.ofSource s.recorder.admitted = [1, 2]) ∧
    ∀ s ∈ (initial (EnhancedHost.source ℕ 1)).run drainedRun, s.Lossless :=
  ⟨by decide +kernel, (shutdown_lossless 1).2 drainedRun (by decide +kernel)⟩

/-! ## The event that waits -/

/-- The queue is full when a command fails.  The ingest thread takes the queue's event and
then finds the adapter terminal; `close()` comes before it looks at `_closing`, and drains
the event that waited when the thread has gone. -/
def abandonedRun : List (ShutdownMove (EnhancedHost.source ℕ 1)) :=
  [.internal (.normalize 1), .internal (.normalize 2), .internal .commandFails,
    .internal .cancelReader, .act .sample, .internal .next, .internal .next, .internal .next,
    .internal .next, .readReturns, .act (.admitEvent true), .act .sample, .internal .next,
    .internal .next, .internal .next, .internal .next, .readReturns, .act .enterReleaseDrain,
    .act .enterShutdownDrain, .act .beginClose, .act .leaveOrRecord, .internal .closeBegins,
    .internal .closeTerminates, .internal (.closeResource true), .internal .closeDrains,
    .internal .closeKeeps, .internal .closeAwaits, .internal (.closeStops true),
    .act (.closeSource true), .act .join, .act (.complete true), .act .publishClosed, .act .settle]

theorem not_shutdown_lossless_abandonedRun :
    ¬ ∀ moves, ∀ s ∈ (initial (EnhancedHost.source ℕ 1)).run moves, s.Lossless := by
  intro hclaim
  have hrun : ∃ s ∈ (initial (EnhancedHost.source ℕ 1)).run abandonedRun,
      s.recorder.fault = false ∧ s.recorder.close = .done ∧ s.recorder.closeError = none
        ∧ s.captured = true ∧ s.ofSource s.recorder.admitted = [1]
        ∧ (EnhancedHost.source ℕ 1).produced s.source = [1, 2] := by decide +kernel
  obtain ⟨s, hs, hfault, hdone, herror, hcaptured, hadmitted, hproduced⟩ := hrun
  have hlossless := ((hclaim abandonedRun s hs hfault).1 hdone herror).admitted hcaptured
  rw [hadmitted, hproduced] at hlossless
  exact absurd hlossless (by decide)

end ShutdownSystem
