/-
# The Basic source

`BasicBackendEventSource` has a reader thread that puts what it reads into a bounded
queue, and blocks when the queue is full.  The end of the stream shows in four ways: a
failure in the queue, a `_SourceClosed` in the queue (left out when the queue is full), a
cached terminal error, and a dead reader with an empty queue.

`closed_drained` is the source's part in a shutdown: when `close` has returned, what the
reader has read is in the queue, and `has_pending_events` says so.
-/
import DutchMate.EventSource

namespace BasicSource

variable {Event : Type}

/-- What the queue holds: `_ReaderOutcome`. -/
inductive Outcome (Event : Type)
  | event (event : Event)
  | failure (failure : ReadFailure)
  | sourceClosed
  deriving DecidableEq

def Outcome.events : Outcome Event → List Event
  | event e => [e]
  | failure _ => []
  | sourceClosed => []

/-- The reader thread: `self._reader` is `None`, created and not yet started, or runs. -/
inductive ReaderPoint (Event : Type)
  | absent
  | created
  | looping
  | reading
  | putting (outcome : Outcome Event)
  | dead
  deriving DecidableEq

/-- `Thread.is_alive`. -/
def ReaderPoint.isAlive : ReaderPoint Event → Bool
  | absent => false
  | created => false
  | looping => true
  | reading => true
  | putting _ => true
  | dead => false

/-- Where `_next_event` stands. -/
inductive NextPoint (Event : Type)
  | idle
  | checkingCached
  | ensuring
  | creating
  | starting
  | checkingAgain
  | checkingStop
  | checkingEmpty
  | checkingReader
  | getting
  | timedOut
  | timedOutReader
  | ended (result : ReadResult Event)
  deriving DecidableEq

/-- Where `close` stands. -/
inductive ClosePoint
  | idle
  | stopping
  | closingConnection
  | joining
  | posting (succeeded : Bool)
  | done (succeeded : Bool)
  deriving DecidableEq, Repr

structure State (Event : Type) where
  outcomes : List (Outcome Event)
  stop : Bool
  terminalError : Option ReadFailure
  reader : ReaderPoint Event
  next : NextPoint Event
  close : ClosePoint
  /-- what the reader has read -/
  produced : List Event
  /-- what `read_event` has returned -/
  delivered : List Event
  deriving DecidableEq

/-- A step of a read under way, of the reader thread, or of a close. -/
inductive Internal (Event : Type)
  | next
  | nextTimesOut
  | readerLoops
  | serialData (event : Event)
  | serialEmpty
  | serialFails
  | serialInvalid
  | put
  | closeStops
  | closeConnection (succeeds : Bool)
  | closeJoins
  | closeTimesOut
  | closePosts
  deriving DecidableEq

namespace State

def start : State Event where
  outcomes := []
  stop := false
  terminalError := none
  reader := .absent
  next := .idle
  close := .idle
  produced := []
  delivered := []

def raise (s : State Event) (failure : ReadFailure) : State Event :=
  { s with next := .ended (.raised failure) }

/-- The source is closed: the error of a stream that has no other one. -/
def raiseClosed (s : State Event) : State Event :=
  { s with terminalError := some .disconnected, next := .ended (.raised .disconnected) }

/-- Handle one outcome of the queue. -/
def take (s : State Event) : Outcome Event → State Event
  | .event e => { s with next := .ended (.event e) }
  | .failure f => { s with terminalError := some f, next := .ended (.raised f) }
  | .sourceClosed =>
    let failure := s.terminalError.getD .disconnected
    { s with terminalError := some failure, next := .ended (.raised failure) }

/-- `_next_event`, one access to shared state at a time. -/
def nextStep (s : State Event) : Option (State Event) :=
  match s.next with
  | .idle => none
  | .checkingCached =>
    match s.terminalError with
    | some f =>
      if s.outcomes = [] then some (s.raise f) else some { s with next := .ensuring }
    | none => some { s with next := .ensuring }
  | .ensuring =>
    -- `_ensure_reader_started`
    match s.reader with
    | .absent =>
      if s.stop then
        some { s with terminalError := some .disconnected, next := .checkingAgain }
      else some { s with next := .creating }
    | _ => some { s with next := .checkingAgain }
  | .creating => some { s with reader := .created, next := .starting }
  | .starting => some { s with reader := .looping, next := .checkingAgain }
  | .checkingAgain =>
    match s.terminalError with
    | some f =>
      if s.outcomes = [] then some (s.raise f) else some { s with next := .checkingStop }
    | none => some { s with next := .checkingStop }
  | .checkingStop =>
    if s.stop then some { s with next := .checkingEmpty } else some { s with next := .getting }
  | .checkingEmpty =>
    if s.outcomes = [] then some { s with next := .checkingReader }
    else some { s with next := .getting }
  | .checkingReader =>
    if s.reader.isAlive then some { s with next := .getting } else some s.raiseClosed
  | .getting =>
    match s.outcomes with
    | outcome :: outcomes => some ({ s with outcomes := outcomes }.take outcome)
    | [] => none
  | .timedOut =>
    if s.stop then some { s with next := .timedOutReader }
    else some { s with next := .ended .nothing }
  | .timedOutReader =>
    if s.reader.isAlive then some { s with next := .ended .nothing } else some s.raiseClosed
  | .ended _ => none

/-- `_read_serial`. -/
def readerStep (capacity : ℕ) (s : State Event) : Internal Event → Option (State Event)
  | .readerLoops =>
    match s.reader with
    | .looping => some { s with reader := if s.stop then .dead else .reading }
    | _ => none
  | .serialData event =>
    match s.reader with
    | .reading =>
      some { s with reader := .putting (.event event), produced := s.produced ++ [event] }
    | _ => none
  | .serialEmpty =>
    match s.reader with
    | .reading => some { s with reader := .looping }
    | _ => none
  | .serialFails =>
    match s.reader with
    | .reading =>
      some { s with reader := if s.stop then .dead else .putting (.failure .disconnected) }
    | _ => none
  | .serialInvalid =>
    match s.reader with
    | .reading => some { s with reader := .putting (.failure .failed) }
    | _ => none
  | .put =>
    match s.reader with
    | .putting outcome =>
      if s.outcomes.length < capacity then
        match outcome with
        | .event _ => some { s with outcomes := s.outcomes ++ [outcome], reader := .looping }
        | _ => some { s with outcomes := s.outcomes ++ [outcome], reader := .dead }
      else none
    | _ => none
  | _ => none

/-- `close`, under its lock. -/
def closeStep (capacity : ℕ) (s : State Event) : Internal Event → Option (State Event)
  | .closeStops =>
    match s.close with
    | .stopping => some { s with stop := true, close := .closingConnection }
    | _ => none
  | .closeConnection succeeds =>
    match s.close with
    | .closingConnection =>
      some { s with close := if succeeds then .joining else .posting false }
    | _ => none
  | .closeJoins =>
    match s.close, s.reader with
    | .joining, .absent => some { s with close := .posting true }
    -- a thread that was not started cannot be joined
    | .joining, .created => some { s with close := .posting false }
    | .joining, .dead => some { s with close := .posting true }
    | _, _ => none
  | .closeTimesOut =>
    match s.close with
    | .joining => if s.reader.isAlive then some { s with close := .posting false } else none
    | _ => none
  | .closePosts =>
    match s.close with
    | .posting succeeded =>
      some { s with
        outcomes :=
          if s.outcomes.length < capacity then s.outcomes ++ [.sourceClosed] else s.outcomes
        close := .done succeeded }
    | _ => none
  | _ => none

def internal (capacity : ℕ) (s : State Event) (move : Internal Event) : Option (State Event) :=
  match move with
  | .next => s.nextStep
  | .nextTimesOut =>
    match s.next, s.outcomes with
    | .getting, [] => some { s with next := .timedOut }
    | _, _ => none
  | .readerLoops | .serialData _ | .serialEmpty | .serialFails | .serialInvalid | .put =>
    s.readerStep capacity move
  | .closeStops | .closeConnection _ | .closeJoins | .closeTimesOut | .closePosts =>
    s.closeStep capacity move

def beginRead (s : State Event) : State Event := { s with next := .checkingCached }

/-- The first `close` takes the steps, under its lock. -/
def requestClose (s : State Event) : State Event :=
  if s.close = .idle then { s with close := .stopping } else s

def readResult (s : State Event) : Option (ReadResult Event × State Event) :=
  match s.next with
  | .ended result =>
    some (result, { s with next := .idle, delivered := s.delivered ++ result.events })
  | _ => none

/-- `has_pending_events`. -/
def hasPendingEvents (s : State Event) : Bool := !s.outcomes.isEmpty || s.reader.isAlive

/-- The events of the queue. -/
def queued (s : State Event) : List Event := s.outcomes.flatMap Outcome.events

/-- The event a read has taken and not yet returned. -/
def taken (s : State Event) : List Event :=
  match s.next with
  | .ended result => result.events
  | _ => []

/-- The event the reader waits to put into the queue. -/
def inHand (s : State Event) : List Event :=
  match s.reader with
  | .putting outcome => outcome.events
  | _ => []

/-- The reader puts nothing into the queue any more. -/
def readerEnded (s : State Event) : Bool :=
  match s.reader with
  | .dead => true
  | .absent => s.stop
  | .created => s.stop
  | .looping => s.stop
  | _ => false

def exhausted (s : State Event) : Bool :=
  s.queued.isEmpty && s.taken.isEmpty && s.readerEnded

end State

/-- `BasicBackendEventSource` with a queue of the given capacity. -/
def source (Event : Type) (capacity : ℕ) : EventSource Event where
  State := State Event
  Internal := Internal Event
  start := .start
  internal := State.internal capacity
  beginRead := State.beginRead
  readResult := State.readResult
  requestClose := State.requestClose
  closeResult s := match s.close with
    | .done succeeded => some succeeded
    | _ => none
  pending := State.hasPendingEvents
  reading s := match s.next with
    | .idle => false
    | _ => true
  closeRequested s := match s.close with
    | .idle => false
    | _ => true
  produced := State.produced
  delivered := State.delivered
  exhausted := State.exhausted

/-! ## What holds of a source -/

/-- `self._stop` is set. -/
def ClosePoint.stopped : ClosePoint → Bool
  | idle => false
  | stopping => false
  | _ => true

/-- A point that says nothing about the source. -/
def NextPoint.plain : NextPoint Event → Bool
  | .idle => true
  | .checkingCached => true
  | .ensuring => true
  | .checkingAgain => true
  | .checkingStop => true
  | .getting => true
  | .timedOut => true
  | .ended .nothing => true
  | _ => false

namespace State

structure Valid (s : State Event) : Prop where
  order : s.produced = s.delivered ++ s.taken ++ s.queued ++ s.inHand
  created : s.reader = .created → s.next = .starting
  creating : s.next = .creating → s.reader = .absent
  putting : s.reader ≠ .putting .sourceClosed
  starting : s.next = .starting → s.reader = .created
  stopped : s.close.stopped = true → s.stop = true
  requested : s.stop = true → s.close ≠ .idle
  joined : s.close = .posting true ∨ s.close = .done true → s.readerEnded = true
  failed : ∀ before f after, s.outcomes = before ++ .failure f :: after →
    s.reader = .dead ∧ after.flatMap Outcome.events = []
  posted : .sourceClosed ∈ s.outcomes → s.stop = true
  checkedStop : s.next = .checkingEmpty ∨ s.next = .checkingReader ∨ s.next = .timedOutReader →
    s.stop = true
  terminal : s.terminalError ≠ none → s.stop = true ∨ (s.queued = [] ∧ s.reader = .dead)
  raised : ∀ f, s.next = .ended (.raised f) → s.terminalError ≠ none

theorem start_valid : (start : State Event).Valid where
  order := rfl
  created := nofun
  creating := nofun
  putting := nofun
  starting := nofun
  stopped := nofun
  requested := nofun
  joined := by rintro (h | h) <;> exact absurd h nofun
  failed before f after h := by
    cases before <;> exact absurd h nofun
  posted := nofun
  checkedStop := by rintro (h | h | h) <;> exact absurd h nofun
  terminal h := absurd rfl h
  raised := nofun

variable {s s' : State Event} {capacity : ℕ}

/-- The reading thread goes on to a point where it has taken nothing. -/
theorem Valid.toPoint (hv : s.Valid) (point : NextPoint Event)
    (htaken : taken { s with next := point } = s.taken)
    (hcreated : s.reader ≠ .created) (hcreating : point = .creating → s.reader = .absent)
    (hstarting : point ≠ .starting)
    (hstop : point = .checkingEmpty ∨ point = .checkingReader ∨ point = .timedOutReader →
      s.stop = true)
    (hraised : ∀ f, point = .ended (.raised f) → s.terminalError ≠ none) :
    Valid { s with next := point } := by
  refine { hv with
    order := ?_
    created := fun h => absurd h hcreated
    creating := hcreating
    starting := fun h => absurd h hstarting
    checkedStop := hstop
    raised := hraised }
  show s.produced = s.delivered ++ taken { s with next := point } ++ s.queued ++ s.inHand
  rw [htaken]
  exact hv.order

theorem Valid.not_created (hv : s.Valid) (h : s.next ≠ .starting) : s.reader ≠ .created :=
  fun hc => h (hv.created hc)

/-- A stopped source ends with the error of a closed one. -/
theorem Valid.raiseClosed (hv : s.Valid) (htaken : s.taken = []) (hnext : s.next ≠ .starting)
    (hstop : s.stop = true) : s.raiseClosed.Valid := by
  refine { hv with
    order := ?_
    created := fun h => absurd h (hv.not_created hnext)
    creating := nofun
    starting := nofun
    checkedStop := fun _ => hstop
    terminal := fun _ => .inl hstop
    raised := fun _ _ => nofun }
  show s.produced = s.delivered ++ [] ++ s.queued ++ s.inHand
  rw [← htaken]
  exact hv.order

/-- Taking one outcome out of the queue. -/
theorem Valid.take (hv : s.Valid) {outcome : Outcome Event} {outcomes : List (Outcome Event)}
    (hnext : s.next = .getting) (houtcomes : s.outcomes = outcome :: outcomes) :
    ({ s with outcomes := outcomes }.take outcome).Valid := by
  have hqueued : s.queued = outcome.events ++ outcomes.flatMap Outcome.events := by
    rw [queued, houtcomes, List.flatMap_cons]
  have htaken : s.taken = [] := by simp [taken, hnext]
  have horder : s.produced
      = s.delivered ++ outcome.events ++ outcomes.flatMap Outcome.events ++ s.inHand := by
    rw [hv.order, htaken, hqueued]
    simp
  have hcreated : s.reader ≠ .created := hv.not_created (by simp [hnext])
  have hfailed : ∀ before f after, outcomes = before ++ .failure f :: after →
      s.reader = .dead ∧ after.flatMap Outcome.events = [] := by
    intro before f after h
    exact hv.failed (outcome :: before) f after (by rw [houtcomes, h]; rfl)
  have hposted : .sourceClosed ∈ outcomes → s.stop = true :=
    fun h => hv.posted (houtcomes ▸ List.mem_cons_of_mem _ h)
  cases outcome with
  | event e =>
    refine { hv with
      order := horder
      created := fun h => absurd h hcreated
      creating := nofun
      starting := nofun
      failed := hfailed
      posted := hposted
      checkedStop := by rintro (h | h | h) <;> exact absurd h nofun
      terminal := fun h => ?_
      raised := nofun }
    rcases hv.terminal h with hstop | ⟨hempty, _⟩
    · exact .inl hstop
    · rw [hqueued] at hempty
      exact absurd hempty nofun
  | failure f =>
    obtain ⟨hdead, hrest⟩ := hv.failed [] f outcomes houtcomes
    exact { hv with
      order := horder
      created := fun h => absurd h hcreated
      creating := nofun
      starting := nofun
      failed := hfailed
      posted := hposted
      checkedStop := by rintro (h | h | h) <;> exact absurd h nofun
      terminal := fun _ => .inr ⟨hrest, hdead⟩
      raised := fun _ _ => nofun }
  | sourceClosed =>
    have hstop := hv.posted (houtcomes ▸ List.mem_cons_self)
    exact { hv with
      order := horder
      created := fun h => absurd h hcreated
      creating := nofun
      starting := nofun
      failed := hfailed
      posted := hposted
      checkedStop := fun _ => hstop
      terminal := fun _ => .inl hstop
      raised := fun _ _ => nofun }

theorem Valid.toPlain (hv : s.Valid) (point : NextPoint Event) (hplain : point.plain = true)
    (htaken : s.taken = []) (hcreated : s.reader ≠ .created) :
    Valid { s with next := point } := by
  apply hv.toPoint point
  · rw [htaken]
    cases point <;> first | rfl | (rename_i r; cases r <;> first | rfl | exact absurd hplain nofun)
  · exact hcreated
  · rintro rfl
    exact absurd hplain nofun
  · rintro rfl
    exact absurd hplain nofun
  · rintro (rfl | rfl | rfl) <;> exact absurd hplain nofun
  · rintro f rfl
    exact absurd hplain nofun

/-- The errors of a source that has one in its cache. -/
theorem Valid.raise (hv : s.Valid) {f : ReadFailure} (hf : s.terminalError = some f)
    (htaken : s.taken = []) (hcreated : s.reader ≠ .created) : (s.raise f).Valid := by
  apply hv.toPoint
  · exact htaken.symm
  · exact hcreated
  · exact nofun
  · exact nofun
  · rintro (h | h | h) <;> exact absurd h nofun
  · intro _ _
    rw [hf]
    exact nofun

theorem Valid.checkTerminal (hv : s.Valid) (point : NextPoint Event) (hplain : point.plain = true)
    (htaken : s.taken = []) (hcreated : s.reader ≠ .created)
    (hstep : (match s.terminalError with
      | some f => if s.outcomes = [] then some (s.raise f) else some { s with next := point }
      | none => some { s with next := point }) = some s') : s'.Valid := by
  split at hstep
  · rename_i f hf
    split at hstep <;> obtain rfl := Option.some.inj hstep
    · exact hv.raise hf htaken hcreated
    · exact hv.toPlain point hplain htaken hcreated
  · obtain rfl := Option.some.inj hstep
    exact hv.toPlain point hplain htaken hcreated

theorem Valid.nextStep (hv : s.Valid) (hstep : s.nextStep = some s') : s'.Valid := by
  unfold State.nextStep at hstep
  have hquiet : ∀ point : NextPoint Event, s.next = point → point ≠ .starting →
      s.reader ≠ .created := fun point h hne => hv.not_created (h ▸ hne)
  cases hnext : s.next with
  | idle =>
    rw [hnext] at hstep
    exact absurd hstep nofun
  | ended result =>
    rw [hnext] at hstep
    exact absurd hstep nofun
  | checkingCached =>
    rw [hnext] at hstep
    exact hv.checkTerminal .ensuring rfl (by simp [taken, hnext]) (hquiet _ hnext nofun) hstep
  | checkingAgain =>
    rw [hnext] at hstep
    exact hv.checkTerminal .checkingStop rfl (by simp [taken, hnext]) (hquiet _ hnext nofun) hstep
  | ensuring =>
    rw [hnext] at hstep
    have htaken : s.taken = [] := by simp [taken, hnext]
    have hcreated := hquiet _ hnext nofun
    dsimp only at hstep
    split at hstep
    · rename_i habsent
      split at hstep <;> obtain rfl := Option.some.inj hstep
      · rename_i hstop
        exact { hv.toPlain .checkingAgain rfl htaken hcreated with
          terminal := fun _ => .inl hstop
          raised := nofun }
      · exact hv.toPoint .creating htaken.symm hcreated (fun _ => habsent) nofun
          (by rintro (h | h | h) <;> exact absurd h nofun) nofun
    · obtain rfl := Option.some.inj hstep
      exact hv.toPlain .checkingAgain rfl htaken hcreated
  | creating =>
    -- the thread exists; it has read nothing
    rw [hnext] at hstep
    obtain rfl := Option.some.inj hstep
    have habsent := hv.creating hnext
    have hended : ∀ h : s.readerEnded = true, s.stop = true := by
      intro h
      rw [readerEnded, habsent] at h
      exact h
    refine { hv with
      order := ?_
      created := fun _ => rfl
      creating := nofun
      putting := nofun
      starting := fun _ => rfl
      joined := fun h => hended (hv.joined h)
      failed := fun before f after h => ?_
      checkedStop := by rintro (h | h | h) <;> exact absurd h nofun
      terminal := fun h => ?_
      raised := nofun }
    · have horder := hv.order
      rw [show s.taken = [] by simp [taken, hnext], show s.inHand = [] by simp [inHand, habsent]]
        at horder
      exact horder
    · exact absurd (habsent.symm.trans (hv.failed before f after h).1) nofun
    · rcases hv.terminal h with hstop | ⟨_, hdead⟩
      · exact .inl hstop
      · exact absurd (habsent.symm.trans hdead) nofun
  | starting =>
    rw [hnext] at hstep
    obtain rfl := Option.some.inj hstep
    have hcreated := hv.starting hnext
    refine { hv with
      order := ?_
      created := nofun
      creating := nofun
      putting := nofun
      starting := nofun
      joined := fun h => ?_
      failed := fun before f after h => ?_
      checkedStop := by rintro (h | h | h) <;> exact absurd h nofun
      terminal := fun h => ?_
      raised := nofun }
    · have horder := hv.order
      rw [show s.taken = [] by simp [taken, hnext], show s.inHand = [] by simp [inHand, hcreated]]
        at horder
      exact horder
    · have hended := hv.joined h
      rw [readerEnded, hcreated] at hended
      exact hended
    · exact absurd (hcreated.symm.trans (hv.failed before f after h).1) nofun
    · rcases hv.terminal h with hstop | ⟨_, hdead⟩
      · exact .inl hstop
      · exact absurd (hcreated.symm.trans hdead) nofun
  | checkingStop =>
    rw [hnext] at hstep
    have htaken : s.taken = [] := by simp [taken, hnext]
    have hcreated := hquiet _ hnext nofun
    dsimp only at hstep
    split at hstep <;> obtain rfl := Option.some.inj hstep
    · rename_i hstop
      exact hv.toPoint .checkingEmpty htaken.symm hcreated nofun nofun (fun _ => hstop) nofun
    · exact hv.toPlain .getting rfl htaken hcreated
  | checkingEmpty =>
    rw [hnext] at hstep
    have htaken : s.taken = [] := by simp [taken, hnext]
    have hcreated := hquiet _ hnext nofun
    dsimp only at hstep
    split at hstep <;> obtain rfl := Option.some.inj hstep
    · exact hv.toPoint .checkingReader htaken.symm hcreated nofun nofun
        (fun _ => hv.checkedStop (.inl hnext)) nofun
    · exact hv.toPlain .getting rfl htaken hcreated
  | checkingReader =>
    rw [hnext] at hstep
    have htaken : s.taken = [] := by simp [taken, hnext]
    dsimp only at hstep
    split at hstep <;> obtain rfl := Option.some.inj hstep
    · exact hv.toPlain .getting rfl htaken (hquiet _ hnext nofun)
    · exact hv.raiseClosed htaken (by simp [hnext]) (hv.checkedStop (.inr (.inl hnext)))
  | getting =>
    rw [hnext] at hstep
    dsimp only at hstep
    split at hstep
    · rename_i outcome outcomes houtcomes
      obtain rfl := Option.some.inj hstep
      exact hv.take hnext houtcomes
    · exact absurd hstep nofun
  | timedOut =>
    rw [hnext] at hstep
    have htaken : s.taken = [] := by simp [taken, hnext]
    have hcreated := hquiet _ hnext nofun
    dsimp only at hstep
    split at hstep <;> obtain rfl := Option.some.inj hstep
    · rename_i hstop
      exact hv.toPoint .timedOutReader htaken.symm hcreated nofun nofun (fun _ => hstop) nofun
    · exact hv.toPlain (.ended .nothing) rfl htaken hcreated
  | timedOutReader =>
    rw [hnext] at hstep
    have htaken : s.taken = [] := by simp [taken, hnext]
    dsimp only at hstep
    split at hstep <;> obtain rfl := Option.some.inj hstep
    · exact hv.toPlain (.ended .nothing) rfl htaken (hquiet _ hnext nofun)
    · exact hv.raiseClosed htaken (by simp [hnext]) (hv.checkedStop (.inr (.inr hnext)))

/-- The running reader goes on. -/
theorem Valid.toReader (hv : s.Valid) (halive : s.reader.isAlive = true)
    (reader : ReaderPoint Event) (produced : List Event) (hcreated : reader ≠ .created)
    (hputting : reader ≠ .putting .sourceClosed)
    (horder : produced = s.delivered ++ s.taken ++ s.queued ++ inHand { s with reader := reader })
    (hended : s.readerEnded = true → readerEnded { s with reader := reader } = true) :
    Valid { s with reader := reader, produced := produced } := by
  have hdead : s.reader ≠ .dead := by
    intro h
    rw [h] at halive
    exact absurd halive nofun
  refine { hv with
    order := horder
    created := fun h => absurd h hcreated
    creating := fun h => ?_
    putting := hputting
    starting := fun h => ?_
    joined := fun h => hended (hv.joined h)
    failed := fun before f after h => absurd (hv.failed before f after h).1 hdead
    terminal := fun h => .inl ?_ }
  · rw [hv.creating h] at halive
    exact absurd halive nofun
  · rw [hv.starting h] at halive
    exact absurd halive nofun
  · rcases hv.terminal h with hstop | ⟨_, h⟩
    · exact hstop
    · exact absurd h hdead

theorem append_singleton_split {α : Type} {xs before after : List α} {x y : α}
    (h : xs ++ [x] = before ++ y :: after) :
    (after = [] ∧ x = y) ∨ ∃ rest, after = rest ++ [x] ∧ xs = before ++ y :: rest := by
  rcases List.eq_nil_or_concat after with rfl | ⟨rest, z, rfl⟩
  · have hlast := List.append_inj_right' h rfl
    exact .inl ⟨rfl, List.singleton_inj.mp hlast⟩
  · rw [List.concat_eq_append, ← List.cons_append, ← List.append_assoc] at h
    have hlast := List.append_inj_right' h rfl
    obtain rfl := List.singleton_inj.mp hlast
    exact .inr ⟨rest, by rw [List.concat_eq_append], List.append_inj_left' h rfl⟩

/-- The reader has put its outcome into the queue. -/
theorem Valid.put (hv : s.Valid) {outcome : Outcome Event} (hreader : s.reader = .putting outcome)
    (reader : ReaderPoint Event)
    (hnext : (∃ e, outcome = .event e) ∧ reader = .looping ∨ reader = .dead) :
    Valid { s with outcomes := s.outcomes ++ [outcome], reader := reader } := by
  have hdead : s.reader ≠ .dead := by simp [hreader]
  have hempty : inHand { s with outcomes := s.outcomes ++ [outcome], reader := reader } = [] := by
    rcases hnext with ⟨_, h⟩ | h <;> simp [inHand, h]
  have hstop : s.terminalError ≠ none → s.stop = true := by
    intro h
    rcases hv.terminal h with hstop | ⟨_, h⟩
    · exact hstop
    · exact absurd h hdead
  refine { hv with
    order := ?_
    created := fun h => ?_
    creating := fun h => ?_
    putting := ?_
    starting := fun h => ?_
    joined := fun h => ?_
    failed := fun before f after h => ?_
    posted := fun h => ?_
    terminal := fun h => .inl (hstop h) }
  · have horder := hv.order
    rw [show s.inHand = outcome.events by simp [inHand, hreader]] at horder
    show s.produced = s.delivered ++ s.taken ++ (s.outcomes ++ [outcome]).flatMap Outcome.events ++ _
    rw [hempty, List.flatMap_append, List.append_nil, horder]
    simp [queued]
  · rcases hnext with ⟨_, hr⟩ | hr <;> exact absurd (hr.symm.trans h) nofun
  · exact absurd (hreader.symm.trans (hv.creating h)) nofun
  · rcases hnext with ⟨_, hr⟩ | hr <;> rw [hr] <;> exact nofun
  · exact absurd (hreader.symm.trans (hv.starting h)) nofun
  · have hended := hv.joined h
    rw [readerEnded, hreader] at hended
    exact absurd hended nofun
  · -- the queue had no failure while the reader was running
    rcases append_singleton_split h with ⟨hafter, hfailure⟩ | ⟨rest, _, hbefore⟩
    · rcases hnext with ⟨⟨e, he⟩, _⟩ | hr
      · exact absurd (he.symm.trans hfailure) nofun
      · exact ⟨hr, by rw [hafter]; rfl⟩
    · exact absurd (hv.failed before f rest hbefore).1 hdead
  · rcases List.mem_append.mp h with hold | hnew
    · exact hv.posted hold
    · rw [← List.mem_singleton.mp hnew] at hreader
      exact absurd hreader hv.putting

theorem Valid.readerStep (hv : s.Valid) {move : Internal Event}
    (hstep : s.readerStep capacity move = some s') : s'.Valid := by
  cases move with
  | readerLoops =>
    simp only [State.readerStep] at hstep
    split at hstep
    · rename_i hreader
      obtain rfl := Option.some.inj hstep
      have horder := hv.order
      rw [show s.inHand = [] by simp [inHand, hreader]] at horder
      apply hv.toReader (by rw [hreader]; rfl)
      · split <;> exact nofun
      · split <;> exact nofun
      · rw [horder]
        split <;> rfl
      · intro hended
        rw [readerEnded, hreader] at hended
        rw [if_pos hended]
        rfl
    · exact absurd hstep nofun
  | serialData event =>
    simp only [State.readerStep] at hstep
    split at hstep
    · rename_i hreader
      obtain rfl := Option.some.inj hstep
      apply hv.toReader (by rw [hreader]; rfl) (.putting (.event event)) _ nofun nofun
      · have horder := hv.order
        rw [show s.inHand = [] by simp [inHand, hreader], List.append_nil] at horder
        rw [horder]
        rfl
      · intro hended
        rw [readerEnded, hreader] at hended
        exact absurd hended nofun
    · exact absurd hstep nofun
  | serialEmpty =>
    simp only [State.readerStep] at hstep
    split at hstep
    · rename_i hreader
      obtain rfl := Option.some.inj hstep
      apply hv.toReader (by rw [hreader]; rfl) .looping s.produced nofun nofun
      · have horder := hv.order
        rw [show s.inHand = [] by simp [inHand, hreader]] at horder
        exact horder
      · intro hended
        rw [readerEnded, hreader] at hended
        exact absurd hended nofun
    · exact absurd hstep nofun
  | serialFails =>
    simp only [State.readerStep] at hstep
    split at hstep
    · rename_i hreader
      obtain rfl := Option.some.inj hstep
      have horder := hv.order
      rw [show s.inHand = [] by simp [inHand, hreader]] at horder
      apply hv.toReader (by rw [hreader]; rfl)
      · split <;> exact nofun
      · split <;> exact nofun
      · rw [horder]
        split <;> rfl
      · intro hended
        rw [readerEnded, hreader] at hended
        exact absurd hended nofun
    · exact absurd hstep nofun
  | serialInvalid =>
    simp only [State.readerStep] at hstep
    split at hstep
    · rename_i hreader
      obtain rfl := Option.some.inj hstep
      apply hv.toReader (by rw [hreader]; rfl) (.putting (.failure .failed)) s.produced nofun nofun
      · have horder := hv.order
        rw [show s.inHand = [] by simp [inHand, hreader]] at horder
        exact horder
      · intro hended
        rw [readerEnded, hreader] at hended
        exact absurd hended nofun
    · exact absurd hstep nofun
  | put =>
    simp only [State.readerStep] at hstep
    split at hstep
    · rename_i outcome hreader
      split at hstep
      · split at hstep <;> obtain rfl := Option.some.inj hstep
        · rename_i e
          exact hv.put hreader .looping (.inl ⟨⟨e, rfl⟩, rfl⟩)
        · exact hv.put hreader .dead (.inr rfl)
      · exact absurd hstep nofun
    · exact absurd hstep nofun
  | _ => simp [State.readerStep] at hstep

theorem Valid.closeStep (hv : s.Valid) {move : Internal Event}
    (hstep : s.closeStep capacity move = some s') : s'.Valid := by
  cases move with
  | closeStops =>
    simp only [State.closeStep] at hstep
    split at hstep
    · rename_i hclose
      obtain rfl := Option.some.inj hstep
      exact { hv with
        stopped := fun _ => rfl
        requested := nofun
        joined := by rintro (h | h) <;> exact absurd h nofun
        posted := fun _ => rfl
        checkedStop := fun _ => rfl
        terminal := fun _ => .inl rfl }
    · exact absurd hstep nofun
  | closeConnection succeeds =>
    simp only [State.closeStep] at hstep
    split at hstep
    · rename_i hclose
      obtain rfl := Option.some.inj hstep
      have hstop := hv.stopped (by rw [hclose]; rfl)
      refine { hv with
        stopped := fun _ => hstop
        requested := fun _ => ?_
        joined := fun h => ?_ }
      · cases succeeds <;> exact nofun
      · cases succeeds <;> rcases h with h | h <;> exact absurd h nofun
    · exact absurd hstep nofun
  | closeJoins =>
    simp only [State.closeStep] at hstep
    split at hstep
    · rename_i hclose hreader
      obtain rfl := Option.some.inj hstep
      have hstop := hv.stopped (by rw [hclose]; rfl)
      refine { hv with
        stopped := fun _ => hstop
        requested := nofun
        joined := fun _ => ?_ }
      show readerEnded s = true
      rw [readerEnded, hreader]
      exact hstop
    · rename_i hclose hreader
      obtain rfl := Option.some.inj hstep
      have hstop := hv.stopped (by rw [hclose]; rfl)
      exact { hv with
        stopped := fun _ => hstop
        requested := nofun
        joined := by rintro (h | h) <;> exact absurd h nofun }
    · rename_i hclose hreader
      obtain rfl := Option.some.inj hstep
      have hstop := hv.stopped (by rw [hclose]; rfl)
      refine { hv with
        stopped := fun _ => hstop
        requested := nofun
        joined := fun _ => ?_ }
      show readerEnded s = true
      rw [readerEnded, hreader]
    · exact absurd hstep nofun
  | closeTimesOut =>
    simp only [State.closeStep] at hstep
    split at hstep
    · rename_i hclose
      split at hstep
      · obtain rfl := Option.some.inj hstep
        have hstop := hv.stopped (by rw [hclose]; rfl)
        exact { hv with
          stopped := fun _ => hstop
          requested := nofun
          joined := by rintro (h | h) <;> exact absurd h nofun }
      · exact absurd hstep nofun
    · exact absurd hstep nofun
  | closePosts =>
    simp only [State.closeStep] at hstep
    split at hstep
    · rename_i succeeded hclose
      obtain rfl := Option.some.inj hstep
      have hstop := hv.stopped (by rw [hclose]; rfl)
      have hjoined : ClosePoint.done succeeded = .posting true ∨
          ClosePoint.done succeeded = .done true → s.readerEnded = true := by
        rintro (h | h)
        · exact absurd h nofun
        · injection h with h
          exact hv.joined (.inl (h ▸ hclose))
      split
      · have hqueued : (s.outcomes ++ [Outcome.sourceClosed]).flatMap Outcome.events = s.queued := by
          rw [List.flatMap_append]
          exact List.append_nil _
        refine { hv with
          order := ?_
          stopped := fun _ => hstop
          requested := nofun
          joined := hjoined
          failed := fun before f after h => ?_
          posted := fun _ => hstop
          terminal := fun _ => .inl hstop }
        · show s.produced = s.delivered ++ s.taken ++
            (s.outcomes ++ [Outcome.sourceClosed]).flatMap Outcome.events ++ s.inHand
          rw [hqueued]
          exact hv.order
        · rcases append_singleton_split h with ⟨_, hfailure⟩ | ⟨rest, hafter, hbefore⟩
          · exact absurd hfailure nofun
          · obtain ⟨hdead, hrest⟩ := hv.failed before f rest hbefore
            refine ⟨hdead, ?_⟩
            rw [hafter, List.flatMap_append, hrest]
            rfl
      · exact { hv with
          stopped := fun _ => hstop
          requested := nofun
          joined := hjoined }
    · exact absurd hstep nofun
  | _ => simp [State.closeStep] at hstep

theorem Valid.internal (hv : s.Valid) {move : Internal Event}
    (hstep : s.internal capacity move = some s') : s'.Valid := by
  unfold State.internal at hstep
  split at hstep
  · exact hv.nextStep hstep
  · split at hstep
    · rename_i hnext houtcomes
      obtain rfl := Option.some.inj hstep
      exact hv.toPlain .timedOut rfl (by simp [taken, hnext]) (hv.not_created (by simp [hnext]))
    · exact absurd hstep nofun
  all_goals first
    | exact hv.readerStep hstep
    | exact hv.closeStep hstep

theorem Valid.beginRead (hv : s.Valid) (hidle : s.next = .idle) : s.beginRead.Valid := by
  apply hv.toPlain .checkingCached rfl
  · rw [taken, hidle]
  · exact hv.not_created (by simp [hidle])

theorem Valid.requestClose (hv : s.Valid) : s.requestClose.Valid := by
  unfold State.requestClose
  split
  · rename_i hclose
    have hstop : s.stop ≠ true := fun h => hv.requested h hclose
    exact { hv with
      stopped := nofun
      requested := fun h => absurd h hstop
      joined := by rintro (h | h) <;> exact absurd h nofun }
  · exact hv

theorem Valid.readResult (hv : s.Valid) {result : ReadResult Event}
    (hstep : s.readResult = some (result, s')) : s'.Valid := by
  unfold State.readResult at hstep
  split at hstep
  · rename_i r hnext
    obtain ⟨rfl, rfl⟩ := Prod.mk.inj (Option.some.inj hstep)
    refine { hv with
      order := ?_
      created := fun h => absurd h (hv.not_created (by simp [hnext]))
      creating := nofun
      starting := nofun
      checkedStop := by rintro (h | h | h) <;> exact absurd h nofun
      raised := nofun }
    have horder := hv.order
    rw [show s.taken = r.events by simp [taken, hnext]] at horder
    show s.produced = s.delivered ++ r.events ++ [] ++ s.queued ++ s.inHand
    rw [horder]
    simp
  · exact absurd hstep nofun

/-! ## What the steps keep -/

theorem exhausted_iff :
    s.exhausted = true ↔ s.queued = [] ∧ s.taken = [] ∧ s.readerEnded = true := by
  simp [exhausted, and_assoc]

/-- A step of the reading thread. -/
structure Reads (s s' : State Event) : Prop where
  delivered : s'.delivered = s.delivered
  close : s'.close = s.close
  exhausted : s.exhausted = true → s'.exhausted = true
  reading : s'.next ≠ .idle

theorem Reads.toPoint {point : NextPoint Event} (hidle : point ≠ .idle)
    (htaken : taken { s with next := point } = []) : s.Reads { s with next := point } where
  delivered := rfl
  close := rfl
  exhausted h := by
    obtain ⟨hqueued, _, hended⟩ := exhausted_iff.mp h
    exact exhausted_iff.mpr ⟨hqueued, htaken, hended⟩
  reading := hidle

theorem Reads.raiseClosed : s.Reads s.raiseClosed where
  delivered := rfl
  close := rfl
  exhausted h := by
    obtain ⟨hqueued, _, hended⟩ := exhausted_iff.mp h
    exact exhausted_iff.mpr ⟨hqueued, rfl, hended⟩
  reading := nofun

theorem Reads.take {outcome : Outcome Event} {outcomes : List (Outcome Event)}
    (houtcomes : s.outcomes = outcome :: outcomes) :
    s.Reads ({ s with outcomes := outcomes }.take outcome) := by
  have hqueued : s.queued = outcome.events ++ outcomes.flatMap Outcome.events := by
    rw [queued, houtcomes, List.flatMap_cons]
  refine ⟨?_, ?_, fun h => ?_, ?_⟩
  · cases outcome <;> rfl
  · cases outcome <;> rfl
  · obtain ⟨hempty, _, hended⟩ := exhausted_iff.mp h
    rw [hqueued] at hempty
    obtain ⟨houtcome, hrest⟩ := List.append_eq_nil_iff.mp hempty
    cases outcome with
    | event e => exact absurd houtcome nofun
    | failure f => exact exhausted_iff.mpr ⟨hrest, rfl, hended⟩
    | sourceClosed => exact exhausted_iff.mpr ⟨hrest, rfl, hended⟩
  · cases outcome <;> exact nofun

theorem Reads.checkTerminal (point : NextPoint Event) (hidle : point ≠ .idle)
    (htaken : taken { s with next := point } = [])
    (hstep : (match s.terminalError with
      | some f => if s.outcomes = [] then some (s.raise f) else some { s with next := point }
      | none => some { s with next := point }) = some s') : s.Reads s' := by
  split at hstep
  · split at hstep <;> obtain rfl := Option.some.inj hstep
    · exact .toPoint nofun rfl
    · exact .toPoint hidle htaken
  · obtain rfl := Option.some.inj hstep
    exact .toPoint hidle htaken

theorem Reads.ofReader {point : NextPoint Event} {reader : ReaderPoint Event}
    {failure : Option ReadFailure} (hidle : point ≠ .idle)
    (htaken : taken { s with next := point } = [])
    (hended : s.readerEnded = true → readerEnded { s with reader := reader } = true) :
    s.Reads { s with reader := reader, next := point, terminalError := failure } where
  delivered := rfl
  close := rfl
  exhausted h := by
    obtain ⟨hqueued, _, h⟩ := exhausted_iff.mp h
    exact exhausted_iff.mpr ⟨hqueued, htaken, hended h⟩
  reading := hidle

theorem nextStep_reads (hv : s.Valid) (hstep : s.nextStep = some s') : s.Reads s' := by
  unfold State.nextStep at hstep
  cases hnext : s.next with
  | idle =>
    rw [hnext] at hstep
    exact absurd hstep nofun
  | ended result =>
    rw [hnext] at hstep
    exact absurd hstep nofun
  | checkingCached =>
    rw [hnext] at hstep
    exact .checkTerminal .ensuring nofun rfl hstep
  | checkingAgain =>
    rw [hnext] at hstep
    exact .checkTerminal .checkingStop nofun rfl hstep
  | ensuring =>
    rw [hnext] at hstep
    dsimp only at hstep
    split at hstep
    · split at hstep <;> obtain rfl := Option.some.inj hstep
      · exact .ofReader nofun rfl id
      · exact .toPoint nofun rfl
    · obtain rfl := Option.some.inj hstep
      exact .toPoint nofun rfl
  | creating =>
    rw [hnext] at hstep
    obtain rfl := Option.some.inj hstep
    refine .ofReader nofun rfl fun h => ?_
    rw [readerEnded, hv.creating hnext] at h
    exact h
  | starting =>
    rw [hnext] at hstep
    obtain rfl := Option.some.inj hstep
    refine .ofReader nofun rfl fun h => ?_
    rw [readerEnded, hv.starting hnext] at h
    exact h
  | checkingStop =>
    rw [hnext] at hstep
    dsimp only at hstep
    split at hstep <;> obtain rfl := Option.some.inj hstep <;> exact .toPoint nofun rfl
  | checkingEmpty =>
    rw [hnext] at hstep
    dsimp only at hstep
    split at hstep <;> obtain rfl := Option.some.inj hstep <;> exact .toPoint nofun rfl
  | checkingReader =>
    rw [hnext] at hstep
    dsimp only at hstep
    split at hstep <;> obtain rfl := Option.some.inj hstep
    · exact .toPoint nofun rfl
    · exact .raiseClosed
  | getting =>
    rw [hnext] at hstep
    dsimp only at hstep
    split at hstep
    · rename_i outcome outcomes houtcomes
      obtain rfl := Option.some.inj hstep
      exact .take houtcomes
    · exact absurd hstep nofun
  | timedOut =>
    rw [hnext] at hstep
    dsimp only at hstep
    split at hstep <;> obtain rfl := Option.some.inj hstep <;> exact .toPoint nofun rfl
  | timedOutReader =>
    rw [hnext] at hstep
    dsimp only at hstep
    split at hstep <;> obtain rfl := Option.some.inj hstep
    · exact .toPoint nofun rfl
    · exact .raiseClosed

/-- A step of the reader thread or of a close. -/
structure Works (s s' : State Event) : Prop where
  delivered : s'.delivered = s.delivered
  next : s'.next = s.next
  close : ∀ succeeded, s.close = .done succeeded → s'.close = .done succeeded
  requested : s'.close = .idle ↔ s.close = .idle
  exhausted : s.exhausted = true → s'.exhausted = true

theorem readerStep_works {move : Internal Event} (hstep : s.readerStep capacity move = some s') :
    s.Works s' := by
  have hreading : ∀ point : ReaderPoint Event, s.reader = point →
      readerEnded { s with reader := point } = false → s.exhausted ≠ true := by
    rintro point hreader hended h
    have h := (exhausted_iff.mp h).2.2
    rw [← hreader] at hended
    exact Bool.noConfusion (hended.symm.trans h)
  cases move with
  | readerLoops =>
    simp only [State.readerStep] at hstep
    split at hstep
    · rename_i hreader
      obtain rfl := Option.some.inj hstep
      refine ⟨rfl, rfl, fun _ h => h, Iff.rfl, fun h => ?_⟩
      obtain ⟨hqueued, htaken, hended⟩ := exhausted_iff.mp h
      rw [readerEnded, hreader] at hended
      refine exhausted_iff.mpr ⟨hqueued, htaken, ?_⟩
      rw [if_pos hended]
      rfl
    · exact absurd hstep nofun
  | put =>
    simp only [State.readerStep] at hstep
    split at hstep
    · rename_i hreader
      split at hstep
      · split at hstep <;> obtain rfl := Option.some.inj hstep
          <;> exact ⟨rfl, rfl, fun _ h => h, Iff.rfl, fun h => absurd h (hreading _ hreader rfl)⟩
      · exact absurd hstep nofun
    · exact absurd hstep nofun
  | serialData event =>
    simp only [State.readerStep] at hstep
    split at hstep
    · rename_i hreader
      obtain rfl := Option.some.inj hstep
      exact ⟨rfl, rfl, fun _ h => h, Iff.rfl, fun h => absurd h (hreading _ hreader rfl)⟩
    · exact absurd hstep nofun
  | serialEmpty =>
    simp only [State.readerStep] at hstep
    split at hstep
    · rename_i hreader
      obtain rfl := Option.some.inj hstep
      exact ⟨rfl, rfl, fun _ h => h, Iff.rfl, fun h => absurd h (hreading _ hreader rfl)⟩
    · exact absurd hstep nofun
  | serialFails =>
    simp only [State.readerStep] at hstep
    split at hstep
    · rename_i hreader
      obtain rfl := Option.some.inj hstep
      exact ⟨rfl, rfl, fun _ h => h, Iff.rfl, fun h => absurd h (hreading _ hreader rfl)⟩
    · exact absurd hstep nofun
  | serialInvalid =>
    simp only [State.readerStep] at hstep
    split at hstep
    · rename_i hreader
      obtain rfl := Option.some.inj hstep
      exact ⟨rfl, rfl, fun _ h => h, Iff.rfl, fun h => absurd h (hreading _ hreader rfl)⟩
    · exact absurd hstep nofun
  | _ => simp [State.readerStep] at hstep

/-- The reader of an exhausted source ends whatever `_stop` says. -/
theorem readerEnded_stop (h : s.readerEnded = true) : readerEnded { s with stop := true } = true := by
  revert h
  unfold readerEnded
  cases s.reader <;> simp

theorem Works.ofClose {close : ClosePoint} (hdone : ∀ succeeded, s.close ≠ .done succeeded)
    (hidle : s.close ≠ .idle) (hclose : close ≠ .idle) : s.Works { s with close := close } where
  delivered := rfl
  next := rfl
  close _ h := absurd h (hdone _)
  requested := ⟨fun h => absurd h hclose, fun h => absurd h hidle⟩
  exhausted h := h

theorem closeStep_works {move : Internal Event} (hstep : s.closeStep capacity move = some s') :
    s.Works s' := by
  cases move with
  | closeStops =>
    simp only [State.closeStep] at hstep
    split at hstep
    · rename_i hclose
      obtain rfl := Option.some.inj hstep
      refine ⟨rfl, rfl, fun _ h => absurd (hclose.symm.trans h) nofun,
        ⟨nofun, fun h => absurd (hclose.symm.trans h) nofun⟩, fun h => ?_⟩
      obtain ⟨hqueued, htaken, hended⟩ := exhausted_iff.mp h
      exact exhausted_iff.mpr ⟨hqueued, htaken, readerEnded_stop hended⟩
    · exact absurd hstep nofun
  | closeConnection succeeds =>
    simp only [State.closeStep] at hstep
    split at hstep
    · rename_i hclose
      obtain rfl := Option.some.inj hstep
      apply Works.ofClose
      · simp [hclose]
      · simp [hclose]
      · cases succeeds <;> exact nofun
    · exact absurd hstep nofun
  | closeJoins =>
    simp only [State.closeStep] at hstep
    split at hstep
    all_goals first
      | (rename_i hclose _
         obtain rfl := Option.some.inj hstep
         exact .ofClose (by simp [hclose]) (by simp [hclose]) nofun)
      | exact absurd hstep nofun
  | closeTimesOut =>
    simp only [State.closeStep] at hstep
    split at hstep
    · rename_i hclose
      split at hstep
      · obtain rfl := Option.some.inj hstep
        exact .ofClose (by simp [hclose]) (by simp [hclose]) nofun
      · exact absurd hstep nofun
    · exact absurd hstep nofun
  | closePosts =>
    simp only [State.closeStep] at hstep
    split at hstep
    · rename_i succeeded hclose
      obtain rfl := Option.some.inj hstep
      refine ⟨rfl, rfl, fun _ h => absurd (hclose.symm.trans h) nofun,
        ⟨nofun, fun h => absurd (hclose.symm.trans h) nofun⟩, fun h => ?_⟩
      obtain ⟨hqueued, htaken, hended⟩ := exhausted_iff.mp h
      refine exhausted_iff.mpr ⟨?_, htaken, hended⟩
      show (if s.outcomes.length < capacity then s.outcomes ++ [.sourceClosed]
        else s.outcomes).flatMap Outcome.events = []
      split
      · rw [List.flatMap_append]
        exact (List.append_nil _).trans hqueued
      · exact hqueued
    · exact absurd hstep nofun
  | _ => simp [State.closeStep] at hstep

theorem internal_cases (hv : s.Valid) {move : Internal Event}
    (hstep : s.internal capacity move = some s') :
    (s.Reads s' ∧ s.next ≠ .idle) ∨ s.Works s' := by
  unfold State.internal at hstep
  split at hstep
  · refine .inl ⟨nextStep_reads hv hstep, fun hidle => ?_⟩
    rw [State.nextStep, hidle] at hstep
    exact absurd hstep nofun
  · split at hstep
    · rename_i hnext houtcomes
      obtain rfl := Option.some.inj hstep
      exact .inl ⟨.toPoint nofun rfl, by simp [hnext]⟩
    · exact absurd hstep nofun
  all_goals first
    | exact .inr (readerStep_works hstep)
    | exact .inr (closeStep_works hstep)

end State

section Lawful

variable (capacity : ℕ)

theorem closeResult_iff {s : State Event} {succeeded : Bool} :
    (source Event capacity).closeResult s = some succeeded ↔ s.close = .done succeeded := by
  show (match s.close with
    | .done succeeded => some succeeded
    | _ => none) = _ ↔ _
  cases s.close <;> simp

theorem reading_iff {s : State Event} :
    (source Event capacity).reading s = true ↔ s.next ≠ .idle := by
  show (match s.next with
    | .idle => false
    | _ => true) = true ↔ _
  cases s.next <;> simp

theorem closeRequested_iff {s : State Event} :
    (source Event capacity).closeRequested s = true ↔ s.close ≠ .idle := by
  show (match s.close with
    | .idle => false
    | _ => true) = true ↔ _
  cases s.close <;> simp

theorem not_reading_iff {s : State Event} :
    (source Event capacity).reading s = false ↔ s.next = .idle := by
  rw [← Bool.not_eq_true, reading_iff, not_not]

theorem internal_keeps {s s' : State Event} {move : Internal Event} (hv : s.Valid)
    (hstep : s.internal capacity move = some s') :
    (source Event capacity).Keeps s s' := by
  rcases State.internal_cases hv hstep with ⟨h, _⟩ | h
  · refine ⟨h.delivered, fun result hresult => ?_, h.exhausted⟩
    rw [closeResult_iff] at hresult ⊢
    exact h.close.trans hresult
  · refine ⟨h.delivered, fun result hresult => ?_, h.exhausted⟩
    rw [closeResult_iff] at hresult ⊢
    exact h.close result hresult

/-- A read that has come to its end has taken what it returns. -/
theorem readResult_eq {s s' : State Event} {result : ReadResult Event}
    (hstep : s.readResult = some (result, s')) :
    s.next = .ended result ∧
      s' = { s with next := .idle, delivered := s.delivered ++ result.events } := by
  unfold State.readResult at hstep
  split at hstep
  · obtain ⟨rfl, rfl⟩ := Prod.mk.inj (Option.some.inj hstep)
    exact ⟨‹_›, rfl⟩
  · exact absurd hstep nofun

/-- When `close` has returned, what the reader has read is in the queue. -/
theorem closed_drained {s : State Event} (hv : s.Valid) (hnext : s.next = .idle)
    (hclose : s.close = .done true) (hpending : s.hasPendingEvents = false) :
    s.exhausted = true := by
  rw [State.hasPendingEvents, Bool.or_eq_false_iff] at hpending
  have hempty : s.outcomes = [] := by
    have := hpending.1
    simpa using this
  refine State.exhausted_iff.mpr ⟨?_, ?_, hv.joined (.inr hclose)⟩
  · rw [State.queued, hempty]
    rfl
  · rw [State.taken, hnext]

theorem exhausted_delivered {s : State Event} (hv : s.Valid) (h : s.exhausted = true) :
    s.delivered = s.produced := by
  obtain ⟨hqueued, htaken, hended⟩ := State.exhausted_iff.mp h
  have hinHand : s.inHand = [] := by
    revert hended
    unfold State.readerEnded State.inHand
    cases s.reader <;> simp
  rw [hv.order, hqueued, htaken, hinHand]
  simp

theorem beginRead_keeps (s : State Event) : (source Event capacity).Keeps s s.beginRead := by
  refine ⟨rfl, fun _ h => h, fun h => ?_⟩
  obtain ⟨hqueued, _, hended⟩ := State.exhausted_iff.mp h
  exact State.exhausted_iff.mpr ⟨hqueued, rfl, hended⟩

theorem requestClose_keeps (s : State Event) :
    (source Event capacity).Keeps s s.requestClose := by
  unfold State.requestClose
  split
  · rename_i hclose
    refine ⟨rfl, fun result h => ?_, fun h => h⟩
    rw [closeResult_iff, hclose] at h
    exact absurd h nofun
  · exact ⟨rfl, fun _ h => h, fun h => h⟩

theorem requestClose_reading (s : State Event) :
    (source Event capacity).reading s.requestClose = (source Event capacity).reading s := by
  unfold State.requestClose
  split <;> rfl

theorem internal_reading {s s' : State Event} {move : Internal Event} (hv : s.Valid)
    (hstep : s.internal capacity move = some s') :
    (source Event capacity).reading s' = (source Event capacity).reading s := by
  rw [Bool.eq_iff_iff, reading_iff, reading_iff]
  rcases State.internal_cases hv hstep with ⟨h, hnext⟩ | h
  · exact ⟨fun _ => hnext, fun _ => h.reading⟩
  · rw [h.next]

theorem internal_closeRequested {s s' : State Event} {move : Internal Event} (hv : s.Valid)
    (hstep : s.internal capacity move = some s') :
    (source Event capacity).closeRequested s' = (source Event capacity).closeRequested s := by
  rw [Bool.eq_iff_iff, closeRequested_iff, closeRequested_iff]
  rcases State.internal_cases hv hstep with ⟨h, _⟩ | h
  · rw [h.close]
  · rw [Ne, h.requested]

theorem readResult_exhausted {s s' : State Event} {result : ReadResult Event}
    (hstep : s.readResult = some (result, s')) (h : s.exhausted = true) :
    s'.exhausted = true ∧ result.events = [] := by
  obtain ⟨hnext, rfl⟩ := readResult_eq hstep
  obtain ⟨hqueued, htaken, hended⟩ := State.exhausted_iff.mp h
  refine ⟨State.exhausted_iff.mpr ⟨hqueued, rfl, hended⟩, ?_⟩
  rw [State.taken, hnext] at htaken
  exact htaken

theorem delivered_prefix {s : State Event} (hv : s.Valid) : s.delivered <+: s.produced := by
  rw [hv.order, List.append_assoc, List.append_assoc]
  exact List.prefix_append _ _

/-- Before it is closed, a read raises only when the reader has ended. -/
theorem raised_exhausted {s s' : State Event} {failure : ReadFailure} (hv : s.Valid)
    (hstep : s.readResult = some (.raised failure, s')) (hclose : s.close = .idle) :
    s'.exhausted = true := by
  obtain ⟨hnext, rfl⟩ := readResult_eq hstep
  rcases hv.terminal (hv.raised failure hnext) with hstop | ⟨hqueued, hdead⟩
  · exact absurd hclose (hv.requested hstop)
  · refine State.exhausted_iff.mpr ⟨hqueued, rfl, ?_⟩
    show s.readerEnded = true
    rw [State.readerEnded, hdead]

def lawful : (source Event capacity).Lawful where
  Valid := State.Valid
  start_valid := State.start_valid
  start_delivered := rfl
  start_reading := rfl
  start_closeRequested := rfl
  internal_valid _ _ _ hv hstep := State.Valid.internal hv hstep
  internal_keeps _ _ _ hv hstep := internal_keeps capacity hv hstep
  internal_reading _ _ _ hv hstep := internal_reading capacity hv hstep
  internal_closeRequested _ _ _ hv hstep := internal_closeRequested capacity hv hstep
  beginRead_valid _ hv hreading := State.Valid.beginRead hv ((not_reading_iff capacity).mp hreading)
  beginRead_keeps s _ _ := beginRead_keeps capacity s
  beginRead_reading _ := rfl
  beginRead_closeRequested _ := rfl
  requestClose_valid _ hv := State.Valid.requestClose hv
  requestClose_keeps s _ := requestClose_keeps capacity s
  requestClose_reading s := requestClose_reading capacity s
  readResult_valid _ _ _ hv hstep := State.Valid.readResult hv hstep
  readResult_delivered _ _ _ hstep := by
    obtain ⟨_, rfl⟩ := readResult_eq hstep
    rfl
  readResult_closeResult _ _ _ hstep := by
    obtain ⟨_, rfl⟩ := readResult_eq hstep
    rfl
  readResult_exhausted _ _ _ _ hstep h := readResult_exhausted hstep h
  readResult_reading _ _ _ hstep := by
    obtain ⟨_, rfl⟩ := readResult_eq hstep
    rfl
  readResult_closeRequested _ _ _ hstep := by
    obtain ⟨_, rfl⟩ := readResult_eq hstep
    rfl
  drained _ hv hreading hclose hpending :=
    closed_drained hv ((not_reading_iff capacity).mp hreading)
      ((closeResult_iff capacity).mp hclose) hpending
  exhausted_delivered _ hv h := exhausted_delivered hv h
  delivered_prefix _ hv := delivered_prefix hv

theorem raisesExhausted : (source Event capacity).RaisesExhausted (lawful capacity) := by
  intro s failure s' hv hstep hrequested
  refine raised_exhausted hv hstep (by_contra fun hclose => ?_)
  rw [(closeRequested_iff capacity).mpr hclose] at hrequested
  exact Bool.noConfusion hrequested

end Lawful

end BasicSource
