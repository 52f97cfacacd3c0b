/-
# The Enhanced host

The adapter's reader normalizes events on the owner loop and puts them into a bounded
queue; while the queue is full the event waits in `_event_awaiting_admission`.  The host
submits one receive at a time to the loop, and its `close` waits for the receive under
way and keeps what `close_and_drain_events` returns in the drained deque.

A command that fails terminalizes the adapter and cancels the reader.  A cancelled reader
leaves the event that waits where it is: only `close_and_drain_events` takes it up.
-/
import DutchMate.EventSource

namespace EnhancedHost

variable {Event : Type}

/-- The reader task: in `reader.read`, suspended in `_events.put`, or ended. -/
inductive ReaderPoint
  | reading | putting | ended
  deriving DecidableEq, Repr

/-- Where `read_event` stands. -/
inductive NextPoint (Event : Type)
  | idle
  | checkingDrained
  | submitting
  /-- `receive_event` is on the loop and has not begun -/
  | receiving
  /-- in its `asyncio.wait` -/
  | waiting
  /-- it has a result, and has not returned -/
  | received (result : ReadResult Event)
  | ended (result : ReadResult Event)
  deriving DecidableEq

/-- The receive is in `_inflight`. -/
def NextPoint.inflight : NextPoint Event → Bool
  | receiving => true
  | waiting => true
  | received _ => true
  | _ => false

/-- Where the first call of `close` stands. -/
inductive ClosePoint (Event : Type)
  | idle
  | requested
  /-- `_closing` is set; the adapter is not yet terminal -/
  | terminating
  | cancelling
  | draining
  /-- `close_and_drain_events` has returned some events -/
  | keeping (events : List Event)
  | settling (succeeded : Bool)
  | stopping (succeeded : Bool)
  | done (succeeded : Bool)
  deriving DecidableEq

/-- `_closing` is set. -/
def ClosePoint.closing : ClosePoint Event → Bool
  | idle => false
  | requested => false
  | _ => true

/-- `close_and_drain_events` has returned. -/
def ClosePoint.drained : ClosePoint Event → Bool
  | keeping _ => true
  | settling succeeded => succeeded
  | stopping succeeded => succeeded
  | done succeeded => succeeded
  | _ => false

/-- `_closed` is set. -/
def ClosePoint.closed : ClosePoint Event → Bool
  | done _ => true
  | _ => false

/-- What `close_and_drain_events` has returned and the host has not kept. -/
def ClosePoint.events : ClosePoint Event → List Event
  | keeping events => events
  | _ => []

structure State (Event : Type) where
  events : List Event
  eventAwaitingAdmission : Option Event
  reader : ReaderPoint
  /-- `_terminate` has to cancel the reader -/
  cancelling : Bool
  terminalError : Option ReadFailure
  drainedEvents : List Event
  next : NextPoint Event
  close : ClosePoint Event
  /-- what the reader has normalized -/
  produced : List Event
  /-- what `read_event` has returned -/
  delivered : List Event
  deriving DecidableEq

/-- A step of the reader, of a command that fails, of a read under way, or of a close. -/
inductive Internal (Event : Type)
  | normalize (event : Event)
  | put
  | readerFails (failure : ReadFailure)
  | commandFails
  | cancelReader
  | next
  | receiveTimesOut
  | closeBegins
  | closeTerminates
  | closeResource (succeeds : Bool)
  | closeDrains
  | closeKeeps
  | closeAwaits
  | closeStops (succeeds : Bool)
  deriving DecidableEq

namespace State

def start : State Event where
  events := []
  eventAwaitingAdmission := none
  reader := .reading
  cancelling := false
  terminalError := none
  drainedEvents := []
  next := .idle
  close := .idle
  produced := []
  delivered := []

/-- `_set_terminal` keeps the first error. -/
def setTerminal (s : State Event) (failure : ReadFailure) : State Event :=
  { s with terminalError := s.terminalError.or (some failure) }

/-- `_read_loop` and `_dispatch_batch`, and the cancellation of their task. -/
def readerStep (capacity : ℕ) (s : State Event) : Internal Event → Option (State Event)
  | .normalize event =>
    match s.reader with
    | .reading =>
      if s.events.length < capacity then
        some { s with events := s.events ++ [event], produced := s.produced ++ [event] }
      else
        some { s with
          eventAwaitingAdmission := some event
          reader := .putting
          produced := s.produced ++ [event] }
    | _ => none
  | .put =>
    match s.reader, s.eventAwaitingAdmission with
    | .putting, some event =>
      if s.events.length < capacity then
        some { s with
          events := s.events ++ [event]
          eventAwaitingAdmission := none
          reader := .reading }
      else none
    | _, _ => none
  | .readerFails failure =>
    match s.reader with
    | .reading => some { s.setTerminal failure with reader := .ended }
    | _ => none
  -- a command that timed out, was not written or was cancelled
  | .commandFails => some { s.setTerminal .disconnected with cancelling := true }
  | .cancelReader => if s.cancelling then some { s with reader := .ended } else none
  | _ => none

/-- `read_event` of the host, and `receive_event` of the adapter. -/
def nextStep (s : State Event) : Option (State Event) :=
  match s.next with
  | .idle => none
  | .checkingDrained =>
    match s.drainedEvents with
    | event :: events => some { s with drainedEvents := events, next := .ended (.event event) }
    | [] =>
      if s.close.closed then some { s with next := .ended (.raised .disconnected) }
      else some { s with next := .submitting }
  | .submitting =>
    -- `_submit` raises RuntimeError
    if s.close.closing then some { s with next := .ended (.raised .failed) }
    else some { s with next := .receiving }
  | .receiving =>
    match s.events, s.terminalError with
    | event :: events, _ => some { s with events := events, next := .received (.event event) }
    | [], some failure => some { s with next := .received (.raised failure) }
    | [], none => some { s with next := .waiting }
  | .waiting =>
    match s.events, s.terminalError with
    | event :: events, _ => some { s with events := events, next := .received (.event event) }
    | [], some failure => some { s with next := .received (.raised failure) }
    | [], none => none
  | .received result => some { s with next := .ended result }
  | .ended _ => none

/-- `close` of the host, and `close_and_drain_events` of the adapter. -/
def closeStep (s : State Event) : Internal Event → Option (State Event)
  | .closeBegins =>
    match s.close with
    | .requested => some { s with close := .terminating }
    | _ => none
  | .closeTerminates =>
    match s.close with
    | .terminating =>
      some { s.setTerminal .disconnected with cancelling := true, close := .cancelling }
    | _ => none
  | .closeResource succeeds =>
    match s.close, s.reader with
    | .cancelling, .ended =>
      some { s with close := if succeeds then .draining else .settling false }
    | _, _ => none
  | .closeDrains =>
    match s.close with
    | .draining =>
      some { s with
        events := []
        eventAwaitingAdmission := none
        close := .keeping (s.events ++ s.eventAwaitingAdmission.toList) }
    | _ => none
  | .closeKeeps =>
    match s.close with
    | .keeping events =>
      some { s with drainedEvents := s.drainedEvents ++ events, close := .settling true }
    | _ => none
  | .closeAwaits =>
    match s.close with
    | .settling succeeded =>
      if s.next.inflight then none else some { s with close := .stopping succeeded }
    | _ => none
  | .closeStops succeeds =>
    match s.close with
    | .stopping succeeded => some { s with close := .done (succeeded && succeeds) }
    | _ => none
  | _ => none

def internal (capacity : ℕ) (s : State Event) (move : Internal Event) : Option (State Event) :=
  match move with
  | .normalize _ | .put | .readerFails _ | .commandFails | .cancelReader =>
    s.readerStep capacity move
  | .next => s.nextStep
  | .receiveTimesOut =>
    match s.next with
    | .waiting => some { s with next := .received .nothing }
    | _ => none
  | .closeBegins | .closeTerminates | .closeResource _ | .closeDrains | .closeKeeps | .closeAwaits
  | .closeStops _ => s.closeStep move

def beginRead (s : State Event) : State Event := { s with next := .checkingDrained }

/-- The first `close` takes the steps; the others wait for it. -/
def requestClose (s : State Event) : State Event :=
  match s.close with
  | .idle => { s with close := .requested }
  | _ => s

def readResult (s : State Event) : Option (ReadResult Event × State Event) :=
  match s.next with
  | .ended result =>
    some (result, { s with next := .idle, delivered := s.delivered ++ result.events })
  | _ => none

/-- `has_pending_events`. -/
def hasPendingEvents (s : State Event) : Bool := !s.drainedEvents.isEmpty

/-- The event a read has taken and not yet returned. -/
def taken (s : State Event) : List Event :=
  match s.next with
  | .received result => result.events
  | .ended result => result.events
  | _ => []

/-- What the source holds, the oldest event first. -/
def held (s : State Event) : List Event :=
  s.drainedEvents ++ s.close.events ++ s.events ++ s.eventAwaitingAdmission.toList

def exhausted (s : State Event) : Bool :=
  s.held.isEmpty && s.taken.isEmpty && decide (s.reader = .ended)

end State

/-- `EnhancedAsyncHost` with an adapter queue of the given capacity. -/
def source (Event : Type) (capacity : ℕ) : EventSource Event where
  State := State Event
  Internal := Internal Event
  start := .start
  internal := State.internal capacity
  beginRead := State.beginRead
  readResult := State.readResult
  requestClose := State.requestClose
  closeResult s := match s.close with
    | .done succeeded => some succeeded
    | _ => none
  pending := State.hasPendingEvents
  reading s := match s.next with
    | .idle => false
    | _ => true
  closeRequested s := match s.close with
    | .idle => false
    | _ => true
  produced := State.produced
  delivered := State.delivered
  exhausted := State.exhausted

/-! ## What holds of a host -/

namespace State

structure Valid (s : State Event) : Prop where
  order : s.produced = s.delivered ++ s.taken ++ s.held
  reading : s.reader = .reading → s.eventAwaitingAdmission = none
  stopped : s.close = .draining ∨ s.close.drained = true → s.reader = .ended
  drained : s.close.drained = true ∨ s.drainedEvents ≠ [] →
    s.reader = .ended ∧ s.events = [] ∧ s.eventAwaitingAdmission = none

theorem start_valid : (start : State Event).Valid where
  order := rfl
  reading _ := rfl
  stopped := by rintro (h | h) <;> exact absurd h nofun
  drained := by rintro (h | h) <;> exact absurd h (by simp [start, ClosePoint.drained])

variable {s s' : State Event} {capacity : ℕ}

/-- While the queue has an event, nothing has been drained. -/
theorem Valid.undrained (hv : s.Valid) {event : Event} {events : List Event}
    (hevents : s.events = event :: events) : s.drainedEvents = [] ∧ s.close.events = [] := by
  have hnot : ¬(s.close.drained = true ∨ s.drainedEvents ≠ []) := by
    intro h
    have hempty := (hv.drained h).2.1
    rw [hevents] at hempty
    exact absurd hempty nofun
  rw [not_or, not_not] at hnot
  refine ⟨hnot.2, ?_⟩
  cases hclose : s.close with
  | keeping _ =>
    rw [hclose] at hnot
    exact absurd rfl hnot.1
  | _ => rfl

/-- The reader has ended once something has been drained. -/
theorem Valid.undrained_reader (hv : s.Valid) (hreader : s.reader ≠ .ended) :
    s.drainedEvents = [] ∧ s.close.drained = false ∧ s.close.events = [] := by
  have hnot : ¬(s.close.drained = true ∨ s.drainedEvents ≠ []) :=
    fun h => hreader (hv.drained h).1
  rw [not_or, not_not, Bool.not_eq_true] at hnot
  refine ⟨hnot.2, hnot.1, ?_⟩
  cases hclose : s.close with
  | keeping _ =>
    rw [hclose] at hnot
    exact absurd hnot.1 nofun
  | _ => rfl

theorem Valid.setTerminal (hv : s.Valid) (failure : ReadFailure) : (s.setTerminal failure).Valid :=
  ⟨hv.order, hv.reading, hv.stopped, hv.drained⟩

/-- The reader has ended; the event that waits still waits. -/
theorem Valid.ended (hv : s.Valid) : Valid { s with reader := .ended } where
  order := hv.order
  reading := nofun
  stopped _ := rfl
  drained h := ⟨rfl, (hv.drained h).2⟩

theorem Valid.readerStep (hv : s.Valid) {move : Internal Event}
    (hstep : s.readerStep capacity move = some s') : s'.Valid := by
  cases move with
  | normalize event =>
    simp only [State.readerStep] at hstep
    split at hstep
    · rename_i hreader
      have hwaiting := hv.reading hreader
      obtain ⟨hdrained, hclose, hkept⟩ := hv.undrained_reader (by simp [hreader])
      have hnot : s.close ≠ .draining := fun h =>
        absurd (hreader.symm.trans (hv.stopped (.inl h))) nofun
      have horder := hv.order
      split at hstep <;> obtain rfl := Option.some.inj hstep
      · refine ⟨?_, hv.reading, hv.stopped, fun h => ?_⟩
        · simp only [held, hwaiting] at horder ⊢
          rw [horder]
          simp [taken]
        · rcases h with h | h
          · exact Bool.noConfusion (hclose.symm.trans h)
          · exact absurd hdrained h
      · refine ⟨?_, nofun, fun h => ?_, fun h => ?_⟩
        · simp only [held, hwaiting] at horder ⊢
          rw [horder]
          simp [taken]
        · rcases h with h | h
          · exact absurd h hnot
          · exact Bool.noConfusion (hclose.symm.trans h)
        · rcases h with h | h
          · exact Bool.noConfusion (hclose.symm.trans h)
          · exact absurd hdrained h
    · exact absurd hstep nofun
  | put =>
    simp only [State.readerStep] at hstep
    split at hstep
    · rename_i event hreader hwaiting
      obtain ⟨hdrained, hclose, hkept⟩ := hv.undrained_reader (by simp [hreader])
      split at hstep
      · obtain rfl := Option.some.inj hstep
        refine ⟨?_, fun _ => rfl, fun h => ?_, fun h => ?_⟩
        · have horder := hv.order
          simp only [held, hwaiting] at horder ⊢
          rw [horder]
          simp [taken]
        · exact absurd (hreader.symm.trans (hv.stopped h)) nofun
        · rcases h with h | h
          · exact Bool.noConfusion (hclose.symm.trans h)
          · exact absurd hdrained h
      · exact absurd hstep nofun
    · exact absurd hstep nofun
  | readerFails failure =>
    simp only [State.readerStep] at hstep
    split at hstep
    · obtain rfl := Option.some.inj hstep
      exact (hv.setTerminal failure).ended
    · exact absurd hstep nofun
  | commandFails =>
    obtain rfl := Option.some.inj hstep
    exact ⟨hv.order, hv.reading, hv.stopped, hv.drained⟩
  | cancelReader =>
    simp only [State.readerStep] at hstep
    split at hstep
    · obtain rfl := Option.some.inj hstep
      exact hv.ended
    · exact absurd hstep nofun
  | _ => simp [State.readerStep] at hstep

/-- The read goes on without taking an event. -/
theorem Valid.toPoint (hv : s.Valid) (point : NextPoint Event)
    (htaken : taken { s with next := point } = s.taken) : Valid { s with next := point } := by
  refine ⟨?_, hv.reading, hv.stopped, hv.drained⟩
  show s.produced = s.delivered ++ taken { s with next := point } ++ s.held
  rw [htaken]
  exact hv.order

/-- The read takes the first event of the queue. -/
theorem Valid.receive (hv : s.Valid) (htaken : s.taken = []) {event : Event}
    {events : List Event} (hevents : s.events = event :: events) :
    Valid { s with events := events, next := .received (.event event) } := by
  obtain ⟨hdrained, hkept⟩ := hv.undrained hevents
  refine ⟨?_, hv.reading, hv.stopped, fun h => ?_⟩
  · have horder := hv.order
    rw [htaken, held, hdrained, hkept, hevents] at horder
    simp only [held, taken, ReadResult.events, hdrained, hkept]
    rw [horder]
    simp
  · have hempty := (hv.drained h).2.1
    rw [hevents] at hempty
    exact absurd hempty nofun

theorem Valid.nextStep (hv : s.Valid) (hstep : s.nextStep = some s') : s'.Valid := by
  unfold State.nextStep at hstep
  cases hnext : s.next with
  | idle =>
    rw [hnext] at hstep
    exact absurd hstep nofun
  | ended result =>
    rw [hnext] at hstep
    exact absurd hstep nofun
  | checkingDrained =>
    rw [hnext] at hstep
    have htaken : s.taken = [] := by simp [taken, hnext]
    dsimp only at hstep
    split at hstep
    · rename_i event events hdrained
      obtain rfl := Option.some.inj hstep
      have hended := hv.drained (.inr (by simp [hdrained]))
      refine ⟨?_, hv.reading, hv.stopped, fun _ => hended⟩
      have horder := hv.order
      rw [htaken, held, hdrained] at horder
      simp only [held, taken, ReadResult.events]
      rw [horder]
      simp
    · split at hstep <;> obtain rfl := Option.some.inj hstep <;> exact hv.toPoint _ htaken.symm
  | submitting =>
    rw [hnext] at hstep
    have htaken : s.taken = [] := by simp [taken, hnext]
    dsimp only at hstep
    split at hstep <;> obtain rfl := Option.some.inj hstep <;> exact hv.toPoint _ htaken.symm
  | receiving =>
    rw [hnext] at hstep
    have htaken : s.taken = [] := by simp [taken, hnext]
    dsimp only at hstep
    split at hstep <;> obtain rfl := Option.some.inj hstep
    · exact hv.receive htaken ‹_›
    · exact hv.toPoint _ htaken.symm
    · exact hv.toPoint _ htaken.symm
  | waiting =>
    rw [hnext] at hstep
    have htaken : s.taken = [] := by simp [taken, hnext]
    dsimp only at hstep
    split at hstep
    · obtain rfl := Option.some.inj hstep
      exact hv.receive htaken ‹_›
    · obtain rfl := Option.some.inj hstep
      exact hv.toPoint _ htaken.symm
    · exact absurd hstep nofun
  | received result =>
    rw [hnext] at hstep
    obtain rfl := Option.some.inj hstep
    exact hv.toPoint _ (by simp [taken, hnext])

theorem Valid.closeStep (hv : s.Valid) {move : Internal Event}
    (hstep : s.closeStep move = some s') : s'.Valid := by
  have hplain : ∀ point : ClosePoint Event, s.close.events = point.events →
      (point = .draining ∨ point.drained = true → s.reader = .ended) →
      (point.drained = true → s.close.drained = true) → Valid { s with close := point } := by
    intro point hevents hstopped hdrained
    refine ⟨?_, hv.reading, hstopped, fun h => hv.drained (h.imp_left hdrained)⟩
    show s.produced = s.delivered ++ s.taken ++
      (s.drainedEvents ++ point.events ++ s.events ++ s.eventAwaitingAdmission.toList)
    rw [← hevents]
    exact hv.order
  cases move with
  | closeBegins =>
    simp only [State.closeStep] at hstep
    split at hstep
    · rename_i hclose
      obtain rfl := Option.some.inj hstep
      exact hplain _ (by rw [hclose]; rfl) (by rintro (h | h) <;> exact absurd h nofun) nofun
    · exact absurd hstep nofun
  | closeTerminates =>
    simp only [State.closeStep] at hstep
    split at hstep
    · rename_i hclose
      obtain rfl := Option.some.inj hstep
      have h := hplain .cancelling (by rw [hclose]; rfl)
        (by rintro (h | h) <;> exact absurd h nofun) nofun
      exact ⟨h.order, h.reading, h.stopped, h.drained⟩
    · exact absurd hstep nofun
  | closeResource succeeds =>
    simp only [State.closeStep] at hstep
    split at hstep
    · rename_i hclose hreader
      obtain rfl := Option.some.inj hstep
      apply hplain
      · rw [hclose]
        cases succeeds <;> rfl
      · exact fun _ => hreader
      · cases succeeds <;> exact nofun
    · exact absurd hstep nofun
  | closeDrains =>
    simp only [State.closeStep] at hstep
    split at hstep
    · rename_i hclose
      obtain rfl := Option.some.inj hstep
      have hended := hv.stopped (.inl hclose)
      refine ⟨?_, fun _ => rfl, fun _ => hended, fun _ => ⟨hended, rfl, rfl⟩⟩
      have horder := hv.order
      rw [held, hclose] at horder
      show s.produced = s.delivered ++ s.taken ++ (s.drainedEvents ++
        (s.events ++ s.eventAwaitingAdmission.toList) ++ [] ++ [])
      rw [horder]
      simp [ClosePoint.events]
    · exact absurd hstep nofun
  | closeKeeps =>
    simp only [State.closeStep] at hstep
    split at hstep
    · rename_i events hclose
      obtain rfl := Option.some.inj hstep
      have hended := hv.drained (.inl (by rw [hclose]; rfl))
      refine ⟨?_, hv.reading, fun _ => hended.1, fun _ => hended⟩
      have horder := hv.order
      rw [held, hclose] at horder
      show s.produced = s.delivered ++ s.taken ++
        (s.drainedEvents ++ events ++ [] ++ s.events ++ s.eventAwaitingAdmission.toList)
      rw [horder]
      simp [ClosePoint.events]
    · exact absurd hstep nofun
  | closeAwaits =>
    simp only [State.closeStep] at hstep
    split at hstep
    · rename_i succeeded hclose
      split at hstep
      · exact absurd hstep nofun
      · obtain rfl := Option.some.inj hstep
        apply hplain
        · rw [hclose]
          rfl
        · rintro (h | h)
          · exact absurd h nofun
          · exact hv.stopped (.inr (by rw [hclose]; exact h))
        · intro h
          rw [hclose]
          exact h
    · exact absurd hstep nofun
  | closeStops succeeds =>
    simp only [State.closeStep] at hstep
    split at hstep
    · rename_i succeeded hclose
      obtain rfl := Option.some.inj hstep
      have hdrained : (ClosePoint.done (succeeded && succeeds) : ClosePoint Event).drained = true →
          s.close.drained = true := by
        intro h
        rw [hclose]
        exact (Bool.and_eq_true_iff.mp h).1
      apply hplain
      · rw [hclose]
        rfl
      · rintro (h | h)
        · exact absurd h nofun
        · exact hv.stopped (.inr (hdrained h))
      · exact hdrained
    · exact absurd hstep nofun
  | _ => simp [State.closeStep] at hstep

theorem Valid.internal (hv : s.Valid) {move : Internal Event}
    (hstep : s.internal capacity move = some s') : s'.Valid := by
  unfold State.internal at hstep
  split at hstep
  all_goals first
    | exact hv.readerStep hstep
    | exact hv.nextStep hstep
    | exact hv.closeStep hstep
    | skip
  split at hstep
  · rename_i hnext
    obtain rfl := Option.some.inj hstep
    exact hv.toPoint _ (by simp [taken, hnext, ReadResult.events])
  · exact absurd hstep nofun

theorem Valid.beginRead (hv : s.Valid) (hidle : s.next = .idle) : s.beginRead.Valid :=
  hv.toPoint .checkingDrained (by simp [taken, hidle])

theorem Valid.requestClose (hv : s.Valid) : s.requestClose.Valid := by
  unfold State.requestClose
  split
  · rename_i hclose
    refine ⟨?_, hv.reading, by rintro (h | h) <;> exact absurd h nofun, fun h => ?_⟩
    · have horder := hv.order
      rw [held, hclose] at horder
      exact horder
    · rcases h with h | h
      · exact absurd h nofun
      · exact hv.drained (.inr h)
  · exact hv

theorem Valid.readResult (hv : s.Valid) {result : ReadResult Event}
    (hstep : s.readResult = some (result, s')) : s'.Valid := by
  unfold State.readResult at hstep
  split at hstep
  · rename_i r hnext
    obtain ⟨rfl, rfl⟩ := Prod.mk.inj (Option.some.inj hstep)
    refine ⟨?_, hv.reading, hv.stopped, hv.drained⟩
    have horder := hv.order
    rw [show s.taken = r.events by simp [taken, hnext]] at horder
    show s.produced = s.delivered ++ r.events ++ [] ++ s.held
    rw [horder]
    simp
  · exact absurd hstep nofun

/-! ## What the steps keep -/

theorem exhausted_iff :
    s.exhausted = true ↔ s.held = [] ∧ s.taken = [] ∧ s.reader = .ended := by
  simp [exhausted, and_assoc]

/-- A host that holds nothing. -/
theorem held_eq_nil :
    s.held = [] ↔ s.drainedEvents = [] ∧ s.close.events = [] ∧ s.events = []
      ∧ s.eventAwaitingAdmission = none := by
  simp [held]

/-- A step of the reading thread. -/
structure Reads (s s' : State Event) : Prop where
  delivered : s'.delivered = s.delivered
  close : s'.close = s.close
  exhausted : s.exhausted = true → s'.exhausted = true
  begun : s.next ≠ .idle
  reading : s'.next ≠ .idle

theorem Reads.toPoint {point : NextPoint Event} (hbegun : s.next ≠ .idle) (hidle : point ≠ .idle)
    (htaken : s.taken = [] → taken { s with next := point } = []) :
    s.Reads { s with next := point } where
  delivered := rfl
  close := rfl
  exhausted h := by
    obtain ⟨hheld, h, hended⟩ := exhausted_iff.mp h
    exact exhausted_iff.mpr ⟨hheld, htaken h, hended⟩
  begun := hbegun
  reading := hidle

theorem nextStep_reads (hstep : s.nextStep = some s') : s.Reads s' := by
  unfold State.nextStep at hstep
  cases hnext : s.next with
  | idle =>
    rw [hnext] at hstep
    exact absurd hstep nofun
  | ended result =>
    rw [hnext] at hstep
    exact absurd hstep nofun
  | checkingDrained =>
    rw [hnext] at hstep
    dsimp only at hstep
    split at hstep
    · rename_i event events hdrained
      obtain rfl := Option.some.inj hstep
      refine ⟨rfl, rfl, fun h => ?_, by simp [hnext], nofun⟩
      have hempty := (held_eq_nil.mp (exhausted_iff.mp h).1).1
      exact absurd (hdrained.symm.trans hempty) nofun
    · split at hstep <;> obtain rfl := Option.some.inj hstep
        <;> exact .toPoint (by simp [hnext]) nofun fun _ => rfl
  | submitting =>
    rw [hnext] at hstep
    dsimp only at hstep
    split at hstep <;> obtain rfl := Option.some.inj hstep
      <;> exact .toPoint (by simp [hnext]) nofun fun _ => rfl
  | receiving =>
    rw [hnext] at hstep
    dsimp only at hstep
    split at hstep <;> obtain rfl := Option.some.inj hstep
    · rename_i hevents
      refine ⟨rfl, rfl, fun h => ?_, by simp [hnext], nofun⟩
      have hempty := (held_eq_nil.mp (exhausted_iff.mp h).1).2.2.1
      exact absurd (hevents.symm.trans hempty) nofun
    · exact .toPoint (by simp [hnext]) nofun fun _ => rfl
    · exact .toPoint (by simp [hnext]) nofun fun _ => rfl
  | waiting =>
    rw [hnext] at hstep
    dsimp only at hstep
    split at hstep
    · rename_i hevents
      obtain rfl := Option.some.inj hstep
      refine ⟨rfl, rfl, fun h => ?_, by simp [hnext], nofun⟩
      have hempty := (held_eq_nil.mp (exhausted_iff.mp h).1).2.2.1
      exact absurd (hevents.symm.trans hempty) nofun
    · obtain rfl := Option.some.inj hstep
      exact .toPoint (by simp [hnext]) nofun fun _ => rfl
    · exact absurd hstep nofun
  | received result =>
    rw [hnext] at hstep
    obtain rfl := Option.some.inj hstep
    refine .toPoint (by simp [hnext]) nofun fun h => ?_
    rw [taken, hnext] at h
    exact h

/-- A step of the reader, of a command or of a close. -/
structure Works (s s' : State Event) : Prop where
  delivered : s'.delivered = s.delivered
  next : s'.next = s.next
  close : ∀ succeeded, s.close = .done succeeded → s'.close = .done succeeded
  requested : s'.close = .idle ↔ s.close = .idle
  exhausted : s.exhausted = true → s'.exhausted = true

theorem readerStep_works {move : Internal Event} (hstep : s.readerStep capacity move = some s') :
    s.Works s' := by
  have hreader : ∀ point : ReaderPoint, s.reader = point → point ≠ .ended →
      s.exhausted ≠ true := fun _ h hne hs => hne (h.symm.trans (exhausted_iff.mp hs).2.2)
  have hended : ∀ {failure : Option ReadFailure},
      s.Works { s with terminalError := failure, reader := .ended } := fun {failure} => by
    refine ⟨rfl, rfl, fun _ h => h, Iff.rfl, fun h => ?_⟩
    obtain ⟨hheld, htaken, _⟩ := exhausted_iff.mp h
    exact exhausted_iff.mpr ⟨hheld, htaken, rfl⟩
  cases move with
  | normalize event =>
    simp only [State.readerStep] at hstep
    split at hstep
    · rename_i hpoint
      split at hstep <;> obtain rfl := Option.some.inj hstep
        <;> exact ⟨rfl, rfl, fun _ h => h, Iff.rfl, fun h => absurd h (hreader _ hpoint nofun)⟩
    · exact absurd hstep nofun
  | put =>
    simp only [State.readerStep] at hstep
    split at hstep
    · rename_i hpoint hwaiting
      split at hstep
      · obtain rfl := Option.some.inj hstep
        exact ⟨rfl, rfl, fun _ h => h, Iff.rfl, fun h => absurd h (hreader _ hpoint nofun)⟩
      · exact absurd hstep nofun
    · exact absurd hstep nofun
  | readerFails failure =>
    simp only [State.readerStep] at hstep
    split at hstep
    · obtain rfl := Option.some.inj hstep
      exact hended
    · exact absurd hstep nofun
  | commandFails =>
    obtain rfl := Option.some.inj hstep
    exact ⟨rfl, rfl, fun _ h => h, Iff.rfl, fun h => h⟩
  | cancelReader =>
    simp only [State.readerStep] at hstep
    split at hstep
    · obtain rfl := Option.some.inj hstep
      exact hended
    · exact absurd hstep nofun
  | _ => simp [State.readerStep] at hstep

theorem closeStep_works {move : Internal Event} (hstep : s.closeStep move = some s') :
    s.Works s' := by
  have hplain : ∀ {point : ClosePoint Event} (failure : Option ReadFailure) (cancelling : Bool),
      (∀ succeeded, s.close ≠ .done succeeded) → s.close ≠ .idle → point ≠ .idle →
      point.events = s.close.events →
      s.Works { s with close := point, terminalError := failure, cancelling := cancelling } := by
    intro point failure cancelling hdone hidle hpoint hevents
    refine ⟨rfl, rfl, fun _ h => absurd h (hdone _),
      ⟨fun h => absurd h hpoint, fun h => absurd h hidle⟩, fun h => ?_⟩
    obtain ⟨hheld, htaken, hreader⟩ := exhausted_iff.mp h
    refine exhausted_iff.mpr ⟨?_, htaken, hreader⟩
    show s.drainedEvents ++ point.events ++ s.events ++ s.eventAwaitingAdmission.toList = []
    rw [hevents]
    exact hheld
  cases move with
  | closeBegins =>
    simp only [State.closeStep] at hstep
    split at hstep
    · rename_i hclose
      obtain rfl := Option.some.inj hstep
      exact hplain _ _ (by simp [hclose]) (by simp [hclose]) nofun (by rw [hclose]; rfl)
    · exact absurd hstep nofun
  | closeTerminates =>
    simp only [State.closeStep] at hstep
    split at hstep
    · rename_i hclose
      obtain rfl := Option.some.inj hstep
      exact hplain _ _ (by simp [hclose]) (by simp [hclose]) nofun (by rw [hclose]; rfl)
    · exact absurd hstep nofun
  | closeResource succeeds =>
    simp only [State.closeStep] at hstep
    split at hstep
    · rename_i hclose hreader
      obtain rfl := Option.some.inj hstep
      apply hplain
      · simp [hclose]
      · simp [hclose]
      · cases succeeds <;> exact nofun
      · rw [hclose]
        cases succeeds <;> rfl
    · exact absurd hstep nofun
  | closeDrains =>
    simp only [State.closeStep] at hstep
    split at hstep
    · rename_i hclose
      obtain rfl := Option.some.inj hstep
      refine ⟨rfl, rfl, fun _ h => absurd (hclose.symm.trans h) nofun,
        ⟨nofun, fun h => absurd (hclose.symm.trans h) nofun⟩, fun h => ?_⟩
      obtain ⟨hheld, htaken, hreader⟩ := exhausted_iff.mp h
      obtain ⟨hdrained, _, hevents, hwaiting⟩ := held_eq_nil.mp hheld
      exact exhausted_iff.mpr
        ⟨held_eq_nil.mpr ⟨hdrained, by simp [ClosePoint.events, hevents, hwaiting], rfl, rfl⟩,
          htaken, hreader⟩
    · exact absurd hstep nofun
  | closeKeeps =>
    simp only [State.closeStep] at hstep
    split at hstep
    · rename_i events hclose
      obtain rfl := Option.some.inj hstep
      refine ⟨rfl, rfl, fun _ h => absurd (hclose.symm.trans h) nofun,
        ⟨nofun, fun h => absurd (hclose.symm.trans h) nofun⟩, fun h => ?_⟩
      obtain ⟨hheld, htaken, hreader⟩ := exhausted_iff.mp h
      obtain ⟨hdrained, hkept, hevents, hwaiting⟩ := held_eq_nil.mp hheld
      rw [hclose] at hkept
      have hkept : events = [] := hkept
      exact exhausted_iff.mpr
        ⟨held_eq_nil.mpr ⟨by simp [hdrained, hkept], rfl, hevents, hwaiting⟩, htaken, hreader⟩
    · exact absurd hstep nofun
  | closeAwaits =>
    simp only [State.closeStep] at hstep
    split at hstep
    · rename_i hclose
      split at hstep
      · exact absurd hstep nofun
      · obtain rfl := Option.some.inj hstep
        exact hplain _ _ (by simp [hclose]) (by simp [hclose]) nofun (by rw [hclose]; rfl)
    · exact absurd hstep nofun
  | closeStops succeeds =>
    simp only [State.closeStep] at hstep
    split at hstep
    · rename_i hclose
      obtain rfl := Option.some.inj hstep
      exact hplain _ _ (by simp [hclose]) (by simp [hclose]) nofun (by rw [hclose]; rfl)
    · exact absurd hstep nofun
  | _ => simp [State.closeStep] at hstep

theorem internal_cases {move : Internal Event} (hstep : s.internal capacity move = some s') :
    s.Reads s' ∨ s.Works s' := by
  unfold State.internal at hstep
  split at hstep
  all_goals first
    | exact .inr (readerStep_works hstep)
    | exact .inl (nextStep_reads hstep)
    | exact .inr (closeStep_works hstep)
    | skip
  split at hstep
  · rename_i hnext
    obtain rfl := Option.some.inj hstep
    exact .inl (.toPoint (by simp [hnext]) nofun fun _ => rfl)
  · exact absurd hstep nofun

end State

section Lawful

variable (capacity : ℕ)

theorem closeResult_iff {s : State Event} {succeeded : Bool} :
    (source Event capacity).closeResult s = some succeeded ↔ s.close = .done succeeded := by
  show (match s.close with
    | .done succeeded => some succeeded
    | _ => none) = _ ↔ _
  cases s.close <;> simp

theorem reading_iff {s : State Event} :
    (source Event capacity).reading s = true ↔ s.next ≠ .idle := by
  show (match s.next with
    | .idle => false
    | _ => true) = true ↔ _
  cases s.next <;> simp

theorem not_reading_iff {s : State Event} :
    (source Event capacity).reading s = false ↔ s.next = .idle := by
  rw [← Bool.not_eq_true, reading_iff, not_not]

theorem closeRequested_iff {s : State Event} :
    (source Event capacity).closeRequested s = true ↔ s.close ≠ .idle := by
  show (match s.close with
    | .idle => false
    | _ => true) = true ↔ _
  cases s.close <;> simp

theorem internal_keeps {s s' : State Event} {move : Internal Event}
    (hstep : s.internal capacity move = some s') : (source Event capacity).Keeps s s' := by
  rcases State.internal_cases hstep with h | h
  · refine ⟨h.delivered, fun result hresult => ?_, h.exhausted⟩
    rw [closeResult_iff] at hresult ⊢
    exact h.close.trans hresult
  · refine ⟨h.delivered, fun result hresult => ?_, h.exhausted⟩
    rw [closeResult_iff] at hresult ⊢
    exact h.close result hresult

theorem internal_reading {s s' : State Event} {move : Internal Event}
    (hstep : s.internal capacity move = some s') :
    (source Event capacity).reading s' = (source Event capacity).reading s := by
  rw [Bool.eq_iff_iff, reading_iff, reading_iff]
  rcases State.internal_cases hstep with h | h
  · exact ⟨fun _ => h.begun, fun _ => h.reading⟩
  · rw [h.next]

theorem internal_closeRequested {s s' : State Event} {move : Internal Event}
    (hstep : s.internal capacity move = some s') :
    (source Event capacity).closeRequested s' = (source Event capacity).closeRequested s := by
  rw [Bool.eq_iff_iff, closeRequested_iff, closeRequested_iff]
  rcases State.internal_cases hstep with h | h
  · rw [h.close]
  · rw [Ne, h.requested]

theorem beginRead_keeps (s : State Event) : (source Event capacity).Keeps s s.beginRead := by
  refine ⟨rfl, fun _ h => h, fun h => ?_⟩
  obtain ⟨hheld, _, hended⟩ := State.exhausted_iff.mp h
  exact State.exhausted_iff.mpr ⟨hheld, rfl, hended⟩

theorem requestClose_keeps (s : State Event) :
    (source Event capacity).Keeps s s.requestClose := by
  unfold State.requestClose
  split
  · rename_i hclose
    refine ⟨rfl, fun result h => ?_, fun h => ?_⟩
    · rw [closeResult_iff, hclose] at h
      exact absurd h nofun
    · obtain ⟨hheld, htaken, hended⟩ := State.exhausted_iff.mp h
      obtain ⟨hdrained, _, hevents, hwaiting⟩ := State.held_eq_nil.mp hheld
      exact State.exhausted_iff.mpr
        ⟨State.held_eq_nil.mpr ⟨hdrained, rfl, hevents, hwaiting⟩, htaken, hended⟩
  · exact ⟨rfl, fun _ h => h, fun h => h⟩

theorem requestClose_reading (s : State Event) :
    (source Event capacity).reading s.requestClose = (source Event capacity).reading s := by
  unfold State.requestClose
  split <;> rfl

/-- A read that has come to its end has taken what it returns. -/
theorem readResult_eq {s s' : State Event} {result : ReadResult Event}
    (hstep : s.readResult = some (result, s')) :
    s.next = .ended result ∧
      s' = { s with next := .idle, delivered := s.delivered ++ result.events } := by
  unfold State.readResult at hstep
  split at hstep
  · obtain ⟨rfl, rfl⟩ := Prod.mk.inj (Option.some.inj hstep)
    exact ⟨‹_›, rfl⟩
  · exact absurd hstep nofun

theorem readResult_exhausted {s s' : State Event} {result : ReadResult Event}
    (hstep : s.readResult = some (result, s')) (h : s.exhausted = true) :
    s'.exhausted = true ∧ result.events = [] := by
  obtain ⟨hnext, rfl⟩ := readResult_eq hstep
  obtain ⟨hheld, htaken, hended⟩ := State.exhausted_iff.mp h
  refine ⟨State.exhausted_iff.mpr ⟨hheld, rfl, hended⟩, ?_⟩
  rw [State.taken, hnext] at htaken
  exact htaken

/-- When `close` has returned, what the reader has normalized is in the drained deque. -/
theorem closed_drained {s : State Event} (hv : s.Valid) (hnext : s.next = .idle)
    (hclose : s.close = .done true) (hpending : s.hasPendingEvents = false) :
    s.exhausted = true := by
  obtain ⟨hreader, hevents, hwaiting⟩ := hv.drained (.inl (by rw [hclose]; rfl))
  have hdrained : s.drainedEvents = [] := by
    rw [State.hasPendingEvents] at hpending
    simpa using hpending
  refine State.exhausted_iff.mpr ⟨?_, ?_, hreader⟩
  · exact State.held_eq_nil.mpr ⟨hdrained, by rw [hclose]; rfl, hevents, hwaiting⟩
  · rw [State.taken, hnext]

theorem exhausted_delivered {s : State Event} (hv : s.Valid) (h : s.exhausted = true) :
    s.delivered = s.produced := by
  obtain ⟨hheld, htaken, _⟩ := State.exhausted_iff.mp h
  rw [hv.order, hheld, htaken]
  simp

theorem delivered_prefix {s : State Event} (hv : s.Valid) : s.delivered <+: s.produced := by
  rw [hv.order, List.append_assoc]
  exact List.prefix_append _ _

def lawful : (source Event capacity).Lawful where
  Valid := State.Valid
  start_valid := State.start_valid
  start_delivered := rfl
  start_reading := rfl
  start_closeRequested := rfl
  internal_valid _ _ _ hv hstep := State.Valid.internal hv hstep
  internal_keeps _ _ _ _ hstep := internal_keeps capacity hstep
  internal_reading _ _ _ _ hstep := internal_reading capacity hstep
  internal_closeRequested _ _ _ _ hstep := internal_closeRequested capacity hstep
  beginRead_valid _ hv hreading := State.Valid.beginRead hv ((not_reading_iff capacity).mp hreading)
  beginRead_keeps s _ _ := beginRead_keeps capacity s
  beginRead_reading _ := rfl
  beginRead_closeRequested _ := rfl
  requestClose_valid _ hv := State.Valid.requestClose hv
  requestClose_keeps s _ := requestClose_keeps capacity s
  requestClose_reading s := requestClose_reading capacity s
  readResult_valid _ _ _ hv hstep := State.Valid.readResult hv hstep
  readResult_delivered _ _ _ hstep := by
    obtain ⟨_, rfl⟩ := readResult_eq hstep
    rfl
  readResult_closeResult _ _ _ hstep := by
    obtain ⟨_, rfl⟩ := readResult_eq hstep
    rfl
  readResult_exhausted _ _ _ _ hstep h := readResult_exhausted hstep h
  readResult_reading _ _ _ hstep := by
    obtain ⟨_, rfl⟩ := readResult_eq hstep
    rfl
  readResult_closeRequested _ _ _ hstep := by
    obtain ⟨_, rfl⟩ := readResult_eq hstep
    rfl
  drained _ hv hreading hclose hpending :=
    closed_drained hv ((not_reading_iff capacity).mp hreading)
      ((closeResult_iff capacity).mp hclose) hpending
  exhausted_delivered _ hv h := exhausted_delivered hv h
  delivered_prefix _ hv := delivered_prefix hv

end Lawful

end EnhancedHost
