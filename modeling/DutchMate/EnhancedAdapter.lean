/-
# Answers and events of the Enhanced adapter

`AsyncEnhancedSerialAdapter` after its hello, on one event loop: a step is what runs between
two suspensions of a task.  Requests take the command lock in turn, hand their frame to the
writer and await the pending response; the reader routes answers to it and puts events into
the bounded queue; `receive_event` has a task of its own take an event from the queue.  The
device answers every command it receives once and in order.

The protocol has no request ids: the numbers of answers below are the device's own knowledge
of which command it answers.  An answer reaches its own request because at most one command
is unanswered while the connection is open (`Correlated`).  Events are conserved except at one
step: a `receive_event` cancelled between its task's taking of an event and its own resumption.
-/
import DutchMate.EnhancedHost

namespace EnhancedAdapter

open EnhancedHost (ReaderPoint)

variable {Event : Type}

/-- A message on its way to the host; an answer with the request it answers. -/
inductive Message (Event : Type)
  | event (event : Event)
  | answer (request : ℕ)
  deriving DecidableEq, Repr

def Message.answer? : Message Event → Option ℕ
  | event _ => none
  | answer request => some request

/-- Where the request that holds the command lock stands. -/
inductive RequestPoint
  | writing
  | awaiting
  /-- it has given up and is in `_terminate` -/
  | terminating
  deriving DecidableEq, Repr

/-- `_pending_response`. -/
inductive ResponseFuture
  | pending
  | answered (request : ℕ)
  | failed
  deriving DecidableEq, Repr

/-- Where `receive_event` stands. -/
inductive ReceivePoint (Event : Type)
  | idle
  /-- in `asyncio.wait`, its task in `_events.get` -/
  | waiting
  /-- in `asyncio.wait`, its task done with an event -/
  | handed (event : Event)
  deriving DecidableEq, Repr

/-- What the call's task took and the call has not returned. -/
def ReceivePoint.hand : ReceivePoint Event → List Event
  | handed event => [event]
  | _ => []

structure State (Event : Type) where
  terminal : Bool
  waiting : List ℕ
  /-- the request that holds the command lock -/
  current : Option (ℕ × RequestPoint)
  response : Option ResponseFuture
  /-- frames the writer may still put out, and frames the device has not read -/
  unsent : List ℕ
  outbound : List ℕ
  wire : List (Message Event)
  events : List Event
  eventAwaitingAdmission : Option Event
  reader : ReaderPoint
  receive : ReceivePoint Event
  hasDrained : Bool
  /-- what requests returned, and which gave up -/
  returned : List (ℕ × ℕ)
  abandoned : List ℕ
  /-- events normalized, delivered, drained and taken by a call that was cancelled -/
  produced : List Event
  delivered : List Event
  drained : List Event
  lost : List Event

inductive RequestStep
  | called (request : ℕ)
  | lockCancelled (request : ℕ)
  | lockAcquired (request : ℕ)
  | writeSucceeds
  | writeFails
  | resumes
  | timesOut
  | cancelled
  | terminateEnds
  deriving DecidableEq, Repr

/-- Frames and messages on their way; a frame may leave after its request is gone. -/
inductive TransportStep (Event : Type)
  | frameLeaves (request : ℕ)
  | deviceAnswers
  | deviceSends (event : Event)
  deriving DecidableEq, Repr

inductive ReaderStep
  | reads
  | puts
  /-- end of file, a read error, a bad frame or an event that cannot be normalized -/
  | fails
  | cancelled
  deriving DecidableEq, Repr

inductive ReceiveStep
  | called
  | getTakes
  | resumes
  | timesOut
  | cancelled
  deriving DecidableEq, Repr

inductive Step (Event : Type)
  | request (step : RequestStep)
  | transport (step : TransportStep Event)
  | reader (step : ReaderStep)
  | receive (step : ReceiveStep)
  | close
  | drains
  deriving DecidableEq, Repr

namespace State

def start : State Event where
  terminal := false
  waiting := []
  current := none
  response := none
  unsent := []
  outbound := []
  wire := []
  events := []
  eventAwaitingAdmission := none
  reader := .reading
  receive := .idle
  hasDrained := false
  returned := []
  abandoned := []
  produced := []
  delivered := []
  drained := []
  lost := []

variable (s : State Event)

/-- `_set_terminal`: the first error fails the pending response. -/
def setTerminal : State Event :=
  if s.terminal then s
  else
    { s with
      terminal := true
      response := match s.response with
        | some .pending => some .failed
        | response => response }

/-- The request gives up: the connection ends with it. -/
def giveUp (request : ℕ) : State Event :=
  { s.setTerminal with
    current := some (request, .terminating)
    abandoned := request :: s.abandoned }

/-- The request leaves with an error. -/
def raises (request : ℕ) : State Event :=
  { s with current := none, response := none, abandoned := request :: s.abandoned }

/-- `request`; a step that has no place does nothing. -/
def requestStep : RequestStep → State Event
  | .called request => { s with waiting := s.waiting ++ [request] }
  | .lockCancelled request => { s with waiting := s.waiting.erase request }
  | .lockAcquired request =>
    if request ∉ s.waiting ∨ s.current ≠ none then s
    else if s.terminal then { s with waiting := s.waiting.erase request }
    else
      { s with
        waiting := s.waiting.erase request
        current := some (request, .writing)
        response := some .pending
        unsent := request :: s.unsent }
  | .writeSucceeds =>
    match s.current with
    | some (request, .writing) =>
      if request ∈ s.unsent then s else { s with current := some (request, .awaiting) }
    | _ => s
  | .writeFails =>
    match s.current with
    | some (request, .writing) => s.giveUp request
    | _ => s
  | .resumes =>
    match s.current, s.response with
    | some (request, .awaiting), some (.answered answer) =>
      { s with current := none, response := none, returned := (request, answer) :: s.returned }
    | some (request, .awaiting), some .failed => s.raises request
    | _, _ => s
  | .timesOut =>
    match s.current with
    | some (request, .awaiting) => s.giveUp request
    | _ => s
  | .cancelled =>
    match s.current with
    | none => s
    | some (request, .terminating) => s.raises request
    | some (request, _) => if s.terminal then s.raises request else s.giveUp request
  | .terminateEnds =>
    match s.current, s.reader with
    | some (request, .terminating), .ended => s.raises request
    | _, _ => s

def transportStep : TransportStep Event → State Event
  | .frameLeaves request =>
    if request ∈ s.unsent then
      { s with unsent := s.unsent.erase request, outbound := s.outbound ++ [request] }
    else s
  | .deviceAnswers =>
    match s.outbound with
    | [] => s
    | request :: outbound => { s with outbound := outbound, wire := s.wire ++ [.answer request] }
  | .deviceSends event => { s with wire := s.wire ++ [.event event] }

/-- `_read_loop` and `_dispatch_batch`, and the cancellation of their task. -/
def readerStep (capacity : ℕ) : ReaderStep → State Event
  | .reads =>
    match s.reader, s.wire with
    | .reading, .event event :: wire =>
      { s with
        wire := wire
        eventAwaitingAdmission := some event
        reader := .putting
        produced := s.produced ++ [event] }
    | .reading, .answer answer :: wire =>
      match s.response with
      | some .pending => { s with wire := wire, response := some (.answered answer) }
      | _ => { s with wire := wire, reader := .ended }.setTerminal
    | _, _ => s
  | .puts =>
    match s.reader, s.eventAwaitingAdmission with
    | .putting, some event =>
      if s.events.length < capacity then
        { s with
          events := s.events ++ [event]
          eventAwaitingAdmission := none
          reader := .reading }
      else s
    | _, _ => s
  | .fails => if s.reader = .reading then { s with reader := .ended }.setTerminal else s
  | .cancelled => { s with reader := .ended }

/-- The call returns an event. -/
def deliver (event : Event) : State Event :=
  { s with receive := .idle, delivered := s.delivered ++ [event] }

/-- `receive_event`, by one consumer at a time. -/
def receiveStep : ReceiveStep → State Event
  | .called =>
    match s.receive, s.events with
    | .idle, event :: events => { s with events := events }.deliver event
    | .idle, [] => if s.terminal then s else { s with receive := .waiting }
    | _, _ => s
  | .getTakes =>
    match s.receive, s.events with
    | .waiting, event :: events => { s with events := events, receive := .handed event }
    | _, _ => s
  | .resumes =>
    match s.receive with
    | .idle => s
    | .handed event => s.deliver event
    | .waiting =>
      if !s.terminal then s
      else
        match s.events with
        | event :: events => { s with events := events }.deliver event
        | [] => { s with receive := .idle }
  | .timesOut =>
    match s.receive with
    | .idle => s
    | .handed event => s.deliver event
    | .waiting => { s with receive := .idle }
  | .cancelled =>
    match s.receive with
    | .idle => s
    | .handed event => { s with receive := .idle, lost := s.lost ++ [event] }
    | .waiting => { s with receive := .idle }

/-- `close_and_drain_events`, once the reader has ended. -/
def drain : State Event :=
  if s.terminal ∧ s.reader = .ended then
    { s with
      events := []
      eventAwaitingAdmission := none
      hasDrained := true
      drained := s.drained ++ s.events ++ s.eventAwaitingAdmission.toList }
  else s

def step (capacity : ℕ) : Step Event → State Event
  | .request step => s.requestStep step
  | .transport step => s.transportStep step
  | .reader step => s.readerStep capacity step
  | .receive step => s.receiveStep step
  | .close => s.setTerminal
  | .drains => s.drain

def run (capacity : ℕ) (steps : List (Step Event)) : State Event :=
  steps.foldl (fun s => s.step capacity) s

end State

/-! ## Soundness -/

/-- The events normalized are those delivered, in the hand of the consumer, drained and still
to be delivered, in this order. -/
def State.Conserved (s : State Event) : Prop :=
  s.delivered ++ s.receive.hand ++ s.drained ++ s.events ++ s.eventAwaitingAdmission.toList
    = s.produced

instance [DecidableEq Event] (s : State Event) : Decidable s.Conserved :=
  inferInstanceAs (Decidable (_ = _))

/-- What the adapter owes its callers over a run from its start. -/
structure Sound (capacity : ℕ) (steps : List (Step Event)) : Prop where
  /-- A response is the answer to the request that returned it. -/
  correlated : ∀ before, before <+: steps → ∀ entry ∈ (State.start.run capacity before).returned,
    entry.2 = entry.1
  /-- Once a request was abandoned no request returns. -/
  silenced : ∀ before after, before <+: after → after <+: steps →
    (State.start.run capacity before).abandoned ≠ [] →
      (State.start.run capacity after).returned = (State.start.run capacity before).returned
  conserved : ∀ before, before <+: steps → (State.start.run capacity before).Conserved

/-- No `receive_event` is cancelled with an event in its task's hand. -/
def KeepsHand (capacity : ℕ) : State Event → List (Step Event) → Prop
  | _, [] => True
  | s, step :: steps =>
    (step = .receive .cancelled → s.receive.hand = []) ∧
      KeepsHand capacity (s.step capacity step) steps

/-! ## Correlation -/

namespace State

variable {s s' : State Event}

/-- Commands on their way to the device and answers on their way back. -/
def outstanding (s : State Event) : List ℕ :=
  s.unsent ++ s.outbound ++ s.wire.filterMap Message.answer?

/-- While the connection is open only the request that awaits its response is unanswered. -/
structure Correlated (s : State Event) : Prop where
  own : ∀ answer, s.response = some (.answered answer) → ∃ point, s.current = some (answer, point)
  opened : s.response = some .pending → s.terminal = false
  closed : s.response = some .failed ∨ (∃ request, s.current = some (request, .terminating)) →
    s.terminal = true
  single : s.terminal = false → s.outstanding.length ≤ 1
  asked : s.terminal = false → ∀ request ∈ s.outstanding,
    s.response = some .pending ∧ ∃ point, s.current = some (request, point)
  returned : ∀ entry ∈ s.returned, entry.2 = entry.1
  silent : s.abandoned ≠ [] → s.terminal = true ∧
    ∀ request point, s.current = some (request, point) → point = .terminating

theorem correlated_start : Correlated (start : State Event) where
  own := nofun
  opened := nofun
  closed := by
    rintro (h | ⟨request, h⟩) <;> cases h
  single _ := Nat.zero_le _
  asked _ := nofun
  returned := nofun
  silent h := absurd rfl h

/-- A step that leaves the requests alone and at most moves what is outstanding. -/
theorem Correlated.of_perm (h : Correlated s) (hterminal : s'.terminal = s.terminal)
    (hcurrent : s'.current = s.current) (hresponse : s'.response = s.response)
    (houtstanding : s'.outstanding.Perm s.outstanding) (hreturned : s'.returned = s.returned)
    (habandoned : s'.abandoned = s.abandoned) : Correlated s' where
  own := by
    rw [hresponse, hcurrent]
    exact h.own
  opened := by
    rw [hresponse, hterminal]
    exact h.opened
  closed := by
    rw [hresponse, hcurrent, hterminal]
    exact h.closed
  single hopen := by
    rw [houtstanding.length_eq]
    exact h.single (hterminal.symm.trans hopen)
  asked hopen request hrequest := by
    rw [hresponse, hcurrent]
    exact h.asked (hterminal.symm.trans hopen) request (houtstanding.mem_iff.mp hrequest)
  returned := by
    rw [hreturned]
    exact h.returned
  silent := by
    rw [habandoned, hterminal, hcurrent]
    exact h.silent

/-- The fields of a state that `_set_terminal` may change. -/
theorem setTerminal_fields (s : State Event) :
    s.setTerminal.terminal = true ∧ s.setTerminal.current = s.current ∧
      s.setTerminal.returned = s.returned ∧ s.setTerminal.abandoned = s.abandoned ∧
      ∀ answer, s.setTerminal.response = some (.answered answer) →
        s.response = some (.answered answer) := by
  unfold setTerminal
  split
  · rename_i hterminal
    exact ⟨hterminal, rfl, rfl, rfl, fun _ h => h⟩
  · refine ⟨rfl, rfl, rfl, rfl, fun answer hanswer => ?_⟩
    dsimp only at hanswer
    split at hanswer
    · cases hanswer
    · exact hanswer

theorem setTerminal_not_pending (h : Correlated s) : s.setTerminal.response ≠ some .pending := by
  unfold setTerminal
  split
  · rename_i hterminal
    intro hpending
    exact absurd ((h.opened hpending).symm.trans hterminal) nofun
  · dsimp only
    split
    · exact nofun
    · rename_i hother
      exact hother

/-- Once the connection has ended, nothing is expected of what is outstanding. -/
theorem Correlated.of_terminal (hterminal : s'.terminal = true)
    (hresponse : s'.response ≠ some .pending)
    (hown : ∀ answer, s'.response = some (.answered answer) →
      ∃ point, s'.current = some (answer, point))
    (hreturned : ∀ entry ∈ s'.returned, entry.2 = entry.1)
    (hsilent : s'.abandoned ≠ [] →
      ∀ request point, s'.current = some (request, point) → point = .terminating) :
    Correlated s' where
  own := hown
  opened h := absurd h hresponse
  closed _ := hterminal
  single h := absurd (hterminal.symm.trans h) nofun
  asked h := absurd (hterminal.symm.trans h) nofun
  returned := hreturned
  silent h := ⟨hterminal, hsilent h⟩

theorem Correlated.setTerminal (h : Correlated s) : Correlated s.setTerminal := by
  obtain ⟨hterminal, hcurrent, hreturned, habandoned, hanswered⟩ := s.setTerminal_fields
  refine .of_terminal hterminal (setTerminal_not_pending h) (fun answer hanswer => ?_) ?_ ?_
  · rw [hcurrent]
    exact h.own answer (hanswered answer hanswer)
  · rw [hreturned]
    exact h.returned
  · rw [habandoned, hcurrent]
    exact fun hsome => (h.silent hsome).2

theorem Correlated.giveUp (h : Correlated s) {request : ℕ} {point : RequestPoint}
    (hcurrent : s.current = some (request, point)) : Correlated (s.giveUp request) := by
  obtain ⟨hterminal, _, hreturned, _, hanswered⟩ := s.setTerminal_fields
  refine .of_terminal hterminal (setTerminal_not_pending h) (fun answer hanswer => ?_) ?_ ?_
  · obtain ⟨point', hpoint⟩ := h.own answer (hanswered answer hanswer)
    cases hcurrent.symm.trans hpoint
    exact ⟨.terminating, rfl⟩
  · show ∀ entry ∈ s.setTerminal.returned, _
    rw [hreturned]
    exact h.returned
  · rintro _ request' point' hpoint
    cases hpoint
    rfl

theorem Correlated.raises (h : Correlated s) (hterminal : s.terminal = true) (request : ℕ) :
    Correlated (s.raises request) :=
  .of_terminal hterminal nofun nofun h.returned fun _ => nofun

theorem Correlated.requestStep (h : Correlated s) (step : RequestStep) :
    Correlated (s.requestStep step) := by
  cases step with
  | called request => exact h.of_perm rfl rfl rfl (List.Perm.refl _) rfl rfl
  | lockCancelled request => exact h.of_perm rfl rfl rfl (List.Perm.refl _) rfl rfl
  | lockAcquired request =>
    unfold State.requestStep
    dsimp only
    split
    · exact h
    rename_i hfree
    split
    · exact h.of_perm rfl rfl rfl (List.Perm.refl _) rfl rfl
    rename_i hopen
    simp only [not_or, not_not] at hfree
    rw [Bool.not_eq_true] at hopen
    -- With the lock free and the connection open, nothing is outstanding.
    have hnone : s.outstanding = [] := by
      apply List.eq_nil_iff_forall_not_mem.mpr
      intro other hother
      obtain ⟨_, point, hpoint⟩ := h.asked hopen other hother
      cases hfree.2.symm.trans hpoint
    have hnew : request :: s.outstanding = [request] := by rw [hnone]
    refine ⟨nofun, fun _ => hopen, ?_, fun _ => Nat.le_of_eq (congrArg List.length hnew),
      fun _ other hother => ?_, h.returned, fun habandoned => ?_⟩
    · rintro (h | ⟨_, h⟩) <;> cases h
    · have hother : other ∈ request :: s.outstanding := hother
      rw [hnew, List.mem_singleton] at hother
      exact ⟨rfl, .writing, by rw [hother]⟩
    · exact absurd ((h.silent habandoned).1.symm.trans hopen) nofun
  | writeSucceeds =>
    unfold State.requestStep
    dsimp only
    split
    · rename_i request hcurrent
      split
      · exact h
      refine ⟨fun answer hanswer => ?_, h.opened, ?_, h.single, fun hopen other hother => ?_,
        h.returned, fun habandoned => ?_⟩
      · obtain ⟨point, hpoint⟩ := h.own answer hanswer
        cases hcurrent.symm.trans hpoint
        exact ⟨.awaiting, rfl⟩
      · rintro (hfailed | ⟨_, hpoint⟩)
        · exact h.closed (.inl hfailed)
        · cases hpoint
      · obtain ⟨hpending, point, hpoint⟩ := h.asked hopen other hother
        cases hcurrent.symm.trans hpoint
        exact ⟨hpending, .awaiting, rfl⟩
      · exact absurd ((h.silent habandoned).2 request .writing hcurrent) nofun
    · exact h
  | writeFails =>
    unfold State.requestStep
    dsimp only
    split
    · rename_i request hcurrent
      exact h.giveUp hcurrent
    · exact h
  | resumes =>
    unfold State.requestStep
    dsimp only
    split
    · rename_i request answer hcurrent hresponse
      obtain ⟨point, hpoint⟩ := h.own answer hresponse
      cases hcurrent.symm.trans hpoint
      refine ⟨nofun, nofun, ?_, h.single, fun hopen other hother => ?_, fun entry hentry => ?_,
        fun habandoned => ?_⟩
      · rintro (h | ⟨_, h⟩) <;> cases h
      · exact absurd (hresponse.symm.trans (h.asked hopen other hother).1) nofun
      · rcases List.mem_cons.mp hentry with rfl | hentry
        · rfl
        · exact h.returned entry hentry
      · exact ⟨(h.silent habandoned).1, nofun⟩
    · rename_i request _ hresponse
      exact h.raises (h.closed (.inl hresponse)) request
    · exact h
  | timesOut =>
    unfold State.requestStep
    dsimp only
    split
    · rename_i request hcurrent
      exact h.giveUp hcurrent
    · exact h
  | cancelled =>
    unfold State.requestStep
    dsimp only
    split
    · exact h
    · rename_i request hcurrent
      exact h.raises (h.closed (.inr ⟨request, hcurrent⟩)) request
    · rename_i request point _ hcurrent
      split
      · rename_i hterminal
        exact h.raises hterminal request
      · exact h.giveUp hcurrent
  | terminateEnds =>
    unfold State.requestStep
    dsimp only
    split
    · rename_i request hcurrent _
      exact h.raises (h.closed (.inr ⟨request, hcurrent⟩)) request
    · exact h

/-- Frames and answers move on; the device answers what it was sent. -/
theorem Correlated.transportStep (h : Correlated s) (step : TransportStep Event) :
    Correlated (s.transportStep step) := by
  cases step with
  | frameLeaves request =>
    unfold State.transportStep
    dsimp only
    split
    · rename_i hmem
      refine h.of_perm rfl rfl rfl ?_ rfl rfl
      unfold outstanding
      refine List.Perm.append_right _ ?_
      calc s.unsent.erase request ++ (s.outbound ++ [request])
          = (s.unsent.erase request ++ s.outbound) ++ [request] := (List.append_assoc _ _ _).symm
        List.Perm _ (request :: (s.unsent.erase request ++ s.outbound)) :=
          List.perm_append_singleton _ _
        List.Perm _ (s.unsent ++ s.outbound) :=
          (List.perm_cons_erase hmem).symm.append_right s.outbound
    · exact h
  | deviceAnswers =>
    unfold State.transportStep
    dsimp only
    split
    · exact h
    · rename_i request outbound houtbound
      refine h.of_perm rfl rfl rfl ?_ rfl rfl
      unfold outstanding
      dsimp only
      rw [houtbound, List.filterMap_append, List.append_assoc, List.append_assoc]
      refine List.Perm.append_left _ ?_
      rw [← List.append_assoc]
      exact List.perm_append_singleton request (outbound ++ s.wire.filterMap Message.answer?)
  | deviceSends event =>
    refine h.of_perm rfl rfl rfl ?_ rfl rfl
    have hwire : (s.wire ++ [Message.event event]).filterMap Message.answer?
        = s.wire.filterMap Message.answer? := by
      rw [List.filterMap_append]
      exact List.append_nil _
    show (s.unsent ++ s.outbound ++ (s.wire ++ [Message.event event]).filterMap _).Perm _
    rw [hwire]
    exact List.Perm.refl _

theorem Correlated.readerStep (h : Correlated s) (capacity : ℕ) (step : ReaderStep) :
    Correlated (s.readerStep capacity step) := by
  cases step with
  | reads =>
    unfold State.readerStep
    dsimp only
    split
    · rename_i event wire _ hwire
      refine h.of_perm rfl rfl rfl ?_ rfl rfl
      unfold outstanding
      rw [hwire]
      exact List.Perm.refl _
    · rename_i answer wire _ hwire
      -- The answer is the only thing outstanding.
      have hcons : s.outstanding.Perm
          (answer :: (s.unsent ++ s.outbound ++ wire.filterMap Message.answer?)) := by
        unfold outstanding
        rw [hwire]
        exact List.perm_middle
      split
      · rename_i hpending
        have hopen := h.opened hpending
        obtain ⟨_, point, hpoint⟩ := h.asked hopen answer (hcons.mem_iff.mpr List.mem_cons_self)
        have hlength := h.single hopen
        rw [hcons.length_eq, List.length_cons] at hlength
        have hnil : s.unsent ++ s.outbound ++ wire.filterMap Message.answer? = [] :=
          List.eq_nil_of_length_eq_zero (by omega)
        refine ⟨fun other hother => ?_, nofun, ?_, fun _ => ?_, fun _ other hother => ?_, h.returned,
          h.silent⟩
        · cases hother
          exact ⟨point, hpoint⟩
        · rintro (hfailed | hterminating)
          · cases hfailed
          · exact h.closed (.inr hterminating)
        · show (s.unsent ++ s.outbound ++ wire.filterMap Message.answer?).length ≤ 1
          rw [hnil]
          exact Nat.zero_le _
        · have hother : other ∈ s.unsent ++ s.outbound ++ wire.filterMap Message.answer? := hother
          rw [hnil] at hother
          cases hother
      · rename_i hother
        refine Correlated.setTerminal ⟨h.own, h.opened, h.closed, fun hopen => ?_,
          fun hopen other hmem => ?_, h.returned, h.silent⟩
        · have hlength := h.single hopen
          rw [hcons.length_eq, List.length_cons] at hlength
          exact Nat.le_of_succ_le hlength
        · exact absurd (h.asked hopen answer (hcons.mem_iff.mpr List.mem_cons_self)).1 hother
    · exact h
  | puts =>
    unfold State.readerStep
    dsimp only
    split
    · split
      · exact h.of_perm rfl rfl rfl (List.Perm.refl _) rfl rfl
      · exact h
    · exact h
  | fails =>
    unfold State.readerStep
    dsimp only
    split
    · exact (h.of_perm rfl rfl rfl (List.Perm.refl _) rfl rfl :
        Correlated { s with reader := .ended }).setTerminal
    · exact h
  | cancelled => exact h.of_perm rfl rfl rfl (List.Perm.refl _) rfl rfl

/-- The consumer has no part in the requests. -/
theorem Correlated.receiveStep (h : Correlated s) (step : ReceiveStep) :
    Correlated (s.receiveStep step) := by
  cases step with
  | called =>
    unfold State.receiveStep
    dsimp only
    split
    · exact h.of_perm rfl rfl rfl (List.Perm.refl _) rfl rfl
    · split
      · exact h
      · exact h.of_perm rfl rfl rfl (List.Perm.refl _) rfl rfl
    · exact h
  | getTakes =>
    unfold State.receiveStep
    dsimp only
    split
    · exact h.of_perm rfl rfl rfl (List.Perm.refl _) rfl rfl
    · exact h
  | resumes =>
    unfold State.receiveStep
    dsimp only
    split
    · exact h
    · exact h.of_perm rfl rfl rfl (List.Perm.refl _) rfl rfl
    · split
      · exact h
      · split
        · exact h.of_perm rfl rfl rfl (List.Perm.refl _) rfl rfl
        · exact h.of_perm rfl rfl rfl (List.Perm.refl _) rfl rfl
  | timesOut =>
    unfold State.receiveStep
    dsimp only
    split
    · exact h
    · exact h.of_perm rfl rfl rfl (List.Perm.refl _) rfl rfl
    · exact h.of_perm rfl rfl rfl (List.Perm.refl _) rfl rfl
  | cancelled =>
    unfold State.receiveStep
    dsimp only
    split
    · exact h
    · exact h.of_perm rfl rfl rfl (List.Perm.refl _) rfl rfl
    · exact h.of_perm rfl rfl rfl (List.Perm.refl _) rfl rfl

theorem Correlated.step (h : Correlated s) (capacity : ℕ) (step : Step Event) :
    Correlated (s.step capacity step) := by
  cases step with
  | request step => exact h.requestStep step
  | transport step => exact h.transportStep step
  | reader step => exact h.readerStep capacity step
  | receive step => exact h.receiveStep step
  | close => exact h.setTerminal
  | drains =>
    show Correlated s.drain
    unfold drain
    split
    · exact h.of_perm rfl rfl rfl (List.Perm.refl _) rfl rfl
    · exact h

/-! ## Abandoned requests -/

theorem setTerminal_history (s : State Event) : s.setTerminal.returned = s.returned ∧
    s.setTerminal.abandoned = s.abandoned ∧ s.setTerminal.lost = s.lost := by
  unfold setTerminal
  split <;> exact ⟨rfl, rfl, rfl⟩

/-- What a step adds to the history: a request returns by resuming with an answer only and is
abandoned for good, and an event is lost from the hand of a cancelled call only. -/
structure History (s s' : State Event) (lost : List Event) : Prop where
  returned : s'.returned = s.returned ∨ ∃ request, s.current = some (request, .awaiting)
  abandoned : s.abandoned <:+ s'.abandoned
  lost : s'.lost = s.lost ++ lost

theorem History.same (hreturned : s'.returned = s.returned) (habandoned : s'.abandoned = s.abandoned)
    (hlost : s'.lost = s.lost) : History s s' [] where
  returned := .inl hreturned
  abandoned := ⟨[], habandoned.symm⟩
  lost := by rw [hlost, List.append_nil]

theorem history_setTerminal (s : State Event) : History s s.setTerminal [] :=
  .same s.setTerminal_history.1 s.setTerminal_history.2.1 s.setTerminal_history.2.2

theorem history_giveUp (s : State Event) (request : ℕ) : History s (s.giveUp request) [] where
  returned := .inl s.setTerminal_history.1
  abandoned := List.suffix_cons _ _
  lost := by
    rw [List.append_nil]
    exact s.setTerminal_history.2.2

theorem history_raises (s : State Event) (request : ℕ) : History s (s.raises request) [] where
  returned := .inl rfl
  abandoned := List.suffix_cons _ _
  lost := (List.append_nil _).symm

theorem history_requestStep (s : State Event) (step : RequestStep) :
    History s (s.requestStep step) [] := by
  unfold State.requestStep
  cases step with
  | called request => exact .same rfl rfl rfl
  | lockCancelled request => exact .same rfl rfl rfl
  | lockAcquired request =>
    dsimp only
    split
    · exact .same rfl rfl rfl
    split
    · exact .same rfl rfl rfl
    · exact .same rfl rfl rfl
  | writeSucceeds =>
    dsimp only
    split
    · split
      · exact .same rfl rfl rfl
      · exact .same rfl rfl rfl
    · exact .same rfl rfl rfl
  | writeFails =>
    dsimp only
    split
    · exact s.history_giveUp _
    · exact .same rfl rfl rfl
  | resumes =>
    dsimp only
    split
    · rename_i request _ hcurrent _
      exact ⟨.inr ⟨request, hcurrent⟩, List.suffix_refl _, (List.append_nil _).symm⟩
    · exact s.history_raises _
    · exact .same rfl rfl rfl
  | timesOut =>
    dsimp only
    split
    · exact s.history_giveUp _
    · exact .same rfl rfl rfl
  | cancelled =>
    dsimp only
    split
    · exact .same rfl rfl rfl
    · exact s.history_raises _
    · split
      · exact s.history_raises _
      · exact s.history_giveUp _
  | terminateEnds =>
    dsimp only
    split
    · exact s.history_raises _
    · exact .same rfl rfl rfl

theorem history_transportStep (s : State Event) (step : TransportStep Event) :
    History s (s.transportStep step) [] := by
  unfold State.transportStep
  cases step with
  | frameLeaves request =>
    dsimp only
    split <;> exact .same rfl rfl rfl
  | deviceAnswers =>
    dsimp only
    split <;> exact .same rfl rfl rfl
  | deviceSends event => exact .same rfl rfl rfl

theorem history_readerStep (s : State Event) (capacity : ℕ) (step : ReaderStep) :
    History s (s.readerStep capacity step) [] := by
  unfold State.readerStep
  cases step with
  | reads =>
    dsimp only
    split
    · exact .same rfl rfl rfl
    · rename_i wire _ _
      split
      · exact .same rfl rfl rfl
      · have hended := history_setTerminal { s with wire := wire, reader := .ended }
        exact ⟨hended.returned, hended.abandoned, hended.lost⟩
    · exact .same rfl rfl rfl
  | puts =>
    dsimp only
    split
    · split <;> exact .same rfl rfl rfl
    · exact .same rfl rfl rfl
  | fails =>
    dsimp only
    split
    · have hended := history_setTerminal { s with reader := .ended }
      exact ⟨hended.returned, hended.abandoned, hended.lost⟩
    · exact .same rfl rfl rfl
  | cancelled => exact .same rfl rfl rfl

theorem history_receiveStep (s : State Event) {step : ReceiveStep} (hstep : step ≠ .cancelled) :
    History s (s.receiveStep step) [] := by
  unfold State.receiveStep
  cases step with
  | called =>
    dsimp only
    split
    · exact .same rfl rfl rfl
    · split <;> exact .same rfl rfl rfl
    · exact .same rfl rfl rfl
  | getTakes =>
    dsimp only
    split <;> exact .same rfl rfl rfl
  | resumes =>
    dsimp only
    split
    · exact .same rfl rfl rfl
    · exact .same rfl rfl rfl
    · split
      · exact .same rfl rfl rfl
      · split <;> exact .same rfl rfl rfl
  | timesOut =>
    dsimp only
    split <;> exact .same rfl rfl rfl
  | cancelled => exact absurd rfl hstep

/-- A cancelled call drops what its task took. -/
theorem history_receive_cancelled (s : State Event) :
    History s (s.receiveStep .cancelled) s.receive.hand := by
  unfold State.receiveStep
  dsimp only
  split
  · rename_i hidle
    rw [hidle]
    exact .same rfl rfl rfl
  · rename_i event hhanded
    rw [hhanded]
    exact ⟨.inl rfl, List.suffix_refl _, rfl⟩
  · rename_i hwaiting
    rw [hwaiting]
    exact .same rfl rfl rfl

theorem history_step (s : State Event) (capacity : ℕ) (step : Step Event) : ∃ lost,
    History s (s.step capacity step) lost ∧
      (lost = [] ↔ (step = .receive .cancelled → s.receive.hand = [])) := by
  cases step with
  | request step => exact ⟨[], s.history_requestStep step, iff_of_true rfl nofun⟩
  | transport step => exact ⟨[], s.history_transportStep step, iff_of_true rfl nofun⟩
  | reader step => exact ⟨[], s.history_readerStep capacity step, iff_of_true rfl nofun⟩
  | receive step =>
    by_cases hcancelled : step = .cancelled
    · subst hcancelled
      exact ⟨s.receive.hand, s.history_receive_cancelled, fun h _ => h, fun h => h rfl⟩
    · refine ⟨[], s.history_receiveStep hcancelled, iff_of_true rfl fun h => ?_⟩
      exact absurd (Step.receive.inj h) hcancelled
  | close => exact ⟨[], s.history_setTerminal, iff_of_true rfl nofun⟩
  | drains =>
    refine ⟨[], ?_, iff_of_true rfl nofun⟩
    show History s s.drain []
    unfold drain
    split <;> exact .same rfl rfl rfl

/-- After an abandoned request nothing returns. -/
theorem Correlated.silenced (h : Correlated s) (habandoned : s.abandoned ≠ []) (capacity : ℕ)
    (step : Step Event) :
    (s.step capacity step).returned = s.returned ∧ (s.step capacity step).abandoned ≠ [] := by
  obtain ⟨_, hhistory, _⟩ := s.history_step capacity step
  constructor
  · refine hhistory.returned.resolve_right ?_
    rintro ⟨request, hcurrent⟩
    exact absurd ((h.silent habandoned).2 request .awaiting hcurrent) nofun
  · intro hnil
    have hsuffix := hhistory.abandoned
    rw [hnil] at hsuffix
    exact habandoned (List.suffix_nil.mp hsuffix)

/-! ## Events -/

/-- Where the events are. -/
structure Accounted (s : State Event) : Prop where
  order : s.lost = [] → s.Conserved
  count : s.delivered.length + s.receive.hand.length + s.drained.length + s.events.length
    + s.eventAwaitingAdmission.toList.length + s.lost.length = s.produced.length
  awaits : s.reader = .reading → s.eventAwaitingAdmission = none
  settled : s.hasDrained = true →
    s.reader = .ended ∧ s.events = [] ∧ s.eventAwaitingAdmission = none
  undrained : s.hasDrained = false → s.drained = []

theorem accounted_start : Accounted (start : State Event) where
  order _ := rfl
  count := rfl
  awaits _ := rfl
  settled := nofun
  undrained _ := rfl

/-- The events were conserved exactly when none was lost. -/
theorem Accounted.conserved_iff (h : Accounted s) : s.Conserved ↔ s.lost = [] := by
  refine ⟨fun hconserved => ?_, h.order⟩
  have hcount := h.count
  have hlength := congrArg List.length hconserved
  simp only [List.length_append] at hlength
  exact List.eq_nil_of_length_eq_zero (by omega)

/-- A step that leaves the events alone. -/
theorem Accounted.of_same (h : Accounted s) (hdelivered : s'.delivered = s.delivered)
    (hhand : s'.receive.hand = s.receive.hand) (hdrained : s'.drained = s.drained)
    (hevents : s'.events = s.events)
    (hawaiting : s'.eventAwaitingAdmission = s.eventAwaitingAdmission) (hlost : s'.lost = s.lost)
    (hproduced : s'.produced = s.produced) (hhas : s'.hasDrained = s.hasDrained)
    (hreader : s'.reader = s.reader ∨ s'.reader = .ended) : Accounted s' := by
  refine ⟨?_, ?_, fun hreading => ?_, fun hsettled => ?_, ?_⟩
  · unfold Conserved
    rw [hdelivered, hhand, hdrained, hevents, hawaiting, hlost, hproduced]
    exact h.order
  · rw [hdelivered, hhand, hdrained, hevents, hawaiting, hlost, hproduced]
    exact h.count
  · rw [hawaiting]
    rcases hreader with hsame | hended
    · exact h.awaits (hsame.symm.trans hreading)
    · exact absurd (hended.symm.trans hreading) nofun
  · obtain ⟨hended, hsettled⟩ := h.settled (hhas.symm.trans hsettled)
    rw [hevents, hawaiting]
    exact ⟨hreader.elim (fun hsame => hsame.trans hended) id, hsettled⟩
  · rw [hhas, hdrained]
    exact h.undrained

theorem Accounted.setTerminal (h : Accounted s) : Accounted s.setTerminal := by
  unfold State.setTerminal
  split
  · exact h
  · exact h.of_same rfl rfl rfl rfl rfl rfl rfl rfl (.inl rfl)

theorem Accounted.requestStep (h : Accounted s) (step : RequestStep) :
    Accounted (s.requestStep step) := by
  have hgiveUp : ∀ request, Accounted (s.giveUp request) := fun request =>
    h.setTerminal.of_same rfl rfl rfl rfl rfl rfl rfl rfl (.inl rfl)
  have hraises : ∀ request, Accounted (s.raises request) := fun request =>
    h.of_same rfl rfl rfl rfl rfl rfl rfl rfl (.inl rfl)
  unfold State.requestStep
  cases step with
  | called request => exact h.of_same rfl rfl rfl rfl rfl rfl rfl rfl (.inl rfl)
  | lockCancelled request => exact h.of_same rfl rfl rfl rfl rfl rfl rfl rfl (.inl rfl)
  | lockAcquired request =>
    dsimp only
    split
    · exact h
    split
    · exact h.of_same rfl rfl rfl rfl rfl rfl rfl rfl (.inl rfl)
    · exact h.of_same rfl rfl rfl rfl rfl rfl rfl rfl (.inl rfl)
  | writeSucceeds =>
    dsimp only
    split
    · split
      · exact h
      · exact h.of_same rfl rfl rfl rfl rfl rfl rfl rfl (.inl rfl)
    · exact h
  | writeFails =>
    dsimp only
    split
    · exact hgiveUp _
    · exact h
  | resumes =>
    dsimp only
    split
    · exact h.of_same rfl rfl rfl rfl rfl rfl rfl rfl (.inl rfl)
    · exact hraises _
    · exact h
  | timesOut =>
    dsimp only
    split
    · exact hgiveUp _
    · exact h
  | cancelled =>
    dsimp only
    split
    · exact h
    · exact hraises _
    · split
      · exact hraises _
      · exact hgiveUp _
  | terminateEnds =>
    dsimp only
    split
    · exact hraises _
    · exact h

theorem Accounted.transportStep (h : Accounted s) (step : TransportStep Event) :
    Accounted (s.transportStep step) := by
  unfold State.transportStep
  cases step with
  | frameLeaves request =>
    dsimp only
    split
    · exact h.of_same rfl rfl rfl rfl rfl rfl rfl rfl (.inl rfl)
    · exact h
  | deviceAnswers =>
    dsimp only
    split
    · exact h
    · exact h.of_same rfl rfl rfl rfl rfl rfl rfl rfl (.inl rfl)
  | deviceSends event => exact h.of_same rfl rfl rfl rfl rfl rfl rfl rfl (.inl rfl)

/-- An event is normalized behind all others, and admitted in its place. -/
theorem Accounted.readerStep (h : Accounted s) (capacity : ℕ) (step : ReaderStep) :
    Accounted (s.readerStep capacity step) := by
  unfold State.readerStep
  cases step with
  | reads =>
    dsimp only
    split
    · rename_i event wire hreading _
      have hnone := h.awaits hreading
      have hcount := h.count
      refine ⟨fun hlost => ?_, ?_, nofun, fun hdrained => ?_, h.undrained⟩
      · have horder := h.order hlost
        unfold Conserved at horder ⊢
        rw [hnone, Option.toList_none, List.append_nil] at horder
        rw [Option.toList_some, horder]
      · rw [hnone] at hcount
        simp only [Option.toList_none, Option.toList_some, List.length_nil, List.length_cons,
          List.length_append] at hcount ⊢
        omega
      · exact absurd ((h.settled hdrained).1.symm.trans hreading) nofun
    · split
      · exact h.of_same rfl rfl rfl rfl rfl rfl rfl rfl (.inl rfl)
      · exact (h.of_same rfl rfl rfl rfl rfl rfl rfl rfl (.inr rfl) :
          Accounted { s with wire := _, reader := .ended }).setTerminal
    · exact h
  | puts =>
    dsimp only
    split
    · rename_i event hputting hawaiting
      split
      · have hcount := h.count
        refine ⟨fun hlost => ?_, ?_, fun _ => rfl, fun hdrained => ?_, h.undrained⟩
        · have horder := h.order hlost
          unfold Conserved at horder ⊢
          rw [hawaiting, Option.toList_some] at horder
          rw [Option.toList_none, List.append_nil, ← List.append_assoc, horder]
        · rw [hawaiting] at hcount
          simp only [Option.toList_none, Option.toList_some, List.length_nil, List.length_cons,
            List.length_append] at hcount ⊢
          omega
        · exact absurd ((h.settled hdrained).1.symm.trans hputting) nofun
      · exact h
    · exact h
  | fails =>
    dsimp only
    split
    · exact (h.of_same rfl rfl rfl rfl rfl rfl rfl rfl (.inr rfl) :
        Accounted { s with reader := .ended }).setTerminal
    · exact h
  | cancelled => exact h.of_same rfl rfl rfl rfl rfl rfl rfl rfl (.inr rfl)

/-- The oldest queued event is taken before anything was drained. -/
theorem Accounted.drained_nil (h : Accounted s) (hevents : s.events ≠ []) : s.drained = [] := by
  cases hdrained : s.hasDrained with
  | false => exact h.undrained hdrained
  | true => exact absurd (h.settled hdrained).2.1 hevents

/-- An idle or waiting call is given the oldest queued event. -/
theorem Accounted.takes (h : Accounted s) {event : Event} {events : List Event}
    (hhand : s.receive.hand = []) (hevents : s.events = event :: events) :
    Accounted { s with events := events, receive := .handed event } := by
  have hdrained := h.drained_nil (by rw [hevents]; exact List.cons_ne_nil _ _)
  have hcount := h.count
  refine ⟨fun hlost => ?_, ?_, h.awaits, fun hsettled => ?_, h.undrained⟩
  · have horder := h.order hlost
    unfold Conserved at horder ⊢
    rw [hhand, hdrained, hevents, List.append_nil, List.append_nil] at horder
    dsimp only [ReceivePoint.hand]
    rw [hdrained, List.append_nil, List.append_assoc s.delivered [event] events]
    exact horder
  · rw [hhand, hevents] at hcount
    simp only [ReceivePoint.hand, List.length_cons, List.length_nil] at hcount ⊢
    omega
  · rw [(h.settled hsettled).2.1] at hevents
    cases hevents

/-- The call returns what its task took. -/
theorem Accounted.delivers (h : Accounted s) {event : Event} (hreceive : s.receive = .handed event) :
    Accounted (s.deliver event) := by
  have hcount := h.count
  refine ⟨fun hlost => ?_, ?_, h.awaits, h.settled, h.undrained⟩
  · have horder := h.order hlost
    unfold Conserved at horder ⊢
    rw [hreceive] at horder
    show (s.delivered ++ [event]) ++ [] ++ s.drained ++ s.events ++ _ = s.produced
    rw [List.append_nil]
    exact horder
  · rw [hreceive] at hcount
    show (s.delivered ++ [event]).length + 0 + _ + _ + _ + _ = _
    rw [List.length_append]
    exact hcount

theorem Accounted.receiveStep (h : Accounted s) (step : ReceiveStep) :
    Accounted (s.receiveStep step) := by
  unfold State.receiveStep
  cases step with
  | called =>
    dsimp only
    split
    · rename_i event events hidle hevents
      have htakes := h.takes (by rw [hidle]; rfl) hevents
      exact htakes.delivers rfl
    · rename_i hidle _
      split
      · exact h
      · exact h.of_same rfl (by rw [hidle]; rfl) rfl rfl rfl rfl rfl rfl (.inl rfl)
    · exact h
  | getTakes =>
    dsimp only
    split
    · rename_i event events hwaiting hevents
      exact h.takes (by rw [hwaiting]; rfl) hevents
    · exact h
  | resumes =>
    dsimp only
    split
    · exact h
    · rename_i event hhanded
      exact h.delivers hhanded
    · rename_i hwaiting
      split
      · exact h
      · split
        · rename_i event events hevents
          have htakes := h.takes (by rw [hwaiting]; rfl) hevents
          exact htakes.delivers rfl
        · exact h.of_same rfl (by rw [hwaiting]; rfl) rfl rfl rfl rfl rfl rfl (.inl rfl)
  | timesOut =>
    dsimp only
    split
    · exact h
    · rename_i event hhanded
      exact h.delivers hhanded
    · rename_i hwaiting
      exact h.of_same rfl (by rw [hwaiting]; rfl) rfl rfl rfl rfl rfl rfl (.inl rfl)
  | cancelled =>
    dsimp only
    split
    · exact h
    · rename_i event hhanded
      have hcount := h.count
      refine ⟨fun hlost => ?_, ?_, h.awaits, h.settled, h.undrained⟩
      · exact absurd (List.append_eq_nil_iff.mp hlost).2 (List.cons_ne_nil _ _)
      · rw [hhanded] at hcount
        simp only [ReceivePoint.hand, List.length_cons, List.length_nil, List.length_append]
          at hcount ⊢
        omega
    · rename_i hwaiting
      exact h.of_same rfl (by rw [hwaiting]; rfl) rfl rfl rfl rfl rfl rfl (.inl rfl)

theorem Accounted.drain (h : Accounted s) : Accounted s.drain := by
  unfold State.drain
  split
  · rename_i hended
    have hcount := h.count
    refine ⟨fun hlost => ?_, ?_, fun _ => rfl, fun _ => ⟨hended.2, rfl, rfl⟩, nofun⟩
    · have horder := h.order hlost
      unfold Conserved at horder ⊢
      dsimp only
      rw [Option.toList_none, List.append_nil, List.append_nil, ← horder]
      simp only [List.append_assoc]
    · simp only [List.length_append, List.length_nil, Option.toList_none] at hcount ⊢
      omega
  · exact h

theorem Accounted.step (h : Accounted s) (capacity : ℕ) (step : Step Event) :
    Accounted (s.step capacity step) := by
  cases step with
  | request step => exact h.requestStep step
  | transport step => exact h.transportStep step
  | reader step => exact h.readerStep capacity step
  | receive step => exact h.receiveStep step
  | close => exact h.setTerminal
  | drains => exact h.drain

/-! ## Runs -/

theorem run_append (capacity : ℕ) (before after : List (Step Event)) :
    s.run capacity (before ++ after) = (s.run capacity before).run capacity after :=
  List.foldl_append

theorem Correlated.run (h : Correlated s) (capacity : ℕ) (steps : List (Step Event)) :
    Correlated (s.run capacity steps) := by
  induction steps generalizing s with
  | nil => exact h
  | cons step steps ih => exact ih (h.step capacity step)

theorem Accounted.run (h : Accounted s) (capacity : ℕ) (steps : List (Step Event)) :
    Accounted (s.run capacity steps) := by
  induction steps generalizing s with
  | nil => exact h
  | cons step steps ih => exact ih (h.step capacity step)

theorem Correlated.run_silenced (h : Correlated s) (habandoned : s.abandoned ≠ []) (capacity : ℕ)
    (steps : List (Step Event)) : (s.run capacity steps).returned = s.returned := by
  induction steps generalizing s with
  | nil => rfl
  | cons step steps ih =>
    obtain ⟨hreturned, hstill⟩ := h.silenced habandoned capacity step
    exact (ih (h.step capacity step) hstill).trans hreturned

/-- What was lost stays lost. -/
theorem lost_of_run {capacity : ℕ} {steps : List (Step Event)}
    (hrun : (s.run capacity steps).lost = []) : s.lost = [] := by
  induction steps generalizing s with
  | nil => exact hrun
  | cons step steps ih =>
    obtain ⟨lost, hhistory, _⟩ := s.history_step capacity step
    have hstep := ih hrun
    rw [hhistory.lost] at hstep
    exact (List.append_eq_nil_iff.mp hstep).1

/-- Nothing is lost in a run that keeps what it has in hand, and something in any other. -/
theorem run_lost (capacity : ℕ) (steps : List (Step Event)) (hlost : s.lost = []) :
    (s.run capacity steps).lost = [] ↔ KeepsHand capacity s steps := by
  induction steps generalizing s with
  | nil => exact iff_of_true hlost trivial
  | cons step steps ih =>
    obtain ⟨lost, hhistory, hkeeps⟩ := s.history_step capacity step
    have hafter := hhistory.lost
    rw [hlost, List.nil_append] at hafter
    constructor
    · intro hrun
      have hnil : (s.step capacity step).lost = [] := lost_of_run hrun
      exact ⟨hkeeps.mp (hafter.symm.trans hnil), (ih hnil).mp hrun⟩
    · rintro ⟨hnow, hlater⟩
      exact (ih (hafter.trans (hkeeps.mpr hnow))).mpr hlater

end State

open State

/-- The adapter is sound in a run exactly when no `receive_event` is cancelled with an event
in its task's hand. -/
theorem sound_iff_keepsHand (capacity : ℕ) (steps : List (Step Event)) :
    Sound capacity steps ↔ KeepsHand capacity State.start steps := by
  have haccounted := fun before : List (Step Event) => accounted_start.run capacity before
  constructor
  · intro h
    refine (run_lost capacity steps rfl).mp ?_
    exact (haccounted steps).conserved_iff.mp (h.conserved steps (List.prefix_refl _))
  · intro h
    have hlost := (run_lost capacity steps rfl).mpr h
    refine ⟨fun before _ => (correlated_start.run capacity before).returned, ?_, ?_⟩
    · rintro before _ ⟨later, rfl⟩ _ habandoned
      rw [run_append]
      exact (correlated_start.run capacity before).run_silenced habandoned capacity later
    · rintro before ⟨later, rfl⟩
      rw [run_append] at hlost
      exact (haccounted before).conserved_iff.mpr (lost_of_run hlost)

/-- After a drain with nothing in hand, delivered and drained events are all there were. -/
theorem delivered_append_drained {capacity : ℕ} {steps : List (Step Event)}
    (hsound : Sound capacity steps) (hdrained : (State.start.run capacity steps).hasDrained = true)
    (hhand : (State.start.run capacity steps).receive.hand = []) :
    (State.start.run capacity steps).delivered ++ (State.start.run capacity steps).drained
      = (State.start.run capacity steps).produced := by
  have hconserved := hsound.conserved steps (List.prefix_refl _)
  obtain ⟨_, hevents, hawaiting⟩ := (accounted_start.run capacity steps).settled hdrained
  unfold Conserved at hconserved
  rw [hhand, hevents, hawaiting] at hconserved
  simpa using hconserved

/-- An event arrives at a waiting call, whose task takes it; then the call is cancelled. -/
theorem not_sound_cancelledHandover : ¬ ∀ (capacity : ℕ) (steps : List (Step ℕ)), 0 < capacity →
    Sound capacity steps := by
  intro h
  have hsound := h 1 [.receive .called, .transport (.deviceSends 7), .reader .reads, .reader .puts,
    .receive .getTakes, .receive .cancelled] (by decide)
  exact absurd (hsound.conserved _ (List.prefix_refl _)) (by decide)

end EnhancedAdapter
