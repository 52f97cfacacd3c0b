/-
# Transmissions through a port

A payload is offered to a port that accepts some of it each time it is asked, until all of it
is accepted, the port or its driver fails, the clock runs out or the transmission is cancelled.
`Sender` is the machine that does so and remembers nothing between two transmissions;
`TxHistory` is what is seen of it from outside, one `Transmission` for each start.  Nothing
here is about one port.
-/
import Mathlib.Data.List.Basic
import Mathlib.Data.List.Infix
import Mathlib.Tactic.Common

/-! ## Machines -/

/-- A call of the port, with its answer. -/
inductive PortCall where
  | write (offered : List UInt8) (answer : ℤ)
  | isComplete (answer : ℤ)
  | stop
  deriving DecidableEq, Repr

/-- What a machine says of its transmission. -/
inductive TxResult where
  | idle
  | pending
  | completed
  | invalidArgument
  | busy
  | timeout
  | hardwareFault
  deriving DecidableEq, Repr

/-- The results that end a transmission. -/
def TxResult.isTerminal : TxResult → Bool
  | completed => true
  | timeout => true
  | hardwareFault => true
  | _ => false

/-- A call of the machine; the port answers a writable callback with these numbers. -/
inductive TxOp where
  | start (data : Option (List UInt8)) (nowUs timeoutUs : UInt64)
  | writable (nowUs : UInt64) (written complete : ℤ)
  | driverFault
  | cancel
  | poll (nowUs : UInt64)
  deriving DecidableEq, Repr

structure TxOutput where
  calls : List PortCall := []
  result : Option TxResult := none
  bytesAccepted : ℕ := 0
  deriving DecidableEq, Repr

/-- What two machines differ in: whether the port is asked for its transmitter to drain, and
whether progress renews the timeout. -/
structure TxKind where
  maxBytes : ℕ
  drains : Bool
  renews : Bool
  deriving DecidableEq, Repr

/-- Whether the port's answer is one it may give. -/
def Good (offered : List UInt8) (answer : ℤ) : Prop := 0 < answer ∧ answer ≤ offered.length

instance (offered : List UInt8) (answer : ℤ) : Decidable (Good offered answer) :=
  inferInstanceAs (Decidable (_ ∧ _))

/-- A machine that keeps nothing between transmissions. -/
inductive Sender where
  | idle
  | pending (payload : List UInt8) (sent : ℕ) (sinceUs timeoutUs : UInt64)
  | ended (result : TxResult) (length : ℕ)
  deriving DecidableEq, Repr

namespace Sender

variable (kind : TxKind)

def start (data : List UInt8) (nowUs timeoutUs : UInt64) : Sender → Sender × TxOutput
  | idle =>
    if data.length = 0 ∨ kind.maxBytes < data.length ∨ timeoutUs = 0 then
      (idle, { result := some .invalidArgument })
    else (pending data 0 nowUs timeoutUs, { result := some .pending })
  | sender =>
    if data.length = 0 ∨ kind.maxBytes < data.length ∨ timeoutUs = 0 then
      (sender, { result := some .invalidArgument })
    else (sender, { result := some .busy })

/-- Once everything is accepted: done, or done as soon as the transmitter is drained. -/
def settle (payload : List UInt8) (sinceUs timeoutUs : UInt64) (complete : ℤ) :
    Sender × List PortCall :=
  if kind.drains then
    if complete < 0 then (ended .hardwareFault payload.length, [.isComplete complete, .stop])
    else if 0 < complete then (ended .completed payload.length, [.isComplete complete, .stop])
    else (pending payload payload.length sinceUs timeoutUs, [.isComplete complete])
  else (ended .completed payload.length, [.stop])

/-- The rest is offered to the port. -/
def offer (payload : List UInt8) (sent : ℕ) (sinceUs timeoutUs nowUs : UInt64)
    (written complete : ℤ) : Sender × List PortCall :=
  let offered := payload.drop sent
  if ¬Good offered written then
    (ended .hardwareFault payload.length, [.write offered written, .stop])
  else
    let sent := sent + written.toNat
    let sinceUs := if kind.renews then nowUs else sinceUs
    if sent = payload.length then
      let (sender, calls) := settle kind payload sinceUs timeoutUs complete
      (sender, .write offered written :: calls)
    else (pending payload sent sinceUs timeoutUs, [.write offered written])

def writable (nowUs : UInt64) (written complete : ℤ) : Sender → Sender × List PortCall
  | pending payload sent sinceUs timeoutUs =>
    if sent < payload.length then
      offer kind payload sent sinceUs timeoutUs nowUs written complete
    else settle kind payload sinceUs timeoutUs complete
  | sender => (sender, [.stop])

def poll (nowUs : UInt64) : Sender → Sender × TxOutput
  | idle => (idle, { result := some .idle })
  | pending payload sent sinceUs timeoutUs =>
    if timeoutUs ≤ nowUs - sinceUs then
      (idle, { calls := [.stop], result := some .timeout })
    else (pending payload sent sinceUs timeoutUs, { result := some .pending })
  | ended result length =>
    (idle, { result := some result
             bytesAccepted := if kind.drains ∧ result = .completed then length else 0 })

def step (sender : Sender) : TxOp → Sender × TxOutput
  | .start none _ _ => (sender, { result := some .invalidArgument })
  | .start (some data) nowUs timeoutUs => sender.start kind data nowUs timeoutUs
  | .writable nowUs written complete =>
    ((sender.writable kind nowUs written complete).1,
      { calls := (sender.writable kind nowUs written complete).2 })
  | .driverFault =>
    match sender with
    | pending payload _ _ _ => (ended .hardwareFault payload.length, { calls := [.stop] })
    | sender => (sender, {})
  | .cancel =>
    match sender with
    | pending _ _ _ _ => (idle, { calls := [.stop] })
    | _ => (idle, {})
  | .poll nowUs => sender.poll kind nowUs

end Sender

/-! ## What is seen of a machine -/

inductive TxEvent where
  | port (nowUs : UInt64) (call : PortCall)
  | driverFault
  | polled (nowUs : UInt64)
  | cancelled
  deriving DecidableEq, Repr

inductive TxClosing where
  | reported (result : TxResult) (bytesAccepted : ℕ)
  | cancelled
  deriving DecidableEq, Repr

/-- A start that succeeded, and what happened up to its end. -/
structure Transmission where
  payload : List UInt8
  startedUs : UInt64
  timeoutUs : UInt64
  events : List TxEvent := []
  closing : Option TxClosing := none
  deriving DecidableEq, Repr

structure TxHistory where
  past : List Transmission := []
  current : Option Transmission := none
  /-- writes and reports that belong to no transmission -/
  strayWrites : List PortCall := []
  strayReports : List TxResult := []
  deriving DecidableEq, Repr

namespace TxOp

def event? : TxOp → Option TxEvent
  | driverFault => some .driverFault
  | cancel => some .cancelled
  | poll nowUs => some (.polled nowUs)
  | _ => none

/-- The clock read with a call. -/
def nowUs : TxOp → UInt64
  | start _ nowUs _ => nowUs
  | writable nowUs _ _ => nowUs
  | poll nowUs => nowUs
  | _ => 0

/-- What a call adds to the events of its transmission. -/
def events (op : TxOp) (output : TxOutput) : List TxEvent :=
  op.event?.toList ++ output.calls.map (.port op.nowUs)

/-- How a call ends its transmission. -/
def closing (op : TxOp) (output : TxOutput) : Option TxClosing :=
  match op, output.result with
  | cancel, _ => some .cancelled
  | poll _, some result =>
    if result.isTerminal then some (.reported result output.bytesAccepted) else none
  | _, _ => none

end TxOp

def PortCall.isWrite : PortCall → Bool
  | write _ _ => true
  | _ => false

namespace TxHistory

/-- The transmissions of which nothing more is seen. -/
def startNew (h : TxHistory) (payload : List UInt8) (nowUs timeoutUs : UInt64) : TxHistory :=
  { h with
    past := h.current.toList ++ h.past
    current := some { payload := payload, startedUs := nowUs, timeoutUs := timeoutUs } }

/-- What a call shows, while a transmission goes on or without one. -/
def observe (h : TxHistory) (op : TxOp) (output : TxOutput) : TxHistory :=
  match h.current with
  | some t =>
    let t := { t with events := t.events ++ op.events output }
    match op.closing output with
    | none => { h with current := some t }
    | some closing =>
      { h with past := { t with closing := some closing } :: h.past, current := none }
  | none =>
    { h with
      strayWrites := h.strayWrites ++ output.calls.filter PortCall.isWrite
      strayReports := h.strayReports ++ output.result.toList.filter TxResult.isTerminal }

def record (h : TxHistory) (op : TxOp) (output : TxOutput) : TxHistory :=
  match op, output.result with
  | .start (some data) nowUs timeoutUs, some .pending => h.startNew data nowUs timeoutUs
  | _, _ => h.observe op output

end TxHistory

/-- The outputs of calls, for any machine. -/
def txOutputs {M : Type} (step : M → TxOp → M × TxOutput) (m : M) : List TxOp → List TxOutput
  | [] => []
  | op :: ops => (step m op).2 :: txOutputs step (step m op).1 ops

/-- The machine after calls. -/
def txState {M : Type} (step : M → TxOp → M × TxOutput) (m : M) (ops : List TxOp) : M :=
  ops.foldl (fun m op => (step m op).1) m

/-- The history after calls. -/
def txHistory {M : Type} (step : M → TxOp → M × TxOutput) :
    M → TxHistory → List TxOp → TxHistory
  | _, h, [] => h
  | m, h, op :: ops => txHistory step (step m op).1 (h.record op (step m op).2) ops

/-! ## What a transmission should be -/

/-- The bytes the port took in an event. -/
def TxEvent.accepted : TxEvent → List UInt8
  | port _ (.write offered answer) => if Good offered answer then offered.take answer.toNat else []
  | _ => []

def acceptedOf (events : List TxEvent) : List UInt8 := events.flatMap TxEvent.accepted

section Spec

variable (kind : TxKind)

/-- Since when the timeout counts. -/
def sinceAfter (sinceUs : UInt64) (events : List TxEvent) : UInt64 :=
  events.foldl (fun sinceUs event => match event with
    | .port nowUs (.write _ _) => if kind.renews then nowUs else sinceUs
    | _ => sinceUs) sinceUs

/-- Whether nothing went wrong: no fault, no timeout, no cancel. -/
def TxEvent.Clean (sinceUs timeoutUs : UInt64) : TxEvent → Prop
  | port _ (.write offered answer) => Good offered answer
  | port _ (.isComplete answer) => 0 ≤ answer
  | port _ .stop => True
  | driverFault => False
  | polled nowUs => nowUs.toNat < sinceUs.toNat + timeoutUs.toNat
  | cancelled => False

def Clean (sinceUs timeoutUs : UInt64) (events : List TxEvent) : Prop :=
  ∀ before event after, events = before ++ event :: after →
    event.Clean (sinceAfter kind sinceUs before) timeoutUs

/-- The port reports, or need not report, that its transmitter is drained. -/
def Drained (events : List TxEvent) : Prop :=
  kind.drains = true → ∃ nowUs answer, 0 < answer ∧
    events.getLast? = some (.port nowUs (.isComplete answer))

namespace Transmission

variable (t : Transmission)

/-- Everything was accepted, and drained, before anything went wrong. -/
def Completed : Prop :=
  ∃ before after, t.events = before ++ after ∧ Clean kind t.startedUs t.timeoutUs before ∧
    acceptedOf before = t.payload ∧ Drained kind before

/-- The port was stopped and offered nothing after that. -/
def Stopped : Prop :=
  ∃ before nowUs after, t.events = before ++ .port nowUs .stop :: after ∧
    ∀ nowUs offered answer, .port nowUs (.write offered answer) ∉ after

/-- A transmission that is over: cancelled, or reported once for what it was. -/
structure Exact : Prop where
  accepted : acceptedOf t.events <+: t.payload
  stopped : t.Stopped
  closing : t.closing = some .cancelled ∨ ∃ result bytesAccepted,
    t.closing = some (.reported result bytesAccepted) ∧ result.isTerminal = true ∧
      (result = .completed ↔ t.Completed kind) ∧
      (kind.drains = true → bytesAccepted = if result = .completed then t.payload.length else 0)

/-- A transmission that goes on. -/
structure Ongoing : Prop where
  accepted : acceptedOf t.events <+: t.payload
  closing : t.closing = none

end Transmission

/-- The clock a machine reads in a call, if it reads one. -/
def TxOp.clock? : TxOp → Option UInt64
  | start _ nowUs _ => some nowUs
  | writable nowUs _ _ => if kind.renews then some nowUs else none
  | poll nowUs => some nowUs
  | _ => none

/-- Clocks that never go back. -/
def ClocksMonotone (ops : List TxOp) : Prop := (ops.filterMap (TxOp.clock? kind)).Pairwise (· ≤ ·)

end Spec

/-! ## Events one by one -/

theorem acceptedOf_append (events events' : List TxEvent) :
    acceptedOf (events ++ events') = acceptedOf events ++ acceptedOf events' :=
  List.flatMap_append

section Facts

variable {kind : TxKind} {sinceUs timeoutUs : UInt64}

theorem sinceAfter_append (events events' : List TxEvent) :
    sinceAfter kind sinceUs (events ++ events')
      = sinceAfter kind (sinceAfter kind sinceUs events) events' := List.foldl_append

theorem clean_nil : Clean kind sinceUs timeoutUs [] := by
  intro before event after h
  exact absurd h (by simp)

/-- One more event. -/
theorem clean_concat {events : List TxEvent} {event : TxEvent} :
    Clean kind sinceUs timeoutUs (events ++ [event])
      ↔ Clean kind sinceUs timeoutUs events ∧
        event.Clean (sinceAfter kind sinceUs events) timeoutUs := by
  constructor
  · intro h
    refine ⟨fun before e after heq => ?_, h events event [] rfl⟩
    exact h before e (after ++ [event]) (by rw [heq]; simp)
  · rintro ⟨hevents, hevent⟩ before e after heq
    rcases List.eq_nil_or_concat after with rfl | ⟨after, last, rfl⟩
    · obtain ⟨rfl, hlast⟩ := List.append_inj' heq rfl
      obtain rfl := (List.cons.inj hlast).1
      exact hevent
    · rw [List.concat_eq_append, ← List.cons_append, ← List.append_assoc] at heq
      exact hevents before e after (List.append_inj' heq rfl).1

end Facts

/-! ## The machine is exact -/

section Exactness

variable {kind : TxKind}

/-- No part of the events has completed the transmission. -/
def Open (kind : TxKind) (payload : List UInt8) (events : List TxEvent) : Prop :=
  ∀ before, before <+: events → acceptedOf before = payload → ¬Drained kind before

theorem Open.concat {payload : List UInt8} {events : List TxEvent} {event : TxEvent}
    (h : Open kind payload events)
    (hlast : acceptedOf (events ++ [event]) = payload → ¬Drained kind (events ++ [event])) :
    Open kind payload (events ++ [event]) := by
  intro before hbefore
  rcases List.prefix_concat_iff.mp hbefore with rfl | hbefore
  · exact hlast
  · exact h before hbefore

namespace Transmission

/-- Something went wrong before the transmission completed. -/
def Failed (kind : TxKind) (t : Transmission) : Prop :=
  ∃ before event after, t.events = before ++ event :: after ∧ Open kind t.payload before ∧
    ¬event.Clean (sinceAfter kind t.startedUs before) t.timeoutUs

theorem Failed.not_completed {t : Transmission} (h : t.Failed kind) : ¬t.Completed kind := by
  obtain ⟨before, event, after, hevents, hopen, hevent⟩ := h
  rintro ⟨done, rest, hdone, hclean, haccepted, hdrained⟩
  rcases Nat.lt_or_ge before.length done.length with hlt | hle
  · have hinit : before ++ [event] <+: done := by
      refine List.prefix_of_prefix_length_le ?_ ⟨rest, hdone.symm⟩ (by
        rw [List.length_append]
        exact hlt)
      exact ⟨after, by rw [hevents]; simp⟩
    obtain ⟨tail, rfl⟩ := hinit
    exact hevent (hclean before event tail (by simp))
  · have hinit : done <+: before :=
      List.prefix_of_prefix_length_le ⟨rest, hdone.symm⟩ ⟨event :: after, hevents.symm⟩ hle
    exact hopen done hinit haccepted hdrained

/-- The transmission with more events. -/
def extend (t : Transmission) (events : List TxEvent) : Transmission :=
  { t with events := t.events ++ events }

theorem Failed.extend {t : Transmission} (h : t.Failed kind) (events : List TxEvent) :
    (t.extend events).Failed kind := by
  obtain ⟨before, event, after, hevents, hopen, hevent⟩ := h
  refine ⟨before, event, after ++ events, ?_, hopen, hevent⟩
  rw [Transmission.extend, hevents]
  simp

theorem Completed.extend {t : Transmission} (h : t.Completed kind) (events : List TxEvent) :
    (t.extend events).Completed kind := by
  obtain ⟨before, after, hevents, hrest⟩ := h
  refine ⟨before, after ++ events, ?_, hrest⟩
  rw [Transmission.extend, hevents]
  simp

/-- A transmission under way in the machine. -/
structure Sending (kind : TxKind) (t : Transmission) (sent : ℕ) (sinceUs : UInt64) : Prop where
  closing : t.closing = none
  clean : Clean kind t.startedUs t.timeoutUs t.events
  since : sinceAfter kind t.startedUs t.events = sinceUs
  accepted : acceptedOf t.events = t.payload.take sent
  sent : sent ≤ t.payload.length
  unfinished : Open kind t.payload t.events

/-- A transmission that is over and not yet reported. -/
structure Decided (kind : TxKind) (t : Transmission) (result : TxResult) : Prop where
  closing : t.closing = none
  accepted : acceptedOf t.events <+: t.payload
  stopped : t.Stopped
  result : result = .completed ∧ t.Completed kind ∨
    (result = .timeout ∨ result = .hardwareFault) ∧ t.Failed kind

/-- An event that is no write. -/
def Quiet (event : TxEvent) : Prop := ∀ nowUs offered answer, event ≠ .port nowUs (.write offered answer)

theorem quiet_stop (nowUs : UInt64) : Quiet (.port nowUs .stop) := fun _ _ _ heq => by cases heq

theorem Quiet.accepted {event : TxEvent} (h : Quiet event) : event.accepted = [] := by
  cases event with
  | port nowUs call =>
    cases call with
    | write offered answer => exact absurd rfl (h nowUs offered answer)
    | isComplete answer => rfl
    | stop => rfl
  | driverFault => rfl
  | polled nowUs => rfl
  | cancelled => rfl

theorem Quiet.since {event : TxEvent} (h : Quiet event) (sinceUs : UInt64) :
    sinceAfter kind sinceUs [event] = sinceUs := by
  cases event with
  | port nowUs call =>
    cases call with
    | write offered answer => exact absurd rfl (h nowUs offered answer)
    | isComplete answer => rfl
    | stop => rfl
  | driverFault => rfl
  | polled nowUs => rfl
  | cancelled => rfl

theorem acceptedOf_quiet {events : List TxEvent} (h : ∀ event ∈ events, Quiet event) :
    acceptedOf events = [] :=
  List.flatMap_eq_nil_iff.mpr fun event hevent => (h event hevent).accepted

theorem acceptedOf_concat {events : List TxEvent} {event : TxEvent} (h : Quiet event) :
    acceptedOf (events ++ [event]) = acceptedOf events := by
  have hlast : acceptedOf [event] = [] := acceptedOf_quiet (by simpa using h)
  rw [acceptedOf_append, hlast, List.append_nil]

/-- What is over stays as it is. -/
theorem Decided.extend {t : Transmission} {result : TxResult} (h : t.Decided kind result)
    {events : List TxEvent} (hquiet : ∀ event ∈ events, Quiet event) :
    (t.extend events).Decided kind result where
  closing := h.closing
  accepted := by
    rw [Transmission.extend, acceptedOf_append, acceptedOf_quiet hquiet, List.append_nil]
    exact h.accepted
  stopped := by
    obtain ⟨before, nowUs, after, hevents, hafter⟩ := h.stopped
    refine ⟨before, nowUs, after ++ events, ?_, fun n o a hmem => ?_⟩
    · rw [Transmission.extend, hevents]
      simp
    · rcases List.mem_append.mp hmem with hmem | hmem
      · exact hafter n o a hmem
      · exact hquiet _ hmem n o a rfl
  result := by
    rcases h.result with ⟨hresult, hcompleted⟩ | ⟨hresult, hfailed⟩
    · exact .inl ⟨hresult, hcompleted.extend events⟩
    · exact .inr ⟨hresult, hfailed.extend events⟩

theorem Decided.terminal {t : Transmission} {result : TxResult} (h : t.Decided kind result) :
    result.isTerminal = true := by
  rcases h.result with ⟨rfl, _⟩ | ⟨rfl | rfl, _⟩ <;> rfl

theorem Decided.completed_iff {t : Transmission} {result : TxResult} (h : t.Decided kind result) :
    result = .completed ↔ t.Completed kind := by
  rcases h.result with ⟨rfl, hcompleted⟩ | ⟨hresult, hfailed⟩
  · exact ⟨fun _ => hcompleted, fun _ => rfl⟩
  · constructor
    · rintro rfl
      rcases hresult with h | h <;> cases h
    · exact fun hcompleted => absurd hcompleted hfailed.not_completed

/-- Something goes wrong, and the port is stopped. -/
theorem Sending.fail {t : Transmission} {sent : ℕ} {sinceUs : UInt64}
    (h : t.Sending kind sent sinceUs) (event : TxEvent) {result : TxResult} (nowUs : UInt64)
    (hevent : ¬event.Clean sinceUs t.timeoutUs) (haccepted : event.accepted = [])
    (hresult : result = .timeout ∨ result = .hardwareFault) :
    (t.extend [event, .port nowUs .stop]).Decided kind result where
  closing := h.closing
  accepted := by
    rw [Transmission.extend, acceptedOf_append, h.accepted]
    have htail : acceptedOf [event, .port nowUs .stop] = [] := by
      rw [acceptedOf, List.flatMap_cons, haccepted]
      rfl
    rw [htail, List.append_nil]
    exact List.take_prefix _ _
  stopped := ⟨t.events ++ [event], nowUs, [], by simp [Transmission.extend], nofun⟩
  result := .inr ⟨hresult, t.events, event, [.port nowUs .stop], rfl, h.unfinished, by
    rw [← h.since] at hevent
    exact hevent⟩

/-- A quiet event that is clean and completes nothing. -/
theorem Sending.quiet {t : Transmission} {sent : ℕ} {sinceUs : UInt64}
    (h : t.Sending kind sent sinceUs) {event : TxEvent} (hquiet : Quiet event)
    (hclean : event.Clean sinceUs t.timeoutUs)
    (hopen : acceptedOf t.events = t.payload → ¬Drained kind (t.events ++ [event])) :
    (t.extend [event]).Sending kind sent sinceUs where
  closing := h.closing
  clean := clean_concat.mpr ⟨h.clean, by rw [← h.since] at hclean; exact hclean⟩
  since := by rw [Transmission.extend, sinceAfter_append, h.since, hquiet.since]
  accepted := (acceptedOf_concat hquiet).trans h.accepted
  sent := h.sent
  unfinished := h.unfinished.concat fun haccepted =>
    hopen ((acceptedOf_concat hquiet).symm.trans haccepted)

/-- What the port has taken after one more good answer. -/
theorem Sending.accepted_write {t : Transmission} {sent : ℕ} {sinceUs : UInt64} {answer : ℤ}
    (h : t.Sending kind sent sinceUs) (nowUs : UInt64) (hgood : Good (t.payload.drop sent) answer) :
    acceptedOf (t.events ++ [.port nowUs (.write (t.payload.drop sent) answer)])
      = t.payload.take (sent + answer.toNat) := by
  have hevent : acceptedOf [.port nowUs (.write (t.payload.drop sent) answer)]
      = (t.payload.drop sent).take answer.toNat := by
    rw [acceptedOf, List.flatMap_singleton]
    exact if_pos hgood
  rw [acceptedOf_append, h.accepted, hevent, List.take_add]

/-- The port takes more of the payload. -/
theorem Sending.written {t : Transmission} {sent : ℕ} {sinceUs : UInt64} {answer : ℤ}
    (h : t.Sending kind sent sinceUs) (nowUs : UInt64) (hgood : Good (t.payload.drop sent) answer)
    (hopen : sent + answer.toNat = t.payload.length → kind.drains = true) :
    (t.extend [.port nowUs (.write (t.payload.drop sent) answer)]).Sending kind
      (sent + answer.toNat) (if kind.renews then nowUs else sinceUs) where
  closing := h.closing
  clean := clean_concat.mpr ⟨h.clean, hgood⟩
  since := by
    rw [Transmission.extend, sinceAfter_append, h.since]
    rfl
  accepted := h.accepted_write nowUs hgood
  sent := by
    have hle := hgood.2
    have hsent := h.sent
    rw [List.length_drop] at hle
    show sent + answer.toNat ≤ t.payload.length
    omega
  unfinished := h.unfinished.concat fun haccepted hdrained => by
    have hlength := congrArg List.length haccepted
    have hle := hgood.2
    have hsent := h.sent
    rw [List.length_drop] at hle
    rw [h.accepted_write nowUs hgood, List.length_take] at hlength
    obtain ⟨_, _, _, hlast⟩ := hdrained (hopen (by omega))
    rw [List.getLast?_concat] at hlast
    cases hlast

/-- The last of the payload is accepted, and drained where it has to be. -/
theorem Sending.complete {t : Transmission} {sent : ℕ} {sinceUs : UInt64}
    (h : t.Sending kind sent sinceUs) (event : TxEvent) (nowUs : UInt64)
    (hclean : event.Clean sinceUs t.timeoutUs)
    (haccepted : acceptedOf (t.events ++ [event]) = t.payload)
    (hdrained : Drained kind (t.events ++ [event])) :
    (t.extend [event, .port nowUs .stop]).Decided kind .completed where
  closing := h.closing
  accepted := by
    have hsplit : t.events ++ [event, .port nowUs .stop]
        = (t.events ++ [event]) ++ [.port nowUs .stop] := by simp
    rw [Transmission.extend, hsplit, acceptedOf_concat (quiet_stop nowUs), haccepted]
  stopped := ⟨t.events ++ [event], nowUs, [], by simp [Transmission.extend], nofun⟩
  result := .inl ⟨rfl, t.events ++ [event], [.port nowUs .stop], by simp [Transmission.extend],
    clean_concat.mpr ⟨h.clean, by rw [← h.since] at hclean; exact hclean⟩, haccepted, hdrained⟩

/-- The transmission that a machine is in. -/
def Matches (kind : TxKind) (t : Transmission) : Sender → Prop
  | .idle => False
  | .pending payload sent sinceUs timeoutUs =>
    t.payload = payload ∧ t.timeoutUs = timeoutUs ∧ t.Sending kind sent sinceUs ∧
      (kind.drains = false → sent < payload.length)
  | .ended result length => length = t.payload.length ∧ t.Decided kind result

theorem extend_extend (t : Transmission) (events events' : List TxEvent) :
    (t.extend events).extend events' = t.extend (events ++ events') := by
  rw [extend, extend, extend, List.append_assoc]

theorem extend_nil (t : Transmission) : t.extend [] = t := by
  rw [extend, List.append_nil]

theorem matches_settle {t : Transmission} {sinceUs : UInt64}
    (h : t.Sending kind t.payload.length sinceUs) (hdrains : kind.drains = true) (nowUs : UInt64)
    (complete : ℤ) :
    (t.extend ((Sender.settle kind t.payload sinceUs t.timeoutUs complete).2.map
      (.port nowUs))).Matches kind
        (Sender.settle kind t.payload sinceUs t.timeoutUs complete).1 := by
  have haccepted : acceptedOf t.events = t.payload := by
    rw [h.accepted, List.take_length]
  have hquiet : Quiet (.port nowUs (.isComplete complete)) := fun _ _ _ heq => by cases heq
  rw [Sender.settle, if_pos hdrains]
  by_cases hfault : complete < 0
  · rw [if_pos hfault]
    exact ⟨rfl, h.fail (.port nowUs (.isComplete complete)) nowUs
      (Int.not_le.mpr hfault) rfl (.inr rfl)⟩
  rw [if_neg hfault]
  by_cases hdrained : 0 < complete
  · rw [if_pos hdrained]
    refine ⟨rfl, h.complete (.port nowUs (.isComplete complete)) nowUs (Int.not_lt.mp hfault)
      ((acceptedOf_concat hquiet).trans haccepted) fun _ => ⟨nowUs, complete, hdrained, ?_⟩⟩
    rw [List.getLast?_concat]
  · rw [if_neg hdrained]
    refine ⟨rfl, rfl, h.quiet hquiet (Int.not_lt.mp hfault) fun _ hd => ?_, fun hfalse => ?_⟩
    · obtain ⟨_, answer, hanswer, hlast⟩ := hd hdrains
      rw [List.getLast?_concat] at hlast
      cases hlast
      exact hdrained hanswer
    · rw [hdrains] at hfalse
      cases hfalse

/-- A writable callback. -/
theorem matches_writable {t : Transmission} {sent : ℕ} {sinceUs : UInt64}
    (h : t.Sending kind sent sinceUs) (hsent : kind.drains = false → sent < t.payload.length)
    (nowUs : UInt64) (written complete : ℤ) :
    (t.extend (((Sender.pending t.payload sent sinceUs t.timeoutUs).writable kind nowUs written
      complete).2.map (.port nowUs))).Matches kind
        ((Sender.pending t.payload sent sinceUs t.timeoutUs).writable kind nowUs written
          complete).1 := by
  rw [Sender.writable]
  by_cases hrest : sent < t.payload.length
  swap
  · have hall : sent = t.payload.length := Nat.le_antisymm h.sent (Nat.not_lt.mp hrest)
    have hdrains : kind.drains = true := by
      by_contra hnot
      exact hrest (hsent (Bool.eq_false_iff.mpr hnot))
    rw [if_neg hrest]
    subst hall
    exact matches_settle h hdrains nowUs complete
  rw [if_pos hrest, Sender.offer]
  by_cases hgood : Good (t.payload.drop sent) written
  swap
  · rw [if_pos hgood]
    refine ⟨rfl, h.fail (.port nowUs (.write (t.payload.drop sent) written)) nowUs hgood
      (if_neg hgood) (.inr rfl)⟩
  rw [if_neg (not_not.mpr hgood)]
  dsimp only
  by_cases hall : sent + written.toNat = t.payload.length
  swap
  · rw [if_neg hall]
    have hwritten := h.written nowUs hgood (fun heq => absurd heq hall)
    exact ⟨rfl, rfl, hwritten, fun _ => Nat.lt_of_le_of_ne hwritten.sent hall⟩
  rw [if_pos hall]
  by_cases hdrains : kind.drains = true
  · have hwritten := h.written nowUs hgood fun _ => hdrains
    rw [hall] at hwritten
    have hsettled := matches_settle hwritten hdrains nowUs complete
    rw [extend_extend] at hsettled
    exact hsettled
  · have haccepted : acceptedOf (t.events ++ [.port nowUs (.write (t.payload.drop sent) written)])
        = t.payload := by
      rw [h.accepted_write nowUs hgood, hall, List.take_length]
    rw [Sender.settle, if_neg hdrains]
    exact ⟨rfl, h.complete (.port nowUs (.write (t.payload.drop sent) written)) nowUs
      hgood haccepted fun hd => absurd hd hdrains⟩

end Transmission

/-! ## Whole runs -/

/-- Since when the timeout counts, while a transmission is under way. -/
def Sender.since? : Sender → Option UInt64
  | .pending _ _ sinceUs _ => some sinceUs
  | _ => none

/-- The history of a machine in this state. -/
structure TxSound (kind : TxKind) (h : TxHistory) (sender : Sender) : Prop where
  past : ∀ t ∈ h.past, t.Exact kind
  strayWrites : h.strayWrites = []
  strayReports : h.strayReports = []
  idle : h.current = none → sender = .idle
  current : ∀ t, h.current = some t → t.Matches kind sender

namespace TxSound

variable {h : TxHistory} {sender : Sender} {t : Transmission}

theorem init : TxSound kind {} .idle := ⟨nofun, rfl, rfl, fun _ => rfl, nofun⟩

theorem current_none (hs : TxSound kind h .idle) : h.current = none := by
  cases hcurrent : h.current with
  | none => rfl
  | some t => exact (hs.current t hcurrent).elim

/-- A call without a transmission, before and after. -/
theorem observe_idle (hs : TxSound kind h .idle) (op : TxOp) (output : TxOutput)
    (hcalls : output.calls.filter PortCall.isWrite = [])
    (hresult : output.result.toList.filter TxResult.isTerminal = []) :
    TxSound kind (h.observe op output) .idle := by
  rw [TxHistory.observe, hs.current_none]
  exact ⟨hs.past, by rw [hcalls, hs.strayWrites]; rfl, by rw [hresult, hs.strayReports]; rfl,
    fun _ => rfl, nofun⟩

/-- A call that goes on with the transmission. -/
theorem observe_current (hs : TxSound kind h sender) (hcurrent : h.current = some t) (op : TxOp)
    (output : TxOutput) {sender' : Sender} (hclosing : op.closing output = none)
    (hmatches : (t.extend (op.events output)).Matches kind sender') :
    TxSound kind (h.observe op output) sender' := by
  rw [TxHistory.observe, hcurrent]
  dsimp only
  rw [hclosing]
  exact ⟨hs.past, hs.strayWrites, hs.strayReports, nofun, fun t' ht' => by
    cases ht'
    exact hmatches⟩

/-- A call that ends the transmission. -/
theorem observe_closed (hs : TxSound kind h sender) (hcurrent : h.current = some t) (op : TxOp)
    (output : TxOutput) {closing : TxClosing} (hclosing : op.closing output = some closing)
    (hexact : Transmission.Exact kind { t.extend (op.events output) with closing := some closing }) :
    TxSound kind (h.observe op output) .idle := by
  rw [TxHistory.observe, hcurrent]
  dsimp only
  rw [hclosing]
  refine ⟨fun t' ht' => ?_, hs.strayWrites, hs.strayReports, fun _ => rfl, nofun⟩
  rcases List.mem_cons.mp ht' with rfl | ht'
  · exact hexact
  · exact hs.past t' ht'

theorem startNew (hs : TxSound kind h .idle) {data : List UInt8} (nowUs timeoutUs : UInt64)
    (hdata : data.length ≠ 0) :
    TxSound kind (h.startNew data nowUs timeoutUs) (.pending data 0 nowUs timeoutUs) := by
  have hpast : (h.startNew data nowUs timeoutUs).past = h.past := by
    rw [TxHistory.startNew, hs.current_none]
    rfl
  refine ⟨fun t ht => hs.past t (hpast ▸ ht), hs.strayWrites, hs.strayReports, nofun, ?_⟩
  intro t ht
  cases ht
  refine ⟨rfl, rfl, ⟨rfl, clean_nil, rfl, rfl, Nat.zero_le _, ?_⟩,
    fun _ => Nat.pos_of_ne_zero hdata⟩
  intro before hbefore haccepted
  rw [List.prefix_nil.mp hbefore] at haccepted
  exact absurd (congrArg List.length haccepted).symm hdata

end TxSound

namespace Transmission

/-- A transmission that is over is exact, whichever way it is closed. -/
theorem Decided.exact {t : Transmission} {result : TxResult} (h : t.Decided kind result)
    {closing : TxClosing} (hclosing : closing = .cancelled ∨
      ∃ bytesAccepted, closing = .reported result bytesAccepted ∧
        (kind.drains = true → bytesAccepted = if result = .completed then t.payload.length else 0)) :
    Exact kind { t with closing := some closing } where
  accepted := h.accepted
  stopped := h.stopped
  closing := by
    rcases hclosing with rfl | ⟨bytesAccepted, rfl, hbytes⟩
    · exact .inl rfl
    · exact .inr ⟨result, bytesAccepted, rfl, h.terminal, h.completed_iff, hbytes⟩

/-- A transmission that is cancelled under way. -/
theorem Sending.cancel {t : Transmission} {sent : ℕ} {sinceUs : UInt64}
    (h : t.Sending kind sent sinceUs) :
    Exact kind { t.extend [.cancelled, .port 0 .stop] with closing := some .cancelled } where
  accepted := (h.fail .cancelled 0 id rfl (.inr rfl)).accepted
  stopped := (h.fail .cancelled 0 id rfl (.inr rfl)).stopped
  closing := .inl rfl

end Transmission

namespace TxSound

variable {h : TxHistory} {sender : Sender}

/-- A failed start shows nothing. -/
theorem start_refused (hs : TxSound kind h sender) (data : Option (List UInt8))
    (nowUs timeoutUs : UInt64) (result : TxResult) (hresult : result.isTerminal = false) :
    TxSound kind (h.observe (.start data nowUs timeoutUs) { result := some result }) sender := by
  cases hcurrent : h.current with
  | none =>
    obtain rfl := hs.idle hcurrent
    exact hs.observe_idle _ _ rfl (by simp [hresult])
  | some t =>
    refine hs.observe_current hcurrent _ _ rfl ?_
    show (t.extend []).Matches kind sender
    rw [Transmission.extend_nil]
    exact hs.current t hcurrent

theorem step_start (hs : TxSound kind h sender) (data : Option (List UInt8))
    (nowUs timeoutUs : UInt64) :
    TxSound kind (h.record (.start data nowUs timeoutUs)
      (sender.step kind (.start data nowUs timeoutUs)).2)
        (sender.step kind (.start data nowUs timeoutUs)).1 := by
  cases data with
  | none => exact hs.start_refused none nowUs timeoutUs .invalidArgument rfl
  | some data =>
    rw [Sender.step]
    by_cases hinvalid : data.length = 0 ∨ kind.maxBytes < data.length ∨ timeoutUs = 0
    · have hrefused : sender.start kind data nowUs timeoutUs
          = (sender, { result := some .invalidArgument }) := by
        cases sender <;> exact if_pos hinvalid
      rw [hrefused]
      exact hs.start_refused (some data) nowUs timeoutUs .invalidArgument rfl
    have hbusy : sender ≠ .idle →
        sender.start kind data nowUs timeoutUs = (sender, { result := some .busy }) := by
      intro hsender
      cases sender with
      | idle => exact absurd rfl hsender
      | pending payload sent sinceUs timeout => exact if_neg hinvalid
      | ended result length => exact if_neg hinvalid
    by_cases hsender : sender = .idle
    · subst hsender
      rw [Sender.start, if_neg hinvalid]
      exact hs.startNew nowUs timeoutUs fun hzero => hinvalid (.inl hzero)
    · rw [hbusy hsender]
      exact hs.start_refused (some data) nowUs timeoutUs .busy rfl

theorem current_some (hs : TxSound kind h sender) (hsender : sender ≠ .idle) :
    ∃ t, h.current = some t ∧ t.Matches kind sender := by
  cases hcurrent : h.current with
  | none => exact absurd (hs.idle hcurrent) hsender
  | some t => exact ⟨t, rfl, hs.current t hcurrent⟩

theorem step_writable (hs : TxSound kind h sender) (nowUs : UInt64) (written complete : ℤ) :
    TxSound kind (h.observe (.writable nowUs written complete)
      (sender.step kind (.writable nowUs written complete)).2)
        (sender.step kind (.writable nowUs written complete)).1 := by
  cases sender with
  | idle => exact hs.observe_idle _ _ rfl rfl
  | pending payload sent sinceUs timeoutUs =>
    obtain ⟨t, hcurrent, rfl, rfl, hsending, hsent⟩ := hs.current_some nofun
    exact hs.observe_current hcurrent _ _ rfl
      (Transmission.matches_writable hsending hsent nowUs written complete)
  | ended result length =>
    obtain ⟨t, hcurrent, hlength, hdecided⟩ := hs.current_some nofun
    refine hs.observe_current hcurrent _ _ rfl ⟨hlength, hdecided.extend ?_⟩
    exact List.forall_mem_singleton.mpr (Transmission.quiet_stop nowUs)

theorem step_driverFault (hs : TxSound kind h sender) :
    TxSound kind (h.observe .driverFault (sender.step kind .driverFault).2)
      (sender.step kind .driverFault).1 := by
  cases sender with
  | idle => exact hs.observe_idle _ _ rfl rfl
  | pending payload sent sinceUs timeoutUs =>
    obtain ⟨t, hcurrent, rfl, rfl, hsending, hsent⟩ := hs.current_some nofun
    exact hs.observe_current hcurrent _ _ rfl
      ⟨rfl, hsending.fail .driverFault 0 id rfl (.inr rfl)⟩
  | ended result length =>
    obtain ⟨t, hcurrent, hlength, hdecided⟩ := hs.current_some nofun
    refine hs.observe_current hcurrent _ _ rfl ⟨hlength, hdecided.extend ?_⟩
    exact List.forall_mem_singleton.mpr fun _ _ _ heq => by cases heq

theorem step_cancel (hs : TxSound kind h sender) :
    TxSound kind (h.observe .cancel (sender.step kind .cancel).2) (sender.step kind .cancel).1 := by
  cases sender with
  | idle => exact hs.observe_idle _ _ rfl rfl
  | pending payload sent sinceUs timeoutUs =>
    obtain ⟨t, hcurrent, rfl, rfl, hsending, hsent⟩ := hs.current_some nofun
    exact hs.observe_closed hcurrent _ _ rfl hsending.cancel
  | ended result length =>
    obtain ⟨t, hcurrent, hlength, hdecided⟩ := hs.current_some nofun
    have hquiet : ∀ event ∈ [TxEvent.cancelled], Transmission.Quiet event :=
      List.forall_mem_singleton.mpr fun _ _ _ heq => by cases heq
    exact hs.observe_closed hcurrent _ _ rfl ((hdecided.extend hquiet).exact (.inl rfl))

/-- The clock has reached the timeout exactly when the subtraction of the clocks says so. -/
theorem timeout_iff {sinceUs nowUs : UInt64} (h : sinceUs ≤ nowUs) (timeoutUs : UInt64) :
    timeoutUs ≤ nowUs - sinceUs ↔ ¬nowUs.toNat < sinceUs.toNat + timeoutUs.toNat := by
  have hle : sinceUs.toNat ≤ nowUs.toNat := h
  rw [UInt64.le_iff_toNat_le, UInt64.toNat_sub_of_le _ _ h]
  omega

theorem step_poll (hs : TxSound kind h sender) (nowUs : UInt64)
    (hclock : ∀ sinceUs, sender.since? = some sinceUs → sinceUs ≤ nowUs) :
    TxSound kind (h.observe (.poll nowUs) (sender.step kind (.poll nowUs)).2)
      (sender.step kind (.poll nowUs)).1 := by
  have hquiet : Transmission.Quiet (.polled nowUs) := fun _ _ _ heq => by cases heq
  cases sender with
  | idle => exact hs.observe_idle _ _ rfl rfl
  | pending payload sent sinceUs timeoutUs =>
    obtain ⟨t, hcurrent, rfl, rfl, hsending, hsent⟩ := hs.current_some nofun
    have htimeout := timeout_iff (hclock sinceUs rfl) t.timeoutUs
    rw [Sender.step, Sender.poll]
    by_cases hlate : t.timeoutUs ≤ nowUs - sinceUs
    · rw [if_pos hlate]
      have hfailed := hsending.fail (.polled nowUs) nowUs (htimeout.mp hlate) rfl
        (.inl rfl : TxResult.timeout = .timeout ∨ TxResult.timeout = .hardwareFault)
      exact hs.observe_closed hcurrent _ _ rfl (hfailed.exact (.inr ⟨0, rfl, fun _ => rfl⟩))
    · rw [if_neg hlate]
      have hclean : nowUs.toNat < sinceUs.toNat + t.timeoutUs.toNat :=
        not_not.mp fun hnot => hlate (htimeout.mpr hnot)
      refine hs.observe_current hcurrent _ _ rfl ⟨rfl, rfl, ?_, hsent⟩
      refine hsending.quiet hquiet hclean fun haccepted hdrained => ?_
      cases hdrains : kind.drains with
      | true =>
        obtain ⟨_, _, _, hlast⟩ := hdrained hdrains
        rw [List.getLast?_concat] at hlast
        cases hlast
      | false =>
        have hlength := congrArg List.length (hsending.accepted.symm.trans haccepted)
        have hlt := hsent hdrains
        rw [List.length_take] at hlength
        omega
  | ended result length =>
    obtain ⟨t, hcurrent, hlength, hdecided⟩ := hs.current_some nofun
    have hextended := hdecided.extend (List.forall_mem_singleton.mpr hquiet)
    have hclosing : (TxOp.poll nowUs).closing ((Sender.ended result length).step kind (.poll nowUs)).2
        = some (.reported result (if kind.drains ∧ result = .completed then length else 0)) :=
      if_pos hdecided.terminal
    refine hs.observe_closed hcurrent _ _ hclosing (hextended.exact (.inr ⟨_, rfl, fun hdrains => ?_⟩))
    rw [hlength]
    simp [hdrains, Transmission.extend]

/-- Every call keeps the history sound. -/
theorem step (hs : TxSound kind h sender) (op : TxOp)
    (hclock : ∀ sinceUs, sender.since? = some sinceUs → ∀ nowUs ∈ op.clock? kind, sinceUs ≤ nowUs) :
    TxSound kind (h.record op (sender.step kind op).2) (sender.step kind op).1 := by
  cases op with
  | start data nowUs timeoutUs => exact hs.step_start data nowUs timeoutUs
  | writable nowUs written complete => exact hs.step_writable nowUs written complete
  | driverFault => exact hs.step_driverFault
  | cancel => exact hs.step_cancel
  | poll nowUs => exact hs.step_poll nowUs fun sinceUs hsince => hclock sinceUs hsince nowUs rfl

end TxSound

/-- Where the time that a timeout counts from was read. -/
theorem Sender.step_since (sender : Sender) (op : TxOp) {sinceUs : UInt64}
    (h : (sender.step kind op).1.since? = some sinceUs) :
    sender.since? = some sinceUs ∨ op.clock? kind = some sinceUs := by
  cases op with
  | start data nowUs timeoutUs =>
    cases data with
    | none => exact .inl h
    | some data =>
      cases sender with
      | idle =>
        rw [Sender.step, Sender.start] at h
        split at h
        · cases h
        · exact .inr h
      | pending payload sent since timeout =>
        rw [Sender.step, Sender.start] at h
        · split at h <;> exact .inl h
        · exact nofun
      | ended result length =>
        rw [Sender.step, Sender.start] at h
        · split at h <;> cases h
        · exact nofun
  | writable nowUs written complete =>
    cases sender with
    | idle => cases h
    | ended result length => cases h
    | pending payload sent since timeout =>
      have hsettle : ∀ since, (Sender.settle kind payload since timeout complete).1.since?
          = some sinceUs → since = sinceUs := by
        intro since hs
        unfold Sender.settle at hs
        split at hs
        · split at hs
          · cases hs
          split at hs
          · cases hs
          · exact Option.some.inj hs
        · cases hs
      have hrenewed : (if kind.renews then nowUs else since) = sinceUs →
          some since = some sinceUs ∨ (TxOp.writable nowUs written complete).clock? kind
            = some sinceUs := by
        intro heq
        rw [TxOp.clock?]
        by_cases hrenews : kind.renews = true
        · rw [if_pos hrenews] at heq ⊢
          exact .inr (congrArg some heq)
        · rw [if_neg hrenews] at heq
          exact .inl (congrArg some heq)
      unfold Sender.step Sender.writable at h
      dsimp only at h
      split at h
      · unfold Sender.offer at h
        dsimp only at h
        split at h
        · cases h
        split at h
        · exact hrenewed (hsettle _ h)
        · exact hrenewed (Option.some.inj h)
      · exact .inl (congrArg some (hsettle _ h))
  | driverFault => cases sender <;> cases h
  | cancel => cases sender <;> cases h
  | poll nowUs =>
    cases sender with
    | idle => cases h
    | ended result length => cases h
    | pending payload sent since timeout =>
      rw [Sender.step, Sender.poll] at h
      split at h
      · cases h
      · exact .inl h

/-- No clock that is still to be read is before the time a timeout counts from. -/
def Sender.Before (kind : TxKind) (sender : Sender) (ops : List TxOp) : Prop :=
  ∀ sinceUs, sender.since? = some sinceUs →
    ∀ nowUs ∈ ops.filterMap (TxOp.clock? kind), sinceUs ≤ nowUs

theorem Sender.Before.step {sender : Sender} {op : TxOp} {ops : List TxOp}
    (h : sender.Before kind (op :: ops)) (hmonotone : ClocksMonotone kind (op :: ops)) :
    (∀ sinceUs, sender.since? = some sinceUs → ∀ nowUs ∈ op.clock? kind, sinceUs ≤ nowUs) ∧
      (sender.step kind op).1.Before kind ops ∧ ClocksMonotone kind ops := by
  rw [ClocksMonotone, List.filterMap_cons] at hmonotone
  rw [Before, List.filterMap_cons] at h
  cases hop : op.clock? kind with
  | none =>
    rw [hop] at hmonotone h
    refine ⟨nofun, fun sinceUs hsince => ?_, hmonotone⟩
    rcases sender.step_since op hsince with hold | hnew
    · exact h sinceUs hold
    · rw [hop] at hnew
      cases hnew
  | some now =>
    rw [hop] at hmonotone h
    obtain ⟨hfirst, hmonotone⟩ := List.pairwise_cons.mp hmonotone
    refine ⟨fun sinceUs hsince nowUs hnow => ?_, fun sinceUs hsince later hlater => ?_, hmonotone⟩
    · cases hnow
      exact h sinceUs hsince now List.mem_cons_self
    · rcases sender.step_since op hsince with hold | hnew
      · exact h sinceUs hold later (List.mem_cons_of_mem _ hlater)
      · rw [hop] at hnew
        cases hnew
        exact hfirst later hlater

/-- Any calls keep the history sound. -/
theorem TxSound.run {h : TxHistory} {sender : Sender} (hs : TxSound kind h sender)
    (ops later : List TxOp) (hmonotone : ClocksMonotone kind (ops ++ later))
    (hbefore : sender.Before kind (ops ++ later)) :
    TxSound kind (txHistory (Sender.step kind) sender h ops) (txState (Sender.step kind) sender ops) ∧
      (txState (Sender.step kind) sender ops).Before kind later := by
  induction ops generalizing h sender with
  | nil => exact ⟨hs, hbefore⟩
  | cons op ops ih =>
    obtain ⟨hclock, hbefore, hmonotone⟩ := hbefore.step hmonotone
    exact ih (hs.step op hclock) hmonotone hbefore

/-- A poll that comes late enough ends the transmission. -/
theorem TxSound.poll_late {h : TxHistory} {sender : Sender} (hs : TxSound kind h sender)
    {t : Transmission} (hcurrent : h.current = some t) {nowUs : UInt64}
    (hbefore : sender.Before kind [.poll nowUs])
    (hlate : (sinceAfter kind t.startedUs t.events).toNat + t.timeoutUs.toNat ≤ nowUs.toNat) :
    (h.record (.poll nowUs) (sender.step kind (.poll nowUs)).2).current = none := by
  have hclosed : ∀ closing, (TxOp.poll nowUs).closing (sender.step kind (.poll nowUs)).2
      = some closing → (h.observe (.poll nowUs) (sender.step kind (.poll nowUs)).2).current = none := by
    intro closing hclosing
    rw [TxHistory.observe, hcurrent]
    dsimp only
    rw [hclosing]
  have hmatches := hs.current t hcurrent
  cases sender with
  | idle => exact hmatches.elim
  | ended result length => exact hclosed _ (if_pos hmatches.2.terminal)
  | pending payload sent sinceUs timeoutUs =>
    obtain ⟨rfl, rfl, hsending, _⟩ := hmatches
    have hle : sinceUs ≤ nowUs := hbefore sinceUs rfl nowUs List.mem_cons_self
    rw [hsending.since] at hlate
    have htimeout := (TxSound.timeout_iff hle t.timeoutUs).mpr (Nat.not_lt.mpr hlate)
    refine hclosed (.reported .timeout 0) ?_
    rw [Sender.step, Sender.poll, if_pos htimeout]
    rfl

end Exactness

/-! ## Machines that refine it -/

/-- What holds of every run of a machine. -/
structure ExactTransmitter {M : Type} (kind : TxKind) (step : M → TxOp → M × TxOutput) (init : M) :
    Prop where
  /-- transmissions over are exact, the one under way has sent an initial part, and nothing is
  written or reported outside of them -/
  exact : ∀ ops, ClocksMonotone kind ops →
    (∀ t ∈ (txHistory step init {} ops).past, t.Exact kind) ∧
      (∀ t, (txHistory step init {} ops).current = some t → t.Ongoing) ∧
      (txHistory step init {} ops).strayWrites = [] ∧
      (txHistory step init {} ops).strayReports = []
  /-- a poll that comes late enough ends the transmission -/
  reported : ∀ ops nowUs, ClocksMonotone kind (ops ++ [.poll nowUs]) →
    ∀ t, (txHistory step init {} ops).current = some t →
      (sinceAfter kind t.startedUs t.events).toNat + t.timeoutUs.toNat ≤ nowUs.toNat →
      (txHistory step init {} (ops ++ [.poll nowUs])).current = none
  /-- without a transmission the machine goes on as if nothing had been sent before -/
  fresh : ∀ ops later, ClocksMonotone kind ops → (txHistory step init {} ops).current = none →
    txOutputs step (txState step init ops) later = txOutputs step init later

theorem txHistory_append {M : Type} (step : M → TxOp → M × TxOutput) (m : M) (h : TxHistory)
    (ops ops' : List TxOp) :
    txHistory step m h (ops ++ ops') = txHistory step (txState step m ops)
      (txHistory step m h ops) ops' := by
  induction ops generalizing m h with
  | nil => rfl
  | cons op ops ih => exact ih _ _

/-- A machine whose steps are those of a sender. -/
structure TxRefines {M : Type} (kind : TxKind) (step : M → TxOp → M × TxOutput)
    (rel : M → Sender → Prop) : Prop where
  next : ∀ {m sender}, rel m sender → ∀ op, rel (step m op).1 (sender.step kind op).1
  output : ∀ {m sender}, rel m sender → ∀ op, (step m op).2 = (sender.step kind op).2

namespace TxRefines

variable {M : Type} {kind : TxKind} {step : M → TxOp → M × TxOutput} {rel : M → Sender → Prop}

theorem history (hrefines : TxRefines kind step rel) {m : M} {sender : Sender} (hrel : rel m sender)
    (h : TxHistory) (ops : List TxOp) :
    txHistory step m h ops = txHistory (Sender.step kind) sender h ops ∧
      rel (txState step m ops) (txState (Sender.step kind) sender ops) := by
  induction ops generalizing m sender h with
  | nil => exact ⟨rfl, hrel⟩
  | cons op ops ih =>
    obtain ⟨hhistory, hstate⟩ :=
      ih (hrefines.next hrel op) (h.record op (sender.step kind op).2)
    refine ⟨?_, hstate⟩
    rw [txHistory, txHistory, hrefines.output hrel op, hhistory]

theorem outputs (hrefines : TxRefines kind step rel) {m : M} {sender : Sender} (hrel : rel m sender)
    (ops : List TxOp) : txOutputs step m ops = txOutputs (Sender.step kind) sender ops := by
  induction ops generalizing m sender with
  | nil => rfl
  | cons op ops ih =>
    rw [txOutputs, txOutputs, hrefines.output hrel op, ih (hrefines.next hrel op)]

theorem exactTransmitter (hrefines : TxRefines kind step rel) {init : M} (hinit : rel init .idle) :
    ExactTransmitter kind step init := by
  have hsound : ∀ ops later, ClocksMonotone kind (ops ++ later) →
      TxSound kind (txHistory step init {} ops) (txState (Sender.step kind) .idle ops) ∧
        (txState (Sender.step kind) .idle ops).Before kind later := by
    intro ops later hmonotone
    rw [(hrefines.history hinit {} ops).1]
    exact TxSound.init.run ops later hmonotone nofun
  refine ⟨fun ops hmonotone => ?_, fun ops nowUs hmonotone t hcurrent hlate => ?_,
    fun ops later hmonotone hcurrent => ?_⟩
  · obtain ⟨hs, _⟩ := hsound ops [] (by rwa [List.append_nil])
    refine ⟨hs.past, fun t ht => ?_, hs.strayWrites, hs.strayReports⟩
    have hmatches := hs.current t ht
    cases hsender : txState (Sender.step kind) .idle ops with
    | idle =>
      rw [hsender] at hmatches
      exact hmatches.elim
    | pending payload sent sinceUs timeoutUs =>
      rw [hsender] at hmatches
      obtain ⟨_, _, hsending, _⟩ := hmatches
      exact ⟨hsending.accepted ▸ List.take_prefix _ _, hsending.closing⟩
    | ended result length =>
      rw [hsender] at hmatches
      exact ⟨hmatches.2.accepted, hmatches.2.closing⟩
  · obtain ⟨hs, hbefore⟩ := hsound ops [.poll nowUs] hmonotone
    rw [txHistory_append, txHistory, txHistory,
      hrefines.output (hrefines.history hinit {} ops).2 (.poll nowUs)]
    exact hs.poll_late hcurrent hbefore hlate
  · obtain ⟨hs, _⟩ := hsound ops [] (by rwa [List.append_nil])
    have hstate := (hrefines.history hinit {} ops).2
    rw [hs.idle hcurrent] at hstate
    rw [hrefines.outputs hstate, hrefines.outputs hinit]

end TxRefines
