/-
# The wait loop of a bounded operation

`DeviceCoreRuntime._run_bounded_operation` waits for a match while two other things go
on: the recorder publishes durable evidence, and the status clock runs towards the
operation's deadline.  Both are steps of the environment here, and may come between any
two steps of the waiting thread, so a pass of reading and matching takes as long as the
environment likes.

The loop asks the clock before it asks for the tail.  `timeout_sound_iff` says what that
costs: of all the evidence published before the deadline, `timeout` can be wrong about
the lines the loop had not read when its deadline check failed, and about no others.
-/
import DutchMate.EvidenceRecord
import DutchMate.MonitorRun
import Mathlib.Algebra.Order.Ring.Rat

/-! ## What the waiting thread sees of the recorder -/

inductive RecorderState
  | connected | reconnecting | disconnected | faulted | closed | released | reacquiring
  deriving DecidableEq, Repr

/-- Last durably published position in one active ownership session. -/
abbrev DurableEvidenceTail := EvidenceCursor

def tailIsAfter (current previous : DurableEvidenceTail) : Bool :=
  current.sessionId != previous.sessionId
    || decide (previous.nextEvidenceSeq < current.nextEvidenceSeq)

/-- What one admission made durable: the position after it and the UART evidence in it. -/
structure DurableUnit where
  position : DurableEvidenceTail
  evidence : List MonitorEvidence
  deriving DecidableEq, Repr

/-- The journal since an operation started, its own start record first. -/
abbrev DurableJournal := List DurableUnit

namespace DurableJournal

def indexOf (journal : DurableJournal) (position : DurableEvidenceTail) : Option ℕ :=
  journal.findIdx? (·.position == position)

/-- The UART evidence of the first `n` units. -/
def evidence (journal : DurableJournal) (n : ℕ) : List MonitorEvidence :=
  (journal.take n).flatMap (·.evidence)

/-- The UART evidence of the units from the `m`-th up to the `n`-th. -/
def evidenceBetween (journal : DurableJournal) (m n : ℕ) : List MonitorEvidence :=
  ((journal.take n).drop m).flatMap (·.evidence)

/-- `MonitorEvidenceReader.read_to`: the evidence after one position up to another.  A
position that cannot be reached going forward is an error. -/
def readTo (journal : DurableJournal) (cursor finish : DurableEvidenceTail) :
    Option (List MonitorEvidence) :=
  match journal.indexOf cursor, journal.indexOf finish with
  | some i, some j => if i ≤ j then some (journal.evidenceBetween (i + 1) (j + 1)) else none
  | _, _ => none

end DurableJournal

/-! ## The operation -/

inductive MonitorOutcome
  | elapsed | matched | timeout | disconnected | released | cancelled | error
  deriving DecidableEq, Repr

inductive MonitorMode
  | duration | conditions
  deriving DecidableEq, Repr

/-- The completion mode, and the conditions of a conditional request. -/
structure MonitorRequest where
  mode : MonitorMode
  conditions : List MonitorCondition
  deriving DecidableEq, Repr

/-- Where the waiting thread stands. -/
inductive WaitPoint
  | starting
  | checkingCancellation
  | checkingState
  | checkingDeadline (recorderState : RecorderState)
  | waiting (timeout : ℚ)
  | reading (tail : DurableEvidenceTail)
  | matching (evidence : List MonitorEvidence)
  | completing (outcome : MonitorOutcome) (found : Option MonitorMatch)
  | returned (outcome : MonitorOutcome) (found : Option MonitorMatch)
  | raised
  deriving DecidableEq

/-- A bounded operation with what it shares with the rest of the runtime.  `timely`
counts the journal's units that were visible in the tail before the deadline. -/
structure BoundedOperation where
  request : MonitorRequest
  incompleteChannels : Finset LineKey
  deadline : ℚ
  clock : ℚ
  journal : DurableJournal
  tail : DurableEvidenceTail
  timely : ℕ
  recorderState : RecorderState
  cancellation : Bool
  terminal : Option MonitorOutcome
  cursor : DurableEvidenceTail
  matcher : Option MonitorMatcher
  point : WaitPoint

namespace BoundedOperation

/-- The operation right after `start_monitor_operation` returned its start cursor. -/
def start (request : MonitorRequest) (incompleteChannels : Finset LineKey) (deadline clock : ℚ)
    (startCursor : EvidenceCursor) : BoundedOperation where
  request := request
  incompleteChannels := incompleteChannels
  deadline := deadline
  clock := clock
  journal := [⟨startCursor, []⟩]
  tail := startCursor
  timely := 0
  recorderState := .connected
  cancellation := false
  terminal := none
  cursor := startCursor
  matcher := none
  point := .starting

/-- The slice of 50 ms the loop waits for a newer tail. -/
def waitSlice : ℚ := 1 / 20

/-- The next step of the waiting thread; `none` where it blocks or has ended. -/
def advance (s : BoundedOperation) : Option BoundedOperation :=
  match s.point with
  | .starting =>
    match s.request.mode with
    | .duration => some { s with point := .checkingCancellation }
    | .conditions =>
      match MonitorMatcher.new s.request.conditions s.incompleteChannels with
      | .ok matcher => some { s with matcher := some matcher, point := .checkingCancellation }
      | .error _ => some { s with point := .raised }
  | .checkingCancellation =>
    if s.cancellation then some { s with point := .completing .cancelled none }
    else some { s with point := .checkingState }
  | .checkingState =>
    match s.recorderState with
    | .disconnected => some { s with point := .completing .disconnected none }
    | .released => some { s with point := .completing .released none }
    | .reacquiring => some { s with point := .completing .released none }
    | .faulted => some { s with point := .raised }
    | state => some { s with point := .checkingDeadline state }
  | .checkingDeadline recorderState =>
    let remaining := s.deadline - s.clock
    if remaining ≤ 0 then
      let outcome :=
        if recorderState = .reconnecting then .disconnected
        else if s.request.mode = .duration then .elapsed
        else .timeout
      some { s with point := .completing outcome none }
    else some { s with point := .waiting (min remaining waitSlice) }
  | .waiting _ =>
    if tailIsAfter s.tail s.cursor then some { s with point := .reading s.tail } else none
  | .reading tail =>
    match s.journal.readTo s.cursor tail with
    | some evidence => some { s with cursor := tail, point := .matching evidence }
    | none => some { s with point := .raised }
  | .matching evidence =>
    match s.matcher with
    | none => some { s with point := .checkingCancellation }
    | some matcher =>
      match matcher.process evidence with
      | .ok (some found, matcher') =>
        some { s with matcher := some matcher', point := .completing .matched (some found) }
      | .ok (none, matcher') =>
        some { s with matcher := some matcher', point := .checkingCancellation }
      | .error _ => some { s with point := .raised }
  | .completing outcome found =>
    -- a record another party wrote first is the one that is returned
    let recorded := s.terminal.getD outcome
    some { s with terminal := some recorded, point := .returned recorded found }
  | .returned _ _ => none
  | .raised => none

/-- Steps of the waiting thread (the last three) and of its environment. -/
inductive WaitStep
  | tick (clock : ℚ)
  | append (admitted : DurableUnit)
  | publish (index : ℕ)
  | recorder (state : RecorderState)
  | cancel
  | terminalize (outcome : MonitorOutcome)
  | advance
  | expire
  | fail

/-- What one step does; `none` where it is not enabled. -/
def step (s : BoundedOperation) : WaitStep → Option BoundedOperation
  | .tick clock => if s.clock ≤ clock then some { s with clock := clock } else none
  | .append admitted =>
    if s.journal.indexOf admitted.position = none then
      some { s with journal := s.journal ++ [admitted] }
    else none
  | .publish index =>
    (s.journal[index]?).map fun published =>
      { s with
        tail := published.position
        timely := if s.clock < s.deadline then max s.timely (index + 1) else s.timely }
  | .recorder state => some { s with recorderState := state }
  | .cancel => some { s with cancellation := true }
  | .terminalize outcome =>
    -- the reconnect deadline and a fatal fault end operations of other threads
    if s.terminal = none ∧ (outcome = .disconnected ∨ outcome = .error) then
      some { s with terminal := some outcome }
    else none
  | .advance => s.advance
  | .expire =>
    match s.point with
    | .waiting _ =>
      if tailIsAfter s.tail s.cursor then none
      else some { s with point := .checkingCancellation }
    | _ => none
  | .fail =>
    match s.point with
    | .returned _ _ => none
    | _ => some { s with point := .raised }

def run (s : BoundedOperation) (steps : List WaitStep) : Option BoundedOperation :=
  steps.foldlM step s

/-! ## What a state says about lines -/

/-- How many units of the journal the loop has read. -/
def readCount (s : BoundedOperation) : ℕ := (s.journal.indexOf s.cursor).elim 0 (· + 1)

/-- The evidence that was visible in the tail before the deadline. -/
def timelyEvidence (s : BoundedOperation) : List MonitorEvidence := s.journal.evidence s.timely

/-- The evidence the loop has read. -/
def readEvidence (s : BoundedOperation) : List MonitorEvidence := s.journal.evidence s.readCount

/-- The timely evidence the loop has not read. -/
def unreadEvidence (s : BoundedOperation) : List MonitorEvidence :=
  s.journal.evidenceBetween s.readCount s.timely

/-- No line that timely evidence completed contains a condition. -/
def NoTimelyMatch (s : BoundedOperation) : Prop :=
  referenceMatch s.request.conditions s.incompleteChannels s.timelyEvidence = none

instance (s : BoundedOperation) : Decidable s.NoTimelyMatch :=
  inferInstanceAs (Decidable (_ = none))

/-- No line that unread timely evidence completed contains a condition. -/
def NoUnreadMatch (s : BoundedOperation) : Prop :=
  ∀ p ∈ furtherLines s.incompleteChannels s.readEvidence s.unreadEvidence,
    referenceLine s.request.conditions p.1 p.2 = none

end BoundedOperation

/-! ## The journal only grows -/

namespace DurableJournal

theorem indexOf_append {journal : DurableJournal} {position : DurableEvidenceTail} {i : ℕ}
    (h : journal.indexOf position = some i) (added : DurableUnit) :
    indexOf (journal ++ [added]) position = some i := by
  rw [indexOf, List.findIdx?_append, ← indexOf, h]
  rfl

theorem lt_of_indexOf {journal : DurableJournal} {position : DurableEvidenceTail} {i : ℕ}
    (h : journal.indexOf position = some i) : i < journal.length := by
  obtain ⟨hlt, _⟩ := List.findIdx?_eq_some_iff_getElem.mp h
  exact hlt

theorem evidence_append {journal : DurableJournal} {n : ℕ} (h : n ≤ journal.length)
    (added : DurableUnit) : evidence (journal ++ [added]) n = journal.evidence n := by
  rw [evidence, evidence, List.take_append_of_le_length h]

/-- Evidence up to a later point is the evidence up to an earlier one and that between. -/
theorem evidence_split (journal : DurableJournal) {m n : ℕ} (h : m ≤ n) :
    journal.evidence n = journal.evidence m ++ journal.evidenceBetween m n := by
  have htake : (journal.take n).take m = journal.take m := by
    rw [List.take_take, Nat.min_eq_left h]
  have hparts : journal.take n = journal.take m ++ (journal.take n).drop m := by
    rw [← htake, List.take_append_drop]
  rw [evidence, evidence, evidenceBetween, ← List.flatMap_append, ← hparts]

theorem evidenceBetween_of_le (journal : DurableJournal) {m n : ℕ} (h : n ≤ m) :
    journal.evidenceBetween m n = [] := by
  have hdrop : (journal.take n).drop m = [] := by
    apply List.drop_of_length_le
    rw [List.length_take]
    omega
  rw [evidenceBetween, hdrop]
  rfl

end DurableJournal

/-! ## What the loop has searched -/

/-- The reference finds nothing in some evidence and more exactly if it finds nothing in
the first and no line the rest completes contains a condition. -/
theorem referenceMatch_append (conditions : List MonitorCondition) (incomplete : Finset LineKey)
    (done more : List MonitorEvidence) :
    referenceMatch conditions incomplete (done ++ more) = none ↔
      referenceMatch conditions incomplete done = none ∧
        ∀ p ∈ furtherLines incomplete done more, referenceLine conditions p.1 p.2 = none := by
  have hline : ∀ evidence, referenceMatch conditions incomplete evidence
      = (completedLines incomplete evidence).findSome? fun p =>
          referenceLine conditions p.1 p.2 := fun _ => rfl
  rw [hline, hline, completedLines_append, List.findSome?_append]
  simp only [Option.or_eq_none_iff, List.findSome?_eq_none_iff]

namespace BoundedOperation

/-- The matcher has been through `done` and found nothing. -/
def Searched (s : BoundedOperation) (done : List MonitorEvidence) : Prop :=
  ∃ matcher, s.matcher = some matcher ∧
    Tracks s.request.conditions s.incompleteChannels done matcher ∧
    referenceMatch s.request.conditions s.incompleteChannels done = none

/-- What holds of the waiting thread at each point of a conditional operation. -/
def SearchedAt (s : BoundedOperation) : Prop :=
  match s.point with
  | .starting => s.readEvidence = []
  | .matching evidence => ∃ done, s.readEvidence = done ++ evidence ∧ s.Searched done
  | .completing outcome _ => outcome ≠ .matched → s.Searched s.readEvidence
  | .returned outcome _ => outcome = .timeout → s.Searched s.readEvidence
  | .raised => True
  | _ => s.Searched s.readEvidence

/-- The loop's invariant: its cursor is a position of the journal, and it has searched
what it has read. -/
structure LoopInvariant (request : MonitorRequest) (incompleteChannels : Finset LineKey)
    (s : BoundedOperation) : Prop where
  request_eq : s.request = request
  incompleteChannels_eq : s.incompleteChannels = incompleteChannels
  cursor : ∃ i, s.journal.indexOf s.cursor = some i
  terminal : s.terminal = some .timeout → ∃ outcome found, s.point = .returned outcome found
  searched : s.SearchedAt

variable {request : MonitorRequest} {incompleteChannels : Finset LineKey}
  {s s' : BoundedOperation}

/-- `SearchedAt` only looks at the waiting thread's own variables and at what it has read. -/
theorem SearchedAt.of_eq (h : s.SearchedAt) (hpoint : s'.point = s.point)
    (hmatcher : s'.matcher = s.matcher) (hrequest : s'.request = s.request)
    (hincomplete : s'.incompleteChannels = s.incompleteChannels)
    (hread : s'.readEvidence = s.readEvidence) : s'.SearchedAt := by
  have hsearched : ∀ done, s.Searched done → s'.Searched done := by
    rintro done ⟨matcher, hm, htracks, hnone⟩
    refine ⟨matcher, hmatcher.trans hm, ?_, ?_⟩
    · rw [hrequest, hincomplete]
      exact htracks
    · rw [hrequest, hincomplete]
      exact hnone
  revert h
  rw [SearchedAt, SearchedAt, hpoint, hread]
  cases s.point with
  | starting => exact id
  | matching evidence => exact fun ⟨done, hdone, h⟩ => ⟨done, hdone, hsearched done h⟩
  | completing outcome found => exact fun h hne => hsearched _ (h hne)
  | returned outcome found => exact fun h htimeout => hsearched _ (h htimeout)
  | raised => exact id
  | checkingCancellation => exact hsearched _
  | checkingState => exact hsearched _
  | checkingDeadline _ => exact hsearched _
  | waiting _ => exact hsearched _
  | reading _ => exact hsearched _

/-- What the loop has read does not change when the journal grows. -/
theorem LoopInvariant.readEvidence_append (h : LoopInvariant request incompleteChannels s)
    (admitted : DurableUnit) :
    readEvidence { s with journal := s.journal ++ [admitted] } = s.readEvidence := by
  obtain ⟨i, hi⟩ := h.cursor
  have hlt : i + 1 ≤ s.journal.length := DurableJournal.lt_of_indexOf hi
  rw [readEvidence, readEvidence, readCount, readCount, hi,
    DurableJournal.indexOf_append hi admitted]
  exact DurableJournal.evidence_append hlt admitted

/-- A step that touches none of the waiting thread's variables keeps the invariant. -/
theorem LoopInvariant.frame (h : LoopInvariant request incompleteChannels s)
    (hpoint : s'.point = s.point) (hmatcher : s'.matcher = s.matcher)
    (hrequest : s'.request = s.request)
    (hincomplete : s'.incompleteChannels = s.incompleteChannels)
    (hcursor : s'.cursor = s.cursor) (hjournal : s'.journal = s.journal)
    (hterminal : s'.terminal = some .timeout → s.terminal = some .timeout) :
    LoopInvariant request incompleteChannels s' where
  request_eq := hrequest.trans h.request_eq
  incompleteChannels_eq := hincomplete.trans h.incompleteChannels_eq
  cursor := by
    rw [hjournal, hcursor]
    exact h.cursor
  terminal htimeout := by
    rw [hpoint]
    exact h.terminal (hterminal htimeout)
  searched := by
    apply h.searched.of_eq hpoint hmatcher hrequest hincomplete
    rw [readEvidence, readEvidence, readCount, readCount, hjournal, hcursor]

theorem LoopInvariant.append (h : LoopInvariant request incompleteChannels s)
    (admitted : DurableUnit) :
    LoopInvariant request incompleteChannels
      { s with journal := s.journal ++ [admitted] } where
  request_eq := h.request_eq
  incompleteChannels_eq := h.incompleteChannels_eq
  cursor := by
    obtain ⟨i, hi⟩ := h.cursor
    exact ⟨i, DurableJournal.indexOf_append hi admitted⟩
  terminal := h.terminal
  searched := h.searched.of_eq rfl rfl rfl rfl (h.readEvidence_append admitted)

/-- The waiting thread moves on without reading: only its point changes. -/
theorem LoopInvariant.moveTo (h : LoopInvariant request incompleteChannels s)
    (hopen : s.terminal ≠ some .timeout) (point : WaitPoint)
    (hsearched : SearchedAt { s with point := point }) :
    LoopInvariant request incompleteChannels { s with point := point } where
  request_eq := h.request_eq
  incompleteChannels_eq := h.incompleteChannels_eq
  cursor := h.cursor
  terminal htimeout := absurd htimeout hopen
  searched := hsearched

/-- Reading up to a tail the journal has adds the evidence between to what was read. -/
theorem readEvidence_readTo {tail : DurableEvidenceTail} {evidence : List MonitorEvidence}
    (h : s.journal.readTo s.cursor tail = some evidence) (point : WaitPoint) :
    (∃ j, s.journal.indexOf tail = some j) ∧
      readEvidence { s with cursor := tail, point := point } = s.readEvidence ++ evidence := by
  rw [DurableJournal.readTo] at h
  cases hi : s.journal.indexOf s.cursor with
  | none => simp [hi] at h
  | some i =>
    cases hj : s.journal.indexOf tail with
    | none => simp [hi, hj] at h
    | some j =>
      simp only [hi, hj] at h
      split at h
      · rename_i hle
        refine ⟨⟨j, rfl⟩, ?_⟩
        have hevidence := Option.some.inj h
        have hsplit := DurableJournal.evidence_split s.journal (Nat.add_le_add_right hle 1)
        rw [readEvidence, readEvidence, readCount, readCount, hi]
        simp only [hj, Option.elim_some]
        rw [hsplit, hevidence]
      · simp at h

/-- Matching what was read either finds a line the reference finds too, or searches it. -/
theorem Searched.process {done : List MonitorEvidence} (h : s.Searched done)
    (evidence : List MonitorEvidence) :
    ∃ matcher found matcher', s.matcher = some matcher ∧
      matcher.process evidence = .ok (found, matcher') ∧
      (found = none → ∀ point,
        Searched { s with matcher := some matcher', point := point } (done ++ evidence)) := by
  obtain ⟨matcher, hm, htracks, hnone⟩ := h
  obtain ⟨found, matcher', hrun, hagree, hkeep⟩ := htracks.process evidence
  refine ⟨matcher, found, matcher', hm, hrun, ?_⟩
  intro hfound point
  refine ⟨matcher', rfl, hkeep hfound, ?_⟩
  apply (referenceMatch_append _ _ done evidence).mpr
  refine ⟨hnone, ?_⟩
  rw [hfound] at hagree
  cases hr : (furtherLines s.incompleteChannels done evidence).findSome? fun p =>
      referenceLine s.request.conditions p.1 p.2 with
  | none => exact List.findSome?_eq_none_iff.mp hr
  | some r =>
    rw [hr] at hagree
    exact absurd hagree (by simp [Agrees])

/-- The matcher is built with nothing read, and there is nothing to find in nothing. -/
theorem searched_new {matcher : MonitorMatcher}
    (h : MonitorMatcher.new s.request.conditions s.incompleteChannels = .ok matcher)
    (point : WaitPoint) : Searched { s with matcher := some matcher, point := point } [] := by
  have hmatcher : matcher = ⟨s.request.conditions, ∅, s.incompleteChannels, ∅, false⟩ := by
    rw [MonitorMatcher.new] at h
    split at h
    · simp at h
    · exact (Except.ok.inj h).symm
  refine ⟨matcher, rfl, ?_, rfl⟩
  rw [hmatcher]
  exact tracks_new s.request.conditions s.incompleteChannels

/-- One step of the waiting thread keeps the loop's invariant. -/
theorem LoopInvariant.advance (h : LoopInvariant request incompleteChannels s)
    (hmode : request.mode = .conditions) (hstep : s.advance = some s') :
    LoopInvariant request incompleteChannels s' := by
  have hopen : (∀ outcome found, s.point ≠ .returned outcome found) →
      s.terminal ≠ some .timeout := by
    intro hne htimeout
    obtain ⟨outcome, found, hpoint⟩ := h.terminal htimeout
    exact hne outcome found hpoint
  have hsearched := h.searched
  rw [BoundedOperation.advance] at hstep
  cases hpoint : s.point with
  | starting =>
    have hopen := hopen (by simp [hpoint])
    have hmode : s.request.mode = .conditions := by
      rw [h.request_eq]
      exact hmode
    simp only [hpoint, hmode] at hstep
    simp only [SearchedAt, hpoint] at hsearched
    cases hnew : MonitorMatcher.new s.request.conditions s.incompleteChannels with
    | error e =>
      simp only [hnew, Option.some.injEq] at hstep
      subst hstep
      exact h.moveTo hopen .raised trivial
    | ok matcher =>
      simp only [hnew, Option.some.injEq] at hstep
      subst hstep
      have hnil := searched_new hnew .checkingCancellation
      refine ⟨h.request_eq, h.incompleteChannels_eq, h.cursor, fun ht => absurd ht hopen, ?_⟩
      show Searched _ (readEvidence _)
      rw [show readEvidence { s with matcher := some matcher, point := .checkingCancellation }
        = [] from hsearched]
      exact hnil
  | checkingCancellation =>
    have hopen := hopen (by simp [hpoint])
    simp only [hpoint] at hstep
    simp only [SearchedAt, hpoint] at hsearched
    split at hstep <;> obtain rfl := Option.some.inj hstep
    · exact h.moveTo hopen _ fun _ => hsearched
    · exact h.moveTo hopen _ hsearched
  | checkingState =>
    have hopen := hopen (by simp [hpoint])
    simp only [hpoint] at hstep
    simp only [SearchedAt, hpoint] at hsearched
    split at hstep <;> obtain rfl := Option.some.inj hstep
    · exact h.moveTo hopen _ fun _ => hsearched
    · exact h.moveTo hopen _ fun _ => hsearched
    · exact h.moveTo hopen _ fun _ => hsearched
    · exact h.moveTo hopen .raised trivial
    · exact h.moveTo hopen _ hsearched
  | checkingDeadline recorderState =>
    have hopen := hopen (by simp [hpoint])
    simp only [hpoint] at hstep
    simp only [SearchedAt, hpoint] at hsearched
    split at hstep <;> obtain rfl := Option.some.inj hstep
    · exact h.moveTo hopen _ fun _ => hsearched
    · exact h.moveTo hopen _ hsearched
  | waiting timeout =>
    have hopen := hopen (by simp [hpoint])
    simp only [hpoint] at hstep
    simp only [SearchedAt, hpoint] at hsearched
    split at hstep
    · obtain rfl := Option.some.inj hstep
      exact h.moveTo hopen _ hsearched
    · exact absurd hstep (by simp)
  | reading tail =>
    have hopen := hopen (by simp [hpoint])
    simp only [hpoint] at hstep
    simp only [SearchedAt, hpoint] at hsearched
    cases hread : s.journal.readTo s.cursor tail with
    | none =>
      simp only [hread, Option.some.injEq] at hstep
      subst hstep
      exact h.moveTo hopen .raised trivial
    | some evidence =>
      simp only [hread, Option.some.injEq] at hstep
      subst hstep
      obtain ⟨hcursor, hgrown⟩ := readEvidence_readTo hread (.matching evidence)
      exact ⟨h.request_eq, h.incompleteChannels_eq, hcursor, fun ht => absurd ht hopen,
        ⟨s.readEvidence, hgrown, hsearched⟩⟩
  | matching evidence =>
    have hopen := hopen (by simp [hpoint])
    simp only [hpoint] at hstep
    simp only [SearchedAt, hpoint] at hsearched
    obtain ⟨done, hdone, hbefore⟩ := hsearched
    obtain ⟨matcher, found, matcher', hm, hrun, hafter⟩ := hbefore.process evidence
    simp only [hm, hrun] at hstep
    cases found with
    | some f =>
      obtain rfl := Option.some.inj hstep
      exact ⟨h.request_eq, h.incompleteChannels_eq, h.cursor, fun ht => absurd ht hopen,
        fun hne => absurd rfl hne⟩
    | none =>
      obtain rfl := Option.some.inj hstep
      refine ⟨h.request_eq, h.incompleteChannels_eq, h.cursor, fun ht => absurd ht hopen, ?_⟩
      show Searched _ (readEvidence _)
      rw [show readEvidence { s with matcher := some matcher', point := .checkingCancellation }
        = done ++ evidence from hdone]
      exact hafter rfl _
  | completing outcome found =>
    have hopen := hopen (by simp [hpoint])
    simp only [hpoint, Option.some.injEq] at hstep
    simp only [SearchedAt, hpoint] at hsearched
    subst hstep
    refine ⟨h.request_eq, h.incompleteChannels_eq, h.cursor, fun _ => ⟨_, found, rfl⟩, ?_⟩
    intro htimeout
    -- nobody else writes `timeout`, so it is the loop's own outcome
    have hown : outcome = .timeout := by
      cases hterminal : s.terminal with
      | none => simpa [hterminal] using htimeout
      | some recorded =>
        rw [hterminal] at htimeout hopen
        exact absurd (congrArg some htimeout) hopen
    exact hsearched (by rw [hown]; decide)
  | returned outcome found => simp [hpoint] at hstep
  | raised => simp [hpoint] at hstep

/-- Every step keeps the loop's invariant. -/
theorem LoopInvariant.step (h : LoopInvariant request incompleteChannels s)
    (hmode : request.mode = .conditions) {move : WaitStep} (hstep : s.step move = some s') :
    LoopInvariant request incompleteChannels s' := by
  rw [BoundedOperation.step.eq_def] at hstep
  cases move with
  | tick clock =>
    simp only at hstep
    split at hstep
    · obtain rfl := Option.some.inj hstep
      exact h.frame rfl rfl rfl rfl rfl rfl id
    · exact absurd hstep (by simp)
  | append admitted =>
    simp only at hstep
    split at hstep
    · obtain rfl := Option.some.inj hstep
      exact h.append admitted
    · exact absurd hstep (by simp)
  | publish index =>
    obtain ⟨published, _, rfl⟩ := Option.map_eq_some_iff.mp hstep
    exact h.frame rfl rfl rfl rfl rfl rfl id
  | recorder state =>
    obtain rfl := Option.some.inj hstep
    exact h.frame rfl rfl rfl rfl rfl rfl id
  | cancel =>
    obtain rfl := Option.some.inj hstep
    exact h.frame rfl rfl rfl rfl rfl rfl id
  | terminalize outcome =>
    simp only at hstep
    split at hstep
    · rename_i hfree
      obtain rfl := Option.some.inj hstep
      refine h.frame rfl rfl rfl rfl rfl rfl fun htimeout => ?_
      obtain rfl := Option.some.inj htimeout
      exact absurd hfree.2 (by decide)
    · exact absurd hstep (by simp)
  | advance => exact h.advance hmode hstep
  | expire =>
    cases hpoint : s.point with
    | waiting timeout =>
      simp only [hpoint] at hstep
      split at hstep
      · exact absurd hstep (by simp)
      · obtain rfl := Option.some.inj hstep
        have hsearched := h.searched
        simp only [SearchedAt, hpoint] at hsearched
        refine h.moveTo (fun htimeout => ?_) _ hsearched
        obtain ⟨outcome, found, hreturned⟩ := h.terminal htimeout
        rw [hpoint] at hreturned
        exact absurd hreturned (by simp)
    | _ => simp [hpoint] at hstep
  | fail =>
    have hraised : (∀ outcome found, s.point ≠ .returned outcome found) →
        LoopInvariant request incompleteChannels { s with point := .raised } := by
      intro hne
      refine h.moveTo (fun htimeout => ?_) .raised trivial
      obtain ⟨outcome, found, hreturned⟩ := h.terminal htimeout
      exact hne outcome found hreturned
    cases hpoint : s.point with
    | returned outcome found => simp [hpoint] at hstep
    | _ =>
      simp only [hpoint, Option.some.injEq] at hstep
      subst hstep
      exact hraised (by simp [hpoint])

/-- The invariant holds when the operation starts. -/
theorem loopInvariant_start (request : MonitorRequest) (incompleteChannels : Finset LineKey)
    (deadline clock : ℚ) (startCursor : EvidenceCursor) :
    LoopInvariant request incompleteChannels
      (start request incompleteChannels deadline clock startCursor) where
  request_eq := rfl
  incompleteChannels_eq := rfl
  cursor := ⟨0, by simp [start, DurableJournal.indexOf]⟩
  terminal h := by simp [start] at h
  searched := by
    simp [SearchedAt, start, readEvidence, readCount, DurableJournal.indexOf,
      DurableJournal.evidence]

/-- The invariant holds along every run. -/
theorem LoopInvariant.run (hmode : request.mode = .conditions) (steps : List WaitStep)
    (h : LoopInvariant request incompleteChannels s) (hrun : s.run steps = some s') :
    LoopInvariant request incompleteChannels s' := by
  induction steps generalizing s with
  | nil =>
    obtain rfl := Option.some.inj hrun
    exact h
  | cons move steps ih =>
    rw [BoundedOperation.run, List.foldlM_cons] at hrun
    obtain ⟨next, hstep, hrest⟩ := Option.bind_eq_some_iff.mp hrun
    exact ih (h.step hmode hstep) hrest

/-! ## When `timeout` is right -/

/-- `timeout` is right about what was read, so it is right exactly if the timely evidence
that was not read completes no line with a condition. -/
theorem Searched.noTimelyMatch_iff (h : s.Searched s.readEvidence) :
    s.NoTimelyMatch ↔ s.NoUnreadMatch := by
  obtain ⟨_, _, _, hnone⟩ := h
  rw [NoTimelyMatch, NoUnreadMatch]
  rcases Nat.le_total s.readCount s.timely with hle | hle
  · have htimely : s.timelyEvidence = s.readEvidence ++ s.unreadEvidence :=
      s.journal.evidence_split hle
    rw [htimely, referenceMatch_append]
    exact ⟨fun both => both.2, fun hunread => ⟨hnone, hunread⟩⟩
  · have hread : s.readEvidence
        = s.timelyEvidence ++ s.journal.evidenceBetween s.timely s.readCount :=
      s.journal.evidence_split hle
    have hunread : s.unreadEvidence = [] := s.journal.evidenceBetween_of_le hle
    rw [hread, referenceMatch_append] at hnone
    rw [hunread]
    exact ⟨fun _ => by simp [furtherLines], fun _ => hnone.1⟩

/-- In every run of a conditional operation that returned `timeout`, whatever the clock,
the recorder and the other threads did in between: no line with a condition was complete
in evidence published before the deadline, if and only if the part of that evidence the
loop had not read completes none. -/
theorem timeout_sound_iff (request : MonitorRequest) (hmode : request.mode = .conditions)
    (incompleteChannels : Finset LineKey) (deadline clock : ℚ) (startCursor : EvidenceCursor)
    (steps : List WaitStep) (s : BoundedOperation)
    (hrun : (start request incompleteChannels deadline clock startCursor).run steps = some s)
    (found : Option MonitorMatch) (hreturned : s.point = .returned .timeout found) :
    s.NoTimelyMatch ↔ s.NoUnreadMatch := by
  have h := (loopInvariant_start request incompleteChannels deadline clock startCursor).run
    hmode steps hrun
  have hsearched := h.searched
  simp only [SearchedAt, hreturned] at hsearched
  exact (hsearched trivial).noTimelyMatch_iff

/-! ## A slow pass of matching -/

/-- A Monitor for `READY` that times out at 2: while it matches the line it has read, the
line it waits for is published at 1, and the pass ends at 2. -/
def slowPass : List WaitStep :=
  [.advance, .append ⟨⟨"s", 5⟩, [⟨"s", 4, 0, 7, 0, [79, 75, 10]⟩]⟩, .publish 1,
    .advance, .advance, .advance, .advance, .advance,
    .tick 1, .append ⟨⟨"s", 6⟩, [⟨"s", 5, 0, 9, 0, [82, 69, 65, 68, 89, 10]⟩]⟩, .publish 2,
    .tick 2, .advance, .advance, .advance, .advance, .advance]

/-- The Monitor returns `timeout` although `READY` was published before its deadline. -/
theorem not_noTimelyMatch_slowPass :
    ∃ s, (start ⟨.conditions, [⟨"READY", none⟩]⟩ ∅ 2 0 ⟨"s", 4⟩).run slowPass = some s ∧
      s.point = .returned .timeout none ∧ ¬ s.NoTimelyMatch := by
  have hslow : ∃ s ∈ (start ⟨.conditions, [⟨"READY", none⟩]⟩ ∅ 2 0 ⟨"s", 4⟩).run slowPass,
      s.point = .returned .timeout none ∧ ¬ s.NoTimelyMatch := by decide +kernel
  exact hslow

/-- The same Monitor, with nothing published while it matched. -/
def quietPass : List WaitStep :=
  [.advance, .append ⟨⟨"s", 5⟩, [⟨"s", 4, 0, 7, 0, [79, 75, 10]⟩]⟩, .publish 1,
    .advance, .advance, .advance, .advance, .advance,
    .tick 2, .advance, .advance, .advance, .advance, .advance]

/-- With nothing left unread, the `timeout` of the quiet pass is right. -/
theorem timeout_sound_quietPass :
    ∃ s, (start ⟨.conditions, [⟨"READY", none⟩]⟩ ∅ 2 0 ⟨"s", 4⟩).run quietPass = some s ∧
      s.NoTimelyMatch := by
  have hquiet : ∃ s ∈ (start ⟨.conditions, [⟨"READY", none⟩]⟩ ∅ 2 0 ⟨"s", 4⟩).run quietPass,
      s.point = .returned .timeout none ∧ s.unreadEvidence = [] := by decide +kernel
  obtain ⟨s, hrun, hreturned, hread⟩ := hquiet
  refine ⟨s, hrun, ?_⟩
  apply (timeout_sound_iff ⟨.conditions, [⟨"READY", none⟩]⟩ rfl ∅ 2 0 ⟨"s", 4⟩ quietPass s hrun
    none hreturned).mpr
  rw [NoUnreadMatch, hread]
  simp [furtherLines]

end BoundedOperation
