/-
# What the recorder knows of the store

`ContinuousEvidenceRecorder` keeps a handle and a stored segment identifier, and passes
them to the store with every record.  The store refuses a record whose handle is not of
its active session or whose segment is not the last one.  A record that does not fit
rolls the journal over: the successor has one segment, and the recorder learns of it
from the admission it publishes.

The sections below run under the admission lock.  How the store judges a record that it
could take is an argument of the section (`Verdict`).
-/
import DutchMate.Throwing

open Throwing

namespace RecorderOwnership

/-- The newest session of the journal, numbered along the chain of successors. -/
structure JournalHead where
  session : ℕ
  segments : ℕ
  active : Bool
  deriving DecidableEq, Repr

namespace JournalHead

/-- `_require_active_v2_metadata` and the check of the segment identifier. -/
def Accepts (head : JournalHead) (handle : ℕ) (segment : Option ℕ) : Prop :=
  handle = head.session ∧ head.active = true ∧ ∀ id ∈ segment, id + 1 = head.segments

instance (head : JournalHead) (handle : ℕ) (segment : Option ℕ) :
    Decidable (head.Accepts handle segment) :=
  inferInstanceAs (Decidable (_ ∧ _ ∧ _))

/-- The session a rollover opens. -/
def successor (head : JournalHead) : JournalHead :=
  { head with session := head.session + 1, segments := 1 }

end JournalHead

/-- What the store makes of a record that names its session and segment.  It refuses one
that breaks its own limits, before or after it made room for it. -/
inductive Verdict
  | fits | rollsOver | refused | refusedAfterRollover
  deriving DecidableEq, Repr

namespace Verdict

def isAdmitted : Verdict → Bool
  | fits => true
  | rollsOver => true
  | refused => false
  | refusedAfterRollover => false

/-- No refusal of the list leaves a rollover unpublished. -/
def settled : List Verdict → Bool
  | [] => true
  | fits :: verdicts => settled verdicts
  | rollsOver :: verdicts => verdicts.all isAdmitted
  | refused :: _ => true
  | refusedAfterRollover :: _ => false

end Verdict

/-- One call into the store: the handle and segment it names, and the store's own. -/
structure StoreUse where
  handle : ℕ
  segment : Option ℕ
  head : JournalHead
  deriving DecidableEq, Repr

/-- The call names the current session, and no segment but the last one. -/
def StoreUse.Current (use : StoreUse) : Prop :=
  use.handle = use.head.session ∧ ∀ id ∈ use.segment, id + 1 = use.head.segments

instance (use : StoreUse) : Decidable use.Current := inferInstanceAs (Decidable (_ ∧ _))

structure Admission where
  handle : ℕ
  rolledOver : Bool
  deriving DecidableEq, Repr

/-- The store's newest session, what the recorder keeps of it, and every call so far. -/
structure Ownership where
  head : JournalHead
  handle : ℕ
  storedSegment : ℕ
  uses : List StoreUse
  deriving DecidableEq, Repr

/-- A part of a critical section; it raises what the store raises. -/
abbrev Section (α : Type) := Prog Ownership Unit α

/-- The session a service starts with. -/
def Ownership.initial : Ownership := ⟨⟨0, 1, true⟩, 0, 0, []⟩

/-! ## The sections -/

/-- A store call checks the session and segment before anything else. -/
def useStore (handle : ℕ) (segment : Option ℕ) : Section Unit := fun o =>
  let called := { o with uses := o.uses ++ [⟨handle, segment, o.head⟩] }
  if o.head.Accepts handle segment then (.ok (), called) else (.error (), called)

def rollover : Section Unit := change fun o => { o with head := o.head.successor }

/-- What the store does with a record it could take. -/
def judge (handle : ℕ) : Verdict → Section Admission
  | .fits => pure ⟨handle, false⟩
  | .rollsOver => do
    rollover
    let session ← look (·.head.session)
    pure ⟨session, true⟩
  | .refused => raise ()
  | .refusedAfterRollover => do
    rollover
    raise ()

/-- Append one record to the session of a handle. -/
def append (handle : ℕ) (segment : Option ℕ) (verdict : Verdict) : Section Admission := do
  useStore handle segment
  judge handle verdict

/-- `_publish_admission`. -/
def publishAdmission (admission : Admission) : Section Unit := change fun o =>
  { o with
    handle := admission.handle
    storedSegment := if admission.rolledOver then 0 else o.storedSegment }

/-- `append_v2_line_boundary`: one record after the other, each with the newest handle. -/
def appendLineBoundary (handle : ℕ) : List Verdict → Section (List Admission)
  | [] => pure []
  | verdict :: verdicts => do
    let admission ← append handle none verdict
    let admissions ← appendLineBoundary admission.handle verdicts
    pure (admission :: admissions)

def publishAll : List Admission → Section Unit
  | [] => pure ()
  | admission :: admissions => do
    publishAdmission admission
    publishAll admissions

/-- `_flush_line_state`, with a verdict for each record the flush finalizes. -/
def flushLineState (verdicts : List Verdict) : Section Unit := do
  let handle ← look (·.handle)
  let admissions ← appendLineBoundary handle verdicts
  publishAll admissions

/-- What the store answers in one admission: whether it predicts a rollover, and the
records of the flush that comes first when it does. -/
structure Plan where
  flushed : Option (List Verdict)
  verdict : Verdict
  deriving DecidableEq, Repr

namespace Plan

def isAdmitted (plan : Plan) : Bool :=
  plan.flushed.all (·.all Verdict.isAdmitted) && plan.verdict.isAdmitted

/-- No refusal of the plan leaves a rollover unpublished. -/
def settled (plan : Plan) : Bool :=
  plan.flushed.all Verdict.settled && plan.verdict != .refusedAfterRollover

end Plan

/-- The flush before a predicted rollover; the segment is read again after it. -/
def flushIfPredicted (flushed : Option (List Verdict)) (segment : Option ℕ) :
    Section (Option ℕ) :=
  match flushed with
  | none => pure segment
  | some verdicts => do
    flushLineState verdicts
    look fun o => segment.map fun _ => o.storedSegment

/-- `_admit_action`, `start_monitor_operation`, `complete_monitor_operation` and
`_record_event`: predict, flush, append, publish.  Returns the segment the record is on. -/
def admitRecord (plan : Plan) (segment : Option ℕ) : Section (Option ℕ) := do
  let handle ← look (·.handle)
  useStore handle segment
  let segment ← flushIfPredicted plan.flushed segment
  let handle ← look (·.handle)
  let admission ← append handle segment plan.verdict
  publishAdmission admission
  pure (if admission.rolledOver then segment.map fun _ => 0 else segment)

/-- Terminal records, each published before the next. -/
def completeOperations (admission : Admission) : List Verdict → Section Admission
  | [] => pure admission
  | verdict :: verdicts => do
    let terminal ← append admission.handle none verdict
    publishAdmission terminal
    completeOperations terminal verdicts

/-- `fail_session`. -/
def failSession (handle : ℕ) : Section Unit := do
  useStore handle none
  change fun o => { o with head := { o.head with active := false } }

/-! ## What a section does to the store -/

/-- Where the store's head can get to: it stays, or a rollover of an active session opened
a later one. -/
structure JournalHead.Advanced (before after : JournalHead) : Prop where
  moved : after = before ∨
    (before.active = true ∧ before.session < after.session ∧ after.segments = 1)
  active : after.active = before.active

theorem JournalHead.Advanced.refl (head : JournalHead) : head.Advanced head := ⟨.inl rfl, rfl⟩

theorem JournalHead.Advanced.successor {before after : JournalHead} (h : before.Advanced after)
    (hactive : before.active = true) : before.Advanced after.successor := by
  refine ⟨.inr ⟨hactive, ?_, rfl⟩, h.active⟩
  show before.session < after.session + 1
  rcases h.moved with hsame | ⟨_, hlt, _⟩
  · rw [hsame]
    omega
  · omega

/-- What a section does, wherever it ends: the head advances, and its calls are current. -/
structure Reached (o₀ o : Ownership) : Prop where
  head : o₀.head.Advanced o.head
  uses : (∀ use ∈ o₀.uses, use.Current) → ∀ use ∈ o.uses, use.Current

theorem Reached.refl (o : Ownership) : Reached o o := ⟨.refl _, id⟩

/-- The recorder knows the store's head. -/
structure Published (o : Ownership) : Prop where
  handle : o.handle = o.head.session
  storedSegment : o.storedSegment + 1 = o.head.segments

/-- In the middle of a section: `handle` is the newest one, and what is still to be
published is a rollover when `rolled` holds and nothing otherwise. -/
structure Pending (handle : ℕ) (rolled : Bool) (o : Ownership) : Prop where
  newest : handle = o.head.session
  opened : rolled = true → o.head.segments = 1
  published : rolled = false → Published o

theorem Published.pending {o : Ownership} (h : Published o) : Pending o.handle false o :=
  ⟨h.handle, nofun, fun _ => h⟩

/-- A segment that is named is the last one. -/
def OnLast (segment : Option ℕ) (o : Ownership) : Prop := ∀ id ∈ segment, id + 1 = o.head.segments

variable {o₀ o : Ownership} {handle : ℕ} {rolled : Bool} {segment : Option ℕ}

/-- A call that names the newest session and segment is a current one. -/
theorem Reached.call (h : Reached o₀ o) (hhandle : handle = o.head.session)
    (hsegment : OnLast segment o) :
    Reached o₀ { o with uses := o.uses ++ [⟨handle, segment, o.head⟩] } := by
  refine ⟨h.head, fun hcurrent use huse => ?_⟩
  rcases List.mem_append.mp huse with hold | hnew
  · exact h.uses hcurrent use hold
  · rw [List.mem_singleton.mp hnew]
    exact ⟨hhandle, hsegment⟩

/-- A call with the newest session and segment is refused only by an inactive session. -/
theorem useStore_triple (o₀ : Ownership) (handle : ℕ) (rolled : Bool) (segment : Option ℕ) :
    Triple (fun o => Reached o₀ o ∧ Pending handle rolled o ∧ OnLast segment o)
      (useStore handle segment)
      (fun _ o => (Reached o₀ o ∧ Pending handle rolled o ∧ OnLast segment o)
        ∧ o₀.head.active = true)
      (fun _ o => (Reached o₀ o ∧ Pending handle rolled o) ∧ o₀.head.active = false) := by
  refine ⟨fun o ⟨hreached, hpending, hsegment⟩ => ?_⟩
  have hreached' := hreached.call hpending.newest hsegment
  have hpending' : Pending handle rolled
      { o with uses := o.uses ++ [⟨handle, segment, o.head⟩] } :=
    ⟨hpending.newest, hpending.opened, fun h => ⟨(hpending.published h).1, (hpending.published h).2⟩⟩
  unfold useStore
  by_cases haccepts : o.head.Accepts handle segment
  · rw [if_pos haccepts]
    exact ⟨⟨hreached', hpending', hsegment⟩, hreached.head.active.symm.trans haccepts.2.1⟩
  · rw [if_neg haccepts]
    refine ⟨⟨hreached', hpending'⟩, ?_⟩
    -- handle and segment are the store's own, so only the state can be at fault
    rw [← hreached.head.active, ← Bool.not_eq_true]
    exact fun hactive => haccepts ⟨hpending.newest, hactive, hsegment⟩

/-- What the store made of a record, whichever way it went. -/
theorem judge_triple (handle : ℕ) (rolled : Bool) (verdict : Verdict)
    (hactive : o₀.head.active = true) :
    Triple (fun o => Reached o₀ o ∧ Pending handle rolled o ∧ OnLast segment o)
      (judge handle verdict)
      (fun admission o => (Reached o₀ o ∧ Pending admission.handle (rolled || admission.rolledOver) o
          ∧ (admission.rolledOver = false → OnLast segment o))
        ∧ verdict.isAdmitted = true ∧ (admission.rolledOver = true ↔ verdict = .rollsOver))
      (fun _ o => Reached o₀ o ∧ (verdict ≠ .refusedAfterRollover → Pending handle rolled o)
        ∧ verdict.isAdmitted = false) := by
  have hrolls : ∀ o, Reached o₀ o → Reached o₀ { o with head := o.head.successor } :=
    fun o h => ⟨h.head.successor hactive, h.uses⟩
  refine ⟨fun o ⟨hreached, hpending, hsegment⟩ => ?_⟩
  cases verdict with
  | fits =>
    refine ⟨⟨hreached, ?_, fun _ => hsegment⟩, rfl, by simp⟩
    rw [Bool.or_false]
    exact hpending
  | rollsOver =>
    refine ⟨⟨hrolls o hreached, ?_, nofun⟩, rfl, by simp⟩
    rw [Bool.or_true]
    exact ⟨rfl, fun _ => rfl, nofun⟩
  | refused => exact ⟨hreached, fun _ => hpending, rfl⟩
  | refusedAfterRollover => exact ⟨hrolls o hreached, fun h => absurd rfl h, rfl⟩

/-- One record: it is admitted, or the session is inactive, or the store's own limits
refuse it. -/
theorem append_triple (o₀ : Ownership) (handle : ℕ) (rolled : Bool) (segment : Option ℕ)
    (verdict : Verdict) :
    Triple (fun o => Reached o₀ o ∧ Pending handle rolled o ∧ OnLast segment o)
      (append handle segment verdict)
      (fun admission o => (Reached o₀ o ∧ Pending admission.handle (rolled || admission.rolledOver) o
          ∧ (admission.rolledOver = false → OnLast segment o))
        ∧ o₀.head.active = true ∧ verdict.isAdmitted = true
        ∧ (admission.rolledOver = true ↔ verdict = .rollsOver))
      (fun _ o => Reached o₀ o ∧ (verdict ≠ .refusedAfterRollover → Pending handle rolled o)
        ∧ ¬ (o₀.head.active = true ∧ verdict.isAdmitted = true)) := by
  apply triple_bind
    (triple_conseq (useStore_triple o₀ handle rolled segment) (fun _ h => h) (fun _ _ h => h) ?_)
  · intro _
    apply triple_assume (c := o₀.head.active = true) fun _ h => h.2
    intro hactive
    refine triple_conseq (judge_triple handle rolled verdict hactive) (fun _ h => h.1) ?_ ?_
    · exact fun _ _ h => ⟨h.1, hactive, h.2⟩
    · exact fun _ _ h => ⟨h.1, h.2.1, fun hc => by simp [h.2.2] at hc⟩
  · exact fun _ _ h => ⟨h.1.1, fun _ => h.1.2, fun hc => by simp [h.2] at hc⟩

/-! ## Flushes and admissions -/

/-- The handle after some admissions. -/
def lastHandle (handle : ℕ) : List Admission → ℕ
  | [] => handle
  | admission :: admissions => lastHandle admission.handle admissions

theorem appendLineBoundary_triple (o₀ : Ownership) (handle : ℕ) (rolled : Bool)
    (verdicts : List Verdict) :
    Triple (fun o => Reached o₀ o ∧ Pending handle rolled o)
      (appendLineBoundary handle verdicts)
      (fun admissions o => Reached o₀ o ∧
        Pending (lastHandle handle admissions) (rolled || admissions.any (·.rolledOver)) o)
      (fun _ o => Reached o₀ o
        ∧ (rolled = false → Verdict.settled verdicts = true → Published o)
        ∧ ¬ (o₀.head.active = true ∧ verdicts.all Verdict.isAdmitted = true)) := by
  induction verdicts generalizing handle rolled with
  | nil =>
    refine triple_pure fun o h => ⟨h.1, ?_⟩
    rw [List.any_nil, Bool.or_false]
    exact h.2
  | cons verdict verdicts ih =>
    refine triple_bind (triple_conseq (append_triple o₀ handle rolled none verdict)
      (fun o h => ⟨h.1, h.2, nofun⟩) (fun _ _ h => h) ?_) fun admission => ?_
    · rintro _ o ⟨hreached, hpending, hnot⟩
      refine ⟨hreached, fun hrolled hsettled => ?_, fun hall => hnot ⟨hall.1, ?_⟩⟩
      · refine (hpending ?_).published hrolled
        rintro rfl
        exact Bool.noConfusion hsettled
      · exact (List.all_eq_true.mp hall.2) verdict List.mem_cons_self
    · -- the record is in; what is left starts from its handle
      apply triple_assume (c := o₀.head.active = true ∧ verdict.isAdmitted = true
        ∧ (admission.rolledOver = true ↔ verdict = .rollsOver)) fun _ h => h.2
      rintro ⟨hactive, hadmitted, hrolls⟩
      refine triple_bind (triple_conseq (ih admission.handle
        (rolled || admission.rolledOver)) (fun o h => ⟨h.1.1, h.1.2.1⟩)
        (fun _ _ h => h) ?_) fun admissions => triple_pure fun o h => ⟨h.1, ?_⟩
      · rintro _ o ⟨hreached, hsettles, hnot⟩
        refine ⟨hreached, fun hrolled hsettled => ?_, fun hall => hnot ⟨hall.1, ?_⟩⟩
        · cases verdict with
          | fits =>
            refine hsettles ?_ hsettled
            rw [hrolled, Bool.false_or, ← Bool.not_eq_true, hrolls]
            exact nofun
          | rollsOver => exact absurd ⟨hactive, hsettled⟩ hnot
          | refused => exact Bool.noConfusion hadmitted
          | refusedAfterRollover => exact Bool.noConfusion hadmitted
        · simp only [List.all_cons, Bool.and_eq_true] at hall
          exact hall.2.2
      · rw [List.any_cons, ← Bool.or_assoc]
        exact h.2

theorem publishAdmission_triple (admission : Admission) :
    Triple (fun o => Reached o₀ o ∧ Pending admission.handle admission.rolledOver o)
      (publishAdmission admission) (fun _ o => Reached o₀ o ∧ Published o) (fun _ _ => False) := by
  refine triple_change fun o h => ⟨⟨h.1.head, h.1.uses⟩, h.2.newest, ?_⟩
  show (if admission.rolledOver = true then 0 else o.storedSegment) + 1 = o.head.segments
  split
  · rename_i hrolled
    rw [h.2.opened hrolled]
  · rename_i hrolled
    exact (h.2.published (Bool.not_eq_true _ ▸ hrolled)).storedSegment

/-- What is left to publish of a list of admissions. -/
def Owed (admissions : List Admission) (o : Ownership) : Prop :=
  lastHandle o.handle admissions = o.head.session ∧
    if admissions.any (·.rolledOver) = true then o.head.segments = 1
    else o.storedSegment + 1 = o.head.segments

theorem Pending.owed {admissions : List Admission}
    (h : Pending (lastHandle handle admissions) (admissions.any (·.rolledOver)) o) :
    Owed admissions o := by
  constructor
  · cases admissions with
    | nil => exact (h.published rfl).handle
    | cons admission admissions => exact h.newest
  · split
    · rename_i hrolled
      exact h.opened hrolled
    · rename_i hrolled
      exact (h.published (Bool.not_eq_true _ ▸ hrolled)).storedSegment

theorem publishAll_triple (admissions : List Admission) :
    Triple (fun o => Reached o₀ o ∧ Owed admissions o) (publishAll admissions)
      (fun _ o => Reached o₀ o ∧ Published o) (fun _ _ => False) := by
  induction admissions with
  | nil => exact triple_pure fun o h => ⟨h.1, h.2.1, h.2.2⟩
  | cons admission admissions ih =>
    refine triple_bind (triple_change fun o h => ?_) fun _ => ih
    obtain ⟨hreached, hlast, hstored⟩ := h
    refine ⟨⟨hreached.head, hreached.uses⟩, hlast, ?_⟩
    rw [List.any_cons] at hstored
    show if admissions.any (·.rolledOver) = true then o.head.segments = 1
      else (if admission.rolledOver = true then 0 else o.storedSegment) + 1 = o.head.segments
    by_cases hany : admissions.any (·.rolledOver) = true
    · rw [hany, Bool.or_true, if_pos rfl] at hstored
      rw [if_pos hany, hstored]
    · rw [Bool.not_eq_true] at hany
      rw [hany, Bool.or_false] at hstored
      rw [hany, if_neg Bool.false_ne_true]
      split at hstored
      · rename_i hrolled
        rw [if_pos hrolled, hstored]
      · rename_i hrolled
        rw [if_neg hrolled, hstored]

theorem flushLineState_triple (verdicts : List Verdict) :
    Triple (fun o => Reached o₀ o ∧ Published o) (flushLineState verdicts)
      (fun _ o => Reached o₀ o ∧ Published o)
      (fun _ o => Reached o₀ o ∧ (Verdict.settled verdicts = true → Published o)
        ∧ ¬ (o₀.head.active = true ∧ verdicts.all Verdict.isAdmitted = true)) := by
  refine triple_look fun handle => triple_bind (triple_conseq
    (appendLineBoundary_triple o₀ handle false verdicts) ?_
    (fun _ _ h => h) fun _ _ h => ⟨h.1, h.2.1 rfl, h.2.2⟩) fun admissions => ?_
  · rintro o ⟨rfl, hreached, hpublished⟩
    exact ⟨hreached, hpublished.pending⟩
  · refine triple_conseq (publishAll_triple admissions) (fun o h => ⟨h.1, ?_⟩)
      (fun _ _ h => h) fun _ _ h => h.elim
    have hpending := h.2
    rw [Bool.false_or] at hpending
    exact hpending.owed

theorem flushIfPredicted_triple (o₀ : Ownership) (flushed : Option (List Verdict)) :
    Triple (fun o => Reached o₀ o ∧ Published o ∧ OnLast segment o)
      (flushIfPredicted flushed segment)
      (fun placed o => (Reached o₀ o ∧ Published o ∧ OnLast placed o)
        ∧ placed.isSome = segment.isSome)
      (fun _ o => Reached o₀ o ∧ (flushed.all Verdict.settled = true → Published o)
        ∧ ¬ (o₀.head.active = true ∧ flushed.all (·.all Verdict.isAdmitted) = true)) := by
  cases flushed with
  | none => exact triple_pure fun _ h => ⟨h, rfl⟩
  | some verdicts =>
    refine triple_bind (triple_conseq (flushLineState_triple verdicts)
      (fun _ h => ⟨h.1, h.2.1⟩) (fun _ _ h => h) fun _ _ h => h) fun _ => ⟨fun o h => ?_⟩
    refine ⟨⟨h.1, h.2, fun id hid => ?_⟩, Option.isSome_map⟩
    obtain ⟨_, _, rfl⟩ := Option.map_eq_some_iff.mp hid
    exact h.2.storedSegment

/-- One admission under the lock.  From a recorder that knows the head it ends in one that
does, unless the store refused a record after it had rolled over. -/
theorem admitRecord_triple (o₀ : Ownership) (segment : Option ℕ) (plan : Plan) :
    Triple (fun o => Reached o₀ o ∧ Published o ∧ OnLast segment o) (admitRecord plan segment)
      (fun placed o => (Reached o₀ o ∧ Published o ∧ OnLast placed o)
        ∧ placed.isSome = segment.isSome)
      (fun _ o => Reached o₀ o ∧ (plan.settled = true → Published o)
        ∧ ¬ (o₀.head.active = true ∧ plan.isAdmitted = true)) := by
  refine triple_look fun handle => triple_bind (triple_conseq (useStore_triple o₀ handle false
    segment) ?_ (fun _ _ h => h) ?_) fun _ => ?_
  · rintro o ⟨rfl, hreached, hpublished, hsegment⟩
    exact ⟨hreached, hpublished.pending, hsegment⟩
  · rintro _ o ⟨⟨hreached, hpending⟩, hinactive⟩
    exact ⟨hreached, fun _ => hpending.published rfl, fun h => by simp [hinactive] at h⟩
  refine triple_bind (triple_conseq (flushIfPredicted_triple o₀ plan.flushed)
    (fun o h => ⟨h.1.1, h.1.2.1.published rfl, h.1.2.2⟩) (fun _ _ h => h) ?_) fun placed => ?_
  · rintro _ o ⟨hreached, hsettles, hnot⟩
    refine ⟨hreached, fun hsettled => hsettles ?_, fun h => hnot ⟨h.1, ?_⟩⟩
    · exact (Bool.and_eq_true _ _ ▸ hsettled).1
    · exact (Bool.and_eq_true _ _ ▸ h.2).1
  apply triple_assume (c := placed.isSome = segment.isSome) fun _ h => h.2
  intro hsome
  refine triple_look fun handle => triple_bind (triple_conseq (append_triple o₀ handle false
    placed plan.verdict) ?_ (fun _ _ h => h) ?_) fun admission => ?_
  · rintro o ⟨rfl, ⟨hreached, hpublished, hsegment⟩, _⟩
    exact ⟨hreached, hpublished.pending, hsegment⟩
  · rintro _ o ⟨hreached, hpending, hnot⟩
    refine ⟨hreached, fun hsettled => (hpending ?_).published rfl, fun h => hnot ⟨h.1, ?_⟩⟩
    · exact bne_iff_ne.mp (Bool.and_eq_true _ _ ▸ hsettled).2
    · exact (Bool.and_eq_true _ _ ▸ h.2).2
  -- the record is in, on its own segment or on the first one of a successor
  refine triple_bind (R := fun _ o => (Reached o₀ o ∧ Published o) ∧
    OnLast (if admission.rolledOver then placed.map fun _ => 0 else placed) o) ?_ fun _ =>
      triple_pure fun o h => ⟨⟨h.1.1, h.1.2, h.2⟩, ?_⟩
  · refine ⟨fun o h => ?_⟩
    obtain ⟨⟨hreached, hpending, hsegment⟩, -⟩ := h
    rw [Bool.false_or] at hpending
    refine ⟨((publishAdmission_triple admission).ended o ⟨hreached, hpending⟩), ?_⟩
    intro id hid
    show id + 1 = o.head.segments
    split at hid
    · rename_i hrolled
      obtain ⟨_, _, rfl⟩ := Option.map_eq_some_iff.mp hid
      rw [hpending.opened hrolled]
    · rename_i hrolled
      exact hsegment (Bool.not_eq_true _ ▸ hrolled) id hid
  · rw [← hsome]
    split
    · exact Option.isSome_map
    · rfl

/-- A recorder that names another session or segment than the store's own admits nothing. -/
theorem admitRecord_refused (plan : Plan) (h : ¬ o.head.Accepts o.handle segment) :
    ∃ o', admitRecord plan segment o = (.error (), o') := by
  have huse : useStore o.handle segment o
      = (.error (), { o with uses := o.uses ++ [⟨o.handle, segment, o.head⟩] }) := by
    unfold useStore
    rw [if_neg h]
  refine ⟨{ o with uses := o.uses ++ [⟨o.handle, segment, o.head⟩] }, ?_⟩
  rw [admitRecord, look_bind]
  exact bind_eq_error huse

/-- Terminal records on the session of the last admission. -/
theorem completeOperations_triple (o₀ : Ownership) (admission : Admission)
    (verdicts : List Verdict) :
    Triple (fun o => Reached o₀ o ∧ Published o ∧ admission.handle = o.head.session)
      (completeOperations admission verdicts)
      (fun last o => Reached o₀ o ∧ Published o ∧ last.handle = o.head.session)
      (fun _ _ => ¬ (o₀.head.active = true ∧ verdicts.all Verdict.isAdmitted = true)) := by
  induction verdicts generalizing admission with
  | nil => exact triple_pure fun _ h => h
  | cons verdict verdicts ih =>
    refine triple_bind (triple_conseq (append_triple o₀ admission.handle false none verdict)
      (fun o h => ⟨h.1, ⟨h.2.2, nofun, fun _ => h.2.1⟩, nofun⟩) (fun _ _ h => h) ?_)
      fun terminal => ?_
    · exact fun _ _ h hall => h.2.2 ⟨hall.1, List.all_eq_true.mp hall.2 verdict List.mem_cons_self⟩
    · refine triple_bind (R := fun _ o => Reached o₀ o ∧ Published o
        ∧ terminal.handle = o.head.session) ⟨fun o h => ?_⟩ fun _ => ?_
      · obtain ⟨⟨hreached, hpending, -⟩, -⟩ := h
        rw [Bool.false_or] at hpending
        have hpublished := (publishAdmission_triple terminal).ended o ⟨hreached, hpending⟩
        exact ⟨hpublished.1, hpublished.2, hpending.newest⟩
      · refine triple_conseq (ih terminal) (fun _ h => h) (fun _ _ h => h) fun _ _ h hall => h ?_
        simp only [List.all_cons, Bool.and_eq_true] at hall
        exact ⟨hall.1, hall.2.2⟩

/-- The newest session ends; the recorder still knows it. -/
theorem failSession_triple (o₀ : Ownership) (handle : ℕ) :
    Triple (fun o => Reached o₀ o ∧ Published o ∧ handle = o.head.session) (failSession handle)
      (fun _ o => (Published o ∧ handle = o.head.session) ∧ o.head.active = false ∧
        ((∀ use ∈ o₀.uses, use.Current) → ∀ use ∈ o.uses, use.Current))
      (fun _ _ => o₀.head.active = false) := by
  refine triple_bind (triple_conseq (useStore_triple o₀ handle false none)
    (fun o h => ⟨h.1, ⟨h.2.2, nofun, fun _ => h.2.1⟩, nofun⟩) (fun _ _ h => h)
    fun _ _ h => h.2) fun _ => triple_change fun o h => ?_
  obtain ⟨⟨hreached, hpending, -⟩, -⟩ := h
  have hpublished := hpending.published rfl
  exact ⟨⟨⟨hpublished.handle, hpublished.storedSegment⟩, hpending.newest⟩, rfl, hreached.uses⟩

end RecorderOwnership
