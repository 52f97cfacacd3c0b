/-
# Action arbitration

What the locks, the counter and the flags of the runtime are for: one physical dispatch
at a time, in the order of the attempt records; nobody acts between the moment an
Interact takes ownership and the moment it gives it up; release and reacquire run while
nobody acts; whatever is taken is given back.

`held` and `view` read off a point which locks its thread holds and what it has set.
`acts_cases` says once what an action can do; the invariant follows case by case.
-/
import DutchMate.RuntimeLocks

open LockedThreads

namespace DeviceCoreRuntime

/-! ## Locks held at each point -/

open RuntimeLock in
def MutationPoint.held : MutationPoint → Multiset RuntimeLock
  | .enter | .lock => 0
  | .check | .leaveCheck _ => {operation}
  | .checkAgain | .leaveAgain _ | .setOwner | .leaveOwner | .uncount | .leaveFinish =>
      operation ::ₘ {mutation}
  | _ => {mutation}

open RuntimeLock in
def BoundedPoint.held : BoundedPoint → Multiset RuntimeLock
  | .begin | .leaveStart _ | .pop | .leavePop => {operation}
  | _ => 0

open RuntimeLock in
def GiveUpPoint.held : GiveUpPoint → Multiset RuntimeLock
  | .enter => 0
  | _ => {operation}

open RuntimeLock in
/-- The locks `_ownership_change` gives back on its way out. -/
def heldOnExit (acquired : Bool) : Multiset RuntimeLock :=
  if acquired then mutation ::ₘ {lifecycle} else {lifecycle}

open RuntimeLock in
def OwnershipPoint.held : OwnershipPoint → Multiset RuntimeLock
  | .lock => 0
  | .enter | .lockMutation | .unlock => {lifecycle}
  | .check | .leaveCheck _ => operation ::ₘ {lifecycle}
  | .body | .enterBody | .unlockMutation => mutation ::ₘ {lifecycle}
  | .readBody | .leaveBody => operation ::ₘ mutation ::ₘ {lifecycle}
  | .restore _ acquired => heldOnExit acquired
  | .clear _ acquired | .leaveClear acquired => operation ::ₘ heldOnExit acquired

open RuntimeLock in
/-- The locks held around the initializer. -/
def heldAround (nested : Bool) : Multiset RuntimeLock :=
  if nested then mutation ::ₘ {lifecycle} else 0

open RuntimeLock in
def InitializerPoint.held (nested : Bool) : InitializerPoint → Multiset RuntimeLock
  | .lock | .poll => heldAround nested
  | _ => mutation ::ₘ heldAround nested

open RuntimeLock in
def ClosePoint.held : ClosePoint → Multiset RuntimeLock
  | .enter | .await | .lock => 0
  | .check | .leave _ => {operation}
  | .shutdown | .enterAgain | .unlock => {mutation}
  | .finish | .leaveAgain => operation ::ₘ {mutation}

open RuntimeLock in
def StatusPoint.held : StatusPoint → Multiset RuntimeLock
  | .enter => 0
  | _ => {operation}

def held : Point → Multiset RuntimeLock
  | .idle => 0
  | .mutation _ p => p.held
  | .bounded _ p => p.held
  | .givingUp _ p => p.held
  | .ownership _ p => p.held
  | .initializer nested p => p.held nested
  | .close p => p.held
  | .status p => p.held

@[simp] theorem held_idle : held .idle = 0 := rfl
@[simp] theorem held_mutation (use : MutationUse) (p : MutationPoint) :
    held (.mutation use p) = p.held := rfl
@[simp] theorem held_bounded (owner : Option ℕ) (p : BoundedPoint) :
    held (.bounded owner p) = p.held := rfl
@[simp] theorem held_givingUp (owner : ℕ) (p : GiveUpPoint) :
    held (.givingUp owner p) = p.held := rfl
@[simp] theorem held_ownership (request : OwnershipRequest) (p : OwnershipPoint) :
    held (.ownership request p) = p.held := rfl
@[simp] theorem held_initializer (nested : Bool) (p : InitializerPoint) :
    held (.initializer nested p) = p.held nested := rfl
@[simp] theorem held_close (p : ClosePoint) : held (.close p) = p.held := rfl
@[simp] theorem held_status (p : StatusPoint) : held (.status p) = p.held := rfl

@[simp] theorem held_exit (use : MutationUse) : held use.exit = 0 := by
  cases use <;> rfl

@[simp] theorem held_boundedExit (owner : Option ℕ) : held (boundedExit owner) = 0 := by
  cases owner <;> rfl

@[simp] theorem held_initializerExit (nested : Bool) :
    held (initializerExit nested) = heldAround nested := by
  cases nested <;> rfl

theorem keeps_actionCode (at' : ActionPoint → Point) {next raised : Point}
    {locks : Multiset RuntimeLock} (hat : ∀ p, held (at' p) = locks) (hnext : held next = locks)
    (hraised : held raised = locks) (p : ActionPoint) :
    (actionCode at' next raised p).Keeps held locks := by
  cases p <;> intro s result hresult <;>
    simp only [List.mem_cons, List.not_mem_nil, or_false] at hresult
  · rcases hresult with rfl | rfl | rfl
    · exact hat _
    · exact hat _
    · exact hraised
  · rcases hresult with rfl | rfl
    · exact hat _
    · exact hraised
  · rcases hresult with rfl | rfl
    · exact hnext
    · exact hraised

theorem keeps_mutationCode (use : MutationUse) (p : MutationPoint) :
    (mutationCode use p).Keeps held p.held := by
  cases p with
  | action p => exact keeps_actionCode (fun p => .mutation use (.action p)) (fun _ => rfl) rfl rfl p
  | leaveCheck refused =>
    cases refused <;> simp [mutationCode, Instruction.Keeps, MutationPoint.held]
  | leaveAgain refused => cases refused <;> rfl
  | checkAgain =>
    intro s result hresult
    rcases List.mem_cons.mp hresult with rfl | hadmitted
    · rfl
    · split at hadmitted
      · obtain rfl := List.mem_singleton.mp hadmitted
        rfl
      · exact absurd hadmitted (by simp)
  | prepare =>
    intro s result hresult
    rcases List.mem_cons.mp hresult with rfl | hresult
    · rfl
    · obtain rfl := List.mem_singleton.mp hresult
      cases use <;> rfl
  | _ => simp [mutationCode, Instruction.Keeps, MutationPoint.held]

theorem keeps_boundedCode (owner : Option ℕ) (p : BoundedPoint) :
    (boundedCode owner p).Keeps held p.held := by
  cases p with
  | begin =>
    intro s result hresult
    rcases List.mem_cons.mp hresult with rfl | hstarted
    · rfl
    · split at hstarted
      · exact absurd hstarted (by simp)
      · obtain rfl := List.mem_singleton.mp hstarted
        rfl
  | leaveStart refused =>
    cases refused <;> simp [boundedCode, Instruction.Keeps, BoundedPoint.held]
  | act =>
    intro s result hresult
    cases owner <;> simp at hresult <;> rcases hresult with rfl | rfl <;> rfl
  | _ => simp [boundedCode, Instruction.Keeps, BoundedPoint.held]

theorem keeps_ownershipCode (request : OwnershipRequest) (p : OwnershipPoint) :
    (ownershipCode request p).Keeps held p.held := by
  cases p with
  | check =>
    intro s result hresult
    dsimp only at hresult
    split at hresult <;> obtain rfl := List.mem_singleton.mp hresult <;> rfl
  | leaveCheck refused => cases refused <;> rfl
  | body =>
    intro s result hresult
    cases request <;> simp at hresult
    · rcases hresult with rfl | rfl <;> rfl
    · rcases hresult with rfl | rfl | rfl <;> rfl
  | leaveClear acquired => cases acquired <;> rfl
  | _ => simp [ownershipCode, Instruction.Keeps, OwnershipPoint.held, heldOnExit]

theorem keeps_initializerCode (nested : Bool) (p : InitializerPoint) :
    (initializerCode nested p).Keeps held (p.held nested) := by
  cases p with
  | action p =>
    exact keeps_actionCode (fun p => .initializer nested (.action p)) (fun _ => rfl) rfl rfl p
  | poll =>
    intro s result hresult
    rcases List.mem_cons.mp hresult with rfl | hagain
    · exact held_initializerExit nested
    · split at hagain
      · exact absurd hagain (by simp)
      · obtain rfl := List.mem_singleton.mp hagain
        rfl
  | begin =>
    intro s result hresult
    rcases List.mem_cons.mp hresult with rfl | hopen
    · rfl
    · split at hopen
      · exact absurd hopen (by simp)
      · obtain rfl := List.mem_singleton.mp hopen
        rfl
  | _ => simp [initializerCode, Instruction.Keeps, InitializerPoint.held]

theorem keeps_closeCode (p : ClosePoint) : (closeCode p).Keeps held p.held := by
  cases p with
  | check =>
    intro s result hresult
    dsimp only at hresult
    split at hresult <;> obtain rfl := List.mem_singleton.mp hresult <;> rfl
  | leave first => cases first <;> rfl
  | _ => simp [closeCode, Instruction.Keeps, ClosePoint.held]

/-- `held` is right about every instruction of the runtime. -/
theorem annotated : Annotated program held := by
  intro p
  cases p with
  | idle =>
    intro s result hresult
    obtain ⟨entry, hentry, rfl⟩ := List.mem_map.mp hresult
    simp only [entryPoints, List.mem_cons, List.not_mem_nil, or_false] at hentry
    rcases hentry with rfl | rfl | rfl | rfl | rfl | rfl | rfl | rfl | rfl | rfl | rfl <;> rfl
  | mutation use p => exact keeps_mutationCode use p
  | bounded owner p => exact keeps_boundedCode owner p
  | givingUp owner p => cases p <;> simp [program, givingUpCode, Instruction.Keeps, GiveUpPoint.held]
  | ownership request p => exact keeps_ownershipCode request p
  | initializer nested p => exact keeps_initializerCode nested p
  | close p => exact keeps_closeCode p
  | status p => cases p <;> simp [program, statusCode, Instruction.Keeps, StatusPoint.held]

/-- Lifecycle before mutation before operation. -/
def RuntimeLock.rank : RuntimeLock → ℕ
  | .lifecycle => 0
  | .mutation => 1
  | .operation => 2

/-- No point waits for a lock below one it holds. -/
theorem ranked : Ranked program held RuntimeLock.rank := by
  intro p
  cases p with
  | idle => trivial
  | mutation use p =>
    cases p with
    | action p => cases p <;> trivial
    | _ => simp [program, mutationCode, Instruction.Rises, MutationPoint.held, RuntimeLock.rank]
  | bounded owner p =>
    cases p <;> simp [program, boundedCode, Instruction.Rises, BoundedPoint.held]
  | givingUp owner p =>
    cases p <;> simp [program, givingUpCode, Instruction.Rises, GiveUpPoint.held]
  | ownership request p =>
    cases p with
    | restore changing acquired =>
      cases acquired <;> simp [program, ownershipCode, Instruction.Rises, OwnershipPoint.held,
        heldOnExit, RuntimeLock.rank]
    | _ => simp [program, ownershipCode, Instruction.Rises, OwnershipPoint.held, RuntimeLock.rank]
  | initializer nested p =>
    cases p with
    | action p => cases p <;> trivial
    | lock =>
      cases nested <;> simp [program, initializerCode, Instruction.Rises, InitializerPoint.held,
        heldAround, RuntimeLock.rank]
    | _ => trivial
  | close p =>
    cases p <;> simp [program, closeCode, Instruction.Rises, ClosePoint.held, RuntimeLock.rank]
  | status p => cases p <;> simp [program, statusCode, Instruction.Rises, StatusPoint.held]

/-! ## What a thread has set -/

/-- Whether the thread counts as an active mutation, which Interact it claims ownership
for, whether it set the lifecycle flag, and its audited action. -/
structure View where
  counted : Bool
  claim : Option ℕ
  changing : Bool
  action : Option ActionPoint

def MutationUse.claim : MutationUse → Option ℕ
  | .claimed owner | .sending owner => some owner
  | _ => none

def MutationPoint.counted : MutationPoint → Bool
  | .leaveAgain refused => !refused
  | .prepare | .action _ | .takeOwnership | .setOwner | .leaveOwner | .finish | .uncount => true
  | _ => false

def MutationPoint.audited : MutationPoint → Option ActionPoint
  | .action p => some p
  | _ => none

def GiveUpPoint.claim (owner : ℕ) : GiveUpPoint → Option ℕ
  | .leave => none
  | _ => some owner

def OwnershipPoint.changing : OwnershipPoint → Bool
  | .leaveCheck refused => !refused
  | .lockMutation | .body | .enterBody | .readBody | .leaveBody => true
  | .restore changing _ | .clear changing _ => changing
  | _ => false

def InitializerPoint.audited : InitializerPoint → Option ActionPoint
  | .action p => some p
  | _ => none

def view : Point → View
  | .mutation use p => ⟨p.counted, use.claim, false, p.audited⟩
  | .bounded owner _ => ⟨false, owner, false, none⟩
  | .givingUp owner p => ⟨false, p.claim owner, false, none⟩
  | .ownership _ p => ⟨false, none, p.changing, none⟩
  | .initializer nested p => ⟨false, none, nested, p.audited⟩
  | _ => ⟨false, none, false, none⟩

theorem view_exit (use : MutationUse) : view use.exit = ⟨false, use.claim, false, none⟩ := by
  cases use <;> rfl

theorem view_boundedExit (owner : Option ℕ) :
    view (boundedExit owner) = ⟨false, owner, false, none⟩ := by
  cases owner <;> rfl

theorem view_initializerExit (nested : Bool) :
    view (initializerExit nested) = ⟨false, none, nested, none⟩ := by
  cases nested <;> rfl

/-- Locking and unlocking change nothing a thread has set. -/
theorem quiet : Quiet program view := by
  intro p
  cases p with
  | idle => trivial
  | mutation use p =>
    cases p with
    | action p => cases p <;> trivial
    | leaveCheck refused =>
      cases refused with
      | true => exact view_exit use
      | false => rfl
    | leaveAgain refused => cases refused <;> rfl
    | unlock => exact view_exit use
    | enter | lock | enterAgain | takeOwnership | finish => exact ⟨rfl, by simp⟩
    | leaveOwner | leaveFinish => rfl
    | _ => trivial
  | bounded owner p =>
    cases p with
    | leaveStart refused =>
      cases refused with
      | true => exact view_boundedExit owner
      | false => rfl
    | leavePop => exact view_boundedExit owner
    | enter | finish => exact ⟨rfl, by simp⟩
    | _ => trivial
  | givingUp owner p =>
    cases p with
    | enter => exact ⟨rfl, by simp⟩
    | clear => trivial
    | leave => rfl
  | ownership request p =>
    cases p with
    | leaveCheck refused => cases refused <;> rfl
    | leaveClear acquired => cases acquired <;> rfl
    | lock | lockMutation => exact ⟨rfl, rfl⟩
    | enter | enterBody | restore changing acquired => exact ⟨rfl, by simp⟩
    | leaveBody | unlockMutation | unlock => rfl
    | _ => trivial
  | initializer nested p =>
    cases p with
    | action p => cases p <;> trivial
    | lock => exact ⟨rfl, by rintro other h; cases h; rfl⟩
    | unlock => exact view_initializerExit nested
    | _ => trivial
  | close p =>
    cases p with
    | leave first => cases first <;> rfl
    | enter | lock | enterAgain => exact ⟨rfl, by simp⟩
    | leaveAgain | unlock => rfl
    | _ => trivial
  | status p =>
    cases p with
    | enter => exact ⟨rfl, by simp⟩
    | read => trivial
    | leave => rfl

/-- Counted threads and threads in an audited action hold the mutation lock. -/
theorem mutation_mem_held {p : Point} (h : (view p).counted = true ∨ (view p).action ≠ none) :
    RuntimeLock.mutation ∈ held p := by
  cases p with
  | mutation use p =>
    cases p with
    | leaveAgain refused => simp [MutationPoint.held]
    | _ => simp_all [view, MutationPoint.counted, MutationPoint.audited, MutationPoint.held]
  | initializer nested p =>
    cases p <;> simp_all [view, InitializerPoint.audited, InitializerPoint.held]
  | _ => simp [view] at h

/-- The thread that set the lifecycle flag holds the lifecycle lock. -/
theorem lifecycle_mem_held {p : Point} (h : (view p).changing = true) :
    RuntimeLock.lifecycle ∈ held p := by
  cases p with
  | ownership request p =>
    cases p with
    | restore changing acquired => cases acquired <;> simp [OwnershipPoint.held, heldOnExit]
    | clear changing acquired => cases acquired <;> simp [OwnershipPoint.held, heldOnExit]
    | _ => simp_all [view, OwnershipPoint.changing, OwnershipPoint.held]
  | initializer nested p =>
    obtain rfl : nested = true := h
    cases p <;> simp [InitializerPoint.held, heldAround]
  | _ => simp [view] at h

/-! ## What an action can do -/

/-- An action seen through the views: what it does to the shared state and to what its
thread has set, holding `locks`. -/
inductive Effect (locks : Multiset RuntimeLock) (s : Shared) (v : View) : Shared → View → Prop
  | plain (closing closed : Bool) (action : Option ActionPoint)
      (haction : ∀ attempt, action ≠ some (.attempted attempt)) :
      Effect locks s v { s with closing := closing, closed := closed } { v with action := action }
  | count (hmutation : RuntimeLock.mutation ∈ locks) (hidle : v.counted = false)
      (hlifecycle : s.lifecycleActive = false)
      (howner : v.claim = none → s.interactOwner = none) :
      Effect locks s v { s with activeMutations := s.activeMutations + 1 }
        { v with counted := true }
  | uncount (hcounted : v.counted = true) :
      Effect locks s v { s with activeMutations := s.activeMutations - 1 }
        { v with counted := false }
  | commit (hmutation : RuntimeLock.mutation ∈ locks) (hfree : v.action = none) :
      Effect locks s v s.commitAttempt { v with action := some (.attempted s.nextId) }
  | dispatch {attempt : ℕ} (hattempted : v.action = some (.attempted attempt)) :
      Effect locks s v (s.beginDispatch attempt)
        { v with action := some (.dispatching attempt) }
  | claim (hcounted : v.counted = true) :
      Effect locks s v { s with interactOwner := some s.nextId, nextId := s.nextId + 1 }
        { v with claim := some s.nextId }
  | giveUp (hclaim : v.claim ≠ none) :
      Effect locks s v { s with interactOwner := none } { v with claim := none }
  | change (hlifecycle : RuntimeLock.lifecycle ∈ locks) (hidle : s.activeMutations = 0)
      (hfree : s.interactOwner = none) :
      Effect locks s v { s with lifecycleActive := true } { v with changing := true }
  | restore (hlifecycle : RuntimeLock.lifecycle ∈ locks) :
      Effect locks s v { s with lifecycleActive := false } { v with changing := false }

/-- Every outcome of an instruction has one of the effects. -/
def HasEffect (p : Point) : Code → Prop
  | .act outcomes => ∀ s, ∀ result ∈ outcomes s,
      Effect (held p) s (view p) result.1 (view result.2)
  | _ => True

/-- The thread's action ends, or had none, and nothing else happens. -/
theorem effect_plain {locks : Multiset RuntimeLock} {s : Shared} {v v' : View}
    (hcounted : v'.counted = v.counted) (hclaim : v'.claim = v.claim)
    (hchanging : v'.changing = v.changing)
    (haction : ∀ attempt, v'.action ≠ some (.attempted attempt)) : Effect locks s v s v' := by
  have hv : v' = { v with action := v'.action } := by
    cases v
    cases v'
    simp only at hcounted hclaim hchanging
    subst hcounted hclaim hchanging
    rfl
  rw [hv]
  exact .plain s.closing s.closed _ haction

theorem hasEffect_action (at' : ActionPoint → Point) {next raised : Point} {p : Point}
    {v : View} (hview : ∀ p, view (at' p) = { v with action := some p })
    (hnext : view next = { v with action := none })
    (hraised : view raised = { v with action := none }) (q : ActionPoint) (hp : p = at' q) :
    HasEffect p (actionCode at' next raised q) := by
  subst hp
  cases q with
  | attempted attempt =>
    intro s result hresult
    simp only [List.mem_cons, List.not_mem_nil, or_false] at hresult
    rcases hresult with rfl | rfl | rfl
    · rw [hview, hview]
      exact .dispatch rfl
    · rw [hview, hview]
      exact effect_plain rfl rfl rfl (by simp)
    · rw [hview, hraised]
      exact effect_plain rfl rfl rfl (by simp)
  | dispatching attempt =>
    intro s result hresult
    simp only [List.mem_cons, List.not_mem_nil, or_false] at hresult
    rcases hresult with rfl | rfl
    · rw [hview, hview]
      exact effect_plain rfl rfl rfl (by simp)
    · rw [hview, hraised]
      exact effect_plain rfl rfl rfl (by simp)
  | dispatched attempt =>
    intro s result hresult
    simp only [List.mem_cons, List.not_mem_nil, or_false] at hresult
    rcases hresult with rfl | rfl
    · rw [hview, hnext]
      exact effect_plain rfl rfl rfl (by simp)
    · rw [hview, hraised]
      exact effect_plain rfl rfl rfl (by simp)

/-- A block that passes the check finds the lifecycle flag down and, unless it is the
Interact's own, nobody's ownership. -/
theorem admits_owner {s : Shared} {use : MutationUse} (h : s.admits use.owner = true) :
    s.lifecycleActive = false ∧ (use.claim = none → s.interactOwner = none) := by
  simp only [Shared.admits, Bool.and_eq_true, Bool.not_eq_true', Bool.or_eq_true,
    decide_eq_true_eq] at h
  refine ⟨h.1, ?_⟩
  intro hclaim
  rcases h.2 with hfree | hown
  · exact hfree
  · cases use with
    | sending owner => simp [MutationUse.claim] at hclaim
    | _ => exact hown

theorem hasEffect_mutation (use : MutationUse) (p : MutationPoint) :
    HasEffect (.mutation use p) (mutationCode use p) := by
  cases p with
  | action p =>
    exact hasEffect_action (v := view (.mutation use .prepare))
      (fun p => .mutation use (.action p)) (fun _ => rfl) rfl rfl p rfl
  | check =>
    intro s result hresult
    obtain rfl := List.mem_singleton.mp hresult
    exact effect_plain rfl rfl rfl (by simp [view, MutationPoint.audited])
  | checkAgain =>
    intro s result hresult
    rcases List.mem_cons.mp hresult with rfl | hadmitted
    · exact effect_plain rfl rfl rfl (by simp [view, MutationPoint.audited])
    · split at hadmitted
      · rename_i hadmits
        obtain rfl := List.mem_singleton.mp hadmitted
        obtain ⟨hlifecycle, howner⟩ := admits_owner hadmits
        exact .count (by simp [MutationPoint.held]) rfl hlifecycle howner
      · exact absurd hadmitted (by simp)
  | prepare =>
    intro s result hresult
    rcases List.mem_cons.mp hresult with rfl | hresult
    · exact effect_plain rfl rfl rfl (by simp [view, MutationPoint.audited])
    · obtain rfl := List.mem_singleton.mp hresult
      cases use with
      | claiming => exact effect_plain rfl rfl rfl (by simp [view, MutationPoint.audited])
      | _ => exact .commit (by simp [MutationPoint.held]) rfl
  | setOwner =>
    intro s result hresult
    obtain rfl := List.mem_singleton.mp hresult
    exact .claim rfl
  | uncount =>
    intro s result hresult
    obtain rfl := List.mem_singleton.mp hresult
    exact .uncount rfl
  | _ => trivial

theorem hasEffect_bounded (owner : Option ℕ) (p : BoundedPoint) :
    HasEffect (.bounded owner p) (boundedCode owner p) := by
  cases p with
  | begin =>
    intro s result hresult
    rcases List.mem_cons.mp hresult with rfl | hstarted
    · exact effect_plain rfl rfl rfl (by simp [view])
    · split at hstarted
      · exact absurd hstarted (by simp)
      · obtain rfl := List.mem_singleton.mp hstarted
        exact effect_plain rfl rfl rfl (by simp [view])
  | act =>
    intro s result hresult
    cases owner <;> simp only [List.mem_cons, List.not_mem_nil, or_false] at hresult
    · obtain rfl := hresult
      exact effect_plain rfl rfl rfl (by simp [view])
    · rcases hresult with rfl | rfl
      · exact effect_plain rfl rfl rfl (by simp [view])
      · exact effect_plain rfl rfl rfl (by simp [view, MutationPoint.audited])
  | waiting | pop =>
    intro s result hresult
    obtain rfl := List.mem_singleton.mp hresult
    exact effect_plain rfl rfl rfl (by simp [view])
  | _ => trivial

theorem hasEffect_ownership (request : OwnershipRequest) (p : OwnershipPoint) :
    HasEffect (.ownership request p) (ownershipCode request p) := by
  cases p with
  | check =>
    intro s result hresult
    dsimp only at hresult
    split at hresult <;> obtain rfl := List.mem_singleton.mp hresult
    · exact effect_plain rfl rfl rfl (by simp [view])
    · rename_i hclear
      simp only [Bool.or_eq_true, Bool.not_eq_true', not_or, Bool.not_eq_false, bne_iff_ne,
        ne_eq, not_not, Bool.not_eq_true] at hclear
      have hadmits : s.interactOwner = none := by
        have := hclear.1.2
        simp only [Shared.admits, Bool.and_eq_true, Bool.or_self, decide_eq_true_eq] at this
        exact this.2
      exact .change (by simp [OwnershipPoint.held]) hclear.2 hadmits
  | body =>
    intro s result hresult
    cases request <;> simp at hresult
    · rcases hresult with rfl | rfl <;> exact effect_plain rfl rfl rfl (by simp [view])
    · rcases hresult with rfl | rfl | rfl
      · exact effect_plain rfl rfl rfl (by simp [view])
      · exact effect_plain rfl rfl rfl (by simp [view])
      · exact effect_plain rfl rfl rfl (by simp [view, InitializerPoint.audited])
  | readBody =>
    intro s result hresult
    obtain rfl := List.mem_singleton.mp hresult
    exact effect_plain rfl rfl rfl (by simp [view])
  | clear changing acquired =>
    intro s result hresult
    obtain rfl := List.mem_singleton.mp hresult
    exact .restore (by cases acquired <;> simp [OwnershipPoint.held, heldOnExit])
  | _ => trivial

theorem hasEffect_initializer (nested : Bool) (p : InitializerPoint) :
    HasEffect (.initializer nested p) (initializerCode nested p) := by
  cases p with
  | action p =>
    exact hasEffect_action (v := view (.initializer nested .controls))
      (fun p => .initializer nested (.action p)) (fun _ => rfl) rfl rfl p rfl
  | poll =>
    intro s result hresult
    rcases List.mem_cons.mp hresult with rfl | hagain
    · rw [view_initializerExit]
      exact effect_plain rfl rfl rfl (by simp)
    · split at hagain
      · exact absurd hagain (by simp)
      · obtain rfl := List.mem_singleton.mp hagain
        exact effect_plain rfl rfl rfl (by simp [view, InitializerPoint.audited])
  | begin =>
    intro s result hresult
    rcases List.mem_cons.mp hresult with rfl | hopen
    · exact effect_plain rfl rfl rfl (by simp [view, InitializerPoint.audited])
    · split at hopen
      · exact absurd hopen (by simp)
      · obtain rfl := List.mem_singleton.mp hopen
        exact effect_plain rfl rfl rfl (by simp [view, InitializerPoint.audited])
  | controls =>
    intro s result hresult
    simp only [List.mem_cons, List.not_mem_nil, or_false] at hresult
    rcases hresult with rfl | rfl
    · exact effect_plain rfl rfl rfl (by simp [view, InitializerPoint.audited])
    · exact .commit (by simp [InitializerPoint.held]) rfl
  | _ => trivial

theorem hasEffect_close (p : ClosePoint) : HasEffect (.close p) (closeCode p) := by
  cases p with
  | check =>
    intro s result hresult
    dsimp only at hresult
    split at hresult <;> obtain rfl := List.mem_singleton.mp hresult
    · exact effect_plain rfl rfl rfl (by simp [view])
    · exact .plain true s.closed none (by simp)
  | finish =>
    intro s result hresult
    obtain rfl := List.mem_singleton.mp hresult
    exact .plain s.closing true none (by simp)
  | await | shutdown =>
    intro s result hresult
    obtain rfl := List.mem_singleton.mp hresult
    exact effect_plain rfl rfl rfl (by simp [view])
  | _ => trivial

/-- Every action of the runtime has one of the effects. -/
theorem hasEffect (p : Point) : HasEffect p (program p) := by
  cases p with
  | idle =>
    intro s result hresult
    obtain ⟨entry, hentry, rfl⟩ := List.mem_map.mp hresult
    have hview : view entry = view .idle := by
      simp only [entryPoints, List.mem_cons, List.not_mem_nil, or_false] at hentry
      rcases hentry with rfl | rfl | rfl | rfl | rfl | rfl | rfl | rfl | rfl | rfl | rfl <;> rfl
    rw [hview]
    exact effect_plain rfl rfl rfl (by simp [view])
  | mutation use p => exact hasEffect_mutation use p
  | bounded owner p => exact hasEffect_bounded owner p
  | givingUp owner p =>
    cases p with
    | clear =>
      intro s result hresult
      obtain rfl := List.mem_singleton.mp hresult
      exact .giveUp (by simp [view, GiveUpPoint.claim])
    | _ => trivial
  | ownership request p => exact hasEffect_ownership request p
  | initializer nested p => exact hasEffect_initializer nested p
  | close p => exact hasEffect_close p
  | status p =>
    cases p with
    | read =>
      intro s result hresult
      obtain rfl := List.mem_singleton.mp hresult
      exact effect_plain rfl rfl rfl (by simp [view])
    | _ => trivial

/-! ## The invariant -/

section Invariant

variable {Thread : Type*} {s s' : Shared} {v w : Thread → View}

/-- The counter counts the one thread that is counted. -/
structure Counting (s : Shared) (v : Thread → View) : Prop where
  eq_one : ∀ t, (v t).counted = true → s.activeMutations = 1
  exists_counted : s.activeMutations ≠ 0 → ∃ t, (v t).counted = true

/-- The lifecycle flag is up while a thread is changing ownership. -/
def Changing (s : Shared) (v : Thread → View) : Prop :=
  s.lifecycleActive = true ↔ ∃ t, (v t).changing = true

/-- The Interact owner is the one thread's that claims it. -/
structure Claiming (s : Shared) (v : Thread → View) : Prop where
  owner_iff : ∀ owner, s.interactOwner = some owner ↔ ∃ t, (v t).claim = some owner
  unique : ∀ t u, (v t).claim ≠ none → (v u).claim ≠ none → t = u

/-- An ownership change is alone, and so is a counted request that is no Interact's. -/
structure Alone (s : Shared) (v : Thread → View) : Prop where
  lifecycle : s.lifecycleActive = true → s.activeMutations = 0 ∧ s.interactOwner = none
  request : ∀ t, (v t).counted = true → (v t).claim = none → s.interactOwner = none

/-- Dispatches come in the order of the attempts, and an attempt that may still be
dispatched is the last one. -/
structure Audited (s : Shared) (v : Thread → View) : Prop where
  in_order : s.dispatches.Sublist s.attempts
  nodup : s.attempts.Nodup
  fresh : ∀ attempt ∈ s.attempts, attempt < s.nextId
  pending : ∀ t attempt, (v t).action = some (.attempted attempt) →
    ∃ earlier, s.attempts = earlier ++ [attempt] ∧ s.dispatches.Sublist earlier

/-- What the shared state says about the threads. -/
structure Invariant (s : Shared) (v : Thread → View) : Prop where
  counting : Counting s v
  changing : Changing s v
  claiming : Claiming s v
  alone : Alone s v
  audited : Audited s v

theorem Counting.of_eq (h : Counting s v) (hs : s'.activeMutations = s.activeMutations)
    (hw : ∀ t, (w t).counted = (v t).counted) : Counting s' w where
  eq_one t ht := by
    rw [hs]
    exact h.eq_one t ((hw t).symm.trans ht)
  exists_counted hne := by
    obtain ⟨t, ht⟩ := h.exists_counted (by rwa [hs] at hne)
    exact ⟨t, (hw t).trans ht⟩

theorem Changing.of_eq (h : Changing s v) (hs : s'.lifecycleActive = s.lifecycleActive)
    (hw : ∀ t, (w t).changing = (v t).changing) : Changing s' w := by
  rw [Changing, hs]
  simp only [hw]
  exact h

theorem Claiming.of_eq (h : Claiming s v) (hs : s'.interactOwner = s.interactOwner)
    (hw : ∀ t, (w t).claim = (v t).claim) : Claiming s' w where
  owner_iff owner := by
    rw [hs]
    simp only [hw]
    exact h.owner_iff owner
  unique t u ht hu := h.unique t u (by rwa [hw] at ht) (by rwa [hw] at hu)

theorem Alone.of_eq (h : Alone s v) (hs : s'.lifecycleActive = s.lifecycleActive)
    (hs' : s'.activeMutations = s.activeMutations) (hs'' : s'.interactOwner = s.interactOwner)
    (hw : ∀ t, (w t).counted = (v t).counted) (hw' : ∀ t, (w t).claim = (v t).claim) :
    Alone s' w where
  lifecycle hactive := by
    rw [hs', hs'']
    exact h.lifecycle (hs ▸ hactive)
  request t ht hclaim := by
    rw [hs'']
    exact h.request t ((hw t).symm.trans ht) ((hw' t).symm.trans hclaim)

theorem Audited.of_eq (h : Audited s v) (hs : s'.attempts = s.attempts)
    (hs' : s'.dispatches = s.dispatches) (hs'' : s.nextId ≤ s'.nextId)
    (hw : ∀ t attempt, (w t).action = some (.attempted attempt) →
      (v t).action = some (.attempted attempt)) : Audited s' w where
  in_order := by
    rw [hs, hs']
    exact h.in_order
  nodup := by
    rw [hs]
    exact h.nodup
  fresh attempt hmem := by
    rw [hs] at hmem
    exact lt_of_lt_of_le (h.fresh attempt hmem) hs''
  pending t attempt ht := by
    rw [hs, hs']
    exact h.pending t attempt (hw t attempt ht)

variable [DecidableEq Thread] {t : Thread} {v' : View}

/-- What one thread's new view agrees on with its old one, all new views do. -/
theorem update_agrees {β : Type*} (f : View → β) (h : f v' = f (v t)) (u : Thread) :
    f (Function.update v t v' u) = f (v u) := by
  by_cases hu : u = t
  · subst hu
    rw [Function.update_self, h]
  · rw [Function.update_of_ne hu]

/-- What the locks say about the views when thread `t` acts, holding `locks`: whoever
else is counted or in an audited action, or changes ownership, it is not the holder. -/
structure Exclusive (locks : Multiset RuntimeLock) (v : Thread → View) (t : Thread) : Prop where
  counted : ∀ u, (v t).counted = true → (v u).counted = true → u = t
  mutation : RuntimeLock.mutation ∈ locks →
    ∀ u, ((v u).counted = true ∨ (v u).action ≠ none) → u = t
  lifecycle : RuntimeLock.lifecycle ∈ locks → ∀ u, (v u).changing = true → u = t
  action : ∀ u, (v t).action ≠ none → (v u).action ≠ none → u = t

/-- Another thread's view is the one it had. -/
theorem update_other {β : Type*} (f : View → β) {u : Thread} {b : β} (hu : u ≠ t)
    (h : f (Function.update v t v' u) = b) : f (v u) = b := by
  rwa [Function.update_of_ne hu] at h

/-- A thread's view had what it still has. -/
theorem update_same {β : Type*} (f : View → β) {u : Thread} {b : β}
    (h : f (Function.update v t v' u) = b) (hsame : f v' = f (v t)) : f (v u) = b :=
  (update_agrees f hsame u).symm.trans h

/-- A request becomes counted: it is the only one, as it holds the mutation lock. -/
theorem Invariant.count {locks : Multiset RuntimeLock} (h : Invariant s v)
    (hexclusive : Exclusive locks v t) (hmutation : RuntimeLock.mutation ∈ locks)
    (hidle : (v t).counted = false) (hlifecycle : s.lifecycleActive = false)
    (howner : (v t).claim = none → s.interactOwner = none) :
    Invariant { s with activeMutations := s.activeMutations + 1 }
      (Function.update v t { v t with counted := true }) := by
  have hzero : s.activeMutations = 0 := by
    by_contra hne
    obtain ⟨u, hu⟩ := h.counting.exists_counted hne
    rw [hexclusive.mutation hmutation u (.inl hu), hidle] at hu
    exact absurd hu (by simp)
  refine ⟨⟨?_, ?_⟩, h.changing.of_eq rfl (update_agrees View.changing rfl),
    h.claiming.of_eq rfl (update_agrees View.claim rfl), ⟨?_, ?_⟩,
    h.audited.of_eq rfl rfl le_rfl ?_⟩
  · intro _ _
    show s.activeMutations + 1 = 1
    omega
  · intro _
    exact ⟨t, by rw [Function.update_self]⟩
  · intro hactive
    rw [show s.lifecycleActive = true from hactive] at hlifecycle
    exact absurd hlifecycle (by simp)
  · intro u hu hclaim
    have hclaim := update_same View.claim hclaim rfl
    by_cases hut : u = t
    · rw [hut] at hclaim
      exact howner hclaim
    · exact absurd (hexclusive.mutation hmutation u (.inl (update_other View.counted hut hu))) hut
  · intro u attempt hu
    exact update_same View.action hu rfl

/-- The counted request leaves, and nobody is counted any more. -/
theorem Invariant.uncount {locks : Multiset RuntimeLock} (h : Invariant s v)
    (hexclusive : Exclusive locks v t) (hcounted : (v t).counted = true) :
    Invariant { s with activeMutations := s.activeMutations - 1 }
      (Function.update v t { v t with counted := false }) := by
  have hone := h.counting.eq_one t hcounted
  have hnobody : ∀ u, (Function.update v t { v t with counted := false } u).counted ≠ true := by
    intro u hu
    by_cases hut : u = t
    · subst hut
      rw [Function.update_self] at hu
      exact absurd hu (by simp)
    · exact hut (hexclusive.counted u hcounted (update_other View.counted hut hu))
  refine ⟨⟨fun u hu => absurd hu (hnobody u), ?_⟩,
    h.changing.of_eq rfl (update_agrees View.changing rfl),
    h.claiming.of_eq rfl (update_agrees View.claim rfl),
    ⟨?_, fun u hu => absurd hu (hnobody u)⟩, h.audited.of_eq rfl rfl le_rfl ?_⟩
  · intro hne
    exact absurd (show s.activeMutations - 1 = 0 by omega) hne
  · intro hactive
    have hzero := (h.alone.lifecycle hactive).1
    omega
  · intro u attempt hu
    exact update_same View.action hu rfl

/-- A committed attempt is the last one, and nobody else's is still to be dispatched. -/
theorem Invariant.commit {locks : Multiset RuntimeLock} (h : Invariant s v)
    (hexclusive : Exclusive locks v t) (hmutation : RuntimeLock.mutation ∈ locks) :
    Invariant s.commitAttempt
      (Function.update v t { v t with action := some (.attempted s.nextId) }) := by
  refine ⟨h.counting.of_eq rfl (update_agrees View.counted rfl),
    h.changing.of_eq rfl (update_agrees View.changing rfl),
    h.claiming.of_eq rfl (update_agrees View.claim rfl),
    h.alone.of_eq rfl rfl rfl (update_agrees View.counted rfl) (update_agrees View.claim rfl),
    ⟨?_, ?_, ?_, ?_⟩⟩
  · exact h.audited.in_order.trans (List.sublist_append_left _ _)
  · apply List.Nodup.append h.audited.nodup (List.nodup_singleton _)
    intro attempt hmem hnew
    obtain rfl := List.mem_singleton.mp hnew
    exact Nat.lt_irrefl _ (h.audited.fresh _ hmem)
  · intro attempt hmem
    show attempt < s.nextId + 1
    rcases List.mem_append.mp hmem with hold | hnew
    · have := h.audited.fresh attempt hold
      omega
    · obtain rfl := List.mem_singleton.mp hnew
      omega
  · intro u attempt hu
    by_cases hut : u = t
    · subst hut
      rw [Function.update_self] at hu
      obtain rfl := ActionPoint.attempted.inj (Option.some.inj hu)
      exact ⟨s.attempts, rfl, h.audited.in_order⟩
    · rw [Function.update_of_ne hut] at hu
      exact absurd (hexclusive.mutation hmutation u (.inr (by simp [hu]))) hut

/-- The dispatched attempt is the last one, so the dispatches stay in order. -/
theorem Invariant.dispatch {locks : Multiset RuntimeLock} (h : Invariant s v)
    (hexclusive : Exclusive locks v t) {attempt : ℕ}
    (hattempted : (v t).action = some (.attempted attempt)) :
    Invariant (s.beginDispatch attempt)
      (Function.update v t { v t with action := some (.dispatching attempt) }) := by
  obtain ⟨earlier, hattempts, hearlier⟩ := h.audited.pending t attempt hattempted
  refine ⟨h.counting.of_eq rfl (update_agrees View.counted rfl),
    h.changing.of_eq rfl (update_agrees View.changing rfl),
    h.claiming.of_eq rfl (update_agrees View.claim rfl),
    h.alone.of_eq rfl rfl rfl (update_agrees View.counted rfl) (update_agrees View.claim rfl),
    ⟨?_, h.audited.nodup, h.audited.fresh, ?_⟩⟩
  · show (s.dispatches ++ [attempt]).Sublist s.attempts
    rw [hattempts]
    exact hearlier.append (List.Sublist.refl _)
  · intro u other hu
    by_cases hut : u = t
    · subst hut
      rw [Function.update_self] at hu
      exact absurd (Option.some.inj hu) (by simp)
    · rw [Function.update_of_ne hut] at hu
      exact absurd (hexclusive.action u (by simp [hattempted]) (by simp [hu])) hut

/-- An Interact takes ownership inside a counted block, where nobody else has it. -/
theorem Invariant.claim {locks : Multiset RuntimeLock} (h : Invariant s v)
    (hexclusive : Exclusive locks v t) (hcounted : (v t).counted = true) :
    Invariant { s with interactOwner := some s.nextId, nextId := s.nextId + 1 }
      (Function.update v t { v t with claim := some s.nextId }) := by
  have hothers : ∀ u, u ≠ t → (v u).claim = none := by
    intro u hut
    by_contra hu
    by_cases ht : (v t).claim = none
    · obtain ⟨owner, howner⟩ := Option.ne_none_iff_exists'.mp hu
      have htaken := (h.claiming.owner_iff owner).mpr ⟨u, howner⟩
      rw [h.alone.request t hcounted ht] at htaken
      exact absurd htaken (by simp)
    · exact hut (h.claiming.unique u t hu ht)
  have hmine : ∀ u, (Function.update v t { v t with claim := some s.nextId } u).claim ≠ none →
      u = t := by
    intro u hu
    by_contra hut
    rw [Function.update_of_ne hut] at hu
    exact hu (hothers u hut)
  refine ⟨h.counting.of_eq rfl (update_agrees View.counted rfl),
    h.changing.of_eq rfl (update_agrees View.changing rfl), ⟨?_, ?_⟩, ⟨?_, ?_⟩,
    h.audited.of_eq rfl rfl (Nat.le_succ _) ?_⟩
  · intro owner
    constructor
    · intro howner
      obtain rfl := Option.some.inj howner
      exact ⟨t, by rw [Function.update_self]⟩
    · rintro ⟨u, hu⟩
      obtain rfl := hmine u (by simp [hu])
      rw [Function.update_self] at hu
      exact hu
  · intro a b ha hb
    rw [hmine a ha, hmine b hb]
  · intro hactive
    have hzero := (h.alone.lifecycle hactive).1
    have hone := h.counting.eq_one t hcounted
    omega
  · intro u hu hclaim
    by_cases hut : u = t
    · subst hut
      rw [Function.update_self] at hclaim
      exact absurd hclaim (by simp)
    · exact absurd (hexclusive.counted u hcounted (update_other View.counted hut hu)) hut
  · intro u attempt hu
    exact update_same View.action hu rfl

/-- The Interact that has ownership gives it up, and nobody has it. -/
theorem Invariant.giveUp (h : Invariant s v) (hclaim : (v t).claim ≠ none) :
    Invariant { s with interactOwner := none }
      (Function.update v t { v t with claim := none }) := by
  have hnobody : ∀ u, (Function.update v t { v t with claim := none } u).claim = none := by
    intro u
    by_cases hut : u = t
    · subst hut
      rw [Function.update_self]
    · rw [Function.update_of_ne hut]
      by_contra hu
      exact hut (h.claiming.unique u t hu hclaim)
  refine ⟨h.counting.of_eq rfl (update_agrees View.counted rfl),
    h.changing.of_eq rfl (update_agrees View.changing rfl), ⟨?_, ?_⟩,
    ⟨fun hactive => ⟨(h.alone.lifecycle hactive).1, rfl⟩, fun _ _ _ => rfl⟩,
    h.audited.of_eq rfl rfl le_rfl ?_⟩
  · intro owner
    constructor
    · intro howner
      exact absurd howner (by simp)
    · rintro ⟨u, hu⟩
      rw [hnobody u] at hu
      exact absurd hu (by simp)
  · intro a b ha
    exact absurd (hnobody a) ha
  · intro u attempt hu
    exact update_same View.action hu rfl

/-- The lifecycle flag goes up while nobody is counted and no Interact has ownership. -/
theorem Invariant.change (h : Invariant s v) (hidle : s.activeMutations = 0)
    (hfree : s.interactOwner = none) :
    Invariant { s with lifecycleActive := true }
      (Function.update v t { v t with changing := true }) := by
  refine ⟨h.counting.of_eq rfl (update_agrees View.counted rfl), ?_,
    h.claiming.of_eq rfl (update_agrees View.claim rfl), ⟨fun _ => ⟨hidle, hfree⟩, ?_⟩,
    h.audited.of_eq rfl rfl le_rfl ?_⟩
  · exact ⟨fun _ => ⟨t, by rw [Function.update_self]⟩, fun _ => rfl⟩
  · intro _ _ _
    exact hfree
  · intro u attempt hu
    exact update_same View.action hu rfl

/-- The holder of the lifecycle lock takes the flag down: nobody else put it up. -/
theorem Invariant.restore {locks : Multiset RuntimeLock} (h : Invariant s v)
    (hexclusive : Exclusive locks v t) (hlifecycle : RuntimeLock.lifecycle ∈ locks) :
    Invariant { s with lifecycleActive := false }
      (Function.update v t { v t with changing := false }) := by
  refine ⟨h.counting.of_eq rfl (update_agrees View.counted rfl), ?_,
    h.claiming.of_eq rfl (update_agrees View.claim rfl), ⟨?_, ?_⟩,
    h.audited.of_eq rfl rfl le_rfl ?_⟩
  · constructor
    · intro hactive
      exact absurd hactive (by simp)
    · rintro ⟨u, hu⟩
      by_cases hut : u = t
      · subst hut
        rw [Function.update_self] at hu
        exact absurd hu (by simp)
      · exact absurd (hexclusive.lifecycle hlifecycle u (update_other View.changing hut hu)) hut
  · intro hactive
    exact absurd hactive (by simp)
  · intro u hu hclaim
    exact h.alone.request u (update_same View.counted hu rfl) (update_same View.claim hclaim rfl)
  · intro u attempt hu
    exact update_same View.action hu rfl

/-- Every effect keeps the invariant. -/
theorem Invariant.effect {locks : Multiset RuntimeLock} (h : Invariant s v)
    (hexclusive : Exclusive locks v t) (heffect : Effect locks s (v t) s' v') :
    Invariant s' (Function.update v t v') := by
  cases heffect with
  | plain closing closed action haction =>
    refine ⟨h.counting.of_eq rfl (update_agrees View.counted rfl),
      h.changing.of_eq rfl (update_agrees View.changing rfl),
      h.claiming.of_eq rfl (update_agrees View.claim rfl),
      h.alone.of_eq rfl rfl rfl (update_agrees View.counted rfl) (update_agrees View.claim rfl),
      h.audited.of_eq rfl rfl le_rfl ?_⟩
    intro u attempt hu
    by_cases hut : u = t
    · subst hut
      rw [Function.update_self] at hu
      exact absurd hu (haction attempt)
    · rwa [Function.update_of_ne hut] at hu
  | count hmutation hidle hlifecycle howner =>
    exact h.count hexclusive hmutation hidle hlifecycle howner
  | uncount hcounted => exact h.uncount hexclusive hcounted
  | commit hmutation _ => exact h.commit hexclusive hmutation
  | dispatch hattempted => exact h.dispatch hexclusive hattempted
  | claim hcounted => exact h.claim hexclusive hcounted
  | giveUp hclaim => exact h.giveUp hclaim
  | change _ hidle hfree => exact h.change hidle hfree
  | restore hlifecycle => exact h.restore hexclusive hlifecycle

end Invariant

/-! ## Every reachable configuration -/

section Reachable

variable {Thread : Type*}

abbrev RuntimeConfig (Thread : Type*) := Config Thread RuntimeLock Point Shared

theorem exclusive_of_accounted {c : RuntimeConfig Thread} (h : Accounted held c) (t : Thread) :
    Exclusive (held (c.point t)) (view ∘ c.point) t where
  counted _ ht hu := h.exclusive (mutation_mem_held (.inl hu)) (mutation_mem_held (.inl ht))
  mutation ht _ hu := h.exclusive (mutation_mem_held hu) ht
  lifecycle ht _ hu := h.exclusive (lifecycle_mem_held hu) ht
  action _ ht hu := h.exclusive (mutation_mem_held (.inr hu)) (mutation_mem_held (.inr ht))

variable [DecidableEq Thread] {c c' : RuntimeConfig Thread} {t u : Thread}

/-- The runtime's threads, from one in which nobody has entered it. -/
abbrev RuntimeReachable (c : RuntimeConfig Thread) : Prop :=
  Reachable program .idle Shared.start c

theorem RuntimeReachable.accounted (h : RuntimeReachable c) : Accounted held c :=
  Reachable.accounted annotated rfl h

omit [DecidableEq Thread] in
theorem invariant_start : Invariant Shared.start fun _ : Thread => view .idle where
  counting := ⟨fun _ h => absurd h (by simp [view]), fun h => absurd rfl h⟩
  changing := by simp [Changing, Shared.start, view]
  claiming := ⟨by simp [Shared.start, view], by simp [view]⟩
  alone := ⟨by simp [Shared.start], by simp [view]⟩
  audited := ⟨List.Sublist.refl _, List.nodup_nil, by simp [Shared.start], by simp [view]⟩

/-- The invariant holds in every reachable configuration. -/
theorem RuntimeReachable.invariant (h : RuntimeReachable c) :
    Invariant c.shared (view ∘ c.point) := by
  refine Reachable.invariant annotated rfl quiet Invariant invariant_start ?_ h
  intro d t outcomes result haccounted hbefore hat hresult
  have heffect := hasEffect (d.point t)
  rw [hat] at heffect
  exact hbefore.effect (exclusive_of_accounted haccounted t) (heffect d.shared result hresult)

/-! ## What the runtime promises -/

/-- The attempt a thread is dispatching. -/
def Point.dispatching : Point → Option ℕ
  | .mutation _ (.action (.dispatching attempt)) => some attempt
  | .initializer _ (.action (.dispatching attempt)) => some attempt
  | _ => none

/-- A thread serves a client's action request or an Interact's own send. -/
def Point.IsClientRequest : Point → Prop
  | .mutation _ _ => True
  | _ => False

/-- The Interact ownership a thread has, from taking it to giving it up. -/
def Point.interact (p : Point) : Option ℕ := (view p).claim

/-- A thread runs the body of a release or reacquire. -/
def Point.InOwnershipBody : Point → Prop
  | .ownership _ .body | .ownership _ .enterBody | .ownership _ .readBody
  | .ownership _ .leaveBody => True
  | .initializer nested _ => nested = true
  | _ => False

/-- A thread is inside a `_mutation` block, counted or not. -/
def Point.InMutation (p : Point) : Prop := RuntimeLock.mutation ∈ held p

/-- What holds of the runtime's threads at any moment, and of their next steps. -/
structure Arbitrated (c : RuntimeConfig Thread) : Prop where
  one_dispatch : ∀ t u, (c.point t).dispatching ≠ none → (c.point u).dispatching ≠ none → t = u
  attempts_nodup : c.shared.attempts.Nodup
  in_order : c.shared.dispatches.Sublist c.shared.attempts
  interact_exclusive : ∀ t u, (c.point u).interact ≠ none → t ≠ u →
    (c.point t).IsClientRequest → (c.point t).dispatching = none ∧
      ∀ c', Step program c t c' →
        c'.shared.attempts = c.shared.attempts ∧ c'.shared.dispatches = c.shared.dispatches
  ownership_alone : ∀ t u, (c.point t).InOwnershipBody → t ≠ u →
    ¬ (c.point u).InMutation ∧ (c.point u).interact = none
  idle_owns_nothing : ∀ t, c.point t = .idle → ∀ lock n, c.owner lock ≠ some (t, n)
  releases_succeed : ∀ t lock next, program (c.point t) = .release lock next →
    ∃ n, c.owner lock = some (t, n + 1)
  counter_restored : c.shared.activeMutations ≠ 0 → ∃ t, (view (c.point t)).counted = true
  owner_restored : ∀ owner, c.shared.interactOwner = some owner →
    ∃ t, (c.point t).interact = some owner
  lifecycle_restored : c.shared.lifecycleActive = true →
    ∃ t, (view (c.point t)).changing = true
  no_lock_cycle : ∀ t, ¬ Relation.TransGen (WaitsFor program c) t t

theorem audited_of_dispatching {p : Point} (h : p.dispatching ≠ none) : (view p).action ≠ none := by
  unfold Point.dispatching at h
  split at h
  · simp [view, MutationPoint.audited]
  · simp [view, InitializerPoint.audited]
  · exact absurd rfl h

/-- A client request that is not counted writes no attempt and begins no dispatch. -/
theorem logs_of_uncounted {use : MutationUse} {p : MutationPoint} (huncounted : p.counted = false)
    {outcomes : Shared → List (Shared × Point)} (hat : mutationCode use p = .act outcomes)
    {s : Shared} {result : Shared × Point} (hresult : result ∈ outcomes s) :
    result.1.attempts = s.attempts ∧ result.1.dispatches = s.dispatches := by
  cases p with
  | check =>
    obtain rfl := Instruction.act.inj hat
    obtain rfl := List.mem_singleton.mp hresult
    exact ⟨rfl, rfl⟩
  | checkAgain =>
    obtain rfl := Instruction.act.inj hat
    rcases List.mem_cons.mp hresult with rfl | hadmitted
    · exact ⟨rfl, rfl⟩
    · split at hadmitted
      · obtain rfl := List.mem_singleton.mp hadmitted
        exact ⟨rfl, rfl⟩
      · exact absurd hadmitted (by simp)
  | prepare | action p | takeOwnership | setOwner | leaveOwner | finish | uncount =>
    simp [MutationPoint.counted] at huncounted
  | _ => simp [mutationCode] at hat

/-- While an Interact has ownership, no other thread's client request is counted. -/
theorem RuntimeReachable.uncounted (h : RuntimeReachable c)
    (hinteract : (c.point u).interact ≠ none) (hne : t ≠ u) :
    (view (c.point t)).counted = false := by
  by_contra hcounted
  rw [Bool.not_eq_false] at hcounted
  have hinv := h.invariant
  by_cases hclaim : (view (c.point t)).claim = none
  · obtain ⟨owner, howner⟩ := Option.ne_none_iff_exists'.mp hinteract
    have htaken := (hinv.claiming.owner_iff owner).mpr ⟨u, howner⟩
    rw [hinv.alone.request t hcounted hclaim] at htaken
    exact absurd htaken (by simp)
  · exact hne (hinv.claiming.unique t u hclaim hinteract)

theorem RuntimeReachable.interact_exclusive (h : RuntimeReachable c)
    (hinteract : (c.point u).interact ≠ none) (hne : t ≠ u)
    (hclient : (c.point t).IsClientRequest) : (c.point t).dispatching = none ∧
      ∀ c', Step program c t c' →
        c'.shared.attempts = c.shared.attempts ∧ c'.shared.dispatches = c.shared.dispatches := by
  have huncounted := h.uncounted hinteract hne
  cases hp : c.point t with
  | mutation use p =>
    rw [hp] at huncounted
    refine ⟨?_, ?_⟩
    · cases p with
      | action p => simp [view, MutationPoint.counted] at huncounted
      | _ => rfl
    · intro c' hstep
      cases hstep with
      | act hat hresult =>
        rw [hp] at hat
        exact logs_of_uncounted huncounted hat hresult
      | _ => exact ⟨rfl, rfl⟩
  | _ => simp [hp, Point.IsClientRequest] at hclient

theorem Point.InOwnershipBody.locks {p : Point} (h : p.InOwnershipBody) :
    RuntimeLock.lifecycle ∈ held p ∧ (view p).changing = true := by
  cases p with
  | ownership request p =>
    cases p with
    | body | enterBody | readBody | leaveBody =>
      exact ⟨by simp [OwnershipPoint.held], rfl⟩
    | _ => exact absurd h (by simp [Point.InOwnershipBody])
  | initializer nested p =>
    obtain rfl : nested = true := h
    exact ⟨lifecycle_mem_held rfl, rfl⟩
  | _ => exact absurd h (by simp [Point.InOwnershipBody])

theorem Point.InOwnershipBody.inMutation {p : Point} (h : p.InOwnershipBody) : p.InMutation := by
  cases p with
  | ownership request p =>
    cases p with
    | body | enterBody | readBody | leaveBody =>
      simp [Point.InMutation, OwnershipPoint.held]
    | _ => exact absurd h (by simp [Point.InOwnershipBody])
  | initializer nested p =>
    obtain rfl : nested = true := h
    cases p <;> simp [Point.InMutation, InitializerPoint.held, heldAround]
  | _ => exact absurd h (by simp [Point.InOwnershipBody])

theorem RuntimeReachable.ownership_alone (h : RuntimeReachable c)
    (hbody : (c.point t).InOwnershipBody) (hne : t ≠ u) :
    ¬ (c.point u).InMutation ∧ (c.point u).interact = none := by
  refine ⟨fun hu => hne (h.accounted.exclusive hbody.inMutation hu), ?_⟩
  have hactive := h.invariant.changing.mpr ⟨t, hbody.locks.2⟩
  have hfree := (h.invariant.alone.lifecycle hactive).2
  by_contra hinteract
  obtain ⟨owner, howner⟩ := Option.ne_none_iff_exists'.mp hinteract
  rw [(h.invariant.claiming.owner_iff owner).mpr ⟨u, howner⟩] at hfree
  exact absurd hfree (by simp)

/-- Any number of clients, Interacts, ownership changes, initializers and closers, in any
interleaving: one dispatch at a time and in the order of the attempts, Interact and
ownership changes alone, everything given back on every way out, and no lock cycle. -/
theorem arbitrated (c : RuntimeConfig Thread) (h : RuntimeReachable c) : Arbitrated c where
  one_dispatch _ _ ht hu := h.accounted.exclusive
    (mutation_mem_held (.inr (audited_of_dispatching ht)))
    (mutation_mem_held (.inr (audited_of_dispatching hu)))
  attempts_nodup := h.invariant.audited.nodup
  in_order := h.invariant.audited.in_order
  interact_exclusive _ _ hinteract hne hclient := h.interact_exclusive hinteract hne hclient
  ownership_alone _ _ hbody hne := h.ownership_alone hbody hne
  idle_owns_nothing t hidle lock n howner := by
    have hheld := h.accounted.mem_of_owner howner
    rw [hidle] at hheld
    exact absurd hheld (by simp)
  releases_succeed _ _ _ hat := h.accounted.owned_of_release annotated hat
  counter_restored := h.invariant.counting.exists_counted
  owner_restored owner howner := (h.invariant.claiming.owner_iff owner).mp howner
  lifecycle_restored := h.invariant.changing.mp
  no_lock_cycle _ := h.accounted.no_wait_cycle ranked

/-- Two threads, one of which has begun an Interact. -/
theorem arbitrated_claiming : ∃ c : RuntimeConfig Bool, Arbitrated c ∧
    c.point true = .mutation .claiming .check ∧ c.owner .operation = some (true, 1) := by
  have hentered : RuntimeReachable (Config.acted ⟨fun _ => none, Shared.start, fun _ => .idle⟩
      true (Shared.start, .mutation .claiming .enter)) :=
    Reachable.step .start (.act rfl (by simp [entryPoints, Shared.start]))
  have hlocked := Reachable.step (t := true) hentered
    (.acquire (show program (.mutation .claiming .enter) = .acquire .operation _ none from rfl)
      (by intro u n h; simp [Config.acted] at h))
  exact ⟨_, arbitrated _ hlocked, rfl, rfl⟩

end Reachable

end DeviceCoreRuntime
