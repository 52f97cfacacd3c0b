/-
# The locks of the runtime

`DeviceCoreRuntime` arbitrates physical actions with three locks, a counter and two
flags.  This file writes its entry points down as programs over them: the four action
requests and Interact (`_mutation`, `_run_bounded_operation`), release and reacquire
(`_ownership_change`), the reconnect initializer, `close` and `status`.

Every read or write of the flags happens inside a critical section of the operation lock
and is one action here.  What an entry point does besides is kept as the choices it can
make: whatever may raise can raise.
-/
import DutchMate.LockedThreads

open LockedThreads

namespace DeviceCoreRuntime

/-! ## Locks and shared state -/

inductive RuntimeLock
  | lifecycle | mutation | operation
  deriving DecidableEq, Repr

/-- The arbitration state, and the attempt records and dispatches so far, oldest first.
Attempt and operation ids are drawn from `nextId`, so no two of them agree. -/
structure Shared where
  activeMutations : ℕ
  interactOwner : Option ℕ
  lifecycleActive : Bool
  closing : Bool
  closed : Bool
  attempts : List ℕ
  dispatches : List ℕ
  nextId : ℕ
  deriving DecidableEq, Repr

def Shared.start : Shared := ⟨0, none, false, false, false, [], [], 0⟩

/-- `_check_interact_owner` lets a request of this owner pass. -/
def Shared.admits (s : Shared) (owner : Option ℕ) : Bool :=
  !s.lifecycleActive && (s.interactOwner = none || s.interactOwner = owner)

/-! ## Program points -/

inductive ActionRequest
  | sendUart | resetDut | setBootMode | configureGpioMode
  deriving DecidableEq, Repr

/-- What a `_mutation` block is part of.  `claiming` and `claimed` are the block in which
an Interact takes ownership, before and after it did; `sending` is its own send. -/
inductive MutationUse
  | request (kind : ActionRequest)
  | claiming
  | claimed (owner : ℕ)
  | sending (owner : ℕ)
  deriving DecidableEq, Repr

/-- An audited physical action: its attempt is committed, its backend call runs, its
backend call is over. -/
inductive ActionPoint
  | attempted (attempt : ℕ)
  | dispatching (attempt : ℕ)
  | dispatched (attempt : ℕ)
  deriving DecidableEq, Repr

inductive MutationPoint
  | enter | check | leaveCheck (refused : Bool)
  | lock | enterAgain | checkAgain | leaveAgain (refused : Bool)
  | prepare | action (p : ActionPoint)
  | takeOwnership | setOwner | leaveOwner
  | finish | uncount | leaveFinish | unlock
  deriving DecidableEq, Repr

inductive BoundedPoint
  | enter | begin | leaveStart (refused : Bool)
  | act | waiting
  | finish | pop | leavePop
  deriving DecidableEq, Repr

inductive GiveUpPoint
  | enter | clear | leave
  deriving DecidableEq, Repr

inductive OwnershipRequest
  | release | reacquire
  deriving DecidableEq, Repr

/-- `_ownership_change`.  On the way out, `changing` says whether this thread set the
lifecycle flag and `acquired` whether it took the mutation lock. -/
inductive OwnershipPoint
  | lock | enter | check | leaveCheck (refused : Bool)
  | lockMutation | body | enterBody | readBody | leaveBody
  | restore (changing acquired : Bool) | clear (changing acquired : Bool)
  | leaveClear (acquired : Bool)
  | unlockMutation | unlock
  deriving DecidableEq, Repr

inductive InitializerPoint
  | lock | poll | begin | controls | action (p : ActionPoint) | unlock
  deriving DecidableEq, Repr

inductive ClosePoint
  | enter | check | leave (first : Bool)
  | await | lock | shutdown | enterAgain | finish | leaveAgain | unlock
  deriving DecidableEq, Repr

inductive StatusPoint
  | enter | read | leave
  deriving DecidableEq, Repr

/-- Where a thread is.  A bounded operation may belong to an Interact.  The initializer
runs on the reconnect worker, or nested in the body of a reacquire, on the thread that
already holds the mutation lock. -/
inductive Point
  | idle
  | mutation (use : MutationUse) (p : MutationPoint)
  | bounded (owner : Option ℕ) (p : BoundedPoint)
  | givingUp (owner : ℕ) (p : GiveUpPoint)
  | ownership (request : OwnershipRequest) (p : OwnershipPoint)
  | initializer (nested : Bool) (p : InitializerPoint)
  | close (p : ClosePoint)
  | status (p : StatusPoint)
  deriving DecidableEq, Repr

abbrev Code := Instruction RuntimeLock Point Shared

/-! ## The entry points -/

/-- The owner a `_mutation` block was entered with. -/
def MutationUse.owner : MutationUse → Option ℕ
  | .sending owner => some owner
  | _ => none

/-- Where a thread goes from a `_mutation` block, also when the block raised. -/
def MutationUse.exit : MutationUse → Point
  | .request _ => .idle
  | .claiming => .idle
  | .claimed owner => .bounded (some owner) .enter
  | .sending owner => .bounded (some owner) .waiting

/-- Commit an attempt record under a new id. -/
def Shared.commitAttempt (s : Shared) : Shared :=
  { s with attempts := s.attempts ++ [s.nextId], nextId := s.nextId + 1 }

def Shared.beginDispatch (s : Shared) (attempt : ℕ) : Shared :=
  { s with dispatches := s.dispatches ++ [attempt] }

/-- An audited action.  After its attempt it may be rejected without a backend call; the
call may raise; `next` is where the result is stored and `raised` where errors go. -/
def actionCode (at' : ActionPoint → Point) (next raised : Point) : ActionPoint → Code
  | .attempted attempt => .act fun s =>
      [(s.beginDispatch attempt, at' (.dispatching attempt)), (s, at' (.dispatched attempt)),
        (s, raised)]
  | .dispatching attempt => .act fun s => [(s, at' (.dispatched attempt)), (s, raised)]
  | .dispatched _ => .act fun s => [(s, next), (s, raised)]

/-- `_mutation` with the body of each request. -/
def mutationCode (use : MutationUse) : MutationPoint → Code
  | .enter => .acquire .operation (.mutation use .check) none
  | .check => .act fun s => [(s, .mutation use (.leaveCheck !(s.admits use.owner)))]
  | .leaveCheck refused =>
      .release .operation (if refused then use.exit else .mutation use .lock)
  | .lock => .acquire .mutation (.mutation use .enterAgain) none
  | .enterAgain => .acquire .operation (.mutation use .checkAgain) none
  | .checkAgain => .act fun s =>
      -- the recorder may refuse the action as well
      (s, .mutation use (.leaveAgain true)) ::
        if s.admits use.owner then
          [({ s with activeMutations := s.activeMutations + 1 },
            .mutation use (.leaveAgain false))]
        else []
  | .leaveAgain refused =>
      .release .operation (.mutation use (if refused then .unlock else .prepare))
  | .prepare => .act fun s =>
      [(s, .mutation use .finish),
        match use with
        | .claiming => (s, .mutation use .takeOwnership)
        | _ => (s.commitAttempt, .mutation use (.action (.attempted s.nextId)))]
  | .action p =>
      actionCode (fun p => .mutation use (.action p)) (.mutation use .finish)
        (.mutation use .finish) p
  | .takeOwnership => .acquire .operation (.mutation use .setOwner) none
  | .setOwner => .act fun s =>
      [({ s with interactOwner := some s.nextId, nextId := s.nextId + 1 },
        .mutation (.claimed s.nextId) .leaveOwner)]
  | .leaveOwner => .release .operation (.mutation use .finish)
  | .finish => .acquire .operation (.mutation use .uncount) none
  | .uncount => .act fun s =>
      [({ s with activeMutations := s.activeMutations - 1 }, .mutation use .leaveFinish)]
  | .leaveFinish => .release .operation (.mutation use .unlock)
  | .unlock => .release .mutation use.exit

/-- Where a thread goes from a bounded operation, also when it raised. -/
def boundedExit : Option ℕ → Point
  | some owner => .givingUp owner .enter
  | none => .idle

/-- `_run_bounded_operation`. -/
def boundedCode (owner : Option ℕ) : BoundedPoint → Code
  | .enter => .acquire .operation (.bounded owner .begin) none
  | .begin => .act fun s =>
      (s, .bounded owner (.leaveStart true)) ::
        if s.closing || s.closed || s.lifecycleActive then []
        else [(s, .bounded owner (.leaveStart false))]
  | .leaveStart refused =>
      .release .operation (if refused then boundedExit owner else .bounded owner .act)
  | .act => .act fun s =>
      (s, .bounded owner .waiting) ::
        match owner with
        | some o => [(s, .mutation (.sending o) .enter)]
        | none => []
  | .waiting => .act fun s => [(s, .bounded owner .finish)]
  | .finish => .acquire .operation (.bounded owner .pop) none
  | .pop => .act fun s => [(s, .bounded owner .leavePop)]
  | .leavePop => .release .operation (boundedExit owner)

/-- The `finally` of `interact`. -/
def givingUpCode (owner : ℕ) : GiveUpPoint → Code
  | .enter => .acquire .operation (.givingUp owner .clear) none
  | .clear => .act fun s => [({ s with interactOwner := none }, .givingUp owner .leave)]
  | .leave => .release .operation .idle

/-- `_ownership_change` around `release_connection` and `reacquire_connection`. -/
def ownershipCode (request : OwnershipRequest) : OwnershipPoint → Code
  | .lock => .tryAcquire .lifecycle (.ownership request .enter) .idle
  | .enter => .acquire .operation (.ownership request .check) none
  | .check => .act fun s =>
      if s.closing || s.closed || !(s.admits none) || s.activeMutations != 0 then
        [(s, .ownership request (.leaveCheck true))]
      else
        [({ s with lifecycleActive := true }, .ownership request (.leaveCheck false))]
  | .leaveCheck refused =>
      .release .operation
        (.ownership request (if refused then .restore false false else .lockMutation))
  | .lockMutation =>
      .tryAcquire .mutation (.ownership request .body) (.ownership request (.restore true false))
  | .body => .act fun s =>
      [(s, .ownership request .enterBody), (s, .ownership request (.restore true true))] ++
        match request with
        | .release => []
        | .reacquire => [(s, .initializer true .lock)]
  | .enterBody => .acquire .operation (.ownership request .readBody) none
  | .readBody => .act fun s => [(s, .ownership request .leaveBody)]
  | .leaveBody => .release .operation (.ownership request .body)
  | .restore changing acquired =>
      .acquire .operation (.ownership request (.clear changing acquired)) none
  | .clear _ acquired => .act fun s =>
      [({ s with lifecycleActive := false }, .ownership request (.leaveClear acquired))]
  | .leaveClear acquired =>
      .release .operation (.ownership request (if acquired then .unlockMutation else .unlock))
  | .unlockMutation => .release .mutation (.ownership request .unlock)
  | .unlock => .release .lifecycle .idle

/-- Where the initializer returns to, also when it raised. -/
def initializerExit (nested : Bool) : Point :=
  if nested then .ownership .reacquire .body else .idle

/-- `_initialize_profile_controls`: it polls for the mutation lock, then configures the
profile's controls one after the other. -/
def initializerCode (nested : Bool) : InitializerPoint → Code
  | .lock => .acquire .mutation (.initializer nested .begin) (some (.initializer nested .poll))
  | .poll => .act fun s =>
      (s, initializerExit nested) ::
        if s.closing || s.closed then [] else [(s, .initializer nested .lock)]
  | .begin => .act fun s =>
      (s, .initializer nested .unlock) ::
        if s.closing || s.closed then [] else [(s, .initializer nested .controls)]
  | .controls => .act fun s =>
      [(s, .initializer nested .unlock),
        (s.commitAttempt, .initializer nested (.action (.attempted s.nextId)))]
  | .action p =>
      actionCode (fun p => .initializer nested (.action p)) (.initializer nested .controls)
        (.initializer nested .unlock) p
  | .unlock => .release .mutation (initializerExit nested)

/-- `close`. -/
def closeCode : ClosePoint → Code
  | .enter => .acquire .operation (.close .check) none
  | .check => .act fun s =>
      if s.closing || s.closed then [(s, .close (.leave false))]
      else [({ s with closing := true }, .close (.leave true))]
  | .leave first => .release .operation (if first then .close .await else .status .enter)
  | .await => .act fun s => [(s, .close .lock)]
  | .lock => .acquire .mutation (.close .shutdown) none
  | .shutdown => .act fun s => [(s, .close .enterAgain)]
  | .enterAgain => .acquire .operation (.close .finish) none
  | .finish => .act fun s => [({ s with closed := true }, .close .leaveAgain)]
  | .leaveAgain => .release .operation (.close .unlock)
  | .unlock => .release .mutation .idle

/-- `status`, and every other short look under the operation lock. -/
def statusCode : StatusPoint → Code
  | .enter => .acquire .operation (.status .read) none
  | .read => .act fun s => [(s, .status .leave)]
  | .leave => .release .operation .idle

/-- Any idle thread may enter the runtime anywhere. -/
def entryPoints : List Point :=
  [.mutation (.request .sendUart) .enter, .mutation (.request .resetDut) .enter,
    .mutation (.request .setBootMode) .enter, .mutation (.request .configureGpioMode) .enter,
    .mutation .claiming .enter, .bounded none .enter, .ownership .release .lock,
    .ownership .reacquire .lock, .initializer false .lock, .close .enter, .status .enter]

def program : Point → Code
  | .idle => .act fun s => entryPoints.map fun p => (s, p)
  | .mutation use p => mutationCode use p
  | .bounded owner p => boundedCode owner p
  | .givingUp owner p => givingUpCode owner p
  | .ownership request p => ownershipCode request p
  | .initializer nested p => initializerCode nested p
  | .close p => closeCode p
  | .status p => statusCode p

end DeviceCoreRuntime
