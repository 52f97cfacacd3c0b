/-
# Threads that share reentrant locks

A program is a control-flow graph: every point acquires a lock, tries to, releases one,
or acts on the shared state.  Any number of threads run it, one instruction at a time and
in any order.

The locks a thread holds are read off its point (`Annotated`); that reading is right in
every reachable configuration (`Reachable.accounted`), which gives mutual exclusion.
If every point waits only for locks above those it holds, no threads wait for each other
in a cycle (`Reachable.no_wait_cycle`).  Invariants of the shared state are proved over
the acting points alone (`Reachable.invariant`).
-/
import Mathlib.Data.Multiset.AddSub
import Mathlib.Data.Multiset.Count
import Mathlib.Logic.Function.Basic
import Mathlib.Logic.Relation

namespace LockedThreads

/-! ## Programs and configurations -/

/-- What a thread does at a point of its program.  A timed `acquire` may also give up. -/
inductive Instruction (Lock Point Shared : Type*)
  | acquire (lock : Lock) (next : Point) (giveUp : Option Point)
  | tryAcquire (lock : Lock) (next refused : Point)
  | release (lock : Lock) (next : Point)
  | act (outcomes : Shared → List (Shared × Point))

/-- Who owns each lock and how many times, the shared state, and where each thread is. -/
structure Config (Thread Lock Point Shared : Type*) where
  owner : Lock → Option (Thread × ℕ)
  shared : Shared
  point : Thread → Point

variable {Thread Lock Point Shared : Type*} [DecidableEq Thread] [DecidableEq Lock]

namespace Config

/-- How many times a thread owns a lock. -/
def holding (c : Config Thread Lock Point Shared) (lock : Lock) (t : Thread) : ℕ :=
  match c.owner lock with
  | some (u, n) => if u = t then n else 0
  | none => 0

/-- A lock is available to a thread if nobody else owns it. -/
def Available (c : Config Thread Lock Point Shared) (lock : Lock) (t : Thread) : Prop :=
  ∀ u n, c.owner lock = some (u, n) → u = t

def moveTo (c : Config Thread Lock Point Shared) (t : Thread) (next : Point) :
    Config Thread Lock Point Shared :=
  { c with point := Function.update c.point t next }

def take (c : Config Thread Lock Point Shared) (lock : Lock) (t : Thread) (next : Point) :
    Config Thread Lock Point Shared :=
  { c with
    owner := Function.update c.owner lock (some (t, c.holding lock t + 1))
    point := Function.update c.point t next }

/-- Give a lock back that is owned `n + 1` times. -/
def drop (c : Config Thread Lock Point Shared) (lock : Lock) (t : Thread) (n : ℕ)
    (next : Point) : Config Thread Lock Point Shared :=
  { c with
    owner := Function.update c.owner lock (if n = 0 then none else some (t, n))
    point := Function.update c.point t next }

def acted (c : Config Thread Lock Point Shared) (t : Thread) (result : Shared × Point) :
    Config Thread Lock Point Shared :=
  { c with shared := result.1, point := Function.update c.point t result.2 }

end Config

/-- One instruction of one thread. -/
inductive Step (program : Point → Instruction Lock Point Shared)
    (c : Config Thread Lock Point Shared) (t : Thread) : Config Thread Lock Point Shared → Prop
  | acquire {lock : Lock} {next : Point} {giveUp : Option Point}
      (hat : program (c.point t) = .acquire lock next giveUp) (havailable : c.Available lock t) :
      Step program c t (c.take lock t next)
  | giveUp {lock : Lock} {next other : Point}
      (hat : program (c.point t) = .acquire lock next (some other)) :
      Step program c t (c.moveTo t other)
  | tryAcquire {lock : Lock} {next refused : Point}
      (hat : program (c.point t) = .tryAcquire lock next refused)
      (havailable : c.Available lock t) : Step program c t (c.take lock t next)
  | refused {lock : Lock} {next refused : Point}
      (hat : program (c.point t) = .tryAcquire lock next refused)
      (htaken : ¬ c.Available lock t) : Step program c t (c.moveTo t refused)
  | release {lock : Lock} {next : Point} {n : ℕ}
      (hat : program (c.point t) = .release lock next) (howned : c.owner lock = some (t, n + 1)) :
      Step program c t (c.drop lock t n next)
  | act {outcomes : Shared → List (Shared × Point)} {result : Shared × Point}
      (hat : program (c.point t) = .act outcomes) (hresult : result ∈ outcomes c.shared) :
      Step program c t (c.acted t result)

/-- The configurations reached from one in which every thread is at `idle` and no lock is
owned. -/
inductive Reachable (program : Point → Instruction Lock Point Shared) (idle : Point)
    (shared : Shared) : Config Thread Lock Point Shared → Prop
  | start : Reachable program idle shared ⟨fun _ => none, shared, fun _ => idle⟩
  | step {c c' : Config Thread Lock Point Shared} {t : Thread}
      (h : Reachable program idle shared c) (hstep : Step program c t c') :
      Reachable program idle shared c'

/-! ## The locks held at a point -/

/-- An instruction agrees with the locks said to be held before and after it. -/
def Instruction.Keeps (held : Point → Multiset Lock) (before : Multiset Lock) :
    Instruction Lock Point Shared → Prop
  | .acquire lock next giveUp =>
      held next = lock ::ₘ before ∧ ∀ other, giveUp = some other → held other = before
  | .tryAcquire lock next refused => held next = lock ::ₘ before ∧ held refused = before
  | .release lock next => before = lock ::ₘ held next
  | .act outcomes => ∀ s, ∀ result ∈ outcomes s, held result.2 = before

/-- `held` says which locks a thread holds at each point, and how often. -/
def Annotated (program : Point → Instruction Lock Point Shared)
    (held : Point → Multiset Lock) : Prop :=
  ∀ p, (program p).Keeps held (held p)

variable {program : Point → Instruction Lock Point Shared} {held : Point → Multiset Lock}
  {idle : Point} {shared : Shared} {c c' : Config Thread Lock Point Shared} {t u : Thread}

/-- Every lock is owned by the thread whose point holds it, as often as the point says. -/
def Accounted (held : Point → Multiset Lock) (c : Config Thread Lock Point Shared) : Prop :=
  ∀ lock t n, c.owner lock = some (t, n) ↔ 0 < n ∧ (held (c.point t)).count lock = n

theorem Accounted.holding_eq (h : Accounted held c) (lock : Lock) (t : Thread) :
    c.holding lock t = (held (c.point t)).count lock := by
  rw [Config.holding]
  cases howner : c.owner lock with
  | none =>
    by_contra hne
    have hpos : 0 < (held (c.point t)).count lock := Nat.pos_of_ne_zero fun h0 => hne h0.symm
    rw [(h lock t _).mpr ⟨hpos, rfl⟩] at howner
    exact absurd howner (by simp)
  | some owned =>
    obtain ⟨u, n⟩ := owned
    show (if u = t then n else 0) = _
    by_cases hu : u = t
    · subst hu
      rw [if_pos rfl]
      exact ((h lock u n).mp howner).2.symm
    · rw [if_neg hu]
      by_contra hne
      have hpos : 0 < (held (c.point t)).count lock := Nat.pos_of_ne_zero fun h0 => hne h0.symm
      have htwice := (h lock t _).mpr ⟨hpos, rfl⟩
      rw [howner] at htwice
      exact hu (congrArg Prod.fst (Option.some.inj htwice))

omit [DecidableEq Thread] in
/-- Two threads never hold the same lock. -/
theorem Accounted.exclusive (h : Accounted held c) {lock : Lock}
    (ht : lock ∈ held (c.point t)) (hu : lock ∈ held (c.point u)) : t = u := by
  have hownert := (h lock t _).mpr ⟨Multiset.count_pos.mpr ht, rfl⟩
  have howneru := (h lock u _).mpr ⟨Multiset.count_pos.mpr hu, rfl⟩
  rw [hownert] at howneru
  exact congrArg Prod.fst (Option.some.inj howneru)

omit [DecidableEq Thread] in
/-- A thread owns no lock its point does not hold. -/
theorem Accounted.mem_of_owner (h : Accounted held c) {lock : Lock} {n : ℕ}
    (howner : c.owner lock = some (t, n)) : lock ∈ held (c.point t) := by
  obtain ⟨hpos, hcount⟩ := (h lock t n).mp howner
  exact Multiset.count_pos.mp (by omega)

/-- Moving to a point that holds the same locks keeps the account. -/
theorem Accounted.moveTo (h : Accounted held c) {next : Point}
    (hnext : held next = held (c.point t)) : Accounted held (c.moveTo t next) := by
  intro lock u n
  have hpoint : held ((c.moveTo t next).point u) = held (c.point u) := by
    show held (Function.update c.point t next u) = held (c.point u)
    by_cases hu : u = t
    · subst hu
      rw [Function.update_self, hnext]
    · rw [Function.update_of_ne hu]
  rw [hpoint]
  exact h lock u n

/-- Taking an available lock keeps the account. -/
theorem Accounted.take (h : Accounted held c) {lock : Lock} {next : Point}
    (havailable : c.Available lock t) (hnext : held next = lock ::ₘ held (c.point t)) :
    Accounted held (c.take lock t next) := by
  intro lock' u n
  rw [Config.take, h.holding_eq]
  by_cases hlock : lock' = lock
  · subst hlock
    simp only [Function.update_self]
    by_cases hu : u = t
    · subst hu
      rw [Function.update_self, hnext, Multiset.count_cons_self]
      constructor
      · intro heq
        have := congrArg Prod.snd (Option.some.inj heq)
        simp only at this
        omega
      · rintro ⟨_, rfl⟩
        rfl
    · rw [Function.update_of_ne hu]
      constructor
      · intro heq
        exact absurd (congrArg Prod.fst (Option.some.inj heq)).symm hu
      · intro hcount
        exact absurd (havailable u n ((h lock' u n).mpr hcount)) hu
  · simp only [Function.update_of_ne hlock]
    by_cases hu : u = t
    · subst hu
      rw [Function.update_self, hnext, Multiset.count_cons_of_ne hlock]
      exact h lock' u n
    · rw [Function.update_of_ne hu]
      exact h lock' u n

/-- Giving back a lock keeps the account. -/
theorem Accounted.drop (h : Accounted held c) {lock : Lock} {next : Point} {n : ℕ}
    (howned : c.owner lock = some (t, n + 1)) (hnext : held (c.point t) = lock ::ₘ held next) :
    Accounted held (c.drop lock t n next) := by
  have hcount : (held next).count lock = n := by
    have hheld := ((h lock t (n + 1)).mp howned).2
    rw [hnext, Multiset.count_cons_self] at hheld
    omega
  intro lock' u k
  rw [Config.drop]
  by_cases hlock : lock' = lock
  · subst hlock
    simp only [Function.update_self]
    by_cases hu : u = t
    · subst hu
      rw [Function.update_self, hcount]
      by_cases hn : n = 0
      · rw [if_pos hn]
        constructor
        · intro heq
          exact absurd heq (by simp)
        · rintro ⟨hpos, hk⟩
          omega
      · rw [if_neg hn]
        constructor
        · intro heq
          have := congrArg Prod.snd (Option.some.inj heq)
          simp only at this
          omega
        · rintro ⟨_, rfl⟩
          rfl
    · rw [Function.update_of_ne hu]
      have hother : ¬ (0 < k ∧ (held (c.point u)).count lock' = k) := by
        intro hheld
        have howner := (h lock' u k).mpr hheld
        rw [howned] at howner
        exact hu (congrArg Prod.fst (Option.some.inj howner)).symm
      constructor
      · intro heq
        split at heq
        · exact absurd heq (by simp)
        · exact absurd (congrArg Prod.fst (Option.some.inj heq)).symm hu
      · intro hheld
        exact absurd hheld hother
  · simp only [Function.update_of_ne hlock]
    by_cases hu : u = t
    · subst hu
      have hsame : (held (c.point u)).count lock' = (held next).count lock' := by
        rw [hnext, Multiset.count_cons_of_ne hlock]
      rw [Function.update_self, ← hsame]
      exact h lock' u k
    · rw [Function.update_of_ne hu]
      exact h lock' u k

/-- Every step keeps the account. -/
theorem Accounted.step (hannotated : Annotated program held) (h : Accounted held c)
    (hstep : Step program c t c') : Accounted held c' := by
  have hkeeps := hannotated (c.point t)
  cases hstep with
  | acquire hat havailable =>
    rw [hat] at hkeeps
    exact h.take havailable hkeeps.1
  | giveUp hat =>
    rw [hat] at hkeeps
    exact h.moveTo (hkeeps.2 _ rfl)
  | tryAcquire hat havailable =>
    rw [hat] at hkeeps
    exact h.take havailable hkeeps.1
  | refused hat _ =>
    rw [hat] at hkeeps
    exact h.moveTo hkeeps.2
  | release hat howned =>
    rw [hat] at hkeeps
    exact h.drop howned hkeeps
  | act hat hresult =>
    rw [hat] at hkeeps
    have hmoved := h.moveTo (hkeeps _ _ hresult)
    exact fun lock u n => hmoved lock u n

/-- In every reachable configuration the annotation tells who owns which lock. -/
theorem Reachable.accounted (hannotated : Annotated program held) (hidle : held idle = 0)
    (h : Reachable program idle shared c) : Accounted held c := by
  induction h with
  | start =>
    intro lock t n
    simp only [hidle, Multiset.count_zero]
    constructor
    · intro heq
      exact absurd heq (by simp)
    · rintro ⟨hpos, hzero⟩
      omega
  | step _ hstep ih => exact ih.step hannotated hstep

omit [DecidableEq Thread] in
/-- A release never fails: the lock is owned by the thread that gives it back. -/
theorem Accounted.owned_of_release (hannotated : Annotated program held) (h : Accounted held c)
    {lock : Lock} {next : Point} (hat : program (c.point t) = .release lock next) :
    ∃ n, c.owner lock = some (t, n + 1) := by
  have hkeeps : held (c.point t) = lock ::ₘ held next := by
    have := hannotated (c.point t)
    rwa [hat] at this
  refine ⟨(held next).count lock, ?_⟩
  apply (h lock t _).mpr
  rw [hkeeps, Multiset.count_cons_self]
  exact ⟨by omega, rfl⟩

/-! ## Waiting -/

/-- A thread waits, with or without a time limit, for a lock another thread owns. -/
def WaitsFor (program : Point → Instruction Lock Point Shared)
    (c : Config Thread Lock Point Shared) (t u : Thread) : Prop :=
  t ≠ u ∧ ∃ lock next giveUp n,
    program (c.point t) = .acquire lock next giveUp ∧ c.owner lock = some (u, n)

/-- A wait is for a lock that ranks above the others held. -/
def Instruction.Rises (rank : Lock → ℕ) (held : Multiset Lock) :
    Instruction Lock Point Shared → Prop
  | .acquire lock _ _ => ∀ other ∈ held, other ≠ lock → rank other < rank lock
  | _ => True

/-- Every point waits only for locks that rank above the others it holds. -/
def Ranked (program : Point → Instruction Lock Point Shared) (held : Point → Multiset Lock)
    (rank : Lock → ℕ) : Prop :=
  ∀ p, (program p).Rises rank (held p)

variable {rank : Lock → ℕ}

omit [DecidableEq Thread] in
/-- Along a chain of waiting threads the awaited locks rise in rank. -/
theorem Accounted.rank_lt_of_chain (hranked : Ranked program held rank) (h : Accounted held c)
    (hchain : Relation.TransGen (WaitsFor program c) t u) {lock lock' : Lock}
    {next next' : Point} {giveUp giveUp' : Option Point} {v : Thread} {n : ℕ}
    (ht : program (c.point t) = .acquire lock next giveUp)
    (hu : program (c.point u) = .acquire lock' next' giveUp')
    (huv : u ≠ v) (howner : c.owner lock' = some (v, n)) : rank lock < rank lock' := by
  -- one link: the awaited thread holds the lock and waits for another one
  have hlink : ∀ {a b w : Thread} {l l' : Lock} {p p' : Point} {g g' : Option Point} {k : ℕ},
      WaitsFor program c a b → program (c.point a) = .acquire l p g →
      program (c.point b) = .acquire l' p' g' → b ≠ w → c.owner l' = some (w, k) →
      rank l < rank l' := by
    intro a b w l l' p p' g g' k hwaits ha hb hbw hl'
    obtain ⟨_, l₀, p₀, g₀, k₀, ha₀, hl₀⟩ := hwaits
    rw [ha] at ha₀
    obtain ⟨rfl, -, -⟩ := Instruction.acquire.inj ha₀
    have hrises := hranked (c.point b)
    rw [hb] at hrises
    apply hrises l (h.mem_of_owner hl₀)
    rintro rfl
    rw [hl₀] at hl'
    exact hbw (congrArg Prod.fst (Option.some.inj hl'))
  induction hchain generalizing lock' next' giveUp' v n with
  | single hwaits => exact hlink hwaits ht hu huv howner
  | tail _ hwaits ih =>
    obtain ⟨hne, l, p, g, k, hmid, hl⟩ := hwaits
    have hbefore := ih hmid hne hl
    have hlast := hlink ⟨hne, l, p, g, k, hmid, hl⟩ hmid hu huv howner
    omega

omit [DecidableEq Thread] in
/-- No threads wait for each other in a cycle. -/
theorem Accounted.no_wait_cycle (hranked : Ranked program held rank) (h : Accounted held c) :
    ¬ Relation.TransGen (WaitsFor program c) t t := by
  intro hcycle
  have hfirst : ∃ u, WaitsFor program c t u := by
    cases Relation.TransGen.head'_iff.mp hcycle with
    | intro u hu => exact ⟨u, hu.1⟩
  obtain ⟨u, hne, lock, next, giveUp, n, hat, howner⟩ := hfirst
  exact Nat.lt_irrefl _ (h.rank_lt_of_chain hranked hcycle hat hat hne howner)

/-! ## Invariants over the acting points -/

/-- An instruction that does not act leaves the view of the thread's point as it is. -/
def Instruction.Unseen {View : Type*} (view : Point → View) (before : View) :
    Instruction Lock Point Shared → Prop
  | .acquire _ next giveUp =>
      view next = before ∧ ∀ other, giveUp = some other → view other = before
  | .tryAcquire _ next refused => view next = before ∧ view refused = before
  | .release _ next => view next = before
  | .act _ => True

/-- A view of the points that locking and unlocking do not change. -/
def Quiet {View : Type*} (program : Point → Instruction Lock Point Shared)
    (view : Point → View) : Prop :=
  ∀ p, (program p).Unseen view (view p)

/-- A statement about the shared state and the views of all threads holds throughout if it
holds at the start and every action keeps it. -/
theorem Reachable.invariant {View : Type*} {view : Point → View}
    (hannotated : Annotated program held) (hidle : held idle = 0) (hquiet : Quiet program view)
    (P : Shared → (Thread → View) → Prop) (hstart : P shared fun _ => view idle)
    (hact : ∀ (c : Config Thread Lock Point Shared) (t : Thread) outcomes result,
      Accounted held c → P c.shared (view ∘ c.point) → program (c.point t) = .act outcomes →
      result ∈ outcomes c.shared →
      P result.1 (Function.update (view ∘ c.point) t (view result.2)))
    (h : Reachable program idle shared c) : P c.shared (view ∘ c.point) := by
  induction h with
  | start => exact hstart
  | @step c c' t hbefore hstep ih =>
    have hsame : ∀ next, view next = view (c.point t) →
        view ∘ Function.update c.point t next = view ∘ c.point := by
      intro next hnext
      rw [Function.comp_update, hnext]
      exact Function.update_eq_self t (view ∘ c.point)
    have hunseen := hquiet (c.point t)
    cases hstep with
    | acquire hat _ =>
      rw [hat] at hunseen
      rw [show (c.take _ t _).point = Function.update c.point t _ from rfl, hsame _ hunseen.1]
      exact ih
    | giveUp hat =>
      rw [hat] at hunseen
      rw [show (c.moveTo t _).point = Function.update c.point t _ from rfl,
        hsame _ (hunseen.2 _ rfl)]
      exact ih
    | tryAcquire hat _ =>
      rw [hat] at hunseen
      rw [show (c.take _ t _).point = Function.update c.point t _ from rfl, hsame _ hunseen.1]
      exact ih
    | refused hat _ =>
      rw [hat] at hunseen
      rw [show (c.moveTo t _).point = Function.update c.point t _ from rfl, hsame _ hunseen.2]
      exact ih
    | release hat _ =>
      rw [hat] at hunseen
      rw [show (c.drop _ t _ _).point = Function.update c.point t _ from rfl, hsame _ hunseen]
      exact ih
    | act hat hresult =>
      rw [show (c.acted t _).point = Function.update c.point t _ from rfl, Function.comp_update]
      exact hact c t _ _ (hbefore.accounted hannotated hidle) ih hat hresult

end LockedThreads
