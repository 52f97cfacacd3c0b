/-
# Programs whose steps may fail

A program over a durable state takes steps, and every step may complete, fail or be
cut by a crash, after part of its effect.  The environment's choices are a schedule,
one outcome a step, and the run leaves a log of the steps with their outcomes.  A
raised error can be caught, a crash cannot.

`Triple P m Q E C` says that from `P` the program ends in `Q` when it returns, in `E`
when it raises and in `C` when it crashes, whatever the schedule is.
-/
import Mathlib.Data.List.Basic
import Mathlib.Tactic.Common

namespace Faults

/-- What the environment does to one step: the extent says how much of the step's
effect took place before it failed or the machine stopped. -/
inductive Outcome where
  | ok
  | fail (extent : ℕ)
  | crash (extent : ℕ)
  deriving DecidableEq, Repr

/-- Whether a step had any effect. -/
def Outcome.took : Outcome → Bool
  | .ok => true
  | .fail extent => extent ≠ 0
  | .crash extent => extent ≠ 0

/-- How a program ends. -/
inductive Result (ε α : Type) where
  | done (a : α)
  | raised (e : ε)
  | crashed
  deriving DecidableEq, Repr

/-- The durable state, the outcomes still to come and the steps taken. -/
structure World (σ ι : Type) where
  state : σ
  schedule : List Outcome
  log : List (ι × Outcome)

/-- A program with steps `ι` over the state `σ`. -/
def Prog (σ ι ε α : Type) := World σ ι → Result ε α × World σ ι

variable {σ ι ε α β : Type}

instance : Monad (Prog σ ι ε) where
  pure a := fun w => (.done a, w)
  bind m f := fun w =>
    match m w with
    | (.done a, w') => f a w'
    | (.raised e, w') => (.raised e, w')
    | (.crashed, w') => (.crashed, w')

/-- Look at the durable state. -/
def look : Prog σ ι ε σ := fun w => (.done w.state, w)

/-- Raise an error. -/
def raise (e : ε) : Prog σ ι ε α := fun w => (.raised e, w)

/-- Run a program and handle the error it raises; a crash passes through. -/
def catching (m : Prog σ ι ε α) (handler : ε → Prog σ ι ε α) : Prog σ ι ε α := fun w =>
  match m w with
  | (.raised e, w') => handler e w'
  | r => r

/-- One step with effect `effect`; `cut n` is the state when it is cut at extent `n`,
and `error` is raised when it fails.  An exhausted schedule lets every step complete. -/
def step (label : ι) (effect : σ → σ) (cut : ℕ → σ → σ) (error : ε) : Prog σ ι ε Unit := fun w =>
  match w.schedule with
  | [] => (.done (), ⟨effect w.state, [], w.log ++ [(label, .ok)]⟩)
  | .ok :: rest => (.done (), ⟨effect w.state, rest, w.log ++ [(label, .ok)]⟩)
  | .fail n :: rest => (.raised error, ⟨cut n w.state, rest, w.log ++ [(label, .fail n)]⟩)
  | .crash n :: rest => (.crashed, ⟨cut n w.state, rest, w.log ++ [(label, .crash n)]⟩)

/-- A step whose effect takes place as a whole or not at all. -/
def atomic (label : ι) (effect : σ → σ) (error : ε) : Prog σ ι ε Unit :=
  step label effect (fun n s => if n = 0 then s else effect s) error

/-- A step without an effect. -/
def reading (label : ι) (error : ε) : Prog σ ι ε Unit := step label id (fun _ s => s) error

/-- Run a program from a state under a schedule. -/
def run (m : Prog σ ι ε α) (s : σ) (schedule : List Outcome) : Result ε α × World σ ι :=
  m ⟨s, schedule, []⟩

/-! ## Triples -/

/-- A property of the durable state and of the steps taken. -/
abbrev Assertion (σ ι : Type) := σ → List (ι × Outcome) → Prop

/-- From `P` the program returns in `Q`, raises in `E` or crashes in `C`. -/
def Triple (P : Assertion σ ι) (m : Prog σ ι ε α) (Q : α → Assertion σ ι)
    (E C : Assertion σ ι) : Prop :=
  ∀ w, P w.state w.log → ∀ r w', m w = (r, w') →
    match r with
    | .done a => Q a w'.state w'.log
    | .raised _ => E w'.state w'.log
    | .crashed => C w'.state w'.log

theorem triple_pure {P : Assertion σ ι} {a : α} {Q : α → Assertion σ ι} {E C : Assertion σ ι}
    (h : ∀ s l, P s l → Q a s l) : Triple P (pure a : Prog σ ι ε α) Q E C := by
  intro w hw r w' hrun
  cases hrun
  exact h _ _ hw

theorem triple_raise {P : Assertion σ ι} {e : ε} {Q : α → Assertion σ ι} {E C : Assertion σ ι}
    (h : ∀ s l, P s l → E s l) : Triple P (raise e : Prog σ ι ε α) Q E C := by
  intro w hw r w' hrun
  cases hrun
  exact h _ _ hw

/-- What follows may use the state that was read. -/
theorem triple_look {P : Assertion σ ι} {f : σ → Prog σ ι ε α} {Q : α → Assertion σ ι}
    {E C : Assertion σ ι}
    (h : ∀ s₀, Triple (fun s l => s = s₀ ∧ P s l) (f s₀) Q E C) :
    Triple P (look >>= f) Q E C := by
  intro w hw r w' hrun
  exact h w.state w ⟨rfl, hw⟩ r w' hrun

theorem triple_bind {P : Assertion σ ι} {m : Prog σ ι ε α} {f : α → Prog σ ι ε β}
    {M : α → Assertion σ ι} {Q : β → Assertion σ ι} {E C : Assertion σ ι}
    (hm : Triple P m M E C) (hf : ∀ a, Triple (M a) (f a) Q E C) :
    Triple P (m >>= f) Q E C := by
  intro w hw r w' hrun
  cases hmw : m w with
  | mk r₁ w₁ =>
    have h₁ := hm w hw r₁ w₁ hmw
    simp only [bind, hmw] at hrun
    cases r₁ with
    | done a => exact hf a w₁ h₁ r w' hrun
    | raised e => cases hrun; exact h₁
    | crashed => cases hrun; exact h₁

/-- The handler starts where the program raised. -/
theorem triple_catching {P : Assertion σ ι} {m : Prog σ ι ε α} {handler : ε → Prog σ ι ε α}
    {Q : α → Assertion σ ι} {R E C : Assertion σ ι}
    (hm : Triple P m Q R C) (hh : ∀ e, Triple R (handler e) Q E C) :
    Triple P (catching m handler) Q E C := by
  intro w hw r w' hrun
  cases hmw : m w with
  | mk r₁ w₁ =>
    have h₁ := hm w hw r₁ w₁ hmw
    simp only [catching, hmw] at hrun
    cases r₁ with
    | done a => cases hrun; exact h₁
    | raised e => exact hh e w₁ h₁ r w' hrun
    | crashed => cases hrun; exact h₁

theorem triple_conseq {P P' : Assertion σ ι} {m : Prog σ ι ε α} {Q Q' : α → Assertion σ ι}
    {E E' C C' : Assertion σ ι} (h : Triple P' m Q' E' C') (hP : ∀ s l, P s l → P' s l)
    (hQ : ∀ a s l, Q' a s l → Q a s l) (hE : ∀ s l, E' s l → E s l)
    (hC : ∀ s l, C' s l → C s l) : Triple P m Q E C := by
  intro w hw r w' hrun
  have h₁ := h w (hP _ _ hw) r w' hrun
  cases r with
  | done a => exact hQ _ _ _ h₁
  | raised e => exact hE _ _ h₁
  | crashed => exact hC _ _ h₁

theorem triple_or {P₁ P₂ : Assertion σ ι} {m : Prog σ ι ε α} {Q : α → Assertion σ ι}
    {E C : Assertion σ ι} (h₁ : Triple P₁ m Q E C) (h₂ : Triple P₂ m Q E C) :
    Triple (fun s l => P₁ s l ∨ P₂ s l) m Q E C := by
  rintro w (hw | hw) r w' hrun
  · exact h₁ w hw r w' hrun
  · exact h₂ w hw r w' hrun

/-- A fact about no state may be assumed once. -/
theorem triple_of_pure {p : Prop} {P : Assertion σ ι} {m : Prog σ ι ε α}
    {Q : α → Assertion σ ι} {E C : Assertion σ ι} (h : p → Triple P m Q E C) :
    Triple (fun s l => p ∧ P s l) m Q E C := by
  rintro w ⟨hp, hw⟩ r w' hrun
  exact h hp w hw r w' hrun

/-- A fact about no state that the precondition implies may be assumed. -/
theorem triple_assume {p : Prop} {P : Assertion σ ι} {m : Prog σ ι ε α}
    {Q : α → Assertion σ ι} {E C : Assertion σ ι} (hp : ∀ s l, P s l → p)
    (h : p → Triple P m Q E C) : Triple P m Q E C := by
  intro w hw r w' hrun
  exact h (hp _ _ hw) w hw r w' hrun

theorem triple_step {P : Assertion σ ι} {label : ι} {effect : σ → σ} {cut : ℕ → σ → σ}
    {error : ε} {Q : Unit → Assertion σ ι} {E C : Assertion σ ι}
    (hok : ∀ s l, P s l → Q () (effect s) (l ++ [(label, .ok)]))
    (hfail : ∀ n s l, P s l → E (cut n s) (l ++ [(label, .fail n)]))
    (hcrash : ∀ n s l, P s l → C (cut n s) (l ++ [(label, .crash n)])) :
    Triple P (step label effect cut error) Q E C := by
  intro w hw r w' hrun
  obtain ⟨s, schedule, l⟩ := w
  cases schedule with
  | nil => cases hrun; exact hok _ _ hw
  | cons o rest =>
    cases o with
    | ok => cases hrun; exact hok _ _ hw
    | fail n => cases hrun; exact hfail n _ _ hw
    | crash n => cases hrun; exact hcrash n _ _ hw

/-- An atomic step either has its effect or leaves the state as it was. -/
theorem triple_atomic {P : Assertion σ ι} {label : ι} {effect : σ → σ} {error : ε}
    {Q : Unit → Assertion σ ι} {E C : Assertion σ ι}
    (hok : ∀ s l o, P s l → o.took = true →
      Q () (effect s) (l ++ [(label, o)]) ∧ E (effect s) (l ++ [(label, o)]) ∧
        C (effect s) (l ++ [(label, o)]))
    (hnot : ∀ s l o, P s l → o.took = false →
      E s (l ++ [(label, o)]) ∧ C s (l ++ [(label, o)])) :
    Triple P (atomic label effect error) Q E C := by
  refine triple_step ?_ ?_ ?_
  · intro s l hP
    exact (hok s l .ok hP rfl).1
  · intro n s l hP
    by_cases hn : n = 0
    · rw [if_pos hn]
      exact (hnot s l _ hP (by simp [Outcome.took, hn])).1
    · rw [if_neg hn]
      exact (hok s l _ hP (by simp [Outcome.took, hn])).2.1
  · intro n s l hP
    by_cases hn : n = 0
    · rw [if_pos hn]
      exact (hnot s l _ hP (by simp [Outcome.took, hn])).2
    · rw [if_neg hn]
      exact (hok s l _ hP (by simp [Outcome.took, hn])).2.2

/-- A step without an effect keeps what the log cannot change. -/
theorem triple_reading {P : Assertion σ ι} {label : ι} {error : ε} {Q : Unit → Assertion σ ι}
    {E C : Assertion σ ι}
    (h : ∀ s l o, P s l → Q () s (l ++ [(label, o)]) ∧ E s (l ++ [(label, o)]) ∧
      C s (l ++ [(label, o)])) :
    Triple P (reading label error) Q E C :=
  triple_step (fun s l hP => (h s l _ hP).1) (fun _ s l hP => (h s l _ hP).2.1)
    (fun _ s l hP => (h s l _ hP).2.2)

/-- A loop whose every round keeps the invariant of the elements done so far. -/
theorem triple_forM {xs : List β} {f : β → Prog σ ι ε PUnit} {I : List β → Assertion σ ι}
    {E C : Assertion σ ι}
    (h : ∀ before x after, xs = before ++ x :: after →
      Triple (I before) (f x) (fun _ => I (before ++ [x])) E C) :
    Triple (I []) (xs.forM f) (fun _ => I xs) E C := by
  suffices hgen : ∀ before after, xs = before ++ after →
      Triple (I before) (after.forM f) (fun _ => I xs) E C from hgen [] xs rfl
  intro before after
  induction after generalizing before with
  | nil =>
    intro hxs
    rw [List.append_nil] at hxs
    subst hxs
    exact triple_pure fun _ _ h => h
  | cons x after ih =>
    intro hxs
    refine triple_bind (h before x after hxs) fun _ => ?_
    exact ih (before ++ [x]) (by rw [hxs, List.append_assoc]; rfl)

/-- However the program ends, a state that every end satisfies is reached. -/
theorem run_of_triple {m : Prog σ ι ε α} {P I : Assertion σ ι} {s : σ}
    (h : Triple P m (fun _ => I) I I) (hs : P s []) (schedule : List Outcome) :
    I (run m s schedule).2.state (run m s schedule).2.log := by
  have hrun := h ⟨s, schedule, []⟩ hs (run m s schedule).1 (run m s schedule).2 rfl
  cases hr : (run m s schedule).1 with
  | done a => rw [hr] at hrun; exact hrun
  | raised e => rw [hr] at hrun; exact hrun
  | crashed => rw [hr] at hrun; exact hrun

end Faults
