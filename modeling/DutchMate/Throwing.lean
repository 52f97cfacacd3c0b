/-
# Programs that raise

A program over a state returns or raises; what it did to the state before raising
stays.  `Triple P m Q E` says that from `P` the program returns in `Q` or raises in `E`.
-/
import Mathlib.Data.List.Basic
import Mathlib.Tactic.Common

namespace Throwing

/-- A program over the state `σ` that may raise `ε`. -/
def Prog (σ ε α : Type) := σ → Except ε α × σ

variable {σ ε α β : Type}

instance : Monad (Prog σ ε) where
  pure a := fun s => (.ok a, s)
  bind m f := fun s =>
    match m s with
    | (.ok a, s') => f a s'
    | (.error e, s') => (.error e, s')

/-- Read a part of the state. -/
def look (f : σ → α) : Prog σ ε α := fun s => (.ok (f s), s)

def change (f : σ → σ) : Prog σ ε Unit := fun s => (.ok (), f s)

def raise (e : ε) : Prog σ ε α := fun s => (.error e, s)

/-- Raise an error or return a value computed without the state. -/
def lift (r : Except ε α) : Prog σ ε α := fun s => (r, s)

/-- Raise unless the condition holds. -/
def require (c : Prop) [Decidable c] (e : ε) : Prog σ ε Unit := if c then pure () else raise e

/-- Run a program and handle the error it raises, from the state it left. -/
def catching (m : Prog σ ε α) (handler : ε → Prog σ ε α) : Prog σ ε α := fun s =>
  match m s with
  | (.error e, s') => handler e s'
  | r => r

/-! ## What a program that returned did -/

theorem except_bind_eq_ok {x : Except ε α} {f : α → Except ε β} {b : β} :
    (x >>= f) = .ok b ↔ ∃ a, x = .ok a ∧ f a = .ok b := by
  cases x <;> simp [bind, Except.bind]

theorem bind_eq_ok {m : Prog σ ε α} {f : α → Prog σ ε β} {b : β} {s s' : σ} :
    (m >>= f) s = (.ok b, s') ↔ ∃ a s₁, m s = (.ok a, s₁) ∧ f a s₁ = (.ok b, s') := by
  simp only [bind]
  rcases hm : m s with ⟨_ | a, s₁⟩ <;> simp

theorem bind_eq_error {m : Prog σ ε α} {f : α → Prog σ ε β} {e : ε} {s s' : σ}
    (h : m s = (.error e, s')) : (m >>= f) s = (.error e, s') := by
  simp only [bind]
  rw [h]

theorem look_bind (f : σ → β) (k : β → Prog σ ε α) (s : σ) : (look f >>= k) s = k (f s) s := rfl

theorem pure_eq_ok {a b : α} {s s' : σ} :
    (pure a : Prog σ ε α) s = (.ok b, s') ↔ a = b ∧ s = s' := by
  simp [pure]

theorem look_eq_ok {f : σ → α} {a : α} {s s' : σ} :
    (look f : Prog σ ε α) s = (.ok a, s') ↔ f s = a ∧ s = s' := by
  simp [look]

theorem change_eq_ok {f : σ → σ} {a : Unit} {s s' : σ} :
    (change f : Prog σ ε Unit) s = (.ok a, s') ↔ f s = s' := by
  simp [change]

theorem lift_eq_ok {r : Except ε α} {a : α} {s s' : σ} :
    (lift r : Prog σ ε α) s = (.ok a, s') ↔ r = .ok a ∧ s = s' := by
  simp [lift]

theorem raise_ne_ok {e : ε} {a : α} {s s' : σ} : (raise e : Prog σ ε α) s ≠ (.ok a, s') := by
  simp [raise]

theorem require_eq_ok {c : Prop} [Decidable c] {e : ε} {a : Unit} {s s' : σ} :
    (require c e : Prog σ ε Unit) s = (.ok a, s') ↔ c ∧ s = s' := by
  unfold require
  split
  · rename_i h
    simp [pure_eq_ok, h]
  · rename_i h
    simp [raise, h]

/-- A handler that always raises does not change what was returned. -/
theorem catching_eq_ok {m : Prog σ ε α} {handler : ε → Prog σ ε α} {a : α} {s s' : σ}
    (hh : ∀ e s₁ a s₂, handler e s₁ ≠ (.ok a, s₂)) :
    catching m handler s = (.ok a, s') ↔ m s = (.ok a, s') := by
  unfold catching
  rcases hm : m s with ⟨e | b, s₁⟩
  · simpa using hh e s₁ a s'
  · simp

/-! ## Triples -/

/-- Where a run ended: in `Q` when it returned, in `E` when it raised. -/
def Ended (Q : α → σ → Prop) (E : ε → σ → Prop) : Except ε α × σ → Prop
  | (.ok a, s) => Q a s
  | (.error e, s) => E e s

/-- From `P` the program returns in `Q` or raises in `E`. -/
structure Triple (P : σ → Prop) (m : Prog σ ε α) (Q : α → σ → Prop) (E : ε → σ → Prop) : Prop where
  ended : ∀ s, P s → Ended Q E (m s)

/-- The program keeps `I`, whether it returns or raises. -/
abbrev Keeps (I : σ → Prop) (m : Prog σ ε α) : Prop := Triple I m (fun _ => I) (fun _ => I)

variable {P P' : σ → Prop} {Q Q' : α → σ → Prop} {R : β → σ → Prop} {E E' : ε → σ → Prop}

theorem triple_pure {a : α} (h : ∀ s, P s → Q a s) : Triple P (pure a : Prog σ ε α) Q E :=
  ⟨fun s hs => h s hs⟩

theorem triple_raise {e : ε} (h : ∀ s, P s → E e s) : Triple P (raise e : Prog σ ε α) Q E :=
  ⟨fun s hs => h s hs⟩

/-- What follows may use what was read. -/
theorem triple_look {f : σ → β} {k : β → Prog σ ε α}
    (h : ∀ b, Triple (fun s => f s = b ∧ P s) (k b) Q E) : Triple P (look f >>= k) Q E :=
  ⟨fun s hs => (h (f s)).ended s ⟨rfl, hs⟩⟩

theorem triple_change {f : σ → σ} {Q : Unit → σ → Prop} (h : ∀ s, P s → Q () (f s)) :
    Triple P (change f : Prog σ ε Unit) Q E :=
  ⟨fun s hs => h s hs⟩

theorem triple_lift {r : Except ε α} (hok : ∀ a, r = .ok a → ∀ s, P s → Q a s)
    (herror : ∀ e, r = .error e → ∀ s, P s → E e s) : Triple P (lift r : Prog σ ε α) Q E := by
  refine ⟨fun s hs => ?_⟩
  cases r with
  | ok a => exact hok a rfl s hs
  | error e => exact herror e rfl s hs

theorem triple_require {c : Prop} [Decidable c] {e : ε} {Q : Unit → σ → Prop}
    (hok : ∀ s, c → P s → Q () s) (hnot : ∀ s, ¬ c → P s → E e s) :
    Triple P (require c e : Prog σ ε Unit) Q E := by
  unfold require
  split
  · rename_i hc
    exact triple_pure fun s hs => hok s hc hs
  · rename_i hc
    exact triple_raise fun s hs => hnot s hc hs

theorem triple_bind {m : Prog σ ε β} {f : β → Prog σ ε α} (hm : Triple P m R E)
    (hf : ∀ b, Triple (R b) (f b) Q E) : Triple P (m >>= f) Q E := by
  refine ⟨fun s hs => ?_⟩
  have h := hm.ended s hs
  simp only [bind]
  rcases hr : m s with ⟨e | b, s₁⟩ <;> rw [hr] at h
  · exact h
  · exact (hf b).ended s₁ h

/-- What follows may use the condition. -/
theorem triple_require_bind {c : Prop} [Decidable c] {e : ε} {k : Unit → Prog σ ε α}
    (hnot : ∀ s, P s → E e s) (h : c → Triple P (k ()) Q E) :
    Triple P (require c e >>= k) Q E :=
  triple_bind (R := fun _ s => c ∧ P s)
    (triple_require (fun _ hc hs => ⟨hc, hs⟩) fun s _ hs => hnot s hs)
    fun _ => ⟨fun s hs => (h hs.1).ended s hs.2⟩

/-- What follows may use how the value was computed. -/
theorem triple_lift_bind {r : Except ε β} {k : β → Prog σ ε α}
    (herror : ∀ e, r = .error e → ∀ s, P s → E e s) (h : ∀ b, r = .ok b → Triple P (k b) Q E) :
    Triple P (lift r >>= k) Q E :=
  triple_bind (R := fun b s => r = .ok b ∧ P s)
    (triple_lift (fun _ hb _ hs => ⟨hb, hs⟩) herror)
    fun b => ⟨fun s hs => (h b hs.1).ended s hs.2⟩

/-- The handler starts from what the program left when it raised. -/
theorem triple_catching {m : Prog σ ε α} {handler : ε → Prog σ ε α} (hm : Triple P m Q E')
    (hh : ∀ e, Triple (E' e) (handler e) Q E) : Triple P (catching m handler) Q E := by
  refine ⟨fun s hs => ?_⟩
  have h := hm.ended s hs
  simp only [catching]
  rcases hr : m s with ⟨e | b, s₁⟩ <;> rw [hr] at h
  · exact (hh e).ended s₁ h
  · exact h

theorem triple_conseq {m : Prog σ ε α} (h : Triple P' m Q' E') (hP : ∀ s, P s → P' s)
    (hQ : ∀ a s, Q' a s → Q a s) (hE : ∀ e s, E' e s → E e s) : Triple P m Q E := by
  refine ⟨fun s hs => ?_⟩
  have h₁ := h.ended s (hP s hs)
  rcases hr : m s with ⟨e | a, s₁⟩ <;> rw [hr] at h₁
  · exact hE e s₁ h₁
  · exact hQ a s₁ h₁

/-- What two triples say of one program. -/
theorem triple_and {m : Prog σ ε α} (h : Triple P m Q E) (h' : Triple P' m Q' E') :
    Triple (fun s => P s ∧ P' s) m (fun a s => Q a s ∧ Q' a s) (fun e s => E e s ∧ E' e s) := by
  refine ⟨fun s hs => ?_⟩
  have h₁ := h.ended s hs.1
  have h₂ := h'.ended s hs.2
  rcases hr : m s with ⟨e | a, s₁⟩ <;> rw [hr] at h₁ h₂ <;> exact ⟨h₁, h₂⟩

theorem triple_exists {γ : Type} {R : γ → σ → Prop} {m : Prog σ ε α}
    (h : ∀ x, Triple (R x) m Q E) : Triple (fun s => ∃ x, R x s) m Q E := by
  refine ⟨fun s hs => ?_⟩
  obtain ⟨x, hx⟩ := hs
  exact (h x).ended s hx

theorem triple_of_exists {γ : Type} (R : γ → σ → Prop) {m : Prog σ ε α}
    (hP : ∀ s, P s → ∃ x, R x s) (h : ∀ x, Triple (R x) m Q E) : Triple P m Q E :=
  triple_conseq (triple_exists h) hP (fun _ _ h => h) fun _ _ h => h

/-- A fact the precondition implies may be assumed. -/
theorem triple_assume {c : Prop} {m : Prog σ ε α} (hc : ∀ s, P s → c) (h : c → Triple P m Q E) :
    Triple P m Q E :=
  ⟨fun s hs => (h (hc s hs)).ended s hs⟩

/-- Either branch of a test. -/
theorem triple_ite {c : Prop} [Decidable c] {m n : Prog σ ε α} (hm : c → Triple P m Q E)
    (hn : ¬ c → Triple P n Q E) : Triple P (if c then m else n) Q E := by
  split
  · rename_i h
    exact hm h
  · rename_i h
    exact hn h

/-- A loop that carries a value, every round keeping the invariant. -/
theorem triple_foldlM {I : α → σ → Prop} {f : α → β → Prog σ ε α} {xs : List β} {a : α}
    (h : ∀ a x, x ∈ xs → Triple (I a) (f a x) I E) : Triple (I a) (xs.foldlM f a) I E := by
  induction xs generalizing a with
  | nil => exact triple_pure fun _ hs => hs
  | cons x xs ih =>
    rw [List.foldlM_cons]
    apply triple_bind (h a x List.mem_cons_self)
    intro b
    exact ih fun a y hy => h a y (List.mem_cons_of_mem _ hy)

/-- However the program ends, it ends in what every end satisfies. -/
theorem state_of_keeps {I : σ → Prop} {m : Prog σ ε α} (h : Keeps I m) {s : σ} (hs : I s) :
    I (m s).2 := by
  have h₁ := h.ended s hs
  rcases hr : m s with ⟨e | a, s₁⟩ <;> rw [hr] at h₁ <;> exact h₁

/-- What a returned value and its state satisfy. -/
theorem ok_of_triple {m : Prog σ ε α} (h : Triple P m Q E) {s s' : σ} {a : α} (hs : P s)
    (hrun : m s = (.ok a, s')) : Q a s' := by
  have h₁ := h.ended s hs
  rw [hrun] at h₁
  exact h₁

end Throwing
