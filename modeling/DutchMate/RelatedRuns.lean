/-
# Related runs

Two programs run from states that are alike: either both return, with related values, or
both raise the same, and the states stay alike.
-/
import DutchMate.Throwing

namespace Throwing

variable {σ ε α α' β β' : Type}

/-- Both runs returned related values, or both raised the same. -/
def EndedAlike (S : σ → σ → Prop) (R : α → α' → Prop) : Except ε α × σ → Except ε α' × σ → Prop
  | (.ok a, s), (.ok a', s') => R a a' ∧ S s s'
  | (.error e, s), (.error e', s') => e = e' ∧ S s s'
  | _, _ => False

/-- From alike states the programs end alike. -/
structure Related (S : σ → σ → Prop) (R : α → α' → Prop) (m : Prog σ ε α) (m' : Prog σ ε α') :
    Prop where
  ended : ∀ s s', S s s' → EndedAlike S R (m s) (m' s')

variable {S : σ → σ → Prop} {R : α → α' → Prop} {T : β → β' → Prop}

theorem related_pure {a : α} {a' : α'} (h : R a a') :
    Related S R (pure a : Prog σ ε α) (pure a' : Prog σ ε α') :=
  ⟨fun _ _ hs => ⟨h, hs⟩⟩

theorem related_raise (e : ε) : Related S R (raise e : Prog σ ε α) (raise e : Prog σ ε α') :=
  ⟨fun _ _ hs => ⟨rfl, hs⟩⟩

theorem related_bind {m : Prog σ ε β} {m' : Prog σ ε β'} {f : β → Prog σ ε α}
    {f' : β' → Prog σ ε α'} (hm : Related S T m m')
    (hf : ∀ b b', T b b' → Related S R (f b) (f' b')) : Related S R (m >>= f) (m' >>= f') := by
  refine ⟨fun s s' hs => ?_⟩
  have h := hm.ended s s' hs
  simp only [bind]
  rcases hr : m s with ⟨e | b, s₁⟩ <;> rcases hr' : m' s' with ⟨e' | b', s₁'⟩ <;>
    rw [hr, hr'] at h
  · exact h
  · exact h.elim
  · exact h.elim
  · exact (hf b b' h.1).ended s₁ s₁' h.2

/-- What was computed without the state is the same in both runs. -/
theorem related_lift_bind {r : Except ε β} {f : β → Prog σ ε α} {f' : β → Prog σ ε α'}
    (hf : ∀ b, r = .ok b → Related S R (f b) (f' b)) :
    Related S R (lift r >>= f) (lift r >>= f') := by
  refine ⟨fun s s' hs => ?_⟩
  cases r with
  | ok b => exact (hf b rfl).ended s s' hs
  | error e => exact ⟨rfl, hs⟩

/-- A condition that holds in both runs or in neither. -/
theorem related_require_bind {c c' : Prop} [Decidable c] [Decidable c'] {e : ε}
    {f : Unit → Prog σ ε α} {f' : Unit → Prog σ ε α'} (hc : c ↔ c')
    (hf : c → Related S R (f ()) (f' ())) :
    Related S R (require c e >>= f) (require c' e >>= f') := by
  refine ⟨fun s s' hs => ?_⟩
  by_cases h : c
  · rw [require, require, if_pos h, if_pos (hc.mp h)]
    exact (hf h).ended s s' hs
  · rw [require, require, if_neg h, if_neg (h ∘ hc.mpr)]
    exact ⟨rfl, hs⟩

/-- What a run of one program returns, the other returns something related to. -/
theorem Related.ok {m : Prog σ ε α} {m' : Prog σ ε α'} (h : Related S R m m') {s s' s₁ s₁' : σ}
    {a : α} {a' : α'} (hs : S s s') (hm : m s = (.ok a, s₁)) (hm' : m' s' = (.ok a', s₁')) :
    R a a' := by
  have h₁ := h.ended s s' hs
  rw [hm, hm'] at h₁
  exact h₁.1

end Throwing
