/-
# Searching byte strings

`find pat s` is Python's `s.find(pat)`: the first offset at which `pat` occurs.
-/
import Mathlib.Data.List.Basic
import Mathlib.Data.List.Infix
import Mathlib.Tactic.Common

namespace Bytes

variable {α : Type*}

/-- Whether `pat` occurs at offset `i`. -/
def OccursAt (pat s : List α) (i : ℕ) : Prop := i ≤ s.length ∧ pat <+: s.drop i

theorem occursAt_zero (pat s : List α) : OccursAt pat s 0 ↔ pat <+: s := by
  simp [OccursAt]

theorem occursAt_succ_cons (pat s : List α) (x : α) (i : ℕ) :
    OccursAt pat (x :: s) (i + 1) ↔ OccursAt pat s i := by
  simp [OccursAt]

variable [DecidableEq α]

/-- First offset at which `pat` occurs. -/
def find (pat : List α) : List α → Option ℕ
  | [] => if pat = [] then some 0 else none
  | x :: xs => if pat.isPrefixOf (x :: xs) then some 0 else (find pat xs).map (· + 1)

/-- The offset found is that of the first occurrence. -/
theorem find_eq_some_iff (pat s : List α) (i : ℕ) :
    find pat s = some i ↔ OccursAt pat s i ∧ ∀ j < i, ¬ OccursAt pat s j := by
  induction s generalizing i with
  | nil =>
    rw [find]
    by_cases hp : pat = []
    · subst hp
      rw [if_pos rfl]
      constructor
      · rintro h
        cases h
        exact ⟨by simp [OccursAt], by simp⟩
      · rintro ⟨⟨h, _⟩, _⟩
        have : i = 0 := by simpa using h
        rw [this]
    · rw [if_neg hp]
      simp [OccursAt, hp]
  | cons x s ih =>
    rw [find]
    by_cases hp : pat.isPrefixOf (x :: s)
    · have h0 : OccursAt pat (x :: s) 0 :=
        (occursAt_zero pat (x :: s)).mpr (List.isPrefixOf_iff_prefix.mp hp)
      rw [if_pos hp]
      constructor
      · rintro h
        cases h
        exact ⟨h0, by simp⟩
      · rintro ⟨_, hmin⟩
        cases i with
        | zero => rfl
        | succ i => exact absurd h0 (hmin 0 (Nat.succ_pos i))
    · have h0 : ¬ OccursAt pat (x :: s) 0 := fun h =>
        hp (List.isPrefixOf_iff_prefix.mpr ((occursAt_zero pat (x :: s)).mp h))
      rw [if_neg hp]
      cases i with
      | zero => simp [h0]
      | succ i =>
        rw [Option.map_eq_some_iff]
        constructor
        · rintro ⟨j, hj, hji⟩
          have hij : j = i := Nat.succ.inj hji
          subst hij
          obtain ⟨hocc, hmin⟩ := (ih j).mp hj
          refine ⟨(occursAt_succ_cons pat s x j).mpr hocc, ?_⟩
          intro k hk
          cases k with
          | zero => exact h0
          | succ k =>
            rw [occursAt_succ_cons]
            exact hmin k (Nat.lt_of_succ_lt_succ hk)
        · rintro ⟨hocc, hmin⟩
          refine ⟨i, (ih i).mpr ⟨(occursAt_succ_cons pat s x i).mp hocc, ?_⟩, rfl⟩
          intro k hk
          have := hmin (k + 1) (Nat.succ_lt_succ hk)
          rwa [occursAt_succ_cons] at this

/-- The pattern found lies inside the searched string. -/
theorem find_add_length_le {pat s : List α} {i : ℕ} (h : find pat s = some i) :
    i + pat.length ≤ s.length := by
  obtain ⟨⟨hi, hpre⟩, _⟩ := (find_eq_some_iff pat s i).mp h
  have := hpre.length_le
  rw [List.length_drop] at this
  omega

/-- The slice at the offset found is the pattern. -/
theorem slice_of_find {pat s : List α} {i : ℕ} (h : find pat s = some i) :
    (s.drop i).take pat.length = pat := by
  obtain ⟨⟨_, hpre⟩, _⟩ := (find_eq_some_iff pat s i).mp h
  exact (List.prefix_iff_eq_take.mp hpre).symm

end Bytes
