/-
# The newest of a stream

The records of greatest key, in ascending order, and the bounded selection that keeps them while
the records come one by one.  Keys are distinct.
-/
import Mathlib.Data.List.Induction
import Mathlib.Data.List.Sort
import Mathlib.Tactic.Common

namespace Newest

section

variable {α κ : Type} [LinearOrder κ] (key : α → κ)

def insert (record : α) (kept : List α) : List α := kept.orderedInsert (key · ≤ key ·) record

def sorted (records : List α) : List α := records.insertionSort (key · ≤ key ·)

/-- The records of greatest key, at most `limit` of them, in ascending order. -/
def newest (limit : ℕ) (records : List α) : List α :=
  (sorted key records).drop (records.length - limit)

/-- One more record, the least giving way to a greater one when there are `limit` already. -/
def keep (limit : ℕ) (kept : List α) (record : α) : List α :=
  if kept.length < limit then insert key record kept
  else
    match kept with
    | [] => []
    | least :: rest => if key least < key record then insert key record rest else least :: rest

end

variable {α κ : Type} [LinearOrder κ] {key : α → κ}

theorem sorted_perm (records : List α) : (sorted key records).Perm records :=
  List.perm_insertionSort _ _

theorem length_sorted (records : List α) : (sorted key records).length = records.length :=
  (sorted_perm records).length_eq

theorem pairwise_sorted (records : List α) :
    (sorted key records).Pairwise (key · ≤ key ·) := by
  have : IsTrans α (key · ≤ key ·) := ⟨fun _ _ _ => le_trans⟩
  have : Std.Total (α := α) (key · ≤ key ·) := ⟨fun _ _ => le_total _ _⟩
  exact List.pairwise_insertionSort _ _

/-- A list with the same records in ascending order is the sorted one. -/
theorem sorted_eq {records ascending : List α} (h : (records.map key).Nodup)
    (hperm : ascending.Perm records) (hsorted : ascending.Pairwise (key · ≤ key ·)) :
    sorted key records = ascending := by
  refine List.Perm.eq_of_pairwise (fun a b ha hb hab hba => ?_) (pairwise_sorted records) hsorted
    ((sorted_perm records).trans hperm.symm)
  exact List.inj_on_of_nodup_map h ((sorted_perm records).mem_iff.mp ha) (hperm.mem_iff.mp hb) (le_antisymm hab hba)

theorem sorted_of_perm {records others : List α} (h : (records.map key).Nodup)
    (hperm : records.Perm others) : sorted key records = sorted key others :=
  sorted_eq h ((sorted_perm others).trans hperm.symm) (pairwise_sorted others)

/-- Some of the records of an ascending list are sorted as they stand in it. -/
theorem sorted_sublist {records all : List α} (h : (records.map key).Nodup)
    (hmem : ∀ record ∈ records, record ∈ all) (hall : all.Pairwise (key · < key ·)) :
    (sorted key records).Sublist all := by
  have hperm : (sorted key records).Perm records := sorted_perm records
  have hsubperm : (sorted key records).Subperm all :=
    List.subperm_of_subset (hperm.nodup_iff.mpr h.of_map) fun record hrecord =>
      hmem record (hperm.mem_iff.mp hrecord)
  have hdistinct := List.pairwise_map.mp ((hperm.map key).nodup_iff.mpr h)
  have hsorted : (sorted key records).Pairwise (key · < key ·) :=
    ((pairwise_sorted records).and hdistinct).imp fun h => lt_of_le_of_ne h.1 h.2
  have : Std.Antisymm (α := α) (key · < key ·) := ⟨fun _ _ hlt hgt => absurd hgt hlt.asymm⟩
  exact List.sublist_of_subperm_of_pairwise hsubperm hsorted hall

theorem newest_of_perm {records others : List α} (h : (records.map key).Nodup)
    (hperm : records.Perm others) (limit : ℕ) : newest key limit records = newest key limit others := by
  rw [newest, newest, sorted_of_perm h hperm, hperm.length_eq]

theorem pairwise_insert {kept : List α} (h : kept.Pairwise (key · ≤ key ·)) (record : α) :
    (insert key record kept).Pairwise (key · ≤ key ·) := by
  have : IsTrans α (key · ≤ key ·) := ⟨fun _ _ _ => le_trans⟩
  have : Std.Total (α := α) (key · ≤ key ·) := ⟨fun _ _ => le_total _ _⟩
  exact h.orderedInsert _ _

theorem sorted_concat {done : List α} {record : α} (h : ((done ++ [record]).map key).Nodup) :
    sorted key (done ++ [record]) = insert key record (sorted key done) := by
  refine sorted_eq h ?_ (pairwise_insert (pairwise_sorted done) record)
  refine (List.perm_orderedInsert _ _ _).trans ?_
  exact ((sorted_perm done).cons record).trans (List.perm_append_singleton record done).symm

/-- Behind as many records as are left out, a further one takes the place of the least or is left
out itself. -/
theorem drop_insert {before rest : List α} {least record : α}
    (h : (before ++ least :: rest).Pairwise (key · ≤ key ·)) :
    (insert key record (before ++ least :: rest)).drop (before.length + 1)
      = if key least < key record then insert key record rest else least :: rest := by
  induction before with
  | nil =>
    rw [List.nil_append, insert, List.orderedInsert_cons]
    by_cases hless : key least < key record
    · rw [if_neg (not_le.mpr hless), if_pos hless]
      rfl
    · rw [if_pos (not_lt.mp hless), if_neg hless]
      rfl
  | cons first before ih =>
    rw [List.cons_append, List.pairwise_cons] at h
    rw [List.cons_append, insert, List.orderedInsert_cons]
    by_cases hfirst : key record ≤ key first
    · have hleast : key first ≤ key least := h.1 least (by simp)
      rw [if_pos hfirst, if_neg (not_lt.mpr (hfirst.trans hleast)), List.length_cons,
        List.drop_succ_cons, List.drop_succ_cons, List.drop_left]
    · rw [if_neg hfirst, List.length_cons, List.drop_succ_cons]
      exact ih h.2

theorem keep_newest {limit : ℕ} (hlimit : 0 < limit) {done : List α} {record : α}
    (h : ((done ++ [record]).map key).Nodup) :
    keep key limit (newest key limit done) record = newest key limit (done ++ [record]) := by
  have hlength : (newest key limit done).length = done.length - (done.length - limit) := by
    rw [newest, List.length_drop, length_sorted]
  unfold keep
  by_cases hroom : done.length < limit
  · have hzero : done.length - limit = 0 := by omega
    have hzero' : (done ++ [record]).length - limit = 0 := by
      rw [List.length_append, List.length_singleton]
      omega
    rw [if_pos (by omega), newest, newest, hzero, hzero', List.drop_zero, List.drop_zero,
      sorted_concat h]
  · rw [if_neg (by omega), newest, newest, sorted_concat h]
    obtain ⟨before, rest, hsplit, hbefore⟩ : ∃ before rest,
        sorted key done = before ++ rest ∧ before.length = done.length - limit :=
      ⟨_, _, (List.take_append_drop (done.length - limit) (sorted key done)).symm, by
        rw [List.length_take, length_sorted]
        omega⟩
    have hrest : rest.length = limit := by
      have htotal := congrArg List.length hsplit
      rw [length_sorted, List.length_append] at htotal
      omega
    cases rest with
    | nil => exact absurd hrest (by simp only [List.length_nil]; omega)
    | cons least rest =>
      have hpairwise : (sorted key done).Pairwise (key · ≤ key ·) := pairwise_sorted done
      rw [hsplit] at hpairwise
      have hdrop : (done ++ [record]).length - limit = before.length + 1 := by
        rw [List.length_append, List.length_singleton]
        omega
      rw [hsplit, ← hbefore, List.drop_left, hdrop, drop_insert hpairwise]

/-- Keeping the records one by one keeps the newest. -/
theorem foldl_keep {limit : ℕ} (hlimit : 0 < limit) {records : List α}
    (h : (records.map key).Nodup) :
    records.foldl (keep key limit) [] = newest key limit records := by
  induction records using List.reverseRecOn with
  | nil => exact List.drop_nil.symm
  | append_singleton done record ih =>
    have hdone : (done.map key).Nodup := by
      rw [List.map_append] at h
      exact h.of_append_left
    rw [List.foldl_concat, ih hdone, keep_newest hlimit h]

theorem length_newest (limit : ℕ) (records : List α) :
    (newest key limit records).length = min limit records.length := by
  rw [newest, List.length_drop, length_sorted]
  omega

end Newest
