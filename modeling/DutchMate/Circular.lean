/-
# Circular memory

A memory of `cap` cells read and written around its end.  A window is the letters of `len`
cells from `start` on; indices are taken modulo the capacity, so a window does not care
where its start was wrapped.

* `window_append`, `window_drop`, `window_take` : cutting a window;
* `window_eq_read` : the two straight reads a wrapped window is copied out by;
* `window_wrap`, `window_wrap_self` : the two straight writes that append to a window;
* `window_update`, `window_update_self` : appending a single cell.
-/
import Mathlib.Data.List.Basic
import Mathlib.Data.List.Range
import Mathlib.Tactic.Common

namespace Circular

variable {α : Type*}

/-- The cells `start, …, start + len - 1`, around the end of the memory. -/
def window (mem : ℕ → α) (cap start len : ℕ) : List α :=
  (List.range len).map fun i => mem ((start + i) % cap)

/-- The cells `offset, …, offset + len - 1`. -/
def read (mem : ℕ → α) (offset len : ℕ) : List α :=
  (List.range len).map fun i => mem (offset + i)

/-- The memory with `src` copied to `offset`. -/
def memcpy (mem : ℕ → α) (offset : ℕ) (src : List α) : ℕ → α := fun i =>
  if h : offset ≤ i ∧ i - offset < src.length then src.get ⟨i - offset, h.2⟩ else mem i

/-! ## Cutting windows -/

@[simp] theorem length_window (mem : ℕ → α) (cap start len : ℕ) :
    (window mem cap start len).length = len := by
  simp [window]

@[simp] theorem window_zero (mem : ℕ → α) (cap start : ℕ) : window mem cap start 0 = [] := rfl

/-- Where a window starts matters up to the capacity only. -/
theorem window_mod (mem : ℕ → α) (cap start len : ℕ) :
    window mem cap (start % cap) len = window mem cap start len := by
  simp [window]

theorem window_append (mem : ℕ → α) (cap start m n : ℕ) :
    window mem cap start (m + n) = window mem cap start m ++ window mem cap (start + m) n := by
  simp only [window, List.range_add, List.map_append, List.map_map]
  congr 1
  apply List.map_congr_left
  intro i _
  simp only [Function.comp_apply, Nat.add_assoc]

theorem window_succ (mem : ℕ → α) (cap start n : ℕ) :
    window mem cap start (n + 1) = mem (start % cap) :: window mem cap (start + 1) n := by
  rw [Nat.add_comm n 1, window_append]
  rfl

theorem window_take {mem : ℕ → α} {cap start len k : ℕ} (h : k ≤ len) :
    (window mem cap start len).take k = window mem cap start k := by
  obtain ⟨n, rfl⟩ := Nat.exists_eq_add_of_le h
  rw [window_append, List.take_left' (length_window _ _ _ _)]

theorem window_drop {mem : ℕ → α} {cap start len k : ℕ} (h : k ≤ len) :
    (window mem cap start len).drop k = window mem cap (start + k) (len - k) := by
  obtain ⟨n, rfl⟩ := Nat.exists_eq_add_of_le h
  rw [window_append, List.drop_left' (length_window _ _ _ _), Nat.add_sub_cancel_left]

/-- Windows over memories that agree on their cells. -/
theorem window_congr {mem mem' : ℕ → α} {cap start len : ℕ}
    (h : ∀ i < len, mem' ((start + i) % cap) = mem ((start + i) % cap)) :
    window mem' cap start len = window mem cap start len := by
  apply List.map_congr_left
  intro i hi
  exact h i (List.mem_range.mp hi)

/-! ## Straight copies -/

/-- A wrapped window is read in two straight parts: up to the end, then from the start. -/
theorem window_eq_read {mem : ℕ → α} {cap start len : ℕ} (hstart : start < cap) (hlen : len ≤ cap) :
    read mem start (min (cap - start) len) ++ read mem 0 (len - min (cap - start) len)
      = window mem cap start len := by
  have hsplit : len = min (cap - start) len + (len - min (cap - start) len) := by omega
  conv => rhs; rw [hsplit, window_append]
  congr 1
  · apply List.map_congr_left
    intro i hi
    rw [Nat.mod_eq_of_lt (by have := List.mem_range.mp hi; omega)]
  · apply List.map_congr_left
    intro i hi
    have hi := List.mem_range.mp hi
    have hwrap : start + min (cap - start) len + i = i + cap := by omega
    rw [hwrap, Nat.add_mod_right, Nat.mod_eq_of_lt (by omega), Nat.zero_add]

/-- The two straight writes of `src` from `start` on, around the end. -/
def wrap (mem : ℕ → α) (cap start : ℕ) (src : List α) : ℕ → α :=
  memcpy (memcpy mem start (src.take (min (cap - start) src.length))) 0
    (src.drop (min (cap - start) src.length))

theorem memcpy_of_lt {mem : ℕ → α} {offset i : ℕ} {src : List α} (h : i < offset) :
    memcpy mem offset src i = mem i := by
  rw [memcpy, dif_neg (by omega)]

theorem memcpy_of_le {mem : ℕ → α} {offset i : ℕ} {src : List α} (h : offset + src.length ≤ i) :
    memcpy mem offset src i = mem i := by
  rw [memcpy, dif_neg (by omega)]

theorem memcpy_self {mem : ℕ → α} {offset i : ℕ} {src : List α} (h : i < src.length) :
    memcpy mem offset src (offset + i) = src.get ⟨i, h⟩ := by
  have hi : offset + i - offset = i := by omega
  rw [memcpy, dif_pos (by omega)]
  simp only [hi]

/-- What a wrapped write puts into a cell it reaches. -/
theorem wrap_self {mem : ℕ → α} {cap start i : ℕ} {src : List α} (hstart : start < cap)
    (hlen : src.length ≤ cap) (h : i < src.length) :
    wrap mem cap start src ((start + i) % cap) = src.get ⟨i, h⟩ := by
  by_cases hend : start + i < cap
  · rw [Nat.mod_eq_of_lt hend, wrap, memcpy_of_le (by simp; omega),
      memcpy_self (by simp; omega)]
    simp
  · have hmod : (start + i) % cap = 0 + (start + i - cap) := by
      rw [Nat.mod_eq_sub_mod (by omega), Nat.mod_eq_of_lt (by omega), Nat.zero_add]
    rw [hmod, wrap, memcpy_self (by simp; omega)]
    simp only [List.get_eq_getElem, List.getElem_drop]
    congr 1
    omega

/-- Cells before the write are as they were. -/
theorem wrap_of_before {mem : ℕ → α} {cap start i : ℕ} {src : List α} (hstart : start < cap)
    (hi : i < cap) (hother : ∀ j < src.length, (start + j) % cap ≠ i) :
    wrap mem cap start src i = mem i := by
  have h₁ : memcpy (memcpy mem start (src.take (min (cap - start) src.length))) 0
      (src.drop (min (cap - start) src.length)) i
      = memcpy mem start (src.take (min (cap - start) src.length)) i := by
    apply memcpy_of_le
    by_contra hlt
    simp only [List.length_drop, Nat.zero_add, not_le] at hlt
    have hj : cap - start + i < src.length := by omega
    apply hother _ hj
    rw [show start + (cap - start + i) = i + cap by omega, Nat.add_mod_right, Nat.mod_eq_of_lt hi]
  rw [wrap, h₁]
  by_cases hlt : i < start
  · exact memcpy_of_lt hlt
  · apply memcpy_of_le
    by_contra hle
    simp only [List.length_take, not_le] at hle
    apply hother (i - start) (by omega)
    rw [Nat.mod_eq_of_lt (by omega)]
    omega

/-- Two offsets less than a turn apart reach different cells. -/
theorem mod_ne_of_lt {cap start i j : ℕ} (hij : i < j) (hj : j < i + cap) :
    (start + i) % cap ≠ (start + j) % cap := by
  intro h
  have hdvd : cap ∣ (start + j) - (start + i) :=
    Nat.dvd_of_mod_eq_zero (Nat.sub_mod_eq_zero_of_mod_eq h.symm)
  have hle := Nat.le_of_dvd (by omega) hdvd
  omega

section Append

variable {mem : ℕ → α} {cap start len : ℕ}

/-- A write behind a window leaves the window. -/
theorem window_wrap {src : List α} (hcap : 0 < cap) (hfits : len + src.length ≤ cap) :
    window (wrap mem cap ((start + len) % cap) src) cap start len = window mem cap start len := by
  apply window_congr
  intro i hi
  apply wrap_of_before (Nat.mod_lt _ hcap) (Nat.mod_lt _ hcap)
  intro j hj
  rw [Nat.mod_add_mod, Nat.add_assoc]
  exact (mod_ne_of_lt (by omega) (by omega)).symm

/-- What was written stands behind the window. -/
theorem window_wrap_self {src : List α} (hcap : 0 < cap) (hlen : src.length ≤ cap) :
    window (wrap mem cap ((start + len) % cap) src) cap (start + len) src.length = src := by
  apply List.ext_getElem (by simp)
  intro i h₁ h₂
  simp only [window, List.getElem_map, List.getElem_range]
  have hmod : (start + len + i) % cap = ((start + len) % cap + i) % cap :=
    (Nat.mod_add_mod _ _ _).symm
  rw [hmod]
  exact wrap_self (Nat.mod_lt _ hcap) hlen h₂

/-- A single cell written behind a window leaves the window. -/
theorem window_update {a : α} (hroom : len < cap) :
    window (fun i => if i = (start + len) % cap then a else mem i) cap start len
      = window mem cap start len := by
  apply window_congr
  intro i hi
  rw [if_neg (mod_ne_of_lt hi (by omega))]

theorem window_update_self {a : α} (hroom : len < cap) :
    window (fun i => if i = (start + len) % cap then a else mem i) cap start (len + 1)
      = window mem cap start len ++ [a] := by
  rw [window_append, window_update hroom]
  congr 1
  simp [window]

end Append

end Circular
