/-
# Insertion-ordered dictionaries

`Dict κ α` is an association list whose keys are distinct, the order of the list
being the order of insertion: `set` replaces the value of a key that is present and
appends a new one.  `sortedEntries` lists the entries in the order of their keys.
-/
import Mathlib.Algebra.GroupWithZero.Nat
import Mathlib.Data.List.Basic
import Mathlib.Data.List.Nodup
import Mathlib.Data.List.Sort
import Mathlib.Tactic.Common

/-- A finite map that remembers the order its keys were inserted in. -/
structure Dict (κ α : Type*) where
  entries : List (κ × α)
  nodup : (entries.map Prod.fst).Nodup

namespace Dict

variable {κ α β : Type*}

theorem ext_entries {d e : Dict κ α} (h : d.entries = e.entries) : d = e := by
  cases d; cases e; cases h; rfl

instance [DecidableEq κ] [DecidableEq α] : DecidableEq (Dict κ α) := fun d e =>
  decidable_of_iff (d.entries = e.entries) ⟨ext_entries, congrArg entries⟩

/-- The dictionary without entries. -/
def empty : Dict κ α := ⟨[], List.nodup_nil⟩

instance : EmptyCollection (Dict κ α) := ⟨empty⟩
instance : Inhabited (Dict κ α) := ⟨empty⟩

@[simp] theorem entries_empty : (∅ : Dict κ α).entries = [] := rfl

def keys (d : Dict κ α) : List κ := d.entries.map Prod.fst

def values (d : Dict κ α) : List α := d.entries.map Prod.snd

@[simp] theorem keys_empty : (∅ : Dict κ α).keys = [] := rfl
@[simp] theorem values_empty : (∅ : Dict κ α).values = [] := rfl

def length (d : Dict κ α) : ℕ := d.entries.length

theorem nodup_keys (d : Dict κ α) : d.keys.Nodup := d.nodup

variable [DecidableEq κ]

/-- The value of a key. -/
def get? (d : Dict κ α) (k : κ) : Option α := (d.entries.find? (·.1 = k)).map Prod.snd

def contains (d : Dict κ α) (k : κ) : Bool := (d.get? k).isSome

@[simp] theorem get?_empty (k : κ) : (∅ : Dict κ α).get? k = none := rfl

/-- Looking a key up finds exactly the entry that carries it. -/
theorem get?_eq_some_iff (d : Dict κ α) (k : κ) (v : α) :
    d.get? k = some v ↔ (k, v) ∈ d.entries := by
  obtain ⟨es, hnd⟩ := d
  simp only [get?, Option.map_eq_some_iff]
  induction es with
  | nil => simp
  | cons e es ih =>
    obtain ⟨k', v'⟩ := e
    simp only [List.map_cons, List.nodup_cons] at hnd
    have hnot : k' = k → (k, v) ∉ es := by
      rintro rfl hm
      exact hnd.1 (List.mem_map_of_mem (f := Prod.fst) hm)
    by_cases hk : k' = k
    · subst hk
      simp only [List.find?_cons, decide_true, List.mem_cons, Prod.mk.injEq, true_and]
      constructor
      · rintro ⟨_, he, hv⟩
        cases he
        exact Or.inl hv.symm
      · rintro (rfl | hm)
        · exact ⟨_, rfl, rfl⟩
        · exact absurd hm (hnot rfl)
    · simp only [List.find?_cons, hk, decide_false, List.mem_cons, Prod.mk.injEq]
      rw [ih hnd.2]
      constructor
      · exact Or.inr
      · rintro (⟨rfl, _⟩ | hm)
        · exact absurd rfl hk
        · exact hm

theorem get?_eq_none_iff (d : Dict κ α) (k : κ) : d.get? k = none ↔ k ∉ d.keys := by
  rw [get?, Option.map_eq_none_iff, List.find?_eq_none, keys]
  simp only [decide_eq_true_eq, List.mem_map, not_exists, not_and]

theorem mem_keys_iff (d : Dict κ α) (k : κ) : k ∈ d.keys ↔ ∃ v, d.get? k = some v := by
  rw [← not_iff_not, ← get?_eq_none_iff, Option.eq_none_iff_forall_ne_some]
  simp

/-- Two dictionaries with the same entries up to order agree on every key. -/
theorem get?_eq_of_perm {d e : Dict κ α} (h : d.entries.Perm e.entries) (k : κ) :
    d.get? k = e.get? k := by
  apply Option.ext
  intro v
  rw [get?_eq_some_iff, get?_eq_some_iff, h.mem_iff]

private theorem map_fst_replace (es : List (κ × α)) (k : κ) (v : α) :
    (es.map fun e => if e.1 = k then (k, v) else e).map Prod.fst = es.map Prod.fst := by
  induction es with
  | nil => rfl
  | cons e es ih =>
    simp only [List.map_cons, ih, List.cons.injEq, and_true]
    by_cases h : e.1 = k <;> simp [h]

/-- Give a present key a new value, at its place. -/
def replace (d : Dict κ α) (k : κ) (v : α) : Dict κ α :=
  ⟨d.entries.map fun e => if e.1 = k then (k, v) else e,
    by rw [map_fst_replace]; exact d.nodup⟩

/-- Python's `d[k] = v`. -/
def set (d : Dict κ α) (k : κ) (v : α) : Dict κ α :=
  if h : k ∈ d.keys then d.replace k v
  else ⟨d.entries ++ [(k, v)], by
    rw [List.map_append, List.nodup_append]
    refine ⟨d.nodup, by simp, ?_⟩
    rintro a ha b hb rfl
    simp only [List.map_cons, List.map_nil, List.mem_singleton] at hb
    exact h (hb ▸ ha)⟩

/-- Remove a key. -/
def erase (d : Dict κ α) (k : κ) : Dict κ α :=
  ⟨d.entries.filter (·.1 ≠ k),
    d.nodup.sublist (List.Sublist.map _ List.filter_sublist)⟩

theorem mem_entries_set (d : Dict κ α) (k k' : κ) (v v' : α) :
    (k', v') ∈ (d.set k v).entries ↔
      (k' = k ∧ v' = v) ∨ (k' ≠ k ∧ (k', v') ∈ d.entries) := by
  unfold set
  split
  · rename_i h
    simp only [replace, List.mem_map]
    constructor
    · rintro ⟨e, he, heq⟩
      by_cases hk : e.1 = k
      · rw [if_pos hk] at heq
        cases heq
        exact Or.inl ⟨rfl, rfl⟩
      · rw [if_neg hk] at heq
        subst heq
        exact Or.inr ⟨hk, he⟩
    · rintro (⟨rfl, rfl⟩ | ⟨hk, he⟩)
      · obtain ⟨e, he, hek⟩ := List.mem_map.mp h
        exact ⟨e, he, by rw [if_pos hek]⟩
      · exact ⟨_, he, by rw [if_neg hk]⟩
  · rename_i h
    simp only [List.mem_append, List.mem_singleton, Prod.mk.injEq]
    constructor
    · rintro (he | he)
      · refine Or.inr ⟨?_, he⟩
        rintro rfl
        exact h (List.mem_map_of_mem (f := Prod.fst) he)
      · exact Or.inl he
    · rintro (he | he)
      · exact Or.inr he
      · exact Or.inl he.2

/-- A new key goes to the end. -/
theorem entries_set_of_notMem (d : Dict κ α) {k : κ} (v : α) (h : k ∉ d.keys) :
    (d.set k v).entries = d.entries ++ [(k, v)] := by
  rw [set, dif_neg h]

theorem length_set_of_notMem (d : Dict κ α) {k : κ} (v : α) (h : k ∉ d.keys) :
    (d.set k v).length = d.length + 1 := by
  rw [length, entries_set_of_notMem d v h, List.length_append, length, List.length_singleton]

@[simp] theorem get?_set_self (d : Dict κ α) (k : κ) (v : α) : (d.set k v).get? k = some v := by
  rw [get?_eq_some_iff, mem_entries_set]
  exact Or.inl ⟨rfl, rfl⟩

theorem get?_set_of_ne (d : Dict κ α) {k k' : κ} (v : α) (h : k' ≠ k) :
    (d.set k v).get? k' = d.get? k' := by
  apply Option.ext
  intro v'
  rw [get?_eq_some_iff, get?_eq_some_iff, mem_entries_set]
  simp [h]

theorem get?_set (d : Dict κ α) (k k' : κ) (v : α) :
    (d.set k v).get? k' = if k' = k then some v else d.get? k' := by
  by_cases h : k' = k
  · subst h; simp
  · rw [if_neg h, get?_set_of_ne d v h]

theorem mem_entries_erase (d : Dict κ α) (k k' : κ) (v : α) :
    (k', v) ∈ (d.erase k).entries ↔ k' ≠ k ∧ (k', v) ∈ d.entries := by
  simp [erase, and_comm]

theorem get?_erase (d : Dict κ α) (k k' : κ) :
    (d.erase k).get? k' = if k' = k then none else d.get? k' := by
  apply Option.ext
  intro v
  rw [get?_eq_some_iff, mem_entries_erase]
  by_cases h : k' = k
  · simp [h]
  · simp [h, get?_eq_some_iff]

/-- Python's `d.get(k, default)`. -/
def getD (d : Dict κ α) (k : κ) (v : α) : α := (d.get? k).getD v

theorem getD_set (d : Dict κ α) (k k' : κ) (v w : α) :
    (d.set k v).getD k' w = if k' = k then v else d.getD k' w := by
  rw [getD, get?_set]
  by_cases h : k' = k <;> simp [h, getD]

theorem getD_erase (d : Dict κ α) (k k' : κ) (w : α) :
    (d.erase k).getD k' w = if k' = k then w else d.getD k' w := by
  rw [getD, get?_erase]
  by_cases h : k' = k <;> simp [h, getD]

/-! ## Sums over the values -/

/-- The entry of a present key, and what setting the key makes of it. -/
theorem exists_entries_set (d : Dict κ α) {k : κ} {u : α} (h : d.get? k = some u) :
    ∃ es fs, d.entries = es ++ (k, u) :: fs ∧
      ∀ v, (d.set k v).entries = es ++ (k, v) :: fs := by
  have hmem := (d.get?_eq_some_iff k u).mp h
  have hkey : k ∈ d.keys := List.mem_map_of_mem (f := Prod.fst) hmem
  obtain ⟨es, fs, hentries⟩ := List.append_of_mem hmem
  have hnodup := d.nodup
  rw [hentries, List.map_append, List.map_cons, List.nodup_append] at hnodup
  obtain ⟨_, htail, hdisjoint⟩ := hnodup
  refine ⟨es, fs, hentries, fun v => ?_⟩
  have hes : ∀ e ∈ es, e.1 ≠ k := fun e he =>
    hdisjoint e.1 (List.mem_map_of_mem he) k List.mem_cons_self
  have hfs : ∀ e ∈ fs, e.1 ≠ k := by
    intro e he hek
    have hkey' : e.1 ∈ fs.map Prod.fst := List.mem_map_of_mem he
    rw [hek] at hkey'
    exact (List.nodup_cons.mp htail).1 hkey'
  have hkeep : ∀ (xs : List (κ × α)), (∀ e ∈ xs, e.1 ≠ k) →
      (xs.map fun e => if e.1 = k then (k, v) else e) = xs := by
    intro xs hxs
    exact List.map_congr_left (fun e he => if_neg (hxs e he)) |>.trans (List.map_id' xs)
  rw [set, dif_pos hkey, replace]
  show (d.entries.map fun e => if e.1 = k then (k, v) else e) = _
  rw [hentries, List.map_append, List.map_cons, hkeep es hes, hkeep fs hfs, if_pos rfl]

/-- Setting a key exchanges its share of a sum; a key that is absent has none. -/
theorem sum_values_set (d : Dict κ α) (f : α → ℕ) (k : κ) (v : α) {w : α} (hw : f w = 0) :
    ((d.set k v).values.map f).sum + f (d.getD k w) = (d.values.map f).sum + f v := by
  cases hget : d.get? k with
  | none =>
    have hkey := (d.get?_eq_none_iff k).mp hget
    rw [getD, hget, values, entries_set_of_notMem d v hkey, values]
    simp [hw]
  | some u =>
    obtain ⟨es, fs, hentries, hset⟩ := d.exists_entries_set hget
    rw [getD, hget, values, hset v, values, hentries]
    simp only [List.map_append, List.map_cons, List.sum_append, List.sum_cons, Option.getD_some]
    omega

/-- Setting a key to a value that satisfies what the old one did. -/
theorem any_values_set (d : Dict κ α) (p : α → Bool) (k : κ) (v : α) {w : α}
    (hmono : p (d.getD k w) = true → p v = true) :
    (d.set k v).values.any p = (d.values.any p || p v) := by
  cases hget : d.get? k with
  | none =>
    have hkey := (d.get?_eq_none_iff k).mp hget
    rw [values, entries_set_of_notMem d v hkey, values]
    simp
  | some u =>
    obtain ⟨es, fs, hentries, hset⟩ := d.exists_entries_set hget
    rw [getD, hget, Option.getD_some] at hmono
    rw [values, hset v, values, hentries]
    simp only [List.map_append, List.map_cons, List.any_append, List.any_cons]
    cases hu : p u with
    | false => cases p v <;> simp
    | true => simp [hmono hu]

theorem mem_values_set {d : Dict κ α} {k : κ} {v u : α} (h : u ∈ (d.set k v).values) :
    u = v ∨ u ∈ d.values := by
  obtain ⟨e, he, rfl⟩ := List.mem_map.mp h
  rcases (d.mem_entries_set k e.1 v e.2).mp he with ⟨_, hv⟩ | ⟨_, hold⟩
  · exact .inl hv
  · exact .inr (List.mem_map_of_mem (f := Prod.snd) hold)

/-- Two dictionaries with the same keys, entry by entry, stay so. -/
theorem forall₂_set {d : Dict κ α} {e : Dict κ β} {R : α → β → Prop}
    (h : List.Forall₂ (fun x y => x.1 = y.1 ∧ R x.2 y.2) d.entries e.entries) (k : κ) {v : α}
    {w : β} (hvw : R v w) :
    List.Forall₂ (fun x y => x.1 = y.1 ∧ R x.2 y.2) (d.set k v).entries (e.set k w).entries := by
  have hkeys : d.keys = e.keys := by
    rw [keys, keys]
    exact List.forall₂_eq_eq_eq ▸ (List.forall₂_map_left_iff.mpr
      (List.forall₂_map_right_iff.mpr (h.imp fun _ _ hxy => hxy.1)))
  by_cases hk : k ∈ d.keys
  · rw [set, dif_pos hk, set, dif_pos (hkeys ▸ hk)]
    refine List.forall₂_map_left_iff.mpr (List.forall₂_map_right_iff.mpr (h.imp ?_))
    rintro x y ⟨hxy, hR⟩
    by_cases hx : x.1 = k
    · rw [if_pos hx, if_pos (hxy ▸ hx)]
      exact ⟨rfl, hvw⟩
    · rw [if_neg hx, if_neg (hxy ▸ hx)]
      exact ⟨hxy, hR⟩
  · rw [entries_set_of_notMem d v hk, entries_set_of_notMem e w (hkeys ▸ hk)]
    exact List.rel_append h (List.Forall₂.cons ⟨rfl, hvw⟩ .nil)

theorem forall₂_getD {d : Dict κ α} {e : Dict κ β} {R : α → β → Prop}
    (h : List.Forall₂ (fun x y => x.1 = y.1 ∧ R x.2 y.2) d.entries e.entries) (k : κ) {v : α}
    {w : β} (hvw : R v w) : R (d.getD k v) (e.getD k w) := by
  rw [getD, getD, get?, get?]
  generalize d.entries = xs at h
  generalize e.entries = ys at h
  induction h with
  | nil => exact hvw
  | @cons x y xs ys hxy _ ih =>
    rw [List.find?_cons, List.find?_cons, ← hxy.1]
    cases hx : decide (x.1 = k) with
    | true => exact hxy.2
    | false => exact ih

/-! ## Entries in key order -/

/-- The entries in the order of their keys, as a document written with sorted keys has them. -/
def sortedEntries [LE κ] [DecidableLE κ] (d : Dict κ α) : List (κ × α) :=
  d.entries.insertionSort fun a b => a.1 ≤ b.1

omit [DecidableEq κ] in
theorem sortedEntries_perm [LE κ] [DecidableLE κ] (d : Dict κ α) :
    d.sortedEntries.Perm d.entries :=
  List.perm_insertionSort _ _

omit [DecidableEq κ] in
theorem mem_sortedEntries [LE κ] [DecidableLE κ] (d : Dict κ α) (e : κ × α) :
    e ∈ d.sortedEntries ↔ e ∈ d.entries :=
  d.sortedEntries_perm.mem_iff

theorem mem_sortedEntries_iff [LE κ] [DecidableLE κ] (d : Dict κ α) (k : κ) (v : α) :
    (k, v) ∈ d.sortedEntries ↔ d.get? k = some v := by
  rw [mem_sortedEntries, get?_eq_some_iff]

omit [DecidableEq κ] in
theorem nodup_sortedEntries [LE κ] [DecidableLE κ] (d : Dict κ α) :
    (d.sortedEntries.map Prod.fst).Nodup :=
  (d.sortedEntries_perm.map Prod.fst).nodup_iff.mpr d.nodup

omit [DecidableEq κ] in
@[simp] theorem sortedEntries_empty [LE κ] [DecidableLE κ] :
    (∅ : Dict κ α).sortedEntries = [] := rfl

end Dict
