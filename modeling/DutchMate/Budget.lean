/-
# Selection within a budget

Items are offered in the order of their priority.  An item is taken unless one of its key has been
taken, as many as are allowed have been, or its size no longer fits; those behind it are offered
all the same.
-/
import Mathlib.Algebra.BigOperators.Group.List.Basic
import Mathlib.Algebra.GroupWithZero.Nat
import Mathlib.Algebra.Order.BigOperators.Group.List
import Mathlib.Data.List.Induction
import Mathlib.Data.List.Nodup
import Mathlib.Tactic.Common

namespace Budget

section

variable {α κ : Type} [DecidableEq κ] (key : α → κ) (size : α → ℕ) (count bytes : ℕ)

def total (items : List α) : ℕ := (items.map size).sum

/-- Whether an item is beyond the limits, with some taken. -/
def Exceeds (taken : List α) (item : α) : Prop :=
  count ≤ taken.length ∨ bytes < total size taken + size item

instance (taken : List α) (item : α) : Decidable (Exceeds size count bytes taken item) :=
  inferInstanceAs (Decidable (_ ∨ _))

def offer (taken : List α) (item : α) : List α :=
  if key item ∈ taken.map key ∨ Exceeds size count bytes taken item then taken else taken ++ [item]

def offerAll (taken items : List α) : List α := items.foldl (offer key size count bytes) taken

/-- What is taken of some items. -/
def choose (items : List α) : List α := offerAll key size count bytes [] items

/-- The size taken of items of some sizes, whatever their number. -/
def fill (sizes : List ℕ) : ℕ :=
  sizes.foldl (fun taken size => if bytes < taken + size then taken else taken + size) 0

end

variable {α κ : Type} [DecidableEq κ] {key : α → κ} {size : α → ℕ} {count bytes : ℕ}

theorem total_concat (taken : List α) (item : α) :
    total size (taken ++ [item]) = total size taken + size item := by
  simp [total]

theorem total_le_of_initial {taken more : List α} (h : taken <+: more) :
    total size taken ≤ total size more := by
  obtain ⟨rest, rfl⟩ := h
  simp [total]

theorem initial_offer (taken : List α) (item : α) :
    taken <+: offer key size count bytes taken item := by
  unfold offer
  split
  · exact List.prefix_rfl
  · exact List.prefix_append _ _

theorem initial_offerAll (taken items : List α) :
    taken <+: offerAll key size count bytes taken items := by
  induction items generalizing taken with
  | nil => exact List.prefix_rfl
  | cons item items ih => exact (initial_offer taken item).trans (ih _)

theorem offerAll_append (taken items more : List α) :
    offerAll key size count bytes taken (items ++ more)
      = offerAll key size count bytes (offerAll key size count bytes taken items) more :=
  List.foldl_append

theorem choose_append (items more : List α) :
    choose key size count bytes (items ++ more)
      = offerAll key size count bytes (choose key size count bytes items) more :=
  offerAll_append [] items more

theorem choose_initial (items more : List α) :
    choose key size count bytes items <+: choose key size count bytes (items ++ more) := by
  rw [choose_append]
  exact initial_offerAll _ more

/-! ## Within the limits -/

/-- What holds of the items taken. -/
structure Within (key : α → κ) (size : α → ℕ) (count bytes : ℕ) (taken : List α) : Prop where
  nodup : (taken.map key).Nodup
  length : taken.length ≤ count
  total : total size taken ≤ bytes

theorem Within.offer {taken : List α} (h : Within key size count bytes taken) (item : α) :
    Within key size count bytes (offer key size count bytes taken item) := by
  unfold Budget.offer
  split
  · exact h
  · next hnew =>
    rw [not_or, Exceeds, not_or, not_le, not_lt] at hnew
    refine ⟨?_, ?_, ?_⟩
    · rw [List.map_append, List.map_singleton, ← List.concat_eq_append]
      exact h.nodup.concat hnew.1
    · rw [List.length_append, List.length_singleton]
      exact hnew.2.1
    · rw [total_concat]
      exact hnew.2.2

theorem Within.offerAll {taken : List α} (h : Within key size count bytes taken)
    (items : List α) : Within key size count bytes (offerAll key size count bytes taken items) := by
  induction items generalizing taken with
  | nil => exact h
  | cons item items ih => exact ih (h.offer item)

theorem within_choose (items : List α) :
    Within key size count bytes (choose key size count bytes items) := by
  have hnil : Within key size count bytes [] := ⟨.nil, Nat.zero_le _, Nat.zero_le _⟩
  exact hnil.offerAll items

theorem mem_offerAll {taken items : List α} {item : α}
    (h : item ∈ offerAll key size count bytes taken items) : item ∈ taken ∨ item ∈ items := by
  induction items generalizing taken with
  | nil => exact .inl h
  | cons first items ih =>
    rcases ih h with h | h
    · unfold offer at h
      split at h
      · exact .inl h
      · rcases List.mem_append.mp h with h | h
        · exact .inl h
        · exact .inr (List.mem_cons.mpr (.inl (List.mem_singleton.mp h)))
    · exact .inr (List.mem_cons_of_mem _ h)

theorem mem_of_mem_choose {items : List α} {item : α}
    (h : item ∈ choose key size count bytes items) : item ∈ items :=
  (mem_offerAll h).resolve_left nofun

/-! ## What is left out -/

theorem Exceeds.of_initial {taken more : List α} {item : α} (h : taken <+: more)
    (hexceeds : Exceeds size count bytes taken item) : Exceeds size count bytes more item := by
  have hlength := h.length_le
  have htotal : total size taken ≤ total size more := total_le_of_initial h
  unfold Exceeds at hexceeds ⊢
  omega

/-- An item that was offered is taken by its key, or beyond the limits from then on. -/
theorem taken_or_exceeds {items : List α} {item : α} (h : item ∈ items) :
    key item ∈ (choose key size count bytes items).map key ∨
      Exceeds size count bytes (choose key size count bytes items) item := by
  obtain ⟨before, after, rfl⟩ := List.append_of_mem h
  have hoffered : key item ∈ (offer key size count bytes
      (choose key size count bytes before) item).map key ∨
      Exceeds size count bytes
        (offer key size count bytes (choose key size count bytes before) item) item := by
    unfold offer
    split
    · next h => exact h
    · exact .inl (by simp)
  have hinitial : offer key size count bytes (choose key size count bytes before) item
      <+: choose key size count bytes (before ++ item :: after) := by
    rw [choose_append]
    exact initial_offerAll _ after
  exact hoffered.imp (fun hmem => (hinitial.map key).subset hmem) (Exceeds.of_initial hinitial)

/-- An item beyond the limits is not taken of what follows. -/
theorem not_mem_offerAll {taken items : List α} {item : α} (hnot : item ∉ taken)
    (hexceeds : Exceeds size count bytes taken item) :
    item ∉ offerAll key size count bytes taken items := by
  induction items generalizing taken with
  | nil => exact hnot
  | cons first items ih =>
    refine ih ?_ (hexceeds.of_initial (initial_offer taken first))
    unfold offer
    split
    · exact hnot
    · next hnew =>
      rw [List.mem_append, List.mem_singleton, not_or]
      refine ⟨hnot, ?_⟩
      rintro rfl
      exact hnew (.inr hexceeds)

/-- Of the items offered first, those are taken that were taken of them alone. -/
theorem mem_choose_append {items more : List α}
    (hkeys : ∀ a ∈ items, ∀ b ∈ items, key a = key b → a = b) {item : α} (h : item ∈ items) :
    item ∈ choose key size count bytes (items ++ more)
      ↔ item ∈ choose key size count bytes items := by
  refine ⟨fun hmem => ?_, fun hmem => (choose_initial items more).subset hmem⟩
  by_contra hnot
  have hoffered : key item ∈ (choose key size count bytes items).map key ∨
      Exceeds size count bytes (choose key size count bytes items) item := taken_or_exceeds h
  rcases hoffered with htaken | hexceeds
  · obtain ⟨other, hother, hkey⟩ := List.mem_map.mp htaken
    exact hnot (hkeys other (mem_of_mem_choose hother) item h hkey ▸ hother)
  · rw [choose_append] at hmem
    exact not_mem_offerAll hnot hexceeds hmem

theorem length_offerAll_le (taken items : List α) :
    (offerAll key size count bytes taken items).length ≤ taken.length + items.length := by
  induction items generalizing taken with
  | nil => exact le_rfl
  | cons item items ih =>
    have hrest := ih (offer key size count bytes taken item)
    have hfirst : (offer key size count bytes taken item).length ≤ taken.length + 1 := by
      unfold offer
      split
      · exact Nat.le_succ _
      · rw [List.length_append, List.length_singleton]
    rw [List.length_cons]
    exact hrest.trans (by omega)

theorem length_choose_le (items : List α) :
    (choose key size count bytes items).length ≤ items.length := by
  have hle : (choose key size count bytes items).length ≤ [].length + items.length :=
    length_offerAll_le [] items
  rwa [List.length_nil, Nat.zero_add] at hle

theorem not_mem_choose_of_nodup {before : List α} {item : α}
    (hkeys : ((before ++ [item]).map key).Nodup) :
    key item ∉ (choose key size count bytes before).map key := by
  rw [List.map_append, List.map_singleton, List.nodup_append] at hkeys
  rintro hmem
  obtain ⟨other, hother, hkey⟩ := List.mem_map.mp hmem
  exact hkeys.2.2 _ (List.mem_map_of_mem (mem_of_mem_choose hother)) _ List.mem_cons_self hkey

theorem choose_concat {before : List α} {item : α}
    (hkeys : ((before ++ [item]).map key).Nodup) (hlength : (before ++ [item]).length ≤ count) :
    choose key size count bytes (before ++ [item])
      = if bytes < total size (choose key size count bytes before) + size item then
          choose key size count bytes before
        else choose key size count bytes before ++ [item] := by
  have hnew : key item ∉ (choose key size count bytes before).map key :=
    not_mem_choose_of_nodup hkeys
  have hroom : ¬count ≤ (choose key size count bytes before).length := by
    have hle : (choose key size count bytes before).length ≤ before.length :=
      length_choose_le before
    rw [List.length_append, List.length_singleton] at hlength
    omega
  rw [choose_append]
  change offer key size count bytes (choose key size count bytes before) item = _
  unfold offer Exceeds
  simp only [hnew, hroom, false_or]

/-- Where the number is no limit, an item of a new key is taken if it fits beside those before. -/
theorem mem_choose_iff {before after : List α} {item : α}
    (hkeys : ((before ++ item :: after).map key).Nodup)
    (hlength : (before ++ item :: after).length ≤ count) :
    item ∈ choose key size count bytes (before ++ item :: after)
      ↔ total size (choose key size count bytes before) + size item ≤ bytes := by
  rw [List.append_cons] at hkeys hlength ⊢
  have hfirst : ((before ++ [item]).map key).Nodup := by
    rw [List.map_append] at hkeys
    exact hkeys.of_append_left
  have hfirstLength : (before ++ [item]).length ≤ count := by
    rw [List.length_append] at hlength
    omega
  rw [mem_choose_append (fun a ha b hb => List.inj_on_of_nodup_map hfirst ha hb) (by simp),
    choose_concat hfirst hfirstLength]
  have hnew : item ∉ choose key size count bytes before := fun hmem =>
    not_mem_choose_of_nodup hfirst (List.mem_map_of_mem hmem)
  split
  · next h => exact iff_of_false hnew (not_le.mpr h)
  · next h => exact iff_of_true (by simp) (not_lt.mp h)

/-- The size taken of items of different keys. -/
theorem total_choose_eq_fill {items : List α} (hkeys : (items.map key).Nodup)
    (hlength : items.length ≤ count) :
    total size (choose key size count bytes items) = fill bytes (items.map size) := by
  induction items using List.reverseRecOn with
  | nil => rfl
  | append_singleton before item ih =>
    have hbefore : (before.map key).Nodup := by
      rw [List.map_append] at hkeys
      exact hkeys.of_append_left
    have hlengthBefore : before.length ≤ count := by
      rw [List.length_append] at hlength
      omega
    rw [choose_concat hkeys hlength, fill, List.map_append, List.map_singleton, List.foldl_concat,
      ← fill, ← ih hbefore hlengthBefore]
    split
    · rfl
    · rw [total_concat]

/-! ## By number alone -/

theorem not_exceeds_of_length {taken : List α} {item : α} (h : taken.length < count) :
    ¬Exceeds (fun _ : α => 0) count 0 taken item := by
  have hzero : total (fun _ : α => 0) taken = 0 := by simp [total]
  unfold Exceeds
  rw [hzero]
  dsimp only
  omega

/-- Where the number is the only limit, all that was offered is taken, or as many as are allowed. -/
theorem taken_or_full {items : List α} :
    (∀ item ∈ items, key item ∈ (choose key (fun _ => 0) count 0 items).map key) ∨
      (choose key (fun _ => 0) count 0 items).length = count := by
  by_cases hfull : (choose key (fun _ => 0) count 0 items).length < count
  · exact .inl fun item hitem =>
      (taken_or_exceeds hitem).resolve_right (not_exceeds_of_length hfull)
  · exact .inr (le_antisymm (within_choose items).length (not_lt.mp hfull))

theorem offerAll_of_full {taken : List α} (h : taken.length = count) (items : List α) :
    offerAll key size count bytes taken items = taken := by
  induction items with
  | nil => rfl
  | cons item items ih =>
    have hfirst : offer key size count bytes taken item = taken :=
      if_pos (.inr (.inl h.ge))
    change offerAll key size count bytes (offer key size count bytes taken item) items = taken
    rw [hfirst, ih]

/-- What is offered behind as many as are allowed is not taken. -/
theorem choose_of_full {items : List α} (h : (choose key size count bytes items).length = count)
    (more : List α) :
    choose key size count bytes (items ++ more) = choose key size count bytes items := by
  rw [choose_append, offerAll_of_full h]

end Budget
