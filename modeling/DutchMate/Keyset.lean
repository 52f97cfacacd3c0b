/-
# Paging by key

A list is read page by page, newest first, and every page but the first goes on below the
last key of the page before.  `IsPage` says what one page is of the keys there are when it
is taken, and `Walk` strings pages together while the keys come and go in between: what is
listed is strictly descending, and a key that stays is listed or still below the walk.
-/
import Mathlib.Data.List.Sort
import Mathlib.Data.Set.Basic
import Mathlib.Tactic.Common

namespace Keyset

variable {K : Type} [LinearOrder K]

/-- Whether a key lies below a boundary; without one every key does. -/
def Below (boundary : Option K) (k : K) : Prop := ∀ b ∈ boundary, k < b

/-- A page of the keys below a boundary, and whether keys are left for another. -/
structure IsPage (keys : Set K) (boundary : Option K) (page : List K) (more : Prop) : Prop where
  descending : page.Pairwise (· > ·)
  sound : ∀ k ∈ page, k ∈ keys ∧ Below boundary k
  rest : ∀ k ∈ keys, Below boundary k → k ∉ page → more ∧ ∀ listed ∈ page, k < listed
  left : more → page ≠ [] ∧ ∃ k ∈ keys, Below boundary k ∧ k ∉ page

/-- The pages taken from a boundary on, each with the keys there were; `ended` when the
last of them left nothing. -/
inductive Walk : Option K → List (Set K × List K) → (ended : Prop) → Prop
  | paused (boundary : Option K) : Walk boundary [] False
  | last {boundary : Option K} {keys : Set K} {page : List K}
      (hpage : IsPage keys boundary page False) : Walk boundary [(keys, page)] True
  | next {boundary : Option K} {keys : Set K} {page : List K} {visits : List (Set K × List K)}
      {ended : Prop} (hpage : IsPage keys boundary page True)
      (hwalk : Walk page.getLast? visits ended) : Walk boundary ((keys, page) :: visits) ended

/-- Everything a walk has listed. -/
def listed (visits : List (Set K × List K)) : List K := visits.flatMap Prod.snd

/-- The first keys of a descending list are a page of its keys. -/
theorem isPage_take {keys : Set K} {boundary : Option K} {items : List K}
    (hsorted : items.Pairwise (· > ·)) (hmem : ∀ k, k ∈ items ↔ k ∈ keys ∧ Below boundary k)
    {limit : ℕ} (hlimit : 0 < limit) :
    IsPage keys boundary (items.take limit) (limit < items.length) where
  descending := hsorted.sublist (List.take_sublist limit items)
  sound k hk := (hmem k).mp (List.mem_of_mem_take hk)
  rest k hk hbelow hout := by
    have hitem : k ∈ items := (hmem k).mpr ⟨hk, hbelow⟩
    rw [← List.take_append_drop limit items] at hitem hsorted
    have hdrop : k ∈ items.drop limit := (List.mem_append.mp hitem).resolve_left hout
    refine ⟨?_, fun x hx => (List.pairwise_append.mp hsorted).2.2 x hx k hdrop⟩
    by_contra hle
    rw [List.drop_eq_nil_of_le (Nat.not_lt.mp hle)] at hdrop
    cases hdrop
  left hmore := by
    have hk : items[limit] ∈ items := List.getElem_mem hmore
    refine ⟨List.ne_nil_of_length_pos ?_, items[limit], ((hmem _).mp hk).1, ((hmem _).mp hk).2, ?_⟩
    · rw [List.length_take]
      omega
    · intro htake
      have hdrop : items[limit] ∈ items.drop limit := by
        rw [List.drop_eq_getElem_cons hmore]
        exact List.mem_cons_self
      rw [← List.take_append_drop limit items] at hsorted
      exact lt_irrefl _ ((List.pairwise_append.mp hsorted).2.2 _ htake _ hdrop)

/-- The last key of a descending page lies below the others. -/
theorem last_le {page : List K} (hpage : page.Pairwise (· > ·)) {last : K}
    (hlast : last ∈ page.getLast?) : ∀ k ∈ page, last ≤ k := by
  rw [← List.dropLast_append_getLast? last hlast] at hpage ⊢
  intro k hk
  rcases List.mem_append.mp hk with hinit | hlast'
  · exact ((List.pairwise_append.mp hpage).2.2 k hinit last (by simp)).le
  · rw [List.mem_singleton.mp hlast']

/-- A key below a page's last key is below the whole page. -/
theorem below_page {page : List K} (hpage : page.Pairwise (· > ·)) {k : K} (hne : page ≠ [])
    (hbelow : Below page.getLast? k) : ∀ x ∈ page, k < x := by
  intro x hx
  have hlast := List.getLast?_eq_getLast_of_ne_nil hne
  exact (hbelow _ hlast).trans_le (last_le hpage hlast x hx)

/-- A key below a page's last key is below the boundary the page was taken from. -/
theorem IsPage.below_of_last {keys : Set K} {boundary : Option K} {page : List K} {more : Prop}
    (hpage : IsPage keys boundary page more) (hmore : more) {k : K}
    (hbelow : Below page.getLast? k) : Below boundary k := by
  have hne := (hpage.left hmore).1
  obtain ⟨x, hx⟩ := List.exists_mem_of_ne_nil page hne
  have hlt := below_page hpage.descending hne hbelow x hx
  exact fun b hb => hlt.trans ((hpage.sound x hx).2 b hb)

namespace Walk

variable {boundary : Option K} {visits : List (Set K × List K)} {ended : Prop}

/-- What a walk lists lies below the boundary it starts from. -/
theorem listed_below (h : Walk boundary visits ended) : ∀ k ∈ listed visits, Below boundary k := by
  induction h with
  | paused => simp [listed]
  | last hpage =>
    intro k hk
    exact (hpage.sound k (by simpa [listed] using hk)).2
  | next hpage hwalk ih =>
    intro k hk
    rcases List.mem_append.mp hk with hhere | hlater
    · exact (hpage.sound k hhere).2
    · exact hpage.below_of_last trivial (ih k hlater)

/-- The pages of a walk, put end to end, are strictly descending. -/
theorem descending (h : Walk boundary visits ended) : (listed visits).Pairwise (· > ·) := by
  induction h with
  | paused => exact List.Pairwise.nil
  | last hpage => simpa [listed] using hpage.descending
  | next hpage hwalk ih =>
    refine List.pairwise_append.mpr ⟨hpage.descending, ih, fun x hx k hk => ?_⟩
    exact below_page hpage.descending (hpage.left trivial).1 (hwalk.listed_below k hk) x hx

/-- A key that stays is listed, or the walk has not come down to it. -/
theorem complete (h : Walk boundary visits ended) {k : K} (hbelow : Below boundary k)
    (hstays : ∀ visit ∈ visits, k ∈ visit.1) :
    k ∈ listed visits ∨ ¬ended ∧ ∀ x ∈ listed visits, k < x := by
  induction h with
  | paused => exact .inr ⟨id, by simp [listed]⟩
  | @last _ keys page hpage =>
    refine .inl (by_contra fun hout => ?_)
    have hkey := hstays _ List.mem_cons_self
    exact (hpage.rest k hkey hbelow (by simpa [listed] using hout)).1
  | @next _ keys page visits ended hpage hwalk ih =>
    by_cases hhere : k ∈ page
    · exact .inl (List.mem_append_left _ hhere)
    have hunder := (hpage.rest k (hstays _ List.mem_cons_self) hbelow hhere).2
    have hlast : Below page.getLast? k := fun b hb =>
      hunder b (List.mem_of_getLast? hb)
    rcases ih hlast fun visit hvisit => hstays visit (List.mem_cons_of_mem _ hvisit) with
      hlater | ⟨hended, hlater⟩
    · exact .inl (List.mem_append_right _ hlater)
    · refine .inr ⟨hended, fun x hx => ?_⟩
      rcases List.mem_append.mp hx with hx | hx
      · exact hunder x hx
      · exact hlater x hx

end Walk

end Keyset
