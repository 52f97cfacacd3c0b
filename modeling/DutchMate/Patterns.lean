/-
# Patterns

Regular expressions over any letters, searched for in a text: runs of letters, word boundaries,
sequence and choice.  A pattern matched at a place ends at one of finitely many others.
-/
import Mathlib.Data.List.Basic
import Mathlib.Tactic.Common

/-- A place in a text: the letter before it, and those that follow. -/
structure Place (α : Type) where
  before : Option α
  after : List α

inductive Pattern (α : Type) where
  | done
  | one (accepts : α → Bool)
  | many (accepts : α → Bool) (least : ℕ)
  | boundary (isWord : α → Bool)
  | seq (first second : Pattern α)
  | either (first second : Pattern α)

namespace Pattern

variable {α : Type}

/-- The ends of a run of at least some length. -/
def runEnds (accepts : α → Bool) : ℕ → Option α → List α → List (Place α)
  | least, before, [] => if least = 0 then [⟨before, []⟩] else []
  | least, before, c :: rest =>
    (if least = 0 then [⟨before, c :: rest⟩] else []) ++
      if accepts c then runEnds accepts (least - 1) (some c) rest else []

/-- The places at which a match can end. -/
def ends : Pattern α → Place α → List (Place α)
  | .done, place => [place]
  | .one accepts, place =>
    match place.after with
    | [] => []
    | c :: rest => if accepts c then [⟨some c, rest⟩] else []
  | .many accepts least, place => runEnds accepts least place.before place.after
  | .boundary isWord, place =>
    if place.before.any isWord != place.after.head?.any isWord then [place] else []
  | .seq first second, place => (first.ends place).flatMap second.ends
  | .either first second, place => first.ends place ++ second.ends place

def foundFrom (pattern : Pattern α) : Option α → List α → Bool
  | before, [] => !(pattern.ends ⟨before, []⟩).isEmpty
  | before, c :: rest =>
    !(pattern.ends ⟨before, c :: rest⟩).isEmpty || foundFrom pattern (some c) rest

/-- `re.search`. -/
def found (pattern : Pattern α) (text : List α) : Bool := pattern.foundFrom none text

def optional (pattern : Pattern α) : Pattern α := .either .done pattern

/-- The patterns one after the other. -/
def all (patterns : List (Pattern α)) : Pattern α := patterns.foldr .seq .done

def oneOf (first : Pattern α) (patterns : List (Pattern α)) : Pattern α :=
  patterns.foldl .either first

def times (n : ℕ) (pattern : Pattern α) : Pattern α := all (List.replicate n pattern)

/-! ## The least length of a match -/

/-- The letters that every match takes. -/
def least : Pattern α → ℕ
  | .done => 0
  | .one _ => 1
  | .many _ least => least
  | .boundary _ => 0
  | .seq first second => first.least + second.least
  | .either first second => min first.least second.least

theorem length_runEnds {accepts : α → Bool} {least : ℕ} {before : Option α} {text : List α}
    {place : Place α} (h : place ∈ runEnds accepts least before text) :
    place.after.length + least ≤ text.length := by
  induction text generalizing least before with
  | nil =>
    rw [runEnds] at h
    split at h
    · next hleast =>
      rw [List.mem_singleton] at h
      rw [h, hleast]
      exact Nat.le_refl _
    · cases h
  | cons c rest ih =>
    rw [runEnds, List.mem_append] at h
    rcases h with h | h
    · split at h
      · next hleast =>
        rw [List.mem_singleton] at h
        rw [h, hleast]
        exact Nat.le_refl _
      · cases h
    · split at h
      · have := ih h
        rw [List.length_cons]
        omega
      · cases h

theorem length_ends {pattern : Pattern α} {place last : Place α} (h : last ∈ pattern.ends place) :
    last.after.length + pattern.least ≤ place.after.length := by
  induction pattern generalizing place last with
  | done =>
    rw [ends, List.mem_singleton] at h
    rw [h]
    exact Nat.le_refl _
  | one accepts =>
    rw [ends] at h
    split at h
    · cases h
    · next c rest hafter =>
      split at h
      · rw [List.mem_singleton] at h
        rw [h, hafter]
        exact Nat.le_refl _
      · cases h
  | many accepts least => exact length_runEnds h
  | boundary isWord =>
    rw [ends] at h
    split at h
    · rw [List.mem_singleton] at h
      rw [h]
      exact Nat.le_refl _
    · cases h
  | seq first second ihFirst ihSecond =>
    rw [ends, List.mem_flatMap] at h
    obtain ⟨middle, hmiddle, hlast⟩ := h
    have hfirst := ihFirst hmiddle
    have hsecond := ihSecond hlast
    rw [least]
    omega
  | either first second ihFirst ihSecond =>
    rw [ends, List.mem_append] at h
    rw [least]
    rcases h with h | h
    · have := ihFirst h
      omega
    · have := ihSecond h
      omega

theorem ends_of_short {pattern : Pattern α} {place : Place α}
    (h : place.after.length < pattern.least) : pattern.ends place = [] := by
  refine List.eq_nil_iff_forall_not_mem.mpr fun last hlast => ?_
  have := length_ends hlast
  omega

/-- Nothing is found in a text shorter than every match. -/
theorem found_of_short {pattern : Pattern α} {text : List α} (h : text.length < pattern.least) :
    pattern.found text = false := by
  suffices hall : ∀ before, pattern.foundFrom before text = false from hall none
  induction text with
  | nil =>
    intro before
    rw [foundFrom, ends_of_short h]
    rfl
  | cons c rest ih =>
    intro before
    have hends : pattern.ends ⟨before, c :: rest⟩ = [] := ends_of_short h
    rw [List.length_cons] at h
    rw [foundFrom, hends, ih (by omega)]
    rfl

end Pattern
