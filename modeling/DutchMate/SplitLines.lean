/-
# Splitting a stream after its terminators

General facts about cutting a stream of letters into segments that each end in a
terminator, with an unterminated tail.  `splitFrom isEnd t xs` reads `xs` with `t`
already waiting; the letters are arbitrary, so a stream may carry positions or
any other tag beside its bytes.

* `splitFrom_append` : reading in two pieces is reading their concatenation;
* `splitFrom_flatten` : segments and tail tile the input;
* `splitFrom_terminated`, `splitFrom_tail_open` : where the terminators stand.
-/
import Mathlib.Data.List.Basic
import Mathlib.Tactic.Common

namespace SplitLines

variable {α β : Type*}

/-- Cut `xs` after every terminator, with the unterminated letters `t` waiting in
front.  The result is the list of terminated segments and the letters left over. -/
def splitFrom (isEnd : α → Bool) : List α → List α → List (List α) × List α
  | t, [] => ([], t)
  | t, x :: xs =>
    if isEnd x then
      ((t ++ [x]) :: (splitFrom isEnd [] xs).1, (splitFrom isEnd [] xs).2)
    else splitFrom isEnd (t ++ [x]) xs

@[simp] theorem splitFrom_nil (isEnd : α → Bool) (t : List α) :
    splitFrom isEnd t [] = ([], t) := rfl

/-- Reading a stream in two pieces: the segments concatenate and the tail of the
first piece waits for the second. -/
theorem splitFrom_append (isEnd : α → Bool) (t xs ys : List α) :
    splitFrom isEnd t (xs ++ ys)
      = ((splitFrom isEnd t xs).1 ++ (splitFrom isEnd (splitFrom isEnd t xs).2 ys).1,
          (splitFrom isEnd (splitFrom isEnd t xs).2 ys).2) := by
  induction xs generalizing t with
  | nil => simp
  | cons x xs ih =>
    by_cases hx : isEnd x
    · simp [splitFrom, hx, ih]
    · simp [splitFrom, hx, ih]

/-- Letters without a terminator only lengthen the tail. -/
theorem splitFrom_open (isEnd : α → Bool) (t xs : List α) (h : ∀ x ∈ xs, isEnd x = false) :
    splitFrom isEnd t xs = ([], t ++ xs) := by
  induction xs generalizing t with
  | nil => simp
  | cons x xs ih =>
    have hx : isEnd x = false := h x (by simp)
    rw [splitFrom, hx, if_neg (by simp), ih _ (fun y hy => h y (by simp [hy]))]
    simp

/-- A body without a terminator, its terminator, and the rest of the stream. -/
theorem splitFrom_segment (isEnd : α → Bool) (t body rest : List α) (e : α)
    (hbody : ∀ x ∈ body, isEnd x = false) (he : isEnd e = true) :
    splitFrom isEnd t (body ++ e :: rest)
      = ((t ++ body ++ [e]) :: (splitFrom isEnd [] rest).1, (splitFrom isEnd [] rest).2) := by
  rw [splitFrom_append, splitFrom_open isEnd t body hbody]
  simp [splitFrom, he]

/-- The segments and the tail tile the waiting letters followed by the input. -/
theorem splitFrom_flatten (isEnd : α → Bool) (t xs : List α) :
    (splitFrom isEnd t xs).1.flatten ++ (splitFrom isEnd t xs).2 = t ++ xs := by
  induction xs generalizing t with
  | nil => simp
  | cons x xs ih =>
    by_cases hx : isEnd x
    · have := ih []
      simp only [List.nil_append] at this
      simp [splitFrom, hx, this]
    · simp [splitFrom, hx, ih]

/-- Every segment is an open body followed by one terminator. -/
theorem splitFrom_terminated (isEnd : α → Bool) (t xs : List α)
    (ht : ∀ x ∈ t, isEnd x = false) :
    ∀ l ∈ (splitFrom isEnd t xs).1,
      ∃ body e, l = body ++ [e] ∧ isEnd e = true ∧ ∀ x ∈ body, isEnd x = false := by
  induction xs generalizing t with
  | nil => simp
  | cons x xs ih =>
    intro l hl
    by_cases hx : isEnd x
    · simp only [splitFrom, hx, if_true, List.mem_cons] at hl
      rcases hl with rfl | hl
      · exact ⟨t, x, rfl, hx, ht⟩
      · exact ih [] (by simp) l hl
    · simp only [splitFrom, hx] at hl
      refine ih (t ++ [x]) ?_ l hl
      intro y hy
      rcases List.mem_append.mp hy with hy | hy
      · exact ht y hy
      · simp only [List.mem_singleton] at hy
        simpa [hy] using hx

/-- Every segment ends in a letter of the input. -/
theorem splitFrom_end_mem (isEnd : α → Bool) (t xs : List α) :
    ∀ l ∈ (splitFrom isEnd t xs).1, ∃ body e, l = body ++ [e] ∧ e ∈ xs := by
  induction xs generalizing t with
  | nil => exact nofun
  | cons x xs ih =>
    intro l hl
    by_cases hx : isEnd x
    · rw [splitFrom, if_pos hx] at hl
      rcases List.mem_cons.mp hl with rfl | hl
      · exact ⟨t, x, rfl, by simp⟩
      · obtain ⟨body, e, hbody, he⟩ := ih [] l hl
        exact ⟨body, e, hbody, by simp [he]⟩
    · rw [splitFrom, if_neg hx] at hl
      obtain ⟨body, e, hbody, he⟩ := ih (t ++ [x]) l hl
      exact ⟨body, e, hbody, by simp [he]⟩

/-- The tail holds no terminator. -/
theorem splitFrom_tail_open (isEnd : α → Bool) (t xs : List α)
    (ht : ∀ x ∈ t, isEnd x = false) :
    ∀ x ∈ (splitFrom isEnd t xs).2, isEnd x = false := by
  induction xs generalizing t with
  | nil => simpa using ht
  | cons x xs ih =>
    by_cases hx : isEnd x
    · simpa [splitFrom, hx] using ih [] (by simp)
    · simp only [splitFrom, hx]
      refine ih (t ++ [x]) ?_
      intro y hy
      rcases List.mem_append.mp hy with hy | hy
      · exact ht y hy
      · simp only [List.mem_singleton] at hy
        simpa [hy] using hx

/-- Splitting commutes with a map that keeps the terminators. -/
theorem splitFrom_map (isEnd : β → Bool) (f : α → β) (t xs : List α) :
    splitFrom isEnd (t.map f) (xs.map f)
      = ((splitFrom (isEnd ∘ f) t xs).1.map (List.map f),
          (splitFrom (isEnd ∘ f) t xs).2.map f) := by
  induction xs generalizing t with
  | nil => simp
  | cons x xs ih =>
    have h0 := ih []
    have h1 := ih (t ++ [x])
    simp only [List.map_nil, List.map_append, List.map_cons] at h0 h1
    by_cases hx : isEnd (f x)
    · simp [splitFrom, hx, h0]
    · simp [splitFrom, hx, h1]

/-- Finding the first terminator cuts the input into an open body, that terminator
and the rest. -/
theorem exists_split_of_findIdx? {p : α → Bool} {xs : List α} {k : ℕ}
    (h : xs.findIdx? p = some k) :
    ∃ body e rest, xs = body ++ e :: rest ∧ body.length = k ∧ p e = true ∧
      ∀ x ∈ body, p x = false := by
  obtain ⟨hk, hpk, hlt⟩ := List.findIdx?_eq_some_iff_getElem.mp h
  refine ⟨xs.take k, xs[k], xs.drop (k + 1), ?_, ?_, hpk, ?_⟩
  · rw [← List.drop_eq_getElem_cons hk, List.take_append_drop]
  · rw [List.length_take]
    exact Nat.min_eq_left (Nat.le_of_lt hk)
  · intro x hx
    obtain ⟨j, hj, rfl⟩ := List.mem_iff_getElem.mp hx
    rw [List.length_take] at hj
    rw [List.getElem_take]
    simpa using hlt j (Nat.lt_of_lt_of_le hj (Nat.min_le_left _ _))

/-- Drop everything through the first terminator; all of it when there is none. -/
def dropThrough (isEnd : α → Bool) : List α → List α
  | [] => []
  | x :: xs => if isEnd x then xs else dropThrough isEnd xs

/-- Whether a terminator has been read. -/
def hasEnd (isEnd : α → Bool) (xs : List α) : Bool := xs.any isEnd

theorem dropThrough_of_open (isEnd : α → Bool) (xs : List α)
    (h : ∀ x ∈ xs, isEnd x = false) : dropThrough isEnd xs = [] := by
  induction xs with
  | nil => rfl
  | cons x xs ih =>
    rw [dropThrough, h x (by simp), if_neg (by simp)]
    exact ih (fun y hy => h y (by simp [hy]))

/-- What `dropThrough` keeps is a suffix. -/
theorem exists_dropThrough (isEnd : α → Bool) (xs : List α) :
    ∃ dropped, xs = dropped ++ dropThrough isEnd xs := by
  induction xs with
  | nil => exact ⟨[], rfl⟩
  | cons x xs ih =>
    by_cases hx : isEnd x
    · exact ⟨[x], by simp [dropThrough, hx]⟩
    · obtain ⟨dropped, hd⟩ := ih
      refine ⟨x :: dropped, ?_⟩
      simp only [dropThrough, hx, Bool.false_eq_true, if_false, List.cons_append]
      rw [← hd]

/-- Before the first terminator the whole prefix is dropped, after it nothing more. -/
theorem dropThrough_append (isEnd : α → Bool) (xs ys : List α) :
    dropThrough isEnd (xs ++ ys)
      = if hasEnd isEnd xs then dropThrough isEnd xs ++ ys else dropThrough isEnd ys := by
  induction xs with
  | nil => simp [hasEnd]
  | cons x xs ih =>
    by_cases hx : isEnd x
    · simp [dropThrough, hasEnd, hx]
    · simp only [hasEnd] at ih
      simp [dropThrough, hasEnd, hx, ih]

theorem dropThrough_map (isEnd : β → Bool) (f : α → β) (xs : List α) :
    dropThrough isEnd (xs.map f) = (dropThrough (isEnd ∘ f) xs).map f := by
  induction xs with
  | nil => rfl
  | cons x xs ih => by_cases hx : isEnd (f x) <;> simp [dropThrough, hx, ih]

theorem dropThrough_segment (isEnd : α → Bool) (body rest : List α) (e : α)
    (hbody : ∀ x ∈ body, isEnd x = false) (he : isEnd e = true) :
    dropThrough isEnd (body ++ e :: rest) = rest := by
  induction body with
  | nil => simp [dropThrough, he]
  | cons x body ih =>
    have hx := hbody x (by simp)
    simp only [List.cons_append, dropThrough, hx]
    exact ih (fun y hy => hbody y (by simp [hy]))

end SplitLines
