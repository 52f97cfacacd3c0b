/-
# A retention pass

A pass deletes the oldest sessions nothing needs, down to the configured count: exactly the
first ones due in the order they started, never one in use, and none at all when a session
cannot be read.
-/
import DutchMate.JournalRun
import Mathlib.Data.String.Basic

open Throwing

/-! ## The first of a sorted list -/

section FirstSorted

variable {α : Type} {r : α → α → Prop} [DecidableRel r]

end FirstSorted

/-! ## Moments in order -/

/-- Two texts of one length that stand in the order of two numbers. -/
structure Codes (A B : List Char) (a b : ℕ) : Prop where
  length : A.length = B.length
  eq_iff : A = B ↔ a = b
  lt_iff : A < B ↔ a < b

theorem Codes.cons {A B : List Char} {a b : ℕ} (h : Codes A B a b) (c : Char) :
    Codes (c :: A) (c :: B) a b where
  length := by rw [List.length_cons, List.length_cons, h.length]
  eq_iff := by rw [← h.eq_iff, List.cons.injEq, eq_self_iff_true, true_and]
  lt_iff := by
    rw [← h.lt_iff, List.cons_lt_cons_iff]
    simp

/-- Of texts of one length the first difference decides. -/
theorem append_lt_append_iff {A B C D : List Char} (h : A.length = B.length) :
    A ++ C < B ++ D ↔ A < B ∨ A = B ∧ C < D := by
  induction A generalizing B with
  | nil =>
    cases List.length_eq_zero_iff.mp h.symm
    simp
  | cons x A ih =>
    cases B with
    | nil => cases h
    | cons y B =>
      rw [List.length_cons, List.length_cons, Nat.succ_inj] at h
      rw [List.cons_append, List.cons_append, List.cons_lt_cons_iff, List.cons_lt_cons_iff, ih h,
        List.cons.injEq]
      tauto

/-- A more significant text before a less significant one. -/
theorem Codes.append {A B C D : List Char} {a b c d N : ℕ} (h : Codes A B a b)
    (h' : Codes C D c d) (hc : c < N) (hd : d < N) :
    Codes (A ++ C) (B ++ D) (a * N + c) (b * N + d) where
  length := by rw [List.length_append, List.length_append, h.length, h'.length]
  eq_iff := by
    rw [List.append_eq_append_iff_of_size_eq_left h.length, h.eq_iff, h'.eq_iff]
    constructor
    · rintro ⟨rfl, rfl⟩
      rfl
    · intro hsum
      have hab : a = b := by
        have := congrArg (· / N) hsum
        simpa [Nat.mul_comm _ N, Nat.mul_add_div (Nat.zero_lt_of_lt hc), Nat.div_eq_of_lt hc,
          Nat.div_eq_of_lt hd] using this
      exact ⟨hab, by subst hab; omega⟩
  lt_iff := by
    rw [append_lt_append_iff h.length, h.lt_iff, h.eq_iff, h'.lt_iff]
    constructor
    · rintro (hab | ⟨rfl, hcd⟩)
      · have := Nat.mul_le_mul_right N (Nat.succ_le_of_lt hab)
        rw [Nat.succ_mul] at this
        omega
      · omega
    · intro hlt
      rcases lt_trichotomy a b with hab | rfl | hba
      · exact .inl hab
      · exact .inr ⟨rfl, by omega⟩
      · have := Nat.mul_le_mul_right N (Nat.succ_le_of_lt hba)
        rw [Nat.succ_mul] at this
        omega

theorem codes_digit (i j : ℕ) (hi : i < 10) (hj : j < 10) :
    Codes [Nat.digitChar i] [Nat.digitChar j] i j where
  length := rfl
  eq_iff := by
    have : ∀ i j : Fin 10, [Nat.digitChar i] = [Nat.digitChar j] ↔ (i : ℕ) = j := by decide
    exact this ⟨i, hi⟩ ⟨j, hj⟩
  lt_iff := by
    have : ∀ i j : Fin 10, [Nat.digitChar i] < [Nat.digitChar j] ↔ (i : ℕ) < j := by decide
    exact this ⟨i, hi⟩ ⟨j, hj⟩

/-- Numbers padded to one width stand in their order. -/
theorem codes_padded (width m n : ℕ) (hm : m < 10 ^ width) (hn : n < 10 ^ width) :
    Codes (padded width m) (padded width n) m n := by
  induction width generalizing m n with
  | zero =>
    rw [pow_zero, Nat.lt_one_iff] at hm hn
    subst hm hn
    exact ⟨rfl, by simp, by simp [padded]⟩
  | succ width ih =>
    have hstep := (ih (m / 10) (n / 10) (by rw [pow_succ] at hm; omega)
      (by rw [pow_succ] at hn; omega)).append
        (codes_digit (m % 10) (n % 10) (Nat.mod_lt _ (by omega)) (Nat.mod_lt _ (by omega)))
        (Nat.mod_lt _ (by omega)) (Nat.mod_lt _ (by omega))
    rw [Nat.div_add_mod', Nat.div_add_mod'] at hstep
    exact hstep

/-- The moment as one decimal number, `20240506070809`. -/
def Timestamp.number (t : Timestamp) : ℕ :=
  ((((t.year * 100 + t.month) * 100 + t.day) * 100 + t.hour) * 100 + t.minute) * 100 + t.second

theorem codes_chars (s t : Timestamp) : Codes s.chars t.chars s.number t.number := by
  have hfield : ∀ {m n : ℕ} (c : Char), m < 100 → n < 100 →
      Codes (c :: padded 2 m) (c :: padded 2 n) m n := fun c hm hn =>
    (codes_padded 2 _ _ hm hn).cons c
  have hyear := codes_padded 4 s.year t.year s.year.isLt t.year.isLt
  have hmonth := hyear.append (hfield '-' (m := s.month) (n := t.month) (by omega) (by omega))
    (N := 100) (by omega) (by omega)
  have hday := hmonth.append (hfield '-' (m := s.day) (n := t.day) (by omega) (by omega))
    (N := 100) (by omega) (by omega)
  have hhour := hday.append (hfield 'T' (m := s.hour) (n := t.hour) (by omega) (by omega))
    (N := 100) (by omega) (by omega)
  have hminute := hhour.append (hfield ':' (m := s.minute) (n := t.minute) (by omega) (by omega))
    (N := 100) (by omega) (by omega)
  have hsecond := hminute.append
    (hfield ':' (m := s.second) (n := t.second) (by omega) (by omega)) (N := 100) (by omega)
    (by omega)
  have hend : Codes ['Z'] ['Z'] 0 0 := ⟨rfl, by simp, by simp⟩
  have hall := hsecond.append hend (N := 1) Nat.one_pos Nat.one_pos
  rw [Nat.mul_one, Nat.add_zero, Nat.mul_one, Nat.add_zero] at hall
  exact hall

/-- The texts of moments stand in the order of time. -/
theorem Timestamp.text_lt_iff (s t : Timestamp) : s.text < t.text ↔ s.number < t.number := by
  rw [String.lt_iff_toList_lt, Timestamp.text, Timestamp.text, String.toList_ofList,
    String.toList_ofList]
  exact (codes_chars s t).lt_iff

theorem Timestamp.text_eq_iff (s t : Timestamp) : s.text = t.text ↔ s.number = t.number := by
  rw [← (codes_chars s t).eq_iff, Timestamp.text, Timestamp.text, String.ofList_inj]

/-! ## The order of deletion -/

/-- Sessions are ordered by when they started, then by identifier. -/
theorem startsBefore_iff (a b : SessionId × SessionFiles) :
    startsBefore a b = true ↔
      a.2.metadata.startedAt.number < b.2.metadata.startedAt.number ∨
        a.2.metadata.startedAt.number = b.2.metadata.startedAt.number ∧ a.1 ≤ b.1 := by
  rw [← Timestamp.text_lt_iff, ← Timestamp.text_eq_iff]
  simp only [startsBefore, Timestamp.text, Bool.or_eq_true, Bool.and_eq_true, decide_eq_true_eq]

instance total_startsBefore : Std.Total fun a b => startsBefore a b = true where
  total a b := by
    simp only [startsBefore_iff]
    rcases lt_trichotomy a.2.metadata.startedAt.number b.2.metadata.startedAt.number with h | h | h
    · exact .inl (.inl h)
    · rcases le_total a.1 b.1 with hid | hid
      · exact .inl (.inr ⟨h, hid⟩)
      · exact .inr (.inr ⟨h.symm, hid⟩)
    · exact .inr (.inl h)

instance isTrans_startsBefore :
    IsTrans (SessionId × SessionFiles) fun a b => startsBefore a b = true where
  trans a b c hab hbc := by
    rw [startsBefore_iff] at hab hbc ⊢
    rcases hab with hab | ⟨hab, hid⟩
    · rcases hbc with hbc | ⟨hbc, _⟩
      · exact .inl (hab.trans hbc)
      · exact .inl (hbc ▸ hab)
    · rcases hbc with hbc | ⟨hbc, hid'⟩
      · exact .inl (hab ▸ hbc)
      · exact .inr ⟨hab.trans hbc, hid.trans hid'⟩

/-! ## Sessions in use -/
