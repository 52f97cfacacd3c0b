/-
# The hunks of a diff

The grammar of a unified diff over its lines, and the loop of `_diff_hunks`: on any lines it
returns exactly where they are a diff, with the ranges that its headers give.
-/
import DutchMate.CodingContext
import DutchMate.Throwing

open PyJson

namespace CodingContext

/-! ## The grammar of a diff -/

/-- The lines of the body of a hunk, with the numbers of its old and new lines. -/
inductive Body : List PyStr → ℕ → ℕ → Prop
  | nil : Body [] 0 0
  | context (line : PyStr) {lines : List PyStr} {old new : ℕ} :
    Body lines old new → Body ((0x20 :: line) :: lines) (old + 1) (new + 1)
  | deleted (line : PyStr) {lines : List PyStr} {old new : ℕ} :
    Body lines old new → Body ((0x2D :: line) :: lines) (old + 1) new
  | added (line : PyStr) {lines : List PyStr} {old new : ℕ} :
    Body lines old new → Body ((0x2B :: line) :: lines) old (new + 1)
  | noNewline (line : PyStr) {lines : List PyStr} {old new : ℕ} :
    Body lines old new → Body ((0x5C :: line) :: lines) old new

def countText (count : Option PyStr) : PyStr := count.elim [] (0x2C :: ·)

/-- A header line; what follows the ranges is free. -/
def HunkMatch.header (m : HunkMatch) (heading : PyStr) : PyStr :=
  py "@@ -" ++ (m.oldStart ++ (countText m.oldCount ++ (py " +" ++ (m.newStart ++
    (countText m.newCount ++ (py " @@" ++ heading))))))

/-- A count left out is one. -/
def Count (Numeral : PyStr → ℕ → Prop) : Option PyStr → ℕ → Prop
  | none, n => n = 1
  | some digits, n => Numeral digits n

/-- A header line and the ranges it gives. -/
def Header (Numeral : PyStr → ℕ → Prop) (line : PyStr) (hunk : DiffHunk) : Prop :=
  ∃ (m : HunkMatch) (heading : PyStr), line = m.header heading ∧ 0x0A ∉ heading ∧
    Numeral m.oldStart hunk.oldStart ∧ Count Numeral m.oldCount hunk.oldCount ∧
    Numeral m.newStart hunk.newStart ∧ Count Numeral m.newCount hunk.newCount

/-- Hunks one after the other, each with a body of the counts its header declares. -/
inductive Hunks (Numeral : PyStr → ℕ → Prop) : List PyStr → List DiffHunk → Prop
  | nil : Hunks Numeral [] []
  | hunk {line : PyStr} {body rest : List PyStr} {hunk : DiffHunk} {hunks : List DiffHunk} :
    Header Numeral line hunk → Body body hunk.oldCount hunk.newCount → Hunks Numeral rest hunks →
    Hunks Numeral (line :: (body ++ rest)) (hunk :: hunks)

/-- Lines that are a diff with the given ranges, after a preamble without headers. -/
def IsDiff (Numeral : PyStr → ℕ → Prop) (lines : List PyStr) (hunks : List DiffHunk) : Prop :=
  ∃ preamble rest, lines = preamble ++ rest ∧ (∀ line ∈ preamble, ¬py "@@" <+: line) ∧
    Hunks Numeral rest hunks

def AsciiNumeral (digits : PyStr) (n : ℕ) : Prop :=
  digits ≠ [] ∧ (∀ c ∈ digits, PyJson.isDigit c = true) ∧ n = digitsValue digits

/-- A nonempty run of decimal digits. -/
def IsRun (interpreter : Interpreter) (digits : PyStr) : Prop :=
  digits ≠ [] ∧ ∀ c ∈ digits, (interpreter.decimal c).isSome

/-- A run of decimal digits with a property. -/
def Numeral (interpreter : Interpreter) (P : PyStr → Prop) (digits : PyStr) (n : ℕ) : Prop :=
  IsRun interpreter digits ∧ P digits ∧ n = decimalValue interpreter digits

/-! ## Header lines -/

def HunkMatch.numerals (m : HunkMatch) : List PyStr :=
  [m.oldStart] ++ m.oldCount.toList ++ [m.newStart] ++ m.newCount.toList

section

variable {interpreter : Interpreter}

theorem afterWord_eq_some_iff {word text rest : PyStr} :
    afterWord word text = some rest ↔ text = word ++ rest := by
  induction word generalizing text with
  | nil => rw [afterWord, Option.some_inj, List.nil_append]
  | cons w word ih =>
    cases text with
    | nil => exact iff_of_false (by simp [afterWord]) (by simp)
    | cons c text =>
      rw [afterWord, List.cons_append, List.cons.injEq]
      by_cases h : w = c
      · rw [if_pos h, ih]
        exact ⟨fun hrest => ⟨h.symm, hrest⟩, And.right⟩
      · rw [if_neg h]
        exact iff_of_false (by simp) fun hboth => h hboth.1.symm

theorem digitsAt_some {line digits rest : PyStr}
    (h : digitsAt interpreter line = some (digits, rest)) :
    line = digits ++ rest ∧ IsRun interpreter digits := by
  unfold digitsAt at h
  dsimp only at h
  split at h
  · cases h
  · next hne =>
    cases h
    refine ⟨?_, hne, fun c hc =>
      List.mem_takeWhile_imp (p := fun c => (interpreter.decimal c).isSome) hc⟩
    exact (List.prefix_iff_eq_append.mp (List.takeWhile_prefix _)).symm

theorem digitsAt_append {digits rest : PyStr} (hrun : IsRun interpreter digits)
    (hrest : ∀ c ∈ rest.head?, interpreter.decimal c = none) :
    digitsAt interpreter (digits ++ rest) = some (digits, rest) := by
  have htake : (digits ++ rest).takeWhile (fun c => (interpreter.decimal c).isSome) = digits := by
    rw [List.takeWhile_append_of_pos hrun.2]
    cases rest with
    | nil => exact List.append_nil digits
    | cons c rest =>
      have hnone := hrest c rfl
      rw [List.takeWhile_cons_of_neg (by rw [hnone]; exact nofun), List.append_nil]
  unfold digitsAt
  dsimp only
  rw [htake, if_neg hrun.1, List.drop_left]

theorem decimal_comma : interpreter.decimal 0x2C = none :=
  interpreter.decimal_ascii 0x2C (by decide)

theorem decimal_blank : interpreter.decimal 0x20 = none :=
  interpreter.decimal_ascii 0x20 (by decide)

theorem countAt_eq {line rest : PyStr} {count : Option PyStr}
    (h : countAt interpreter line = (count, rest)) :
    line = countText count ++ rest ∧ ∀ digits ∈ count, IsRun interpreter digits := by
  unfold countAt at h
  split at h
  · split at h
    · next hdigits =>
      obtain ⟨hline, hrun⟩ := digitsAt_some hdigits
      cases h
      exact ⟨congrArg (0x2C :: ·) hline, fun digits hmem => Option.some.inj hmem ▸ hrun⟩
    · cases h
      exact ⟨rfl, nofun⟩
  · cases h
    exact ⟨rfl, nofun⟩

theorem countAt_append {count : Option PyStr} {rest : PyStr}
    (hcount : ∀ digits ∈ count, IsRun interpreter digits) (hrest : rest.head? = some 0x20) :
    countAt interpreter (countText count ++ rest) = (count, rest) := by
  obtain ⟨rest, rfl⟩ := List.head?_eq_some_iff.mp hrest
  cases count with
  | none => rfl
  | some digits =>
    have hdigits : digitsAt interpreter (digits ++ 0x20 :: rest) = some (digits, 0x20 :: rest) :=
      digitsAt_append (hcount digits rfl) fun c hc => Option.some.inj hc ▸ decimal_blank
    show countAt interpreter (0x2C :: (digits ++ 0x20 :: rest)) = _
    rw [countAt, hdigits]

/-- The first numeral of a range. -/
theorem digitsAt_range {digits : PyStr} {count : Option PyStr} {rest : PyStr}
    (hrun : IsRun interpreter digits) (hrest : rest.head? = some 0x20) :
    digitsAt interpreter (digits ++ (countText count ++ rest))
      = some (digits, countText count ++ rest) := by
  obtain ⟨rest, rfl⟩ := List.head?_eq_some_iff.mp hrest
  refine digitsAt_append hrun ?_
  cases count with
  | none => exact fun c hc => Option.some.inj hc ▸ decimal_blank
  | some digits => exact fun c hc => Option.some.inj hc ▸ decimal_comma

/-- A line matches exactly if it is the header of the groups matched. -/
theorem hunkMatch_eq_some_iff {line : PyStr} {m : HunkMatch} :
    hunkMatch interpreter line = some m
      ↔ ∃ heading, line = m.header heading ∧ 0x0A ∉ heading ∧
          ∀ digits ∈ m.numerals, IsRun interpreter digits := by
  constructor
  · intro h
    unfold hunkMatch at h
    obtain ⟨line₁, h₁, h⟩ := Option.bind_eq_some_iff.mp h
    obtain ⟨⟨oldStart, line₂⟩, h₂, h⟩ := Option.bind_eq_some_iff.mp h
    rcases h₃ : countAt interpreter line₂ with ⟨oldCount, line₃⟩
    dsimp only at h
    rw [h₃] at h
    dsimp only at h
    obtain ⟨line₄, h₄, h⟩ := Option.bind_eq_some_iff.mp h
    obtain ⟨⟨newStart, line₅⟩, h₅, h⟩ := Option.bind_eq_some_iff.mp h
    rcases h₆ : countAt interpreter line₅ with ⟨newCount, line₆⟩
    dsimp only at h
    rw [h₆] at h
    dsimp only at h
    obtain ⟨heading, h₇, h⟩ := Option.bind_eq_some_iff.mp h
    obtain ⟨hold, holdRun⟩ := digitsAt_some h₂
    obtain ⟨holdCount, holdCountRun⟩ := countAt_eq h₃
    obtain ⟨hnew, hnewRun⟩ := digitsAt_some h₅
    obtain ⟨hnewCount, hnewCountRun⟩ := countAt_eq h₆
    split at h
    · cases h
    · next hlf =>
      cases h
      refine ⟨heading, ?_, hlf, ?_⟩
      · rw [afterWord_eq_some_iff.mp h₁, hold, holdCount, afterWord_eq_some_iff.mp h₄, hnew,
          hnewCount, afterWord_eq_some_iff.mp h₇]
        rfl
      · intro digits hdigits
        simp only [HunkMatch.numerals, List.mem_append, List.mem_singleton, Option.mem_toList]
          at hdigits
        rcases hdigits with ((rfl | hdigits) | rfl) | hdigits
        · exact holdRun
        · exact holdCountRun digits hdigits
        · exact hnewRun
        · exact hnewCountRun digits hdigits
  · rintro ⟨heading, rfl, hlf, hruns⟩
    have hold : IsRun interpreter m.oldStart := hruns _ (by simp [HunkMatch.numerals])
    have hnew : IsRun interpreter m.newStart := hruns _ (by simp [HunkMatch.numerals])
    have holdCount : ∀ digits ∈ m.oldCount, IsRun interpreter digits := fun digits h =>
      hruns digits (by simp [HunkMatch.numerals, Option.mem_def.mp h])
    have hnewCount : ∀ digits ∈ m.newCount, IsRun interpreter digits := fun digits h =>
      hruns digits (by simp [HunkMatch.numerals, Option.mem_def.mp h])
    have hword : ∀ (word : String) (rest : PyStr),
        afterWord (py word) (py word ++ rest) = some rest := fun _ _ =>
      afterWord_eq_some_iff.mpr rfl
    unfold hunkMatch HunkMatch.header
    rw [hword, Option.bind_eq_bind, Option.bind_some, digitsAt_range hold rfl,
      Option.bind_eq_bind, Option.bind_some]
    dsimp only
    rw [countAt_append holdCount rfl]
    dsimp only
    rw [hword, Option.bind_some, digitsAt_range hnew rfl, Option.bind_some]
    rw [countAt_append hnewCount rfl]
    dsimp only
    rw [hword, Option.bind_some, if_neg hlf]

/-- The ranges of the groups. -/
def HunkMatch.ranges (interpreter : Interpreter) (m : HunkMatch) : DiffHunk :=
  ⟨decimalValue interpreter m.oldStart, m.oldCount.elim 1 (decimalValue interpreter),
    decimalValue interpreter m.newStart, m.newCount.elim 1 (decimalValue interpreter)⟩

theorem mem_numerals {m : HunkMatch} {Q : PyStr → Prop} :
    (∀ digits ∈ m.numerals, Q digits)
      ↔ Q m.oldStart ∧ (∀ digits ∈ m.oldCount, Q digits) ∧ Q m.newStart ∧
          ∀ digits ∈ m.newCount, Q digits := by
  simp only [HunkMatch.numerals, List.mem_append, List.mem_singleton, Option.mem_toList, or_imp,
    forall_and, forall_eq, and_assoc, Option.mem_def]

theorem count_iff {P : PyStr → Prop} {count : Option PyStr} {n : ℕ} :
    Count (Numeral interpreter P) count n
      ↔ (∀ digits ∈ count, IsRun interpreter digits ∧ P digits) ∧
          n = count.elim 1 (decimalValue interpreter) := by
  cases count with
  | none => exact ⟨fun h => ⟨nofun, h⟩, And.right⟩
  | some digits =>
    constructor
    · rintro ⟨hrun, hp, hn⟩
      exact ⟨fun other h => Option.some.inj h ▸ ⟨hrun, hp⟩, hn⟩
    · rintro ⟨hall, hn⟩
      exact ⟨(hall digits rfl).1, (hall digits rfl).2, hn⟩

/-- The header lines are the lines matched, each with the ranges of its groups. -/
theorem header_iff {P : PyStr → Prop} {line : PyStr} {hunk : DiffHunk} :
    Header (Numeral interpreter P) line hunk
      ↔ ∃ m, hunkMatch interpreter line = some m ∧ (∀ digits ∈ m.numerals, P digits) ∧
          hunk = m.ranges interpreter := by
  obtain ⟨oldStart, oldCount, newStart, newCount⟩ := hunk
  constructor
  · rintro ⟨m, heading, hline, hlf, ⟨hrun, hp, hold⟩, holdCount, ⟨hrun', hp', hnew⟩, hnewCount⟩
    obtain ⟨hruns, holdCount⟩ := count_iff.mp holdCount
    obtain ⟨hruns', hnewCount⟩ := count_iff.mp hnewCount
    refine ⟨m, hunkMatch_eq_some_iff.mpr ⟨heading, hline, hlf, mem_numerals.mpr ?_⟩,
      mem_numerals.mpr ?_, ?_⟩
    · exact ⟨hrun, fun digits h => (hruns digits h).1, hrun', fun digits h => (hruns' digits h).1⟩
    · exact ⟨hp, fun digits h => (hruns digits h).2, hp', fun digits h => (hruns' digits h).2⟩
    · rw [HunkMatch.ranges, ← hold, ← holdCount, ← hnew, ← hnewCount]
  · rintro ⟨m, hmatch, hp, hunk⟩
    obtain ⟨heading, hline, hlf, hruns⟩ := hunkMatch_eq_some_iff.mp hmatch
    obtain ⟨hrun, hcount, hrun', hcount'⟩ := mem_numerals.mp hruns
    obtain ⟨hp, hps, hp', hps'⟩ := mem_numerals.mp hp
    obtain ⟨hold, holdCount, hnew, hnewCount⟩ := DiffHunk.mk.inj hunk
    exact ⟨m, heading, hline, hlf, ⟨hrun, hp, hold⟩,
      count_iff.mpr ⟨fun digits h => ⟨hcount digits h, hps digits h⟩, holdCount⟩,
      ⟨hrun', hp', hnew⟩,
      count_iff.mpr ⟨fun digits h => ⟨hcount' digits h, hps' digits h⟩, hnewCount⟩⟩

theorem toInt_eq_ok_iff {digits : PyStr} {n : ℕ} :
    toInt interpreter digits = .ok n
      ↔ digits.length ≤ interpreter.maxStrDigits ∧ n = decimalValue interpreter digits := by
  unfold toInt
  split
  · next h => exact iff_of_false nofun fun hboth => absurd hboth.1 (not_le.mpr h)
  · next h =>
    rw [Except.ok.injEq, eq_comm]
    exact (and_iff_right (not_lt.mp h)).symm

theorem toCount_eq_ok_iff {count : Option PyStr} {n : ℕ} :
    toCount interpreter count = .ok n
      ↔ (∀ digits ∈ count, digits.length ≤ interpreter.maxStrDigits) ∧
          n = count.elim 1 (decimalValue interpreter) := by
  cases count with
  | none =>
    rw [toCount, Except.ok.injEq, eq_comm]
    exact ⟨fun h => ⟨nofun, h⟩, And.right⟩
  | some digits =>
    rw [toCount, toInt_eq_ok_iff]
    exact and_congr_left fun _ => ⟨fun h other hsome => Option.some.inj hsome ▸ h, fun h => h _ rfl⟩

theorem hunkOf_eq_ok_iff {m : HunkMatch} {hunk : DiffHunk} :
    hunkOf interpreter m = .ok hunk
      ↔ (∀ digits ∈ m.numerals, digits.length ≤ interpreter.maxStrDigits) ∧
          hunk = m.ranges interpreter := by
  rw [mem_numerals]
  constructor
  · intro h
    unfold hunkOf at h
    obtain ⟨oldStart, hold, h⟩ := Throwing.except_bind_eq_ok.mp h
    obtain ⟨oldCount, holdCount, h⟩ := Throwing.except_bind_eq_ok.mp h
    obtain ⟨newStart, hnew, h⟩ := Throwing.except_bind_eq_ok.mp h
    obtain ⟨newCount, hnewCount, h⟩ := Throwing.except_bind_eq_ok.mp h
    cases h
    obtain ⟨h₁, rfl⟩ := toInt_eq_ok_iff.mp hold
    obtain ⟨h₂, rfl⟩ := toCount_eq_ok_iff.mp holdCount
    obtain ⟨h₃, rfl⟩ := toInt_eq_ok_iff.mp hnew
    obtain ⟨h₄, rfl⟩ := toCount_eq_ok_iff.mp hnewCount
    exact ⟨⟨h₁, h₂, h₃, h₄⟩, rfl⟩
  · rintro ⟨⟨hold, holdCount, hnew, hnewCount⟩, rfl⟩
    unfold hunkOf
    rw [toInt_eq_ok_iff.mpr ⟨hold, rfl⟩, toCount_eq_ok_iff.mpr ⟨holdCount, rfl⟩,
      toInt_eq_ok_iff.mpr ⟨hnew, rfl⟩, toCount_eq_ok_iff.mpr ⟨hnewCount, rfl⟩]
    rfl

/-! ## The lines of a diff -/

/-- The old and new lines that a line of a body counts for. -/
def bodyLine (line : PyStr) : Option (ℕ × ℕ) :=
  match line with
  | 0x20 :: _ => some (1, 1)
  | 0x2D :: _ => some (1, 0)
  | 0x2B :: _ => some (0, 1)
  | 0x5C :: _ => some (0, 0)
  | _ => none

theorem bodyLine_header {line : PyStr} (h : py "@@" <+: line) : bodyLine line = none := by
  obtain ⟨rest, rfl⟩ := h
  rfl

theorem body_cons_iff {line : PyStr} {lines : List PyStr} {old new : ℕ} :
    Body (line :: lines) old new
      ↔ ∃ o n o' n', bodyLine line = some (o, n) ∧ old = o' + o ∧ new = n' + n ∧
          Body lines o' n' := by
  constructor
  · intro h
    cases h with
    | context line h => exact ⟨1, 1, _, _, rfl, rfl, rfl, h⟩
    | deleted line h => exact ⟨1, 0, _, _, rfl, rfl, rfl, h⟩
    | added line h => exact ⟨0, 1, _, _, rfl, rfl, rfl, h⟩
    | noNewline line h => exact ⟨0, 0, _, _, rfl, rfl, rfl, h⟩
  · rintro ⟨o, n, o', n', hline, rfl, rfl, h⟩
    unfold bodyLine at hline
    split at hline
    · cases hline
      exact h.context _
    · cases hline
      exact h.deleted _
    · cases hline
      exact h.added _
    · cases hline
      exact h.noNewline _
    · cases hline

theorem Header.starts {Numeral : PyStr → ℕ → Prop} {line : PyStr} {hunk : DiffHunk}
    (h : Header Numeral line hunk) : py "@@" <+: line := by
  obtain ⟨m, heading, rfl, -⟩ := h
  exact ⟨_, rfl⟩

/-- The lines behind a header: the rest of the body of its hunk, and the hunks that follow. -/
def Tail (Numeral : PyStr → ℕ → Prop) (lines : List PyStr) (old new : ℕ) (hunks : List DiffHunk) :
    Prop :=
  ∃ body rest, lines = body ++ rest ∧ Body body old new ∧ Hunks Numeral rest hunks

variable {Numeral : PyStr → ℕ → Prop} {line : PyStr} {lines : List PyStr} {old new : ℕ}
  {hunks : List DiffHunk}

theorem tail_nil_iff : Tail Numeral [] old new hunks ↔ old = 0 ∧ new = 0 ∧ hunks = [] := by
  constructor
  · rintro ⟨body, rest, hlines, hbody, hrest⟩
    obtain ⟨rfl, rfl⟩ := List.append_eq_nil_iff.mp hlines.symm
    cases hbody
    cases hrest
    exact ⟨rfl, rfl, rfl⟩
  · rintro ⟨rfl, rfl, rfl⟩
    exact ⟨[], [], rfl, .nil, .nil⟩

theorem hunks_cons_iff :
    Hunks Numeral (line :: lines) hunks
      ↔ ∃ hunk rest, hunks = hunk :: rest ∧ Header Numeral line hunk ∧
          Tail Numeral lines hunk.oldCount hunk.newCount rest := by
  constructor
  · intro h
    cases h with
    | hunk hheader hbody hrest => exact ⟨_, _, rfl, hheader, _, _, rfl, hbody, hrest⟩
  · rintro ⟨hunk, rest, rfl, hheader, body, others, rfl, hbody, hrest⟩
    exact .hunk hheader hbody hrest

theorem tail_header_iff (h : py "@@" <+: line) :
    Tail Numeral (line :: lines) old new hunks
      ↔ old = 0 ∧ new = 0 ∧ Hunks Numeral (line :: lines) hunks := by
  constructor
  · rintro ⟨body, rest, hlines, hbody, hrest⟩
    cases body with
    | nil =>
      cases hbody
      rw [List.nil_append] at hlines
      exact ⟨rfl, rfl, hlines ▸ hrest⟩
    | cons first body =>
      obtain ⟨rfl, -⟩ := List.cons.inj hlines
      obtain ⟨o, n, o', n', hline, -⟩ := body_cons_iff.mp hbody
      rw [bodyLine_header h] at hline
      cases hline
  · rintro ⟨rfl, rfl, hrest⟩
    exact ⟨[], _, rfl, .nil, hrest⟩

theorem tail_line_iff (h : ¬py "@@" <+: line) :
    Tail Numeral (line :: lines) old new hunks
      ↔ ∃ o n o' n', bodyLine line = some (o, n) ∧ old = o' + o ∧ new = n' + n ∧
          Tail Numeral lines o' n' hunks := by
  constructor
  · rintro ⟨body, rest, hlines, hbody, hrest⟩
    cases body with
    | nil =>
      rw [List.nil_append] at hlines
      subst hlines
      obtain ⟨hunk, others, -, hheader, -⟩ := hunks_cons_iff.mp hrest
      exact absurd hheader.starts h
    | cons first body =>
      obtain ⟨rfl, rfl⟩ := List.cons.inj hlines
      obtain ⟨o, n, o', n', hline, hold, hnew, hbody⟩ := body_cons_iff.mp hbody
      exact ⟨o, n, o', n', hline, hold, hnew, body, rest, rfl, hbody, hrest⟩
  · rintro ⟨o, n, o', n', hline, hold, hnew, body, rest, rfl, hbody, hrest⟩
    exact ⟨line :: body, rest, rfl, body_cons_iff.mpr ⟨o, n, o', n', hline, hold, hnew, hbody⟩,
      hrest⟩

theorem isDiff_nil_iff : IsDiff Numeral [] hunks ↔ hunks = [] := by
  constructor
  · rintro ⟨preamble, rest, hlines, -, hrest⟩
    obtain ⟨rfl, rfl⟩ := List.append_eq_nil_iff.mp hlines.symm
    cases hrest
    rfl
  · rintro rfl
    exact ⟨[], [], rfl, nofun, .nil⟩

theorem isDiff_header_iff (h : py "@@" <+: line) :
    IsDiff Numeral (line :: lines) hunks ↔ Hunks Numeral (line :: lines) hunks := by
  constructor
  · rintro ⟨preamble, rest, hlines, hnone, hrest⟩
    cases preamble with
    | nil =>
      rw [List.nil_append] at hlines
      exact hlines ▸ hrest
    | cons first preamble =>
      obtain ⟨rfl, -⟩ := List.cons.inj hlines
      exact absurd h (hnone _ List.mem_cons_self)
  · exact fun hrest => ⟨[], _, rfl, nofun, hrest⟩

theorem isDiff_line_iff (h : ¬py "@@" <+: line) :
    IsDiff Numeral (line :: lines) hunks ↔ IsDiff Numeral lines hunks := by
  constructor
  · rintro ⟨preamble, rest, hlines, hnone, hrest⟩
    cases preamble with
    | nil =>
      rw [List.nil_append] at hlines
      subst hlines
      obtain ⟨hunk, others, -, hheader, -⟩ := hunks_cons_iff.mp hrest
      exact absurd hheader.starts h
    | cons first preamble =>
      obtain ⟨rfl, rfl⟩ := List.cons.inj hlines
      exact ⟨preamble, rest, rfl, fun line hline => hnone line (List.mem_cons_of_mem _ hline),
        hrest⟩
  · rintro ⟨preamble, rest, rfl, hnone, hrest⟩
    exact ⟨line :: preamble, rest, rfl, List.forall_mem_cons.mpr ⟨h, hnone⟩, hrest⟩

end

/-! ## The loop -/

section

variable {interpreter : Interpreter} {line : PyStr} {lines : List PyStr}

/-- The numerals that the loop reads. -/
def Short (interpreter : Interpreter) (digits : PyStr) : Prop :=
  digits.length ≤ interpreter.maxStrDigits

theorem headers_iff {hunk : DiffHunk} :
    Header (Numeral interpreter (Short interpreter)) line hunk
      ↔ ∃ m, hunkMatch interpreter line = some m ∧ hunkOf interpreter m = .ok hunk := by
  rw [header_iff]
  exact exists_congr fun m => and_congr_right fun _ => hunkOf_eq_ok_iff.symm

theorem parseHunks_header (h : py "@@" <+: line) {active : Option DiffHunk} {old new : ℕ}
    {parsed result : List DiffHunk} :
    parseHunks interpreter (line :: lines) active old new parsed = .ok result
      ↔ disagrees active old new = false ∧ ∃ hunk,
          Header (Numeral interpreter (Short interpreter)) line hunk ∧
          parseHunks interpreter lines (some hunk) 0 0 (parsed ++ [hunk]) = .ok result := by
  rw [parseHunks, if_pos (List.isPrefixOf_iff_prefix.mpr h)]
  simp only [headers_iff]
  cases hdisagrees : disagrees active old new with
  | true => exact iff_of_false nofun nofun
  | false =>
    rw [if_neg nofun]
    cases hmatch : hunkMatch interpreter line with
    | none => exact iff_of_false nofun fun ⟨_, _, ⟨_, hm, _⟩, _⟩ => nomatch hm
    | some m =>
      dsimp only
      rw [Throwing.except_bind_eq_ok, and_iff_right rfl]
      refine exists_congr fun hunk => and_congr_left fun _ => ?_
      exact ⟨fun hhunk => ⟨m, rfl, hhunk⟩, fun ⟨_, hm, hhunk⟩ => Option.some.inj hm ▸ hhunk⟩

theorem parseHunks_preamble (h : ¬py "@@" <+: line) {old new : ℕ} {parsed : List DiffHunk} :
    parseHunks interpreter (line :: lines) none old new parsed
      = parseHunks interpreter lines none old new parsed := by
  rw [parseHunks, if_neg (mt List.isPrefixOf_iff_prefix.mp h), if_pos (.inl rfl)]

theorem bodyLine_eq (line : PyStr) :
    bodyLine line
      = if line.head? = some 0x5C then some (0, 0)
        else if line.head? = some 0x20 then some (1, 1)
        else if line.head? = some 0x2D then some (1, 0)
        else if line.head? = some 0x2B then some (0, 1)
        else none := by
  unfold bodyLine
  split
  · rfl
  · rfl
  · rfl
  · rfl
  · next h₁ h₂ h₃ h₄ =>
    have hhead : ∀ c, (∀ rest, line ≠ c :: rest) → line.head? ≠ some c := fun c hc heq =>
      let ⟨rest, hrest⟩ := List.head?_eq_some_iff.mp heq
      hc rest hrest
    rw [if_neg (hhead _ h₄), if_neg (hhead _ h₁), if_neg (hhead _ h₂), if_neg (hhead _ h₃)]

theorem parseHunks_line (h : ¬py "@@" <+: line) {hunk : DiffHunk} {old new : ℕ}
    {parsed result : List DiffHunk} :
    parseHunks interpreter (line :: lines) (some hunk) old new parsed = .ok result
      ↔ ∃ o n, bodyLine line = some (o, n) ∧
          parseHunks interpreter lines (some hunk) (old + o) (new + n) parsed = .ok result := by
  have hone : ∀ {o n : ℕ}, (∃ o' n', some (o, n) = some (o', n') ∧
      parseHunks interpreter lines (some hunk) (old + o') (new + n') parsed = .ok result)
      ↔ parseHunks interpreter lines (some hunk) (old + o) (new + n) parsed = .ok result := by
    intro o n
    constructor
    · rintro ⟨o', n', heq, hparse⟩
      cases heq
      exact hparse
    · exact fun hparse => ⟨o, n, rfl, hparse⟩
  rw [bodyLine_eq, parseHunks, if_neg (mt List.isPrefixOf_iff_prefix.mp h)]
  by_cases hmarker : line.head? = some 0x5C
  · rw [if_pos (.inr hmarker), if_pos hmarker, hone, Nat.add_zero, Nat.add_zero]
  rw [if_neg (by simpa using hmarker), if_neg hmarker]
  by_cases hcontext : line.head? = some 0x20
  · rw [if_pos hcontext, if_pos hcontext, hone]
  rw [if_neg hcontext, if_neg hcontext]
  by_cases hdeleted : line.head? = some 0x2D
  · rw [if_pos hdeleted, if_pos hdeleted, hone, Nat.add_zero new]
  rw [if_neg hdeleted, if_neg hdeleted]
  by_cases hadded : line.head? = some 0x2B
  · rw [if_pos hadded, if_pos hadded, hone, Nat.add_zero old]
  rw [if_neg hadded, if_neg hadded]
  exact iff_of_false nofun fun ⟨_, _, hnone, _⟩ => nomatch hnone

theorem disagrees_some {hunk : DiffHunk} {old new : ℕ} :
    disagrees (some hunk) old new = false ↔ old = hunk.oldCount ∧ new = hunk.newCount := by
  simp [disagrees]

/-- Behind a header, the loop returns exactly where a tail follows, with its hunks. -/
theorem parseHunks_some {hunk : DiffHunk} {old new : ℕ} {parsed result : List DiffHunk} :
    parseHunks interpreter lines (some hunk) old new parsed = .ok result
      ↔ ∃ o n hunks, old + o = hunk.oldCount ∧ new + n = hunk.newCount ∧
          Tail (Numeral interpreter (Short interpreter)) lines o n hunks ∧
          result = parsed ++ hunks := by
  induction lines generalizing hunk old new parsed with
  | nil =>
    simp only [tail_nil_iff]
    rw [parseHunks]
    cases hdisagrees : disagrees (some hunk) old new with
    | true =>
      refine iff_of_false nofun ?_
      rintro ⟨o, n, hunks, hold, hnew, ⟨rfl, rfl, rfl⟩, -⟩
      have hagrees : disagrees (some hunk) old new = false := disagrees_some.mpr ⟨hold, hnew⟩
      rw [hagrees] at hdisagrees
      cases hdisagrees
    | false =>
      obtain ⟨hold, hnew⟩ := disagrees_some.mp hdisagrees
      rw [if_neg nofun, Except.ok.injEq]
      constructor
      · rintro rfl
        exact ⟨0, 0, [], hold, hnew, ⟨rfl, rfl, rfl⟩, (List.append_nil _).symm⟩
      · rintro ⟨o, n, hunks, -, -, ⟨-, -, rfl⟩, rfl⟩
        exact (List.append_nil _).symm
  | cons line lines ih =>
    by_cases h : py "@@" <+: line
    · rw [parseHunks_header h, disagrees_some]
      simp only [tail_header_iff h, hunks_cons_iff, ih]
      constructor
      · rintro ⟨⟨hold, hnew⟩, next, hheader, o, n, hunks, ho, hn, htail, rfl⟩
        rw [Nat.zero_add] at ho hn
        refine ⟨0, 0, next :: hunks, hold, hnew, ⟨rfl, rfl, next, hunks, rfl, hheader, ?_⟩, ?_⟩
        · rw [← ho, ← hn]
          exact htail
        · rw [List.append_assoc, List.singleton_append]
      · rintro ⟨o, n, hunks, hold, hnew, ⟨rfl, rfl, next, rest, rfl, hheader, htail⟩, rfl⟩
        refine ⟨⟨hold, hnew⟩, next, hheader, _, _, rest, Nat.zero_add _, Nat.zero_add _, htail, ?_⟩
        rw [List.append_assoc, List.singleton_append]
    · rw [parseHunks_line h]
      simp only [tail_line_iff h, ih]
      constructor
      · rintro ⟨o, n, hline, o', n', hunks, hold, hnew, htail, hresult⟩
        exact ⟨o' + o, n' + n, hunks, by omega, by omega, ⟨o, n, o', n', hline, rfl, rfl, htail⟩,
          hresult⟩
      · rintro ⟨_, _, hunks, hold, hnew, ⟨o, n, o', n', hline, rfl, rfl, htail⟩, hresult⟩
        exact ⟨o, n, hline, o', n', hunks, by omega, by omega, htail, hresult⟩

/-- The loop over a diff returns exactly where the lines are one, with its hunks. -/
theorem parseHunks_none {parsed result : List DiffHunk} :
    parseHunks interpreter lines none 0 0 parsed = .ok result
      ↔ ∃ hunks, IsDiff (Numeral interpreter (Short interpreter)) lines hunks ∧
          result = parsed ++ hunks := by
  induction lines generalizing parsed with
  | nil =>
    simp only [isDiff_nil_iff, exists_eq_left, List.append_nil]
    exact ⟨fun h => (Except.ok.inj h).symm, congrArg Except.ok ∘ Eq.symm⟩
  | cons line lines ih =>
    by_cases h : py "@@" <+: line
    · rw [parseHunks_header h]
      simp only [isDiff_header_iff h, hunks_cons_iff, parseHunks_some]
      constructor
      · rintro ⟨-, hunk, hheader, o, n, hunks, ho, hn, htail, rfl⟩
        rw [Nat.zero_add] at ho hn
        refine ⟨hunk :: hunks, ⟨hunk, hunks, rfl, hheader, ?_⟩, ?_⟩
        · rw [← ho, ← hn]
          exact htail
        · rw [List.append_assoc, List.singleton_append]
      · rintro ⟨_, ⟨hunk, rest, rfl, hheader, htail⟩, rfl⟩
        refine ⟨rfl, hunk, hheader, _, _, rest, Nat.zero_add _, Nat.zero_add _, htail, ?_⟩
        rw [List.append_assoc, List.singleton_append]
    · rw [parseHunks_preamble h, ih]
      simp only [isDiff_line_iff h]

theorem parseHunks_eq_ok_iff {hunks : List DiffHunk} :
    parseHunks interpreter lines none 0 0 [] = .ok hunks
      ↔ IsDiff (Numeral interpreter (Short interpreter)) lines hunks := by
  simp only [parseHunks_none, List.nil_append, exists_eq_right']

end

end CodingContext
