/-
# Excerpts and the lines of Git

For Git a line ends at LF and nowhere else.  The validator cuts a text where `str.splitlines` does,
which is at U+2028 and U+2029 too: on an admitted text it agrees with Git where the text holds
none of the two before its last character.
-/
import DutchMate.DiffHunks
import Mathlib.Data.List.Count
import Mathlib.Data.List.Forall2

open PyJson Diagnostics
open LogReplay (hasKeys isString)

namespace CodingContext

/-! ## What is asked of the validator -/

/-- The lines of a text, each cut where a character ends it; `line` is the line so far. -/
def cutFrom (isEnd : ℕ → Bool) : PyStr → PyStr → List PyStr
  | [], [] => []
  | line, [] => [line]
  | line, c :: rest =>
    if isEnd c then line :: cutFrom isEnd [] rest else cutFrom isEnd (line ++ [c]) rest

def isLf (c : ℕ) : Bool := c = 0x0A

/-- The lines of a text for Git. -/
def lfLines (text : PyStr) : List PyStr := cutFrom isLf [] text

/-- A declared hunk. -/
def DeclaresHunk (entry : PyJson) (hunk : DiffHunk) : Prop :=
  ∃ fields : Payload, entry = .obj fields ∧
    (∀ field ∈ fields, ∃ name ∈ hunkFields, field.1 = py name) ∧
    getField fields "old_start" = some (.int hunk.oldStart) ∧
    getField fields "old_count" = some (.int hunk.oldCount) ∧
    getField fields "new_start" = some (.int hunk.newStart) ∧
    getField fields "new_count" = some (.int hunk.newCount)

/-- A declared list of hunks. -/
def Declares (raw : PyJson) (hunks : List DiffHunk) : Prop :=
  ∃ entries : List PyJson, raw = .arr entries ∧ entries ≠ [] ∧
    entries.length ≤ ({} : CodingContextLimits).excerptLines ∧
    List.Forall₂ DeclaresHunk entries hunks

/-- A text that is admitted for an excerpt. -/
structure Admits (interpreter : Interpreter) (s : PyStr) : Prop where
  text : text interpreter (some (.str s)) "excerpts.text" ({} : CodingContextLimits).excerptBytes
    = .ok s
  lines : (splitlines s).length ≤ ({} : CodingContextLimits).excerptLines

/-- The hunks accepted with a text are the hunks it holds. -/
def DiffExact (interpreter : Interpreter) (s : PyStr) : Prop :=
  ∀ raw hunks, diffHunks interpreter s raw {} = .ok hunks
    ↔ Declares raw hunks ∧ IsDiff AsciiNumeral (lfLines s) hunks

/-- A range accepted with a text has as many lines as the text. -/
def RangeExact (interpreter : Interpreter) (s : PyStr) : Prop :=
  ∀ value e, excerpt interpreter value {} = .ok e → e.kind ≠ .diff → e.text = s →
    ∃ start last, e.startLine = some start ∧ e.endLine = some last ∧ start ≤ last ∧
      (lfLines s).length = last - start + 1

/-- The numerals of the header lines. -/
def headerNumerals (interpreter : Interpreter) (lines : List PyStr) : List PyStr :=
  lines.flatMap fun line => (hunkMatch interpreter line).elim [] HunkMatch.numerals

def isSeparator (c : ℕ) : Bool := c = 0x2028 || c = 0x2029

/-- No U+2028 or U+2029 before the last character; and where the lines are a diff in decimal digits
of any script, its numerals are ASCII exactly if `int` takes them all. -/
structure GitLines (interpreter : Interpreter) (s : PyStr) : Prop where
  separators : ∀ c ∈ s.dropLast, isSeparator c = false
  numerals : ∀ hunks, hunks ≠ [] →
    IsDiff (Numeral interpreter fun _ => True) (lfLines s) hunks →
    ((∀ digits ∈ headerNumerals interpreter (lfLines s), ∀ c ∈ digits, PyJson.isDigit c = true)
      ↔ ∀ digits ∈ headerNumerals interpreter (lfLines s),
          digits.length ≤ interpreter.maxStrDigits)

variable {interpreter : Interpreter}

/-! ## Numerals -/

theorem headerNumerals_append (lines lines' : List PyStr) :
    headerNumerals interpreter (lines ++ lines')
      = headerNumerals interpreter lines ++ headerNumerals interpreter lines' :=
  List.flatMap_append

theorem hunkMatch_of_not_header {line : PyStr} (h : ¬py "@@" <+: line) :
    hunkMatch interpreter line = none := by
  cases hmatch : hunkMatch interpreter line with
  | none => rfl
  | some m =>
    obtain ⟨heading, rfl, -⟩ := hunkMatch_eq_some_iff.mp hmatch
    exact absurd ⟨_, rfl⟩ h

theorem headerNumerals_of_not_header {lines : List PyStr}
    (h : ∀ line ∈ lines, ¬py "@@" <+: line) : headerNumerals interpreter lines = [] := by
  refine List.flatMap_eq_nil_iff.mpr fun line hline => ?_
  rw [hunkMatch_of_not_header (h line hline)]
  rfl

theorem Body.not_header {lines : List PyStr} {old new : ℕ} (h : Body lines old new) :
    ∀ line ∈ lines, ¬py "@@" <+: line := by
  induction lines generalizing old new with
  | nil => exact nofun
  | cons line lines ih =>
    obtain ⟨o, n, o', n', hline, -, -, hrest⟩ := body_cons_iff.mp h
    refine List.forall_mem_cons.mpr ⟨fun hheader => ?_, ih hrest⟩
    rw [bodyLine_header hheader] at hline
    cases hline

theorem headerNumerals_hunk {line : PyStr} {m : HunkMatch} {body rest : List PyStr} {old new : ℕ}
    (hmatch : hunkMatch interpreter line = some m) (hbody : Body body old new) :
    headerNumerals interpreter (line :: (body ++ rest))
      = m.numerals ++ headerNumerals interpreter rest := by
  rw [← List.singleton_append, headerNumerals_append, headerNumerals_append,
    headerNumerals_of_not_header hbody.not_header, List.nil_append]
  rw [headerNumerals, List.flatMap_singleton, hmatch]
  rfl

/-- The hunks whose numerals have a property are those of any numerals, where all have it. -/
theorem hunks_numeral_iff {P : PyStr → Prop} {lines : List PyStr} {hunks : List DiffHunk} :
    Hunks (Numeral interpreter P) lines hunks
      ↔ Hunks (Numeral interpreter fun _ => True) lines hunks ∧
          ∀ digits ∈ headerNumerals interpreter lines, P digits := by
  constructor
  · intro h
    induction h with
    | nil => exact ⟨.nil, nofun⟩
    | hunk hheader hbody _ ih =>
      obtain ⟨m, hmatch, hp, hranges⟩ := header_iff.mp hheader
      refine ⟨.hunk (header_iff.mpr ⟨m, hmatch, fun _ _ => trivial, hranges⟩) hbody ih.1, ?_⟩
      rw [headerNumerals_hunk hmatch hbody]
      exact List.forall_mem_append.mpr ⟨hp, ih.2⟩
  · rintro ⟨h, hall⟩
    induction h with
    | nil => exact .nil
    | hunk hheader hbody _ ih =>
      obtain ⟨m, hmatch, -, hranges⟩ := header_iff.mp hheader
      rw [headerNumerals_hunk hmatch hbody] at hall
      obtain ⟨hp, hrest⟩ := List.forall_mem_append.mp hall
      exact .hunk (header_iff.mpr ⟨m, hmatch, hp, hranges⟩) hbody (ih hrest)

theorem isDiff_numeral_iff {P : PyStr → Prop} {lines : List PyStr} {hunks : List DiffHunk} :
    IsDiff (Numeral interpreter P) lines hunks
      ↔ IsDiff (Numeral interpreter fun _ => True) lines hunks ∧
          ∀ digits ∈ headerNumerals interpreter lines, P digits := by
  constructor
  · rintro ⟨preamble, rest, rfl, hnone, hrest⟩
    obtain ⟨hany, hall⟩ := hunks_numeral_iff.mp hrest
    refine ⟨⟨preamble, rest, rfl, hnone, hany⟩, ?_⟩
    rw [headerNumerals_append, headerNumerals_of_not_header hnone, List.nil_append]
    exact hall
  · rintro ⟨⟨preamble, rest, rfl, hnone, hrest⟩, hall⟩
    rw [headerNumerals_append, headerNumerals_of_not_header hnone, List.nil_append] at hall
    exact ⟨preamble, rest, rfl, hnone, hunks_numeral_iff.mpr ⟨hrest, hall⟩⟩

/-- An ASCII numeral is a run of decimal digits all of which are ASCII. -/
theorem asciiNumeral_eq (interpreter : Interpreter) :
    AsciiNumeral = Numeral interpreter fun digits => ∀ c ∈ digits, PyJson.isDigit c = true := by
  have hdecimal : ∀ c, PyJson.isDigit c = true → interpreter.decimal c = some (c - 0x30) := by
    intro c hc
    have hlow : c < 0x80 := by
      simp only [PyJson.isDigit, Bool.and_eq_true, decide_eq_true_eq] at hc
      omega
    rw [interpreter.decimal_ascii c hlow, if_pos hc]
  have hvalue : ∀ digits : PyStr, (∀ c ∈ digits, PyJson.isDigit c = true) →
      digitsValue digits = decimalValue interpreter digits := by
    intro digits hdigits
    refine List.foldl_ext _ _ _ fun n c hc => ?_
    rw [hdecimal c (hdigits c hc)]
    rfl
  funext digits n
  refine propext ⟨?_, ?_⟩
  · rintro ⟨hne, hdigits, hn⟩
    refine ⟨⟨hne, fun c hc => ?_⟩, hdigits, hn.trans (hvalue digits hdigits)⟩
    rw [hdecimal c (hdigits c hc)]
    rfl
  · rintro ⟨⟨hne, -⟩, hdigits, hn⟩
    exact ⟨hne, hdigits, hn.trans (hvalue digits hdigits).symm⟩

/-! ## Lines -/

theorem cutFrom_cons (isEnd : ℕ → Bool) (line : PyStr) (c : ℕ) (rest : PyStr) :
    cutFrom isEnd line (c :: rest)
      = if isEnd c then line :: cutFrom isEnd [] rest else cutFrom isEnd (line ++ [c]) rest := by
  cases line with
  | nil => rfl
  | cons => rfl

theorem cutFrom_open (isEnd : ℕ → Bool) (line : PyStr) (c : ℕ) :
    cutFrom isEnd (line ++ [c]) [] = [line ++ [c]] := by
  cases line with
  | nil => rfl
  | cons => rfl

theorem length_cutFrom (isEnd : ℕ → Bool) (line init : PyStr) (c : ℕ) :
    (cutFrom isEnd line (init ++ [c])).length = init.countP isEnd + 1 := by
  induction init generalizing line with
  | nil =>
    rw [List.nil_append, cutFrom_cons]
    cases isEnd c with
    | true => rfl
    | false =>
      rw [if_neg nofun, cutFrom_open]
      rfl
  | cons x init ih =>
    rw [List.cons_append, cutFrom_cons, List.countP_cons]
    cases isEnd x with
    | true => rw [if_pos rfl, List.length_cons, ih, if_pos rfl]
    | false => rw [if_neg nofun, ih, if_neg nofun, Nat.add_zero]

theorem splitlinesFrom_eq {text : PyStr} (h : ∀ c ∈ text, c ≠ 0x0D) (line : PyStr) :
    splitlinesFrom line text = cutFrom isLineBreak line text := by
  induction text generalizing line with
  | nil =>
    cases line with
    | nil => rfl
    | cons => rfl
  | cons c rest ih =>
    have hrest : ∀ c ∈ rest, c ≠ 0x0D := fun c hc => h c (List.mem_cons_of_mem _ hc)
    rw [splitlinesFrom, cutFrom_cons, ih hrest, ih hrest]
    intro _ hreturn
    exact absurd hreturn (h c List.mem_cons_self)

/-- A line, and the line with a separator behind it. -/
def Extended (line longer : PyStr) : Prop :=
  longer = line ∨ ∃ c, isSeparator c = true ∧ longer = line ++ [c]

/-- Where the ends agree up to a separator at the very end, so do the lines. -/
theorem extended_cutFrom {init : PyStr} {c : ℕ} (hinit : ∀ x ∈ init, isLineBreak x = isLf x)
    (hlast : isLineBreak c = (isLf c || isSeparator c)) (line : PyStr) :
    List.Forall₂ Extended (cutFrom isLineBreak line (init ++ [c])) (cutFrom isLf line (init ++ [c])) := by
  induction init generalizing line with
  | nil =>
    rw [List.nil_append, cutFrom_cons, cutFrom_cons, cutFrom_open, cutFrom_open, hlast]
    cases isLf c with
    | true => exact .cons (.inl rfl) .nil
    | false =>
      cases hsep : isSeparator c with
      | true => exact .cons (.inr ⟨c, hsep, rfl⟩) .nil
      | false => exact .cons (.inl rfl) .nil
  | cons x init ih =>
    have hrest : ∀ x ∈ init, isLineBreak x = isLf x := fun x hx =>
      hinit x (List.mem_cons_of_mem _ hx)
    rw [List.cons_append, cutFrom_cons, cutFrom_cons, hinit x List.mem_cons_self]
    cases isLf x with
    | true => exact .cons (.inl rfl) (ih hrest [])
    | false => exact ih hrest (line ++ [x])

theorem separator_cases {c : ℕ} (h : isSeparator c = true) : c = 0x2028 ∨ c = 0x2029 := by
  simpa [isSeparator] using h

theorem Extended.head? {line longer : PyStr} (h : Extended line longer) {k : ℕ} (hk : k < 0x80) :
    longer.head? = some k ↔ line.head? = some k := by
  obtain rfl | ⟨c, hc, rfl⟩ := h
  · exact Iff.rfl
  · cases line with
    | nil =>
      refine iff_of_false (fun heq => ?_) nofun
      cases heq
      obtain rfl | rfl := separator_cases hc
      · exact absurd hk (by decide)
      · exact absurd hk (by decide)
    | cons => exact Iff.rfl

theorem Extended.header {line longer : PyStr} (h : Extended line longer) :
    (py "@@").isPrefixOf longer = (py "@@").isPrefixOf line := by
  obtain rfl | ⟨c, hc, rfl⟩ := h
  · rfl
  · have hat : (0x40 == c) = false := by
      obtain rfl | rfl := separator_cases hc
      · rfl
      · rfl
    match line with
    | [] => exact congrArg (· && false) hat
    | [x] => exact congrArg (fun b => 0x40 == x && (b && true)) hat
    | x :: y :: rest => rfl

theorem header_append (m : HunkMatch) (heading rest : PyStr) :
    m.header (heading ++ rest) = m.header heading ++ rest := by
  simp only [HunkMatch.header, List.append_assoc]

/-- The last character of a header without a heading. -/
theorem header_nil (m : HunkMatch) :
    m.header [] = py "@@ -" ++ (m.oldStart ++ (countText m.oldCount ++ (py " +" ++ (m.newStart ++
      (countText m.newCount ++ py " @"))))) ++ [0x40] := by
  have hat : py " @@" = py " @" ++ [0x40] := rfl
  simp only [HunkMatch.header, hat, List.append_assoc, List.append_nil]

theorem Extended.hunkMatch {line longer : PyStr} (h : Extended line longer) :
    hunkMatch interpreter longer = hunkMatch interpreter line := by
  obtain rfl | ⟨c, hc, rfl⟩ := h
  · rfl
  · refine Option.ext fun m => ?_
    rw [hunkMatch_eq_some_iff, hunkMatch_eq_some_iff]
    constructor
    · rintro ⟨heading, hline, hlf, hruns⟩
      rcases List.eq_nil_or_concat' heading with rfl | ⟨rest, d, rfl⟩
      · have hlast : c = 0x40 := by
          rw [header_nil] at hline
          exact List.singleton_inj.mp (List.append_inj' hline rfl).2
        rw [hlast] at hc
        exact absurd hc (by decide)
      · rw [header_append] at hline
        exact ⟨rest, (List.append_inj' hline rfl).1, fun h => hlf (List.mem_append_left _ h), hruns⟩
    · rintro ⟨heading, rfl, hlf, hruns⟩
      refine ⟨heading ++ [c], ?_, ?_, hruns⟩
      · rw [header_append]
      · rw [List.mem_append, List.mem_singleton, not_or]
        refine ⟨hlf, ?_⟩
        obtain rfl | rfl := separator_cases hc
        · decide
        · decide

/-- A separator at the end of a line is lost on the loop. -/
theorem parseHunks_extended {lines longer : List PyStr} (h : List.Forall₂ Extended lines longer)
    (active : Option DiffHunk) (old new : ℕ) (parsed : List DiffHunk) :
    parseHunks interpreter longer active old new parsed
      = parseHunks interpreter lines active old new parsed := by
  induction h generalizing active old new parsed with
  | nil => rfl
  | cons hline _ ih =>
    rw [parseHunks, parseHunks, hline.header, hline.hunkMatch]
    simp only [hline.head? (show 0x5C < 0x80 by decide), hline.head? (show 0x20 < 0x80 by decide),
      hline.head? (show 0x2D < 0x80 by decide), hline.head? (show 0x2B < 0x80 by decide), ih]

/-! ## Declared hunks -/

theorem isOneOf_iff {s : PyStr} {names : List String} :
    isOneOf s names = true ↔ ∃ name ∈ names, s = py name := by
  simp only [isOneOf, List.any_eq_true, decide_eq_true_eq]

theorem mapping_eq_ok_iff {value : PyJson} {field : String} {required optional : List String}
    {fields : Payload} :
    mapping value field required optional = .ok fields
      ↔ value = .obj fields ∧ (∀ name ∈ required, (getField fields name).isSome) ∧
          ∀ entry ∈ fields, ∃ name ∈ required ++ optional, entry.1 = py name := by
  unfold mapping
  split
  · next given =>
    have hmissing : (required.filter fun name => (getField given name).isNone).map py = []
        ↔ ∀ name ∈ required, (getField given name).isSome := by
      simp [List.filter_eq_nil_iff, Option.isSome_iff_ne_none]
    have hunknown : ((given.map Prod.fst).filter fun key => !isOneOf key (required ++ optional)) = []
        ↔ ∀ entry ∈ given, ∃ name ∈ required ++ optional, entry.1 = py name := by
      simp only [List.filter_eq_nil_iff, List.forall_mem_map, Bool.not_eq_true', Bool.not_eq_false,
        isOneOf_iff]
    dsimp only
    split
    · next h =>
      rw [hmissing, hunknown] at h
      rw [Except.ok.injEq, PyJson.obj.injEq]
      constructor
      · rintro rfl
        exact ⟨rfl, h⟩
      · exact And.left
    · next h =>
      rw [hmissing, hunknown] at h
      refine iff_of_false (by simp) ?_
      rintro ⟨hfields, hboth⟩
      cases hfields
      exact h hboth
  · next h => exact iff_of_false nofun fun hboth => h _ hboth.1

theorem positive_eq_ok_iff {value : Option PyJson} {field : String} {n : ℕ} :
    positive value field true = .ok n ↔ value = some (.int n) := by
  unfold positive
  dsimp only
  split
  · next k =>
    rw [if_pos rfl, if_neg (Nat.not_lt_zero k), Except.ok.injEq, Option.some_inj, PyJson.int.injEq]
    exact ⟨congrArg Int.ofNat, Int.ofNat.inj⟩
  · next h => exact iff_of_false nofun fun heq => h _ heq

theorem declaredHunk_eq_ok_iff {entry : PyJson} {hunk : DiffHunk} :
    declaredHunk entry = .ok hunk ↔ DeclaresHunk entry hunk := by
  obtain ⟨oldStart, oldCount, newStart, newCount⟩ := hunk
  constructor
  · intro h
    unfold declaredHunk at h
    obtain ⟨fields, hfields, h⟩ := Throwing.except_bind_eq_ok.mp h
    obtain ⟨_, hold, h⟩ := Throwing.except_bind_eq_ok.mp h
    obtain ⟨_, holdCount, h⟩ := Throwing.except_bind_eq_ok.mp h
    obtain ⟨_, hnew, h⟩ := Throwing.except_bind_eq_ok.mp h
    obtain ⟨_, hnewCount, h⟩ := Throwing.except_bind_eq_ok.mp h
    cases h
    obtain ⟨hentry, -, hnames⟩ := mapping_eq_ok_iff.mp hfields
    rw [List.append_nil] at hnames
    exact ⟨fields, hentry, hnames, positive_eq_ok_iff.mp hold, positive_eq_ok_iff.mp holdCount,
      positive_eq_ok_iff.mp hnew, positive_eq_ok_iff.mp hnewCount⟩
  · rintro ⟨fields, rfl, hnames, hold, holdCount, hnew, hnewCount⟩
    have hmapping : mapping (.obj fields) "excerpts.hunks" hunkFields [] = .ok fields := by
      refine mapping_eq_ok_iff.mpr ⟨rfl, ?_, ?_⟩
      · simp only [hunkFields, List.forall_mem_cons, hold, holdCount, hnew, hnewCount]
        exact ⟨rfl, rfl, rfl, rfl, nofun⟩
      · rw [List.append_nil]
        exact hnames
    unfold declaredHunk
    rw [hmapping]
    dsimp only [bind, Except.bind]
    rw [positive_eq_ok_iff.mpr hold, positive_eq_ok_iff.mpr holdCount,
      positive_eq_ok_iff.mpr hnew, positive_eq_ok_iff.mpr hnewCount]

theorem mapM_eq_ok_iff {entries : List PyJson} {hunks : List DiffHunk} :
    entries.mapM declaredHunk = .ok hunks ↔ List.Forall₂ DeclaresHunk entries hunks := by
  induction entries generalizing hunks with
  | nil =>
    rw [List.mapM_nil, List.forall₂_nil_left_iff]
    exact ⟨fun h => (Except.ok.inj h).symm, congrArg Except.ok ∘ Eq.symm⟩
  | cons entry entries ih =>
    rw [List.mapM_cons, Throwing.except_bind_eq_ok]
    constructor
    · rintro ⟨first, hfirst, h⟩
      obtain ⟨rest, hrest, h⟩ := Throwing.except_bind_eq_ok.mp h
      rw [← Except.ok.inj h]
      exact .cons (declaredHunk_eq_ok_iff.mp hfirst) (ih.mp hrest)
    · rintro (_ | ⟨hfirst, hrest⟩)
      refine ⟨_, declaredHunk_eq_ok_iff.mpr hfirst, Throwing.except_bind_eq_ok.mpr ?_⟩
      exact ⟨_, ih.mpr hrest, rfl⟩

theorem sequence_eq_ok_iff {value : PyJson} {field : String} {maximum : ℕ}
    {items : List PyJson} :
    sequence value field maximum true = .ok items
      ↔ value = .arr items ∧ items ≠ [] ∧ items.length ≤ maximum := by
  unfold sequence
  dsimp only
  split
  · next given =>
    split
    · next h =>
      refine iff_of_false nofun ?_
      rintro ⟨heq, hne, hlength⟩
      cases heq
      exact h.elim (not_lt.mpr hlength) fun hempty => hne hempty.2
    · next h =>
      rw [not_or, not_lt] at h
      rw [Except.ok.injEq, PyJson.arr.injEq]
      constructor
      · rintro rfl
        exact ⟨rfl, fun hempty => h.2 ⟨rfl, hempty⟩, h.1⟩
      · exact And.left
  · next h => exact iff_of_false nofun fun heq => h _ heq.1

/-- Hunks are accepted exactly where they are declared and the loop finds them. -/
theorem diffHunks_eq_ok_iff {s : PyStr} {raw : PyJson} {hunks : List DiffHunk} :
    diffHunks interpreter s raw {} = .ok hunks
      ↔ Declares raw hunks ∧ parseHunks interpreter (splitlines s) none 0 0 [] = .ok hunks := by
  unfold diffHunks
  constructor
  · intro h
    obtain ⟨entries, hentries, h⟩ := Throwing.except_bind_eq_ok.mp h
    obtain ⟨declared, hdeclared, h⟩ := Throwing.except_bind_eq_ok.mp h
    obtain ⟨parsed, hparsed, h⟩ := Throwing.except_bind_eq_ok.mp h
    split at h
    · cases h
    · next hsame =>
      obtain rfl := Except.ok.inj h
      rw [not_not.mp hsame] at hparsed
      obtain ⟨hraw, hne, hlength⟩ := sequence_eq_ok_iff.mp hentries
      exact ⟨⟨entries, hraw, hne, hlength, mapM_eq_ok_iff.mp hdeclared⟩, hparsed⟩
  · rintro ⟨⟨entries, hraw, hne, hlength, hdeclared⟩, hparsed⟩
    rw [sequence_eq_ok_iff.mpr ⟨hraw, hne, hlength⟩]
    dsimp only [bind, Except.bind]
    rw [mapM_eq_ok_iff.mpr hdeclared, hparsed]
    exact if_neg (not_not.mpr rfl)

/-! ## Admitted texts -/

theorem text_eq_ok {s : PyStr} {field : String} {maximum : ℕ}
    (h : text interpreter (some (.str s)) field maximum = .ok s) :
    s ≠ [] ∧ ∀ c ∈ s, isLineBreak c = (isLf c || isSeparator c) := by
  unfold text at h
  dsimp only at h
  split at h
  · cases h
  next hspace =>
  split at h
  · cases h
  split at h
  · cases h
  next hcontrol =>
  rw [not_or, List.any_eq_true, not_exists] at hcontrol
  refine ⟨?_, fun c hc => ?_⟩
  · rintro rfl
    exact hspace rfl
  · have hplain : ¬((c < 0x20 && c != 0x0A && c != 0x09) || (0x7F ≤ c && c ≤ 0x9F)) = true :=
      fun hcode => hcontrol.2 c ⟨hc, hcode⟩
    simp only [Bool.or_eq_true, Bool.and_eq_true, decide_eq_true_eq, bne_iff_ne, ne_eq] at hplain
    rw [Bool.eq_iff_iff]
    simp only [isLineBreak, isLf, isSeparator, Bool.or_eq_true, Bool.and_eq_true,
      decide_eq_true_eq]
    omega

theorem countP_isLineBreak {s : PyStr} (h : ∀ c ∈ s, isLineBreak c = (isLf c || isSeparator c)) :
    s.countP isLineBreak = s.countP isLf + s.countP isSeparator := by
  induction s with
  | nil => rfl
  | cons c s ih =>
    rw [List.countP_cons, List.countP_cons, List.countP_cons,
      ih fun c hc => h c (List.mem_cons_of_mem _ hc), h c List.mem_cons_self]
    cases hlf : isLf c with
    | true =>
      have hother : isSeparator c = false := by
        rw [of_decide_eq_true hlf]
        rfl
      rw [hother, Bool.or_false, if_pos rfl, if_neg nofun]
      omega
    | false =>
      rw [Bool.false_or]
      simp only [Bool.false_eq_true, if_false]
      omega

/-- The lines of an admitted text, by its characters. -/
theorem Admits.exists_concat {s : PyStr} (h : Admits interpreter s) :
    ∃ init c, s = init ++ [c] ∧ (∀ x ∈ init, isLineBreak x = (isLf x || isSeparator x)) ∧
      isLineBreak c = (isLf c || isSeparator c) ∧ splitlines s = cutFrom isLineBreak [] s := by
  obtain ⟨hne, hbreaks⟩ := text_eq_ok h.text
  rcases List.eq_nil_or_concat' s with rfl | ⟨init, c, rfl⟩
  · exact absurd rfl hne
  · refine ⟨init, c, rfl, fun x hx => hbreaks x (List.mem_append_left _ hx),
      hbreaks c (List.mem_append_right _ List.mem_cons_self), splitlinesFrom_eq ?_ []⟩
    rintro x hx rfl
    exact absurd (hbreaks _ hx) (by decide)

theorem Admits.length_eq_iff {s : PyStr} (h : Admits interpreter s) :
    (lfLines s).length = (splitlines s).length ↔ ∀ c ∈ s.dropLast, isSeparator c = false := by
  obtain ⟨init, c, rfl, hinit, -, hsplit⟩ := h.exists_concat
  rw [hsplit, lfLines, length_cutFrom, length_cutFrom, countP_isLineBreak hinit,
    List.dropLast_concat]
  have hzero : init.countP isSeparator = 0 ↔ ∀ c ∈ init, isSeparator c = false := by
    simp only [List.countP_eq_zero, Bool.not_eq_true]
  rw [← hzero]
  omega

theorem Admits.length_le {s : PyStr} (h : Admits interpreter s) :
    (lfLines s).length ≤ ({} : CodingContextLimits).excerptLines := by
  refine le_trans ?_ h.lines
  obtain ⟨init, c, rfl, hinit, -, hsplit⟩ := h.exists_concat
  rw [hsplit, lfLines, length_cutFrom, length_cutFrom, countP_isLineBreak hinit]
  omega

/-- The loop reads the lines of Git where no separator stands before the last character. -/
theorem Admits.parseHunks_iff {s : PyStr} (h : Admits interpreter s)
    (hsep : ∀ c ∈ s.dropLast, isSeparator c = false) {hunks : List DiffHunk} :
    parseHunks interpreter (splitlines s) none 0 0 [] = .ok hunks
      ↔ IsDiff (Numeral interpreter (Short interpreter)) (lfLines s) hunks := by
  obtain ⟨init, c, rfl, hinit, hlast, hsplit⟩ := h.exists_concat
  rw [List.dropLast_concat] at hsep
  have hextended : List.Forall₂ Extended (cutFrom isLineBreak [] (init ++ [c]))
      (cutFrom isLf [] (init ++ [c])) :=
    extended_cutFrom (fun x hx => by rw [hinit x hx, hsep x hx, Bool.or_false]) hlast []
  rw [hsplit, ← parseHunks_extended hextended]
  exact parseHunks_eq_ok_iff

/-! ## Ranges -/

/-- An accepted range has as many lines as `str.splitlines` gives. -/
theorem excerpt_range {value : PyJson} {e : ContextExcerpt}
    (h : excerpt interpreter value {} = .ok e) (hkind : e.kind ≠ .diff) :
    ∃ start last, e.startLine = some start ∧ e.endLine = some last ∧ start ≤ last ∧
      (splitlines e.text).length = last - start + 1 := by
  unfold excerpt at h
  obtain ⟨item, -, h⟩ := Throwing.except_bind_eq_ok.mp h
  obtain ⟨kind, -, h⟩ := Throwing.except_bind_eq_ok.mp h
  obtain ⟨path, -, h⟩ := Throwing.except_bind_eq_ok.mp h
  obtain ⟨text, -, h⟩ := Throwing.except_bind_eq_ok.mp h
  dsimp only at h
  split at h
  · cases h
  split at h
  · split at h
    · cases h
    obtain ⟨_, -, h⟩ := Throwing.except_bind_eq_ok.mp h
    obtain ⟨_, -, h⟩ := Throwing.except_bind_eq_ok.mp h
    obtain ⟨_, -, h⟩ := Throwing.except_bind_eq_ok.mp h
    rw [← Except.ok.inj h] at hkind
    exact absurd ‹kind = .diff› hkind
  split at h
  · cases h
  obtain ⟨start, -, h⟩ := Throwing.except_bind_eq_ok.mp h
  obtain ⟨last, -, h⟩ := Throwing.except_bind_eq_ok.mp h
  split at h
  · cases h
  next hrange =>
  obtain ⟨_, -, h⟩ := Throwing.except_bind_eq_ok.mp h
  obtain ⟨_, -, h⟩ := Throwing.except_bind_eq_ok.mp h
  rw [not_or, not_or, not_lt, not_not] at hrange
  rw [← Except.ok.inj h]
  exact ⟨start, last, rfl, rfl, hrange.1, hrange.2.2⟩

/-- A source excerpt of the lines from the first to a given one. -/
def sourceExcerpt (s : PyStr) (last : ℕ) : Payload :=
  [(py "kind", .str (py "source")), (py "path", .str (py "x")), (py "text", .str s),
    (py "commit", .str (py "0000000")), (py "start_line", .int 1), (py "end_line", .int last)]

theorem path_x : path interpreter (some (.str (py "x"))) "excerpts.path" {} = .ok (py "x") := by
  have htext : text interpreter (some (.str (py "x"))) "excerpts.path"
      ({} : CodingContextLimits).pathBytes = .ok (py "x") := by
    have hencoded : strEncode (py "x") = some [0x78] := by decide
    have hleast : (secret interpreter.isWord).least = 15 := rfl
    have hsecret : (secret interpreter.isWord).found (py "x") = false :=
      Pattern.found_of_short (by rw [hleast]; decide)
    unfold text
    dsimp only
    rw [if_neg (by decide), hencoded, hsecret]
    rfl
  have hlower : interpreter.lower (py "x") = py "x" := by
    rw [interpreter.lower_ascii (py "x") (by decide)]
    rfl
  unfold path
  rw [htext]
  dsimp only [bind, Except.bind]
  have hparts : (py "x").splitOn 0x2F = [py "x"] := by decide
  rw [hparts, List.map_singleton, hlower]
  exact if_neg (by decide)

theorem Admits.excerpt_source {s : PyStr} (h : Admits interpreter s) :
    ∃ e, excerpt interpreter (.obj (sourceExcerpt s (splitlines s).length)) {} = .ok e ∧
      e.kind = .source ∧ e.text = s ∧ e.startLine = some 1 ∧
      e.endLine = some (splitlines s).length := by
  obtain ⟨init, c, hs, -, -, hsplit⟩ := h.exists_concat
  have hpositive : 0 < (splitlines s).length := by
    rw [hsplit, hs, length_cutFrom]
    omega
  have hmapping : mapping (.obj (sourceExcerpt s (splitlines s).length)) "excerpts"
      ["kind", "path", "text"]
      ["commit", "start_line", "end_line", "language", "base_commit", "head_commit", "hunks"]
        = .ok (sourceExcerpt s (splitlines s).length) := by
    refine mapping_eq_ok_iff.mpr ⟨rfl, ?_, ?_⟩
    · simp only [List.forall_mem_cons]
      exact ⟨rfl, rfl, rfl, nofun⟩
    · simp only [sourceExcerpt, List.forall_mem_cons]
      exact ⟨⟨"kind", by simp⟩, ⟨"path", by simp⟩, ⟨"text", by simp⟩, ⟨"commit", by simp⟩,
        ⟨"start_line", by simp⟩, ⟨"end_line", by simp⟩, nofun⟩
  unfold excerpt
  rw [hmapping]
  dsimp only [bind, Except.bind]
  have hkind : excerptKind (getField (sourceExcerpt s (splitlines s).length) "kind")
      = .ok .source := rfl
  have hpath : getField (sourceExcerpt s (splitlines s).length) "path" = some (.str (py "x")) := rfl
  have htext : getField (sourceExcerpt s (splitlines s).length) "text" = some (.str s) := rfl
  have hfields : hasKeys sourceFields (sourceExcerpt s (splitlines s).length) = true := rfl
  have hstart : positive (getField (sourceExcerpt s (splitlines s).length) "start_line")
      "start_line" false = .ok 1 := rfl
  have hlast : positive (getField (sourceExcerpt s (splitlines s).length) "end_line")
      "end_line" false = .ok (splitlines s).length := by
    change (if (splitlines s).length < 1 then _ else _) = _
    rw [if_neg (not_lt.mpr hpositive)]
  have hcommit : commit (getField (sourceExcerpt s (splitlines s).length) "commit") "commit"
      = .ok (py "0000000") := rfl
  rw [hkind]
  dsimp only
  rw [hpath, path_x]
  dsimp only
  rw [htext, h.text]
  dsimp only
  rw [if_neg (not_lt.mpr h.lines), if_neg nofun, hfields, if_neg nofun, hstart]
  dsimp only
  rw [hlast]
  dsimp only
  have hlength : ¬((splitlines s).length < 1 ∨
      ({} : CodingContextLimits).excerptLines < (splitlines s).length - 1 + 1 ∨
      (splitlines s).length ≠ (splitlines s).length - 1 + 1) := by
    have := h.lines
    omega
  rw [if_neg hlength, hcommit]
  exact ⟨_, rfl, rfl, rfl, rfl, rfl⟩

/-- Ranges are exact where no separator stands before the last character, and nowhere else. -/
theorem Admits.rangeExact_iff {s : PyStr} (h : Admits interpreter s) :
    RangeExact interpreter s ↔ ∀ c ∈ s.dropLast, isSeparator c = false := by
  rw [← h.length_eq_iff]
  constructor
  · intro hexact
    obtain ⟨e, he, hkind, htext, hstart, hlast⟩ := h.excerpt_source
    obtain ⟨start, last, hstart', hlast', hle, hlength⟩ :=
      hexact _ e he (by rw [hkind]; exact nofun) htext
    rw [hstart, Option.some_inj] at hstart'
    rw [hlast, Option.some_inj] at hlast'
    omega
  · intro hlength value e he hkind htext
    obtain ⟨start, last, hstart, hlast, hle, hrange⟩ := excerpt_range he hkind
    rw [htext] at hrange
    exact ⟨start, last, hstart, hlast, hle, hlength.trans hrange⟩

/-! ## Hunks -/

/-- A declaration of some hunks. -/
def declaration (hunks : List DiffHunk) : PyJson :=
  .arr (hunks.map fun hunk => .obj
    [(py "old_start", .int hunk.oldStart), (py "old_count", .int hunk.oldCount),
      (py "new_start", .int hunk.newStart), (py "new_count", .int hunk.newCount)])

theorem declares_declaration {hunks : List DiffHunk} (hne : hunks ≠ [])
    (hlength : hunks.length ≤ ({} : CodingContextLimits).excerptLines) :
    Declares (declaration hunks) hunks := by
  refine ⟨_, rfl, by simpa using hne, by simpa using hlength, ?_⟩
  rw [List.forall₂_map_left_iff, List.forall₂_same]
  refine fun hunk _ => ⟨_, rfl, ?_, rfl, rfl, rfl, rfl⟩
  simp [hunkFields]

theorem ne_nil_of_declares {raw : PyJson} {hunks : List DiffHunk} (h : Declares raw hunks) :
    hunks ≠ [] := by
  rintro rfl
  obtain ⟨entries, -, hne, -, hall⟩ := h
  exact hne (List.forall₂_nil_right_iff.mp hall)

theorem length_le_of_hunks {Numeral : PyStr → ℕ → Prop} {lines : List PyStr}
    {hunks : List DiffHunk} (h : Hunks Numeral lines hunks) : hunks.length ≤ lines.length := by
  induction h with
  | nil => exact le_rfl
  | hunk _ _ _ ih =>
    simp only [List.length_cons, List.length_append]
    omega

theorem length_le_of_isDiff {Numeral : PyStr → ℕ → Prop} {lines : List PyStr}
    {hunks : List DiffHunk} (h : IsDiff Numeral lines hunks) : hunks.length ≤ lines.length := by
  obtain ⟨preamble, rest, rfl, -, hrest⟩ := h
  have := length_le_of_hunks hrest
  rw [List.length_append]
  omega

/-- Diffs are exact where the lines are those of Git, if no separator stands before the last
character. -/
theorem Admits.diffExact_iff {s : PyStr} (h : Admits interpreter s)
    (hsep : ∀ c ∈ s.dropLast, isSeparator c = false) :
    DiffExact interpreter s ↔ GitLines interpreter s := by
  have hascii : ∀ hunks, IsDiff AsciiNumeral (lfLines s) hunks
      ↔ IsDiff (Numeral interpreter fun _ => True) (lfLines s) hunks ∧
          ∀ digits ∈ headerNumerals interpreter (lfLines s), ∀ c ∈ digits, PyJson.isDigit c = true := by
    intro hunks
    rw [asciiNumeral_eq interpreter, isDiff_numeral_iff]
  have hshort : ∀ raw hunks, diffHunks interpreter s raw {} = .ok hunks
      ↔ Declares raw hunks ∧ IsDiff (Numeral interpreter fun _ => True) (lfLines s) hunks ∧
          ∀ digits ∈ headerNumerals interpreter (lfLines s),
            digits.length ≤ interpreter.maxStrDigits := by
    intro raw hunks
    rw [diffHunks_eq_ok_iff, h.parseHunks_iff hsep, isDiff_numeral_iff]
    exact Iff.rfl
  constructor
  · intro hexact
    refine ⟨hsep, fun hunks hne hdiff => ?_⟩
    have hdeclares : Declares (declaration hunks) hunks :=
      declares_declaration hne ((length_le_of_isDiff hdiff).trans h.length_le)
    have hboth := (hshort _ hunks).symm.trans (hexact (declaration hunks) hunks)
    rw [hascii, and_iff_right hdeclares, and_iff_right hdeclares, and_iff_right hdiff,
      and_iff_right hdiff] at hboth
    exact hboth.symm
  · rintro ⟨-, hnumerals⟩ raw hunks
    rw [hshort, hascii]
    refine and_congr_right fun hdeclares => and_congr_right fun hdiff => ?_
    exact (hnumerals hunks (ne_nil_of_declares hdeclares) hdiff).symm

/-- The validator agrees with Git on an admitted text exactly if no U+2028 or U+2029 stands before
its last character and the numerals of a diff are ASCII where `int` takes them. -/
theorem exact_iff_gitLines {s : PyStr} (h : Admits interpreter s) :
    DiffExact interpreter s ∧ RangeExact interpreter s ↔ GitLines interpreter s := by
  constructor
  · rintro ⟨hdiff, hrange⟩
    exact (h.diffExact_iff (h.rangeExact_iff.mp hrange)).mp hdiff
  · intro hlines
    exact ⟨(h.diffExact_iff hlines.separators).mpr hlines, h.rangeExact_iff.mpr hlines.separators⟩

/-- An interpreter that knows the digits and letters of ASCII. -/
def asciiInterpreter : Interpreter where
  decimal c := if PyJson.isDigit c then some (c - 0x30) else none
  isWord c := isLetter c || PyJson.isDigit c || c = 0x5F
  lower s := s.map fun c => if 0x41 ≤ c ∧ c ≤ 0x5A then c + 0x20 else c
  maxStrDigits := 4300
  decimal_ascii _ _ := rfl
  lower_ascii _ _ := rfl

/-- Two letters with a line separator between them. -/
def separated : PyStr := [0x61, 0x2028, 0x62]

theorem admits_separated : Admits asciiInterpreter separated where
  text := by
    have hencoded : strEncode separated = some [0x61, 0xE2, 0x80, 0xA8, 0x62] := by decide
    have hleast : (secret asciiInterpreter.isWord).least = 15 := rfl
    have hsecret : (secret asciiInterpreter.isWord).found separated = false :=
      Pattern.found_of_short (by rw [hleast]; decide)
    unfold text
    dsimp only
    rw [if_neg (by decide), hencoded, hsecret]
    rfl
  lines := by decide

theorem exact_iff_gitLines_separated :
    DiffExact asciiInterpreter separated ∧ RangeExact asciiInterpreter separated
      ↔ GitLines asciiInterpreter separated :=
  exact_iff_gitLines admits_separated

/-- One line for Git, accepted as the lines 1 and 2 of a file. -/
theorem not_exact_separated :
    ¬(Admits asciiInterpreter separated →
      DiffExact asciiInterpreter separated ∧ RangeExact asciiInterpreter separated) := by
  intro hclaim
  obtain ⟨-, hrange⟩ := hclaim admits_separated
  have hnone := admits_separated.rangeExact_iff.mp hrange 0x2028 (by decide)
  exact absurd hnone (by decide)

end CodingContext
