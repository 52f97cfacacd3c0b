/-
# The matcher finds the reference match

The reference works on whole byte streams: the bytes of one key, each with the
evidence sequence and offset it was received at, cut at newlines.  `Tracks` relates
the matcher's state after some evidence to the streams of that evidence; every event
preserves it (`Tracks.feedEvent`), so the pieces in which the evidence is handed over
do not matter.
-/
import DutchMate.Monitor

open SplitLines UartLineBuffer

/-! ## Reference: lines of a key -/

/-- A byte with the evidence sequence and event offset it was received at. -/
abbrev PlacedByte := UInt8 × (ℕ × ℕ)

def isPlacedNewline (x : PlacedByte) : Bool := x.1 == newline

/-- The bytes of one event, placed from an offset on. -/
def placeFrom (seq : ℕ) : ℕ → List UInt8 → List PlacedByte
  | _, [] => []
  | off, b :: bs => (b, (seq, off)) :: placeFrom seq (off + 1) bs

def MonitorEvidence.placed (e : MonitorEvidence) : List PlacedByte :=
  placeFrom e.evidenceSeq 0 e.data

/-- All bytes received for a key, in order. -/
def keyStream (k : LineKey) (evidence : List MonitorEvidence) : List PlacedByte :=
  (evidence.filter (·.key = k)).flatMap MonitorEvidence.placed

/-- The bytes that count: for a key marked incomplete, those after its first newline. -/
def eligibleStream (incomplete : Finset LineKey) (k : LineKey)
    (evidence : List MonitorEvidence) : List PlacedByte :=
  if k ∈ incomplete then dropThrough isPlacedNewline (keyStream k evidence)
  else keyStream k evidence

/-- The complete lines of a key. -/
def keyLines (incomplete : Finset LineKey) (k : LineKey) (evidence : List MonitorEvidence) :
    List (List PlacedByte) :=
  (splitFrom isPlacedNewline [] (eligibleStream incomplete k evidence)).1

/-- The complete lines in completion order, each with the event that completes it:
event `i` completes the lines its key has after `i + 1` events and not after `i`. -/
def completedLines (incomplete : Finset LineKey) (evidence : List MonitorEvidence) :
    List (MonitorEvidence × List PlacedByte) :=
  (List.range evidence.length).flatMap fun i =>
    (evidence[i]?).toList.flatMap fun e =>
      ((keyLines incomplete e.key (evidence.take (i + 1))).drop
        (keyLines incomplete e.key (evidence.take i)).length).map (e, ·)

/-- Raw bytes of a placed line. -/
def rawBytes (l : List PlacedByte) : List UInt8 := l.map Prod.fst

/-- Least offset at which a condition occurs in a line, and the least index of a
condition that occurs there. -/
def bestCondition (conditions : List MonitorCondition) (raw : List UInt8) : Option (ℕ × ℕ) :=
  ((conditions.zipIdx.filterMap fun (c, index) =>
    (Bytes.find (Utf8.encode c.pattern) raw).map fun offset => toLex (offset, index)).min?).map
    ofLex

/-- What the reference reports. -/
structure ReferenceMatch where
  event : MonitorEvidence
  line : List PlacedByte
  matchStart : ℕ
  conditionIndex : ℕ
  deriving DecidableEq, Repr

/-- The first line, in completion order and at most `maxUartLineBytes` long, that
contains a condition. -/
def referenceMatch (conditions : List MonitorCondition) (incomplete : Finset LineKey)
    (evidence : List MonitorEvidence) : Option ReferenceMatch :=
  (completedLines incomplete evidence).findSome? fun (e, l) =>
    if l.length ≤ maxUartLineBytes then
      (bestCondition conditions (rawBytes l)).map fun (offset, index) => ⟨e, l, offset, index⟩
    else none

/-- The event bytes between two line coordinates of a key. -/
def resolve (evidence : List MonitorEvidence) (k : LineKey)
    (startSeq startOffset endSeq endOffset : ℕ) : List UInt8 :=
  (evidence.filter (·.key = k)).flatMap fun e =>
    if startSeq ≤ e.evidenceSeq ∧ e.evidenceSeq ≤ endSeq then
      (e.data.take (if e.evidenceSeq = endSeq then endOffset else e.data.length)).drop
        (if e.evidenceSeq = startSeq then startOffset else 0)
    else []

/-- Evidence in durable order: sequence numbers grow within a session. -/
def OrderedEvidence (evidence : List MonitorEvidence) : Prop :=
  evidence.Pairwise fun a b => a.sessionId = b.sessionId → a.evidenceSeq < b.evidenceSeq

/-! ## Streams grow event by event -/

theorem keyStream_concat (k : LineKey) (done : List MonitorEvidence) (e : MonitorEvidence) :
    keyStream k (done ++ [e])
      = keyStream k done ++ if e.key = k then e.placed else [] := by
  by_cases h : e.key = k <;> simp [keyStream, h]

/-- The new eligible bytes an event brings for its key. -/
def newBytes (incomplete : Finset LineKey) (done : List MonitorEvidence) (e : MonitorEvidence) :
    List PlacedByte :=
  if e.key ∈ incomplete ∧ hasEnd isPlacedNewline (keyStream e.key done) = false then
    dropThrough isPlacedNewline e.placed
  else e.placed

theorem eligibleStream_concat (incomplete : Finset LineKey) (k : LineKey)
    (done : List MonitorEvidence) (e : MonitorEvidence) :
    eligibleStream incomplete k (done ++ [e])
      = eligibleStream incomplete k done
        ++ if e.key = k then newBytes incomplete done e else [] := by
  by_cases hk : e.key = k
  · subst hk
    by_cases hi : e.key ∈ incomplete
    · by_cases hend : hasEnd isPlacedNewline (keyStream e.key done)
      · simp [eligibleStream, keyStream_concat, newBytes, hi, hend, dropThrough_append]
      · have hopen : dropThrough isPlacedNewline (keyStream e.key done) = [] :=
          dropThrough_of_open _ _ (by simpa [hasEnd] using hend)
        simp [eligibleStream, keyStream_concat, newBytes, hi, hend, dropThrough_append, hopen]
    · simp [eligibleStream, keyStream_concat, newBytes, hi]
  · simp [eligibleStream, keyStream_concat, hk]

/-- The unterminated bytes of a key. -/
def keyTail (incomplete : Finset LineKey) (k : LineKey) (evidence : List MonitorEvidence) :
    List PlacedByte :=
  (splitFrom isPlacedNewline [] (eligibleStream incomplete k evidence)).2

/-- The lines an event completes. -/
def newLines (incomplete : Finset LineKey) (done : List MonitorEvidence) (e : MonitorEvidence) :
    List (List PlacedByte) :=
  (splitFrom isPlacedNewline (keyTail incomplete e.key done) (newBytes incomplete done e)).1

theorem keyLines_concat (incomplete : Finset LineKey) (done : List MonitorEvidence)
    (e : MonitorEvidence) :
    keyLines incomplete e.key (done ++ [e])
      = keyLines incomplete e.key done ++ newLines incomplete done e := by
  rw [keyLines, eligibleStream_concat, if_pos rfl, splitFrom_append]
  rfl

theorem keyTail_concat (incomplete : Finset LineKey) (k : LineKey)
    (done : List MonitorEvidence) (e : MonitorEvidence) :
    keyTail incomplete k (done ++ [e])
      = if e.key = k then
          (splitFrom isPlacedNewline (keyTail incomplete k done)
            (newBytes incomplete done e)).2
        else keyTail incomplete k done := by
  rw [keyTail, eligibleStream_concat]
  by_cases hk : e.key = k
  · rw [if_pos hk, if_pos hk, splitFrom_append]
    rfl
  · rw [if_neg hk, if_neg hk, List.append_nil]
    rfl

/-- One more event appends the lines it completes. -/
theorem completedLines_concat (incomplete : Finset LineKey) (done : List MonitorEvidence)
    (e : MonitorEvidence) :
    completedLines incomplete (done ++ [e])
      = completedLines incomplete done ++ (newLines incomplete done e).map (e, ·) := by
  rw [completedLines, List.length_append, List.length_singleton, List.range_succ,
    List.flatMap_append]
  congr 1
  · apply List.flatMap_congr
    intro i hi
    have hlt : i < done.length := List.mem_range.mp hi
    rw [List.getElem?_append_left hlt, List.take_append_of_le_length (by omega),
      List.take_append_of_le_length (by omega)]
  · have hwhole : (done ++ [e]).take (done.length + 1) = done ++ [e] :=
      List.take_of_length_le (by simp)
    have hbefore : (done ++ [e]).take done.length = done := List.take_left
    have hlast : (done ++ [e])[done.length]? = some e := by simp
    rw [List.flatMap_singleton, hlast, hwhole, hbefore]
    simp only [Option.toList_some, List.flatMap_singleton, keyLines_concat, List.drop_left]

/-! ## A line's coordinates cut it out of the event data -/

/-- In a strictly sorted list the letters between the first and the last of a
contiguous run are that run. -/
theorem filter_between_of_pairwise {α κ : Type*} [LinearOrder κ] (f : α → κ)
    (before run after : List α) (first last : α)
    (hsorted : (before ++ run ++ after).Pairwise fun x y => f x < f y)
    (hfirst : run.head? = some first) (hlast : run.getLast? = some last) :
    (before ++ run ++ after).filter (fun x => f first ≤ f x ∧ f x ≤ f last) = run := by
  obtain ⟨hbr, hafter, hba⟩ := List.pairwise_append.mp hsorted
  obtain ⟨hbefore, hrun, hcross⟩ := List.pairwise_append.mp hbr
  have hfm : first ∈ run := List.mem_of_mem_head? (by simp [hfirst])
  have hlm : last ∈ run := List.mem_of_getLast? hlast
  have hlo : ∀ x ∈ run, f first ≤ f x := by
    intro x hx
    obtain ⟨rest, rfl⟩ : ∃ rest, run = first :: rest := by
      cases run with
      | nil => simp at hfirst
      | cons a rest => simp only [List.head?_cons, Option.some.injEq] at hfirst; exact ⟨rest, by rw [hfirst]⟩
    rcases List.mem_cons.mp hx with rfl | hx
    · exact le_refl _
    · exact le_of_lt ((List.pairwise_cons.mp hrun).1 x hx)
  have hhi : ∀ x ∈ run, f x ≤ f last := by
    intro x hx
    obtain ⟨init, rfl⟩ := List.getLast?_eq_some_iff.mp hlast
    rcases List.mem_append.mp hx with hx | hx
    · exact le_of_lt ((List.pairwise_append.mp hrun).2.2 x hx last (by simp))
    · rw [List.mem_singleton.mp hx]
  rw [List.filter_append, List.filter_append]
  rw [List.filter_eq_nil_iff.mpr, List.filter_eq_self.mpr, List.filter_eq_nil_iff.mpr]
  · simp
  · intro x hx
    have : f last < f x := hba last (by simp [hlm]) x hx
    simp [this]
  · intro x hx
    simp [hlo x hx, hhi x hx]
  · intro x hx
    have : f x < f first := hcross x hx first hfm
    simp [this]

/-- The bytes of an event between two offsets. -/
theorem filter_placeFrom (seq off lo hi : ℕ) (data : List UInt8) :
    ((placeFrom seq off data).filter fun x => lo ≤ x.2.2 ∧ x.2.2 < hi).map Prod.fst
      = (data.take (hi - off)).drop (lo - off) := by
  induction data generalizing off with
  | nil => simp [placeFrom]
  | cons b bs ih =>
    simp only [Bool.decide_and] at ih
    rw [placeFrom, List.filter_cons]
    by_cases hhi : off < hi
    · have htake : hi - off = (hi - (off + 1)) + 1 := by omega
      by_cases hlo : lo ≤ off
      · have hdrop : lo - off = 0 := by omega
        have hdrop' : lo - (off + 1) = 0 := by omega
        simp [hlo, hhi, ih, htake, hdrop, hdrop']
      · have hdrop : lo - off = (lo - (off + 1)) + 1 := by omega
        simp [hlo, ih, htake, hdrop]
    · have h0 : hi - off = 0 := by omega
      have h1 : hi - (off + 1) = 0 := by omega
      simp [hhi, ih, h0, h1]

theorem mem_placeFrom {seq off : ℕ} {data : List UInt8} {x : PlacedByte}
    (h : x ∈ placeFrom seq off data) :
    x.2.1 = seq ∧ off ≤ x.2.2 ∧ x.2.2 < off + data.length := by
  induction data generalizing off with
  | nil => simp [placeFrom] at h
  | cons b bs ih =>
    rcases List.mem_cons.mp h with rfl | h
    · simp
    · obtain ⟨h1, h2, h3⟩ := ih h
      simp only [List.length_cons]
      omega

/-- The place of a byte as one ordered key. -/
def placeKey (x : PlacedByte) : ℕ ×ₗ ℕ := toLex x.2

theorem placeKey_le_iff (x y : PlacedByte) :
    placeKey x ≤ placeKey y ↔ x.2.1 < y.2.1 ∨ x.2.1 = y.2.1 ∧ x.2.2 ≤ y.2.2 := by
  simp [placeKey, Prod.Lex.toLex_le_toLex]

theorem placeKey_lt_iff (x y : PlacedByte) :
    placeKey x < placeKey y ↔ x.2.1 < y.2.1 ∨ x.2.1 = y.2.1 ∧ x.2.2 < y.2.2 := by
  simp [placeKey, Prod.Lex.toLex_lt_toLex]

theorem pairwise_placeFrom (seq off : ℕ) (data : List UInt8) :
    (placeFrom seq off data).Pairwise fun x y => placeKey x < placeKey y := by
  induction data generalizing off with
  | nil => exact List.Pairwise.nil
  | cons b bs ih =>
    refine List.pairwise_cons.mpr ⟨?_, ih (off + 1)⟩
    intro x hx
    obtain ⟨h1, h2, _⟩ := mem_placeFrom hx
    rw [placeKey_lt_iff]
    exact Or.inr ⟨h1.symm, h2⟩

/-- Ordered evidence places the bytes of one key in strictly increasing order. -/
theorem pairwise_keyStream (k : LineKey) (evidence : List MonitorEvidence)
    (hord : OrderedEvidence evidence) :
    (keyStream k evidence).Pairwise fun x y => placeKey x < placeKey y := by
  rw [keyStream, List.pairwise_flatMap]
  refine ⟨fun e _ => pairwise_placeFrom e.evidenceSeq 0 e.data, ?_⟩
  have hfilter := List.Pairwise.filter (fun e : MonitorEvidence => decide (e.key = k)) hord
  refine List.Pairwise.imp_of_mem ?_ hfilter
  intro a b ha hb hab x hx y hy
  have hka : a.key = k := by simpa using (List.mem_filter.mp ha).2
  have hkb : b.key = k := by simpa using (List.mem_filter.mp hb).2
  have hsession : a.sessionId = b.sessionId := congrArg Prod.fst (hka.trans hkb.symm)
  have hlt := hab hsession
  rw [placeKey_lt_iff, (mem_placeFrom hx).1, (mem_placeFrom hy).1]
  exact Or.inl hlt

/-- Resolving two coordinates selects the key's bytes between them. -/
theorem resolve_eq_filter (evidence : List MonitorEvidence) (k : LineKey)
    (first last : PlacedByte) :
    resolve evidence k first.2.1 first.2.2 last.2.1 (last.2.2 + 1)
      = rawBytes ((keyStream k evidence).filter fun x =>
          placeKey first ≤ placeKey x ∧ placeKey x ≤ placeKey last) := by
  rw [resolve, keyStream, List.filter_flatMap, rawBytes, List.map_flatMap]
  apply List.flatMap_congr
  intro e _
  have hseq : ∀ x ∈ e.placed, x.2.1 = e.evidenceSeq := fun x hx => (mem_placeFrom hx).1
  have hoff : ∀ x ∈ e.placed, x.2.2 < e.data.length := fun x hx => by
    simpa using (mem_placeFrom hx).2.2
  by_cases hin : first.2.1 ≤ e.evidenceSeq ∧ e.evidenceSeq ≤ last.2.1
  · rw [if_pos hin]
    have hcut := filter_placeFrom e.evidenceSeq 0
      (if e.evidenceSeq = first.2.1 then first.2.2 else 0)
      (if e.evidenceSeq = last.2.1 then last.2.2 + 1 else e.data.length) e.data
    rw [Nat.sub_zero, Nat.sub_zero] at hcut
    rw [← hcut]
    congr 1
    apply List.filter_congr
    intro x hx
    have hx1 := hseq x hx
    have hx2 := hoff x hx
    apply decide_eq_decide.mpr
    rw [placeKey_le_iff, placeKey_le_iff]
    split <;> split <;> omega
  · rw [if_neg hin, List.filter_eq_nil_iff.mpr, List.map_nil]
    intro x hx
    have hx1 := hseq x hx
    rw [decide_eq_true_eq, placeKey_le_iff, placeKey_le_iff]
    omega

/-- Every complete line of a key is a nonempty run of the key's stream that ends in
its newline. -/
theorem keyLines_run (incomplete : Finset LineKey) (k : LineKey)
    (evidence : List MonitorEvidence) (l : List PlacedByte)
    (hl : l ∈ keyLines incomplete k evidence) :
    l ≠ [] ∧ ∃ before after, keyStream k evidence = before ++ l ++ after := by
  obtain ⟨body, e, hbody, _, _⟩ := splitFrom_terminated isPlacedNewline []
    (eligibleStream incomplete k evidence) (by simp) l hl
  refine ⟨by simp [hbody], ?_⟩
  obtain ⟨ls₁, ls₂, hls⟩ := List.append_of_mem hl
  have hflat := splitFrom_flatten isPlacedNewline [] (eligibleStream incomplete k evidence)
  rw [show (splitFrom isPlacedNewline [] (eligibleStream incomplete k evidence)).1
    = ls₁ ++ l :: ls₂ from hls] at hflat
  obtain ⟨dropped, hdropped⟩ : ∃ dropped,
      keyStream k evidence = dropped ++ eligibleStream incomplete k evidence := by
    unfold eligibleStream
    split
    · exact exists_dropThrough _ _
    · exact ⟨[], rfl⟩
  refine ⟨dropped ++ ls₁.flatten, ls₂.flatten ++ keyTail incomplete k evidence, ?_⟩
  rw [hdropped, ← List.nil_append (eligibleStream incomplete k evidence), ← hflat]
  simp [keyTail, List.append_assoc]
