/-
# Every run of the matcher finds the reference match

`Tracks` relates a matcher to the evidence it has consumed: which keys still discard
their boundary line, and for every key a buffer that holds the unterminated bytes of
the key's stream.  One event keeps the relation and returns exactly the lines the
event completes; a run therefore looks at the completed lines of all its evidence in
order, wherever the `process` calls are cut.
-/
import DutchMate.MonitorReference

open SplitLines UartLineBuffer

/-! ## Placed bytes and tagged bytes -/

/-- Forget all of a tag but the place. -/
def place (x : TaggedByte) : PlacedByte := (x.1, (x.2.ingestionIndex, x.2.offset))

theorem isPlacedNewline_comp_place : isPlacedNewline ∘ place = isNewline := rfl

theorem map_place_tagFrom (seq ts off line : ℕ) (data : List UInt8) :
    (tagFrom seq ts off line data).map place = placeFrom seq off data := by
  induction data generalizing off line with
  | nil => rfl
  | cons b bs ih => simp only [tagFrom, List.map_cons, ih, placeFrom, place]

theorem rawBytes_map_place (l : List TaggedByte) : rawBytes (l.map place) = l.map Prod.fst := by
  rw [rawBytes, List.map_map]
  rfl

theorem hasEnd_placeFrom (seq off : ℕ) (data : List UInt8) :
    hasEnd isPlacedNewline (placeFrom seq off data) = (data.findIdx? (· == newline)).isSome := by
  induction data generalizing off with
  | nil => rfl
  | cons b bs ih =>
    simp only [hasEnd] at ih
    by_cases hb : b == newline <;>
      simp [placeFrom, hasEnd, isPlacedNewline, List.findIdx?_cons, hb, ih]

theorem dropThrough_placeFrom (seq off : ℕ) (data : List UInt8) :
    dropThrough isPlacedNewline (placeFrom seq off data)
      = match data.findIdx? (· == newline) with
        | none => []
        | some i => placeFrom seq (off + (i + 1)) (data.drop (i + 1)) := by
  induction data generalizing off with
  | nil => rfl
  | cons b bs ih =>
    by_cases hb : b == newline
    · simp [placeFrom, dropThrough, isPlacedNewline, List.findIdx?_cons, hb]
    · rw [placeFrom, dropThrough, if_neg (by simpa [isPlacedNewline] using hb), ih,
        List.findIdx?_cons, if_neg hb]
      cases bs.findIdx? (· == newline) with
      | none => rfl
      | some i => simp [show off + 1 + (i + 1) = off + (i + 1 + 1) by omega]

/-! ## One event -/

/-- The matcher after the evidence `done`. -/
structure Tracks (conditions : List MonitorCondition) (incomplete : Finset LineKey)
    (done : List MonitorEvidence) (m : MonitorMatcher) : Prop where
  conditions_eq : m.conditions = conditions
  discarding : ∀ k, k ∈ m.discardFirstLine ↔
    k ∈ incomplete ∧ hasEnd isPlacedNewline (keyStream k done) = false
  buffer : ∀ k, ∃ t, m.buffers.getD k {} = ofTail t ∧ t.map place = keyTail incomplete k done

/-- The lines a call returned are those completed in the placed streams. -/
def ReturnsLines (returned : List UartLine) (completed : List (List PlacedByte)) : Prop :=
  ∃ ls : List (List TaggedByte),
    returned = (ls.filter (!oversized ·)).map lineOf ∧ ls.map (List.map place) = completed

/-- Splitting tagged bytes is splitting placed bytes. -/
theorem splitFrom_place (t : List TaggedByte) (seq ts off line : ℕ) (data : List UInt8) :
    splitFrom isPlacedNewline (t.map place) (placeFrom seq off data)
      = ((splitFrom isNewline t (tagFrom seq ts off line data)).1.map (List.map place),
          (splitFrom isNewline t (tagFrom seq ts off line data)).2.map place) := by
  rw [← map_place_tagFrom seq ts off line data, splitFrom_map, isPlacedNewline_comp_place]

/-- What feeding part of an event's data does to its key's buffer. -/
theorem feedBuffer_spec (m : MonitorMatcher) (e : MonitorEvidence) (data : List UInt8)
    (base : ℕ) (t : List TaggedByte) (tail : List PlacedByte)
    (hbuf : m.buffers.getD e.key {} = ofTail t) (htail : t.map place = tail) :
    ∃ t' limited,
      (m.feedBuffer e data base).1
        = { m with buffers := m.buffers.set e.key (ofTail t'), lineProcessingLimited := limited } ∧
      t'.map place
        = (splitFrom isPlacedNewline tail (placeFrom e.evidenceSeq base data)).2 ∧
      ReturnsLines (m.feedBuffer e data base).2
        (splitFrom isPlacedNewline tail (placeFrom e.evidenceSeq base data)).1 := by
  subst htail
  rw [splitFrom_place t e.evidenceSeq e.timestampUs base 0 data]
  simp only [MonitorMatcher.feedBuffer, hbuf, feedResult_ofTail]
  refine ⟨_, _, rfl, rfl, _, ?_, rfl⟩
  rw [extend_lines]
  rfl

/-- Setting one key's buffer keeps the relation. -/
theorem Tracks.set_buffer {conditions : List MonitorCondition} {incomplete : Finset LineKey}
    {done : List MonitorEvidence} {m : MonitorMatcher} (h : Tracks conditions incomplete done m)
    (e : MonitorEvidence) (discard : Finset LineKey) (counts : Dict LineKey ℕ) (limited : Bool)
    (t' : List TaggedByte)
    (hdiscard : ∀ k, k ∈ discard ↔
      k ∈ incomplete ∧ hasEnd isPlacedNewline (keyStream k (done ++ [e])) = false)
    (ht' : t'.map place = keyTail incomplete e.key (done ++ [e])) :
    Tracks conditions incomplete (done ++ [e])
      ⟨m.conditions, m.buffers.set e.key (ofTail t'), discard, counts, limited⟩ := by
  refine ⟨h.conditions_eq, hdiscard, ?_⟩
  intro k
  by_cases hk : k = e.key
  · subst hk
    exact ⟨t', by rw [Dict.getD_set, if_pos rfl], ht'⟩
  · obtain ⟨t, hbuf, htail⟩ := h.buffer k
    refine ⟨t, by rw [Dict.getD_set, if_neg hk, hbuf], ?_⟩
    rw [htail, keyTail_concat, if_neg (Ne.symm hk)]

/-- An event none of whose bytes become eligible keeps the relation. -/
theorem Tracks.keep_buffers {conditions : List MonitorCondition} {incomplete : Finset LineKey}
    {done : List MonitorEvidence} {m : MonitorMatcher} (h : Tracks conditions incomplete done m)
    (e : MonitorEvidence) (discard : Finset LineKey) (counts : Dict LineKey ℕ) (limited : Bool)
    (hdiscard : ∀ k, k ∈ discard ↔
      k ∈ incomplete ∧ hasEnd isPlacedNewline (keyStream k (done ++ [e])) = false)
    (hnew : newBytes incomplete done e = []) :
    Tracks conditions incomplete (done ++ [e])
      ⟨m.conditions, m.buffers, discard, counts, limited⟩ := by
  refine ⟨h.conditions_eq, hdiscard, ?_⟩
  intro k
  obtain ⟨t, hbuf, htail⟩ := h.buffer k
  refine ⟨t, hbuf, ?_⟩
  rw [htail, keyTail_concat]
  split
  · rw [hnew, splitFrom_nil]
  · rfl

/-- Which keys still discard after one more event. -/
theorem hasEnd_keyStream_concat (k : LineKey) (done : List MonitorEvidence)
    (e : MonitorEvidence) :
    hasEnd isPlacedNewline (keyStream k (done ++ [e]))
      = (hasEnd isPlacedNewline (keyStream k done)
          || (decide (e.key = k) && (e.data.findIdx? (· == newline)).isSome)) := by
  rw [keyStream_concat, hasEnd, List.any_append]
  by_cases hk : e.key = k
  · have := hasEnd_placeFrom e.evidenceSeq 0 e.data
    simp only [hasEnd] at this
    simp [hasEnd, hk, MonitorEvidence.placed, this]
  · simp [hasEnd, hk]

/-- One event keeps the relation and returns the lines it completes. -/
theorem Tracks.feedEvent {conditions : List MonitorCondition} {incomplete : Finset LineKey}
    {done : List MonitorEvidence} {m : MonitorMatcher} (h : Tracks conditions incomplete done m)
    (e : MonitorEvidence) :
    Tracks conditions incomplete (done ++ [e]) (m.feedEvent e).1 ∧
      ReturnsLines (m.feedEvent e).2 (newLines incomplete done e) := by
  obtain ⟨t, hbuf, htail⟩ := h.buffer e.key
  have htail' : keyTail incomplete e.key (done ++ [e])
      = (splitFrom isPlacedNewline (keyTail incomplete e.key done)
          (newBytes incomplete done e)).2 := by
    rw [keyTail_concat, if_pos rfl]
  by_cases hdisc : e.key ∈ m.discardFirstLine
  · have hold := (h.discarding e.key).mp hdisc
    have hnew : newBytes incomplete done e = dropThrough isPlacedNewline e.placed := by
      rw [newBytes, if_pos hold]
    rw [MonitorEvidence.placed, dropThrough_placeFrom] at hnew
    cases hfind : e.data.findIdx? (· == newline) with
    | none =>
      -- the boundary line runs on: nothing becomes eligible
      rw [hfind] at hnew
      simp only [MonitorMatcher.feedEvent, if_pos hdisc, hfind, newLines, hnew]
      refine ⟨h.keep_buffers e _ _ _ ?_ hnew, [], rfl, rfl⟩
      intro k
      rw [hasEnd_keyStream_concat, hfind, h.discarding k]
      simp
    | some i =>
      rw [hfind] at hnew
      simp only [Nat.zero_add] at hnew
      have herase : ∀ k, k ∈ m.discardFirstLine.erase e.key ↔
          k ∈ incomplete ∧ hasEnd isPlacedNewline (keyStream k (done ++ [e])) = false := by
        intro k
        rw [hasEnd_keyStream_concat, hfind, Finset.mem_erase, h.discarding k]
        by_cases hk : k = e.key
        · simp [hk]
        · simp [hk, Ne.symm hk]
      by_cases hempty : (e.data.drop (i + 1)).isEmpty
      · -- the newline is the event's last byte
        have hnil : e.data.drop (i + 1) = [] := by simpa using hempty
        rw [hnil, placeFrom] at hnew
        simp only [MonitorMatcher.feedEvent, if_pos hdisc, hfind, Option.elim_some, hempty,
          if_true, newLines, hnew]
        exact ⟨h.keep_buffers e _ _ _ herase hnew, [], rfl, rfl⟩
      · simp only [MonitorMatcher.feedEvent, if_pos hdisc, hfind, Option.elim_some, hempty,
          Bool.false_eq_true, if_false, newLines, hnew]
        obtain ⟨t', limited, hstate, ht', hlines⟩ := feedBuffer_spec
          { m with
            discardFirstLine := m.discardFirstLine.erase e.key
            discardedByteCounts := m.discardedByteCounts.erase e.key
            lineProcessingLimited := m.lineProcessingLimited
              || decide (maxUartLineBytes < m.discardedByteCounts.getD e.key 0 + (i + 1)) }
          e (e.data.drop (i + 1)) (i + 1) t _ hbuf htail
        rw [← hnew, ← htail'] at ht'
        refine ⟨?_, hlines⟩
        rw [hstate]
        exact h.set_buffer e _ _ _ t' herase ht'
  · have hnew : newBytes incomplete done e = placeFrom e.evidenceSeq 0 e.data := by
      rw [newBytes, if_neg (by rwa [h.discarding e.key] at hdisc), MonitorEvidence.placed]
    have hsame : ∀ k, k ∈ m.discardFirstLine ↔
        k ∈ incomplete ∧ hasEnd isPlacedNewline (keyStream k (done ++ [e])) = false := by
      intro k
      by_cases hk : e.key = k
      · subst hk
        have hnot := hdisc
        rw [h.discarding e.key] at hnot
        rw [hasEnd_keyStream_concat]
        constructor
        · intro hmem
          exact absurd hmem hdisc
        · rintro ⟨hinc, hend⟩
          rw [Bool.or_eq_false_iff] at hend
          exact absurd ⟨hinc, hend.1⟩ hnot
      · rw [h.discarding k, hasEnd_keyStream_concat]
        simp [hk]
    simp only [MonitorMatcher.feedEvent, if_neg hdisc, newLines, hnew]
    obtain ⟨t', limited, hstate, ht', hlines⟩ :=
      feedBuffer_spec m e e.data 0 t _ hbuf htail
    rw [← hnew, ← htail'] at ht'
    refine ⟨?_, hlines⟩
    rw [hstate]
    exact h.set_buffer e _ _ _ t' hsame ht'

/-! ## One line -/

/-- The smallest element of a monotone image. -/
theorem min?_map_of_monotone {α β : Type*} [LinearOrder α] [LinearOrder β] {f : α → β}
    (hf : Monotone f) (xs : List α) : (xs.map f).min? = xs.min?.map f := by
  cases hmin : xs.min? with
  | none =>
    rw [List.min?_eq_none_iff] at hmin
    simp [hmin]
  | some a =>
    obtain ⟨hmem, hle⟩ := List.min?_eq_some_iff.mp hmin
    rw [Option.map_some, List.min?_eq_some_iff]
    refine ⟨List.mem_map_of_mem hmem, ?_⟩
    intro b hb
    obtain ⟨a', ha', rfl⟩ := List.mem_map.mp hb
    exact hf (hle a' ha')

/-- Forget the encoded length of a candidate. -/
def candidatePlace (c : ℕ ×ₗ ℕ ×ₗ ℕ) : ℕ ×ₗ ℕ := toLex ((ofLex c).1, (ofLex (ofLex c).2).1)

theorem monotone_candidatePlace : Monotone candidatePlace := by
  intro a b hab
  rw [Prod.Lex.le_iff] at hab
  rw [candidatePlace, candidatePlace, Prod.Lex.toLex_le_toLex]
  rcases hab with hlt | ⟨heq, hle⟩
  · exact Or.inl hlt
  · refine Or.inr ⟨heq, ?_⟩
    rcases Prod.Lex.le_iff.mp hle with hlt | ⟨heq', _⟩
    · exact Nat.le_of_lt hlt
    · exact Nat.le_of_eq heq'

/-- The reference's best condition is the place of the best candidate. -/
theorem bestCondition_eq (conditions : List MonitorCondition) (raw : List UInt8) :
    bestCondition conditions raw
      = (MonitorMatcher.candidates conditions raw).min?.map fun c =>
          ((ofLex c).1, (ofLex (ofLex c).2).1) := by
  have hmap : (conditions.zipIdx.filterMap fun p =>
      (Bytes.find (Utf8.encode p.1.pattern) raw).map fun offset => toLex (offset, p.2))
        = (MonitorMatcher.candidates conditions raw).map candidatePlace := by
    rw [MonitorMatcher.candidates, List.map_filterMap]
    apply List.filterMap_congr
    rintro ⟨c, index⟩ _
    rw [Option.map_map]
    rfl
  refine (congrArg (fun places => (List.min? places).map _) hmap).trans ?_
  rw [min?_map_of_monotone monotone_candidatePlace, Option.map_map]
  rfl

/-- A candidate names a condition, where that condition first occurs, and its
encoded length. -/
theorem mem_candidates {conditions : List MonitorCondition} {raw : List UInt8}
    {c : ℕ ×ₗ ℕ ×ₗ ℕ} (h : c ∈ MonitorMatcher.candidates conditions raw) :
    ∃ condition, conditions[(ofLex (ofLex c).2).1]? = some condition ∧
      Bytes.find (Utf8.encode condition.pattern) raw = some (ofLex c).1 ∧
      (ofLex (ofLex c).2).2 = (Utf8.encode condition.pattern).length := by
  obtain ⟨⟨condition, index⟩, hmem, hc⟩ := List.mem_filterMap.mp h
  obtain ⟨offset, hfind, rfl⟩ := Option.map_eq_some_iff.mp hc
  have hidx := List.mem_zipIdx_iff_getElem?.mp hmem
  exact ⟨condition, hidx, hfind, rfl⟩

/-- What a reported match says about the reference's match in `evidence`. -/
structure Reports (conditions : List MonitorCondition) (r : ReferenceMatch)
    (found : MonitorMatch) : Prop where
  condition_index : found.conditionIndex = r.conditionIndex
  condition : conditions[r.conditionIndex]? = some found.condition
  source : found.sessionId = r.event.sessionId ∧ found.sourceEvidenceSeq = r.event.evidenceSeq ∧
    found.segmentId = r.event.segmentId ∧ found.channel = r.event.channel ∧
    found.timestampUs = r.event.timestampUs
  line_start : ∀ first ∈ r.line.head?,
    found.lineStartEvidenceSeq = first.2.1 ∧ found.lineStartEventOffset = first.2.2
  line_end : ∀ last ∈ r.line.getLast?,
    found.lineEndEvidenceSeq = last.2.1 ∧ found.lineEndEventOffset = last.2.2 + 1
  total_bytes : found.totalLineBytes = r.line.length
  match_start : found.matchStartByte = r.matchStart
  match_end : found.matchEndByte = r.matchStart + (Utf8.encode found.condition.pattern).length
  match_found : Bytes.find (Utf8.encode found.condition.pattern) (rawBytes r.line)
    = some found.matchStartByte
  excerpt_start : found.excerptStartByte
    = min r.matchStart (r.line.length - maxMonitorMatchExcerptBytes)
  excerpt_end : found.excerptEndByte
    = min r.line.length (found.excerptStartByte + maxMonitorMatchExcerptBytes)
  excerpt : found.excerptRaw
    = ((rawBytes r.line).take found.excerptEndByte).drop found.excerptStartByte
  excerpt_text : found.excerptText = Utf8.decodeReplace found.excerptRaw
  excerpt_truncated : found.excerptTruncated = (found.excerptRaw.length != r.line.length)

/-- The reference's verdict on one line. -/
def referenceLine (conditions : List MonitorCondition) (e : MonitorEvidence)
    (l : List PlacedByte) : Option ReferenceMatch :=
  if l.length ≤ maxUartLineBytes then
    (bestCondition conditions (rawBytes l)).map fun (offset, index) => ⟨e, l, offset, index⟩
  else none

/-- A result of the code and a verdict of the reference agree. -/
def Agrees (conditions : List MonitorCondition) :
    Option ReferenceMatch → Option MonitorMatch → Prop
  | none, none => True
  | some r, some found => Reports conditions r found
  | _, _ => False

/-- Matching one kept line is the reference's verdict on it. -/
theorem matchLine_spec (m : MonitorMatcher) (e : MonitorEvidence) (l : List TaggedByte)
    (hne : l ≠ []) (hsmall : oversized l = false) :
    ∃ found, m.matchLine e (lineOf l) = .ok found ∧
      Agrees m.conditions (referenceLine m.conditions e (l.map place)) found := by
  have hlen : (l.map place).length ≤ maxUartLineBytes := by
    simpa [oversized] using hsmall
  rw [referenceLine, if_pos hlen, bestCondition_eq, rawBytes_map_place]
  have hraw : (lineOf l).raw = l.map Prod.fst := rfl
  cases hmin : (MonitorMatcher.candidates m.conditions (l.map Prod.fst)).min? with
  | none => exact ⟨none, by rw [MonitorMatcher.matchLine, hraw, hmin], trivial⟩
  | some best =>
    obtain ⟨condition, hidx, hfind, hbytes⟩ := mem_candidates (List.min?_mem hmin)
    obtain ⟨first, rest, rfl⟩ := List.exists_cons_of_ne_nil hne
    obtain ⟨last, hlast⟩ : ∃ last, (first :: rest).getLast? = some last :=
      ⟨_, List.getLast?_eq_some_getLast (by simp)⟩
    have hgetD : m.conditions.getD (ofLex (ofLex best).2).1 ⟨"", none⟩ = condition := by
      rw [List.getD_eq_getElem?_getD, hidx]
      rfl
    have hcoords : (lineOf (first :: rest)).endIngestionIndex = some last.2.ingestionIndex ∧
        (lineOf (first :: rest)).endEventOffset = some (last.2.offset + 1) := by
      simp [lineOf, hlast]
    rw [MonitorMatcher.matchLine, hraw, hmin]
    simp only [hcoords.1, hcoords.2]
    refine ⟨_, rfl, ?_⟩
    simp only [Option.map_some, Agrees]
    constructor
    all_goals simp only [hgetD, hidx, hbytes, hfind, List.length_map, rawBytes_map_place,
      and_self]
    · intro x hx
      simp only [List.map_cons, List.head?_cons, Option.mem_def, Option.some.injEq] at hx
      subst hx
      exact ⟨rfl, rfl⟩
    · intro x hx
      rw [List.getLast?_map, hlast, Option.map_some, Option.mem_def, Option.some.injEq] at hx
      subst hx
      exact ⟨rfl, rfl⟩

/-! ## A run -/

/-- Matching the lines an event returned is the reference's first verdict on them. -/
theorem matchLines_spec (m : MonitorMatcher) (e : MonitorEvidence)
    (ls : List (List TaggedByte)) (hne : ∀ l ∈ ls, l ≠ []) :
    ∃ found, m.matchLines e ((ls.filter (!oversized ·)).map lineOf) = .ok found ∧
      Agrees m.conditions
        ((ls.map (List.map place)).findSome? (referenceLine m.conditions e)) found := by
  induction ls with
  | nil => exact ⟨none, rfl, trivial⟩
  | cons l ls ih =>
    obtain ⟨found, hfound, hagree⟩ := ih (fun l' hl' => hne l' (by simp [hl']))
    by_cases hl : oversized l
    · have hnone : referenceLine m.conditions e (l.map place) = none := by
        rw [referenceLine, if_neg]
        simpa [oversized] using hl
      refine ⟨found, by simpa [hl] using hfound, ?_⟩
      rw [List.map_cons, List.findSome?_cons, hnone]
      exact hagree
    · rw [Bool.not_eq_true] at hl
      obtain ⟨first, hfirst, hagree₁⟩ := matchLine_spec m e l (hne l (by simp)) hl
      rw [List.map_cons, List.findSome?_cons]
      simp only [List.filter_cons, hl, Bool.not_false, if_true, List.map_cons,
        MonitorMatcher.matchLines, hfirst]
      cases hr : referenceLine m.conditions e (l.map place) with
      | none =>
        cases first with
        | none => exact ⟨found, hfound, hagree⟩
        | some f => rw [hr] at hagree₁; exact absurd hagree₁ (by simp [Agrees])
      | some r =>
        cases first with
        | none => rw [hr] at hagree₁; exact absurd hagree₁ (by simp [Agrees])
        | some f => exact ⟨some f, rfl, by rw [hr] at hagree₁; exact hagree₁⟩

/-- The lines that further events complete, in completion order. -/
def furtherLines (incomplete : Finset LineKey) :
    List MonitorEvidence → List MonitorEvidence → List (MonitorEvidence × List PlacedByte)
  | _, [] => []
  | done, e :: es =>
    (newLines incomplete done e).map (e, ·) ++ furtherLines incomplete (done ++ [e]) es

theorem completedLines_append (incomplete : Finset LineKey) (done es : List MonitorEvidence) :
    completedLines incomplete (done ++ es)
      = completedLines incomplete done ++ furtherLines incomplete done es := by
  induction es generalizing done with
  | nil => simp [furtherLines]
  | cons e es ih =>
    rw [show done ++ e :: es = (done ++ [e]) ++ es by simp, ih, completedLines_concat,
      furtherLines, List.append_assoc]

theorem newLines_ne_nil {incomplete : Finset LineKey} {done : List MonitorEvidence}
    {e : MonitorEvidence} {l : List PlacedByte} (hl : l ∈ newLines incomplete done e) :
    l ≠ [] := by
  have hmem : l ∈ keyLines incomplete e.key (done ++ [e]) := by
    rw [keyLines_concat]
    exact List.mem_append_right _ hl
  exact (keyLines_run incomplete e.key (done ++ [e]) l hmem).1

/-- Processing events after `done` gives the reference's first verdict on the lines
they complete, and keeps the relation as long as nothing matched. -/
theorem Tracks.process {conditions : List MonitorCondition} {incomplete : Finset LineKey}
    {done : List MonitorEvidence} {m : MonitorMatcher} (h : Tracks conditions incomplete done m)
    (es : List MonitorEvidence) :
    ∃ found m', m.process es = .ok (found, m') ∧
      Agrees conditions ((furtherLines incomplete done es).findSome? fun p =>
        referenceLine conditions p.1 p.2) found ∧
      (found = none → Tracks conditions incomplete (done ++ es) m') := by
  induction es generalizing done m with
  | nil => exact ⟨none, m, rfl, trivial, fun _ => by simpa using h⟩
  | cons e es ih =>
    obtain ⟨htracks, ls, hlines, hplaced⟩ := h.feedEvent e
    have hne : ∀ l ∈ ls, l ≠ [] := by
      intro l hl hnil
      have hmem : l.map place ∈ newLines incomplete done e := by
        rw [← hplaced]
        exact List.mem_map_of_mem hl
      exact newLines_ne_nil hmem (by rw [hnil]; rfl)
    obtain ⟨found, hfound, hagree⟩ := matchLines_spec (m.feedEvent e).1 e ls hne
    rw [htracks.conditions_eq, hplaced] at hagree
    rw [← hlines] at hfound
    rw [furtherLines, List.findSome?_append, List.findSome?_map]
    simp only [MonitorMatcher.process, hfound]
    cases found with
    | some f =>
      refine ⟨some f, (m.feedEvent e).1, rfl, ?_, by simp⟩
      cases hr : (newLines incomplete done e).findSome? (referenceLine conditions e) with
      | none => rw [hr] at hagree; exact absurd hagree (by simp [Agrees])
      | some r =>
        rw [hr] at hagree
        simpa [Function.comp_def, hr] using hagree
    | none =>
      have hnone : (newLines incomplete done e).findSome? (referenceLine conditions e) = none := by
        cases hr : (newLines incomplete done e).findSome? (referenceLine conditions e) with
        | none => rfl
        | some r => rw [hr] at hagree; exact absurd hagree (by simp [Agrees])
      obtain ⟨found, m', hrun, hagree', hkeep⟩ := ih htracks
      refine ⟨found, m', hrun, ?_, ?_⟩
      · simpa [Function.comp_def, hnone] using hagree'
      · intro hf
        simpa using hkeep hf

/-- The initial matcher tracks the empty evidence. -/
theorem tracks_new (conditions : List MonitorCondition) (incomplete : Finset LineKey) :
    Tracks conditions incomplete [] ⟨conditions, ∅, incomplete, ∅, false⟩ := by
  refine ⟨rfl, ?_, ?_⟩
  · intro k
    simp [keyStream, hasEnd]
  · intro k
    refine ⟨[], ?_, ?_⟩
    · rw [ofTail_nil]
      rfl
    · by_cases hk : k ∈ incomplete <;> simp [keyTail, eligibleStream, keyStream, hk, dropThrough]

namespace MonitorMatcher

/-- Processing two pieces one after the other is processing their concatenation. -/
theorem process_append (m : MonitorMatcher) (es fs : List MonitorEvidence) :
    m.process (es ++ fs) = (m.process es).bind fun
      | (some found, m') => .ok (some found, m')
      | (none, m') => m'.process fs := by
  induction es generalizing m with
  | nil => rfl
  | cons e es ih =>
    simp only [List.cons_append, process, bind, Except.bind]
    cases (m.feedEvent e).1.matchLines e (m.feedEvent e).2 with
    | error err => rfl
    | ok found =>
      cases found with
      | none => exact ih _
      | some f => rfl

/-- Where the `process` calls are cut does not matter. -/
theorem processAll_eq (m : MonitorMatcher) (pieces : List (List MonitorEvidence)) :
    m.processAll pieces = (m.process pieces.flatten).map Prod.fst := by
  induction pieces generalizing m with
  | nil => rfl
  | cons piece pieces ih =>
    rw [List.flatten_cons, process_append, processAll]
    simp only [bind, Except.bind]
    cases m.process piece with
    | error err => rfl
    | ok r =>
      obtain ⟨found, m'⟩ := r
      cases found with
      | none => exact ih m'
      | some f => rfl

end MonitorMatcher

/-! ## The reported coordinates -/

/-- The reference's line is a complete line of its event's key. -/
theorem mem_keyLines_of_referenceMatch {conditions : List MonitorCondition}
    {incomplete : Finset LineKey} {evidence : List MonitorEvidence} {r : ReferenceMatch}
    (h : referenceMatch conditions incomplete evidence = some r) :
    r.line.length ≤ maxUartLineBytes ∧ ∃ before after,
      r.line ≠ [] ∧ keyStream r.event.key evidence = before ++ r.line ++ after := by
  obtain ⟨⟨e, l⟩, hmem, hline⟩ := List.exists_of_findSome?_eq_some h
  simp only at hline
  split at hline
  · rename_i hsmall
    obtain ⟨⟨offset, index⟩, _, rfl⟩ := Option.map_eq_some_iff.mp hline
    refine ⟨hsmall, ?_⟩
    rw [completedLines, List.mem_flatMap] at hmem
    obtain ⟨i, _, hmem⟩ := hmem
    obtain ⟨e', he', hmem⟩ := List.mem_flatMap.mp hmem
    obtain ⟨l', hl', heq⟩ := List.mem_map.mp hmem
    cases heq
    have hle := List.mem_of_mem_drop hl'
    obtain ⟨hne, before, after, hstream⟩ :=
      keyLines_run incomplete e.key (evidence.take (i + 1)) l hle
    refine ⟨before, after ++ keyStream e.key (evidence.drop (i + 1)), hne, ?_⟩
    have hsplit : keyStream e.key evidence
        = keyStream e.key (evidence.take (i + 1)) ++ keyStream e.key (evidence.drop (i + 1)) := by
      rw [keyStream, keyStream, keyStream, ← List.flatMap_append, ← List.filter_append,
        List.take_append_drop]
    rw [hsplit, hstream, List.append_assoc]
  · cases hline

/-- The coordinates of a line resolve to its bytes. -/
theorem resolve_line {evidence : List MonitorEvidence} (hord : OrderedEvidence evidence)
    (k : LineKey) (before l after : List PlacedByte)
    (hstream : keyStream k evidence = before ++ l ++ after) (first last : PlacedByte)
    (hfirst : l.head? = some first) (hlast : l.getLast? = some last) :
    resolve evidence k first.2.1 first.2.2 last.2.1 (last.2.2 + 1) = rawBytes l := by
  have hsorted := pairwise_keyStream k evidence hord
  rw [hstream] at hsorted
  rw [resolve_eq_filter, hstream,
    filter_between_of_pairwise placeKey before l after first last hsorted hfirst hlast]

/-- The span of a literal of at most 256 bytes lies inside the excerpt. -/
theorem Reports.span_in_excerpt {conditions : List MonitorCondition} {r : ReferenceMatch}
    {found : MonitorMatch} (h : Reports conditions r found)
    (hvalid : ∀ c ∈ conditions, validateCondition c = .ok c) :
    found.excerptStartByte ≤ found.matchStartByte ∧
      found.matchEndByte ≤ found.excerptEndByte ∧ found.excerptEndByte ≤ r.line.length := by
  have hmem : found.condition ∈ conditions := List.mem_of_getElem? h.condition
  have hpattern := (length_encode_of_validateCondition (hvalid _ hmem)).2
  have hinside := Bytes.find_add_length_le h.match_found
  rw [rawBytes, List.length_map] at hinside
  rw [h.match_end, h.excerpt_end, h.excerpt_start]
  rw [h.match_start] at hinside ⊢
  unfold maxWaitPatternBytes at hpattern
  unfold maxMonitorMatchExcerptBytes
  omega

/-! ## The main theorem -/

/-- For validated conditions, any incomplete keys and ordered evidence cut into any
`process` calls, the first match is the reference's: its coordinates resolve to the raw
line, its span is the literal's first occurrence there and lies inside the excerpt, and
another cut of the same evidence gives the same result. -/
theorem processAll_reference (conditions : List MonitorCondition) (hne : conditions ≠ [])
    (hvalid : ∀ c ∈ conditions, validateCondition c = .ok c) (incomplete : Finset LineKey)
    (pieces : List (List MonitorEvidence)) (hord : OrderedEvidence pieces.flatten) :
    ∃ matcher found, MonitorMatcher.new conditions incomplete = .ok matcher ∧
      matcher.processAll pieces = .ok found ∧
      (∀ pieces', pieces'.flatten = pieces.flatten → matcher.processAll pieces' = .ok found) ∧
      Agrees conditions (referenceMatch conditions incomplete pieces.flatten) found ∧
      ∀ r m, referenceMatch conditions incomplete pieces.flatten = some r → found = some m →
        resolve pieces.flatten r.event.key m.lineStartEvidenceSeq m.lineStartEventOffset
            m.lineEndEvidenceSeq m.lineEndEventOffset = rawBytes r.line ∧
          ((rawBytes r.line).drop m.matchStartByte).take (m.matchEndByte - m.matchStartByte)
            = Utf8.encode m.condition.pattern ∧
          m.excerptStartByte ≤ m.matchStartByte ∧ m.matchEndByte ≤ m.excerptEndByte := by
  have hnew : MonitorMatcher.new conditions incomplete
      = .ok ⟨conditions, ∅, incomplete, ∅, false⟩ := by
    rw [MonitorMatcher.new, if_neg (by simpa using hne)]
  obtain ⟨found, m', hrun, hagree, _⟩ :=
    (tracks_new conditions incomplete).process pieces.flatten
  have hlines : furtherLines incomplete [] pieces.flatten
      = completedLines incomplete pieces.flatten :=
    (completedLines_append incomplete [] pieces.flatten).symm
  rw [hlines] at hagree
  have hall : ∀ pieces', pieces'.flatten = pieces.flatten →
      MonitorMatcher.processAll ⟨conditions, ∅, incomplete, ∅, false⟩ pieces' = .ok found := by
    intro pieces' hflat
    rw [MonitorMatcher.processAll_eq, hflat, hrun]
    rfl
  refine ⟨_, found, hnew, hall pieces rfl, hall, hagree, ?_⟩
  intro r m hr hm
  have hreports : Reports conditions r m := by
    subst hm
    have : Agrees conditions (referenceMatch conditions incomplete pieces.flatten) (some m) :=
      hagree
    rwa [hr] at this
  obtain ⟨_, before, after, hline, hstream⟩ := mem_keyLines_of_referenceMatch hr
  obtain ⟨first, rest, hcons⟩ := List.exists_cons_of_ne_nil hline
  have hfirst : r.line.head? = some first := by rw [hcons]; rfl
  obtain ⟨last, hlast⟩ : ∃ last, r.line.getLast? = some last :=
    ⟨_, List.getLast?_eq_some_getLast hline⟩
  obtain ⟨hs, hso⟩ := hreports.line_start first hfirst
  obtain ⟨he, heo⟩ := hreports.line_end last hlast
  obtain ⟨hstart, hend, _⟩ := hreports.span_in_excerpt hvalid
  refine ⟨?_, ?_, hstart, hend⟩
  · rw [hs, hso, he, heo]
    exact resolve_line hord r.event.key before r.line after hstream first last hfirst hlast
  · have hwidth : m.matchEndByte - m.matchStartByte
        = (Utf8.encode m.condition.pattern).length := by
      rw [hreports.match_end, hreports.match_start]
      omega
    rw [hwidth]
    exact Bytes.slice_of_find hreports.match_found

/-- Two `process` calls on an incomplete channel whose boundary line ends inside the
first event: the line `READY` is found across both. -/
theorem processAll_reference_boundary :
    ∃ matcher m,
      MonitorMatcher.new [⟨"READY", none⟩] {("s", 0, 0)} = .ok matcher ∧
      matcher.processAll [[⟨"s", 4, 0, 7, 0, [79, 75, 10, 82, 69]⟩],
        [⟨"s", 5, 0, 9, 0, [65, 68, 89, 10]⟩]] = .ok (some m) ∧
      resolve [⟨"s", 4, 0, 7, 0, [79, 75, 10, 82, 69]⟩, ⟨"s", 5, 0, 9, 0, [65, 68, 89, 10]⟩]
        ("s", 0, 0) m.lineStartEvidenceSeq m.lineStartEventOffset m.lineEndEvidenceSeq
        m.lineEndEventOffset = [82, 69, 65, 68, 89, 10] := by
  obtain ⟨matcher, found, hnew, hrun, _, hagree, hcoords⟩ :=
    processAll_reference [⟨"READY", none⟩] (by simp)
      (by intro c hc; rw [List.mem_singleton.mp hc]; rfl) {("s", 0, 0)}
      [[⟨"s", 4, 0, 7, 0, [79, 75, 10, 82, 69]⟩], [⟨"s", 5, 0, 9, 0, [65, 68, 89, 10]⟩]]
      (by simp [OrderedEvidence])
  obtain ⟨r, hr, hline, hkey⟩ : ∃ r, referenceMatch [⟨"READY", none⟩] {("s", 0, 0)}
      [⟨"s", 4, 0, 7, 0, [79, 75, 10, 82, 69]⟩, ⟨"s", 5, 0, 9, 0, [65, 68, 89, 10]⟩] = some r ∧
        rawBytes r.line = [82, 69, 65, 68, 89, 10] ∧ r.event.key = ("s", 0, 0) := by
    refine ⟨⟨⟨"s", 5, 0, 9, 0, [65, 68, 89, 10]⟩, [(82, (4, 3)), (69, (4, 4)), (65, (5, 0)),
      (68, (5, 1)), (89, (5, 2)), (10, (5, 3))], 0, 0⟩, by decide, rfl, rfl⟩
  cases found with
  | none =>
    rw [show [[⟨"s", 4, 0, 7, 0, [79, 75, 10, 82, 69]⟩],
      [⟨"s", 5, 0, 9, 0, [65, 68, 89, 10]⟩]].flatten = [⟨"s", 4, 0, 7, 0, [79, 75, 10, 82, 69]⟩,
      (⟨"s", 5, 0, 9, 0, [65, 68, 89, 10]⟩ : MonitorEvidence)] from rfl, hr] at hagree
    exact absurd hagree (by simp [Agrees])
  | some m =>
    refine ⟨matcher, m, hnew, hrun, ?_⟩
    rw [← hline, ← hkey]
    exact (hcoords r m hr rfl).1
