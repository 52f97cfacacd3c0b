/-
# The lines of a recorded stream

The lines of a session, cut at the newlines of each segment and channel, that are not oversized, in
the order of the evidence: by segment, the unterminated ones at its end, and by where they end.
-/
import DutchMate.RecentLines
import DutchMate.UartExcerpts

open PyJson SplitLines UartLineBuffer
open LogReplay hiding flushBuffer newLines

namespace DebugEvidence

/-! ## The stream -/

def reference (line : RecentLogLine) : LineReference :=
  (line.segmentId, line.channel, line.ingestionIndex, line.lineIndexInEvent)

def observeLine (facts : SessionFacts) (patterns : List LineReference) (s : UartSelector)
    (line : RecentLogLine) : UartSelector :=
  observeAt facts patterns s (reference line) line.timestampUs line.lineText line.isPartial

/-- The order of the evidence: by segment, unterminated lines last, and by where lines end. -/
def streamOrder (line : RecentLogLine) : ℕ ×ₗ (ℕ ×ₗ Coordinates) :=
  toLex (line.segmentId, toLex (if line.isPartial then 1 else 0, line.key))

/-- The lines of a session that are not oversized, in the order of the evidence. -/
def streamLines (events : List UartEvent) : List RecentLogLine :=
  Newest.sorted streamOrder (completeLines (recordsOf events) ++ partialLines (recordsOf events))

/-- A line of a buffer as a line of the stream. -/
def logLine (key : ℕ × ℕ) (timestampUs : ℕ) (isPartial : Bool) (line : UartLine) :
    RecentLogLine :=
  { segmentId := key.1
    channel := key.2
    timestampUs := timestampUs
    ingestionIndex := line.ingestionIndex.getD 0
    lineIndexInEvent := line.lineIndexInEvent.getD 0
    lineRawB64 := Base64.encode line.raw
    lineText := line.text
    isPartial := isPartial }

variable {facts : SessionFacts} {patterns : List LineReference}

theorem observe_lineOf {l : List TaggedByte} (h : l ≠ []) (s : UartSelector) (key : ℕ × ℕ)
    (timestampUs : ℕ) (isPartial : Bool) :
    observe facts patterns s (lineOf l) key.1 key.2 timestampUs isPartial
      = .ok (observeLine facts patterns s (logLine key timestampUs isPartial (lineOf l))) := by
  have hlast := List.getLast?_eq_some_getLast h
  unfold observe
  dsimp only [lineOf]
  rw [hlast]
  rfl

theorem completeLine_eq {l : List TaggedByte} {x : TaggedByte} (h : l.getLast? = some x)
    (key : ℕ × ℕ) : completeLine key l = some (logLine key x.2.timestampUs false (lineOf l)) := by
  rw [completeLine, h, logLine, lineOf, h]
  rfl

theorem partialLine_eq {records : List Record} {l : List TaggedByte} (h : l ≠ []) {key : ℕ × ℕ}
    {last : Record} (hlast : (recordsAt records key).getLast? = some last) :
    partialLine records key l = some (logLine key last.2.timestampUs true (lineOf l)) := by
  have hx := List.getLast?_eq_some_getLast h
  rw [partialLine, hlast, completeLine_eq hx]
  rfl

/-! ## Where lines end -/

theorem splitFrom_ends {α : Type} (isEnd : α → Bool) (t xs : List α) :
    (splitFrom isEnd t xs).1.filterMap List.getLast? = xs.filter isEnd := by
  induction xs generalizing t with
  | nil => rfl
  | cons x xs ih =>
    rw [splitFrom]
    by_cases hx : isEnd x = true
    · rw [if_pos hx, List.filterMap_cons_some List.getLast?_concat, ih, List.filter_cons_of_pos hx]
    · rw [if_neg hx, ih, List.filter_cons_of_neg hx]

theorem ascends_tagFrom (i ts offset line : ℕ) (bytes : List UInt8) :
    (tagFrom i ts offset line bytes).Pairwise
      fun x y => isNewline x = true → lineEnd x < lineEnd y := by
  induction bytes generalizing offset line with
  | nil => exact List.Pairwise.nil
  | cons byte bytes ih =>
    refine List.pairwise_cons.mpr ⟨fun y hy hnewline => ?_, ih _ _⟩
    have hbyte : byte = newline := eq_of_beq hnewline
    rw [if_pos hbyte] at hy
    obtain ⟨hindex, -, hline⟩ := mem_tagFrom hy
    rw [lineEnd, lineEnd, Prod.Lex.toLex_lt_toLex, hindex]
    exact .inr ⟨rfl, hline⟩

/-- The newlines of a record end its lines one after the other. -/
theorem pairwise_ends (record : Record) :
    (((bytesOf record).filter isNewline).map lineEnd).Pairwise (· < ·) := by
  rw [List.pairwise_map, List.pairwise_filter]
  exact (ascends_tagFrom _ _ _ _ _).imp fun h hx _ => h hx

/-- The lines that a record terminates, as they are observed. -/
def newRecords (done : List Record) (record : Record) : List RecentLogLine :=
  ((LogReplay.newLines done record).filter (!oversized ·)).filterMap (completeLine record.key)

theorem mem_newRecords {done : List Record} {record : Record} {line : RecentLogLine}
    (h : line ∈ newRecords done record) :
    line.segmentId = record.key.1 ∧ line.isPartial = false ∧ line.ingestionIndex = record.1 := by
  obtain ⟨l, hl, hline⟩ := List.mem_filterMap.mp h
  obtain ⟨body, x, rfl, hx⟩ := splitFrom_end_mem isNewline _ _ l (List.mem_of_mem_filter hl)
  rw [completeLine, List.getLast?_concat] at hline
  rw [← Option.some.inj hline]
  exact ⟨rfl, rfl, (mem_tagFrom hx).1⟩

theorem streamOrder_lt_of_key {line other : RecentLogLine}
    (hsegment : line.segmentId = other.segmentId) (hunended : line.isPartial = other.isPartial)
    (hkey : line.key < other.key) : streamOrder line < streamOrder other := by
  rw [streamOrder, streamOrder, Prod.Lex.toLex_lt_toLex, Prod.Lex.toLex_lt_toLex, hsegment,
    hunended]
  exact .inr ⟨rfl, .inr ⟨rfl, hkey⟩⟩

theorem pairwise_newRecords (done : List Record) (record : Record) :
    (newRecords done record).Pairwise (streamOrder · < streamOrder ·) := by
  have hplaces : ((newRecords done record).map RecentLogLine.key).Sublist
      (((bytesOf record).filter isNewline).map lineEnd) := by
    refine ((endsAt_completeLine record.key).sublist _).trans ?_
    rw [← splitFrom_ends isNewline (tailOf done record.key)]
    exact (List.filter_sublist.filterMap _).map _
  have hkeys := List.pairwise_map.mp ((pairwise_ends record).sublist hplaces)
  refine hkeys.imp_of_mem fun {line other} hline hother hkey => ?_
  obtain ⟨hsegment, hunended, -⟩ := mem_newRecords hline
  obtain ⟨hsegment', hunended', -⟩ := mem_newRecords hother
  exact streamOrder_lt_of_key (hsegment.trans hsegment'.symm) (hunended.trans hunended'.symm) hkey

/-! ## The lines observed -/

/-- A terminated line of the records. -/
def IsComplete (done : List Record) (line : RecentLogLine) : Prop :=
  ∃ key, ∃ l ∈ cutLines done key, oversized l = false ∧ completeLine key l = some line

/-- The unterminated line of a segment and channel. -/
def IsLeft (done : List Record) (key : ℕ × ℕ) (line : RecentLogLine) : Prop :=
  ∃ l ∈ tailLines done key, oversized l = false ∧ partialLine done key l = some line

/-- What lies behind every line of a record, and before every unterminated one of its segment. -/
def frontier (segment index : ℕ) : ℕ ×ₗ (ℕ ×ₗ Coordinates) :=
  toLex (segment, toLex (0, toLex (index, 0)))

/-- The lines observed when some records have been read, the segments before one being closed. -/
structure Observed (done : List Record) (segment index : ℕ) (lines : List RecentLogLine) :
    Prop where
  ascending : lines.Pairwise (streamOrder · < streamOrder ·)
  bound : ∀ line ∈ lines, streamOrder line < frontier segment index
  mem : ∀ line, line ∈ lines ↔
    IsComplete done line ∨ ∃ key : ℕ × ℕ, key.1 < segment ∧ IsLeft done key line

theorem isComplete_concat {done : List Record} {record : Record} {line : RecentLogLine} :
    IsComplete (done ++ [record]) line
      ↔ IsComplete done line ∨ line ∈ newRecords done record := by
  constructor
  · rintro ⟨key, l, hl, hlong, hline⟩
    by_cases hkey : record.key = key
    · subst hkey
      rw [cutLines_self, List.mem_append] at hl
      refine hl.imp (fun hl => ⟨_, l, hl, hlong, hline⟩) fun hl => ?_
      exact List.mem_filterMap.mpr ⟨l, List.mem_filter.mpr ⟨hl, by simp [hlong]⟩, hline⟩
    · rw [cutLines_other done hkey] at hl
      exact .inl ⟨key, l, hl, hlong, hline⟩
  · rintro (⟨key, l, hl, hlong, hline⟩ | h)
    · refine ⟨key, l, ?_, hlong, hline⟩
      by_cases hkey : record.key = key
      · subst hkey
        rw [cutLines_self]
        exact List.mem_append_left _ hl
      · rwa [cutLines_other done hkey]
    · obtain ⟨l, hl, hline⟩ := List.mem_filterMap.mp h
      obtain ⟨hmem, hlong⟩ := List.mem_filter.mp hl
      refine ⟨record.key, l, ?_, by simpa using hlong, hline⟩
      rw [cutLines_self]
      exact List.mem_append_right _ hmem

theorem isLeft_concat {done : List Record} {record : Record} {key : ℕ × ℕ} {line : RecentLogLine}
    (h : record.key ≠ key) : IsLeft (done ++ [record]) key line ↔ IsLeft done key line := by
  have hrecords : recordsAt (done ++ [record]) key = recordsAt done key := by
    rw [recordsAt, List.filter_append, List.filter_singleton, decide_eq_false h, cond_false,
      List.append_nil]
    rfl
  unfold IsLeft tailLines partialLine
  rw [tailOf_other done h, hrecords]

theorem bound_newRecords {done : List Record} {record : Record} {line : RecentLogLine}
    (h : line ∈ newRecords done record) :
    frontier record.key.1 record.1 ≤ streamOrder line ∧
      streamOrder line < frontier record.key.1 (record.1 + 1) := by
  obtain ⟨hsegment, hunended, hindex⟩ := mem_newRecords h
  have horder : streamOrder line
      = toLex (record.key.1, toLex (0, toLex (record.1, line.lineIndexInEvent))) := by
    rw [streamOrder, hsegment, hunended, RecentLogLine.key, hindex]
    rfl
  rw [horder, frontier, frontier]
  constructor
  · rw [Prod.Lex.toLex_le_toLex, Prod.Lex.toLex_le_toLex, Prod.Lex.toLex_le_toLex]
    exact .inr ⟨rfl, .inr ⟨rfl, .inr ⟨rfl, Nat.zero_le _⟩⟩⟩
  · rw [Prod.Lex.toLex_lt_toLex, Prod.Lex.toLex_lt_toLex, Prod.Lex.toLex_lt_toLex]
    exact .inr ⟨rfl, .inr ⟨rfl, .inl (Nat.lt_succ_self _)⟩⟩

theorem frontier_le {segment index index' : ℕ} (h : index ≤ index') :
    frontier segment index ≤ frontier segment index' := by
  rw [frontier, frontier, Prod.Lex.toLex_le_toLex, Prod.Lex.toLex_le_toLex, Prod.Lex.toLex_le_toLex]
  rcases h.lt_or_eq with hlt | rfl
  · exact .inr ⟨rfl, .inr ⟨rfl, .inl hlt⟩⟩
  · exact .inr ⟨rfl, .inr ⟨rfl, .inr ⟨rfl, le_rfl⟩⟩⟩

/-- Lines in order, and then others in order. -/
theorem pairwise_append_of_bound {lines more : List RecentLogLine}
    {bound : ℕ ×ₗ (ℕ ×ₗ Coordinates)} (hlines : lines.Pairwise (streamOrder · < streamOrder ·))
    (hmore : more.Pairwise (streamOrder · < streamOrder ·))
    (hbefore : ∀ line ∈ lines, streamOrder line < bound)
    (hbehind : ∀ line ∈ more, bound ≤ streamOrder line) :
    (lines ++ more).Pairwise (streamOrder · < streamOrder ·) :=
  List.pairwise_append.mpr ⟨hlines, hmore, fun line hline other hother =>
    (hbefore line hline).trans_le (hbehind other hother)⟩

/-- One more record of the open segment. -/
theorem Observed.record {done : List Record} {record : Record} {lines : List RecentLogLine}
    (h : Observed done record.key.1 record.1 lines) :
    Observed (done ++ [record]) record.key.1 (record.1 + 1) (lines ++ newRecords done record) where
  ascending := pairwise_append_of_bound h.ascending (pairwise_newRecords done record) h.bound
    fun line hline => (bound_newRecords hline).1
  bound line hline := by
    rcases List.mem_append.mp hline with hline | hline
    · exact (h.bound line hline).trans_le (frontier_le (Nat.le_succ _))
    · exact (bound_newRecords hline).2
  mem line := by
    have hleft : ∀ key : ℕ × ℕ, key.1 < record.key.1 →
        (IsLeft (done ++ [record]) key line ↔ IsLeft done key line) := fun key hkey =>
      isLeft_concat (by rintro rfl; exact absurd hkey (lt_irrefl _))
    rw [List.mem_append, h.mem, isComplete_concat, or_right_comm]
    refine or_congr_right (exists_congr fun key => and_congr_right fun hkey => ?_)
    exact (hleft key hkey).symm

/-! ## The end of a segment -/

theorem IsLeft.properties {done : List Record} {key : ℕ × ℕ} {line : RecentLogLine}
    (h : IsLeft done key line) :
    line.segmentId = key.1 ∧ line.isPartial = true ∧
      ∃ record ∈ done, record.key = key ∧ line.ingestionIndex = record.1 := by
  obtain ⟨l, hl, -, hline⟩ := h
  obtain ⟨hne, -⟩ := mem_tailLines hl
  obtain ⟨last, hlast, -⟩ := Option.bind_eq_some_iff.mp hline
  rw [partialLine_eq hne hlast] at hline
  have hx := List.getLast?_eq_some_getLast hne
  have hindex : line.ingestionIndex = (l.getLast hne).2.ingestionIndex := by
    rw [← Option.some.inj hline, logLine, lineOf, hx]
    rfl
  rw [← Option.some.inj hline]
  refine ⟨rfl, rfl, ?_⟩
  have htail : l = tailOf done key := by
    rw [tailLines] at hl
    split at hl
    · cases hl
    · exact List.mem_singleton.mp hl
  have hmem : l.getLast hne ∈ streamOf done key := by
    have hflat := splitFrom_flatten isNewline [] (streamOf done key)
    rw [List.nil_append] at hflat
    rw [← hflat]
    exact List.mem_append_right _ (htail ▸ List.getLast_mem hne)
  obtain ⟨record, hrecord, hbytes⟩ := List.mem_flatMap.mp hmem
  rw [recordsAt, List.mem_filter] at hrecord
  refine ⟨record, hrecord.1, of_decide_eq_true hrecord.2, ?_⟩
  rw [Option.some.inj hline, hindex, (mem_tagFrom hbytes).1]

/-- The unterminated lines of a segment, in the order in which they are observed. -/
structure Leaves (done : List Record) (segment : ℕ) (left : List RecentLogLine) : Prop where
  ascending : left.Pairwise (streamOrder · < streamOrder ·)
  mem : ∀ line, line ∈ left ↔ ∃ key : ℕ × ℕ, key.1 = segment ∧ IsLeft done key line

/-- A segment is closed when all its records have been read. -/
theorem Observed.close {done : List Record} {segment index : ℕ} {lines left : List RecentLogLine}
    (h : Observed done segment index lines) (hleft : Leaves done segment left)
    (hlast : ∀ record ∈ done, record.key.1 ≤ segment) {next : ℕ} (hnext : segment < next)
    (index' : ℕ) : Observed done next index' (lines ++ left) where
  ascending := by
    refine pairwise_append_of_bound h.ascending hleft.ascending h.bound fun line hline => ?_
    obtain ⟨key, hkey, hline⟩ := (hleft.mem line).mp hline
    obtain ⟨hsegment, hunended, -⟩ := hline.properties
    rw [frontier, streamOrder, hunended, hsegment, hkey, Prod.Lex.toLex_le_toLex,
      Prod.Lex.toLex_le_toLex]
    exact .inr ⟨rfl, .inl Nat.zero_lt_one⟩
  bound line hline := by
    have hsegment : line.segmentId ≤ segment := by
      rcases List.mem_append.mp hline with hline | hline
      · have hbound := h.bound line hline
        rw [frontier, streamOrder, Prod.Lex.toLex_lt_toLex] at hbound
        exact hbound.elim le_of_lt fun heq => heq.1.le
      · obtain ⟨key, hkey, hline⟩ := (hleft.mem line).mp hline
        exact (hline.properties.1.trans hkey).le
    rw [frontier, streamOrder, Prod.Lex.toLex_lt_toLex]
    exact .inl (hsegment.trans_lt hnext)
  mem line := by
    rw [List.mem_append, h.mem, hleft.mem, or_assoc]
    refine or_congr_right ⟨?_, ?_⟩
    · rintro (⟨key, hkey, hline⟩ | ⟨key, hkey, hline⟩)
      · exact ⟨key, hkey.trans hnext, hline⟩
      · exact ⟨key, hkey ▸ hnext, hline⟩
    · rintro ⟨key, -, hline⟩
      obtain ⟨-, -, record, hrecord, hkey, -⟩ := hline.properties
      rcases (hkey ▸ hlast record hrecord).lt_or_eq with hlt | heq
      · exact .inl ⟨key, hlt, hline⟩
      · exact .inr ⟨key, heq, hline⟩

/-! ## The whole stream -/

theorem mem_completeLines {records : List Record} {line : RecentLogLine} :
    line ∈ completeLines records ↔ IsComplete records line := by
  rw [completeLines, List.mem_flatMap]
  constructor
  · rintro ⟨key, -, hline⟩
    rw [filter_linesOf] at hline
    obtain ⟨l, hl, hline⟩ := List.mem_filterMap.mp hline
    obtain ⟨hmem, hlong⟩ := List.mem_filter.mp hl
    exact ⟨key, l, hmem, by simpa using hlong, hline⟩
  · rintro ⟨key, l, hl, hlong, hline⟩
    refine ⟨key, ?_, ?_⟩
    · rw [keysOf, List.mem_dedup]
      by_contra hkey
      have hnil : cutLines records key = [] := by
        have hrecords : recordsAt records key = [] := by
          rw [recordsAt, List.filter_eq_nil_iff]
          intro record hrecord heq
          exact hkey (List.mem_map.mpr ⟨record, hrecord, of_decide_eq_true heq⟩)
        rw [cutLines, streamOf, hrecords]
        rfl
      rw [hnil] at hl
      cases hl
    · rw [filter_linesOf]
      exact List.mem_filterMap.mpr ⟨l, List.mem_filter.mpr ⟨hl, by simp [hlong]⟩, hline⟩

theorem mem_partialLines {records : List Record} {line : RecentLogLine} :
    line ∈ partialLines records ↔ ∃ key, IsLeft records key line := by
  rw [partialLines, List.mem_flatMap]
  constructor
  · rintro ⟨key, -, hline⟩
    rw [filter_linesOf_tail] at hline
    obtain ⟨l, hl, hline⟩ := List.mem_filterMap.mp hline
    obtain ⟨hmem, hlong⟩ := List.mem_filter.mp hl
    exact ⟨key, l, hmem, by simpa using hlong, hline⟩
  · rintro ⟨key, hleft⟩
    obtain ⟨-, -, record, hrecord, hkey, -⟩ := hleft.properties
    obtain ⟨l, hl, hlong, hline⟩ := hleft
    refine ⟨key, ?_, ?_⟩
    · rw [keysOf, List.mem_dedup]
      exact List.mem_map.mpr ⟨record, hrecord, hkey⟩
    · rw [filter_linesOf_tail]
      exact List.mem_filterMap.mpr ⟨l, List.mem_filter.mpr ⟨hl, by simp [hlong]⟩, hline⟩

/-- A line of a segment and channel, terminated or not. -/
def describeLine (records : List Record) (key : ℕ × ℕ) (l : List TaggedByte) :
    Option RecentLogLine :=
  if endsLine l then completeLine key l else partialLine records key l

theorem endsAt_describeLine (records : List Record) (key : ℕ × ℕ) :
    EndsAt RecentLogLine.key (describeLine records key) := by
  intro l r h
  unfold describeLine at h
  split at h
  · exact endsAt_completeLine key l r h
  · exact endsAt_partialLine records key l r h

theorem stream_perm (records : List Record) :
    (completeLines records ++ partialLines records).Perm
      ((keysOf records).flatMap fun key =>
        ((linesOf records key).filter (!oversized ·)).filterMap (describeLine records key)) := by
  refine (List.flatMap_append_perm (keysOf records) _ _).trans (List.Perm.of_eq ?_)
  refine List.flatMap_congr fun key _ => ?_
  rw [filter_linesOf, filter_linesOf_tail, linesOf_eq, List.filter_append, List.filterMap_append]
  have hcut : ((cutLines records key).filter (!oversized ·)).filterMap (completeLine key)
      = ((cutLines records key).filter (!oversized ·)).filterMap (describeLine records key) := by
    refine List.filterMap_congr fun l hl => ?_
    have hends := endsLine_of_terminated
      (splitFrom_terminated isNewline [] (streamOf records key) nofun) l (List.mem_of_mem_filter hl)
    exact (if_pos hends).symm
  have htail : ((tailLines records key).filter (!oversized ·)).filterMap (partialLine records key)
      = ((tailLines records key).filter (!oversized ·)).filterMap (describeLine records key) := by
    refine List.filterMap_congr fun l hl => ?_
    have hopen := (mem_tailLines (List.mem_of_mem_filter hl)).2
    exact (if_neg (by rw [hopen]; exact Bool.false_ne_true)).symm
  rw [hcut, htail]

/-- No two lines of a stream end at one place. -/
theorem nodup_stream {records : List Record} (h : (records.map Prod.fst).Nodup) :
    ((completeLines records ++ partialLines records).map RecentLogLine.key).Nodup :=
  ((stream_perm records).map _).nodup_iff.mpr
    (nodup_places h (List.nodup_dedup _) (endsAt_describeLine records) _)

/-- The lines observed of a whole artifact. -/
theorem streamLines_eq {events : List UartEvent} {lines : List RecentLogLine}
    (h : ((recordsOf events).map Prod.fst).Nodup)
    (hsorted : lines.Pairwise (streamOrder · < streamOrder ·))
    (hmem : ∀ line, line ∈ lines ↔
      IsComplete (recordsOf events) line ∨ ∃ key, IsLeft (recordsOf events) key line) :
    streamLines events = lines := by
  have hnodup : lines.Nodup := hsorted.imp fun hlt heq => absurd (heq ▸ hlt) (lt_irrefl _)
  have hperm : lines.Perm
      (completeLines (recordsOf events) ++ partialLines (recordsOf events)) := by
    refine (List.perm_ext_iff_of_nodup hnodup (nodup_stream h).of_map).mpr fun line => ?_
    rw [hmem, List.mem_append, mem_completeLines, mem_partialLines]
  refine Newest.sorted_eq ?_ hperm (hsorted.imp le_of_lt)
  refine (hperm.map streamOrder).nodup_iff.mp ?_
  exact List.pairwise_map.mpr (hsorted.imp ne_of_lt)

/-- A line is referred to by where it ends. -/
theorem nodup_reference {events : List UartEvent}
    (h : ((recordsOf events).map Prod.fst).Nodup) :
    ((streamLines events).map reference).Nodup := by
  refine List.Nodup.of_map (fun key => (toLex (key.2.2.1, key.2.2.2) : Coordinates)) ?_
  rw [List.map_map]
  exact (((Newest.sorted_perm _).map RecentLogLine.key).nodup_iff).mpr
    (nodup_stream h)

end DebugEvidence
