/-
# Reading a recorded stream

The reading loop of the selector observes the lines of the stream, all of them, each once, in the
order of the evidence.
-/
import DutchMate.StreamLines

open PyJson SplitLines UartLineBuffer
open LogReplay hiding flushBuffer newLines

namespace DebugEvidence

variable {facts : SessionFacts} {patterns : List LineReference}

/-! ## The flush -/

def lastTimestamp (done : List Record) (key : ℕ × ℕ) : Option ℕ :=
  (recordsAt done key).getLast?.map (·.2.timestampUs)

/-- What a buffer leaves. -/
def pendingOf (done : List Record) (key : ℕ × ℕ) : List PendingLine :=
  ((tailLines done key).filter (!oversized ·)).map fun l =>
    ⟨(lineOf l).ingestionIndex.getD 0, key.2, lineOf l, (lastTimestamp done key).getD 0⟩

theorem pendingLines_eq {ls : List (List TaggedByte)} (h : ∀ l ∈ ls, l ≠ [])
    (channel timestampUs : ℕ) :
    pendingLines channel timestampUs (ls.map lineOf)
      = .ok (ls.map fun l =>
          ⟨(lineOf l).ingestionIndex.getD 0, channel, lineOf l, timestampUs⟩) := by
  induction ls with
  | nil => rfl
  | cons l ls ih =>
    have hl : (lineOf l).ingestionIndex = some ((lineOf l).ingestionIndex.getD 0) := by
      have hlast := List.getLast?_eq_some_getLast (h l List.mem_cons_self)
      dsimp only [lineOf]
      rw [hlast]
      rfl
    have hrest := ih fun l hl => h l (List.mem_cons_of_mem _ hl)
    unfold pendingLines at hrest ⊢
    rw [List.map_cons, List.mapM_cons, hrest, hl]
    rfl

/-- What the flush of some keys leaves of a reading. -/
structure FlushedBy (keys : List (ℕ × ℕ)) (reading reading' : UartReading) : Prop where
  selector : ∃ n, reading'.selector = { reading.selector with oversizedCount := n }
  segment : reading'.currentSegment = reading.currentSegment
  buffers : ∀ key, reading'.buffers.get? key
    = if key ∈ keys then none else reading.buffers.get? key
  timestamps : ∀ key, reading'.timestamps.get? key
    = if key ∈ keys then none else reading.timestamps.get? key

theorem flushBuffer_eq {done : List Record} {reading : UartReading} {key : ℕ × ℕ} {timestampUs : ℕ}
    (hbuffer : reading.buffers.get? key = some (ofTail (tailOf done key)))
    (htimestamp : reading.timestamps.get? key = some timestampUs)
    (hlast : lastTimestamp done key = some timestampUs) (pending : List PendingLine) :
    ∃ reading', flushBuffer key.1 (reading, pending) key
        = .ok (reading', pending ++ pendingOf done key) ∧
      FlushedBy [key] reading reading' := by
  obtain ⟨hlines, -⟩ := flushResult_lines done key
  have hne : ∀ l ∈ (tailLines done key).filter (!oversized ·), l ≠ [] := fun l hl =>
    (mem_tailLines (List.mem_of_mem_filter hl)).1
  unfold flushBuffer
  dsimp only
  rw [if_neg (not_not.mpr rfl), hbuffer, htimestamp]
  dsimp only
  rw [hlines, pendingLines_eq hne]
  refine ⟨_, congrArg _ (congrArg _ (congrArg _ ?_)), ⟨_, rfl⟩, rfl, fun other => ?_,
    fun other => ?_⟩
  · rw [pendingOf, hlast]
    rfl
  · dsimp only
    rw [Dict.get?_erase]
    simp only [List.mem_singleton]
  · dsimp only
    rw [Dict.get?_erase]
    simp only [List.mem_singleton]

theorem ite_mem_cons {α : Type} (key : ℕ × ℕ) (keys : List (ℕ × ℕ)) (other : ℕ × ℕ)
    (x : Option α) :
    (if other ∈ keys then none else if other ∈ [key] then none else x)
      = if other ∈ key :: keys then none else x := by
  by_cases hkeys : other ∈ keys
  · rw [if_pos hkeys, if_pos (List.mem_cons_of_mem _ hkeys)]
  · rw [if_neg hkeys]
    exact if_congr (by simp [hkeys]) rfl rfl

theorem flushBuffers_eq {done : List Record} {segment : ℕ} {keys : List (ℕ × ℕ)}
    (hnodup : keys.Nodup) {reading : UartReading}
    (h : ∀ key ∈ keys, key.1 = segment ∧
      reading.buffers.get? key = some (ofTail (tailOf done key)) ∧
      ∃ timestampUs, reading.timestamps.get? key = some timestampUs ∧
        lastTimestamp done key = some timestampUs)
    (pending : List PendingLine) :
    ∃ reading', keys.foldlM (flushBuffer segment) (reading, pending)
        = .ok (reading', pending ++ keys.flatMap (pendingOf done)) ∧
      FlushedBy keys reading reading' := by
  induction keys generalizing reading pending with
  | nil =>
    exact ⟨reading, by rw [List.flatMap_nil, List.append_nil]; rfl, ⟨_, rfl⟩, rfl,
      fun _ => rfl, fun _ => rfl⟩
  | cons key keys ih =>
    rw [List.nodup_cons] at hnodup
    obtain ⟨rfl, hbuffer, timestampUs, htimestamp, hlast⟩ := h key List.mem_cons_self
    obtain ⟨first, hfirst, hflushed⟩ := flushBuffer_eq hbuffer htimestamp hlast pending
    have hother : ∀ other ∈ keys, other ∉ [key] := fun other hmem heq =>
      hnodup.1 (List.mem_singleton.mp heq ▸ hmem)
    obtain ⟨last, hrest, hflushed'⟩ := ih hnodup.2 (fun other hmem => by
      obtain ⟨hsegment, hbuffer, timestampUs, htimestamp, hlast⟩ :=
        h other (List.mem_cons_of_mem _ hmem)
      refine ⟨hsegment, ?_, timestampUs, ?_, hlast⟩
      · rw [hflushed.buffers, if_neg (hother other hmem), hbuffer]
      · rw [hflushed.timestamps, if_neg (hother other hmem), htimestamp])
      (pending ++ pendingOf done key)
    refine ⟨last, ?_, ?_, hflushed'.segment.trans hflushed.segment, fun other => ?_,
      fun other => ?_⟩
    · rw [List.foldlM_cons, hfirst, List.flatMap_cons, ← List.append_assoc]
      exact hrest
    · obtain ⟨n, hn⟩ := hflushed.selector
      obtain ⟨n', hn'⟩ := hflushed'.selector
      exact ⟨n', by rw [hn', hn]⟩
    · rw [hflushed'.buffers, hflushed.buffers, ite_mem_cons]
    · rw [hflushed'.timestamps, hflushed.timestamps, ite_mem_cons]

/-- A line left in a buffer as a line of the stream. -/
def PendingLine.left (segment : ℕ) (pending : PendingLine) : RecentLogLine :=
  logLine (segment, pending.channel) pending.timestampUs true pending.line

theorem mem_pendingOf {done : List Record} {key : ℕ × ℕ} {pending : PendingLine}
    (h : pending ∈ pendingOf done key) :
    IsLeft done key (pending.left key.1) ∧ pending.channel = key.2 ∧
      (pending.left key.1).ingestionIndex = pending.ingestionIndex ∧
      ∃ l, l ≠ [] ∧ pending.line = lineOf l := by
  obtain ⟨l, hl, rfl⟩ := List.mem_map.mp h
  obtain ⟨hmem, hlong⟩ := List.mem_filter.mp hl
  obtain ⟨hne, -⟩ := mem_tailLines hmem
  refine ⟨⟨l, hmem, by simpa using hlong, ?_⟩, rfl, rfl, l, hne, rfl⟩
  have hrecords : recordsAt done key ≠ [] := by
    intro hnil
    have htail : tailOf done key = [] := by
      rw [tailOf, streamOf, hnil]
      rfl
    rw [tailLines, if_pos htail] at hmem
    cases hmem
  have hlast := List.getLast?_eq_some_getLast hrecords
  rw [partialLine_eq hne hlast, lastTimestamp, hlast]
  rfl

theorem exists_pendingOf {done : List Record} {key : ℕ × ℕ} {line : RecentLogLine}
    (h : IsLeft done key line) : ∃ pending ∈ pendingOf done key, pending.left key.1 = line := by
  obtain ⟨l, hl, hlong, hline⟩ := h
  obtain ⟨hne, -⟩ := mem_tailLines hl
  obtain ⟨last, hlast, -⟩ := Option.bind_eq_some_iff.mp hline
  rw [partialLine_eq hne hlast] at hline
  refine ⟨_, List.mem_map_of_mem (List.mem_filter.mpr ⟨hl, by simp [hlong]⟩), ?_⟩
  rw [← Option.some.inj hline, lastTimestamp, hlast]
  rfl

/-- The buffers of a segment: those of its channels with records. -/
def SegmentKeys (done : List Record) (segment : ℕ) (keys : List (ℕ × ℕ)) : Prop :=
  keys.Nodup ∧ ∀ key, key ∈ keys ↔ key.1 = segment ∧ key ∈ done.map Record.key

theorem nodup_pending {done : List Record} (hindices : (done.map Prod.fst).Nodup)
    {keys : List (ℕ × ℕ)} (hkeys : keys.Nodup) :
    ((keys.flatMap (pendingOf done)).map PendingLine.ingestionIndex).Nodup := by
  rw [List.map_flatMap, List.nodup_flatMap]
  constructor
  · intro key _
    rw [pendingOf, tailLines, List.map_map]
    split
    · exact List.nodup_nil
    · rw [List.filter_singleton]
      cases oversized (tailOf done key) with
      | true => exact List.nodup_nil
      | false => exact List.nodup_singleton _
  · refine hkeys.imp fun {key other} hne index hindex hindex' => ?_
    obtain ⟨pending, hpending, rfl⟩ := List.mem_map.mp hindex
    obtain ⟨pending', hpending', heq⟩ := List.mem_map.mp hindex'
    obtain ⟨hleft, -, hsame, -⟩ := mem_pendingOf hpending
    obtain ⟨hleft', -, hsame', -⟩ := mem_pendingOf hpending'
    obtain ⟨-, -, record, hrecord, hkey, hrecordIndex⟩ := hleft.properties
    obtain ⟨-, -, record', hrecord', hkey', hrecordIndex'⟩ := hleft'.properties
    have hindexes : record.1 = record'.1 := by
      rw [← hrecordIndex, ← hrecordIndex', hsame, hsame', heq]
    have hrecords : record = record' :=
      List.inj_on_of_nodup_map hindices hrecord hrecord' hindexes
    exact hne (hkey.symm.trans (hrecords ▸ hkey'))

/-- Sorted by their ingestion index and channel, the lines left are in the order of the stream. -/
theorem leaves_sorted {done : List Record} (hindices : (done.map Prod.fst).Nodup) {segment : ℕ}
    {keys : List (ℕ × ℕ)} (hkeys : SegmentKeys done segment keys) :
    Leaves done segment (((keys.flatMap (pendingOf done)).insertionSort (·.order ≤ ·.order)).map
      (PendingLine.left segment)) where
  ascending := by
    rw [List.pairwise_map]
    have hperm := List.perm_insertionSort (·.order ≤ ·.order) (keys.flatMap (pendingOf done))
    have horder : ((keys.flatMap (pendingOf done)).insertionSort (·.order ≤ ·.order)).Pairwise
        (PendingLine.order · ≤ PendingLine.order ·) :=
      Newest.pairwise_sorted _
    have hdistinct := List.pairwise_map.mp
      ((hperm.map PendingLine.ingestionIndex).nodup_iff.mpr (nodup_pending hindices hkeys.1))
    refine (horder.and hdistinct).imp_of_mem fun {pending other} hpending hother h => ?_
    obtain ⟨key, hkey, hmem⟩ := List.mem_flatMap.mp (hperm.mem_iff.mp hpending)
    obtain ⟨key', hkey', hmem'⟩ := List.mem_flatMap.mp (hperm.mem_iff.mp hother)
    obtain ⟨rfl, -⟩ := (hkeys.2 key).mp hkey
    have hsegment := ((hkeys.2 key').mp hkey').1
    obtain ⟨-, -, hindex, -⟩ := mem_pendingOf hmem
    obtain ⟨-, -, hindex', -⟩ := mem_pendingOf hmem'
    rw [hsegment] at hindex'
    have hlt : pending.ingestionIndex < other.ingestionIndex := by
      have hle := h.1
      rw [PendingLine.order, PendingLine.order, Prod.Lex.toLex_le_toLex] at hle
      exact hle.elim id fun heq => absurd heq.1 h.2
    refine streamOrder_lt_of_key rfl rfl ?_
    rw [RecentLogLine.key, RecentLogLine.key, Prod.Lex.toLex_lt_toLex]
    exact .inl (by rw [hindex, hindex']; exact hlt)
  mem line := by
    have hperm := List.perm_insertionSort (·.order ≤ ·.order) (keys.flatMap (pendingOf done))
    rw [(hperm.map _).mem_iff, List.mem_map]
    constructor
    · rintro ⟨pending, hpending, rfl⟩
      obtain ⟨key, hkey, hmem⟩ := List.mem_flatMap.mp hpending
      obtain ⟨rfl, -⟩ := (hkeys.2 key).mp hkey
      exact ⟨key, rfl, (mem_pendingOf hmem).1⟩
    · rintro ⟨key, rfl, hline⟩
      obtain ⟨pending, hpending, hleft⟩ := exists_pendingOf hline
      obtain ⟨-, -, record, hrecord, hkey, -⟩ := hline.properties
      have hmem : key ∈ keys :=
        (hkeys.2 key).mpr ⟨rfl, List.mem_map.mpr ⟨record, hrecord, hkey⟩⟩
      exact ⟨pending, List.mem_flatMap.mpr ⟨key, hmem, hpending⟩, hleft⟩

/-! ## Observing -/

/-- The selector when some lines have been observed, up to the count of oversized ones. -/
def Selects (facts : SessionFacts) (patterns : List LineReference) (lines : List RecentLogLine)
    (s : UartSelector) : Prop :=
  ∃ n, s = { lines.foldl (observeLine facts patterns) {} with oversizedCount := n }

theorem observeLine_oversized (s : UartSelector) (n : ℕ) (line : RecentLogLine) :
    observeLine facts patterns { s with oversizedCount := n } line
      = { observeLine facts patterns s line with oversizedCount := n } := by
  unfold observeLine observeAt
  dsimp only
  split
  · rfl
  · split
    · rfl
    · rfl

theorem foldl_observeLine_oversized (s : UartSelector) (n : ℕ) (lines : List RecentLogLine) :
    lines.foldl (observeLine facts patterns) { s with oversizedCount := n }
      = { lines.foldl (observeLine facts patterns) s with oversizedCount := n } := by
  induction lines generalizing s with
  | nil => rfl
  | cons line lines ih => rw [List.foldl_cons, observeLine_oversized, ih, List.foldl_cons]

theorem Selects.observe {lines : List RecentLogLine} {s : UartSelector}
    (h : Selects facts patterns lines s) (more : List RecentLogLine) (n : ℕ) :
    Selects facts patterns (lines ++ more)
      (more.foldl (observeLine facts patterns) { s with oversizedCount := n }) := by
  obtain ⟨m, rfl⟩ := h
  refine ⟨n, ?_⟩
  rw [List.foldl_append]
  exact foldl_observeLine_oversized (lines.foldl (observeLine facts patterns) {}) n more

theorem observe_complete (key : ℕ × ℕ) {timestampUs : ℕ} {ls : List (List TaggedByte)}
    (h : ∀ l ∈ ls, ∃ x, l.getLast? = some x ∧ x.2.timestampUs = timestampUs) (s : UartSelector) :
    (ls.map lineOf).foldlM
        (fun s line => observe facts patterns s line key.1 key.2 timestampUs false) s
      = .ok ((ls.filterMap (completeLine key)).foldl (observeLine facts patterns) s) := by
  induction ls generalizing s with
  | nil => rfl
  | cons l ls ih =>
    obtain ⟨x, hx, rfl⟩ := h l List.mem_cons_self
    have hne : l ≠ [] := by
      rintro rfl
      cases hx
    rw [List.map_cons, List.foldlM_cons, observe_lineOf hne,
      List.filterMap_cons_some (completeLine_eq hx key), List.foldl_cons]
    exact ih (fun l hl => h l (List.mem_cons_of_mem _ hl)) _

theorem observe_pending {segment : ℕ} {pending : List PendingLine}
    (h : ∀ p ∈ pending, ∃ l, l ≠ [] ∧ p.line = lineOf l) (s : UartSelector) :
    pending.foldlM
        (fun s p => observe facts patterns s p.line segment p.channel p.timestampUs true) s
      = .ok ((pending.map (PendingLine.left segment)).foldl (observeLine facts patterns) s) := by
  induction pending generalizing s with
  | nil => rfl
  | cons p pending ih =>
    obtain ⟨l, hne, hline⟩ := h p List.mem_cons_self
    have hfirst : observe facts patterns s p.line segment p.channel p.timestampUs true
        = .ok (observeLine facts patterns s (p.left segment)) := by
      rw [PendingLine.left, hline]
      exact observe_lineOf hne s (segment, p.channel) p.timestampUs true
    rw [List.foldlM_cons, hfirst, List.map_cons, List.foldl_cons]
    exact ih (fun p hp => h p (List.mem_cons_of_mem _ hp)) _

/-! ## The loop -/

/-- What has been read when a segment is open, and the next record has a given index. -/
structure Open (facts : SessionFacts) (patterns : List LineReference) (done : List Record)
    (segment index : ℕ) (reading : UartReading) (lines : List RecentLogLine) : Prop where
  selector : Selects facts patterns lines reading.selector
  current : reading.currentSegment = some segment
  keys : SegmentKeys done segment reading.buffers.keys
  buffer : ∀ key ∈ reading.buffers.keys,
    reading.buffers.get? key = some (ofTail (tailOf done key))
  timestamp : ∀ key ∈ reading.buffers.keys, ∃ timestampUs,
    reading.timestamps.get? key = some timestampUs ∧ lastTimestamp done key = some timestampUs
  last : ∀ record ∈ done, record.key.1 ≤ segment
  indices : (done.map Prod.fst).Nodup
  below : ∀ record ∈ done, record.1 < index
  observed : Observed done segment index lines

/-- What has been read of some records. -/
inductive Reads (facts : SessionFacts) (patterns : List LineReference) :
    List Record → ℕ → UartReading → List RecentLogLine → Prop where
  | fresh (index : ℕ) : Reads facts patterns [] index {} []
  | opened {done : List Record} {segment index : ℕ} {reading : UartReading}
      {lines : List RecentLogLine} (h : Open facts patterns done segment index reading lines) :
      Reads facts patterns done index reading lines

section

variable {done : List Record} {segment index : ℕ} {reading : UartReading}
  {lines : List RecentLogLine}

theorem Open.flush (h : Open facts patterns done segment index reading lines) :
    ∃ reading' left, flushSegment facts patterns segment reading = .ok reading' ∧
      Leaves done segment left ∧ Selects facts patterns (lines ++ left) reading'.selector ∧
      ∀ key, reading'.buffers.get? key = none := by
  obtain ⟨flushed, hflush, hflushed⟩ := flushBuffers_eq h.keys.1
    (fun key hkey => ⟨((h.keys.2 key).mp hkey).1, h.buffer key hkey, h.timestamp key hkey⟩) []
  obtain ⟨n, hn⟩ := hflushed.selector
  rw [List.nil_append] at hflush
  have hpending : ∀ p ∈ (reading.buffers.keys.flatMap (pendingOf done)).insertionSort
      (·.order ≤ ·.order), ∃ l, l ≠ [] ∧ p.line = lineOf l := by
    intro p hp
    obtain ⟨key, -, hmem⟩ :=
      List.mem_flatMap.mp ((List.perm_insertionSort _ _).mem_iff.mp hp)
    exact (mem_pendingOf hmem).2.2.2
  have hsegment : flushSegment facts patterns segment reading
      = .ok { flushed with
          selector := (((reading.buffers.keys.flatMap (pendingOf done)).insertionSort
            (·.order ≤ ·.order)).map (PendingLine.left segment)).foldl
              (observeLine facts patterns) flushed.selector } := by
    unfold flushSegment
    rw [hflush]
    dsimp only [bind, Except.bind]
    rw [observe_pending hpending]
  refine ⟨_, _, hsegment, leaves_sorted h.indices h.keys, ?_, fun key => ?_⟩
  · dsimp only
    rw [hn]
    exact h.selector.observe _ n
  · dsimp only
    rw [hflushed.buffers]
    by_cases hkey : key ∈ reading.buffers.keys
    · rw [if_pos hkey]
    · rw [if_neg hkey]
      exact (Dict.get?_eq_none_iff _ _).mpr hkey

theorem observed_nil (segment index : ℕ) : Observed [] segment index [] where
  ascending := .nil
  bound := nofun
  mem line := by
    refine iff_of_false nofun ?_
    rintro (⟨key, l, hl, -⟩ | ⟨key, -, hline⟩)
    · cases hl
    · obtain ⟨-, -, record, hrecord, -⟩ := hline.properties
      cases hrecord

theorem open_nil (segment index : ℕ) :
    Open facts patterns [] segment index { currentSegment := some segment } [] where
  selector := ⟨0, rfl⟩
  current := rfl
  keys := ⟨.nil, fun _ => iff_of_false nofun fun h => nomatch h.2⟩
  buffer := nofun
  timestamp := nofun
  last := nofun
  indices := .nil
  below := nofun
  observed := observed_nil segment index

/-- A reading whose buffers have been flushed. -/
theorem Open.next {reading' : UartReading} {left : List RecentLogLine} {next : ℕ}
    (h : Open facts patterns done segment index reading lines) (hnext : segment < next)
    (hleft : Leaves done segment left)
    (hselector : Selects facts patterns (lines ++ left) reading'.selector)
    (hbuffers : ∀ key, reading'.buffers.get? key = none) :
    Open facts patterns done next index { reading' with currentSegment := some next }
      (lines ++ left) where
  selector := hselector
  current := rfl
  keys := by
    refine ⟨reading'.buffers.nodup_keys, fun key => iff_of_false ?_ fun hkey => ?_⟩
    · exact (Dict.get?_eq_none_iff _ _).mp (hbuffers key)
    · obtain ⟨record, hrecord, heq⟩ := List.mem_map.mp hkey.2
      have hle := h.last record hrecord
      rw [heq, hkey.1] at hle
      exact absurd hnext (not_lt.mpr hle)
  buffer key hkey := absurd hkey ((Dict.get?_eq_none_iff _ _).mp (hbuffers key))
  timestamp key hkey := absurd hkey ((Dict.get?_eq_none_iff _ _).mp (hbuffers key))
  last record hrecord := (h.last record hrecord).trans hnext.le
  indices := h.indices
  below := h.below
  observed := h.observed.close hleft h.last hnext index

theorem Reads.enter {segmentId : ℕ} {reading' : UartReading}
    (h : Reads facts patterns done index reading lines)
    (henter : enterSegment facts patterns segmentId reading = .ok reading') :
    ∃ lines', Open facts patterns done segmentId index reading' lines' := by
  unfold enterSegment at henter
  cases h with
  | fresh =>
    rw [← Except.ok.inj henter]
    exact ⟨[], open_nil segmentId index⟩
  | @opened _ segment _ _ _ hopen =>
    rw [hopen.current] at henter
    dsimp only at henter
    by_cases hsame : segmentId = segment
    · rw [if_pos hsame] at henter
      rw [← Except.ok.inj henter, hsame]
      exact ⟨lines, { hopen with current := rfl }⟩
    · rw [if_neg hsame] at henter
      by_cases hlt : segmentId < segment
      · rw [if_pos hlt] at henter
        cases henter
      · rw [if_neg hlt] at henter
        obtain ⟨flushed, left, hflush, hleft, hselector, hbuffers⟩ := hopen.flush
        rw [hflush] at henter
        rw [← Except.ok.inj henter]
        exact ⟨lines ++ left, hopen.next (lt_of_le_of_ne (not_lt.mp hlt) (Ne.symm hsame)) hleft
          hselector hbuffers⟩

theorem tailOf_of_not_mem {key : ℕ × ℕ} (h : key ∉ done.map Record.key) : tailOf done key = [] := by
  have hrecords : recordsAt done key = [] := by
    rw [recordsAt, List.filter_eq_nil_iff]
    intro record hrecord heq
    exact h (List.mem_map.mpr ⟨record, hrecord, of_decide_eq_true heq⟩)
  rw [tailOf, streamOf, hrecords]
  rfl

theorem Open.getD (h : Open facts patterns done segment index reading lines) {key : ℕ × ℕ}
    (hkey : key.1 = segment) : reading.buffers.getD key {} = ofTail (tailOf done key) := by
  unfold Dict.getD
  by_cases hmem : key ∈ reading.buffers.keys
  · rw [h.buffer key hmem]
    rfl
  · have hnew : key ∉ done.map Record.key := fun hdone => hmem ((h.keys.2 key).mpr ⟨hkey, hdone⟩)
    rw [(Dict.get?_eq_none_iff _ _).mpr hmem, tailOf_of_not_mem hnew]
    exact ofTail_nil.symm

theorem lastTimestamp_self (record : Record) :
    lastTimestamp (done ++ [record]) record.key = some record.2.timestampUs := by
  rw [lastTimestamp, recordsAt, List.filter_append, List.filter_singleton, decide_eq_true rfl,
    cond_true, List.getLast?_concat]
  rfl

theorem lastTimestamp_other {record : Record} {key : ℕ × ℕ} (h : record.key ≠ key) :
    lastTimestamp (done ++ [record]) key = lastTimestamp done key := by
  rw [lastTimestamp, recordsAt, List.filter_append, List.filter_singleton, decide_eq_false h,
    cond_false, List.append_nil]
  rfl

theorem SegmentKeys.set {α : Type} {buffers : Dict (ℕ × ℕ) α}
    (h : SegmentKeys done segment buffers.keys) {record : Record}
    (hsegment : record.key.1 = segment) (buffer : α) : SegmentKeys (done ++ [record]) segment (buffers.set record.key buffer).keys := by
  refine ⟨Dict.nodup_keys _, fun key => ?_⟩
  rw [List.map_append, List.mem_append, List.map_singleton, List.mem_singleton, Dict.mem_keys_iff,
    Dict.get?_set]
  by_cases hkey : key = record.key
  · rw [if_pos hkey]
    exact iff_of_true ⟨_, rfl⟩ ⟨hkey ▸ hsegment, .inr hkey⟩
  · rw [if_neg hkey, ← Dict.mem_keys_iff, h.2]
    exact and_congr_right fun _ => ⟨.inl, fun hor => hor.resolve_right hkey⟩

/-- One more record of the open segment is read. -/
theorem Open.record (h : Open facts patterns done segment index reading lines) (record : Record)
    (hsegment : record.key.1 = segment) (hindex : record.1 = index) {selector : UartSelector}
    (hselector : Selects facts patterns (lines ++ newRecords done record) selector) :
    Open facts patterns (done ++ [record]) segment (index + 1)
      { reading with
        buffers := reading.buffers.set record.key (ofTail (tailOf (done ++ [record]) record.key))
        timestamps := reading.timestamps.set record.key record.2.timestampUs
        selector }
      (lines ++ newRecords done record) where
  selector := hselector
  current := h.current
  keys := h.keys.set hsegment _
  buffer key hkey := by
    obtain ⟨buffer, hbuffer⟩ := (Dict.mem_keys_iff _ _).mp hkey
    dsimp only at hbuffer ⊢
    rw [Dict.get?_set] at hbuffer ⊢
    by_cases heq : key = record.key
    · rw [if_pos heq, heq]
    · rw [if_neg heq] at hbuffer ⊢
      rw [tailOf_other done (Ne.symm heq)]
      exact h.buffer key ((Dict.mem_keys_iff _ _).mpr ⟨buffer, hbuffer⟩)
  timestamp key hkey := by
    obtain ⟨buffer, hbuffer⟩ := (Dict.mem_keys_iff _ _).mp hkey
    dsimp only at hbuffer ⊢
    rw [Dict.get?_set] at hbuffer ⊢
    by_cases heq : key = record.key
    · rw [if_pos heq, heq]
      exact ⟨_, rfl, lastTimestamp_self record⟩
    · rw [if_neg heq] at hbuffer ⊢
      rw [lastTimestamp_other (Ne.symm heq)]
      exact h.timestamp key ((Dict.mem_keys_iff _ _).mpr ⟨buffer, hbuffer⟩)
  last other hother := by
    rcases List.mem_append.mp hother with hother | hother
    · exact h.last other hother
    · rw [List.mem_singleton.mp hother, hsegment]
  indices := by
    rw [List.map_append, List.map_singleton, ← List.concat_eq_append]
    refine h.indices.concat fun hmem => ?_
    obtain ⟨other, hother, heq⟩ := List.mem_map.mp hmem
    have hlt := h.below other hother
    rw [heq, hindex] at hlt
    exact lt_irrefl _ hlt
  below other hother := by
    rcases List.mem_append.mp hother with hother | hother
    · exact (h.below other hother).trans (Nat.lt_succ_self _)
    · rw [List.mem_singleton.mp hother, hindex]
      exact Nat.lt_succ_self _
  observed := by
    subst hsegment hindex
    exact h.observed.record

theorem Reads.event {validSegments : List ℕ} {event : UartEvent} {reading' : UartReading}
    (h : Reads facts patterns done index reading lines)
    (hread : readEvent facts patterns validSegments index event reading = .ok reading') :
    ∃ lines', Reads facts patterns (done ++ [(index, event)]) (index + 1) reading' lines' := by
  unfold readEvent at hread
  split at hread
  · cases hread
  obtain ⟨entered, henter, hread⟩ := Throwing.except_bind_eq_ok.mp hread
  obtain ⟨lines', hopen⟩ := h.enter henter
  have hfeed : (entered.buffers.getD event.key {}).feedResult event.data (some index)
        (some event.timestampUs) 0
      = (ofTail (tailOf (done ++ [(index, event)]) event.key),
          extend {} (tailOf done event.key) (LogReplay.newLines done (index, event))
            (tailOf (done ++ [(index, event)]) event.key)) := by
    have htail : tailOf (done ++ [(index, event)]) event.key
        = (splitFrom isNewline (tailOf done event.key) (bytesOf (index, event))).2 :=
      tailOf_self done (index, event)
    rw [hopen.getD rfl, feedResult_ofTail, htail]
    rfl
  have hobserve : ∀ s : UartSelector,
      (((LogReplay.newLines done (index, event)).filter (!oversized ·)).map lineOf).foldlM
          (fun s line => observe facts patterns s line event.segmentId event.channel
            event.timestampUs false) s
        = .ok ((newRecords done (index, event)).foldl (observeLine facts patterns) s) :=
    observe_complete event.key fun l hl =>
      @getLast?_newLines done (index, event) l (List.mem_of_mem_filter hl)
  rw [hfeed] at hread
  dsimp only at hread
  rw [extend_lines, List.nil_append, hobserve] at hread
  rw [← Except.ok.inj hread]
  exact ⟨_, .opened (hopen.record (index, event) rfl rfl
    (hopen.selector.observe _ _))⟩

/-- The loop over the records of an artifact. -/
theorem Reads.records {validSegments : List ℕ} {decode : List UInt8 → Evidence UartEvent}
    (hdecode : ∀ raw event, decode raw = .ok event → event.evidenceSeq = none)
    {raws : List (List UInt8)} {reading' : UartReading}
    (h : Reads facts patterns done index reading lines)
    (hread : readRecords facts patterns validSegments decode index raws reading = .ok reading') :
    ∃ events lines', raws.mapM decode = .ok events ∧
      Reads facts patterns (done ++ recordsFrom index events) (index + events.length) reading'
        lines' := by
  induction raws generalizing done index reading lines with
  | nil =>
    rw [← Except.ok.inj hread]
    refine ⟨[], lines, rfl, ?_⟩
    rw [recordsFrom, List.zipIdx_nil, List.map_nil, List.append_nil]
    exact h
  | cons raw raws ih =>
    rw [readRecords] at hread
    obtain ⟨event, hevent, hread⟩ := Throwing.except_bind_eq_ok.mp hread
    obtain ⟨next, hnext, hread⟩ := Throwing.except_bind_eq_ok.mp hread
    obtain ⟨more, hmore⟩ := h.event hnext
    obtain ⟨events, lines', hevents, hreads⟩ := ih hmore hread
    refine ⟨event :: events, lines', ?_, ?_⟩
    · rw [List.mapM_cons, hevent, hevents]
      rfl
    · rw [recordsFrom_cons, hdecode raw event hevent, List.append_cons, List.length_cons,
        Nat.add_comm events.length 1, ← Nat.add_assoc]
      exact hreads

end

/-! ## The whole artifact -/

theorem evidenceSeq_decodeUart {limits : JsonLimits} {raw : List UInt8} {event : UartEvent}
    (h : decodeUart limits raw = .ok event) : event.evidenceSeq = none := by
  obtain ⟨record, -, h⟩ := Throwing.except_bind_eq_ok.mp h
  unfold uartRecord at h
  split at h
  · cases h
  obtain ⟨segmentId, -, h⟩ := Throwing.except_bind_eq_ok.mp h
  obtain ⟨channel, -, h⟩ := Throwing.except_bind_eq_ok.mp h
  obtain ⟨timestampUs, -, h⟩ := Throwing.except_bind_eq_ok.mp h
  split at h
  · split at h
    · cases h
    · split at h
      · cases h
      · rw [← Except.ok.inj h]
  · cases h

/-- The selector has observed the lines of the artifact, all of them and in their order. -/
theorem readUart_selects {limits : JsonLimits} {data : List UInt8} {s : UartSelector}
    (h : readUart limits facts patterns data = .ok s) :
    ∃ events, (jsonlLines data).mapM (decodeUart limits) = .ok events ∧
      ((streamLines events).map reference).Nodup ∧
      Selects facts patterns (streamLines events) s := by
  obtain ⟨validSegments, -, h⟩ := Throwing.except_bind_eq_ok.mp h
  obtain ⟨reading, hread, h⟩ := Throwing.except_bind_eq_ok.mp h
  obtain ⟨events, lines, hevents, hreads⟩ := (Reads.fresh 0).records
    (fun raw event hdecode => evidenceSeq_decodeUart hdecode) hread
  refine ⟨events, hevents, ?_⟩
  rw [List.nil_append] at hreads
  generalize hdone : recordsFrom 0 events = done at hreads
  cases hreads with
  | fresh =>
    have hlines : streamLines events = [] := by
      rw [streamLines, recordsOf, hdone]
      rfl
    rw [← Except.ok.inj h, hlines]
    exact ⟨.nil, 0, rfl⟩
  | @opened _ segment _ _ _ hopen =>
    rw [hopen.current] at h
    obtain ⟨flushed, left, hflush, hleft, hselector, -⟩ := hopen.flush
    dsimp only at h
    rw [hflush] at h
    rw [← Except.ok.inj h]
    have hclosed := hopen.observed.close hleft hopen.last (Nat.lt_succ_self segment) 0
    have hindices : ((recordsOf events).map Prod.fst).Nodup := by
      rw [recordsOf, hdone]
      exact hopen.indices
    refine ⟨nodup_reference hindices, ?_⟩
    have hlines : streamLines events = lines ++ left := by
      refine streamLines_eq hindices hclosed.ascending fun line => ?_
      rw [hclosed.mem, recordsOf, hdone]
      refine or_congr_right ⟨fun ⟨key, _, hline⟩ => ⟨key, hline⟩, fun ⟨key, hline⟩ => ?_⟩
      obtain ⟨-, -, record, hrecord, hkey, -⟩ := hline.properties
      exact ⟨key, Nat.lt_succ_of_le (hkey ▸ hopen.last record hrecord), hline⟩
    rw [hlines]
    exact hselector

end DebugEvidence
