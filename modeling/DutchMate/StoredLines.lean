/-
# Lines of the stored receive records

What the recorder derives while it records can be derived again: a processor that starts over
with each segment reads the receive records of a session in order.  Over the records of
increasing segments its patterns are those of the terminated lines that the records hold.
-/
import DutchMate.LineTiling
import DutchMate.PatternEvidence
import DutchMate.PatternScan
import DutchMate.RecentLines
import DutchMate.SessionStore

open LogReplay UartLineBuffer SplitLines

/-! ## Reading the records again -/

/-- A receive record as it is read back. -/
def EvidenceRecord.received? (r : EvidenceRecord) : Option UartEvent :=
  match r.body with
  | .uartRx segmentId timestampUs channel dataB64 _ _ =>
    (Base64.decode dataB64.toList).map fun data =>
      ⟨segmentId, channel, timestampUs, data, some r.evidenceSeq⟩
  | _ => none

def SessionFiles.received (f : SessionFiles) : List UartEvent :=
  f.uartEvents.filterMap EvidenceRecord.received?

/-- What was found in the records read so far, and the processor of the last segment. -/
structure LineReplay where
  segmentId : Option ℕ := none
  processor : UartCaptureProcessor := {}
  patterns : List DetectedPattern := []
  oversizedLineCount : ℕ := 0

namespace LineReplay

/-- The processor for a record of this segment. -/
def processorFor (s : LineReplay) (segmentId : ℕ) : UartCaptureProcessor :=
  if s.segmentId = some segmentId then s.processor else {}

/-- The patterns of a result, with the record they were found in. -/
def sourced (event : UartEvent) (result : UartCaptureResult) : List DetectedPattern :=
  ((detectedPatternRecords result event.segmentId event.timestampUs).toOption.getD []).map
    fun p => { p with sourceEvidenceSeq := event.evidenceSeq.getD 0 }

def next (s : LineReplay) (event : UartEvent) : LineReplay :=
  let (processor, result) := (s.processorFor event.segmentId).processEvent
    ⟨event.segmentId, event.timestampUs, event.channel, event.data⟩
  { segmentId := some event.segmentId
    processor := processor
    patterns := s.patterns ++ sourced event result
    oversizedLineCount := s.oversizedLineCount + result.newlyOversizedLineCount }

end LineReplay

def lineReplay (events : List UartEvent) : LineReplay := events.foldl LineReplay.next {}

theorem lineReplay_concat (events : List UartEvent) (event : UartEvent) :
    lineReplay (events ++ [event]) = (lineReplay events).next event :=
  List.foldl_concat ..

/-- A segment without records starts over. -/
theorem processorFor_lineReplay {events : List UartEvent} {segmentId : ℕ}
    (h : ∀ event ∈ events, event.segmentId ≠ segmentId) :
    (lineReplay events).processorFor segmentId = {} := by
  induction events using List.reverseRecOn with
  | nil => rfl
  | append_singleton events event _ =>
    have hother := h event (List.mem_append_right _ (List.mem_singleton_self _))
    rw [lineReplay_concat, LineReplay.processorFor, if_neg]
    exact fun hsame => hother (Option.some.inj hsame)

namespace StoredLines

/-! ## Places of records -/

/-- A record numbered behind those of its segment. -/
def place (done : List Record) (event : UartEvent) : Record :=
  (done.countP fun record => record.2.segmentId = event.segmentId, event)

/-- The records of a session, numbered in each segment. -/
def placed (events : List UartEvent) : List Record :=
  events.foldl (fun done event => done ++ [place done event]) []

theorem placed_concat (events : List UartEvent) (event : UartEvent) :
    placed (events ++ [event]) = placed events ++ [place (placed events) event] :=
  List.foldl_concat ..

theorem map_snd_placed (events : List UartEvent) : (placed events).map Prod.snd = events := by
  induction events using List.reverseRecOn with
  | nil => rfl
  | append_singleton events event ih =>
    rw [placed_concat, List.map_append, ih]
    rfl

/-! ## Patterns of lines -/

/-- A pattern in a line of received bytes, with the places the line has. -/
def patternOf (key : ℕ × ℕ) (line : List TaggedByte) (pattern : String) :
    Option DetectedPattern := do
  let first ← line.head?
  let last ← line.getLast?
  let raw := line.map Prod.fst
  let matchStartByte ← Bytes.find (Utf8.encode pattern) raw
  let matchEndByte := matchStartByte + (Utf8.encode pattern).length
  some
    { pattern := pattern
      segmentId := key.1
      timestampUs := last.2.timestampUs
      channel := key.2
      ingestionIndex := last.2.ingestionIndex
      lineIndexInEvent := last.2.lineIndex
      lineStartIngestionIndex := first.2.ingestionIndex
      lineStartEventOffset := first.2.offset
      lineEndIngestionIndex := last.2.ingestionIndex
      lineEndEventOffset := last.2.offset + 1
      totalLineBytes := line.length
      matchStartByte := matchStartByte
      matchEndByte := matchEndByte
      matchExcerpt := matchExcerpt raw matchStartByte matchEndByte
      sourceEvidenceSeq := 0 }

def linePatterns (key : ℕ × ℕ) (line : List TaggedByte) : List DetectedPattern :=
  defaultPatterns.filterMap (patternOf key line)

/-- The patterns in the terminated lines of some records that are not oversized. -/
def patternsOf (records : List Record) : List DetectedPattern :=
  (keysOf records).flatMap fun key =>
    ((linesOf records key).filter fun line => endsLine line && !oversized line).flatMap
      (linePatterns key)

/-- How many of the lines of some records are oversized, the open ones among them. -/
def oversizedCountOf (records : List Record) : ℕ :=
  ((keysOf records).map fun key => (linesOf records key).countP oversized).sum

/-- A pattern without the record it was found in. -/
def unsourced (p : DetectedPattern) : DetectedPattern := { p with sourceEvidenceSeq := 0 }

/-- One pattern in a line: neither finds it, or the record of the match is the pattern. -/
theorem scanPattern_lineOf {key : ℕ × ℕ} {line : List TaggedByte} {last : TaggedByte}
    {result : UartCaptureResult} (hlast : line.getLast? = some last)
    (hchannel : result.channel = key.2) (pattern : String) :
    (scanPattern pattern (lineOf line) = none ∧ patternOf key line pattern = none) ∨
      ∃ m p, scanPattern pattern (lineOf line) = some m ∧ patternOf key line pattern = some p ∧
        detectedPatternRecord result key.1 last.2.timestampUs m = .ok p := by
  obtain ⟨first, hfirst⟩ : ∃ first, line.head? = some first := by
    cases line with
    | nil => cases hlast
    | cons x line => exact ⟨x, rfl⟩
  cases hfind : Bytes.find (Utf8.encode pattern) (line.map Prod.fst) with
  | none =>
    left
    constructor
    · have hraw : Bytes.find (Utf8.encode pattern) (lineOf line).raw = none := hfind
      simp only [scanPattern, hraw, Option.bind_eq_bind, Option.bind_none, Option.bind_fun_none]
    · simp [patternOf, hfirst, hlast, hfind]
  | some i =>
    right
    have htext : (Bytes.find pattern.toList (lineOf line).text).isSome :=
      PatternScan.find_text_of_find_raw rfl (by rw [lineOf, hfind]; rfl)
    obtain ⟨j, hj⟩ := Option.isSome_iff_exists.mp htext
    have hraw : Bytes.find (Utf8.encode pattern) (lineOf line).raw = some i := hfind
    simp only [scanPattern, patternOf, hj, hraw, hfirst, hlast, hfind, Option.bind_eq_bind,
      Option.bind_some]
    refine ⟨_, _, rfl, rfl, ?_⟩
    simp [detectedPatternRecord, matchCoordinate, lineOf, hfirst, hlast, hchannel]
    rfl

/-- The patterns the processor finds in a line are those of its bytes. -/
theorem scanLine_lineOf {key : ℕ × ℕ} {line : List TaggedByte} {last : TaggedByte}
    {result : UartCaptureResult} (hlast : line.getLast? = some last)
    (hchannel : result.channel = key.2) (patterns : List String) :
    (scanLine patterns (lineOf line)).mapM
        (detectedPatternRecord result key.1 last.2.timestampUs)
      = .ok (patterns.filterMap (patternOf key line)) := by
  induction patterns with
  | nil => rfl
  | cons pattern patterns ih =>
    rw [scanLine] at ih ⊢
    rw [List.filterMap_cons, List.filterMap_cons]
    rcases scanPattern_lineOf hlast hchannel pattern with
      ⟨hscan, hpattern⟩ | ⟨m, p, hscan, hpattern, hrecord⟩
    · rw [hscan, hpattern]
      exact ih
    · rw [hscan, hpattern]
      simp only [List.mapM_cons, hrecord, ih]
      rfl

theorem scanLines_lineOf {key : ℕ × ℕ} {timestampUs : ℕ} {result : UartCaptureResult}
    {lines : List (List TaggedByte)}
    (hlast : ∀ line ∈ lines, ∃ last, line.getLast? = some last ∧ last.2.timestampUs = timestampUs)
    (hchannel : result.channel = key.2) :
    (scanLines defaultPatterns (lines.map lineOf)).mapM
        (detectedPatternRecord result key.1 timestampUs)
      = .ok (lines.flatMap (linePatterns key)) := by
  induction lines with
  | nil => rfl
  | cons line lines ih =>
    obtain ⟨last, hline, rfl⟩ := hlast line List.mem_cons_self
    have hrest := ih fun line hline => hlast line (List.mem_cons_of_mem _ hline)
    rw [scanLines] at hrest ⊢
    rw [List.map_cons, List.flatMap_cons, List.mapM_append, hrest,
      scanLine_lineOf hline hchannel]
    rfl

/-! ## What the processor holds -/

/-- The patterns in the lines that are cut off already, for a list of keys. -/
def cutPatterns (keys : List (ℕ × ℕ)) (done : List Record) : List DetectedPattern :=
  keys.flatMap fun key => ((cutLines done key).filter (!oversized ·)).flatMap (linePatterns key)

/-- The lines of one key that are oversized, cut off or still open. -/
def oversizedAt (done : List Record) (key : ℕ × ℕ) : ℕ :=
  (cutLines done key ++ [tailOf done key]).countP oversized

theorem countP_linesOf (done : List Record) (key : ℕ × ℕ) :
    (linesOf done key).countP oversized = oversizedAt done key := by
  rw [linesOf_eq, oversizedAt, tailLines, List.countP_append, List.countP_append]
  split
  · rename_i hnone
    rw [hnone]
    rfl
  · rfl

/-- A sum that is added to at one key. -/
theorem sum_concat {κ : Type} {keys : List κ} (hnodup : keys.Nodup) {key : κ} (hkey : key ∈ keys)
    {f g : κ → ℕ} {more : ℕ} (hself : g key = f key + more) (hother : ∀ k, k ≠ key → g k = f k) :
    (keys.map g).sum = (keys.map f).sum + more := by
  obtain ⟨before, after, rfl⟩ := List.append_of_mem hkey
  rw [List.nodup_append, List.nodup_cons] at hnodup
  have hbefore : before.map g = before.map f :=
    List.map_congr_left fun k hk => hother k fun heq => hnodup.2.2 k hk key (by simp) heq
  have hafter : after.map g = after.map f :=
    List.map_congr_left fun k hk => hother k fun heq => hnodup.2.1.1 (heq ▸ hk)
  simp only [List.map_append, List.map_cons, List.sum_append, List.sum_cons, hbefore, hafter, hself]
  omega

/-- What a replay has after the records `done`, for a list of keys that holds all of theirs. -/
structure Stands (keys : List (ℕ × ℕ)) (done : List Record) (s : LineReplay) : Prop where
  within : ∀ record ∈ done, ∃ k, s.segmentId = some k ∧ record.2.segmentId ≤ k
  reached : ∀ k, s.segmentId = some k → ∃ record ∈ done, record.2.segmentId = k
  defaults : s.processor.patterns = defaultPatterns
  buffers : ∀ k, s.segmentId = some k → ∀ channel,
    s.processor.lineBuffer k channel = ofTail (tailOf done (k, channel))
  bufferKeys : ∀ key ∈ s.processor.lineBuffers.keys, s.segmentId = some key.1
  index : ∀ k, s.segmentId = some k →
    s.processor.nextIngestionIndex = done.countP fun record => record.2.segmentId = k
  patterns : (s.patterns.map unsourced).Perm (cutPatterns keys done)
  count : s.oversizedLineCount = (keys.map (oversizedAt done)).sum

theorem stands_nil (keys : List (ℕ × ℕ)) : Stands keys [] {} where
  within := by simp
  reached := by simp
  defaults := rfl
  buffers := by simp
  bufferKeys := by
    intro key hkey
    cases hkey
  index := by simp
  patterns := by
    have hempty : cutPatterns keys [] = [] := List.flatMap_eq_nil_iff.mpr fun _ _ => rfl
    rw [hempty]
    exact .nil
  count := by
    refine (List.sum_eq_zero fun n hn => ?_).symm
    obtain ⟨key, _, rfl⟩ := List.mem_map.mp hn
    rfl

variable {keys : List (ℕ × ℕ)} {done : List Record} {s : LineReplay} {event : UartEvent}

/-- Nothing waits of a segment that has no record. -/
theorem tailOf_of_lt {k channel : ℕ} (h : ∀ record ∈ done, record.2.segmentId ≠ k) :
    tailOf done (k, channel) = [] := by
  have hnone : recordsAt done (k, channel) = [] := by
    rw [recordsAt, List.filter_eq_nil_iff]
    intro record hrecord hkey
    exact h record hrecord (congrArg Prod.fst (of_decide_eq_true hkey))
  rw [tailOf, streamOf, hnone]
  rfl

/-- The processor for the next record holds what waits of its segment. -/
theorem Stands.processorFor (h : Stands keys done s)
    (hlast : ∀ record ∈ done, record.2.segmentId ≤ event.segmentId) :
    (s.processorFor event.segmentId).patterns = defaultPatterns ∧
      (∀ channel, (s.processorFor event.segmentId).lineBuffer event.segmentId channel
        = ofTail (tailOf done (event.segmentId, channel))) ∧
      (∀ key ∈ (s.processorFor event.segmentId).lineBuffers.keys, key.1 = event.segmentId) ∧
      (s.processorFor event.segmentId).nextIngestionIndex = (place done event).1 := by
  rw [LineReplay.processorFor]
  split
  · rename_i hsame
    refine ⟨h.defaults, h.buffers _ hsame, fun key hkey => ?_, h.index _ hsame⟩
    exact Option.some.inj ((h.bufferKeys key hkey).symm.trans hsame)
  · rename_i hother
    have hnone : ∀ record ∈ done, record.2.segmentId ≠ event.segmentId := by
      rintro record hrecord hsame
      obtain ⟨k, hk, hle⟩ := h.within record hrecord
      obtain ⟨last, hlastMem, rfl⟩ := h.reached k hk
      have hback := hlast last hlastMem
      exact hother (hk.trans (congrArg some (by omega)))
    refine ⟨rfl, fun channel => ?_, fun key hkey => ?_, ?_⟩
    · rw [tailOf_of_lt hnone, ofTail_nil]
      rfl
    · cases hkey
    · refine (List.countP_eq_zero.mpr fun record hrecord => ?_).symm
      simpa using hnone record hrecord

/-- The processor and the result for one record more. -/
structure NextRecord (done : List Record) (event : UartEvent) (p : UartCaptureProcessor)
    (result : UartCaptureResult) : Prop where
  defaults : p.patterns = defaultPatterns
  buffers : ∀ channel, p.lineBuffer event.segmentId channel
    = ofTail (tailOf (done ++ [place done event]) (event.segmentId, channel))
  bufferKeys : ∀ key ∈ p.lineBuffers.keys, key.1 = event.segmentId
  index : p.nextIngestionIndex = (place done event).1 + 1
  channel : result.channel = event.channel
  found : result.matchList = scanLines defaultPatterns
    (((newLines done (place done event)).filter (!oversized ·)).map lineOf)
  count : oversizedAt (done ++ [place done event]) event.key
    = oversizedAt done event.key + result.newlyOversizedLineCount

/-- One record more is read with what waits of its segment. -/
theorem Stands.processEvent (h : Stands keys done s)
    (hlast : ∀ record ∈ done, record.2.segmentId ≤ event.segmentId) :
    NextRecord done event
      ((s.processorFor event.segmentId).processEvent
        ⟨event.segmentId, event.timestampUs, event.channel, event.data⟩).1
      ((s.processorFor event.segmentId).processEvent
        ⟨event.segmentId, event.timestampUs, event.channel, event.data⟩).2 := by
  obtain ⟨hdefaults, hbuffers, hbufferKeys, hindex⟩ := h.processorFor hlast
  generalize s.processorFor event.segmentId = p at hdefaults hbuffers hbufferKeys hindex
  have hfeed : (p.lineBuffer event.segmentId event.channel).feedResult event.data
      (some p.nextIngestionIndex) (some event.timestampUs) 0
        = (ofTail (tailOf (done ++ [place done event]) (place done event).key),
          extend {} (tailOf done (place done event).key) (newLines done (place done event))
            (tailOf (done ++ [place done event]) (place done event).key)) := by
    rw [hbuffers, hindex, feedResult_ofTail, tailOf_self]
    rfl
  simp only [UartCaptureProcessor.processEvent, hfeed]
  refine ⟨hdefaults, fun channel => ?_, fun key hkey => ?_, congrArg (· + 1) hindex, rfl, ?_, ?_⟩
  · rw [UartCaptureProcessor.lineBuffer, Dict.getD_set]
    split
    · rename_i hsame
      exact congrArg (fun key => ofTail (tailOf (done ++ [place done event]) key)) hsame.symm
    · rename_i hother
      rw [tailOf_other done (Ne.symm hother)]
      exact hbuffers channel
  · obtain ⟨v, hv⟩ := (Dict.mem_keys_iff _ _).mp hkey
    rw [Dict.get?_set] at hv
    split at hv
    · rename_i hsame
      exact congrArg Prod.fst hsame
    · exact hbufferKeys key ((Dict.mem_keys_iff _ _).mpr ⟨v, hv⟩)
  · show scanLines p.patterns _ = _
    rw [hdefaults, extend_lines, List.nil_append]
  · -- The tail that waited was counted when it passed the bound.
    have hkey : event.key = (place done event).key := rfl
    have hmono : ∀ l ∈ (newLines done (place done event) ++
        [tailOf (done ++ [place done event]) event.key]).head?,
        (tailOf done event.key).length ≤ l.length := by
      rw [hkey, tailOf_self]
      exact length_le_head isNewline _ _
    have hcount := extend_newlyOversizedLineCount {} (tailOf done event.key)
      (newLines done (place done event)) (tailOf (done ++ [place done event]) event.key) hmono
    have hzero : ({} : UartLineBufferResult).newlyOversizedLineCount = 0 := rfl
    rw [List.countP_append, List.countP_singleton] at hcount
    rw [oversizedAt, oversizedAt, hkey, cutLines_self, ← hkey]
    simp only [List.countP_append, List.countP_singleton]
    omega

/-- A pattern of a line names no record yet. -/
theorem unsourced_of_mem {key : ℕ × ℕ} {line : List TaggedByte} {p : DetectedPattern}
    (h : p ∈ linePatterns key line) : unsourced p = p := by
  obtain ⟨pattern, _, hpattern⟩ := List.mem_filterMap.mp h
  simp only [patternOf, Option.bind_eq_bind, Option.bind_eq_some_iff] at hpattern
  obtain ⟨_, _, _, _, _, _, hp⟩ := hpattern
  cases hp
  rfl

/-- What the replay finds in a record are the patterns of the lines it terminates. -/
theorem NextRecord.sourced {p : UartCaptureProcessor} {result : UartCaptureResult}
    (h : NextRecord done event p result) :
    (LineReplay.sourced event result).map unsourced
      = ((newLines done (place done event)).filter (!oversized ·)).flatMap
          (linePatterns event.key) := by
  let lines := (newLines done (place done event)).filter (!oversized ·)
  have hscan : (scanLines defaultPatterns (lines.map lineOf)).mapM
      (detectedPatternRecord result event.key.1 event.timestampUs)
        = .ok (lines.flatMap (linePatterns event.key)) :=
    scanLines_lineOf (fun line hline => getLast?_newLines (List.mem_of_mem_filter hline)) h.channel
  have hrecords : detectedPatternRecords result event.segmentId event.timestampUs
      = .ok (lines.flatMap (linePatterns event.key)) := by
    rw [detectedPatternRecords, h.found]
    exact hscan
  rw [LineReplay.sourced, hrecords, List.map_map]
  refine (List.map_congr_left fun p hp => ?_).trans (List.map_id _)
  obtain ⟨line, _, hline⟩ := List.mem_flatMap.mp hp
  exact unsourced_of_mem hline

/-- The replay stands where it should after one record more. -/
theorem Stands.next (hkeys : keys.Nodup) (hkey : event.key ∈ keys)
    (hlast : ∀ record ∈ done, record.2.segmentId ≤ event.segmentId) (h : Stands keys done s) :
    Stands keys (done ++ [place done event]) (s.next event) := by
  have hnext := h.processEvent hlast
  refine ⟨fun record hrecord => ⟨_, rfl, ?_⟩, fun k hk => ?_, hnext.defaults, fun k hk => ?_,
    fun key hmem => ?_, fun k hk => ?_, ?_, ?_⟩
  · rcases List.mem_append.mp hrecord with hrecord | hrecord
    · exact hlast record hrecord
    · cases List.mem_singleton.mp hrecord
      exact le_rfl
  · cases hk
    exact ⟨_, List.mem_append_right _ (List.mem_singleton_self _), rfl⟩
  · cases hk
    exact hnext.buffers
  · exact congrArg some (hnext.bufferKeys key hmem).symm
  · cases hk
    rw [List.countP_append, List.countP_singleton]
    refine hnext.index.trans (congrArg₂ (· + ·) rfl ?_)
    exact (if_pos (decide_eq_true rfl)).symm
  · have hpatterns : (s.next event).patterns.map unsourced = s.patterns.map unsourced ++
        ((newLines done (place done event)).filter (!oversized ·)).flatMap
          (linePatterns event.key) :=
      (List.map_append ..).trans (congrArg (s.patterns.map unsourced ++ ·) hnext.sourced)
    rw [hpatterns]
    refine (h.patterns.append_right _).trans (flatMap_concat hkeys hkey ?_ fun key hne => ?_)
    · rw [show event.key = (place done event).key from rfl, cutLines_self, List.filter_append,
        List.flatMap_append]
    · rw [cutLines_other done (Ne.symm hne)]
  · show s.oversizedLineCount + _ = _
    rw [h.count]
    refine (sum_concat hkeys hkey hnext.count fun key hne => ?_).symm
    have hother : (place done event).key ≠ key := Ne.symm hne
    rw [oversizedAt, oversizedAt, cutLines_other done hother, tailOf_other done hother]

/-- The replay of records of increasing segments stands where it should. -/
theorem stands_lineReplay {events : List UartEvent} (hkeys : keys.Nodup)
    (hmem : ∀ event ∈ events, event.key ∈ keys)
    (hordered : events.Pairwise fun event next => event.segmentId ≤ next.segmentId) :
    Stands keys (placed events) (lineReplay events) := by
  induction events using List.reverseRecOn with
  | nil => exact stands_nil keys
  | append_singleton events event ih =>
    obtain ⟨hbefore, _, hlast⟩ := List.pairwise_append.mp hordered
    rw [placed_concat, lineReplay_concat]
    refine (ih (fun e he => hmem e (List.mem_append_left _ he)) hbefore).next hkeys
      (hmem event (List.mem_append_right _ (List.mem_singleton_self _))) fun record hrecord => ?_
    have hevent : record.2 ∈ events := by
      rw [← map_snd_placed events]
      exact List.mem_map_of_mem hrecord
    exact hlast record.2 hevent event (List.mem_singleton_self _)

/-- The patterns of a replay are those of the terminated lines of its records, and its count
is that of their oversized lines. -/
theorem lineReplay_reads {events : List UartEvent}
    (hordered : events.Pairwise fun event next => event.segmentId ≤ next.segmentId) :
    ((lineReplay events).patterns.map unsourced).Perm (patternsOf (placed events)) ∧
      (lineReplay events).oversizedLineCount = oversizedCountOf (placed events) := by
  have hmem : ∀ event ∈ events, event.key ∈ keysOf (placed events) := by
    intro event hevent
    rw [← map_snd_placed events] at hevent
    obtain ⟨record, hrecord, rfl⟩ := List.mem_map.mp hevent
    exact List.mem_dedup.mpr (List.mem_map_of_mem hrecord)
  have hcut : patternsOf (placed events) = cutPatterns (keysOf (placed events)) (placed events) :=
    List.flatMap_congr fun key _ => by rw [filter_linesOf]
  have hstands := stands_lineReplay (List.nodup_dedup _) hmem hordered
  refine ⟨hcut ▸ hstands.patterns, hstands.count.trans (congrArg List.sum ?_)⟩
  exact List.map_congr_left fun key _ => (countP_linesOf _ key).symm

end StoredLines
