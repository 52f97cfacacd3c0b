/-
# The recent lines are the newest lines

The reference takes the whole history: the bytes of each segment and channel put end to end and
cut at the newlines.  `replayUartPrefix` gives the newest of those lines, of every kind, with the
number of the others.
-/
import DutchMate.LineTiling
import DutchMate.LogReplay
import DutchMate.Newest
import DutchMate.Throwing
import Mathlib.Data.List.Dedup
import Mathlib.Data.List.Flatten

open PyJson UartLineBuffer SplitLines

namespace LogReplay

/-! ## The whole history -/

/-- A record of the journal with the index its lines are counted at. -/
abbrev Record := ℕ × UartEvent

/-- The records of some events, the first of them at a given place in the journal. -/
def recordsFrom (fileIndex : ℕ) (events : List UartEvent) : List Record :=
  (events.zipIdx fileIndex).map fun (event, fileIndex) => (event.evidenceSeq.getD fileIndex, event)

def recordsOf (events : List UartEvent) : List Record := recordsFrom 0 events

def Record.key (record : Record) : ℕ × ℕ := record.2.key

/-- The bytes of a record, each with its place. -/
def bytesOf (record : Record) : List TaggedByte :=
  tagFrom record.1 record.2.timestampUs 0 0 record.2.data

def recordsAt (records : List Record) (key : ℕ × ℕ) : List Record :=
  records.filter fun record => record.key = key

/-- Every segment and channel of the history. -/
def keysOf (records : List Record) : List (ℕ × ℕ) := (records.map Record.key).dedup

def streamOf (records : List Record) (key : ℕ × ℕ) : List TaggedByte :=
  (recordsAt records key).flatMap bytesOf

/-- The lines of one segment and channel, the last one perhaps without its newline. -/
def linesOf (records : List Record) (key : ℕ × ℕ) : List (List TaggedByte) :=
  physicalLines isNewline (streamOf records key)

def completeLine (key : ℕ × ℕ) (line : List TaggedByte) : Option RecentLogLine :=
  line.getLast?.map fun last =>
    { segmentId := key.1
      channel := key.2
      timestampUs := last.2.timestampUs
      ingestionIndex := last.2.ingestionIndex
      lineIndexInEvent := last.2.lineIndex
      lineRawB64 := Base64.encode (line.map Prod.fst)
      lineText := Utf8.decodeReplace (line.map Prod.fst)
      isPartial := false }

/-- An unterminated line has the time of the last record of its segment and channel. -/
def partialLine (records : List Record) (key : ℕ × ℕ) (line : List TaggedByte) :
    Option RecentLogLine := do
  let record ← (recordsAt records key).getLast?
  let line ← completeLine key line
  some { line with timestampUs := record.2.timestampUs, isPartial := true }

def oversizedLine (key : ℕ × ℕ) (line : List TaggedByte) : Option OversizedLogLine := do
  let first ← line.head?
  let last ← line.getLast?
  some
    { segmentId := key.1
      channel := key.2
      ingestionIndex := last.2.ingestionIndex
      lineIndexInEvent := last.2.lineIndex
      lineStartIngestionIndex := first.2.ingestionIndex
      lineStartEventOffset := first.2.offset
      lineEndIngestionIndex := last.2.ingestionIndex
      lineEndEventOffset := last.2.offset + 1
      totalLineBytes := line.length
      terminated := endsLine line
      timestampUs := last.2.timestampUs }

def completeLines (records : List Record) : List RecentLogLine :=
  (keysOf records).flatMap fun key =>
    ((linesOf records key).filter fun line => endsLine line && !oversized line).filterMap
      (completeLine key)

def partialLines (records : List Record) : List RecentLogLine :=
  (keysOf records).flatMap fun key =>
    ((linesOf records key).filter fun line => !endsLine line && !oversized line).filterMap
      (partialLine records key)

def oversizedLines (records : List Record) : List OversizedLogLine :=
  (keysOf records).flatMap fun key =>
    ((linesOf records key).filter oversized).filterMap (oversizedLine key)

/-- The result of a replay is the newest lines of the history, with the number of the others. -/
structure IsNewest (lines : ℕ) (records : List Record) (result : ReplayResult) : Prop where
  count : result.snapshotEventCount = records.length
  complete : result.completeLines = Newest.newest RecentLogLine.key lines (completeLines records)
  unterminated :
    result.partialLines = Newest.newest RecentLogLine.key lines (partialLines records)
  oversized :
    result.oversizedLines = Newest.newest OversizedLogLine.key lines (oversizedLines records)
  omittedComplete : result.omittedCompleteLines
    = (completeLines records).length - result.completeLines.length
  omittedPartial : result.omittedPartialLines
    = (partialLines records).length - result.partialLines.length
  omittedOversized : result.omittedOversizedLines
    = (oversizedLines records).length - result.oversizedLines.length

/-! ## Adding the lines -/

namespace BoundedNewest

variable {α : Type} {key : α → Coordinates}

/-- What is kept when the records of a list have been added one by one. -/
structure Keeps (key : α → Coordinates) (limit : ℕ) (records : List α) (kept : BoundedNewest α) :
    Prop where
  bounded : kept.limit = limit
  keyed : ∀ entry ∈ kept.heap, entry.key = key entry.record
  values : kept.values = Newest.newest key limit records
  omitted : kept.omitted = records.length - limit

theorem keeps_nil (limit : ℕ) : Keeps key limit [] { limit := limit } where
  bounded := rfl
  keyed := nofun
  values := List.drop_nil.symm
  omitted := (Nat.zero_sub limit).symm

theorem push_values {heap : List (Entry α)} {entry : Entry α}
    (hkeyed : ∀ e ∈ heap, e.key = key e.record) (hentry : entry.key = key entry.record)
    (hnew : ∀ e ∈ heap, e.key ≠ entry.key) :
    (push heap entry).map Entry.record
      = Newest.insert key entry.record (heap.map Entry.record) := by
  induction heap with
  | nil => rfl
  | cons first heap ih =>
    have hne : first.key ≠ entry.key := hnew first (by simp)
    have hfirst : first.key = key first.record := hkeyed first (by simp)
    have horder : entry.order ≤ first.order ↔ key entry.record ≤ key first.record := by
      rw [Entry.order, Entry.order, Prod.Lex.toLex_le_toLex, ← hentry, ← hfirst]
      constructor
      · rintro (hlt | ⟨heq, _⟩)
        · exact hlt.le
        · exact heq.le
      · exact fun hle => .inl (lt_of_le_of_ne hle hne.symm)
    rw [push, List.orderedInsert_cons, List.map_cons, Newest.insert, List.orderedInsert_cons]
    by_cases hle : key entry.record ≤ key first.record
    · rw [if_pos (horder.mpr hle), if_pos hle]
      rfl
    · rw [if_neg (mt horder.mp hle), if_neg hle, List.map_cons]
      exact congrArg _ (ih (fun e he => hkeyed e (by simp [he])) (fun e he => hnew e (by simp [he])))

theorem mem_push {heap : List (Entry α)} {entry e : Entry α} :
    e ∈ push heap entry ↔ e = entry ∨ e ∈ heap := List.mem_orderedInsert _

/-- One more record of its own coordinates. -/
theorem Keeps.add {limit : ℕ} {records : List α} {kept : BoundedNewest α} {record : α}
    (h : Keeps key limit records kept) (hlimit : 0 < limit)
    (hnodup : ((records ++ [record]).map key).Nodup) :
    Keeps key limit (records ++ [record]) (kept.add key record) := by
  obtain ⟨rfl, hkeyed, hvalues, homitted⟩ := h
  have hnew : ∀ e ∈ kept.heap, e.key ≠ key record := by
    intro e he
    have hmem : e.record ∈ Newest.newest key kept.limit records :=
      hvalues ▸ List.mem_map_of_mem he
    have hrecord := (Newest.sorted_perm records).mem_iff.mp (List.mem_of_mem_drop hmem)
    rw [hkeyed e he]
    rw [List.map_append, List.nodup_append] at hnodup
    exact hnodup.2.2 _ (List.mem_map_of_mem hrecord) _ (by simp)
  have hlength : kept.values.length = min kept.limit records.length := by
    rw [hvalues, Newest.length_newest]
  have hheap : kept.values.length = kept.heap.length := List.length_map _
  have hkeep := Newest.keep_newest hlimit hnodup
  rw [← hvalues] at hkeep
  have hmore : (records ++ [record]).length = records.length + 1 := by
    rw [List.length_append, List.length_singleton]
  unfold Newest.keep at hkeep
  unfold BoundedNewest.add
  by_cases hroom : kept.heap.length < kept.limit
  · rw [if_pos (by omega)] at hkeep
    rw [if_pos hroom]
    refine ⟨rfl, fun e he => ?_, (push_values hkeyed rfl hnew).trans hkeep, ?_⟩
    · rcases mem_push.mp he with rfl | he
      · rfl
      · exact hkeyed e he
    · dsimp only
      omega
  · rw [if_neg (by omega)] at hkeep
    rw [if_neg hroom]
    rw [BoundedNewest.values] at hkeep
    dsimp only
    cases hentries : kept.heap with
    | nil =>
      rw [hentries] at hroom
      exact absurd hlimit hroom
    | cons least rest =>
      rw [hentries, List.map_cons] at hkeep
      rw [hentries] at hkeyed hnew
      dsimp only at hkeep ⊢
      rw [← hkeyed least (by simp)] at hkeep
      by_cases hless : least.key < key record
      · rw [if_pos hless] at hkeep
        rw [if_pos hless]
        refine ⟨rfl, fun e he => ?_, ?_, ?_⟩
        · rcases mem_push.mp he with rfl | he
          · rfl
          · exact hkeyed e (by simp [he])
        · refine (push_values (fun e he => hkeyed e (by simp [he])) rfl
            (fun e he => hnew e (by simp [he]))).trans hkeep
        · dsimp only
          omega
      · rw [if_neg hless] at hkeep
        rw [if_neg hless]
        refine ⟨rfl, hkeyed, hkeep, ?_⟩
        dsimp only
        omega

/-- Many records, each of its own coordinates. -/
theorem Keeps.addMany {limit : ℕ} {records more : List α} {kept : BoundedNewest α}
    (h : Keeps key limit records kept) (hlimit : 0 < limit)
    (hnodup : ((records ++ more).map key).Nodup) :
    Keeps key limit (records ++ more) (more.foldl (BoundedNewest.add key) kept) := by
  induction more generalizing records kept with
  | nil =>
    rw [List.append_nil]
    exact h
  | cons record more ih =>
    rw [List.append_cons] at hnodup ⊢
    refine ih (h.add hlimit ?_) hnodup
    rw [List.map_append] at hnodup
    exact hnodup.of_append_left

theorem Keeps.omitted_eq {limit : ℕ} {records : List α} {kept : BoundedNewest α}
    (h : Keeps key limit records kept) : kept.omitted = records.length - kept.values.length := by
  rw [h.omitted, h.values, Newest.length_newest]
  omega

/-- The order the records came in does not matter. -/
theorem Keeps.of_perm {limit : ℕ} {records others : List α} {kept : BoundedNewest α}
    (h : Keeps key limit records kept) (hnodup : (records.map key).Nodup)
    (hperm : records.Perm others) : Keeps key limit others kept where
  bounded := h.bounded
  keyed := h.keyed
  values := h.values.trans (Newest.newest_of_perm hnodup hperm limit)
  omitted := h.omitted.trans (by rw [hperm.length_eq])

end BoundedNewest

/-! ## One more record -/

theorem streamOf_concat (records : List Record) (record : Record) (key : ℕ × ℕ) :
    streamOf (records ++ [record]) key
      = streamOf records key ++ if record.key = key then bytesOf record else [] := by
  rw [streamOf, recordsAt, List.filter_append, List.flatMap_append]
  by_cases hkey : record.key = key
  · rw [if_pos hkey, List.filter_singleton, decide_eq_true hkey]
    simp [streamOf, recordsAt]
  · rw [if_neg hkey, List.filter_singleton, decide_eq_false hkey]
    simp [streamOf, recordsAt]

/-- The terminated lines of one segment and channel. -/
def cutLines (records : List Record) (key : ℕ × ℕ) : List (List TaggedByte) :=
  (splitFrom isNewline [] (streamOf records key)).1

/-- The bytes behind them. -/
def tailOf (records : List Record) (key : ℕ × ℕ) : List TaggedByte :=
  (splitFrom isNewline [] (streamOf records key)).2

/-- The lines that a further record terminates. -/
def newLines (records : List Record) (record : Record) : List (List TaggedByte) :=
  (splitFrom isNewline (tailOf records record.key) (bytesOf record)).1

theorem cutLines_self (records : List Record) (record : Record) :
    cutLines (records ++ [record]) record.key
      = cutLines records record.key ++ newLines records record := by
  rw [cutLines, streamOf_concat, if_pos rfl, splitFrom_append]
  rfl

theorem cutLines_other (records : List Record) {record : Record} {key : ℕ × ℕ}
    (h : record.key ≠ key) : cutLines (records ++ [record]) key = cutLines records key := by
  rw [cutLines, streamOf_concat, if_neg h, List.append_nil]
  rfl

theorem tailOf_self (records : List Record) (record : Record) :
    tailOf (records ++ [record]) record.key
      = (splitFrom isNewline (tailOf records record.key) (bytesOf record)).2 := by
  rw [tailOf, streamOf_concat, if_pos rfl, splitFrom_append]
  rfl

theorem tailOf_other (records : List Record) {record : Record} {key : ℕ × ℕ}
    (h : record.key ≠ key) : tailOf (records ++ [record]) key = tailOf records key := by
  rw [tailOf, streamOf_concat, if_neg h, List.append_nil]
  rfl

theorem tailOf_open (records : List Record) (key : ℕ × ℕ) :
    ∀ x ∈ tailOf records key, isNewline x = false :=
  splitFrom_tail_open isNewline [] (streamOf records key) nofun

/-- What each key lists is added to at one key. -/
theorem flatMap_concat {κ α : Type} {keys : List κ} (hnodup : keys.Nodup) {key : κ}
    (hkey : key ∈ keys) {f g : κ → List α} {more : List α} (hself : g key = f key ++ more)
    (hother : ∀ k, k ≠ key → g k = f k) : (keys.flatMap f ++ more).Perm (keys.flatMap g) := by
  obtain ⟨before, after, rfl⟩ := List.append_of_mem hkey
  rw [List.nodup_append, List.nodup_cons] at hnodup
  have hbefore : before.flatMap g = before.flatMap f :=
    List.flatMap_congr fun k hk => hother k fun heq => hnodup.2.2 k hk key (by simp) heq
  have hafter : after.flatMap g = after.flatMap f :=
    List.flatMap_congr fun k hk => hother k fun heq => hnodup.2.1.1 (heq ▸ hk)
  rw [List.flatMap_append, List.flatMap_append, List.flatMap_cons, List.flatMap_cons, hbefore,
    hafter, hself, List.append_assoc, List.append_assoc, List.append_assoc]
  exact (List.perm_append_comm.append_left (f key)).append_left (before.flatMap f)

/-! ## Where lines end -/

def lineEnd (x : TaggedByte) : Coordinates := toLex (x.2.ingestionIndex, x.2.lineIndex)

theorem mem_tagFrom {i ts offset line : ℕ} {bytes : List UInt8} {x : TaggedByte}
    (h : x ∈ tagFrom i ts offset line bytes) :
    x.2.ingestionIndex = i ∧ x.2.timestampUs = ts ∧ line ≤ x.2.lineIndex := by
  induction bytes generalizing offset line with
  | nil => cases h
  | cons byte bytes ih =>
    rcases List.mem_cons.mp h with rfl | h
    · exact ⟨rfl, rfl, le_rfl⟩
    · obtain ⟨hi, hts, hline⟩ := ih h
      refine ⟨hi, hts, le_trans ?_ hline⟩
      split
      · exact Nat.le_succ line
      · exact le_rfl

/-- Two bytes, the first of which is a newline, do not end lines at one place. -/
def Apart (x y : TaggedByte) : Prop := isNewline x = true → lineEnd x ≠ lineEnd y

theorem apart_tagFrom (i ts offset line : ℕ) (bytes : List UInt8) :
    (tagFrom i ts offset line bytes).Pairwise Apart := by
  induction bytes generalizing offset line with
  | nil => exact List.Pairwise.nil
  | cons byte bytes ih =>
    refine List.pairwise_cons.mpr ⟨fun y hy hnewline heq => ?_, ih _ _⟩
    have hbyte : byte = newline := eq_of_beq hnewline
    rw [if_pos hbyte] at hy
    have hline : line = y.2.lineIndex := congrArg (fun c => (ofLex c).2) heq
    have := (mem_tagFrom hy).2.2
    omega

theorem apart_streamOf {records : List Record} (h : (records.map Prod.fst).Nodup)
    (key : ℕ × ℕ) : (streamOf records key).Pairwise Apart := by
  refine List.pairwise_flatMap.mpr ⟨fun record _ => apart_tagFrom _ _ _ _ _, ?_⟩
  have hindices : records.Pairwise fun r s => r.1 ≠ s.1 := List.pairwise_map.mp h
  refine (hindices.sublist List.filter_sublist).imp ?_
  intro r s hne x hx y hy _ heq
  have hindex : x.2.ingestionIndex = y.2.ingestionIndex := congrArg (fun c => (ofLex c).1) heq
  rw [(mem_tagFrom hx).1, (mem_tagFrom hy).1] at hindex
  exact hne hindex

theorem getLast?_sublist {α : Type} (ls : List (List α)) :
    (ls.filterMap List.getLast?).Sublist ls.flatten := by
  induction ls with
  | nil => exact List.Sublist.refl []
  | cons l ls ih =>
    rw [List.flatten_cons]
    cases hlast : l.getLast? with
    | none =>
      rw [List.filterMap_cons_none hlast]
      exact ih.trans (List.sublist_append_right l ls.flatten)
    | some x =>
      rw [List.filterMap_cons_some hlast]
      exact (List.singleton_sublist.mpr (List.mem_of_getLast? hlast)).append ih

/-- The last bytes of the lines; all but the last of them are newlines. -/
theorem newline_getLast? (stream : List TaggedByte) :
    ((physicalLines isNewline stream).filterMap List.getLast?).Pairwise
      fun x _ => isNewline x = true := by
  have hnewline : ∀ x ∈ (splitFrom isNewline [] stream).1.filterMap List.getLast?,
      isNewline x = true := by
    intro x hx
    obtain ⟨l, hl, hlast⟩ := List.mem_filterMap.mp hx
    obtain ⟨body, e, rfl, he, -⟩ := splitFrom_terminated isNewline [] stream nofun l hl
    rw [List.getLast?_concat] at hlast
    exact Option.some.inj hlast ▸ he
  rw [physicalLines, List.filterMap_append, List.pairwise_append]
  refine ⟨List.pairwise_of_forall_mem_list fun x hx _ _ => hnewline x hx, ?_,
    fun x hx _ _ => hnewline x hx⟩
  split
  · exact List.Pairwise.nil
  · cases hlast : (splitFrom isNewline [] stream).2.getLast? with
    | none =>
      rw [List.filterMap_cons_none hlast]
      exact List.Pairwise.nil
    | some x =>
      rw [List.filterMap_cons_some hlast]
      exact List.pairwise_singleton _ x

/-- The places where the lines of one segment and channel end. -/
def lineEnds (records : List Record) (key : ℕ × ℕ) : List Coordinates :=
  ((linesOf records key).filterMap List.getLast?).map lineEnd

theorem getLast?_linesOf (records : List Record) (key : ℕ × ℕ) :
    ((linesOf records key).filterMap List.getLast?).Sublist (streamOf records key) := by
  have h := getLast?_sublist (linesOf records key)
  rwa [linesOf, physicalLines_flatten] at h

theorem nodup_lineEnds {records : List Record} (h : (records.map Prod.fst).Nodup)
    (key : ℕ × ℕ) : (lineEnds records key).Nodup := by
  refine List.pairwise_map.mpr ?_
  refine ((apart_streamOf h key).sublist (getLast?_linesOf records key)).imp₂ ?_
    (newline_getLast? (streamOf records key))
  exact fun x y hapart hnewline => hapart hnewline

theorem mem_lineEnds {records : List Record} {key : ℕ × ℕ} {place : Coordinates}
    (h : place ∈ lineEnds records key) :
    ∃ record ∈ records, record.key = key ∧ (ofLex place).1 = record.1 := by
  obtain ⟨x, hx, rfl⟩ := List.mem_map.mp h
  obtain ⟨record, hrecord, hmem⟩ :=
    List.mem_flatMap.mp ((getLast?_linesOf records key).mem hx)
  rw [recordsAt, List.mem_filter] at hrecord
  exact ⟨record, hrecord.1, of_decide_eq_true hrecord.2, (mem_tagFrom hmem).1⟩

/-- No two lines of the history end at one place. -/
theorem nodup_allEnds {records : List Record} (h : (records.map Prod.fst).Nodup)
    {keys : List (ℕ × ℕ)} (hkeys : keys.Nodup) : (keys.flatMap (lineEnds records)).Nodup := by
  refine List.nodup_flatMap.mpr ⟨fun key _ => nodup_lineEnds h key, hkeys.imp ?_⟩
  intro key other hne place hplace hother
  obtain ⟨record, hrecord, hkey, hindex⟩ := mem_lineEnds hplace
  obtain ⟨record', hrecord', hkey', hindex'⟩ := mem_lineEnds hother
  have hsame : record = record' :=
    List.inj_on_of_nodup_map h hrecord hrecord' (hindex.symm.trans hindex')
  exact hne (hkey.symm.trans (hsame ▸ hkey'))

section

variable {α : Type} {place : α → Coordinates}

/-- A description of a line that has the place where the line ends. -/
def EndsAt (place : α → Coordinates) (describe : List TaggedByte → Option α) : Prop :=
  ∀ l r, describe l = some r → ∃ x, l.getLast? = some x ∧ place r = lineEnd x

theorem EndsAt.sublist {describe : List TaggedByte → Option α} (h : EndsAt place describe)
    (ls : List (List TaggedByte)) :
    ((ls.filterMap describe).map place).Sublist ((ls.filterMap List.getLast?).map lineEnd) := by
  induction ls with
  | nil => exact List.Sublist.refl []
  | cons l ls ih =>
    cases hdescribe : describe l with
    | none =>
      rw [List.filterMap_cons_none hdescribe]
      refine ih.trans ?_
      cases hlast : l.getLast? with
      | none =>
        rw [List.filterMap_cons_none hlast]
      | some x =>
        rw [List.filterMap_cons_some hlast]
        exact List.sublist_cons_self _ _
    | some r =>
      obtain ⟨x, hlast, hplace⟩ := h l r hdescribe
      rw [List.filterMap_cons_some hdescribe, List.filterMap_cons_some hlast, List.map_cons,
        List.map_cons, hplace]
      exact ih.cons_cons _

/-- Lines of some kind, described for each segment and channel, have places of their own. -/
theorem nodup_places {records : List Record} (h : (records.map Prod.fst).Nodup)
    {keys : List (ℕ × ℕ)} (hkeys : keys.Nodup)
    {describe : ℕ × ℕ → List TaggedByte → Option α} (hdescribe : ∀ key, EndsAt place (describe key))
    (kind : List TaggedByte → Bool) :
    ((keys.flatMap fun key =>
      ((linesOf records key).filter kind).filterMap (describe key)).map place).Nodup := by
  refine (nodup_allEnds h hkeys).sublist ?_
  rw [List.map_flatMap]
  refine List.Sublist.flatMap_right _ fun key _ => ((hdescribe key).sublist _).trans ?_
  exact (List.filter_sublist.filterMap _).map lineEnd

end

theorem endsAt_completeLine (key : ℕ × ℕ) : EndsAt RecentLogLine.key (completeLine key) := by
  intro l r h
  obtain ⟨x, hx, rfl⟩ := Option.map_eq_some_iff.mp h
  exact ⟨x, hx, rfl⟩

theorem endsAt_partialLine (records : List Record) (key : ℕ × ℕ) :
    EndsAt RecentLogLine.key (partialLine records key) := by
  intro l r h
  obtain ⟨record, -, h⟩ := Option.bind_eq_some_iff.mp h
  obtain ⟨line, hline, h⟩ := Option.bind_eq_some_iff.mp h
  obtain ⟨x, hx, hplace⟩ := endsAt_completeLine key l line hline
  exact ⟨x, hx, Option.some.inj h ▸ hplace⟩

theorem endsAt_oversizedLine (key : ℕ × ℕ) : EndsAt OversizedLogLine.key (oversizedLine key) := by
  intro l r h
  obtain ⟨first, -, h⟩ := Option.bind_eq_some_iff.mp h
  obtain ⟨last, hlast, h⟩ := Option.bind_eq_some_iff.mp h
  exact ⟨last, hlast, Option.some.inj h ▸ rfl⟩

/-! ## Lines made records -/

theorem addAll_eq {α β γ : Type} {key : β → Coordinates} {make : α → Replayed β} {f : γ → α}
    (describe : γ → Option β) {ls : List γ}
    (h : ∀ l ∈ ls, ∃ r, describe l = some r ∧ make (f l) = .ok r) (kept : BoundedNewest β) :
    addAll key make (ls.map f) kept
      = .ok ((ls.filterMap describe).foldl (BoundedNewest.add key) kept) := by
  induction ls generalizing kept with
  | nil => rfl
  | cons l ls ih =>
    obtain ⟨r, hdescribe, hmake⟩ := h l (by simp)
    rw [List.filterMap_cons_some hdescribe, List.foldl_cons,
      ← ih (fun l hl => h l (by simp [hl])) (kept.add key r), addAll, List.map_cons,
      List.foldlM_cons, hmake]
    rfl

theorem normalRecord_lineOf {l : List TaggedByte} {x : TaggedByte} (h : l.getLast? = some x)
    (key : ℕ × ℕ) (timestampUs : ℕ) (isPartial : Bool) :
    ∃ r, completeLine key l = some r ∧ normalRecord key timestampUs isPartial (lineOf l)
      = .ok { r with timestampUs := timestampUs, isPartial := isPartial } := by
  rw [completeLine, h]
  refine ⟨_, rfl, ?_⟩
  rw [normalRecord, lineOf, h]
  rfl

theorem oversizedRecord_oversizedOf {l : List TaggedByte} (h : l ≠ []) (key : ℕ × ℕ) :
    ∃ r, oversizedLine key l = some r ∧ oversizedRecord key (oversizedOf (endsLine l) l) = .ok r := by
  obtain ⟨first, hfirst⟩ : ∃ first, l.head? = some first := ⟨_, List.head?_eq_some_head h⟩
  obtain ⟨last, hlast⟩ : ∃ last, l.getLast? = some last := ⟨_, List.getLast?_eq_some_getLast h⟩
  rw [oversizedLine, oversizedRecord, oversizedOf, hfirst, hlast]
  exact ⟨_, rfl, rfl⟩

/-- The lines a record terminates end in it. -/
theorem getLast?_newLines {records : List Record} {record : Record} {l : List TaggedByte}
    (h : l ∈ newLines records record) :
    ∃ x, l.getLast? = some x ∧ x.2.timestampUs = record.2.timestampUs := by
  obtain ⟨body, x, rfl, hx⟩ := splitFrom_end_mem isNewline _ _ l h
  exact ⟨x, List.getLast?_concat, (mem_tagFrom hx).2.1⟩

theorem endsLine_newLines {records : List Record} {record : Record} {l : List TaggedByte}
    (h : l ∈ newLines records record) : endsLine l = true :=
  endsLine_of_terminated (splitFrom_terminated isNewline _ _ (tailOf_open records record.key)) l h

/-! ## The loop over the records -/

/-- The lines of some kind that have been cut off, described for each segment and channel. -/
def cutRecords {α : Type} (describe : ℕ × ℕ → List TaggedByte → Option α)
    (kind : List TaggedByte → Bool) (keys : List (ℕ × ℕ)) (records : List Record) : List α :=
  keys.flatMap fun key => ((cutLines records key).filter kind).filterMap (describe key)

theorem filter_linesOf (records : List Record) (key : ℕ × ℕ) (kind : List TaggedByte → Bool) :
    (linesOf records key).filter (fun l => endsLine l && kind l)
      = (cutLines records key).filter kind := by
  have hcut : (cutLines records key).filter (fun l => endsLine l && kind l)
      = (cutLines records key).filter kind := by
    refine List.filter_congr fun l hl => ?_
    rw [endsLine_of_terminated (splitFrom_terminated isNewline [] _ nofun) l hl, Bool.true_and]
  have htail : endsLine (splitFrom isNewline [] (streamOf records key)).2 = false :=
    endsLine_of_open (tailOf_open records key)
  rw [linesOf, physicalLines, List.filter_append]
  refine Eq.trans (congrArg₂ _ hcut ?_) (List.append_nil _)
  split
  · rfl
  · exact List.filter_eq_nil_iff.mpr fun l hl => by
      rw [List.mem_singleton.mp hl, htail]
      exact Bool.false_ne_true

section

variable {α : Type} {place : α → Coordinates} {describe : ℕ × ℕ → List TaggedByte → Option α}
  {kind : List TaggedByte → Bool} {keys : List (ℕ × ℕ)} {done : List Record} {record : Record}

theorem cutRecords_nil : cutRecords describe kind keys [] = [] :=
  List.flatMap_eq_nil_iff.mpr fun _ _ => rfl

theorem nodup_cutRecords (h : (done.map Prod.fst).Nodup) (hkeys : keys.Nodup)
    (hdescribe : ∀ key, EndsAt place (describe key)) :
    ((cutRecords describe kind keys done).map place).Nodup := by
  have hnodup := nodup_places h hkeys hdescribe fun l => endsLine l && kind l
  rwa [List.flatMap_congr fun key _ => by rw [filter_linesOf]] at hnodup

theorem cutRecords_concat (hkeys : keys.Nodup) (hkey : record.key ∈ keys) :
    (cutRecords describe kind keys done
      ++ ((newLines done record).filter kind).filterMap (describe record.key)).Perm
        (cutRecords describe kind keys (done ++ [record])) := by
  refine flatMap_concat hkeys hkey ?_ fun key hne => ?_
  · rw [cutLines_self, List.filter_append, List.filterMap_append]
  · rw [cutLines_other done (Ne.symm hne)]

/-- The lines of one more record are added. -/
theorem keeps_concat {lines : ℕ} (hlines : 0 < lines) (hkeys : keys.Nodup) (hkey : record.key ∈ keys)
    (hnodup : ((done ++ [record]).map Prod.fst).Nodup)
    (hdescribe : ∀ key, EndsAt place (describe key)) {kept : BoundedNewest α}
    (h : BoundedNewest.Keeps place lines (cutRecords describe kind keys done) kept) :
    BoundedNewest.Keeps place lines (cutRecords describe kind keys (done ++ [record]))
      ((((newLines done record).filter kind).filterMap (describe record.key)).foldl
        (BoundedNewest.add place) kept) := by
  have hperm : (cutRecords describe kind keys done
      ++ ((newLines done record).filter kind).filterMap (describe record.key)).Perm
        (cutRecords describe kind keys (done ++ [record])) := cutRecords_concat hkeys hkey
  have hplaces : ((cutRecords describe kind keys done
      ++ ((newLines done record).filter kind).filterMap (describe record.key)).map place).Nodup :=
    (hperm.map place).nodup_iff.mpr (nodup_cutRecords hnodup hkeys hdescribe)
  exact (h.addMany hlines hplaces).of_perm hplaces hperm

end

/-- What the replay has after the records `done`, for a list of keys that holds all of theirs. -/
structure Follows (keys : List (ℕ × ℕ)) (lines : ℕ) (done : List Record) (s : Replay) : Prop where
  buffers : ∀ key, s.buffers.getD key {} = ofTail (tailOf done key)
  bufferKeys : ∀ key, key ∈ s.buffers.keys ↔ key ∈ done.map Record.key
  timestamps : ∀ key, s.lastTimestamps.get? key
    = (recordsAt done key).getLast?.map (·.2.timestampUs)
  complete : BoundedNewest.Keeps RecentLogLine.key lines
    (cutRecords completeLine (!oversized ·) keys done) s.complete
  unterminated : s.unterminated = { limit := lines }
  overlong : BoundedNewest.Keeps OversizedLogLine.key lines
    (cutRecords oversizedLine oversized keys done) s.oversized
  count : s.eventCount = done.length

variable {keys : List (ℕ × ℕ)} {lines : ℕ} {done : List Record} {s : Replay}

theorem follows_nil (keys : List (ℕ × ℕ)) (lines : ℕ) :
    Follows keys lines []
      { complete := { limit := lines }
        unterminated := { limit := lines }
        oversized := { limit := lines } } where
  buffers _ := ofTail_nil.symm
  bufferKeys _ := by
    constructor <;> exact nofun
  timestamps _ := rfl
  complete := by
    rw [cutRecords_nil]
    exact BoundedNewest.keeps_nil lines
  unterminated := rfl
  overlong := by
    rw [cutRecords_nil]
    exact BoundedNewest.keeps_nil lines
  count := rfl

/-- Feeding one record's bytes. -/
theorem feedResult_record (h : Follows keys lines done s) (record : Record) :
    (s.buffers.getD record.key {}).feedResult record.2.data (some record.1)
        (some record.2.timestampUs) 0
      = (ofTail (tailOf (done ++ [record]) record.key),
          extend {} (tailOf done record.key) (newLines done record)
            (tailOf (done ++ [record]) record.key)) := by
  rw [h.buffers, feedResult_ofTail, tailOf_self]
  rfl

theorem Follows.step (hlines : 0 < lines) (hkeys : keys.Nodup) {record : Record}
    (hkey : record.key ∈ keys) (hnodup : ((done ++ [record]).map Prod.fst).Nodup) {fileIndex : ℕ}
    (hindex : record.2.evidenceSeq.getD fileIndex = record.1) (h : Follows keys lines done s) :
    ∃ s', replayEvent fileIndex record.2 s = .ok s' ∧ Follows keys lines (done ++ [record]) s' := by
  have hcomplete : addAll RecentLogLine.key (normalRecord record.key record.2.timestampUs false)
      (((newLines done record).filter (!oversized ·)).map lineOf) s.complete
        = .ok ((((newLines done record).filter (!oversized ·)).filterMap
            (completeLine record.key)).foldl (BoundedNewest.add RecentLogLine.key) s.complete) := by
    refine addAll_eq (completeLine record.key) (fun l hl => ?_) s.complete
    obtain ⟨x, hx, htimestamp⟩ := getLast?_newLines (List.mem_of_mem_filter hl)
    obtain ⟨r, hr, hmake⟩ := normalRecord_lineOf hx record.key record.2.timestampUs false
    refine ⟨r, hr, hmake.trans (congrArg _ ?_)⟩
    rw [completeLine, hx] at hr
    rw [← Option.some.inj hr, ← htimestamp]
  have hoversized : addAll OversizedLogLine.key (oversizedRecord record.key)
      (((newLines done record).filter oversized).map (oversizedOf true)) s.oversized
        = .ok ((((newLines done record).filter oversized).filterMap
            (oversizedLine record.key)).foldl (BoundedNewest.add OversizedLogLine.key)
              s.oversized) := by
    refine addAll_eq (oversizedLine record.key) (fun l hl => ?_) s.oversized
    have hmem := List.mem_of_mem_filter hl
    obtain ⟨x, hx, -⟩ := getLast?_newLines hmem
    rw [← endsLine_newLines hmem]
    exact oversizedRecord_oversizedOf (by rintro rfl; cases hx) record.key
  unfold replayEvent
  dsimp only
  rw [hindex, show record.2.key = record.key from rfl, feedResult_record h record, extend_lines,
    extend_oversizedLines, List.nil_append, List.nil_append, hcomplete]
  dsimp only [bind, Except.bind]
  rw [hoversized]
  refine ⟨_, rfl, fun key => ?_, fun key => ?_, fun key => ?_, ?_, h.unterminated, ?_, ?_⟩
  · rw [Dict.getD_set]
    by_cases hk : key = record.key
    · rw [if_pos hk, hk]
    · rw [if_neg hk, h.buffers, tailOf_other done (Ne.symm hk)]
  · rw [Dict.mem_keys_iff, List.map_append, List.mem_append, ← h.bufferKeys, Dict.mem_keys_iff,
      List.map_singleton, List.mem_singleton, Dict.get?_set]
    by_cases hk : key = record.key
    · rw [if_pos hk]
      exact ⟨fun _ => .inr hk, fun _ => ⟨_, rfl⟩⟩
    · rw [if_neg hk]
      exact ⟨.inl, fun hor => hor.resolve_right hk⟩
  · rw [Dict.get?_set, recordsAt, List.filter_append]
    by_cases hk : key = record.key
    · rw [if_pos hk, List.filter_singleton, decide_eq_true hk.symm, cond_true,
        List.getLast?_concat]
      rfl
    · rw [if_neg hk, List.filter_singleton, decide_eq_false (Ne.symm hk), cond_false,
        List.append_nil, h.timestamps]
      rfl
  · exact keeps_concat hlines hkeys hkey hnodup endsAt_completeLine h.complete
  · exact keeps_concat hlines hkeys hkey hnodup endsAt_oversizedLine h.overlong
  · rw [List.length_append, List.length_singleton, ← h.count]

theorem recordsFrom_cons (fileIndex : ℕ) (event : UartEvent) (events : List UartEvent) :
    recordsFrom fileIndex (event :: events)
      = (event.evidenceSeq.getD fileIndex, event) :: recordsFrom (fileIndex + 1) events := by
  rw [recordsFrom, List.zipIdx_cons]
  rfl

theorem replayRecords_follows (hlines : 0 < lines) (hkeys : keys.Nodup)
    {decode : List UInt8 → Replayed UartEvent} {raws : List (List UInt8)}
    {events : List UartEvent} {fileIndex : ℕ} (hdecode : raws.mapM decode = .ok events)
    (hall : ∀ event ∈ events, event.key ∈ keys)
    (hnodup : ((done ++ recordsFrom fileIndex events).map Prod.fst).Nodup)
    (h : Follows keys lines done s) :
    ∃ s', replayRecords decode fileIndex raws s = .ok s' ∧
      Follows keys lines (done ++ recordsFrom fileIndex events) s' := by
  induction raws generalizing events fileIndex done s with
  | nil =>
    have hevents : events = [] := (Except.ok.inj hdecode).symm
    subst hevents
    exact ⟨s, rfl, (List.append_nil done).symm ▸ h⟩
  | cons raw raws ih =>
    rw [List.mapM_cons] at hdecode
    cases hraw : decode raw with
    | error fault =>
      rw [hraw] at hdecode
      cases hdecode
    | ok event =>
      cases hrest : raws.mapM decode with
      | error fault =>
        rw [hraw, hrest] at hdecode
        cases hdecode
      | ok rest =>
        rw [hraw, hrest] at hdecode
        obtain rfl : event :: rest = events := Except.ok.inj hdecode
        rw [recordsFrom_cons, List.append_cons] at hnodup ⊢
        have hfirst : ((done ++ [(event.evidenceSeq.getD fileIndex, event)]).map Prod.fst).Nodup := by
          rw [List.map_append] at hnodup
          exact hnodup.of_append_left
        have hkey : Record.key (event.evidenceSeq.getD fileIndex, event) ∈ keys :=
          hall event (by simp)
        obtain ⟨s', hstep, hfollows⟩ := h.step hlines hkeys hkey hfirst rfl
        rw [replayRecords, hraw]
        dsimp only [bind, Except.bind]
        rw [hstep]
        exact ih hrest (fun event hevent => hall event (by simp [hevent])) hnodup hfollows

/-! ## The flush -/

/-- The unterminated line, if there is one. -/
def tailLines (records : List Record) (key : ℕ × ℕ) : List (List TaggedByte) :=
  if tailOf records key = [] then [] else [tailOf records key]

theorem linesOf_eq (records : List Record) (key : ℕ × ℕ) :
    linesOf records key = cutLines records key ++ tailLines records key := rfl

def tailRecords {α : Type} (describe : ℕ × ℕ → List TaggedByte → Option α)
    (kind : List TaggedByte → Bool) (records : List Record) (key : ℕ × ℕ) : List α :=
  ((tailLines records key).filter kind).filterMap (describe key)

theorem flushResult_lines (records : List Record) (key : ℕ × ℕ) :
    ((ofTail (tailOf records key)).flushResult).2.lines
        = ((tailLines records key).filter (!oversized ·)).map lineOf ∧
      ((ofTail (tailOf records key)).flushResult).2.oversizedLines
        = ((tailLines records key).filter oversized).map (oversizedOf false) := by
  rw [flushResult_ofTail, tailLines]
  by_cases hnil : tailOf records key = []
  · rw [if_pos hnil, if_pos hnil]
    exact ⟨rfl, rfl⟩
  · rw [if_neg hnil, if_neg hnil, List.filter_singleton, List.filter_singleton]
    cases hlong : oversized (tailOf records key) with
    | true => exact ⟨rfl, rfl⟩
    | false => exact ⟨rfl, rfl⟩

theorem mem_tailLines {records : List Record} {key : ℕ × ℕ} {l : List TaggedByte}
    (h : l ∈ tailLines records key) : l ≠ [] ∧ endsLine l = false := by
  rw [tailLines] at h
  split at h
  · cases h
  · next hne =>
    rw [List.mem_singleton.mp h]
    exact ⟨hne, endsLine_of_open (tailOf_open records key)⟩

theorem flushBuffer_eq {records : List Record} {lastTimestamps : Dict (ℕ × ℕ) ℕ} {key : ℕ × ℕ}
    {last : Record} (hlast : (recordsAt records key).getLast? = some last)
    (htimestamp : lastTimestamps.get? key = some last.2.timestampUs)
    (kept : BoundedNewest RecentLogLine × BoundedNewest OversizedLogLine) :
    flushBuffer lastTimestamps kept (key, ofTail (tailOf records key))
      = .ok ((tailRecords (partialLine records) (!oversized ·) records key).foldl
            (BoundedNewest.add RecentLogLine.key) kept.1,
          (tailRecords oversizedLine oversized records key).foldl
            (BoundedNewest.add OversizedLogLine.key) kept.2) := by
  obtain ⟨hlines, hlong⟩ := flushResult_lines records key
  unfold flushBuffer
  dsimp only
  rw [hlines, hlong, htimestamp]
  dsimp only
  rw [addAll_eq (partialLine records key), addAll_eq (oversizedLine key)]
  · rfl
  · intro l hl
    obtain ⟨hne, hends⟩ := mem_tailLines (List.mem_of_mem_filter hl)
    rw [← hends]
    exact oversizedRecord_oversizedOf hne key
  · intro l hl
    obtain ⟨hne, -⟩ := mem_tailLines (List.mem_of_mem_filter hl)
    obtain ⟨r, hr, hmake⟩ := normalRecord_lineOf (List.getLast?_eq_some_getLast hne) key
      last.2.timestampUs true
    refine ⟨_, ?_, hmake⟩
    rw [partialLine, hlast, hr]
    rfl

theorem flushBuffers_eq {records : List Record} {lastTimestamps : Dict (ℕ × ℕ) ℕ}
    {entries : List ((ℕ × ℕ) × UartLineBuffer)}
    (h : ∀ entry ∈ entries, entry.2 = ofTail (tailOf records entry.1) ∧
      ∃ last, (recordsAt records entry.1).getLast? = some last ∧
        lastTimestamps.get? entry.1 = some last.2.timestampUs)
    (kept : BoundedNewest RecentLogLine × BoundedNewest OversizedLogLine) :
    entries.foldlM (flushBuffer lastTimestamps) kept
      = .ok (((entries.map Prod.fst).flatMap
              (tailRecords (partialLine records) (!oversized ·) records)).foldl
            (BoundedNewest.add RecentLogLine.key) kept.1,
          ((entries.map Prod.fst).flatMap (tailRecords oversizedLine oversized records)).foldl
            (BoundedNewest.add OversizedLogLine.key) kept.2) := by
  induction entries generalizing kept with
  | nil => rfl
  | cons entry entries ih =>
    obtain ⟨hbuffer, last, hlast, htimestamp⟩ := h entry (by simp)
    have hentry : entry = (entry.1, ofTail (tailOf records entry.1)) := Prod.ext rfl hbuffer
    rw [List.foldlM_cons, hentry, flushBuffer_eq hlast htimestamp kept]
    dsimp only [bind, Except.bind]
    rw [ih (fun entry hentry => h entry (by simp [hentry])), List.map_cons, List.flatMap_cons,
      List.flatMap_cons, List.foldl_append, List.foldl_append]

theorem filter_linesOf_tail (records : List Record) (key : ℕ × ℕ) (kind : List TaggedByte → Bool) :
    (linesOf records key).filter (fun l => !endsLine l && kind l)
      = (tailLines records key).filter kind := by
  have hcut : (cutLines records key).filter (fun l => !endsLine l && kind l) = [] := by
    refine List.filter_eq_nil_iff.mpr fun l hl => ?_
    rw [endsLine_of_terminated (splitFrom_terminated isNewline [] _ nofun) l hl]
    exact nofun
  rw [linesOf_eq, List.filter_append, hcut, List.nil_append]
  refine List.filter_congr fun l hl => ?_
  rw [(mem_tailLines hl).2]
  rfl

/-- The entries that the loop leaves, one for each segment and channel. -/
theorem Follows.entries (h : Follows keys lines done s) :
    (s.buffers.entries.map Prod.fst).Perm (keysOf done) ∧
      ∀ entry ∈ s.buffers.entries, entry.2 = ofTail (tailOf done entry.1) ∧
        ∃ last, (recordsAt done entry.1).getLast? = some last ∧
          s.lastTimestamps.get? entry.1 = some last.2.timestampUs := by
  refine ⟨(List.perm_ext_iff_of_nodup s.buffers.nodup (List.nodup_dedup _)).mpr fun key => ?_,
    fun entry hentry => ⟨?_, ?_⟩⟩
  · rw [List.mem_dedup]
    exact h.bufferKeys key
  · rw [← h.buffers, Dict.getD, (s.buffers.get?_eq_some_iff _ _).mpr hentry]
    rfl
  · have hkey := (h.bufferKeys entry.1).mp (List.mem_map_of_mem hentry)
    obtain ⟨record, hrecord, heq⟩ := List.mem_map.mp hkey
    have hmem : record ∈ recordsAt done entry.1 :=
      List.mem_filter.mpr ⟨hrecord, decide_eq_true heq⟩
    have hlast := List.getLast?_eq_some_getLast (List.ne_nil_of_mem hmem)
    exact ⟨_, hlast, by rw [h.timestamps, hlast]; rfl⟩

theorem keeps_complete {records : List Record} {kept : BoundedNewest RecentLogLine}
    (h : BoundedNewest.Keeps RecentLogLine.key lines
      (cutRecords completeLine (!oversized ·) (keysOf records) records) kept) :
    BoundedNewest.Keeps RecentLogLine.key lines (completeLines records) kept := by
  have hlisted : completeLines records
      = cutRecords completeLine (!oversized ·) (keysOf records) records :=
    List.flatMap_congr fun key _ => by rw [filter_linesOf]
  rwa [hlisted]

theorem keeps_partial {records : List Record} (hlines : 0 < lines)
    (hnodup : (records.map Prod.fst).Nodup) {entryKeys : List (ℕ × ℕ)}
    (hperm : entryKeys.Perm (keysOf records)) :
    BoundedNewest.Keeps RecentLogLine.key lines (partialLines records)
      ((entryKeys.flatMap (tailRecords (partialLine records) (!oversized ·) records)).foldl
        (BoundedNewest.add RecentLogLine.key) { limit := lines }) := by
  have htails : (keysOf records).flatMap
      (tailRecords (partialLine records) (!oversized ·) records) = partialLines records := by
    refine List.flatMap_congr fun key _ => ?_
    rw [filter_linesOf_tail]
    rfl
  have hlisted := htails ▸ hperm.flatMap_right
    (tailRecords (partialLine records) (!oversized ·) records)
  have hplaces := (hlisted.map RecentLogLine.key).nodup_iff.mpr
    (nodup_places hnodup (List.nodup_dedup _) (endsAt_partialLine records) _)
  exact ((BoundedNewest.keeps_nil lines).addMany hlines hplaces).of_perm hplaces hlisted

theorem keeps_oversized {records : List Record} (hlines : 0 < lines)
    (hnodup : (records.map Prod.fst).Nodup) {entryKeys : List (ℕ × ℕ)}
    (hperm : entryKeys.Perm (keysOf records)) {kept : BoundedNewest OversizedLogLine}
    (h : BoundedNewest.Keeps OversizedLogLine.key lines
      (cutRecords oversizedLine oversized (keysOf records) records) kept) :
    BoundedNewest.Keeps OversizedLogLine.key lines (oversizedLines records)
      ((entryKeys.flatMap (tailRecords oversizedLine oversized records)).foldl
        (BoundedNewest.add OversizedLogLine.key) kept) := by
  have hlisted : (cutRecords oversizedLine oversized (keysOf records) records
      ++ entryKeys.flatMap (tailRecords oversizedLine oversized records)).Perm
        (oversizedLines records) := by
    refine ((hperm.flatMap_right _).append_left _).trans ?_
    refine (List.flatMap_append_perm (keysOf records) _ _).trans (List.Perm.of_eq ?_)
    refine List.flatMap_congr fun key _ => ?_
    rw [linesOf_eq, List.filter_append, List.filterMap_append]
    rfl
  have hplaces := (hlisted.map OversizedLogLine.key).nodup_iff.mpr
    (nodup_places hnodup (List.nodup_dedup _) endsAt_oversizedLine _)
  exact (h.addMany hlines hplaces).of_perm hplaces hlisted

/-! ## The replay -/

/-- The decoded records of a journal. -/
def decodePrefix (limits : JsonLimits) (validSegmentIds : List ℕ) (schemaVersion : ℕ)
    (bytes : List UInt8) : Replayed (List UartEvent) :=
  (splitlines bytes).mapM (decodeUartEvent limits validSegmentIds schemaVersion)

theorem evidenceSeq_decodeUartFields {validSegmentIds : List ℕ} {schemaVersion : ℕ}
    {fields : Payload} {event : UartEvent}
    (h : decodeUartFields validSegmentIds schemaVersion fields = .ok event) :
    event.evidenceSeq.isSome = decide (schemaVersion = 2) := by
  unfold decodeUartFields at h
  dsimp only at h
  generalize (if schemaVersion = 2 then "uart_rx" else "uart") = expectedType at h
  split at h
  · cases h
  obtain ⟨segmentId, -, h⟩ := Throwing.except_bind_eq_ok.mp h
  split at h
  · cases h
  obtain ⟨timestampUs, -, h⟩ := Throwing.except_bind_eq_ok.mp h
  obtain ⟨channel, -, h⟩ := Throwing.except_bind_eq_ok.mp h
  obtain ⟨data, -, h⟩ := Throwing.except_bind_eq_ok.mp h
  split at h
  · cases h
  split at h
  · next hversion =>
    obtain ⟨evidenceSeq, -, h⟩ := Throwing.except_bind_eq_ok.mp h
    rw [← Except.ok.inj h, decide_eq_true hversion]
    rfl
  · next hversion =>
    rw [← Except.ok.inj h, decide_eq_false hversion]
    rfl

theorem evidenceSeq_decodeUartEvent {limits : JsonLimits} {validSegmentIds : List ℕ}
    {schemaVersion : ℕ} {raw : List UInt8} {event : UartEvent}
    (h : decodeUartEvent limits validSegmentIds schemaVersion raw = .ok event) :
    event.evidenceSeq.isSome = decide (schemaVersion = 2) := by
  unfold decodeUartEvent at h
  generalize (if schemaVersion = 2 then v2UartEventKeys else uartEventKeys) = keys at h
  split at h
  · cases h
  split at h
  · cases h
  split at h
  · cases h
  · split at h
    · cases h
    · exact evidenceSeq_decodeUartFields h
  · cases h

theorem mem_of_mapM {α β : Type} {decode : α → Replayed β} {raws : List α} {events : List β}
    (h : raws.mapM decode = .ok events) : ∀ event ∈ events, ∃ raw ∈ raws, decode raw = .ok event := by
  induction raws generalizing events with
  | nil =>
    rw [← Except.ok.inj h]
    exact nofun
  | cons raw raws ih =>
    rw [List.mapM_cons] at h
    obtain ⟨first, hfirst, h⟩ := Throwing.except_bind_eq_ok.mp h
    obtain ⟨rest, hrest, h⟩ := Throwing.except_bind_eq_ok.mp h
    intro event hevent
    rw [← Except.ok.inj h] at hevent
    rcases List.mem_cons.mp hevent with rfl | hevent
    · exact ⟨raw, by simp, hfirst⟩
    · obtain ⟨other, hother, hdecoded⟩ := ih hrest event hevent
      exact ⟨other, by simp [hother], hdecoded⟩

/-- The records are told apart by their indices: the place in the journal, or the number that the
store gave to none but one of them. -/
theorem nodup_recordsFrom {schemaVersion : ℕ} {events : List UartEvent}
    (hversion : ∀ event ∈ events, event.evidenceSeq.isSome = decide (schemaVersion = 2))
    (hnumbers : schemaVersion = 2 → (events.map UartEvent.evidenceSeq).Nodup) (fileIndex : ℕ) :
    ((recordsFrom fileIndex events).map Prod.fst).Nodup := by
  by_cases htwo : schemaVersion = 2
  · refine List.Nodup.of_map some ?_
    have hsame : ((recordsFrom fileIndex events).map Prod.fst).map some
        = events.map UartEvent.evidenceSeq := by
      rw [recordsFrom, List.map_map, List.map_map]
      refine Eq.trans ?_ (congrArg (List.map UartEvent.evidenceSeq)
        (List.zipIdx_map_fst fileIndex events))
      rw [List.map_map]
      refine List.map_congr_left fun e he => ?_
      obtain ⟨seq, hseq⟩ := Option.isSome_iff_exists.mp
        ((hversion e.1 (List.fst_mem_of_mem_zipIdx he)).trans (decide_eq_true htwo))
      change some (e.1.evidenceSeq.getD e.2) = e.1.evidenceSeq
      rw [hseq]
      rfl
    rw [hsame]
    exact hnumbers htwo
  · have hsame : (recordsFrom fileIndex events).map Prod.fst
        = (events.zipIdx fileIndex).map Prod.snd := by
      rw [recordsFrom, List.map_map]
      refine List.map_congr_left fun e he => ?_
      have hnone := (hversion e.1 (List.fst_mem_of_mem_zipIdx he)).trans (decide_eq_false htwo)
      change e.1.evidenceSeq.getD e.2 = e.2
      rw [Option.isNone_iff_eq_none.mp (Option.isSome_eq_false_iff.mp hnone)]
      rfl
    rw [hsame, List.zipIdx_map_snd]
    exact List.nodup_range'

/-- A replay gives the newest lines of the whole history, of every kind, and the number of the
others. -/
theorem replayUartPrefix_newest {limits : JsonLimits} {lines : ℕ}
    {validSegmentIds : List ℕ} {schemaVersion : ℕ} {bytes : List UInt8} {events : List UartEvent}
    (hlines : 0 < lines)
    (hdecode : decodePrefix limits validSegmentIds schemaVersion bytes = .ok events)
    (hnumbers : schemaVersion = 2 → (events.map UartEvent.evidenceSeq).Nodup) :
    ∃ result, replayUartPrefix limits lines validSegmentIds schemaVersion bytes = .ok result ∧
      IsNewest lines (recordsOf events) result := by
  have hnodup : ((recordsOf events).map Prod.fst).Nodup := by
    refine nodup_recordsFrom (fun event hevent => ?_) hnumbers 0
    obtain ⟨raw, -, hraw⟩ := mem_of_mapM hdecode event hevent
    exact evidenceSeq_decodeUartEvent hraw
  have hall : ∀ event ∈ events, event.key ∈ keysOf (recordsOf events) := by
    intro event hevent
    obtain ⟨i, hi, rfl⟩ := List.mem_iff_getElem.mp hevent
    rw [keysOf, List.mem_dedup, List.mem_map]
    exact ⟨_, List.mem_map_of_mem
      (List.mk_mem_zipIdx_iff_getElem?.mpr (List.getElem?_eq_getElem hi)), rfl⟩
  obtain ⟨s, hs, hfollows⟩ := replayRecords_follows hlines (List.nodup_dedup _) hdecode hall hnodup
    (follows_nil (keysOf (recordsOf events)) lines)
  rw [List.nil_append] at hfollows
  obtain ⟨hkeys, hentries⟩ := hfollows.entries
  have hcomplete := keeps_complete hfollows.complete
  have hpartial := keeps_partial hlines hnodup hkeys
  have hoversized := keeps_oversized hlines hnodup hkeys hfollows.overlong
  unfold replayUartPrefix
  rw [hs]
  dsimp only [bind, Except.bind]
  rw [flushBuffers_eq hentries, hfollows.unterminated]
  exact ⟨_, rfl, hfollows.count, hcomplete.values, hpartial.values, hoversized.values,
    hcomplete.omitted_eq, hpartial.omitted_eq, hoversized.omitted_eq⟩

/-- A record of each of two channels, the second of which ends in the middle of a line. -/
def sampleJournal : List UInt8 :=
  Utf8.encode
    ("\x7b\"type\":\"uart\",\"segment_id\":0,\"timestamp_us\":5,\"channel\":0," ++
      "\"data_b64\":\"YQo=\",\"text\":\"a\\n\"\x7d\n" ++
      "\x7b\"type\":\"uart\",\"segment_id\":0,\"timestamp_us\":6,\"channel\":1," ++
      "\"data_b64\":\"Yg==\",\"text\":\"b\"\x7d\n")

theorem replayUartPrefix_newest_sample :
    ∃ result,
      replayUartPrefix ⟨4300, 100, by decide, by decide⟩ 1 [0] 1 sampleJournal = .ok result ∧
        IsNewest 1 (recordsOf [⟨0, 0, 5, [97, 10], none⟩, ⟨0, 1, 6, [98], none⟩]) result :=
  replayUartPrefix_newest (by decide) (by decide +kernel) nofun

end LogReplay
