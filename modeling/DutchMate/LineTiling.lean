/-
# Lines tile what is fed

Whatever the calls the bytes come in, the line buffer returns the physical lines of the whole
input: those that fit byte for byte, the others by their length, each with the place of its
first and of its last byte.
-/
import DutchMate.LineBuffer
import Mathlib.Algebra.GroupWithZero.Nat
import Mathlib.Data.Nat.PSub

open SplitLines

/-- One `feed_result` call. -/
structure FeedCall where
  data : List UInt8
  ingestionIndex : Option ℕ := none
  timestampUs : Option ℕ := none
  eventOffsetBase : ℕ := 0
  deriving DecidableEq, Repr

namespace UartLineBuffer

def feedCall (b : UartLineBuffer) (call : FeedCall) : UartLineBuffer × UartLineBufferResult :=
  b.feedResult call.data call.ingestionIndex call.timestampUs call.eventOffsetBase

def feedCalls (b : UartLineBuffer) : List FeedCall → UartLineBuffer × List UartLineBufferResult
  | [] => (b, [])
  | call :: calls =>
    let (b, result) := b.feedCall call
    let (b, results) := b.feedCalls calls
    (b, result :: results)

/-- What the calls and a flush after them return. -/
def results (calls : List FeedCall) : List UartLineBufferResult :=
  let (b, results) := feedCalls {} calls
  results ++ [b.flushResult.2]

end UartLineBuffer

/-! ## Physical lines -/

/-- A byte with the ingestion index and the offset it was fed at. -/
structure ReceivedByte where
  byte : UInt8
  ingestionIndex : Option ℕ
  eventOffset : ℕ
  deriving DecidableEq, Repr

namespace ReceivedByte

def isNewline (b : ReceivedByte) : Bool := b.byte == newline

def ofData (ingestionIndex : Option ℕ) (eventOffset : ℕ) : List UInt8 → List ReceivedByte
  | [] => []
  | b :: data => ⟨b, ingestionIndex, eventOffset⟩ :: ofData ingestionIndex (eventOffset + 1) data

end ReceivedByte

/-- The bytes of the calls. -/
def received (calls : List FeedCall) : List ReceivedByte :=
  calls.flatMap fun call => ReceivedByte.ofData call.ingestionIndex call.eventOffsetBase call.data

/-- The lines of a stream, the last one perhaps without its end. -/
def physicalLines {α : Type} (isEnd : α → Bool) (stream : List α) : List (List α) :=
  (splitFrom isEnd [] stream).1 ++
    if (splitFrom isEnd [] stream).2 = [] then [] else [(splitFrom isEnd [] stream).2]

/-- Where a line starts and ends. -/
structure LineExtent where
  startIngestionIndex : Option ℕ
  startEventOffset : Option ℕ
  endIngestionIndex : Option ℕ
  endEventOffset : Option ℕ
  deriving DecidableEq, Repr

/-- From the place of the first byte to the place behind the last one. -/
def extent (line : List ReceivedByte) : LineExtent where
  startIngestionIndex := line.head?.bind (·.ingestionIndex)
  startEventOffset := line.head?.map (·.eventOffset)
  endIngestionIndex := line.getLast?.bind (·.ingestionIndex)
  endEventOffset := line.getLast?.map (·.eventOffset + 1)

def UartLine.extent (line : UartLine) : LineExtent where
  startIngestionIndex := line.startIngestionIndex
  startEventOffset := line.startEventOffset
  endIngestionIndex := line.endIngestionIndex
  endEventOffset := line.endEventOffset

def OversizedUartLine.extent (line : OversizedUartLine) : LineExtent where
  startIngestionIndex := line.startIngestionIndex
  startEventOffset := line.startEventOffset
  endIngestionIndex := line.endIngestionIndex
  endEventOffset := line.endEventOffset

def fits {α : Type} (line : List α) : Bool := line.length ≤ maxUartLineBytes

/-- Whether a line has its newline. -/
def isTerminated (line : List ReceivedByte) : Bool := line.getLast?.any (·.isNewline)

theorem physicalLines_flatten {α : Type} (isEnd : α → Bool) (stream : List α) :
    (physicalLines isEnd stream).flatten = stream := by
  have htile := splitFrom_flatten isEnd [] stream
  rw [List.nil_append] at htile
  rw [physicalLines, List.flatten_append]
  split
  · rename_i htail
    rw [htail] at htile
    simpa using htile
  · simpa using htile

theorem physicalLines_map {α β : Type} (isEnd : β → Bool) (f : α → β) (stream : List α) :
    physicalLines isEnd (stream.map f) = (physicalLines (isEnd ∘ f) stream).map (List.map f) := by
  have hmap := splitFrom_map isEnd f [] stream
  rw [List.map_nil] at hmap
  rw [physicalLines, hmap, physicalLines, List.map_append]
  by_cases htail : (splitFrom (isEnd ∘ f) [] stream).2 = []
  · simp [htail]
  · simp [htail]

/-! ## Tagged calls

A call without an index or a timestamp is fed as one with the index zero; the others move up
by one.  `Nat.ppred` takes that back. -/

def indexCode : Option ℕ → ℕ
  | none => 0
  | some n => n + 1

/-- The index behind a code. -/
def decodeIndex (code : Option ℕ) : Option ℕ := code.bind Nat.ppred

theorem decodeIndex_code (index : Option ℕ) : decodeIndex (some (indexCode index)) = index := by
  cases index <;> rfl

def FeedCall.tagged (call : FeedCall) : List TaggedByte :=
  tagFrom (indexCode call.ingestionIndex) (indexCode call.timestampUs) call.eventOffsetBase 0
    call.data

/-- The byte behind a tagged one. -/
def TaggedByte.received (x : TaggedByte) : ReceivedByte :=
  ⟨x.1, Nat.ppred x.2.ingestionIndex, x.2.offset⟩

theorem received_tagFrom (index : Option ℕ) (ts offset line : ℕ) (data : List UInt8) :
    (tagFrom (indexCode index) ts offset line data).map TaggedByte.received
      = ReceivedByte.ofData index offset data := by
  have hdecode : Nat.ppred (indexCode index) = index := decodeIndex_code index
  induction data generalizing offset line with
  | nil => rfl
  | cons b data ih =>
    rw [tagFrom, List.map_cons, ih, TaggedByte.received, hdecode]
    rfl

theorem received_eq (calls : List FeedCall) :
    (calls.flatMap FeedCall.tagged).map TaggedByte.received = received calls := by
  rw [received, List.map_flatMap]
  exact List.flatMap_congr fun call _ => received_tagFrom _ _ _ _ _

namespace UartLineBuffer

/-- One call, from the buffer after `t`. -/
theorem feedCall_ofTail (call : FeedCall) (t : List TaggedByte) :
    feedCall ((ofTail t).rename decodeIndex decodeIndex) call
      = renameBoth decodeIndex decodeIndex
          (ofTail (splitFrom isNewline t call.tagged).2,
            extend {} t (splitFrom isNewline t call.tagged).1
              (splitFrom isNewline t call.tagged).2) := by
  have hrename := feedResult_rename (f := decodeIndex) (g := decodeIndex) rfl rfl (ofTail t)
    call.data (some (indexCode call.ingestionIndex)) (some (indexCode call.timestampUs))
    call.eventOffsetBase
  rw [decodeIndex_code, decodeIndex_code, feedResult_ofTail] at hrename
  exact hrename

/-- What calls return, `t` having waited before them: the lines `ls`, and now `t'` waits. -/
structure Returned (results : List UartLineBufferResult) (t : List TaggedByte)
    (ls : List (List TaggedByte)) (t' : List TaggedByte) : Prop where
  lines : results.flatMap (·.lines)
    = ((ls.filter (!oversized ·)).map lineOf).map (UartLine.rename decodeIndex)
  oversizedLines : results.flatMap (·.oversizedLines)
    = ((ls.filter oversized).map (oversizedOf true)).map
        (OversizedUartLine.rename decodeIndex decodeIndex)
  count : (results.map (·.newlyOversizedLineCount)).sum + (if oversized t then 1 else 0)
    = (ls ++ [t']).countP oversized

theorem Returned.nil (t : List TaggedByte) : Returned [] t [] t where
  lines := rfl
  oversizedLines := rfl
  count := by by_cases h : oversized t <;> simp [h]

/-- One more call before. -/
theorem Returned.cons {results : List UartLineBufferResult} {t t' t'' : List TaggedByte}
    {ls ls' : List (List TaggedByte)} (h : Returned results t' ls' t'')
    (hmono : ∀ l ∈ (ls ++ [t']).head?, t.length ≤ l.length) :
    Returned ((extend {} t ls t').rename decodeIndex decodeIndex :: results) t (ls ++ ls') t'' where
  lines := by
    rw [List.flatMap_cons, h.lines, UartLineBufferResult.rename, extend_lines]
    simp
  oversizedLines := by
    rw [List.flatMap_cons, h.oversizedLines, UartLineBufferResult.rename, extend_oversizedLines]
    simp
  count := by
    have hfirst := extend_newlyOversizedLineCount {} t ls t' hmono
    have hrest := h.count
    rw [List.countP_append, List.countP_singleton] at hfirst hrest
    rw [List.map_cons, List.sum_cons, List.countP_append, List.countP_append,
      List.countP_singleton]
    have hrenamed : ((extend {} t ls t').rename decodeIndex decodeIndex).newlyOversizedLineCount
        = (extend {} t ls t').newlyOversizedLineCount := rfl
    have hzero : ({} : UartLineBufferResult).newlyOversizedLineCount = 0 := rfl
    omega

/-- The first line that is cut off, or else the tail, begins with what waited. -/
theorem length_le_head {α : Type} (isEnd : α → Bool) (t xs : List α) :
    ∀ l ∈ ((splitFrom isEnd t xs).1 ++ [(splitFrom isEnd t xs).2]).head?, t.length ≤ l.length := by
  induction xs generalizing t with
  | nil =>
    intro l hl
    rw [splitFrom_nil, List.nil_append, List.head?_cons, Option.mem_some_iff] at hl
    exact Nat.le_of_eq (congrArg List.length hl)
  | cons x xs ih =>
    intro l hl
    by_cases hx : isEnd x
    · rw [splitFrom, if_pos hx, List.cons_append, List.head?_cons, Option.mem_some_iff] at hl
      rw [← hl, List.length_append]
      exact Nat.le_add_right _ _
    · rw [splitFrom, if_neg hx] at hl
      have hle := ih (t ++ [x]) l hl
      rw [List.length_append] at hle
      exact Nat.le_trans (Nat.le_add_right _ _) hle

theorem feedCalls_ofTail (calls : List FeedCall) (t : List TaggedByte) :
    (feedCalls ((ofTail t).rename decodeIndex decodeIndex) calls).1
        = (ofTail (splitFrom isNewline t (calls.flatMap FeedCall.tagged)).2).rename decodeIndex
            decodeIndex ∧
      Returned (feedCalls ((ofTail t).rename decodeIndex decodeIndex) calls).2 t
        (splitFrom isNewline t (calls.flatMap FeedCall.tagged)).1
        (splitFrom isNewline t (calls.flatMap FeedCall.tagged)).2 := by
  induction calls generalizing t with
  | nil => exact ⟨rfl, .nil t⟩
  | cons call calls ih =>
    obtain ⟨hbuffer, hreturned⟩ := ih (splitFrom isNewline t call.tagged).2
    rw [List.flatMap_cons, splitFrom_append, feedCalls, feedCall_ofTail]
    exact ⟨hbuffer, hreturned.cons (length_le_head isNewline t call.tagged)⟩

/-- The flush returns the tail as a line, if there is one. -/
theorem flushResult_ofTail (t : List TaggedByte) :
    ((ofTail t).flushResult).2
      = if t = [] then {}
        else if oversized t then { oversizedLines := [oversizedOf false t] }
        else { lines := [lineOf t] } := by
  by_cases ht : t = []
  · subst ht
    rw [if_pos rfl, ofTail_nil]
    rfl
  rw [if_neg ht]
  cases hover : oversized t with
  | true =>
    rw [ofTail_oversized hover, if_pos rfl]
    rfl
  | false =>
    have hpending : (t.map Prod.fst).isEmpty = false := by simpa using ht
    rw [ofTail_pending hover, if_neg nofun]
    simp only [flushResult, hpending]
    rfl

/-- A tagged line that ends in a newline. -/
def endsLine (l : List TaggedByte) : Bool := l.getLast?.any isNewline

theorem endsLine_of_terminated {ls : List (List TaggedByte)}
    (h : ∀ l ∈ ls, ∃ body e, l = body ++ [e] ∧ isNewline e = true ∧
      ∀ x ∈ body, isNewline x = false) : ∀ l ∈ ls, endsLine l = true := by
  intro l hl
  obtain ⟨body, e, rfl, he, _⟩ := h l hl
  rw [endsLine, List.getLast?_concat]
  exact he

theorem endsLine_of_open {t : List TaggedByte} (h : ∀ x ∈ t, isNewline x = false) :
    endsLine t = false := by
  rw [endsLine]
  cases hlast : t.getLast? with
  | none => rfl
  | some x => exact h x (List.mem_of_getLast? hlast)

/-- The results over the whole input, in tagged bytes. -/
theorem results_tagged (calls : List FeedCall) :
    (results calls).flatMap (·.lines)
        = (((physicalLines isNewline (calls.flatMap FeedCall.tagged)).filter
            (!oversized ·)).map lineOf).map (UartLine.rename decodeIndex) ∧
      (results calls).flatMap (·.oversizedLines)
        = (((physicalLines isNewline (calls.flatMap FeedCall.tagged)).filter oversized).map
            fun l => oversizedOf (endsLine l) l).map
              (OversizedUartLine.rename decodeIndex decodeIndex) ∧
      ((results calls).map (·.newlyOversizedLineCount)).sum
        = (physicalLines isNewline (calls.flatMap FeedCall.tagged)).countP oversized := by
  have hempty : (ofTail []).rename decodeIndex decodeIndex = {} := by
    rw [ofTail_nil]
    rfl
  obtain ⟨hbuffer, hlines, hover, hcount⟩ := feedCalls_ofTail calls []
  rw [hempty] at hbuffer hlines hover hcount
  have hterminated := endsLine_of_terminated
    (splitFrom_terminated isNewline [] (calls.flatMap FeedCall.tagged) nofun)
  have hopen := endsLine_of_open
    (splitFrom_tail_open isNewline [] (calls.flatMap FeedCall.tagged) nofun)
  have hflush := flushResult_rename (f := decodeIndex) (g := decodeIndex) rfl rfl
    (ofTail (splitFrom isNewline [] (calls.flatMap FeedCall.tagged)).2)
  have hflushed : (renameBoth decodeIndex decodeIndex
      (ofTail (splitFrom isNewline [] (calls.flatMap FeedCall.tagged)).2).flushResult).2
        = ((ofTail (splitFrom isNewline [] (calls.flatMap FeedCall.tagged)).2).flushResult.2).rename
            decodeIndex decodeIndex := rfl
  have hresults : results calls
      = (feedCalls {} calls).2 ++ [((feedCalls {} calls).1).flushResult.2] := rfl
  rw [hresults, hbuffer, hflush, hflushed, flushResult_ofTail]
  unfold physicalLines
  generalize (splitFrom isNewline [] (calls.flatMap FeedCall.tagged)).1 = ls at *
  generalize (splitFrom isNewline [] (calls.flatMap FeedCall.tagged)).2 = t at *
  have hover' : (ls.filter oversized).map (fun l => oversizedOf (endsLine l) l)
      = (ls.filter oversized).map (oversizedOf true) :=
    List.map_congr_left fun l hl => by rw [hterminated l (List.mem_of_mem_filter hl)]
  have hsmall : oversized ([] : List TaggedByte) = false := rfl
  rw [hsmall, List.countP_append, List.countP_singleton] at hcount
  simp only [List.flatMap_append, List.map_append, List.filter_append, List.countP_append, hlines,
    hover, hover']
  by_cases ht : t = []
  · subst ht
    simpa [UartLineBufferResult.rename, hsmall] using hcount
  · cases hlong : oversized t with
    | true => simpa [ht, hlong, hopen, UartLineBufferResult.rename] using hcount
    | false => simpa [ht, hlong, hopen, UartLineBufferResult.rename] using hcount

end UartLineBuffer

/-! ## The input tiled -/

namespace UartLineBuffer

/-- What one input gives, in terms of the bytes received. -/
structure TilesInput (calls : List FeedCall) : Prop where
  bytes : (received calls).map (·.byte) = calls.flatMap (·.data)
  tiles : (physicalLines ReceivedByte.isNewline (received calls)).flatten = received calls
  lines : (results calls).flatMap (fun r => r.lines.map fun line => (line.raw, line.extent))
    = ((physicalLines ReceivedByte.isNewline (received calls)).filter fits).map
        fun line => (line.map (·.byte), extent line)
  oversizedLines : (results calls).flatMap (fun r => r.oversizedLines.map fun line =>
      (line.totalBytes, line.terminated, line.extent))
    = ((physicalLines ReceivedByte.isNewline (received calls)).filter (!fits ·)).map
        fun line => (line.length, isTerminated line, extent line)
  newlyOversizedLineCount : ((results calls).map (·.newlyOversizedLineCount)).sum
    = (physicalLines ReceivedByte.isNewline (received calls)).countP (!fits ·)

theorem byte_ofData (index : Option ℕ) (offset : ℕ) (data : List UInt8) :
    (ReceivedByte.ofData index offset data).map (·.byte) = data := by
  induction data generalizing offset with
  | nil => rfl
  | cons b data ih => rw [ReceivedByte.ofData, List.map_cons, ih]

theorem received_bytes (calls : List FeedCall) :
    (received calls).map (·.byte) = calls.flatMap (·.data) := by
  rw [received, List.map_flatMap]
  exact List.flatMap_congr fun call _ => byte_ofData _ _ _

theorem oversized_eq (l : List TaggedByte) : oversized l = !fits (l.map TaggedByte.received) := by
  rw [oversized, fits, List.length_map, Bool.eq_iff_iff]
  simp

/-- A line's extent is that of its bytes. -/
theorem extent_lineOf (l : List TaggedByte) :
    ((lineOf l).rename decodeIndex).extent = extent (l.map TaggedByte.received) := by
  rw [extent, List.head?_map, List.getLast?_map]
  cases hhead : l.head? <;> cases hlast : l.getLast? <;>
    simp [lineOf, UartLine.rename, UartLine.extent, decodeIndex, TaggedByte.received, hhead, hlast]

theorem extent_oversizedOf (terminated : Bool) (l : List TaggedByte) :
    ((oversizedOf terminated l).rename decodeIndex decodeIndex).extent
      = extent (l.map TaggedByte.received) := by
  rw [extent, List.head?_map, List.getLast?_map]
  cases hhead : l.head? <;> cases hlast : l.getLast? <;>
    simp [oversizedOf, OversizedUartLine.rename, OversizedUartLine.extent, decodeIndex,
      TaggedByte.received, hhead, hlast]

theorem endsLine_eq (l : List TaggedByte) :
    endsLine l = isTerminated (l.map TaggedByte.received) := by
  rw [endsLine, isTerminated, List.getLast?_map, Option.any_map]
  rfl

theorem tilesInput (calls : List FeedCall) : TilesInput calls := by
  obtain ⟨hlines, hover, hcount⟩ := results_tagged calls
  have hphysical : physicalLines ReceivedByte.isNewline (received calls)
      = (physicalLines isNewline (calls.flatMap FeedCall.tagged)).map
          (List.map TaggedByte.received) := by
    rw [← received_eq, physicalLines_map]
    rfl
  have hfits : (fun l : List TaggedByte => fits (l.map TaggedByte.received)) = (!oversized ·) := by
    funext l
    rw [oversized_eq, Bool.not_not]
  have hlong : (fun l : List TaggedByte => !fits (l.map TaggedByte.received)) = oversized := by
    funext l
    exact (oversized_eq l).symm
  refine ⟨received_bytes calls, physicalLines_flatten _ _, ?_, ?_, ?_⟩
  · rw [← List.map_flatMap, hlines, hphysical, List.filter_map, List.map_map, List.map_map,
      List.map_map]
    show _ = List.map _ (List.filter (fun l => fits (List.map TaggedByte.received l)) _)
    rw [hfits]
    refine List.map_congr_left fun l _ => ?_
    have hraw : (l.map TaggedByte.received).map (·.byte) = l.map Prod.fst := by
      rw [List.map_map]
      rfl
    exact Prod.ext hraw.symm (extent_lineOf l)
  · rw [← List.map_flatMap, hover, hphysical, List.filter_map, List.map_map, List.map_map,
      List.map_map]
    show _ = List.map _ (List.filter (fun l => !fits (List.map TaggedByte.received l)) _)
    rw [hlong]
    refine List.map_congr_left fun l _ => ?_
    exact Prod.ext (List.length_map _).symm (Prod.ext (endsLine_eq l) (extent_oversizedOf _ l))
  · rw [hcount, hphysical, List.countP_map]
    exact congrArg (List.countP · _) hlong.symm

/-- At most one line's worth of bytes waits. -/
theorem pending_length_le (calls : List FeedCall) :
    (feedCalls {} calls).1.pending.length ≤ maxUartLineBytes := by
  have hempty : (ofTail []).rename decodeIndex decodeIndex = {} := by
    rw [ofTail_nil]
    rfl
  obtain ⟨hbuffer, _⟩ := feedCalls_ofTail calls []
  rw [hempty] at hbuffer
  rw [hbuffer]
  generalize (splitFrom isNewline [] (calls.flatMap FeedCall.tagged)).2 = t
  show (ofTail t).pending.length ≤ maxUartLineBytes
  cases hlong : oversized t with
  | true =>
    rw [ofTail_oversized hlong]
    exact Nat.zero_le _
  | false =>
    rw [ofTail_pending hlong, List.length_map]
    simpa [oversized] using hlong

/-- The lines of bytes, wherever they were received. -/
def byteLines (bytes : List UInt8) : List (List UInt8) := physicalLines (· == newline) bytes

theorem physicalLines_received (calls : List FeedCall) :
    (physicalLines ReceivedByte.isNewline (received calls)).map (List.map (·.byte))
      = byteLines (calls.flatMap (·.data)) := by
  rw [← received_bytes, byteLines, physicalLines_map]
  rfl

/-- The bytes of what an input gives depend on the bytes of the input only. -/
theorem results_bytes (calls : List FeedCall) :
    (results calls).flatMap (fun r => r.lines.map (·.raw))
        = (byteLines (calls.flatMap (·.data))).filter fits ∧
      (results calls).flatMap (fun r => r.oversizedLines.map fun line =>
          (line.totalBytes, line.terminated))
        = ((byteLines (calls.flatMap (·.data))).filter (!fits ·)).map
            (fun line => (line.length, line.getLast?.any (· == newline))) ∧
      ((results calls).map (·.newlyOversizedLineCount)).sum
        = (byteLines (calls.flatMap (·.data))).countP (!fits ·) := by
  obtain ⟨_, _, hlines, hover, hcount⟩ := tilesInput calls
  have hfits : ∀ line : List ReceivedByte, fits (line.map (·.byte)) = fits line := fun line => by
    rw [fits, fits, List.length_map]
  have hends : ∀ line : List ReceivedByte,
      (line.getLast?.map (·.byte)).any (· == newline) = isTerminated line := fun line => by
    rw [Option.any_map]
    rfl
  rw [← physicalLines_received]
  refine ⟨?_, ?_, ?_⟩
  · have hraw := congrArg (List.map Prod.fst) hlines
    simpa [List.map_flatMap, List.filter_map, Function.comp_def, hfits] using hraw
  · have hfacts := congrArg (List.map fun line => (line.1, line.2.1)) hover
    simpa [List.map_flatMap, List.filter_map, Function.comp_def, hfits, hends] using hfacts
  · simpa [List.countP_map, Function.comp_def, hfits] using hcount

/-- Line buffering loses nothing and does not depend on the cuts. -/
theorem lines_tile :
    (∀ calls : List FeedCall, TilesInput calls ∧
      (feedCalls {} calls).1.pending.length ≤ maxUartLineBytes) ∧
      ∀ calls calls' : List FeedCall,
        calls.flatMap (·.data) = calls'.flatMap (·.data) →
        (results calls).flatMap (fun r => r.lines.map (·.raw))
            = (results calls').flatMap (fun r => r.lines.map (·.raw)) ∧
          (results calls).flatMap (fun r => r.oversizedLines.map fun line =>
              (line.totalBytes, line.terminated))
            = (results calls').flatMap (fun r => r.oversizedLines.map fun line =>
              (line.totalBytes, line.terminated)) ∧
          ((results calls).map (·.newlyOversizedLineCount)).sum
            = ((results calls').map (·.newlyOversizedLineCount)).sum := by
  refine ⟨fun calls => ⟨tilesInput calls, pending_length_le calls⟩, fun calls calls' hdata => ?_⟩
  obtain ⟨hlines, hover, hcount⟩ := results_bytes calls
  obtain ⟨hlines', hover', hcount'⟩ := results_bytes calls'
  rw [← hdata] at hlines' hover' hcount'
  exact ⟨hlines.trans hlines'.symm, hover.trans hover'.symm, hcount.trans hcount'.symm⟩

theorem lines_tile_cut :
    (results [{ data := [0x61] }, { data := [newline, 0x62] }]).flatMap
        (fun r => r.lines.map (·.raw))
      = (results [{ data := [0x61, newline, 0x62] }]).flatMap (fun r => r.lines.map (·.raw)) :=
  (lines_tile.2 [{ data := [0x61] }, { data := [newline, 0x62] }]
    [{ data := [0x61, newline, 0x62] }] rfl).1

end UartLineBuffer
