/-
# The UART line buffer

`UartLineBuffer.feedResult` turns received bytes into newline-terminated lines and
bounded facts about lines longer than `maxUartLineBytes`.  The buffer is a function
of the unterminated bytes fed so far: `ofTail` computes it from those bytes, each
tagged with the place it was received at, and `feedResult_ofTail` is the whole
behaviour of one call.  A line's coordinates are the tags of its first and last
byte, so no proof about lines looks inside the buffer again.
-/
import DutchMate.SplitLines
import DutchMate.Utf8

open SplitLines

/-- Longest line, newline included, that is kept byte for byte. -/
def maxUartLineBytes : ℕ := 65536

/-- The newline byte. -/
def newline : UInt8 := 10

/-- One complete UART log line. -/
structure UartLine where
  raw : List UInt8
  text : List Char
  ingestionIndex : Option ℕ
  lineIndexInEvent : Option ℕ
  startIngestionIndex : Option ℕ
  startEventOffset : Option ℕ
  endIngestionIndex : Option ℕ
  endEventOffset : Option ℕ
  deriving DecidableEq, Repr

/-- Bounded descriptor of one physical line that exceeded the limit. -/
structure OversizedUartLine where
  ingestionIndex : Option ℕ
  lineIndexInEvent : Option ℕ
  startIngestionIndex : Option ℕ
  startEventOffset : Option ℕ
  endIngestionIndex : Option ℕ
  endEventOffset : Option ℕ
  totalBytes : ℕ
  terminated : Bool
  timestampUs : Option ℕ
  deriving DecidableEq, Repr

/-- Normal lines and oversized-line facts produced by one input. -/
structure UartLineBufferResult where
  lines : List UartLine := []
  oversizedLines : List OversizedUartLine := []
  newlyOversizedLineCount : ℕ := 0
  deriving DecidableEq, Repr

/-- Raw bytes waiting for a newline, or the running facts of an oversized line. -/
structure UartLineBuffer where
  pending : List UInt8 := []
  pendingStartIngestionIndex : Option ℕ := none
  pendingStartEventOffset : Option ℕ := none
  pendingEndIngestionIndex : Option ℕ := none
  pendingEndEventOffset : Option ℕ := none
  pendingLineIndexInEvent : Option ℕ := none
  oversizedTotalBytes : Option ℕ := none
  oversizedStartIngestionIndex : Option ℕ := none
  oversizedStartEventOffset : Option ℕ := none
  oversizedEndIngestionIndex : Option ℕ := none
  oversizedEndEventOffset : Option ℕ := none
  oversizedLineIndexInEvent : Option ℕ := none
  oversizedTimestampUs : Option ℕ := none
  deriving DecidableEq, Repr

namespace UartLineBuffer

/-- Whether normal or oversized derived state crosses the current boundary. -/
def hasUnterminatedLine (b : UartLineBuffer) : Bool :=
  !b.pending.isEmpty || b.oversizedTotalBytes.isSome

def clearPending (b : UartLineBuffer) : UartLineBuffer :=
  { b with
    pending := []
    pendingStartIngestionIndex := none
    pendingStartEventOffset := none
    pendingEndIngestionIndex := none
    pendingEndEventOffset := none
    pendingLineIndexInEvent := none }

/-- Close the running oversized line; the caller has checked that there is one. -/
def finishOversizedLine (b : UartLineBuffer) (totalBytes : ℕ) (terminated : Bool) :
    OversizedUartLine × UartLineBuffer :=
  ({ ingestionIndex := b.oversizedEndIngestionIndex
     lineIndexInEvent := b.oversizedLineIndexInEvent
     startIngestionIndex := b.oversizedStartIngestionIndex
     startEventOffset := b.oversizedStartEventOffset
     endIngestionIndex := b.oversizedEndIngestionIndex
     endEventOffset := b.oversizedEndEventOffset
     totalBytes := totalBytes
     terminated := terminated
     timestampUs := b.oversizedTimestampUs },
   { b with
     oversizedTotalBytes := none
     oversizedStartIngestionIndex := none
     oversizedStartEventOffset := none
     oversizedEndIngestionIndex := none
     oversizedEndEventOffset := none
     oversizedLineIndexInEvent := none
     oversizedTimestampUs := none })

/-- Finish the current physical line as an oversized one. -/
private def overflow (b : UartLineBuffer) (r : UartLineBufferResult) (totalBytes : ℕ)
    (newlineFound : Bool) : UartLineBuffer × UartLineBufferResult :=
  if newlineFound then
    let (line, b') := b.finishOversizedLine totalBytes true
    (b', { r with oversizedLines := r.oversizedLines ++ [line] })
  else (b, r)

/-- One turn of the loop: consume the bytes `segment` up to and including the next
newline, or to the end of the input when `newlineFound` is false. -/
def feedSegment (ingestionIndex timestampUs : Option ℕ) (base eventOffset lineIndex : ℕ)
    (segment : List UInt8) (newlineFound : Bool) (b : UartLineBuffer)
    (r : UartLineBufferResult) : UartLineBuffer × UartLineBufferResult :=
  let endEventOffset := eventOffset + segment.length
  match b.oversizedTotalBytes with
  | some total =>
    overflow
      { b with
        oversizedTotalBytes := some (total + segment.length)
        oversizedEndIngestionIndex := ingestionIndex
        oversizedEndEventOffset := some (base + endEventOffset)
        oversizedLineIndexInEvent := some lineIndex
        oversizedTimestampUs := timestampUs }
      r (total + segment.length) newlineFound
  | none =>
    let totalBytes := b.pending.length + segment.length
    if totalBytes > maxUartLineBytes then
      let startIngestionIndex :=
        if b.pending.isEmpty then ingestionIndex else b.pendingStartIngestionIndex
      let startEventOffset :=
        if b.pending.isEmpty then some (base + eventOffset) else b.pendingStartEventOffset
      overflow
        { b.clearPending with
          oversizedTotalBytes := some totalBytes
          oversizedStartIngestionIndex := startIngestionIndex
          oversizedStartEventOffset := startEventOffset
          oversizedEndIngestionIndex := ingestionIndex
          oversizedEndEventOffset := some (base + endEventOffset)
          oversizedLineIndexInEvent := some lineIndex
          oversizedTimestampUs := timestampUs }
        { r with newlyOversizedLineCount := r.newlyOversizedLineCount + 1 }
        totalBytes newlineFound
    else if newlineFound then
      let raw := b.pending ++ segment
      let line : UartLine :=
        { raw := raw
          text := Utf8.decodeReplace raw
          ingestionIndex := ingestionIndex
          lineIndexInEvent := some lineIndex
          startIngestionIndex :=
            if b.pending.isEmpty then ingestionIndex else b.pendingStartIngestionIndex
          startEventOffset :=
            if b.pending.isEmpty then some (base + eventOffset) else b.pendingStartEventOffset
          endIngestionIndex := ingestionIndex
          endEventOffset := some (base + endEventOffset) }
      (b.clearPending, { r with lines := r.lines ++ [line] })
    else
      ({ b with
         pendingStartIngestionIndex :=
           if b.pending.isEmpty then ingestionIndex else b.pendingStartIngestionIndex
         pendingStartEventOffset :=
           if b.pending.isEmpty then some (base + eventOffset) else b.pendingStartEventOffset
         pending := b.pending ++ segment
         pendingEndIngestionIndex := ingestionIndex
         pendingEndEventOffset := some (base + endEventOffset)
         pendingLineIndexInEvent := some lineIndex }, r)

/-- The loop over the rest of the input, `fuel` being at least its length. -/
def feedLoop (ingestionIndex timestampUs : Option ℕ) (base : ℕ) :
    ℕ → ℕ → ℕ → List UInt8 → UartLineBuffer → UartLineBufferResult →
      UartLineBuffer × UartLineBufferResult
  | 0, _, _, _, b, r => (b, r)
  | fuel + 1, eventOffset, lineIndex, rest, b, r =>
    if rest.isEmpty then (b, r)
    else
      match rest.findIdx? (· == newline) with
      | none => feedSegment ingestionIndex timestampUs base eventOffset lineIndex rest false b r
      | some at_ =>
        let segment := rest.take (at_ + 1)
        let (b', r') :=
          feedSegment ingestionIndex timestampUs base eventOffset lineIndex segment true b r
        feedLoop ingestionIndex timestampUs base fuel (eventOffset + (at_ + 1)) (lineIndex + 1)
          (rest.drop (at_ + 1)) b' r'

/-- Consume bytes and return normal lines plus bounded overflow facts. -/
def feedResult (b : UartLineBuffer) (data : List UInt8) (ingestionIndex timestampUs : Option ℕ)
    (eventOffsetBase : ℕ) : UartLineBuffer × UartLineBufferResult :=
  feedLoop ingestionIndex timestampUs eventOffsetBase data.length 0 0 data b {}

/-- Finalize trailing normal or oversized state at segment or session close. -/
def flushResult (b : UartLineBuffer) : UartLineBuffer × UartLineBufferResult :=
  match b.oversizedTotalBytes with
  | some total =>
    let (line, b') := b.finishOversizedLine total false
    (b', { oversizedLines := [line] })
  | none =>
    if b.pending.isEmpty then (b, {})
    else
      (b.clearPending,
        { lines :=
            [{ raw := b.pending
               text := Utf8.decodeReplace b.pending
               ingestionIndex := b.pendingEndIngestionIndex
               lineIndexInEvent := b.pendingLineIndexInEvent
               startIngestionIndex := b.pendingStartIngestionIndex
               startEventOffset := b.pendingStartEventOffset
               endIngestionIndex := b.pendingEndIngestionIndex
               endEventOffset := b.pendingEndEventOffset }] })

end UartLineBuffer

/-! ## The buffer as a function of the unterminated bytes -/

/-- Where a byte was received: the ingestion index and timestamp of its event, its
offset in the event's data, and how many lines ended before it in the same call. -/
structure ByteTag where
  ingestionIndex : ℕ
  offset : ℕ
  lineIndex : ℕ
  timestampUs : ℕ
  deriving DecidableEq, Repr

/-- A received byte with its place. -/
abbrev TaggedByte := UInt8 × ByteTag

/-- Tag the bytes of one call, from a given offset and line index on. -/
def tagFrom (ingestionIndex timestampUs : ℕ) : ℕ → ℕ → List UInt8 → List TaggedByte
  | _, _, [] => []
  | offset, lineIndex, b :: bs =>
    (b, ⟨ingestionIndex, offset, lineIndex, timestampUs⟩) ::
      tagFrom ingestionIndex timestampUs (offset + 1)
        (if b = newline then lineIndex + 1 else lineIndex) bs

/-- Whether a tagged byte is a newline. -/
def isNewline (x : TaggedByte) : Bool := x.1 == newline

@[simp] theorem map_fst_tagFrom (i ts off line : ℕ) (bs : List UInt8) :
    (tagFrom i ts off line bs).map Prod.fst = bs := by
  induction bs generalizing off line with
  | nil => rfl
  | cons b bs ih => simp [tagFrom, ih]

@[simp] theorem length_tagFrom (i ts off line : ℕ) (bs : List UInt8) :
    (tagFrom i ts off line bs).length = bs.length := by
  rw [← List.length_map (f := Prod.fst), map_fst_tagFrom]

/-- Tagging goes on past bytes that are not newlines. -/
theorem tagFrom_append_open (i ts off line : ℕ) (xs ys : List UInt8)
    (h : ∀ b ∈ xs, b ≠ newline) :
    tagFrom i ts off line (xs ++ ys)
      = tagFrom i ts off line xs ++ tagFrom i ts (off + xs.length) line ys := by
  induction xs generalizing off with
  | nil => simp [tagFrom]
  | cons b xs ih =>
    have hb : b ≠ newline := h b (by simp)
    simp only [List.cons_append, tagFrom, if_neg hb, List.length_cons]
    rw [ih (off + 1) (fun c hc => h c (by simp [hc])),
      show off + 1 + xs.length = off + (xs.length + 1) by omega]

/-- Tagging one line with its newline, and the bytes after it. -/
theorem tagFrom_line (i ts off line : ℕ) (body rest : List UInt8)
    (h : ∀ b ∈ body, b ≠ newline) :
    tagFrom i ts off line (body ++ newline :: rest)
      = tagFrom i ts off line body ++ (newline, ⟨i, off + body.length, line, ts⟩) ::
          tagFrom i ts (off + (body.length + 1)) (line + 1) rest := by
  rw [tagFrom_append_open i ts off line body _ h]
  simp [tagFrom, show off + body.length + 1 = off + (body.length + 1) by omega]

theorem isNewline_tagFrom_open (i ts off line : ℕ) (bs : List UInt8)
    (h : ∀ b ∈ bs, b ≠ newline) : ∀ x ∈ tagFrom i ts off line bs, isNewline x = false := by
  intro x hx
  have : x.1 ∈ (tagFrom i ts off line bs).map Prod.fst := List.mem_map_of_mem hx
  rw [map_fst_tagFrom] at this
  simpa [isNewline] using h x.1 this

/-- The tags of a nonempty run of bytes without newlines: the first and the last. -/
theorem head?_tagFrom (i ts off line : ℕ) (b : UInt8) (bs : List UInt8) :
    (tagFrom i ts off line (b :: bs)).head? = some (b, ⟨i, off, line, ts⟩) := rfl

theorem getLast?_tagFrom_open (i ts off line : ℕ) (bs : List UInt8) (hne : bs ≠ [])
    (h : ∀ b ∈ bs, b ≠ newline) :
    (tagFrom i ts off line bs).getLast?.map Prod.snd
      = some ⟨i, off + bs.length - 1, line, ts⟩ := by
  obtain ⟨init, b, rfl⟩ : ∃ init b, bs = init ++ [b] :=
    ⟨bs.dropLast, bs.getLast hne, (List.dropLast_concat_getLast hne).symm⟩
  rw [tagFrom_append_open i ts off line init [b] (fun c hc => h c (by simp [hc]))]
  simp [tagFrom]

/-- The normal line made of the given tagged bytes. -/
def lineOf (l : List TaggedByte) : UartLine where
  raw := l.map Prod.fst
  text := Utf8.decodeReplace (l.map Prod.fst)
  ingestionIndex := l.getLast?.map (·.2.ingestionIndex)
  lineIndexInEvent := l.getLast?.map (·.2.lineIndex)
  startIngestionIndex := l.head?.map (·.2.ingestionIndex)
  startEventOffset := l.head?.map (·.2.offset)
  endIngestionIndex := l.getLast?.map (·.2.ingestionIndex)
  endEventOffset := l.getLast?.map (·.2.offset + 1)

/-- The descriptor of the oversized line made of the given tagged bytes. -/
def oversizedOf (terminated : Bool) (l : List TaggedByte) : OversizedUartLine where
  ingestionIndex := l.getLast?.map (·.2.ingestionIndex)
  lineIndexInEvent := l.getLast?.map (·.2.lineIndex)
  startIngestionIndex := l.head?.map (·.2.ingestionIndex)
  startEventOffset := l.head?.map (·.2.offset)
  endIngestionIndex := l.getLast?.map (·.2.ingestionIndex)
  endEventOffset := l.getLast?.map (·.2.offset + 1)
  totalBytes := l.length
  terminated := terminated
  timestampUs := l.getLast?.map (·.2.timestampUs)

/-- Whether a physical line exceeds the bound. -/
def oversized (l : List TaggedByte) : Bool := maxUartLineBytes < l.length

/-- The buffer after the unterminated bytes `t`. -/
def UartLineBuffer.ofTail (t : List TaggedByte) : UartLineBuffer :=
  if oversized t then
    { oversizedTotalBytes := some t.length
      oversizedStartIngestionIndex := t.head?.map (·.2.ingestionIndex)
      oversizedStartEventOffset := t.head?.map (·.2.offset)
      oversizedEndIngestionIndex := t.getLast?.map (·.2.ingestionIndex)
      oversizedEndEventOffset := t.getLast?.map (·.2.offset + 1)
      oversizedLineIndexInEvent := t.getLast?.map (·.2.lineIndex)
      oversizedTimestampUs := t.getLast?.map (·.2.timestampUs) }
  else
    { pending := t.map Prod.fst
      pendingStartIngestionIndex := t.head?.map (·.2.ingestionIndex)
      pendingStartEventOffset := t.head?.map (·.2.offset)
      pendingEndIngestionIndex := t.getLast?.map (·.2.ingestionIndex)
      pendingEndEventOffset := t.getLast?.map (·.2.offset + 1)
      pendingLineIndexInEvent := t.getLast?.map (·.2.lineIndex) }

namespace UartLineBuffer

@[simp] theorem ofTail_nil : ofTail [] = {} := by decide

/-- The buffer of an oversized tail. -/
theorem ofTail_oversized {t : List TaggedByte} (h : oversized t = true) :
    ofTail t =
      { oversizedTotalBytes := some t.length
        oversizedStartIngestionIndex := t.head?.map (·.2.ingestionIndex)
        oversizedStartEventOffset := t.head?.map (·.2.offset)
        oversizedEndIngestionIndex := t.getLast?.map (·.2.ingestionIndex)
        oversizedEndEventOffset := t.getLast?.map (·.2.offset + 1)
        oversizedLineIndexInEvent := t.getLast?.map (·.2.lineIndex)
        oversizedTimestampUs := t.getLast?.map (·.2.timestampUs) } := by
  rw [ofTail, if_pos h]

/-- The buffer of a tail that is kept. -/
theorem ofTail_pending {t : List TaggedByte} (h : oversized t = false) :
    ofTail t =
      { pending := t.map Prod.fst
        pendingStartIngestionIndex := t.head?.map (·.2.ingestionIndex)
        pendingStartEventOffset := t.head?.map (·.2.offset)
        pendingEndIngestionIndex := t.getLast?.map (·.2.ingestionIndex)
        pendingEndEventOffset := t.getLast?.map (·.2.offset + 1)
        pendingLineIndexInEvent := t.getLast?.map (·.2.lineIndex) } := by
  rw [ofTail, if_neg (by simp [h])]

/-- A line is unterminated exactly when a byte is waiting. -/
theorem hasUnterminatedLine_ofTail (t : List TaggedByte) :
    (ofTail t).hasUnterminatedLine = !t.isEmpty := by
  unfold ofTail hasUnterminatedLine
  by_cases h : oversized t
  · have hne : t ≠ [] := by
      rintro rfl
      simp [oversized] at h
    simp [h, hne]
  · simp [h]

/-- Add the facts about one terminated line to a result; `t` is what waited. -/
def addLine (r : UartLineBufferResult) (t l : List TaggedByte) : UartLineBufferResult :=
  if oversized l then
    { r with
      oversizedLines := r.oversizedLines ++ [oversizedOf true l]
      newlyOversizedLineCount :=
        r.newlyOversizedLineCount + if oversized t then 0 else 1 }
  else { r with lines := r.lines ++ [lineOf l] }

/-- Add the facts about the new unterminated bytes `t'` in place of `t`. -/
def addTail (r : UartLineBufferResult) (t t' : List TaggedByte) : UartLineBufferResult :=
  { r with
    newlyOversizedLineCount :=
      r.newlyOversizedLineCount + if oversized t' && !oversized t then 1 else 0 }

/-- The result of cutting off the lines `ls` and keeping `t'`, when `t` waited. -/
def extend (r : UartLineBufferResult) :
    List TaggedByte → List (List TaggedByte) → List TaggedByte → UartLineBufferResult
  | t, [], t' => addTail r t t'
  | t, l :: ls, t' => extend (addLine r t l) [] ls t'

/-- First tag of `t` followed by a nonempty run: the run's own when `t` is empty. -/
private theorem head?_append_tag {γ : Type*} (f : ByteTag → γ) (t s : List TaggedByte)
    (x : TaggedByte) (hs : s.head? = some x) :
    (t ++ s).head?.map (fun y => f y.2) =
      if t = [] then some (f x.2) else t.head?.map (fun y => f y.2) := by
  cases t with
  | nil => simp [hs]
  | cons a t => simp

/-- What a call sees of the bytes `t ++ s` when it tags `s` from a given place on:
the first coordinates, the last tag, the bytes and their number. -/
private theorem append_tagFrom_facts (i ts off line : ℕ) (t : List TaggedByte)
    (segment : List UInt8) (hne : segment ≠ []) (h : ∀ b ∈ segment.dropLast, b ≠ newline) :
    let l := t ++ tagFrom i ts off line segment
    l.head?.map (·.2.ingestionIndex)
        = (if t = [] then some i else t.head?.map (·.2.ingestionIndex)) ∧
    l.head?.map (·.2.offset)
        = (if t = [] then some off else t.head?.map (·.2.offset)) ∧
    l.getLast?.map (·.2) = some ⟨i, off + segment.length - 1, line, ts⟩ ∧
    l.map Prod.fst = t.map Prod.fst ++ segment ∧
    l.length = t.length + segment.length := by
  obtain ⟨b, bs, rfl⟩ := List.exists_cons_of_ne_nil hne
  refine ⟨?_, ?_, ?_, ?_, ?_⟩
  · exact head?_append_tag (·.ingestionIndex) t _ _ (head?_tagFrom i ts off line b bs)
  · exact head?_append_tag (·.offset) t _ _ (head?_tagFrom i ts off line b bs)
  · obtain ⟨init, c, hc⟩ : ∃ init c, b :: bs = init ++ [c] :=
      ⟨_, _, (List.dropLast_concat_getLast hne).symm⟩
    rw [hc] at h ⊢
    rw [List.dropLast_concat] at h
    rw [tagFrom_append_open i ts off line init [c] h]
    simp [tagFrom]
  · simp
  · simp

/-- One segment that ends in a newline, from the buffer after `t`. -/
theorem feedSegment_newline (i ts base off line : ℕ) (body : List UInt8)
    (h : ∀ b ∈ body, b ≠ newline) (t : List TaggedByte) (r : UartLineBufferResult) :
    feedSegment (some i) (some ts) base off line (body ++ [newline]) true (ofTail t) r
      = (ofTail [], addLine r t (t ++ tagFrom i ts (base + off) line (body ++ [newline]))) := by
  obtain ⟨hi, ho, hlast, hraw, hlen⟩ := append_tagFrom_facts i ts (base + off) line t
    (body ++ [newline]) (by simp) (by simpa using h)
  generalize t ++ tagFrom i ts (base + off) line (body ++ [newline]) = l at *
  obtain ⟨y, hy, hyl⟩ := Option.map_eq_some_iff.mp hlast
  have hend : base + (off + (body.length + 1)) = base + off + body.length + 1 := by omega
  simp only [List.length_append, List.length_singleton] at hlen hyl
  by_cases ht : oversized t
  · have hl : oversized l = true := by
      simp only [oversized, decide_eq_true_eq] at ht ⊢
      omega
    have htne : t ≠ [] := by rintro rfl; simp [oversized] at ht
    simp [feedSegment, ofTail_oversized ht, ht, hl, overflow, finishOversizedLine, addLine,
      oversizedOf, hi, ho, hy, hyl, hend, htne, hlen]
  · rw [Bool.not_eq_true] at ht
    by_cases hl : oversized l
    · have hbig : maxUartLineBytes < t.length + (body.length + 1) := by
        simpa [oversized, hlen] using hl
      simp [feedSegment, ofTail_pending ht, ht, hl, hbig, overflow, finishOversizedLine,
        clearPending, addLine, oversizedOf, hi, ho, hy, hyl, hend, hlen]
    · have hsmall : ¬ maxUartLineBytes < t.length + (body.length + 1) := by
        simpa [oversized, hlen] using hl
      simp [feedSegment, ofTail_pending ht, hl, hsmall, clearPending, addLine, lineOf, hi, ho,
        hy, hyl, hend, hraw]

/-- One nonempty segment without a newline, from the buffer after `t`. -/
theorem feedSegment_open (i ts base off line : ℕ) (segment : List UInt8) (hne : segment ≠ [])
    (h : ∀ b ∈ segment, b ≠ newline) (t : List TaggedByte) (r : UartLineBufferResult) :
    feedSegment (some i) (some ts) base off line segment false (ofTail t) r
      = (ofTail (t ++ tagFrom i ts (base + off) line segment),
          addTail r t (t ++ tagFrom i ts (base + off) line segment)) := by
  obtain ⟨hi, ho, hlast, hraw, hlen⟩ := append_tagFrom_facts i ts (base + off) line t
    segment hne (fun b hb => h b (List.dropLast_subset _ hb))
  generalize t ++ tagFrom i ts (base + off) line segment = l at *
  obtain ⟨y, hy, hyl⟩ := Option.map_eq_some_iff.mp hlast
  have hpos : 0 < segment.length := List.length_pos_of_ne_nil hne
  have hend : base + off + segment.length - 1 + 1 = base + (off + segment.length) := by
    omega
  by_cases ht : oversized t
  · have hl : oversized l = true := by
      simp only [oversized, decide_eq_true_eq] at ht ⊢
      omega
    have htne : t ≠ [] := by rintro rfl; simp [oversized] at ht
    simp [feedSegment, ofTail_oversized ht, ofTail_oversized hl, ht, overflow, addTail, hi, ho,
      hy, hyl, hend, htne, hlen]
  · rw [Bool.not_eq_true] at ht
    by_cases hl : oversized l
    · have hbig : maxUartLineBytes < t.length + segment.length := by
        simpa [oversized, hlen] using hl
      simp [feedSegment, ofTail_pending ht, ofTail_oversized hl, ht, hl, hbig, overflow,
        clearPending, addTail, hi, ho, hy, hyl, hend, hlen]
    · have hsmall : ¬ maxUartLineBytes < t.length + segment.length := by
        simpa [oversized, hlen] using hl
      rw [Bool.not_eq_true] at hl
      simp [feedSegment, ofTail_pending ht, ofTail_pending hl, hl, hsmall, addTail, hi, ho, hy,
        hyl, hend, hraw]

/-- The whole loop: the lines cut off the stream, and the tail kept. -/
theorem feedLoop_ofTail (i ts base : ℕ) (fuel off line : ℕ) (rest : List UInt8)
    (hfuel : rest.length ≤ fuel) (t : List TaggedByte) (r : UartLineBufferResult) :
    feedLoop (some i) (some ts) base fuel off line rest (ofTail t) r
      = let s := splitFrom isNewline t (tagFrom i ts (base + off) line rest)
        (ofTail s.2, extend r t s.1 s.2) := by
  induction fuel generalizing off line rest t r with
  | zero =>
    have : rest = [] := List.eq_nil_of_length_eq_zero (by omega)
    subst this
    simp [feedLoop, tagFrom, extend, addTail]
  | succ fuel ih =>
    by_cases hrest : rest = []
    · subst hrest
      simp [feedLoop, tagFrom, extend, addTail]
    · rw [feedLoop, if_neg (by simpa using hrest)]
      cases hfind : rest.findIdx? (· == newline) with
      | none =>
        have hopen : ∀ b ∈ rest, b ≠ newline := by
          intro b hb
          have := List.findIdx?_eq_none_iff.mp hfind b hb
          simpa using this
        simp only
        rw [feedSegment_open i ts base off line rest hrest hopen,
          splitFrom_open _ _ _ (isNewline_tagFrom_open i ts (base + off) line rest hopen)]
        rfl
      | some k =>
        obtain ⟨body, e, rest', rfl, hlen, he, hbody⟩ := exists_split_of_findIdx? hfind
        have hen : e = newline := by simpa using he
        have hopen : ∀ b ∈ body, b ≠ newline := fun b hb => by simpa using hbody b hb
        subst hen
        have htake : (body ++ newline :: rest').take (k + 1) = body ++ [newline] := by
          rw [← hlen, List.take_append, List.take_of_length_le (by omega)]
          simp
        have hdrop : (body ++ newline :: rest').drop (k + 1) = rest' := by
          rw [← hlen, List.drop_append, List.drop_of_length_le (by omega)]
          simp
        simp only [htake, hdrop]
        rw [feedSegment_newline i ts base off line body hopen]
        simp only
        rw [ih (off + (k + 1)) (line + 1) rest' (by simp at hfuel; omega)]
        rw [tagFrom_line i ts (base + off) line body rest' hopen, hlen,
          splitFrom_segment _ _ _ _ _
            (isNewline_tagFrom_open i ts (base + off) line body hopen) (by simp [isNewline]),
          tagFrom_line i ts (base + off) line body [] hopen, hlen]
        simp only [extend, tagFrom, List.append_assoc, Nat.add_assoc]

/-- Feeding one event's bytes after the unterminated bytes `t`. -/
theorem feedResult_ofTail (i ts base : ℕ) (data : List UInt8) (t : List TaggedByte) :
    feedResult (ofTail t) data (some i) (some ts) base
      = let s := splitFrom isNewline t (tagFrom i ts base 0 data)
        (ofTail s.2, extend {} t s.1 s.2) := by
  simpa [feedResult] using feedLoop_ofTail i ts base data.length 0 0 data (Nat.le_refl _) t {}

/-! ## The result of one call in closed form -/

theorem extend_lines (r : UartLineBufferResult) (t : List TaggedByte)
    (ls : List (List TaggedByte)) (t' : List TaggedByte) :
    (extend r t ls t').lines = r.lines ++ (ls.filter (!oversized ·)).map lineOf := by
  induction ls generalizing r t with
  | nil => simp [extend, addTail]
  | cons l ls ih =>
    rw [extend, ih]
    by_cases hl : oversized l <;> simp [addLine, hl]

theorem extend_oversizedLines (r : UartLineBufferResult) (t : List TaggedByte)
    (ls : List (List TaggedByte)) (t' : List TaggedByte) :
    (extend r t ls t').oversizedLines
      = r.oversizedLines ++ (ls.filter oversized).map (oversizedOf true) := by
  induction ls generalizing r t with
  | nil => simp [extend, addTail]
  | cons l ls ih =>
    rw [extend, ih]
    by_cases hl : oversized l <;> simp [addLine, hl]

/-- Each oversized line is counted once, when it first passes the bound: the lines
cut off and the tail kept that are oversized, less the tail that already was. -/
theorem extend_newlyOversizedLineCount (r : UartLineBufferResult) (t : List TaggedByte)
    (ls : List (List TaggedByte)) (t' : List TaggedByte)
    (hmono : ∀ l ∈ (ls ++ [t']).head?, t.length ≤ l.length) :
    (extend r t ls t').newlyOversizedLineCount + (if oversized t then 1 else 0)
      = r.newlyOversizedLineCount + (ls ++ [t']).countP oversized := by
  have hle : ∀ l : List TaggedByte, t.length ≤ l.length → oversized t = true →
      oversized l = true := by
    intro l hl ht
    simp only [oversized, decide_eq_true_eq] at ht ⊢
    omega
  cases ls with
  | nil =>
    have := hle t' (hmono t' (by simp))
    by_cases ht : oversized t <;> by_cases ht' : oversized t' <;>
      simp_all [extend, addTail]
  | cons l ls =>
    have hl := hle l (hmono l (by simp))
    have ih := extend_newlyOversizedLineCount (addLine r t l) [] ls t' (by simp)
    simp only [oversized, List.length_nil, Nat.not_lt_zero, decide_false, Bool.false_eq_true,
      if_false, Nat.add_zero] at ih
    rw [extend, show (extend (addLine r t l) [] ls t').newlyOversizedLineCount
      = (addLine r t l).newlyOversizedLineCount + (ls ++ [t']).countP oversized from ih]
    by_cases ht : oversized t
    · simp [addLine, hl ht, ht]
      omega
    · by_cases hlo : oversized l <;> simp [addLine, ht, hlo]
      omega

end UartLineBuffer

/-! ## Coordinates are only carried

Renaming the ingestion indices and timestamps of what is fed renames those of what comes out,
and changes nothing else. -/

section Rename

variable (f g : Option ℕ → Option ℕ)

def UartLine.rename (line : UartLine) : UartLine :=
  { line with
    ingestionIndex := f line.ingestionIndex
    startIngestionIndex := f line.startIngestionIndex
    endIngestionIndex := f line.endIngestionIndex }

def OversizedUartLine.rename (line : OversizedUartLine) : OversizedUartLine :=
  { line with
    ingestionIndex := f line.ingestionIndex
    startIngestionIndex := f line.startIngestionIndex
    endIngestionIndex := f line.endIngestionIndex
    timestampUs := g line.timestampUs }

def UartLineBufferResult.rename (r : UartLineBufferResult) : UartLineBufferResult :=
  { r with
    lines := r.lines.map (UartLine.rename f)
    oversizedLines := r.oversizedLines.map (OversizedUartLine.rename f g) }

namespace UartLineBuffer

def rename (b : UartLineBuffer) : UartLineBuffer :=
  { b with
    pendingStartIngestionIndex := f b.pendingStartIngestionIndex
    pendingEndIngestionIndex := f b.pendingEndIngestionIndex
    oversizedStartIngestionIndex := f b.oversizedStartIngestionIndex
    oversizedEndIngestionIndex := f b.oversizedEndIngestionIndex
    oversizedTimestampUs := g b.oversizedTimestampUs }

/-- Rename what a call leaves and what it returns. -/
def renameBoth (s : UartLineBuffer × UartLineBufferResult) :
    UartLineBuffer × UartLineBufferResult := (s.1.rename f g, s.2.rename f g)

variable {f g}

theorem clearPending_rename (hf : f none = none) (b : UartLineBuffer) :
    (b.rename f g).clearPending = b.clearPending.rename f g := by
  simp [clearPending, rename, hf]

theorem finishOversizedLine_rename (hf : f none = none) (hg : g none = none) (b : UartLineBuffer)
    (totalBytes : ℕ) (terminated : Bool) :
    (b.rename f g).finishOversizedLine totalBytes terminated
      = (((b.finishOversizedLine totalBytes terminated).1).rename f g,
          ((b.finishOversizedLine totalBytes terminated).2).rename f g) := by
  simp [finishOversizedLine, rename, OversizedUartLine.rename, hf, hg]

private theorem overflow_rename (hf : f none = none) (hg : g none = none) (b : UartLineBuffer)
    (r : UartLineBufferResult) (totalBytes : ℕ) (newlineFound : Bool) :
    overflow (b.rename f g) (r.rename f g) totalBytes newlineFound
      = renameBoth f g (overflow b r totalBytes newlineFound) := by
  cases newlineFound with
  | false => rfl
  | true =>
    simp only [overflow, if_true, finishOversizedLine_rename hf hg, renameBoth]
    simp [UartLineBufferResult.rename]

theorem feedSegment_rename (hf : f none = none) (hg : g none = none)
    (ingestionIndex timestampUs : Option ℕ) (base eventOffset lineIndex : ℕ)
    (segment : List UInt8) (newlineFound : Bool) (b : UartLineBuffer) (r : UartLineBufferResult) :
    feedSegment (f ingestionIndex) (g timestampUs) base eventOffset lineIndex segment newlineFound
        (b.rename f g) (r.rename f g)
      = renameBoth f g (feedSegment ingestionIndex timestampUs base eventOffset lineIndex segment
          newlineFound b r) := by
  have hstart : (if b.pending.isEmpty then f ingestionIndex else f b.pendingStartIngestionIndex)
      = f (if b.pending.isEmpty then ingestionIndex else b.pendingStartIngestionIndex) :=
    (apply_ite f _ _ _).symm
  unfold feedSegment
  cases htotal : b.oversizedTotalBytes with
  | some total =>
    have hrenamed : (b.rename f g).oversizedTotalBytes = some total := htotal
    rw [hrenamed]
    dsimp only
    rw [← overflow_rename hf hg]
    rfl
  | none =>
    have hrenamed : (b.rename f g).oversizedTotalBytes = none := htotal
    have hpending : (b.rename f g).pending = b.pending := rfl
    have hindex : (b.rename f g).pendingStartIngestionIndex = f b.pendingStartIngestionIndex := rfl
    rw [hrenamed]
    dsimp only
    rw [hpending, hindex, hstart, clearPending_rename hf]
    split
    · rw [← overflow_rename hf hg]
      rfl
    split
    · simp [renameBoth, UartLineBufferResult.rename, UartLine.rename]
      rfl
    · rfl

theorem feedLoop_rename (hf : f none = none) (hg : g none = none)
    (ingestionIndex timestampUs : Option ℕ) (base fuel eventOffset lineIndex : ℕ)
    (rest : List UInt8) (b : UartLineBuffer) (r : UartLineBufferResult) :
    feedLoop (f ingestionIndex) (g timestampUs) base fuel eventOffset lineIndex rest
        (b.rename f g) (r.rename f g)
      = renameBoth f g
          (feedLoop ingestionIndex timestampUs base fuel eventOffset lineIndex rest b r) := by
  induction fuel generalizing eventOffset lineIndex rest b r with
  | zero => rfl
  | succ fuel ih =>
    unfold feedLoop
    split
    · rfl
    split
    · exact feedSegment_rename hf hg _ _ _ _ _ _ _ _ _
    · rename_i at_ _
      dsimp only
      rw [feedSegment_rename hf hg]
      exact ih _ _ _ _ _

theorem feedResult_rename (hf : f none = none) (hg : g none = none) (b : UartLineBuffer)
    (data : List UInt8) (ingestionIndex timestampUs : Option ℕ) (base : ℕ) :
    feedResult (b.rename f g) data (f ingestionIndex) (g timestampUs) base
      = renameBoth f g (feedResult b data ingestionIndex timestampUs base) :=
  feedLoop_rename hf hg ingestionIndex timestampUs base data.length 0 0 data b {}

theorem flushResult_rename (hf : f none = none) (hg : g none = none) (b : UartLineBuffer) :
    flushResult (b.rename f g) = renameBoth f g (flushResult b) := by
  unfold flushResult
  cases htotal : b.oversizedTotalBytes with
  | some total =>
    have hrenamed : (b.rename f g).oversizedTotalBytes = some total := htotal
    rw [hrenamed]
    dsimp only
    rw [finishOversizedLine_rename hf hg]
    rfl
  | none =>
    have hrenamed : (b.rename f g).oversizedTotalBytes = none := htotal
    have hpending : (b.rename f g).pending = b.pending := rfl
    rw [hrenamed]
    dsimp only
    rw [hpending, clearPending_rename hf]
    split <;> rfl

end UartLineBuffer

end Rename
