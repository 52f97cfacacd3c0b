/-
# The journal of a session

What holds of the files of every session after any sequence of store calls: the four
journals number their records contiguously, the UART records tile the raw log, the
accounting is exact and within the budget, and the segments are contiguous.
-/
import DutchMate.StoreOperations

open Throwing

/-! ## Validators -/

namespace SessionFiles

/-- The records of the four journals. -/
def primaryRecords (f : SessionFiles) : List EvidenceRecord :=
  f.uartEvents ++ f.operationEvents ++ f.hardwareEvents ++ f.connectionEvents

end SessionFiles

def evidenceSeqs (records : List EvidenceRecord) : List ℕ :=
  records.map EvidenceRecord.evidenceSeq

@[simp] theorem evidenceSeqs_append (xs ys : List EvidenceRecord) :
    evidenceSeqs (xs ++ ys) = evidenceSeqs xs ++ evidenceSeqs ys := List.map_append

/-- Every record has a type, and the sequence numbers are contiguous from zero.  The moment
of a record is well formed by construction. -/
def validateV2PrimaryOrder (f : SessionFiles) : Bool :=
  f.primaryRecords.all (fun r => r.body.type ≠ "") &&
    (evidenceSeqs f.primaryRecords).insertionSort (· ≤ ·) = List.range f.metadata.nextEvidenceSeq

/-- The records refer to the raw bytes one after the other, from `expectedStart` to the end. -/
def validateV2UartRecordsFrom (raw : List UInt8) : ℕ → List EvidenceRecord → Bool
  | expectedStart, [] => expectedStart = raw.length
  | expectedStart, r :: rest =>
    match r.body with
    | .uartRx _ _ _ dataB64 rawOffsetStart rawOffsetEnd =>
      rawOffsetStart = expectedStart && rawOffsetStart < rawOffsetEnd && rawOffsetEnd ≤ raw.length
        && dataB64 ≠ ""
        && Base64.decode dataB64.toList
            = some ((raw.drop rawOffsetStart).take (rawOffsetEnd - rawOffsetStart))
        && validateV2UartRecordsFrom raw rawOffsetEnd rest
    | _ => false

def validateV2UartRecords (f : SessionFiles) : Bool :=
  validateV2UartRecordsFrom f.uartRaw 0 f.uartEvents

/-- Between one and 32 segments, numbered from zero. -/
def contiguousNativeSegments (m : Metadata) : Bool :=
  1 ≤ m.segments.length && m.segments.length ≤ maxSessionSegments &&
    m.segments.map SegmentMetadata.segmentId = List.range m.segments.length

/-! ## The invariant -/

/-- The records hold the raw bytes one after the other, the first at offset `start`. -/
inductive UartTiles : ℕ → List UInt8 → List EvidenceRecord → Prop where
  | nil (start : ℕ) : UartTiles start [] []
  | cons {start segmentId timestampUs channel evidenceSeq : ℕ} {recordedAt : Timestamp}
      {data raw : List UInt8} {records : List EvidenceRecord} (hne : data ≠ [])
      (rest : UartTiles (start + data.length) raw records) :
      UartTiles start (data ++ raw)
        (⟨evidenceSeq, recordedAt, .uartRx segmentId timestampUs channel
          (String.ofList (Base64.encode data)) start (start + data.length)⟩ :: records)

/-- The files of a session agree with each other and with their metadata. -/
structure JournalWellFormed (id : SessionId) (f : SessionFiles) : Prop where
  sessionId : f.metadata.sessionId = id
  sequences : (evidenceSeqs f.primaryRecords).Perm (List.range f.metadata.nextEvidenceSeq)
  uartIncreasing : (evidenceSeqs f.uartEvents).Pairwise (· < ·)
  operationIncreasing : (evidenceSeqs f.operationEvents).Pairwise (· < ·)
  hardwareIncreasing : (evidenceSeqs f.hardwareEvents).Pairwise (· < ·)
  connectionIncreasing : (evidenceSeqs f.connectionEvents).Pairwise (· < ·)
  types : ∀ r ∈ f.primaryRecords, r.body.type ≠ ""
  tiles : UartTiles 0 f.uartRaw f.uartEvents
  accounting : f.metadata.evidenceBytesWritten = f.evidenceBytes
  budget : f.evidenceBytes ≤ f.metadata.evidenceBudgetBytes
  segments : contiguousNativeSegments f.metadata = true

/-! ## What the invariant gives the validators -/

theorem validateV2PrimaryOrder_of_wellFormed {id : SessionId} {f : SessionFiles}
    (hf : JournalWellFormed id f) : validateV2PrimaryOrder f = true := by
  have hsorted : (evidenceSeqs f.primaryRecords).insertionSort (· ≤ ·)
      = List.range f.metadata.nextEvidenceSeq := by
    apply List.Perm.eq_of_pairwise' (r := (· ≤ ·))
    · exact List.pairwise_insertionSort _ _
    · exact List.pairwise_le_range
    · exact (List.perm_insertionSort _ _).trans hf.sequences
  rw [validateV2PrimaryOrder, Bool.and_eq_true, List.all_eq_true]
  constructor
  · intro r hr
    exact decide_eq_true (hf.types r hr)
  · exact decide_eq_true hsorted

theorem encode_ne_nil {data : List UInt8} (h : data ≠ []) : Base64.encode data ≠ [] := by
  intro hnil
  have hlen := Base64.length_encode data
  rw [hnil, List.length_nil] at hlen
  have : 0 < data.length := List.length_pos_iff.mpr h
  omega

/-- Records that hold the raw bytes after a prefix pass the check started at its end. -/
theorem validateFrom_of_tiles {start : ℕ} {raw : List UInt8} {records : List EvidenceRecord}
    (h : UartTiles start raw records) (before : List UInt8) (hstart : before.length = start) :
    validateV2UartRecordsFrom (before ++ raw) start records = true := by
  induction h generalizing before with
  | nil start => simp [validateV2UartRecordsFrom, hstart]
  | @cons start segmentId timestampUs channel evidenceSeq recordedAt data raw records hne rest ih =>
    have hpos : 0 < data.length := List.length_pos_iff.mpr hne
    have hslice : ((before ++ (data ++ raw)).drop start).take (start + data.length - start)
        = data := by
      rw [← hstart, List.drop_left, Nat.add_sub_cancel_left, List.take_left]
    have hb64 : String.ofList (Base64.encode data) ≠ "" := by
      intro hs
      apply encode_ne_nil hne
      rw [← String.toList_ofList (l := Base64.encode data), hs]
      rfl
    have hrest := ih (before ++ data) (by rw [List.length_append, hstart])
    rw [List.append_assoc] at hrest
    rw [validateV2UartRecordsFrom]
    simp only [Bool.and_eq_true, decide_eq_true_eq, String.toList_ofList, Base64.decode_encode,
      hslice, hrest, and_true, List.length_append]
    refine ⟨⟨⟨trivial, ?_⟩, ?_⟩, hb64⟩ <;> omega

theorem validateV2UartRecords_of_wellFormed {id : SessionId} {f : SessionFiles}
    (hf : JournalWellFormed id f) : validateV2UartRecords f = true :=
  validateFrom_of_tiles hf.tiles [] rfl

/-! ## Admitting evidence -/

/-- Bytes appended to the raw log belong to a record appended to the journal. -/
theorem UartTiles.append {start : ℕ} {raw : List UInt8} {records : List EvidenceRecord}
    (h : UartTiles start raw records) {data : List UInt8} (hne : data ≠ [])
    (evidenceSeq : ℕ) (recordedAt : Timestamp) (segmentId timestampUs channel : ℕ) :
    UartTiles start (raw ++ data)
      (records ++ [⟨evidenceSeq, recordedAt, .uartRx segmentId timestampUs channel
        (String.ofList (Base64.encode data)) (start + raw.length)
        (start + raw.length + data.length)⟩]) := by
  induction h with
  | nil start =>
    have hlast : UartTiles start (data ++ [])
        [⟨evidenceSeq, recordedAt, .uartRx segmentId timestampUs channel
          (String.ofList (Base64.encode data)) start (start + data.length)⟩] :=
      .cons hne (.nil _)
    rw [List.append_nil] at hlast
    exact hlast
  | @cons start _ _ _ _ _ first raw records hfirst rest ih =>
    rw [List.append_assoc, List.cons_append]
    apply UartTiles.cons hfirst
    rw [List.length_append, ← Nat.add_assoc]
    exact ih

/-- What new metadata keeps of the old one. -/
structure MetadataFrame (m m' : Metadata) : Prop where
  sessionId : m'.sessionId = m.sessionId
  nextEvidenceSeq : m'.nextEvidenceSeq = m.nextEvidenceSeq
  evidenceBudgetBytes : m'.evidenceBudgetBytes = m.evidenceBudgetBytes
  segments : contiguousNativeSegments m = true → contiguousNativeSegments m' = true

theorem MetadataFrame.refl (m : Metadata) : MetadataFrame m m := ⟨rfl, rfl, rfl, id⟩

theorem MetadataFrame.trans {m₁ m₂ m₃ : Metadata} (h₁ : MetadataFrame m₁ m₂)
    (h₂ : MetadataFrame m₂ m₃) : MetadataFrame m₁ m₃ :=
  ⟨h₂.sessionId.trans h₁.sessionId, h₂.nextEvidenceSeq.trans h₁.nextEvidenceSeq,
    h₂.evidenceBudgetBytes.trans h₁.evidenceBudgetBytes, h₂.segments ∘ h₁.segments⟩

/-- Only the identifiers of the segments matter. -/
theorem contiguous_of_map_eq {m m' : Metadata}
    (h : m'.segments.map SegmentMetadata.segmentId = m.segments.map SegmentMetadata.segmentId)
    (hm : contiguousNativeSegments m = true) : contiguousNativeSegments m' = true := by
  have hlen : m'.segments.length = m.segments.length := by
    rw [← List.length_map (f := SegmentMetadata.segmentId), h, List.length_map]
  rw [contiguousNativeSegments, hlen, h]
  exact hm

/-- A frame whose segments keep their identifiers. -/
theorem MetadataFrame.of_ids {m m' : Metadata} (hid : m'.sessionId = m.sessionId)
    (hnext : m'.nextEvidenceSeq = m.nextEvidenceSeq)
    (hbudget : m'.evidenceBudgetBytes = m.evidenceBudgetBytes)
    (hsegments : m'.segments.map SegmentMetadata.segmentId
      = m.segments.map SegmentMetadata.segmentId) : MetadataFrame m m' :=
  ⟨hid, hnext, hbudget, contiguous_of_map_eq hsegments⟩

/-- What an admission keeps of the metadata besides. -/
structure AdmissionFrame (m m' : Metadata) : Prop extends MetadataFrame m m' where
  state : m'.state = m.state
  predecessorSessionId : m'.predecessorSessionId = m.predecessorSessionId
  successorSessionId : m'.successorSessionId = m.successorSessionId
  interruptedOperations : m'.interruptedOperations = m.interruptedOperations

theorem AdmissionFrame.refl (m : Metadata) : AdmissionFrame m m := ⟨.refl m, rfl, rfl, rfl, rfl⟩

theorem AdmissionFrame.trans {m₁ m₂ m₃ : Metadata} (h₁ : AdmissionFrame m₁ m₂)
    (h₂ : AdmissionFrame m₂ m₃) : AdmissionFrame m₁ m₃ :=
  ⟨h₁.toMetadataFrame.trans h₂.toMetadataFrame, h₂.state.trans h₁.state,
    h₂.predecessorSessionId.trans h₁.predecessorSessionId,
    h₂.successorSessionId.trans h₁.successorSessionId,
    h₂.interruptedOperations.trans h₁.interruptedOperations⟩

/-- Evidence a unit adds to the journals, numbered on from the next sequence number. -/
structure Extension (f f' : SessionFiles) where
  data : List UInt8
  uart : List EvidenceRecord
  operation : List EvidenceRecord
  hardware : List EvidenceRecord
  connection : List EvidenceRecord
  uartRaw : f'.uartRaw = f.uartRaw ++ data
  uartEvents : f'.uartEvents = f.uartEvents ++ uart
  operationEvents : f'.operationEvents = f.operationEvents ++ operation
  hardwareEvents : f'.hardwareEvents = f.hardwareEvents ++ hardware
  connectionEvents : f'.connectionEvents = f.connectionEvents ++ connection
  sequences : evidenceSeqs (uart ++ operation ++ hardware ++ connection)
    = List.range' f.metadata.nextEvidenceSeq (uart ++ operation ++ hardware ++ connection).length
  types : ∀ r ∈ uart ++ operation ++ hardware ++ connection, r.body.type ≠ ""

namespace Extension

variable {id : SessionId} {f f' : SessionFiles}

/-- The number of records added. -/
def count (x : Extension f f') : ℕ :=
  (x.uart ++ x.operation ++ x.hardware ++ x.connection).length

/-- A journal stays increasing when increasing numbers from the next one on follow. -/
theorem increasing_append {next n : ℕ} {old new : List ℕ} (hold : old.Pairwise (· < ·))
    (hbelow : ∀ a ∈ old, a < next) (hnew : new.Sublist (List.range' next n)) :
    (old ++ new).Pairwise (· < ·) := by
  rw [List.pairwise_append]
  refine ⟨hold, (List.pairwise_lt_range' 1).sublist hnew, ?_⟩
  intro a ha b hb
  have := hbelow a ha
  have := (List.mem_range'_1.mp (hnew.subset hb)).1
  omega

/-- Each of four joined lists is a part of the whole. -/
theorem four_sublists {α : Type} (u o h c : List α) :
    u.Sublist (u ++ o ++ h ++ c) ∧ o.Sublist (u ++ o ++ h ++ c) ∧ h.Sublist (u ++ o ++ h ++ c) ∧
      c.Sublist (u ++ o ++ h ++ c) := by
  have huo : (u ++ o).Sublist (u ++ o ++ h ++ c) :=
    (List.sublist_append_left _ _).trans (List.sublist_append_left _ _)
  exact ⟨(List.sublist_append_left u o).trans huo, (List.sublist_append_right u o).trans huo,
    (List.sublist_append_right (u ++ o) h).trans (List.sublist_append_left _ c),
    List.sublist_append_right _ c⟩

/-- The files after the unit are well formed again, under metadata that counts it. -/
theorem wellFormed (x : Extension f f') (hf : JournalWellFormed id f) {m : Metadata}
    (hnext : m.nextEvidenceSeq = f.metadata.nextEvidenceSeq + x.count)
    (hid : m.sessionId = f.metadata.sessionId)
    (hsegments : contiguousNativeSegments m = true)
    (htiles : UartTiles 0 f'.uartRaw f'.uartEvents)
    (hbudget : f'.evidenceBytes ≤ m.evidenceBudgetBytes) :
    JournalWellFormed id (f'.withMetadata m) := by
  have hbelow : ∀ {xs : List EvidenceRecord}, xs.Sublist f.primaryRecords →
      ∀ n ∈ evidenceSeqs xs, n < f.metadata.nextEvidenceSeq := fun hxs n hn =>
    List.mem_range.mp (hf.sequences.subset ((hxs.map EvidenceRecord.evidenceSeq).subset hn))
  have hadded : ∀ {xs : List EvidenceRecord},
      xs.Sublist (x.uart ++ x.operation ++ x.hardware ++ x.connection) →
      (evidenceSeqs xs).Sublist (List.range' f.metadata.nextEvidenceSeq x.count) := by
    intro xs hxs
    have := hxs.map EvidenceRecord.evidenceSeq
    rw [show List.map _ _ = _ from x.sequences] at this
    exact this
  obtain ⟨hu, ho, hh, hc⟩ :=
    four_sublists f.uartEvents f.operationEvents f.hardwareEvents f.connectionEvents
  obtain ⟨hu', ho', hh', hc'⟩ := four_sublists x.uart x.operation x.hardware x.connection
  have hprimary : f'.primaryRecords = f.uartEvents ++ x.uart ++ (f.operationEvents ++ x.operation)
      ++ (f.hardwareEvents ++ x.hardware) ++ (f.connectionEvents ++ x.connection) := by
    rw [SessionFiles.primaryRecords, x.uartEvents, x.operationEvents, x.hardwareEvents,
      x.connectionEvents]
  have hperm : f'.primaryRecords.Perm
      (f.primaryRecords ++ (x.uart ++ x.operation ++ x.hardware ++ x.connection)) := by
    classical
    rw [hprimary, List.perm_iff_count]
    intro r
    simp only [SessionFiles.primaryRecords, List.count_append]
    omega
  exact
    { sessionId := hid.trans hf.sessionId
      sequences := by
        show (evidenceSeqs f'.primaryRecords).Perm (List.range m.nextEvidenceSeq)
        have hseqs := hperm.map EvidenceRecord.evidenceSeq
        rw [List.map_append, show List.map _ (x.uart ++ _ ++ _ ++ _) = _ from x.sequences] at hseqs
        have hrange : List.range m.nextEvidenceSeq
            = List.range f.metadata.nextEvidenceSeq
              ++ List.range' f.metadata.nextEvidenceSeq x.count := by
          rw [hnext, List.range_eq_range', List.range_eq_range', ← List.range'_append_1, Nat.zero_add]
        rw [hrange]
        exact hseqs.trans (hf.sequences.append_right _)
      uartIncreasing := by
        show (evidenceSeqs f'.uartEvents).Pairwise (· < ·)
        rw [x.uartEvents, evidenceSeqs_append]
        exact increasing_append hf.uartIncreasing (hbelow hu) (hadded hu')
      operationIncreasing := by
        show (evidenceSeqs f'.operationEvents).Pairwise (· < ·)
        rw [x.operationEvents, evidenceSeqs_append]
        exact increasing_append hf.operationIncreasing (hbelow ho) (hadded ho')
      hardwareIncreasing := by
        show (evidenceSeqs f'.hardwareEvents).Pairwise (· < ·)
        rw [x.hardwareEvents, evidenceSeqs_append]
        exact increasing_append hf.hardwareIncreasing (hbelow hh) (hadded hh')
      connectionIncreasing := by
        show (evidenceSeqs f'.connectionEvents).Pairwise (· < ·)
        rw [x.connectionEvents, evidenceSeqs_append]
        exact increasing_append hf.connectionIncreasing (hbelow hc) (hadded hc')
      types := by
        intro r hr
        rcases List.mem_append.mp (hperm.subset hr) with hr | hr
        · exact hf.types r hr
        · exact x.types r hr
      tiles := htiles
      accounting := rfl
      budget := hbudget
      segments := hsegments }

end Extension

namespace SessionFiles

@[simp] theorem append_metadata (f : SessionFiles) (stream : EvidenceStream) (r : EvidenceRecord) :
    (f.append stream r).metadata = f.metadata := by cases stream <;> rfl

theorem evidenceBytes_append (f : SessionFiles) (stream : EvidenceStream) (r : EvidenceRecord) :
    (f.append stream r).evidenceBytes = f.evidenceBytes + r.size := by
  cases stream <;>
    simp only [append, evidenceBytes, jsonlSize_append, jsonlSize_cons, jsonlSize_nil] <;> omega

end SessionFiles

/-- One record with the next sequence number. -/
def Extension.ofRecord (f : SessionFiles) (stream : EvidenceStream) (r : EvidenceRecord)
    (hseq : r.evidenceSeq = f.metadata.nextEvidenceSeq) (htype : r.body.type ≠ "") :
    Extension f (f.append stream r) where
  data := []
  uart := []
  operation := if stream = .operation then [r] else []
  hardware := if stream = .hardware then [r] else []
  connection := if stream = .connection then [r] else []
  uartRaw := by cases stream <;> simp [SessionFiles.append]
  uartEvents := by cases stream <;> simp [SessionFiles.append]
  operationEvents := by cases stream <;> simp [SessionFiles.append]
  hardwareEvents := by cases stream <;> simp [SessionFiles.append]
  connectionEvents := by cases stream <;> simp [SessionFiles.append]
  sequences := by cases stream <;> simp [evidenceSeqs, hseq]
  types := by cases stream <;> simpa using htype

theorem Extension.count_ofRecord (f : SessionFiles) (stream : EvidenceStream) (r : EvidenceRecord)
    (hseq : r.evidenceSeq = f.metadata.nextEvidenceSeq) (htype : r.body.type ≠ "") :
    (Extension.ofRecord f stream r hseq htype).count = 1 := by
  cases stream <;> rfl

/-- A record that fits may be admitted under metadata that advances the sequence. -/
theorem JournalWellFormed.append {id : SessionId} {f : SessionFiles}
    (hf : JournalWellFormed id f) {stream : EvidenceStream} {r : EvidenceRecord} {m : Metadata}
    (hseq : r.evidenceSeq = f.metadata.nextEvidenceSeq) (htype : r.body.type ≠ "")
    (hfits : f.metadata.unitFits r.size = true)
    (hframe : MetadataFrame { f.metadata with nextEvidenceSeq := r.evidenceSeq + 1 } m) :
    JournalWellFormed id ((f.append stream r).withMetadata m) := by
  apply (Extension.ofRecord f stream r hseq htype).wellFormed hf
  · rw [Extension.count_ofRecord, hframe.nextEvidenceSeq, hseq]
  · exact hframe.sessionId
  · exact hframe.segments hf.segments
  · have htiles := hf.tiles
    cases stream <;> exact htiles
  · have := of_decide_eq_true hfits
    rw [hf.accounting] at this
    rw [SessionFiles.evidenceBytes_append, hframe.evidenceBudgetBytes]
    exact this

/-- Metadata that frames the old one may replace it. -/
theorem JournalWellFormed.withMetadata {id : SessionId} {f : SessionFiles}
    (hf : JournalWellFormed id f) {m : Metadata} (hframe : MetadataFrame f.metadata m) :
    JournalWellFormed id (f.withMetadata m) :=
  { hf with
    sessionId := hframe.sessionId.trans hf.sessionId
    sequences := by
      show (evidenceSeqs f.primaryRecords).Perm (List.range m.nextEvidenceSeq)
      rw [hframe.nextEvidenceSeq]
      exact hf.sequences
    accounting := rfl
    budget := by
      show f.evidenceBytes ≤ m.evidenceBudgetBytes
      rw [hframe.evidenceBudgetBytes]
      exact hf.budget
    segments := hframe.segments hf.segments }

/-- A session is created well formed. -/
theorem wellFormed_initial (id : SessionId) (startedAt : Timestamp) (profile : DutProfile)
    (snapshot : BackendSnapshot) {budget : ℕ} (hbudget : minV2EvidenceBudgetBytes ≤ budget)
    (predecessor : Option SessionId) :
    JournalWellFormed id
      { metadata := initialV2Metadata id startedAt profile snapshot budget predecessor } where
  sessionId := rfl
  sequences := .nil
  uartIncreasing := .nil
  operationIncreasing := .nil
  hardwareIncreasing := .nil
  connectionIncreasing := .nil
  types := by simp [SessionFiles.primaryRecords]
  tiles := .nil 0
  accounting := rfl
  budget := by
    show 3 ≤ budget
    rw [minV2EvidenceBudgetBytes] at hbudget
    omega
  segments := rfl

/-! ## UART units -/

theorem patternsSize_eq (ps : List DetectedPattern) :
    patternsSize ps
      = 3 + ((ps.map DetectedPattern.toJson).map Json.size).sum + (ps.length - 1) := by
  rw [patternsSize, patternsBytes, List.length_append, Json.length_bytes, Json.size_arr,
    List.length_map, List.length_singleton]
  omega

/-- The patterns document never shrinks. -/
theorem patternsSize_le_append (xs ys : List DetectedPattern) :
    patternsSize xs ≤ patternsSize (xs ++ ys) := by
  simp only [patternsSize_eq, List.map_append, List.sum_append, List.length_append]
  omega

/-- The growth of the patterns document is what the new document takes more. -/
theorem patternsSize_document {existing : List DetectedPattern} {evidenceSeq : ℕ}
    {event : UartReceiveEvent} {patterns : List DetectedPattern}
    {document : Option (List DetectedPattern) × ℕ}
    (h : v2PatternDocument existing evidenceSeq event patterns = .ok document) :
    patternsSize (document.1.getD existing) = patternsSize existing + document.2 := by
  unfold v2PatternDocument at h
  split at h
  · cases h
    rfl
  · split at h
    · cases h
    · cases hcheck : (patterns.map fun p => { p with sourceEvidenceSeq := evidenceSeq }).forM
          (checkPattern event) with
      | error e => simp [hcheck, bind, Except.bind] at h
      | ok _ =>
        simp only [hcheck, bind, Except.bind, pure, Except.pure, Except.ok.injEq] at h
        subst h
        have := patternsSize_le_append existing
          (patterns.map fun p => { p with sourceEvidenceSeq := evidenceSeq })
        simp only [Option.getD_some]
        omega

/-- What the preparation of a UART unit gives for the current files of its session. -/
structure UnitOf (files : SessionFiles) (event : UartReceiveEvent) (unit : UartUnit) : Prop where
  record : ∃ recordedAt, unit.record =
    ⟨files.metadata.nextEvidenceSeq, recordedAt, .uartRx event.segmentId event.timestampUs
      event.channel (String.ofList (Base64.encode event.data)) files.uartRaw.length
      (files.uartRaw.length + event.data.length)⟩
  hardware : evidenceSeqs unit.hardwareEvents
    = List.range' (files.metadata.nextEvidenceSeq + 1) unit.hardwareEvents.length
  lineLimits : ∀ r ∈ unit.hardwareEvents, ∃ segmentId facts,
    r.body = .lineLimitExceeded segmentId facts
  bytes : (unit.write event.data files).evidenceBytes = files.evidenceBytes + unit.unitBytes

/-- Assertions that do not speak about the clock. -/
abbrev ClockFree (P : Store → Prop) : Prop :=
  ∀ st n, P st → P { st with clockReadings := n }

section Unit

variable {cfg : StoreConfig} {P : Store → Prop}

/-- Reading the clock changes no session. -/
theorem triple_readClock (hP : ClockFree P) :
    Triple P (readClock cfg) (fun _ => P) (fun _ => P) := by
  apply triple_look
  intro n
  apply triple_bind (R := fun _ => P) (triple_change fun st h => hP st _ h.2)
  intro _
  exact triple_pure fun _ h => h

/-- The line-limit records are numbered from the one given. -/
theorem triple_lineLimitRecords (hP : ClockFree P) (result : UartCaptureResult) (start : ℕ)
    (lines : List OversizedUartLine) :
    Triple P (lineLimitRecords cfg result start lines)
      (fun rs st => (evidenceSeqs rs = List.range' start rs.length ∧
        ∀ r ∈ rs, ∃ segmentId facts, r.body = .lineLimitExceeded segmentId facts) ∧ P st)
      (fun _ => P) := by
  induction lines generalizing start with
  | nil => exact triple_pure fun _ h => ⟨⟨rfl, by simp⟩, h⟩
  | cons line lines ih =>
    apply triple_bind (R := fun r st =>
      (r.evidenceSeq = start ∧ ∃ segmentId facts, r.body = .lineLimitExceeded segmentId facts)
        ∧ P st)
    · apply triple_lift_bind (fun _ _ _ h => h)
      intro facts _
      apply triple_bind (triple_readClock hP)
      intro recordedAt
      exact triple_pure fun _ h => ⟨⟨rfl, _, _, rfl⟩, h⟩
    intro r
    apply triple_assume (fun _ h => h.1)
    rintro ⟨hseq, htype⟩
    apply triple_bind
      (triple_conseq (ih (start + 1)) (fun _ h => h.2) (fun _ _ h => h) fun _ _ h => h)
    intro rs
    refine triple_pure fun st h => ⟨⟨?_, ?_⟩, h.2⟩
    · rw [List.length_cons, List.range'_succ, ← h.1.1, ← hseq]
      rfl
    · intro r' hr'
      rcases List.mem_cons.mp hr' with rfl | hr'
      · exact htype
      · exact h.1.2 r' hr'

theorem triple_unitHardwareEvents (hP : ClockFree P) (evidenceSeq : ℕ)
    (captureResult : Option UartCaptureResult) :
    Triple P (unitHardwareEvents cfg evidenceSeq captureResult)
      (fun rs st => (evidenceSeqs rs = List.range' (evidenceSeq + 1) rs.length ∧
        ∀ r ∈ rs, ∃ segmentId facts, r.body = .lineLimitExceeded segmentId facts) ∧ P st)
      (fun _ => P) := by
  cases captureResult with
  | none => exact triple_pure fun _ h => ⟨⟨rfl, by simp⟩, h⟩
  | some result => exact triple_lineLimitRecords hP result _ _

theorem triple_uartUnit (hP : ClockFree P) {files : SessionFiles} {a : UartAdmission} :
    Triple P (uartUnit cfg files a) (fun unit st => UnitOf files a.event unit ∧ P st)
      (fun _ => P) := by
  apply triple_lift_bind (fun _ _ _ h => h)
  intro patterns _
  refine triple_require_bind (fun _ h => h) ?_
  intro _
  apply triple_bind (triple_readClock hP)
  intro recordedAt
  refine triple_require_bind (fun _ h => h) ?_
  intro _
  refine triple_lift_bind (fun _ _ _ h => h) ?_
  intro document hdocument
  apply triple_bind (triple_unitHardwareEvents hP _ _)
  intro hardwareEvents
  refine triple_pure fun st h => ⟨⟨⟨recordedAt, rfl⟩, h.1.1, h.1.2, ?_⟩, h.2⟩
  have hgrowth := patternsSize_document hdocument
  simp only [UartUnit.write, SessionFiles.evidenceBytes, List.length_append, jsonlSize_append,
    jsonlSize_cons, jsonlSize_nil, hgrowth]
  omega

end Unit

theorem admissionFrame_unit (unit : UartUnit) (event : UartReceiveEvent)
    (captureResult : Option UartCaptureResult) (m : Metadata) :
    AdmissionFrame
      { m with nextEvidenceSeq := unit.record.evidenceSeq + 1 + unit.hardwareEvents.length }
      (unit.metadata event captureResult m) := by
  cases captureResult with
  | none => exact .refl _
  | some result =>
    exact ⟨.of_ids rfl rfl rfl (Metadata.map_segmentId_recordSegmentTimestamp _ _ _),
      rfl, rfl, rfl, rfl⟩

/-- A UART unit that fits may be admitted. -/
theorem JournalWellFormed.writeUnit {id : SessionId} {f : SessionFiles}
    (hf : JournalWellFormed id f) {event : UartReceiveEvent} {unit : UartUnit}
    {captureResult : Option UartCaptureResult} (hunit : UnitOf f event unit)
    (hne : event.data ≠ []) (hfits : f.metadata.unitFits unit.unitBytes = true) :
    JournalWellFormed id
      ((unit.write event.data f).withMetadata (unit.metadata event captureResult f.metadata)) := by
  obtain ⟨recordedAt, hrecord⟩ := hunit.record
  have hseq : unit.record.evidenceSeq = f.metadata.nextEvidenceSeq := by rw [hrecord]
  have hframe := admissionFrame_unit unit event captureResult f.metadata
  let x : Extension f (unit.write event.data f) :=
    { data := event.data
      uart := [unit.record]
      operation := []
      hardware := unit.hardwareEvents
      connection := []
      uartRaw := rfl
      uartEvents := rfl
      operationEvents := (List.append_nil _).symm
      hardwareEvents := rfl
      connectionEvents := (List.append_nil _).symm
      sequences := by
        simp only [List.append_nil, List.cons_append, List.nil_append, List.length_cons,
          List.range'_succ]
        rw [← hunit.hardware, ← hseq]
        rfl
      types := by
        intro r hr
        simp only [List.append_nil, List.cons_append, List.nil_append, List.mem_cons] at hr
        rcases hr with rfl | hr
        · rw [hrecord]
          simp [RecordBody.type]
        · obtain ⟨segmentId, facts, hbody⟩ := hunit.lineLimits r hr
          simp [hbody, RecordBody.type] }
  apply x.wellFormed hf
  · rw [hframe.nextEvidenceSeq]
    show unit.record.evidenceSeq + 1 + unit.hardwareEvents.length = _ + x.count
    have hcount : x.count = unit.hardwareEvents.length + 1 := by simp [x, Extension.count]
    omega
  · exact hframe.sessionId
  · exact hframe.segments hf.segments
  · show UartTiles 0 (f.uartRaw ++ event.data) (f.uartEvents ++ [unit.record])
    rw [hrecord]
    have := hf.tiles.append hne f.metadata.nextEvidenceSeq recordedAt event.segmentId
      event.timestampUs event.channel
    rw [Nat.zero_add] at this
    exact this
  · have := of_decide_eq_true hfits
    rw [hf.accounting] at this
    rw [hunit.bytes, hframe.evidenceBudgetBytes]
    exact this
