/-
# A recorded event

The record of an event is read back from its line of the artifact, and the lines of an artifact of
one record are those of its bytes.
-/
import DutchMate.SessionPages
import DutchMate.UartSelection

open PyJson SplitLines UartLineBuffer
open LogReplay hiding flushBuffer newLines

namespace DebugEvidence

/-! ## The record -/

/-- The record of some bytes received at once, as JSON. -/
def recordedUart (data : List UInt8) : List Char :=
  '{' :: (strLiteral (py "type") ++ ':' :: (strLiteral (py "uart") ++ ',' ::
    (strLiteral (py "segment_id") ++ ':' :: '0' :: ',' ::
      (strLiteral (py "timestamp_us") ++ ':' :: '0' :: ',' ::
        (strLiteral (py "channel") ++ ':' :: '0' :: ',' ::
          (strLiteral (py "data_b64") ++ ':' :: (strLiteral (codePoints (Base64.encode data)) ++
            ',' :: (strLiteral (py "text") ++ ':' ::
              (strLiteral (codePoints (Utf8.decodeReplace data)) ++ ['}'])))))))))

def uartFields (data : List UInt8) : Payload :=
  [(py "type", .str (py "uart")), (py "segment_id", .int 0), (py "timestamp_us", .int 0),
    (py "channel", .int 0), (py "data_b64", .str (codePoints (Base64.encode data))),
    (py "text", .str (codePoints (Utf8.decodeReplace data)))]

theorem codePoints_recordedUart (data : List UInt8) (rest : List Char) :
    codePoints (recordedUart data ++ rest)
      = 0x7B :: literalThen (py "type") (0x3A :: literalThen (py "uart") (0x2C ::
          literalThen (py "segment_id") (0x3A :: 0x30 :: 0x2C ::
            literalThen (py "timestamp_us") (0x3A :: 0x30 :: 0x2C ::
              literalThen (py "channel") (0x3A :: 0x30 :: 0x2C ::
                literalThen (py "data_b64") (0x3A ::
                  literalThen (codePoints (Base64.encode data)) (0x2C ::
                    literalThen (py "text") (0x3A ::
                      literalThen (codePoints (Utf8.decodeReplace data))
                        (0x7D :: codePoints rest))))))))) := by
  have hcons : ∀ (c : Char) (s : List Char), codePoints (c :: s) = c.toNat :: codePoints s :=
    fun _ _ => rfl
  simp only [recordedUart, List.cons_append, List.append_assoc, List.nil_append, hcons,
    codePoints_append, codePoints_strLiteral]
  rfl

theorem read_digit_member {scan : Scanner PyJson} {name rest : PyStr} {maxStrDigits nesting : ℕ}
    (hscan : scan = scanValue maxStrDigits nesting) (hname : ∀ c ∈ name, c < 0x80)
    (hdigits : 0 < maxStrDigits) :
    read (scanMember scan (literalThen name (0x3A :: 0x30 :: 0x2C :: rest)))
      = .ok ((name, .int 0), 0x2C :: rest) := by
  subst hscan
  exact read_scanMember (read_scanString _ (fun c hc => (hname c hc).trans (by decide))
    (not_splitsPair_of_lt fun c hc => (hname c hc).trans (by decide)))
    (read_scanValue_digit nesting (by decide) (.inr rfl) hdigits rest)

/-- A record is loaded as its fields. -/
theorem loads_recordedUart (limits : JsonLimits) {data : List UInt8}
    (hencoded : ∀ c ∈ codePoints (Base64.encode data), c < 0xD800)
    (htext : ∀ c ∈ codePoints (Utf8.decodeReplace data), c < 0xD800) :
    loads limits (codePoints (recordedUart data ++ ['\n'])) = .ok (.obj (uartFields data)) := by
  obtain ⟨nesting, hnesting⟩ : ∃ n, limits.nesting = n + 1 :=
    ⟨_, (Nat.succ_pred_eq_of_pos limits.nesting_pos).symm⟩
  have hvalue : read (scanValue limits.maxStrDigits limits.nesting
      (skipBlanks (codePoints (recordedUart data ++ ['\n']))))
        = .ok (.obj (uartFields data), codePoints ['\n']) := by
    rw [codePoints_recordedUart, skipBlanks_cons (by decide), hnesting]
    refine read_scanValue_obj ?_ ?_
    · rw [literalThen_noBlank]
      exact fun heq => absurd (Option.some.inj heq) (by decide)
    · have hrange : ∀ {s : PyStr}, (∀ c ∈ s, c < 0xD800) → ∀ c ∈ s, c < 0x110000 :=
        fun h c hc => (h c hc).trans (by decide)
      have hlast : read (scanMember (scanValue limits.maxStrDigits nesting) (literalThen (py "text")
            (0x3A :: literalThen (codePoints (Utf8.decodeReplace data))
              (0x7D :: codePoints ['\n']))))
          = .ok ((py "text", .str (codePoints (Utf8.decodeReplace data))),
              0x7D :: codePoints ['\n']) :=
        read_literal_member rfl (by decide) (hrange htext) (not_splitsPair_of_lt htext)
      rw [literalThen_noBlank,
        read_scanMembers_next (read_literal_member rfl (by decide) (by decide)
          (not_splitsPair_of_lt (by decide))),
        literalThen_noBlank,
        read_scanMembers_next (read_digit_member rfl (by decide) limits.maxStrDigits_pos),
        literalThen_noBlank,
        read_scanMembers_next (read_digit_member rfl (by decide) limits.maxStrDigits_pos),
        literalThen_noBlank,
        read_scanMembers_next (read_digit_member rfl (by decide) limits.maxStrDigits_pos),
        literalThen_noBlank,
        read_scanMembers_next (read_literal_member rfl (by decide) (hrange hencoded)
          (not_splitsPair_of_lt hencoded)),
        literalThen_noBlank, read_scanMembers_last hlast]
      rfl
  refine loads_of_read (fun heq => ?_) hvalue rfl
  rw [codePoints_recordedUart] at heq
  exact absurd (Option.some.inj heq) (by decide)

/-! ## The line of the artifact -/

theorem letter_ascii (n : ℕ) : (Base64.letter n).toNat < 0x80 := by
  have hall : ∀ c ∈ Base64.alphabet, c.toNat < 0x80 := forall_ascii (by decide +kernel)
  rw [Base64.letter, List.getD_eq_getElem?_getD]
  cases hletter : Base64.alphabet[n]? with
  | none => decide
  | some c => exact hall c (List.mem_of_getElem? hletter)

theorem encode_ascii (data : List UInt8) : ∀ c ∈ Base64.encode data, c.toNat < 0x80 := by
  induction data using Base64.encode.induct with
  | case1 => exact List.forall_mem_nil _
  | case2 a =>
    simp only [Base64.encode, List.forall_mem_cons, letter_ascii, true_and]
    exact ⟨by decide, by decide, List.forall_mem_nil _⟩
  | case3 a b =>
    simp only [Base64.encode, List.forall_mem_cons, letter_ascii, true_and]
    exact ⟨by decide, List.forall_mem_nil _⟩
  | case4 a b c rest ih =>
    simp only [Base64.encode, List.forall_mem_cons, letter_ascii, true_and]
    exact ih

theorem map_ofNat_codePoints (cs : List Char) : (codePoints cs).map Char.ofNat = cs := by
  rw [codePoints, List.map_map]
  exact (List.map_congr_left fun c _ => Char.ofNat_toNat c).trans (List.map_id _)

theorem b64decode_encode (data : List UInt8) :
    b64decode (codePoints (Base64.encode data)) = some data := by
  have hascii : (codePoints (Base64.encode data)).all (· < 0x80) = true := by
    rw [List.all_eq_true]
    intro c hc
    obtain ⟨letter, hletter, rfl⟩ := List.mem_map.mp hc
    exact decide_eq_true (encode_ascii data letter hletter)
  rw [b64decode, if_pos hascii, map_ofNat_codePoints, Base64.decode_encode]

theorem decodeReplace_ascii {data : List UInt8} (h : ∀ b ∈ data, b < 0x80) :
    Utf8.decodeReplace data = data.map fun b => Char.ofNat b.toNat := by
  induction data with
  | nil => rfl
  | cons b data ih =>
    have hcount : Utf8.continuationCount b = some 0 := if_pos (h b (by simp))
    rw [Utf8.decodeReplace, hcount, ih fun b hb => h b (by simp [hb])]
    rfl

theorem toNat_ofByte {b : UInt8} (h : b < 0x80) : (Char.ofNat b.toNat).toNat < 0x80 := by
  have hlt : b.toNat < 0x80 := UInt8.lt_iff_toNat_lt.mp h
  have hvalid : (Char.ofNat b.toNat).toNat = b.toNat := toNat_ofNat (.inl (by omega))
  rw [hvalid]
  exact hlt

theorem codePoints_lt {data : List UInt8} (h : ∀ b ∈ data, b < 0x80) :
    ∀ c ∈ codePoints (Utf8.decodeReplace data), c < 0x80 := by
  rw [decodeReplace_ascii h, codePoints, List.map_map]
  intro c hc
  obtain ⟨b, hb, rfl⟩ := List.mem_map.mp hc
  exact toNat_ofByte (h b hb)

/-- The bytes of a record with its newline. -/
def recordedLine (data : List UInt8) : List UInt8 :=
  Utf8.encodeChars (recordedUart data ++ ['\n'])

theorem recordedLine_eq (data : List UInt8) :
    recordedLine data = Utf8.encodeChars (recordedUart data) ++ [newline] :=
  Utf8.encodeChars_append _ _

/-- What was received is read back of its record. -/
theorem decodeUart_recordedLine (limits : JsonLimits) {data : List UInt8}
    (h : ∀ b ∈ data, b < 0x80) :
    decodeUart limits (recordedLine data) = .ok ⟨0, 0, 0, data, none⟩ := by
  have hencoded : ∀ c ∈ codePoints (Base64.encode data), c < 0xD800 := by
    intro c hc
    obtain ⟨letter, hletter, rfl⟩ := List.mem_map.mp hc
    exact (encode_ascii data letter hletter).trans (by decide)
  have hcomplete : ¬(recordedLine data = [newline] ∨
      (recordedLine data).getLast? ≠ some newline) := by
    rw [recordedLine_eq, List.getLast?_concat, not_or, not_not]
    refine ⟨fun heq => ?_, rfl⟩
    exact Utf8.encodeChars_ne_nil (List.cons_ne_nil _ _)
      (List.append_cancel_right (heq.trans (List.nil_append [newline]).symm))
  have hobject : jsonlObject limits (recordedLine data) = .ok (uartFields data) := by
    rw [jsonlObject, if_neg hcomplete, recordedLine, Utf8.decode_encodeChars_self]
    dsimp only
    rw [loads_recordedUart limits hencoded fun c hc => (codePoints_lt h c hc).trans (by decide)]
  have hrecord : uartRecord (uartFields data) = .ok ⟨0, 0, 0, data, none⟩ := by
    have hfields : (!hasKeys uartEventKeys (uartFields data) ||
        !isString (getField (uartFields data) "type") (py "uart")) = false := rfl
    have htext : (!isString (getField (uartFields data) "text")
        (codePoints (Utf8.decodeReplace data))) = false := by
      change (!decide (codePoints (Utf8.decodeReplace data) = _)) = false
      rw [decide_eq_true rfl]
      rfl
    have hsegment : integer (getField (uartFields data) "segment_id") "segment_id" = .ok 0 := rfl
    have hchannel : integer (getField (uartFields data) "channel") "channel" = .ok 0 := rfl
    have htimestamp : integer (getField (uartFields data) "timestamp_us") "timestamp_us"
        = .ok 0 := rfl
    have hdata : getField (uartFields data) "data_b64"
        = some (.str (codePoints (Base64.encode data))) := rfl
    unfold uartRecord
    rw [hfields, if_neg Bool.false_ne_true, hsegment, hchannel, htimestamp]
    dsimp only [bind, Except.bind]
    rw [hdata]
    dsimp only
    rw [b64decode_encode]
    dsimp only
    rw [htext]
    rfl
  rw [decodeUart, hobject]
  exact hrecord

theorem escapeUnit_ne (n : ℕ) : '\n' ∉ Json.escapeUnit n := by
  have hdigit : ∀ d : Fin 16, '\n' ≠ Nat.digitChar d := by decide
  have hmod : ∀ m, '\n' ≠ Nat.digitChar (m % 16) := fun m =>
    hdigit ⟨m % 16, Nat.mod_lt _ (by decide)⟩
  simp only [Json.escapeUnit, Json.hexDigits, List.nil_append, List.cons_append, List.mem_cons,
    List.not_mem_nil, not_or, or_false]
  exact ⟨by decide, by decide, hmod _, hmod _, hmod _, hmod _⟩

theorem escapeCode_ne (n : ℕ) : '\n' ∉ escapeCode n := by
  unfold escapeCode
  split
  · unfold Json.escapeChar
    split_ifs with _ _ _ _ _ _ _ hplain hbasic
    iterate 7 decide
    · rw [List.mem_singleton]
      intro heq
      rw [← heq] at hplain
      exact absurd hplain.1 (by decide)
    · exact escapeUnit_ne _
    · rw [List.mem_append, not_or]
      exact ⟨escapeUnit_ne _, escapeUnit_ne _⟩
  · exact escapeUnit_ne n

/-- A string literal ends no line. -/
theorem strLiteral_ne (s : PyStr) : '\n' ∉ strLiteral s := by
  rw [strLiteral, List.mem_cons, List.mem_append, List.mem_flatMap, List.mem_singleton]
  rintro (hquote | ⟨c, -, hmem⟩ | hquote)
  · exact absurd hquote (by decide)
  · exact escapeCode_ne c hmem
  · exact absurd hquote (by decide)

theorem utf8EncodeChar_one {c : Char} (h : c.toNat < 0x80) :
    String.utf8EncodeChar c = [c.val.toUInt8] :=
  if_pos (show c.val.toNat ≤ 0x7F from Nat.le_of_lt_succ h)

theorem newline_not_mem {cs : List Char} (hascii : ∀ c ∈ cs, c.toNat < 0x80) (h : '\n' ∉ cs) :
    newline ∉ Utf8.encodeChars cs := by
  intro hmem
  obtain ⟨c, hc, hbyte⟩ := List.mem_flatMap.mp hmem
  have hlt := hascii c hc
  rw [utf8EncodeChar_one hlt, List.mem_singleton] at hbyte
  have hnat : (10 : ℕ) = c.toNat % 256 := congrArg UInt8.toNat hbyte
  rw [Nat.mod_eq_of_lt (hlt.trans (by decide))] at hnat
  have hsame : c = '\n' := Char.toNat_inj.mp hnat.symm
  exact h (hsame ▸ hc)

theorem recordedUart_ascii (data : List UInt8) :
    (∀ c ∈ recordedUart data, c.toNat < 0x80) ∧ '\n' ∉ recordedUart data := by
  constructor
  · simp only [recordedUart, List.forall_mem_cons, List.forall_mem_append]
    have hliteral := strLiteral_ascii
    refine ⟨by decide, hliteral _, by decide, hliteral _, by decide, hliteral _, by decide,
      by decide, by decide, hliteral _, by decide, by decide, by decide, hliteral _, by decide,
      by decide, by decide, hliteral _, by decide, hliteral _, by decide, hliteral _, by decide,
      hliteral _, by decide, nofun⟩
  · simp only [recordedUart, List.mem_cons, List.mem_append, strLiteral_ne, false_or]
    decide

theorem jsonlLines_recordedLine (data : List UInt8) :
    jsonlLines (recordedLine data) = [recordedLine data] := by
  obtain ⟨hascii, hnewline⟩ := recordedUart_ascii data
  have hopen : ∀ b ∈ Utf8.encodeChars (recordedUart data), (b == newline) = false := fun b hb =>
    beq_false_of_ne fun heq => newline_not_mem hascii hnewline (heq ▸ hb)
  have hsplit := splitFrom_segment (· == newline) [] _ [] newline hopen rfl
  rw [jsonlLines, recordedLine_eq, physicalLines, hsplit]
  rfl

/-! ## An artifact of one record -/

section

variable {facts : SessionFacts} {patterns : List LineReference} {event : UartEvent}

/-- The event of a record whose bytes end with a line that is not oversized. -/
structure Ended (event : UartEvent) : Prop where
  tail : tailOf [(0, event)] event.key = []
  short : ∀ l ∈ LogReplay.newLines [] (0, event), oversized l = false

theorem readEvent_first {validSegments : List ℕ} (hvalid : event.segmentId ∈ validSegments)
    (h : Ended event) :
    readEvent facts patterns validSegments 0 event {}
      = .ok
        { buffers := (∅ : Dict (ℕ × ℕ) UartLineBuffer).set event.key {}
          timestamps := (∅ : Dict (ℕ × ℕ) ℕ).set event.key event.timestampUs
          currentSegment := some event.segmentId
          selector := (newRecords [] (0, event)).foldl (observeLine facts patterns) {} } := by
  have htail : (splitFrom isNewline [] (bytesOf (0, event))).2 = [] :=
    (tailOf_self [] (0, event)).symm.trans h.tail
  have hfeed : (({} : UartLineBuffer)).feedResult event.data (some 0) (some event.timestampUs) 0
      = ({}, extend {} [] (LogReplay.newLines [] (0, event)) []) := by
    have hfed := feedResult_ofTail 0 event.timestampUs 0 event.data []
    rw [ofTail_nil] at hfed
    rw [hfed]
    change (ofTail (splitFrom isNewline [] (bytesOf (0, event))).2,
      extend {} [] _ (splitFrom isNewline [] (bytesOf (0, event))).2) = _
    rw [htail, ofTail_nil]
    rfl
  have hobserve : ∀ s : UartSelector,
      (((LogReplay.newLines [] (0, event)).filter (!oversized ·)).map lineOf).foldlM
          (fun s line => observe facts patterns s line event.segmentId event.channel
            event.timestampUs false) s
        = .ok ((newRecords [] (0, event)).foldl (observeLine facts patterns) s) :=
    observe_complete event.key fun l hl =>
      @getLast?_newLines [] (0, event) l (List.mem_of_mem_filter hl)
  have hnone : (LogReplay.newLines [] (0, event)).filter oversized = [] :=
    List.filter_eq_nil_iff.mpr fun l hl => by
      rw [h.short l hl]
      exact Bool.false_ne_true
  unfold readEvent enterSegment
  rw [if_neg (not_not.mpr hvalid)]
  dsimp only [bind, Except.bind]
  rw [show (∅ : Dict (ℕ × ℕ) UartLineBuffer).getD event.key {} = {} from rfl, hfeed]
  dsimp only
  rw [extend_lines, extend_oversizedLines, hnone, List.nil_append, List.nil_append, hobserve]
  rfl

variable (facts patterns) in
theorem flushSegment_first (segmentId : ℕ) (key : ℕ × ℕ) (timestampUs : ℕ) (s : UartSelector)
    (hkey : key.1 = segmentId) :
    ∃ reading, flushSegment facts patterns segmentId
      { buffers := (∅ : Dict (ℕ × ℕ) UartLineBuffer).set key {}
        timestamps := (∅ : Dict (ℕ × ℕ) ℕ).set key timestampUs
        currentSegment := some segmentId
        selector := s } = .ok reading ∧ reading.selector = s := by
  have hempty : (({} : UartLineBuffer).flushResult).2 = {} := by decide
  have hentries : ((∅ : Dict (ℕ × ℕ) UartLineBuffer).set key {}).keys = [key] := by
    rw [Dict.keys, Dict.entries_set_of_notMem _ _ List.not_mem_nil]
    rfl
  have hflush : [key].foldlM (flushBuffer segmentId)
      (({ buffers := (∅ : Dict (ℕ × ℕ) UartLineBuffer).set key {}
          timestamps := (∅ : Dict (ℕ × ℕ) ℕ).set key timestampUs
          currentSegment := some segmentId
          selector := s } : UartReading), ([] : List PendingLine))
      = .ok
        ({ buffers := ((∅ : Dict (ℕ × ℕ) UartLineBuffer).set key {}).erase key
           timestamps := ((∅ : Dict (ℕ × ℕ) ℕ).set key timestampUs).erase key
           currentSegment := some segmentId
           selector := s }, []) := by
    rw [List.foldlM_cons]
    unfold flushBuffer
    dsimp only
    rw [if_neg (not_not.mpr hkey), Dict.get?_set_self, Dict.get?_set_self]
    dsimp only
    rw [hempty]
    rfl
  unfold flushSegment
  dsimp only
  rw [hentries, hflush]
  exact ⟨_, rfl, rfl⟩

/-- The reader has observed the lines of the one record. -/
theorem readUart_first {limits : JsonLimits} {data raw : List UInt8} {validSegments : List ℕ}
    (hlines : jsonlLines data = [raw]) (hdecode : decodeUart limits raw = .ok event)
    (hsegments : facts.segments.mapM (fun segment =>
      integer (getField segment "segment_id") "segment_id") = .ok validSegments)
    (hvalid : event.segmentId ∈ validSegments) (h : Ended event) :
    readUart limits facts patterns data
      = .ok ((newRecords [] (0, event)).foldl (observeLine facts patterns) {}) := by
  obtain ⟨reading, hflush, hselector⟩ := flushSegment_first facts patterns event.segmentId event.key
    event.timestampUs ((newRecords [] (0, event)).foldl (observeLine facts patterns) {}) rfl
  unfold readUart
  rw [hsegments, hlines]
  dsimp only [bind, Except.bind]
  unfold readRecords
  rw [hdecode]
  dsimp only [bind, Except.bind]
  rw [readEvent_first hvalid h]
  unfold readRecords
  dsimp only
  rw [hflush]
  dsimp only
  rw [hselector]

/-- The lines of the one record are those of the stream. -/
theorem streamLines_first (hseq : event.evidenceSeq = none) (h : Ended event) :
    streamLines [event] = newRecords [] (0, event) := by
  have hrecords : recordsOf [event] = [(0, event)] := by
    rw [recordsOf, recordsFrom_cons, hseq]
    rfl
  refine streamLines_eq ?_ (pairwise_newRecords [] (0, event)) fun line => ?_
  · rw [hrecords]
    exact List.nodup_singleton _
  · have hnew : IsComplete [(0, event)] line
        ↔ IsComplete [] line ∨ line ∈ newRecords [] (0, event) :=
      @isComplete_concat [] (0, event) line
    have hnone : ¬IsComplete [] line := by
      rintro ⟨key, l, hl, -⟩
      cases hl
    rw [hrecords, hnew, or_iff_right hnone, or_iff_left]
    rintro ⟨key, hleft⟩
    obtain ⟨l, hl, -⟩ := id hleft
    obtain ⟨-, -, record, hrecord, hkey, -⟩ := hleft.properties
    obtain rfl := List.mem_singleton.mp hrecord
    obtain rfl : event.key = key := hkey
    rw [tailLines, if_pos h.tail] at hl
    cases hl

end

/-! ## A long line before a short one -/

/-- A line of some letters, and one of a single letter. -/
def longData (n : ℕ) : List UInt8 := List.replicate n 0x78 ++ newline :: [0x45, newline]

def longEvent (n : ℕ) : UartEvent := ⟨0, 0, 0, longData n, none⟩

theorem longData_ascii (n : ℕ) : ∀ b ∈ longData n, b < 0x80 := by
  intro b hb
  rw [longData, List.mem_append] at hb
  rcases hb with hb | hb
  · rw [List.eq_of_mem_replicate hb]
    decide
  · rcases List.mem_cons.mp hb with rfl | hb
    · decide
    · rcases List.mem_pair.mp hb with rfl | rfl
      · decide
      · decide

/-- The bytes of the first line, with their places. -/
def longLine (n : ℕ) : List TaggedByte :=
  tagFrom 0 0 0 0 (List.replicate n 0x78) ++ [(newline, ⟨0, n, 0, 0⟩)]

def shortLine (n : ℕ) : List TaggedByte :=
  [(0x45, ⟨0, n + 1, 1, 0⟩), (newline, ⟨0, n + 1 + 1, 1, 0⟩)]

theorem splitFrom_longData (n : ℕ) :
    splitFrom isNewline [] (bytesOf (0, longEvent n)) = ([longLine n, shortLine n], []) := by
  have hopen : ∀ b ∈ List.replicate n (0x78 : UInt8), b ≠ newline := fun b hb => by
    rw [List.eq_of_mem_replicate hb]
    decide
  have hbytes : bytesOf (0, longEvent n)
      = tagFrom 0 0 0 0 (List.replicate n 0x78) ++ (newline, ⟨0, n, 0, 0⟩) ::
          [(0x45, ⟨0, n + 1, 1, 0⟩), (newline, ⟨0, n + 1 + 1, 1, 0⟩)] := by
    change tagFrom 0 0 0 0 (longData n) = _
    rw [longData, tagFrom_line 0 0 0 0 _ _ hopen, List.length_replicate, Nat.zero_add, Nat.zero_add]
    rfl
  rw [hbytes, splitFrom_segment isNewline [] _ _ _ (isNewline_tagFrom_open 0 0 0 0 _ hopen) rfl]
  rfl

theorem ended_longEvent {n : ℕ} (h : n < maxUartLineBytes) : Ended (longEvent n) where
  tail := (tailOf_self [] (0, longEvent n)).trans (congrArg Prod.snd (splitFrom_longData n))
  short l hl := by
    change l ∈ (splitFrom isNewline [] (bytesOf (0, longEvent n))).1 at hl
    rw [splitFrom_longData] at hl
    rcases List.mem_pair.mp hl with rfl | rfl
    · have hlength : (longLine n).length = n + 1 := by
        rw [longLine, List.length_append, length_tagFrom, List.length_replicate,
          List.length_singleton]
      rw [oversized, hlength]
      exact decide_eq_false (not_lt.mpr h)
    · rfl

theorem newRecords_longEvent {n : ℕ} (h : n < maxUartLineBytes) :
    newRecords [] (0, longEvent n)
      = [logLine (0, 0) 0 false (lineOf (longLine n)),
          logLine (0, 0) 0 false (lineOf (shortLine n))] := by
  have hlines : LogReplay.newLines [] (0, longEvent n) = [longLine n, shortLine n] :=
    congrArg Prod.fst (splitFrom_longData n)
  have hshort : [longLine n, shortLine n].filter (!oversized ·) = [longLine n, shortLine n] :=
    List.filter_eq_self.mpr fun l hl => by
      rw [(ended_longEvent h).short l (hlines ▸ hl)]
      rfl
  have hlast : (longLine n).getLast? = some (newline, ⟨0, n, 0, 0⟩) := List.getLast?_concat
  rw [newRecords, hlines, hshort, List.filterMap_cons_some (completeLine_eq hlast _)]
  rfl

theorem length_encodeChars_ascii {data : List UInt8} (h : ∀ b ∈ data, b < 0x80) :
    (Utf8.encodeChars (Utf8.decodeReplace data)).length = data.length := by
  rw [decodeReplace_ascii h]
  induction data with
  | nil => rfl
  | cons b data ih =>
    have hrest := ih fun b hb => h b (List.mem_cons_of_mem _ hb)
    rw [Utf8.encodeChars] at hrest ⊢
    rw [List.map_cons, List.flatMap_cons,
      utf8EncodeChar_one (toNat_ofByte (h b List.mem_cons_self)), List.length_append, hrest,
      List.length_singleton, List.length_cons, Nat.add_comm]

theorem lineSize_longLine (n : ℕ) :
    lineSize (logLine (0, 0) 0 false (lineOf (longLine n))) = n + 1 := by
  have hbytes : (longLine n).map Prod.fst = List.replicate n 0x78 ++ [newline] := by
    rw [longLine, List.map_append, map_fst_tagFrom]
    rfl
  have hascii : ∀ b ∈ List.replicate n (0x78 : UInt8) ++ [newline], b < 0x80 := fun b hb =>
    longData_ascii n b (by
      rw [longData, List.append_cons]
      exact List.mem_append_left _ hb)
  change (Utf8.encodeChars (Utf8.decodeReplace ((longLine n).map Prod.fst))).length = n + 1
  rw [hbytes, length_encodeChars_ascii hascii, List.length_append, List.length_replicate,
    List.length_singleton]

end DebugEvidence
