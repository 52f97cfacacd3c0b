/-
# The evidence of a session

`evidence_package.py` assembles the bounded evidence that a debug agent is given of a session.
-/
import DutchMate.HardwareSelection
import DutchMate.RecordedUart

open PyJson
open LogReplay (UartEvent RecentLogLine)

namespace DebugEvidence

/-- The artifacts of a session that evidence is selected from. -/
structure Artifacts where
  detectedPatterns : List UInt8
  uartEvents : List UInt8
  hardwareEvents : List UInt8

structure SessionEvidence where
  facts : SessionFacts
  uartExcerpts : List UartExcerpt
  hardwareExcerpts : List HardwareEventExcerpt
  txOutcomes : List UartTxOutcome
  successfulUartTxAttempts : ℕ
  uartTextBytes : ℕ
  omittedUartLines : ℤ
  omittedHardwareEvents : ℤ
  unresolvedFirstErrorLine : Bool
  contextTruncated : Bool

/-- What `build_session_evidence` returns of the two selectors. -/
def assembled (facts : SessionFacts) (uart : UartSelector) (hardware : HardwareSelector) :
    SessionEvidence :=
  let (uartExcerpts, uartBytes) := uart.select
  let (hardwareExcerpts, outcomes) := hardware.select
  let omittedUart : ℤ := uart.count - uartExcerpts.length
  let omittedHardware : ℤ := hardware.count - hardwareExcerpts.length
  let unresolvedError := facts.firstError.isSome && !uart.firstErrorFound
  let trimmedFields := hardwareExcerpts.any (·.truncatedFields ≠ [])
  let trimmedPatterns := uartExcerpts.any (·.omittedPatternIndexes ≠ 0)
  let trimmedOutcomes := outcomes.any (·.errorTruncated)
  { facts
    uartExcerpts
    hardwareExcerpts
    txOutcomes := outcomes
    successfulUartTxAttempts := hardware.successfulCount
    uartTextBytes := uartBytes
    omittedUartLines := omittedUart
    omittedHardwareEvents := omittedHardware
    unresolvedFirstErrorLine := unresolvedError
    contextTruncated :=
      omittedUart ≠ 0 || omittedHardware ≠ 0 || unresolvedError || trimmedFields ||
        trimmedPatterns || trimmedOutcomes }

/-- `build_session_evidence` behind the reading of the snapshot. -/
def buildSessionEvidence (limits : JsonLimits) (facts : SessionFacts) (artifacts : Artifacts) :
    Evidence SessionEvidence := do
  let patterns ← patternReferences limits artifacts.detectedPatterns
  let uart ← readUart limits facts patterns artifacts.uartEvents
  let hardware ← readHardware limits facts.sessionId artifacts.hardwareEvents
  if hardware.count ≠ facts.hardwareEventCounts.sum then
    .error (.value "hardware event count changed during evidence selection")
  else if hardware.unmatchedCount ≠ facts.unresolvedUartTxAttempts then
    .error (.value "unmatched UART TX count changed during evidence selection")
  else if uart.oversizedCount ≠ facts.oversizedLineCount then
    .error (.value "oversized UART line count disagrees with session metadata")
  else .ok (assembled facts uart hardware)

/-! ## Faithfulness -/

/-- What the artifacts of a session record. -/
structure Streams (limits : JsonLimits) (facts : SessionFacts) (artifacts : Artifacts) where
  patterns : List LineReference
  uartEvents : List UartEvent
  records : List Payload
  events : List HardwareEventExcerpt
  patterns_eq : patternReferences limits artifacts.detectedPatterns = .ok patterns
  uartEvents_eq : (jsonlLines artifacts.uartEvents).mapM (decodeUart limits) = .ok uartEvents
  records_eq : (jsonlLines artifacts.hardwareEvents).mapM (jsonlObject limits) = .ok records
  excerpted : Excerpted facts.sessionId records events

variable {limits : JsonLimits} {facts : SessionFacts} {artifacts : Artifacts}
  {evidence : SessionEvidence}

def Streams.lines (streams : Streams limits facts artifacts) : List RecentLogLine :=
  streamLines streams.uartEvents

/-- Evidence that is selected faithfully from what a session recorded. -/
structure Faithful (streams : Streams limits facts artifacts) (evidence : SessionEvidence) :
    Prop where
  lines : SelectsLines facts streams.patterns streams.lines evidence.uartExcerpts
    evidence.uartTextBytes
  error : SelectsError facts streams.patterns streams.lines evidence.uartExcerpts
  events : SelectsEvents streams.records streams.events evidence.hardwareExcerpts
  outcomes : ListsOutcomes streams.records evidence.txOutcomes
  omittedLines : evidence.omittedUartLines
    = streams.lines.length - evidence.uartExcerpts.length
  omittedEvents : evidence.omittedHardwareEvents
    = streams.events.length - evidence.hardwareExcerpts.length
  unresolved : evidence.unresolvedFirstErrorLine = true
    ↔ ∃ key, facts.firstError = some key ∧ ∀ line ∈ streams.lines, reference line ≠ key

/-- The selectors of evidence that was built. -/
theorem exists_selectors (h : buildSessionEvidence limits facts artifacts = .ok evidence) :
    ∃ patterns uart hardware, patternReferences limits artifacts.detectedPatterns = .ok patterns ∧
      readUart limits facts patterns artifacts.uartEvents = .ok uart ∧
      readHardware limits facts.sessionId artifacts.hardwareEvents = .ok hardware ∧
      evidence = assembled facts uart hardware := by
  obtain ⟨patterns, hpatterns, h⟩ := Throwing.except_bind_eq_ok.mp h
  obtain ⟨uart, huart, h⟩ := Throwing.except_bind_eq_ok.mp h
  obtain ⟨hardware, hhardware, h⟩ := Throwing.except_bind_eq_ok.mp h
  split at h
  · cases h
  split at h
  · cases h
  split at h
  · cases h
  exact ⟨patterns, uart, hardware, hpatterns, huart, hhardware, (Except.ok.inj h).symm⟩

/-- Evidence is built only of artifacts that can be read. -/
theorem exists_streams (h : buildSessionEvidence limits facts artifacts = .ok evidence) :
    Nonempty (Streams limits facts artifacts) := by
  obtain ⟨patterns, uart, hardware, hpatterns, huart, hhardware, -⟩ := exists_selectors h
  obtain ⟨uartEvents, huartEvents, -⟩ := readUart_selects huart
  obtain ⟨records, events, hrecords, hlists⟩ := readHardware_lists hhardware
  exact ⟨⟨patterns, uartEvents, records, events, hpatterns, huartEvents, hrecords,
    hlists.excerpted⟩⟩

/-- What the selectors have read is what the artifacts record. -/
theorem Streams.selectors (streams : Streams limits facts artifacts)
    (h : buildSessionEvidence limits facts artifacts = .ok evidence) :
    ∃ uart hardware, evidence = assembled facts uart hardware ∧
      (streams.lines.map reference).Nodup ∧
      Observes facts streams.patterns streams.lines uart ∧
      Lists facts.sessionId streams.records streams.events hardware := by
  obtain ⟨patterns, uart, hardware, hpatterns, huart, hhardware, hevidence⟩ := exists_selectors h
  obtain rfl := Except.ok.inj (hpatterns.symm.trans streams.patterns_eq)
  obtain ⟨uartEvents, huartEvents, hnodup, hselects⟩ := readUart_selects huart
  obtain rfl := Except.ok.inj (huartEvents.symm.trans streams.uartEvents_eq)
  obtain ⟨records, events, hrecords, hlists⟩ := readHardware_lists hhardware
  obtain rfl := Except.ok.inj (hrecords.symm.trans streams.records_eq)
  obtain rfl := hlists.excerpted.unique streams.excerpted
  exact ⟨uart, hardware, hevidence, hnodup, hselects.observes hnodup, hlists⟩

/-- The evidence of a session is faithful exactly if the first-error line, where it fits the text
limit at all, fits beside those taken of the five lines before it. -/
theorem faithful_iff_errorFits (streams : Streams limits facts artifacts)
    (h : buildSessionEvidence limits facts artifacts = .ok evidence) :
    Faithful streams evidence ↔ ErrorFits facts streams.lines := by
  obtain ⟨uart, hardware, rfl, hnodup, hobserves, hlists⟩ := streams.selectors h
  rw [← hobserves.selectsError_iff hnodup]
  refine ⟨fun hfaithful => hfaithful.error, fun herror => ?_⟩
  refine ⟨hobserves.selectsLines, herror, hlists.selectsEvents, hlists.listsOutcomes, ?_, ?_, ?_⟩
  · rw [← hobserves.count]
    rfl
  · rw [hlists.excerpted.length, ← hlists.count]
    rfl
  · have hflag : (assembled facts uart hardware).unresolvedFirstErrorLine
        = (facts.firstError.isSome && !uart.firstErrorFound) := rfl
    rw [hflag, Bool.and_eq_true, Bool.not_eq_true', ← Bool.not_eq_true, hobserves.found_iff,
      Option.isSome_iff_exists]
    constructor
    · rintro ⟨⟨key, hkey⟩, hmissing⟩
      exact ⟨key, hkey, fun line hline heq => hmissing ⟨line, hline, heq ▸ hkey⟩⟩
    · rintro ⟨key, hkey, hmissing⟩
      refine ⟨⟨key, hkey⟩, fun ⟨line, hline, hfirst⟩ => hmissing line hline ?_⟩
      exact Option.some.inj (hfirst.symm.trans hkey)

/-! ## A first-error line behind a long one -/

def longLimits : JsonLimits := ⟨4300, 100, defaultMaxStrDigits_pos, by decide⟩

/-- The first error is in the second line of one segment. -/
def longFacts : SessionFacts where
  sessionId := py "s1"
  segments := [[(py "segment_id", .int 0)]]
  firstError := some (0, 0, 0, 1)
  hardwareEventCounts := []
  unresolvedUartTxAttempts := 0
  oversizedLineCount := 0

/-- One event of two lines, the first of them with some letters before its newline. -/
def longArtifacts (n : ℕ) : Artifacts where
  detectedPatterns := Utf8.encode "[]"
  uartEvents := recordedLine (longData n)
  hardwareEvents := []

theorem exists_longEvidence {n : ℕ} (h : n < maxUartLineBytes) :
    ∃ evidence, buildSessionEvidence longLimits longFacts (longArtifacts n) = .ok evidence := by
  have hpatterns : patternReferences longLimits (longArtifacts n).detectedPatterns = .ok [] := by
    change patternReferences longLimits (Utf8.encode "[]") = .ok []
    decide +kernel
  have huart : readUart longLimits longFacts [] (longArtifacts n).uartEvents = .ok
      ((newRecords [] (0, longEvent n)).foldl (observeLine longFacts []) {}) :=
    readUart_first (jsonlLines_recordedLine _)
      (decodeUart_recordedLine longLimits (longData_ascii _)) rfl List.mem_cons_self
      (ended_longEvent h)
  have hhardware : readHardware longLimits longFacts.sessionId (longArtifacts n).hardwareEvents
      = .ok {} := rfl
  have hoversized : ((newRecords [] (0, longEvent n)).foldl (observeLine longFacts [])
      {}).oversizedCount = longFacts.oversizedLineCount :=
    congrArg UartSelector.oversizedCount (foldl_observeLine_oversized {} 0 _)
  refine ⟨assembled longFacts
    ((newRecords [] (0, longEvent n)).foldl (observeLine longFacts []) {}) {}, ?_⟩
  unfold buildSessionEvidence
  rw [hpatterns]
  dsimp only [bind, Except.bind]
  rw [huart]
  dsimp only
  rw [hhardware]
  dsimp only
  rw [if_neg (by decide), if_neg (by decide), if_neg (not_not.mpr hoversized)]

theorem lines_longArtifacts {n : ℕ} (h : n < maxUartLineBytes)
    (streams : Streams longLimits longFacts (longArtifacts n)) :
    streams.lines = [logLine (0, 0) 0 false (lineOf (longLine n)),
      logLine (0, 0) 0 false (lineOf (shortLine n))] := by
  have hevents : streams.uartEvents = [longEvent n] := by
    have hread := streams.uartEvents_eq
    change (jsonlLines (recordedLine (longData n))).mapM (decodeUart longLimits) = _ at hread
    rw [jsonlLines_recordedLine, List.mapM_cons,
      decodeUart_recordedLine longLimits (longData_ascii _)] at hread
    exact (Except.ok.inj hread).symm
  rw [Streams.lines, hevents, streamLines_first rfl (ended_longEvent h), newRecords_longEvent h]

/-- A first-error line behind one that takes up all of the text limit. -/
theorem not_errorFits_pair {first second : RecentLogLine}
    (herror : facts.firstError = some (reference second)) (hfirst : lineSize first = uartTextBytes)
    (hpos : 0 < lineSize second) (hfit : lineSize second ≤ uartTextBytes) :
    ¬ErrorFits facts [first, second] := by
  intro hfits
  have hsum : Budget.fill uartTextBytes [lineSize first] + lineSize second ≤ uartTextBytes :=
    hfits 1 (by simp) herror hfit
  have hfill : Budget.fill uartTextBytes [uartTextBytes] = uartTextBytes := by decide
  rw [hfirst, hfill] at hsum
  omega

theorem faithful_iff_errorFits_long :
    ∃ (streams : Streams longLimits longFacts (longArtifacts 65535)) (evidence : SessionEvidence),
      buildSessionEvidence longLimits longFacts (longArtifacts 65535) = .ok evidence ∧
        (Faithful streams evidence ↔ ErrorFits longFacts streams.lines) := by
  obtain ⟨evidence, h⟩ := exists_longEvidence (n := 65535) (by decide)
  obtain ⟨streams⟩ := exists_streams h
  exact ⟨streams, evidence, h, faithful_iff_errorFits streams h⟩

/-- The first-error line has two bytes, and is passed over. -/
theorem not_faithful_long :
    ¬∀ (streams : Streams longLimits longFacts (longArtifacts 65535)) (evidence : SessionEvidence),
      buildSessionEvidence longLimits longFacts (longArtifacts 65535) = .ok evidence →
        Faithful streams evidence := by
  have hshort : 65535 < maxUartLineBytes := by decide
  intro hclaim
  obtain ⟨evidence, h⟩ := exists_longEvidence hshort
  obtain ⟨streams⟩ := exists_streams h
  have hfaithful := hclaim streams evidence h
  obtain ⟨uart, hardware, rfl, hnodup, hobserves, -⟩ := streams.selectors h
  have hfits := (hobserves.selectsError_iff hnodup).mp hfaithful.error
  rw [lines_longArtifacts hshort] at hfits
  exact not_errorFits_pair rfl (lineSize_longLine 65535) (by decide) (by decide) hfits

end DebugEvidence
