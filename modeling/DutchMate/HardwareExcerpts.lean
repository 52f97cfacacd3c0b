/-
# Hardware excerpts

`hardware_excerpts.py` reads the recorded hardware events of a session, pairs the attempts to send
over UART with their results, and selects the events that a debug agent is shown: those of failed
and unknown outcomes first, then the important ones and those at the beginning and at the end.
-/
import DutchMate.Diagnostics
import DutchMate.UartExcerpts

open PyJson
open Diagnostics (strEncode)

namespace DebugEvidence

def hardwareEventLimit : ℕ := 100
def eventStringBytes : ℕ := 512

def importantEvents : List String :=
  ["buffer_overflow", "line_limit_exceeded", "usb_disconnect", "usb_reconnect",
    "timestamp_discontinuity", "control_action"]

def eventFields : List String :=
  ["type", "segment_id", "timestamp_us", "channel", "dropped_bytes", "uart_rx_size_bytes",
    "uart_rx_used_bytes", "uart_rx_high_water_bytes", "dropped_bytes_total", "overflow_events",
    "host_timestamp", "from_segment_id", "to_segment_id", "action", "performed_at", "pulse_ms",
    "device_timestamp_us", "attempt_id", "attempted_at", "payload_bytes", "forced", "completed_at",
    "outcome", "error", "bytes_accepted", "ingestion_index", "line_index_in_event",
    "line_start_ingestion_index", "line_start_event_offset", "line_end_ingestion_index",
    "line_end_event_offset", "total_line_bytes", "terminated"]

structure HardwareEventExcerpt where
  sessionId : PyStr
  eventIndex : ℕ
  type : PyStr
  record : Payload
  truncatedFields : List PyStr

inductive OutcomeStatus where
  | failed
  | unknown
  deriving DecidableEq, Repr

structure UartTxOutcome where
  attemptId : PyStr
  status : OutcomeStatus
  attemptEventIndex : ℕ
  resultEventIndex : Option ℕ
  payloadBytes : ℕ
  bytesAccepted : Option ℕ
  partialAcceptance : Bool
  error : Option PyStr
  errorTruncated : Bool
  deriving DecidableEq, Repr

/-- `bytes.decode("utf-8", errors="ignore")`: where a sequence stops short, nothing is decoded. -/
def decodeIgnore : List UInt8 → List Char
  | [] => []
  | b0 :: rest =>
    match Utf8.continuationCount b0 with
    | some 0 => Char.ofNat b0.toNat :: decodeIgnore rest
    | none => decodeIgnore rest
    | some need =>
      match rest with
      | [] => []
      | b1 :: rest1 =>
        if !Utf8.secondInRange b0 b1 then decodeIgnore (b1 :: rest1)
        else if need = 1 then Utf8.scalar2 b0 b1 :: decodeIgnore rest1
        else
          match rest1 with
          | [] => []
          | b2 :: rest2 =>
            if !Utf8.isContinuation b2 then decodeIgnore (b2 :: rest2)
            else if need = 2 then Utf8.scalar3 b0 b1 b2 :: decodeIgnore rest2
            else
              match rest2 with
              | [] => []
              | b3 :: rest3 =>
                if !Utf8.isContinuation b3 then decodeIgnore (b3 :: rest3)
                else Utf8.scalar4 b0 b1 b2 b3 :: decodeIgnore rest3

/-- `_limited_string`. -/
def limitedString (value : PyStr) : Evidence (PyStr × Bool) :=
  match strEncode value with
  | none => .error .unencodable
  | some encoded =>
    if encoded.length ≤ eventStringBytes then .ok (value, false)
    else .ok (codePoints (decodeIgnore (encoded.take eventStringBytes)), true)

/-- The fields of a record that an excerpt keeps, and the names of those cut. -/
def projectFields : Payload → Evidence (Payload × List PyStr)
  | [] => .ok ([], [])
  | (field, value) :: fields =>
    if !isOneOf field eventFields then projectFields fields
    else
      match value with
      | .str s => do
        let (limited, wasTruncated) ← limitedString s
        let (projected, truncated) ← projectFields fields
        .ok ((field, .str limited) :: projected,
          if wasTruncated then field :: truncated else truncated)
      | .null | .bool _ | .int _ => do
        let (projected, truncated) ← projectFields fields
        .ok ((field, value) :: projected, truncated)
      | _ => projectFields fields

/-- `_hardware_excerpt`. -/
def hardwareExcerpt (sessionId : PyStr) (index : ℕ) (record : Payload) :
    Evidence HardwareEventExcerpt :=
  match getField record "type" with
  | some (.str type) => do
    let (projected, truncated) ← projectFields record
    .ok
      { sessionId
        eventIndex := index
        type
        record := projected
        truncatedFields := truncated }
  | _ => .error (.value "hardware event type is invalid")

/-- `_required_string`. -/
def requiredString (record : Payload) (field : String) : Evidence PyStr :=
  match getField record field with
  | some (.str (c :: cs)) => .ok (c :: cs)
  | _ => .error (.value ("hardware event " ++ field ++ " must be non-empty text"))

/-! ## Outcomes -/

/-- `bytes_accepted` of a result. -/
def acceptedBytes (record : Payload) (payloadBytes : ℕ) : Evidence (Option ℕ) :=
  match getField record "bytes_accepted" with
  | none | some .null => .ok none
  | value => do
    let accepted ← integer value "bytes_accepted"
    if payloadBytes < accepted then
      .error (.value "UART TX accepted bytes exceed attempted payload")
    else .ok (some accepted)

/-- Whether a result says that the attempt failed; `none` where it says neither. -/
def resultFailed (record : Payload) : Evidence Bool :=
  match getField record "outcome" with
  | some (.arr _) | some (.obj _) => .error .typeError
  | some (.str outcome) =>
    if outcome = py "success" then .ok false
    else if outcome = py "failed" then .ok true
    else .error (.value "UART TX outcome is invalid")
  | _ => .error (.value "UART TX outcome is invalid")

def failedOutcome (attemptId : PyStr) (attempt : HardwareEventExcerpt) (payloadBytes index : ℕ)
    (accepted : Option ℕ) (error : PyStr × Bool) : UartTxOutcome :=
  { attemptId
    status := .failed
    attemptEventIndex := attempt.eventIndex
    resultEventIndex := some index
    payloadBytes
    bytesAccepted := accepted
    partialAcceptance := accepted.any (· < payloadBytes)
    error := some error.1
    errorTruncated := error.2 }

def unknownOutcome (attemptId : PyStr) (attempt : HardwareEventExcerpt) (payloadBytes : ℕ) :
    UartTxOutcome :=
  { attemptId
    status := .unknown
    attemptEventIndex := attempt.eventIndex
    resultEventIndex := none
    payloadBytes
    bytesAccepted := none
    partialAcceptance := false
    error := none
    errorTruncated := false }

/-! ## The selector -/

structure HardwareSelector where
  count : ℕ := 0
  unmatchedCount : ℕ := 0
  successfulCount : ℕ := 0
  outcomes : List UartTxOutcome := []
  critical : List HardwareEventExcerpt := []
  important : List HardwareEventExcerpt := []
  start : List HardwareEventExcerpt := []
  ending : List HardwareEventExcerpt := []
  recent : List HardwareEventExcerpt := []

/-- The attempts without a result, in the order in which they were made. -/
abbrev PendingAttempts := Dict PyStr (HardwareEventExcerpt × ℕ)

/-- What every event is kept for. -/
def HardwareSelector.see (s : HardwareSelector) (excerpt : HardwareEventExcerpt) :
    HardwareSelector :=
  { s with
    count := s.count + 1
    start := if s.start.length < bootEdgeLines then s.start ++ [excerpt] else s.start
    ending := pushBounded bootEdgeLines s.ending excerpt
    recent := pushBounded hardwareEventLimit s.recent excerpt
    important :=
      if isOneOf excerpt.type importantEvents ∧ s.important.length < hardwareEventLimit then
        s.important ++ [excerpt]
      else s.important }

/-- `critical.extend`, below the limit. -/
def HardwareSelector.addCritical (s : HardwareSelector) (excerpts : List HardwareEventExcerpt) :
    HardwareSelector :=
  if s.critical.length < hardwareEventLimit then
    { s with critical := s.critical ++ excerpts }
  else s

def readAttempt (record : Payload) (excerpt : HardwareEventExcerpt) (pending : PendingAttempts) :
    Evidence PendingAttempts := do
  let attemptId ← requiredString record "attempt_id"
  if pending.contains attemptId then
    .error (.value "duplicate unresolved UART TX attempt ID")
  else
    let payloadBytes ← integer (getField record "payload_bytes") "payload_bytes"
    .ok (pending.set attemptId (excerpt, payloadBytes))

def readResult (record : Payload) (excerpt : HardwareEventExcerpt)
    (s : HardwareSelector) (pending : PendingAttempts) :
    Evidence (HardwareSelector × PendingAttempts) := do
  let attemptId ← requiredString record "attempt_id"
  match pending.get? attemptId with
  | none => .error (.value "UART TX result has no preceding attempt")
  | some (attempt, payloadBytes) =>
    let pending := pending.erase attemptId
    let failed ← resultFailed record
    let accepted ← acceptedBytes record payloadBytes
    if failed then
      match getField record "error" with
      | some (.str (c :: cs)) =>
        let error ← limitedString (c :: cs)
        let outcome :=
          failedOutcome attemptId attempt payloadBytes excerpt.eventIndex accepted error
        let s := { s with outcomes := s.outcomes ++ [outcome] }
        .ok (s.addCritical [excerpt, attempt], pending)
      | _ => .error (.value "failed UART TX result needs an error")
    else if accepted ≠ some payloadBytes then
      .error (.value "successful UART TX result lacks full acceptance")
    else .ok ({ s with successfulCount := s.successfulCount + 1 }, pending)

/-- One turn of the loop of `read`. -/
def readHardwareRecord (sessionId : PyStr) (index : ℕ) (record : Payload)
    (reading : HardwareSelector × PendingAttempts) :
    Evidence (HardwareSelector × PendingAttempts) := do
  let excerpt ← hardwareExcerpt sessionId index record
  let s := reading.1.see excerpt
  if excerpt.type = py "uart_tx_attempt" then
    let pending ← readAttempt record excerpt reading.2
    .ok (s, pending)
  else if excerpt.type = py "uart_tx_result" then readResult record excerpt s reading.2
  else .ok (s, reading.2)

def readHardwareRecords (limits : JsonLimits) (sessionId : PyStr) :
    ℕ → List (List UInt8) → HardwareSelector × PendingAttempts →
      Evidence (HardwareSelector × PendingAttempts)
  | _, [], reading => .ok reading
  | index, line :: lines, reading => do
    let record ← jsonlObject limits line
    let reading ← readHardwareRecord sessionId index record reading
    readHardwareRecords limits sessionId (index + 1) lines reading

/-- An attempt that is left without a result. -/
def leaveUnknown (s : HardwareSelector) (entry : PyStr × HardwareEventExcerpt × ℕ) :
    HardwareSelector :=
  let s := { s with outcomes := s.outcomes ++ [unknownOutcome entry.1 entry.2.1 entry.2.2] }
  s.addCritical [entry.2.1]

/-- `_HardwareSelector.read`. -/
def readHardware (limits : JsonLimits) (sessionId : PyStr) (data : List UInt8) :
    Evidence HardwareSelector := do
  let (s, pending) ← readHardwareRecords limits sessionId 0 (jsonlLines data) ({}, ∅)
  let s := pending.entries.foldl leaveUnknown s
  .ok { s with unmatchedCount := pending.length }

/-! ## Selecting -/

/-- The loop of `select`. -/
def selectEvents (selected : Dict ℕ HardwareEventExcerpt) :
    List HardwareEventExcerpt → Dict ℕ HardwareEventExcerpt
  | [] => selected
  | excerpt :: excerpts =>
    if hardwareEventLimit ≤ selected.length then selected
    else selectEvents (selected.set excerpt.eventIndex excerpt) excerpts

def HardwareSelector.offered (s : HardwareSelector) : List HardwareEventExcerpt :=
  s.critical ++ (s.important ++ (s.start ++ (s.ending ++ s.recent)))

/-- `_HardwareSelector.select`. -/
def HardwareSelector.select (s : HardwareSelector) :
    List HardwareEventExcerpt × List UartTxOutcome :=
  ((selectEvents ∅ s.offered).sortedEntries.map Prod.snd,
    s.outcomes.insertionSort (·.attemptEventIndex ≤ ·.attemptEventIndex))

end DebugEvidence
