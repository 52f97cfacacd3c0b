/-
# Command responses

`command_response.c`: the frames the firmware answers commands with.  Details of errors
are checked to be UTF-8 text without control characters.
-/
import DutchMate.FrameWriter

def commandResponseFrameCapacity : ℕ := 640

def commandErrorDetailMaxBytes : ℕ := 256

/-- Payload bytes of one `uart_send`. -/
def uartSendMaxBytes : ℕ := 1024

inductive CommandErrorCode where
  | invalidCommand
  | invalidArgument
  | notConfigured
  | captureActive
  | hardwareFault
  | timeout
  deriving DecidableEq, Repr

/-- The name of a code on the wire. -/
def CommandErrorCode.codeName : CommandErrorCode → String
  | invalidCommand => "invalid_command"
  | invalidArgument => "invalid_argument"
  | notConfigured => "not_configured"
  | captureActive => "capture_active"
  | hardwareFault => "hardware_fault"
  | timeout => "timeout"

/-- A byte of the form `10xxxxxx`. -/
def isTail (b : UInt8) : Bool := !(b < 0x80) && !(0xBF < b)

/-- UTF-8 text without C0 and C1 control characters or DEL. -/
def validUtf8Detail : List UInt8 → Bool
  | [] => true
  | first :: rest =>
    if first < 0x80 then
      if first < 0x20 ∨ first = 0x7F then false else validUtf8Detail rest
    else if 0xC2 ≤ first ∧ first ≤ 0xDF then
      match rest with
      | second :: rest =>
        if !isTail second || first = 0xC2 && second ≤ 0x9F then false else validUtf8Detail rest
      | [] => false
    else if 0xE0 ≤ first ∧ first ≤ 0xEF then
      match rest with
      | second :: third :: rest =>
        if !isTail second || !isTail third || first = 0xE0 && second < 0xA0
            || first = 0xED && 0x9F < second then false
        else validUtf8Detail rest
      | _ => false
    else if 0xF0 ≤ first ∧ first ≤ 0xF4 then
      match rest with
      | second :: third :: fourth :: rest =>
        if !isTail second || !isTail third || !isTail fourth || first = 0xF0 && second < 0x90
            || first = 0xF4 && 0x8F < second then false
        else validUtf8Detail rest
      | _ => false
    else false

/-- The pieces of a string's text: quotes and backslashes are escaped. -/
def jsonStringPieces (value : List UInt8) : List (List UInt8) :=
  value.flatMap fun b => if b = 0x22 ∨ b = 0x5C then [[0x5C], [b]] else [[b]]

/-- The end of every response. -/
def responseEnd : List UInt8 := ascii "\x7d\n"

def successResponseEncode (outputCapacity : ℕ) : Except EncodeError (List UInt8) :=
  let frame := ascii "\x7b\"ok\":true\x7d\n"
  if outputCapacity < frame.length then .error .noSpace else .ok frame

def timestampResponseEncode (timestampUs : UInt64) (outputCapacity : ℕ) :
    Except EncodeError (List UInt8) :=
  FrameWriter.frame outputCapacity
    [ascii "\x7b\"ok\":true,\"timestamp_us\":", decimal timestampUs, responseEnd]

def uartSendResponseEncode (timestampUs : UInt64) (bytesAccepted : UInt64) (outputCapacity : ℕ) :
    Except EncodeError (List UInt8) :=
  if 1024 < bytesAccepted then .error .invalidArgument
  else
    FrameWriter.frame outputCapacity
      [ascii "\x7b\"ok\":true,\"timestamp_us\":", decimal timestampUs,
        ascii ",\"bytes_accepted\":", decimal bytesAccepted, responseEnd]

def errorResponseEncode (code : CommandErrorCode) (detail : List UInt8) (outputCapacity : ℕ) :
    Except EncodeError (List UInt8) :=
  if detail.length = 0 ∨ commandErrorDetailMaxBytes < detail.length ∨ !validUtf8Detail detail then
    .error .invalidArgument
  else
    FrameWriter.frame outputCapacity
      ([ascii "\x7b\"ok\":false,\"error\":\"", ascii code.codeName, ascii "\",\"detail\":\""]
        ++ jsonStringPieces detail ++ [ascii "\"", responseEnd])

/-! ## The frame capacity holds every response -/

theorem length_codeName (code : CommandErrorCode) : (ascii code.codeName).length ≤ 16 := by
  cases code <;> decide

theorem length_jsonStringPieces (value : List UInt8) :
    (jsonStringPieces value).flatten.length ≤ 2 * value.length := by
  induction value with
  | nil => exact Nat.zero_le _
  | cons b rest ih =>
    rw [jsonStringPieces, List.flatMap_cons, List.flatten_append, List.length_append,
      List.length_cons]
    have hb : (if b = 0x22 ∨ b = 0x5C then [[0x5C], [b]] else [[b]]).flatten.length ≤ 2 := by
      split <;> simp
    have hrest : (List.flatten (List.flatMap
        (fun b => if b = 0x22 ∨ b = 0x5C then [[0x5C], [b]] else [[b]]) rest)).length
          ≤ 2 * rest.length := ih
    omega

theorem timestampResponseEncode_eq (timestampUs : UInt64) :
    timestampResponseEncode timestampUs commandResponseFrameCapacity
      = .ok (ascii "\x7b\"ok\":true,\"timestamp_us\":" ++ decimal timestampUs ++ responseEnd) := by
  have hdigits := length_decimal timestampUs
  have hprefix : (ascii "\x7b\"ok\":true,\"timestamp_us\":").length = 26 := by decide
  have hend : responseEnd.length = 2 := by decide
  rw [timestampResponseEncode, FrameWriter.frame_eq, if_pos]
  · simp
  · simp only [List.flatten_cons, List.flatten_nil, List.length_append, List.length_nil, hprefix,
      hend, commandResponseFrameCapacity]
    omega

theorem uartSendResponseEncode_eq {timestampUs bytesAccepted : UInt64} (h : bytesAccepted ≤ 1024) :
    uartSendResponseEncode timestampUs bytesAccepted commandResponseFrameCapacity
      = .ok (ascii "\x7b\"ok\":true,\"timestamp_us\":" ++ decimal timestampUs
          ++ ascii ",\"bytes_accepted\":" ++ decimal bytesAccepted ++ responseEnd) := by
  have hdigits := length_decimal timestampUs
  have hbytes := length_decimal bytesAccepted
  have hprefix : (ascii "\x7b\"ok\":true,\"timestamp_us\":").length = 26 := by decide
  have hmiddle : (ascii ",\"bytes_accepted\":").length = 18 := by decide
  have hend : responseEnd.length = 2 := by decide
  rw [uartSendResponseEncode, if_neg (UInt64.not_lt.mpr h), FrameWriter.frame_eq, if_pos]
  · simp
  · simp only [List.flatten_cons, List.flatten_nil, List.length_append, List.length_nil, hprefix,
      hmiddle, hend, commandResponseFrameCapacity]
    omega

theorem errorResponseEncode_eq (code : CommandErrorCode) {detail : List UInt8}
    (hne : detail ≠ []) (hlength : detail.length ≤ commandErrorDetailMaxBytes)
    (hvalid : validUtf8Detail detail = true) :
    errorResponseEncode code detail commandResponseFrameCapacity
      = .ok (ascii "\x7b\"ok\":false,\"error\":\"" ++ ascii code.codeName
          ++ ascii "\",\"detail\":\"" ++ (jsonStringPieces detail).flatten ++ ascii "\""
          ++ responseEnd) := by
  have hcode := length_codeName code
  have hdetail := length_jsonStringPieces detail
  have hprefix : (ascii "\x7b\"ok\":false,\"error\":\"").length = 21 := by decide
  have hmiddle : (ascii "\",\"detail\":\"").length = 12 := by decide
  have hquote : (ascii "\"").length = 1 := by decide
  have hend : responseEnd.length = 2 := by decide
  have hpos := List.length_pos_iff.mpr hne
  unfold commandErrorDetailMaxBytes at hlength
  rw [errorResponseEncode, if_neg, FrameWriter.frame_eq, if_pos]
  · simp
  · simp only [List.flatten_append, List.flatten_cons, List.flatten_nil, List.length_append,
      List.length_nil, hprefix, hmiddle, hquote, hend, commandResponseFrameCapacity]
    omega
  · rw [hvalid]
    unfold commandErrorDetailMaxBytes
    simp only [Bool.not_true, Bool.false_eq_true, or_false]
    omega
