/-
# Parsing device messages

`parse_device_message` decodes a frame body as UTF-8 and JSON and checks the object field by
field.  Every check raises a `ProtocolError`; so do bytes that are not UTF-8 and text that is
not JSON.  The checks look fields up, index strings and print a number only where that cannot
fail.  But two exceptions of `json.loads`, for an integer with too many digits and for nesting
beyond the stack, are not translated: `parseDeviceMessage_other_iff` says that they are what
else can escape.
-/
import DutchMate.Base64
import DutchMate.PythonJson
import Mathlib.Data.List.Lex
import Mathlib.Data.List.Sort
import Mathlib.Order.Nat

open PyJson

/-- The subclasses of `ProtocolError` that the parser raises. -/
inductive MessageErrorKind where
  | invalidUtf8
  | malformedMessage
  | protocolValidation
  | protocolVersion
  | unsupportedMessageType
  deriving DecidableEq, Repr

structure MessageError where
  kind : MessageErrorKind
  detail : PyStr
  deriving DecidableEq, Repr

/-- Exceptions that are no `ProtocolError`. -/
inductive EscapedException where
  /-- an integer with more digits than the interpreter converts -/
  | valueError
  | recursionError
  | keyError (key : String)
  | indexError
  deriving DecidableEq, Repr

/-- What the parser raises. -/
inductive DeviceFault where
  | protocol (error : MessageError)
  | other (exception : EscapedException)
  deriving DecidableEq, Repr

/-- Messages from the device. -/
inductive DeviceMessage where
  | hello (firmware device : PyStr) (capabilities : List PyStr) (protocolVersion : ℤ)
  | uart (channel timestampUs : ℤ) (data : List UInt8) (text : List Char)
  | bufferOverflow (channel timestampUs droppedBytes : ℤ)
  | bufferStatus (timestampUs uartRxSizeBytes uartRxUsedBytes uartRxHighWaterBytes
      droppedBytesTotal overflowEvents : ℤ)
  | commandSuccess (timestampUs bytesAccepted : Option ℤ)
  | commandError (error detail : PyStr)
  deriving DecidableEq, Repr

def protocolVersion : ℤ := 1

def knownCapabilities : List String :=
  ["uart_receive", "gpio_control", "uart_send", "device_timestamp", "overflow_telemetry",
    "gpio_events", "power_sense", "msgpack"]

def knownErrorCodes : List String :=
  ["invalid_command", "invalid_argument", "not_configured", "capture_active", "hardware_fault",
    "timeout"]

def helloKeys : List String := ["type", "v", "firmware", "device", "capabilities"]

def uartKeys : List String := ["type", "channel", "timestamp_us", "data_b64"]

def bufferOverflowKeys : List String := ["type", "channel", "timestamp_us", "dropped_bytes"]

def bufferStatusKeys : List String :=
  ["type", "timestamp_us", "uart_rx_size_bytes", "uart_rx_used_bytes",
    "uart_rx_high_water_bytes", "dropped_bytes_total", "overflow_events"]

def commandSuccessKeys : List String := ["ok", "timestamp_us", "bytes_accepted"]

def commandErrorKeys : List String := ["ok", "error", "detail"]

def maxHelloIdentityBytes : ℕ := 64

def maxCommandErrorDetailBytes : ℕ := 256

def maxUartPayloadBytes : ℕ := 32768

/-! ## Fields -/

abbrev Payload := List (PyStr × PyJson)

/-- A Python string of a literal. -/
def py (s : String) : PyStr := codePoints s.toList

/-- Whether a string is one of some literals. -/
def isOneOf (s : PyStr) (names : List String) : Bool := names.any fun name => s = py name

def invalid {α : Type} (detail : PyStr) : Except DeviceFault α :=
  .error (.protocol ⟨.protocolValidation, detail⟩)

/-- `payload[key]`. -/
def lookup (payload : Payload) (key : String) : Except DeviceFault PyJson :=
  match getField payload key with
  | none => .error (.other (.keyError key))
  | some value => .ok value

/-- `str(n)`, with the interpreter's limit. -/
def printInt (limits : JsonLimits) (n : ℤ) : Except DeviceFault PyStr :=
  if limits.maxStrDigits < (Nat.toDigits 10 n.natAbs).length then .error (.other .valueError)
  else .ok (codePoints (Json.intChars n))

/-- Whether edge whitespace is rejected and `value[0]` or `value[-1]` is whitespace. -/
def edgeWhitespace (rejectEdgeWhitespace : Bool) (value : PyStr) : Except DeviceFault Bool :=
  if rejectEdgeWhitespace then
    match value.head?, value.getLast? with
    | some first, some last => .ok (isSpaceCode first || isSpaceCode last)
    | _, _ => .error (.other .indexError)
  else .ok false

/-- `", ".join(sorted(names))`. -/
def joinSorted (names : List PyStr) : PyStr :=
  (py ", ").intercalate (names.mergeSort fun a b => decide (a ≤ b))

/-- No field but those of the message. -/
def checkExtraKeys (label : String) (keys : List String) (payload : Payload) :
    Except DeviceFault Unit :=
  let extra := (payload.map Prod.fst).filter fun name => !isOneOf name keys
  if extra ≠ [] then invalid (py ("Unexpected " ++ label ++ " field(s): ") ++ joinSorted extra)
  else .ok ()

/-- Every field of the message. -/
def checkMissingKeys (label : String) (keys : List String) (payload : Payload) :
    Except DeviceFault Unit :=
  let missing := keys.filter fun key => (getField payload key).isNone
  if missing ≠ [] then
    invalid (py ("Missing " ++ label ++ " field(s): ") ++ joinSorted (missing.map py))
  else .ok ()

/-- An integer field of at least `least`; a bool is no integer. -/
def requiredInt (payload : Payload) (fieldName : String) (least : ℤ) (detail : String) :
    Except DeviceFault ℤ :=
  match lookup payload fieldName with
  | .error e => .error e
  | .ok (.int n) => if n < least then invalid (py detail) else .ok n
  | .ok _ => invalid (py detail)

def requiredNonNegativeInt (payload : Payload) (fieldName messageName : String) :
    Except DeviceFault ℤ :=
  requiredInt payload fieldName 0
    (messageName ++ " '" ++ fieldName ++ "' must be a non-negative integer")

def requiredPositiveInt (payload : Payload) (fieldName messageName : String) :
    Except DeviceFault ℤ :=
  requiredInt payload fieldName 1
    (messageName ++ " '" ++ fieldName ++ "' must be a positive integer")

def optionalNonNegativeInt (payload : Payload) (fieldName messageName : String) :
    Except DeviceFault (Option ℤ) :=
  if (getField payload fieldName).isNone then .ok none
  else (requiredNonNegativeInt payload fieldName messageName).map some

/-- Bytes of a string in UTF-8; a lone surrogate has none. -/
def utf8Size (s : PyStr) : Option ℕ :=
  if s.all fun c => c.isValidChar then some ((s.map fun c => (Char.ofNat c).utf8Size).sum)
  else none

def validatedProtocolText (value : PyJson) (label : String) (maxBytes : ℕ)
    (rejectEdgeWhitespace : Bool) : Except DeviceFault PyStr :=
  match value with
  | .str value =>
    match utf8Size value with
    | none => invalid (py (label ++ " must be valid Unicode"))
    | some actualBytes =>
      if ¬(1 ≤ actualBytes ∧ actualBytes ≤ maxBytes) then
        invalid (py (label ++ " must encode to 1.." ++ toString maxBytes ++ " UTF-8 bytes"))
      else do
        let edge ← edgeWhitespace rejectEdgeWhitespace value
        if edge then
          invalid (py (label ++ " must not have leading or trailing Unicode whitespace"))
        else if value.any isControlCode then
          invalid (py (label ++ " must not contain Unicode control characters"))
        else .ok value
  | _ => invalid (py (label ++ " must be a string"))

/-! ## Messages -/

def validatedHelloIdentity (value : PyJson) (field : String) : Except DeviceFault PyStr :=
  validatedProtocolText value ("Hello '" ++ field ++ "'") maxHelloIdentityBytes true

/-- The capabilities in order, each known and given once. -/
def parseCapabilities (seen : List PyStr) : List PyJson → Except DeviceFault (List PyStr)
  | [] => .ok seen
  | .str capability :: rest =>
    if !isOneOf capability knownCapabilities then
      invalid (py "Unknown hello capability: " ++ capability)
    else if capability ∈ seen then invalid (py "Duplicate hello capability: " ++ capability)
    else parseCapabilities (seen ++ [capability]) rest
  | _ :: _ => invalid (py "Hello capabilities must be strings")

def parseHello (limits : JsonLimits) (payload : Payload) : Except DeviceFault DeviceMessage := do
  checkExtraKeys "hello" helloKeys payload
  checkMissingKeys "hello" helloKeys payload
  match ← lookup payload "v" with
  | .int version =>
    if version ≠ protocolVersion then
      let text ← printInt limits version
      .error (.protocol ⟨.protocolVersion, py "Unsupported protocol version: " ++ text⟩)
    else
      let firmware ← validatedHelloIdentity (← lookup payload "firmware") "firmware"
      let device ← validatedHelloIdentity (← lookup payload "device") "device"
      match ← lookup payload "capabilities" with
      | .arr values =>
        let capabilities ← parseCapabilities [] values
        .ok (.hello firmware device capabilities version)
      | _ => invalid (py "Hello 'capabilities' must be an array")
  | _ => invalid (py "Hello protocol version 'v' must be an integer")

/-- `base64.b64decode(text, validate=True)`. -/
def b64decode (text : PyStr) : Option (List UInt8) :=
  if text.all (· < 0x80) then Base64.decode (text.map Char.ofNat) else none

def parseUart (payload : Payload) : Except DeviceFault DeviceMessage := do
  checkExtraKeys "uart" uartKeys payload
  checkMissingKeys "uart" uartKeys payload
  let channel ← requiredInt payload "channel" 0 "UART 'channel' must be a non-negative integer"
  let timestampUs ← requiredInt payload "timestamp_us" 0
    "UART 'timestamp_us' must be a non-negative integer"
  match ← lookup payload "data_b64" with
  | .str dataB64 =>
    match b64decode dataB64 with
    | none => invalid (py "UART 'data_b64' is not valid base64")
    | some data =>
      if ¬(1 ≤ data.length ∧ data.length ≤ maxUartPayloadBytes) then
        invalid (py ("UART 'data_b64' must decode to 1.." ++ toString maxUartPayloadBytes ++
          " bytes"))
      else .ok (.uart channel timestampUs data (Utf8.decodeReplace data))
  | _ => invalid (py "UART 'data_b64' must be a base64 string")

def parseBufferOverflow (payload : Payload) : Except DeviceFault DeviceMessage := do
  checkExtraKeys "buffer_overflow" bufferOverflowKeys payload
  checkMissingKeys "buffer_overflow" bufferOverflowKeys payload
  let channel ← requiredInt payload "channel" 0
    "Buffer overflow 'channel' must be a non-negative integer"
  let timestampUs ← requiredInt payload "timestamp_us" 0
    "Buffer overflow 'timestamp_us' must be a non-negative integer"
  let droppedBytes ← requiredInt payload "dropped_bytes" 1
    "Buffer overflow 'dropped_bytes' must be a positive integer"
  .ok (.bufferOverflow channel timestampUs droppedBytes)

def parseBufferStatus (payload : Payload) : Except DeviceFault DeviceMessage := do
  checkExtraKeys "buffer_status" bufferStatusKeys payload
  checkMissingKeys "buffer_status" bufferStatusKeys payload
  let timestampUs ← requiredNonNegativeInt payload "timestamp_us" "Buffer status"
  let size ← requiredPositiveInt payload "uart_rx_size_bytes" "Buffer status"
  let used ← requiredNonNegativeInt payload "uart_rx_used_bytes" "Buffer status"
  let highWater ← requiredNonNegativeInt payload "uart_rx_high_water_bytes" "Buffer status"
  let dropped ← requiredNonNegativeInt payload "dropped_bytes_total" "Buffer status"
  let overflows ← requiredNonNegativeInt payload "overflow_events" "Buffer status"
  if size < used then
    invalid (py "Buffer status 'uart_rx_used_bytes' cannot exceed 'uart_rx_size_bytes'")
  else if size < highWater then
    invalid (py "Buffer status 'uart_rx_high_water_bytes' cannot exceed 'uart_rx_size_bytes'")
  else .ok (.bufferStatus timestampUs size used highWater dropped overflows)

def parseCommandSuccess (payload : Payload) : Except DeviceFault DeviceMessage := do
  checkExtraKeys "command success" commandSuccessKeys payload
  let timestampUs ← optionalNonNegativeInt payload "timestamp_us" "Command success"
  let bytesAccepted ← optionalNonNegativeInt payload "bytes_accepted" "Command success"
  if bytesAccepted.any (1024 < ·) then
    invalid (py "Command success 'bytes_accepted' must not exceed 1024")
  else .ok (.commandSuccess timestampUs bytesAccepted)

def parseCommandError (payload : Payload) : Except DeviceFault DeviceMessage := do
  checkExtraKeys "command error" commandErrorKeys payload
  checkMissingKeys "command error" commandErrorKeys payload
  match ← lookup payload "error" with
  | .str error =>
    if !isOneOf error knownErrorCodes then
      invalid (py "Command error 'error' must be a known error code")
    else
      let detail ← validatedProtocolText (← lookup payload "detail") "Command error 'detail'"
        maxCommandErrorDetailBytes false
      .ok (.commandError error detail)
  | _ => invalid (py "Command error 'error' must be a known error code")

def parseCommandResponse (payload : Payload) : Except DeviceFault DeviceMessage :=
  match lookup payload "ok" with
  | .error e => .error e
  | .ok (.bool true) => parseCommandSuccess payload
  | .ok (.bool false) => parseCommandError payload
  | .ok _ => invalid (py "Command response 'ok' must be a boolean")

/-- The message of a decoded object. -/
def parsePayload (limits : JsonLimits) (payload : Payload) : Except DeviceFault DeviceMessage :=
  if (getField payload "ok").isSome then parseCommandResponse payload
  else
    match getField payload "type" with
    | some (.str messageType) =>
      if messageType = py "hello" then parseHello limits payload
      else if messageType = py "uart" then parseUart payload
      else if messageType = py "buffer_overflow" then parseBufferOverflow payload
      else if messageType = py "buffer_status" then parseBufferStatus payload
      else
        .error (.protocol
          ⟨.unsupportedMessageType, py "Unsupported device message type: " ++ messageType⟩)
    | _ => invalid (py "Device message must include a string 'type' field")

/-! ## Frames -/

/-- The exception of `json.loads` that the parser does not catch. -/
def escapedFault : JsonFault → Option EscapedException
  | .malformed => none
  | .digitLimit => some .valueError
  | .recursion => some .recursionError

def loadJsonObject (limits : JsonLimits) (line : List UInt8) : Except DeviceFault Payload :=
  match Utf8.decode line with
  | none => .error (.protocol ⟨.invalidUtf8, py "Protocol line is not valid UTF-8"⟩)
  | some text =>
    match loads limits (codePoints text) with
    | .error fault =>
      match escapedFault fault with
      | none => .error (.protocol ⟨.malformedMessage, py "Protocol line is not valid JSON"⟩)
      | some exception => .error (.other exception)
    | .ok (.obj payload) => .ok payload
    | .ok _ =>
      .error (.protocol ⟨.protocolValidation, py "Protocol line must decode to a JSON object"⟩)

/-- Parse one frame body. -/
def parseDeviceMessage (limits : JsonLimits) (line : List UInt8) :
    Except DeviceFault DeviceMessage :=
  match loadJsonObject limits line with
  | .error fault => .error fault
  | .ok payload => parsePayload limits payload

/-! ## What the checks can raise -/

/-- Nothing but a `ProtocolError` is raised. -/
def NoEscape {α : Type} (r : Except DeviceFault α) : Prop := ∀ e, r ≠ .error (.other e)

namespace NoEscape

variable {α β : Type} {payload : Payload}

theorem ok (a : α) : NoEscape (.ok a) := nofun

theorem protocol (e : MessageError) : NoEscape (.error (.protocol e) : Except DeviceFault α) := nofun

/-- An error that is passed on is no other exception. -/
theorem of_error {x : Except DeviceFault α} (hx : NoEscape x) {e : DeviceFault} (h : x = .error e) :
    NoEscape (.error e : Except DeviceFault β) :=
  fun e' heq => hx e' (h.trans (congrArg Except.error (Except.error.inj heq)))

theorem bind {x : Except DeviceFault α} {f : α → Except DeviceFault β} (hx : NoEscape x)
    (hf : ∀ a, x = .ok a → NoEscape (f a)) : NoEscape (x >>= f) := by
  cases x with
  | error e => exact hx.of_error rfl
  | ok a => exact hf a rfl

end NoEscape

section
variable {payload : Payload} {key label : String} {keys : List String}

theorem noEscape_lookup (h : (getField payload key).isSome) : NoEscape (lookup payload key) := by
  unfold lookup
  split
  · next hnone => rw [hnone] at h; cases h
  · exact .ok _

theorem noEscape_checkExtraKeys : NoEscape (checkExtraKeys label keys payload) := by
  unfold checkExtraKeys
  dsimp only
  split
  · exact .protocol _
  · exact .ok _

theorem noEscape_checkMissingKeys : NoEscape (checkMissingKeys label keys payload) := by
  unfold checkMissingKeys
  dsimp only
  split
  · exact .protocol _
  · exact .ok _

/-- Behind the check for missing fields every field is there. -/
theorem isSome_of_checkMissingKeys {u : Unit} (h : checkMissingKeys label keys payload = .ok u) :
    ∀ key ∈ keys, (getField payload key).isSome := by
  unfold checkMissingKeys at h
  dsimp only at h
  split at h
  · cases h
  · next hnone =>
    intro key hkey
    by_contra hmissing
    refine hnone (List.ne_nil_of_mem (List.mem_filter.mpr ⟨hkey, ?_⟩))
    simpa using hmissing

theorem noEscape_requiredInt {least : ℤ} {detail : String} (h : (getField payload key).isSome) :
    NoEscape (requiredInt payload key least detail) := by
  unfold requiredInt
  split
  · next he => exact (noEscape_lookup h).of_error he
  · split
    · exact .protocol _
    · exact .ok _
  · exact .protocol _

theorem noEscape_optionalNonNegativeInt {message : String} :
    NoEscape (optionalNonNegativeInt payload key message) := by
  unfold optionalNonNegativeInt
  split
  · exact .ok _
  · next hsome =>
    have hthere : (getField payload key).isSome :=
      Option.isSome_iff_ne_none.mpr (by simpa using hsome)
    have hint : NoEscape (requiredNonNegativeInt payload key message) := noEscape_requiredInt hthere
    cases hresult : requiredNonNegativeInt payload key message with
    | error e => exact hint.of_error hresult
    | ok n => exact .ok _

/-- A text of at least one byte has a first and a last character. -/
theorem noEscape_validatedProtocolText {value : PyJson} {maxBytes : ℕ} {reject : Bool} :
    NoEscape (validatedProtocolText value label maxBytes reject) := by
  unfold validatedProtocolText
  split
  · next text =>
    split
    · exact .protocol _
    · next actualBytes hsize =>
      split
      · exact .protocol _
      · next hbytes =>
        have hne : text ≠ [] := by
          rintro rfl
          cases hsize
          exact hbytes (by simp at hbytes)
        refine NoEscape.bind ?_ fun edge _ => ?_
        · unfold edgeWhitespace
          rw [List.head?_eq_some_head hne, List.getLast?_eq_some_getLast hne]
          split
          · exact .ok _
          · exact .ok _
        · split
          · exact .protocol _
          split
          · exact .protocol _
          · exact .ok _
  · exact .protocol _

theorem noEscape_parseCapabilities (seen : List PyStr) (values : List PyJson) :
    NoEscape (parseCapabilities seen values) := by
  fun_induction parseCapabilities seen values with
  | case4 _ _ _ _ _ ih => exact ih
  | _ => nofun

/-- The version is printed only if it is an integer that `json.loads` gave. -/
theorem noEscape_parseHello {limits : JsonLimits}
    (hprint : ∀ n, getField payload "v" = some (.int n) → Printable limits.maxStrDigits n) :
    NoEscape (parseHello limits payload) := by
  refine noEscape_checkExtraKeys.bind fun _ _ => noEscape_checkMissingKeys.bind fun _ hkeys => ?_
  have hthere := isSome_of_checkMissingKeys hkeys
  refine (noEscape_lookup (hthere "v" (by decide))).bind fun version hversion => ?_
  split
  · next n =>
    have hn : getField payload "v" = some (.int n) := by
      unfold lookup at hversion
      split at hversion <;> cases hversion
      assumption
    split
    · have hshort : NoEscape (printInt limits n) := by
        unfold printInt
        rw [if_neg (Nat.not_lt.mpr (hprint n hn))]
        exact .ok _
      exact hshort.bind fun _ _ => .protocol _
    · refine (noEscape_lookup (hthere "firmware" (by decide))).bind fun _ _ => ?_
      refine noEscape_validatedProtocolText.bind fun _ _ => ?_
      refine (noEscape_lookup (hthere "device" (by decide))).bind fun _ _ => ?_
      refine noEscape_validatedProtocolText.bind fun _ _ => ?_
      refine (noEscape_lookup (hthere "capabilities" (by decide))).bind fun _ _ => ?_
      split
      · exact (noEscape_parseCapabilities _ _).bind fun _ _ => .ok _
      · exact .protocol _
  · exact .protocol _

theorem noEscape_parseUart : NoEscape (parseUart payload) := by
  refine noEscape_checkExtraKeys.bind fun _ _ => noEscape_checkMissingKeys.bind fun _ hkeys => ?_
  have hthere := isSome_of_checkMissingKeys hkeys
  refine (noEscape_requiredInt (hthere "channel" (by decide))).bind fun _ _ => ?_
  refine (noEscape_requiredInt (hthere "timestamp_us" (by decide))).bind fun _ _ => ?_
  refine (noEscape_lookup (hthere "data_b64" (by decide))).bind fun _ _ => ?_
  split
  · split
    · exact .protocol _
    · split
      · exact .protocol _
      · exact .ok _
  · exact .protocol _

theorem noEscape_parseBufferOverflow : NoEscape (parseBufferOverflow payload) := by
  refine noEscape_checkExtraKeys.bind fun _ _ => noEscape_checkMissingKeys.bind fun _ hkeys => ?_
  have hthere := isSome_of_checkMissingKeys hkeys
  refine (noEscape_requiredInt (hthere "channel" (by decide))).bind fun _ _ => ?_
  refine (noEscape_requiredInt (hthere "timestamp_us" (by decide))).bind fun _ _ => ?_
  exact (noEscape_requiredInt (hthere "dropped_bytes" (by decide))).bind fun _ _ => .ok _

theorem noEscape_parseBufferStatus : NoEscape (parseBufferStatus payload) := by
  refine noEscape_checkExtraKeys.bind fun _ _ => noEscape_checkMissingKeys.bind fun _ hkeys => ?_
  have hthere := isSome_of_checkMissingKeys hkeys
  have hint : ∀ key ∈ bufferStatusKeys, ∀ least detail,
      NoEscape (requiredInt payload key least detail) := fun key hkey _ _ =>
    noEscape_requiredInt (hthere key hkey)
  refine (hint "timestamp_us" (by decide) _ _).bind fun _ _ => ?_
  refine (hint "uart_rx_size_bytes" (by decide) _ _).bind fun _ _ => ?_
  refine (hint "uart_rx_used_bytes" (by decide) _ _).bind fun _ _ => ?_
  refine (hint "uart_rx_high_water_bytes" (by decide) _ _).bind fun _ _ => ?_
  refine (hint "dropped_bytes_total" (by decide) _ _).bind fun _ _ => ?_
  refine (hint "overflow_events" (by decide) _ _).bind fun _ _ => ?_
  split
  · exact .protocol _
  split
  · exact .protocol _
  · exact .ok _

theorem noEscape_parseCommandSuccess : NoEscape (parseCommandSuccess payload) := by
  refine noEscape_checkExtraKeys.bind fun _ _ => ?_
  refine noEscape_optionalNonNegativeInt.bind fun _ _ => ?_
  refine noEscape_optionalNonNegativeInt.bind fun _ _ => ?_
  split
  · exact .protocol _
  · exact .ok _

theorem noEscape_parseCommandError : NoEscape (parseCommandError payload) := by
  refine noEscape_checkExtraKeys.bind fun _ _ => noEscape_checkMissingKeys.bind fun _ hkeys => ?_
  have hthere := isSome_of_checkMissingKeys hkeys
  refine (noEscape_lookup (hthere "error" (by decide))).bind fun _ _ => ?_
  split
  · split
    · exact .protocol _
    · refine (noEscape_lookup (hthere "detail" (by decide))).bind fun _ _ => ?_
      exact noEscape_validatedProtocolText.bind fun _ _ => .ok _
  · exact .protocol _

/-- The checks of a decoded object raise nothing but a `ProtocolError`. -/
theorem noEscape_parsePayload {limits : JsonLimits}
    (hprint : ∀ n, getField payload "v" = some (.int n) → Printable limits.maxStrDigits n) :
    NoEscape (parsePayload limits payload) := by
  unfold parsePayload
  split
  · next hok =>
    unfold parseCommandResponse
    split
    · next he => exact (noEscape_lookup hok).of_error he
    · exact noEscape_parseCommandSuccess
    · exact noEscape_parseCommandError
    · exact .protocol _
  split
  · split
    · exact noEscape_parseHello hprint
    split
    · exact noEscape_parseUart
    split
    · exact noEscape_parseBufferOverflow
    split
    · exact noEscape_parseBufferStatus
    · exact .protocol _
  · exact .protocol _

end

/-- A body whose text `json.loads` gives up on: at an integer with too many digits, or at a
bracket nested beyond the stack. -/
def Overruns (limits : JsonLimits) (line : List UInt8) (exception : EscapedException) : Prop :=
  ∃ text fault, Utf8.decode line = some text ∧ loads limits (codePoints text) = .error fault ∧
    escapedFault fault = some exception

theorem getField_mem {fields : Payload} {key : String} {value : PyJson}
    (h : getField fields key = some value) : ∃ field ∈ fields, field.2 = value := by
  obtain ⟨field, hmem, hfield⟩ := List.exists_of_findSome?_eq_some h
  split at hfield
  · exact ⟨field, hmem, Option.some.inj hfield⟩
  · cases hfield

/-- What escapes from the parser is what `json.loads` raises and the parser does not catch. -/
theorem parseDeviceMessage_other_iff {limits : JsonLimits} {line : List UInt8}
    {exception : EscapedException} :
    parseDeviceMessage limits line = .error (.other exception) ↔
      Overruns limits line exception := by
  unfold parseDeviceMessage loadJsonObject Overruns
  cases Utf8.decode line with
  | none => simp
  | some text =>
    simp only [Option.some.injEq, exists_and_left, exists_eq_left']
    cases hloads : loads limits (codePoints text) with
    | error fault => cases fault <;> simp [escapedFault]
    | ok value =>
      cases value with
      | obj payload =>
        dsimp only
        have hprint : ∀ n, getField payload "v" = some (.int n) → Printable limits.maxStrDigits n := by
          intro n hn
          obtain ⟨field, hmem, hvalue⟩ := getField_mem hn
          exact loads_obj_int hloads field hmem n hvalue
        exact ⟨fun h => absurd h (noEscape_parsePayload hprint exception), by simp⟩
      | _ => simp
