/-
# Decoding commands in place

`command_decode.c` with its cursor and its fixed buffers: the frame is read by index, strings are
written into buffers of their field's size, and every access is checked.  The loops are given
`fuel`.
-/
import DutchMate.Checked
import DutchMate.CommandDecode

open Checked

/-! ## Strings and numbers -/

section

variable (fuel : ℕ) (frame : List UInt8)

def skipWhitespaceAt : ℕ → ℕ → Checked ℕ
  | 0, _ => .error .outOfFuel
  | fuel + 1, index =>
    if index < frame.length then do
      let byte ← read frame index
      if byte = 0x20 ∨ byte = 0x09 then skipWhitespaceAt fuel (index + 1) else return index
    else return index

def appendStringByteTo {outputCapacity : ℕ} (output : Buffer outputCapacity) (outputLength : ℕ)
    (byte : UInt8) : Checked (Except StringParseFailure (Buffer outputCapacity × ℕ)) :=
  if byte = 0 ∨ outputCapacity ≤ outputLength + 1 then return .error .limit
  else do
    let output ← output.store outputLength byte
    return .ok (output, outputLength + 1)

/-- The loop over the four digits of an escape, with this many digits left. -/
def unicodeDigitsAt : ℕ → ℕ → ℕ → Checked (Option (ℕ × ℕ))
  | 0, index, codepoint => return some (codepoint, index)
  | count + 1, index, codepoint => do
    let byte ← read frame index
    match hexValue byte with
    | none => return none
    | some digit => unicodeDigitsAt count (index + 1) (codepoint <<< 4 ||| digit)

/-- An escape with the index behind it. -/
def parseUnicodeEscapeAt {outputCapacity : ℕ} (index : ℕ) (output : Buffer outputCapacity)
    (outputLength : ℕ) : Checked (Except StringParseFailure (ℕ × Buffer outputCapacity × ℕ)) := do
  let left ← sub frame.length index
  if left < 4 then return .error .malformed
  else
    match ← unicodeDigitsAt frame 4 index 0 with
    | none => return .error .malformed
    | some (codepoint, index) =>
      if 0x7F < codepoint then return .error .limit
      else
        match ← appendStringByteTo output outputLength codepoint.toUInt8 with
        | .error e => return .error e
        | .ok (output, outputLength) => return .ok (index, output, outputLength)

/-- The loop of `parse_json_string`; the output is terminated at its end. -/
def stringBodyAt {outputCapacity : ℕ} : ℕ → ℕ → Buffer outputCapacity → ℕ →
    Checked (Except StringParseFailure (ℕ × Buffer outputCapacity))
  | 0, _, _, _ => .error .outOfFuel
  | fuel + 1, index, output, outputLength =>
    if index < frame.length then do
      let byte ← read frame index
      if byte = 0x22 then do
        let output ← output.store outputLength 0
        return .ok (index + 1, output)
      else if byte < 0x20 ∨ 0x80 ≤ byte then return .error .malformed
      else if byte ≠ 0x5C then do
        match ← appendStringByteTo output outputLength byte with
        | .error e => return .error e
        | .ok (output, outputLength) => stringBodyAt fuel (index + 1) output outputLength
      else if frame.length ≤ index + 1 then return .error .malformed
      else do
        let escape ← read frame (index + 1)
        if escape = 0x75 then do
          match ← parseUnicodeEscapeAt frame (index + 2) output outputLength with
          | .error e => return .error e
          | .ok (index, output, outputLength) => stringBodyAt fuel index output outputLength
        else
          match escapedByte escape with
          | none => return .error .malformed
          | some byte => do
            match ← appendStringByteTo output outputLength byte with
            | .error e => return .error e
            | .ok (output, outputLength) => stringBodyAt fuel (index + 2) output outputLength
    else return .error .malformed

def parseJsonStringAt {outputCapacity : ℕ} (index : ℕ) (output : Buffer outputCapacity) :
    Checked (Except StringParseFailure (ℕ × Buffer outputCapacity)) :=
  if frame.length ≤ index then return .error .malformed
  else do
    let byte ← read frame index
    if byte ≠ 0x22 then return .error .malformed
    else stringBodyAt frame fuel (index + 1) output 0

/-- The loop of `parse_pulse_ms`. -/
def pulseDigitsAt : ℕ → ℕ → ℕ → Checked (Option (ℕ × ℕ))
  | 0, _, _ => .error .outOfFuel
  | fuel + 1, index, parsed =>
    if index < frame.length then do
      let byte ← read frame index
      if isDigit byte then
        let digit := byte.toNat - 0x30
        if (4294967295 - digit) / 10 < parsed then return none
        else pulseDigitsAt fuel (index + 1) (parsed * 10 + digit)
      else return some (parsed, index)
    else return some (parsed, index)

/-- Whether another digit follows. -/
def digitFollows (index : ℕ) : Checked Bool :=
  if index < frame.length then do
    let byte ← read frame index
    return isDigit byte
  else return false

def parsePulseMsAt (start : ℕ) : Checked (Option (UInt32 × ℕ)) :=
  if frame.length ≤ start then return none
  else do
    let first ← read frame start
    if !isDigit first then return none
    else if first = 0x30 ∧ (← digitFollows frame (start + 1)) = true then return none
    else
      match ← pulseDigitsAt frame fuel start 0 with
      | none => return none
      | some (parsed, index) => return some (parsed.toUInt32, index)

end

/-! ## Objects -/

/-- The fields' strings in their buffers. -/
structure FieldBuffers where
  present : UInt32 := 0
  cmd : Buffer (commandNameMaxBytes + 1) := .zero _
  channel : Buffer 6 := .zero _
  mode : Buffer 11 := .zero _
  activeLevel : Buffer 5 := .zero _
  idleLevel : Buffer 5 := .zero _
  state : Buffer 7 := .zero _
  dataB64 : Buffer (base64MaxBytes + 1) := .zero _
  pulseMs : UInt32 := 0

section

variable (fuel : ℕ) (frame : List UInt8)

/-- A string parsed into a buffer that is put back among the fields. -/
def parseStringInto {outputCapacity : ℕ} (index : ℕ) (output : Buffer outputCapacity)
    (putBack : Buffer outputCapacity → FieldBuffers) :
    Checked (Except StringParseFailure (ℕ × FieldBuffers)) := do
  match ← parseJsonStringAt fuel frame index output with
  | .error e => return .error e
  | .ok (index, output) => return .ok (index, putBack output)

def parseFieldStringAt (index : ℕ) (fields : FieldBuffers) :
    FieldId → Checked (Except StringParseFailure (ℕ × FieldBuffers))
  | .cmd => parseStringInto fuel frame index fields.cmd fun text => { fields with cmd := text }
  | .channel => parseStringInto fuel frame index fields.channel fun text => { fields with channel := text }
  | .mode => parseStringInto fuel frame index fields.mode fun text => { fields with mode := text }
  | .activeLevel => parseStringInto fuel frame index fields.activeLevel fun text => { fields with activeLevel := text }
  | .idleLevel => parseStringInto fuel frame index fields.idleLevel fun text => { fields with idleLevel := text }
  | .pulseMs => return .error .malformed
  | .state => parseStringInto fuel frame index fields.state fun text => { fields with state := text }
  | .dataB64 => parseStringInto fuel frame index fields.dataB64 fun text => { fields with dataB64 := text }

/-- The value of a member, after its colon and the blanks behind it. -/
def fieldValueAt (index : ℕ) (fields : FieldBuffers) (field : FieldId) :
    Checked (Except CommandDecodeFailure (ℕ × FieldBuffers)) :=
  if field = .pulseMs then do
    match ← parsePulseMsAt fuel frame index with
    | none => return .error .invalidArgument
    | some (value, index) => return .ok (index, { fields with pulseMs := value })
  else if frame.length ≤ index then
    return .error (if field = .cmd then .invalidCommand else .invalidArgument)
  else do
    let byte ← read frame index
    if byte ≠ 0x22 then return .error (if field = .cmd then .invalidCommand else .invalidArgument)
    else
      match ← parseFieldStringAt fuel frame index fields field with
      | .error e => return .error e.toDecodeFailure
      | .ok parsed => return .ok parsed

/-- The body of the loop from a member's key to the blanks behind its value. -/
def memberAt (index : ℕ) (fields : FieldBuffers) :
    Checked (Except CommandDecodeFailure (ℕ × FieldBuffers)) := do
  match ← parseJsonStringAt fuel frame index (Buffer.zero keyCapacity) with
  | .error e => return .error e.toDecodeFailure
  | .ok (index, key) =>
    let name ← key.text
    match FieldId.fromName name with
    | none => return .error .invalidArgument
    | some field =>
      if fields.present &&& field.bit ≠ 0 then return .error .invalidArgument
      else
        let index ← skipWhitespaceAt frame fuel index
        if frame.length ≤ index then return .error .invalidCommand
        else
          let byte ← read frame index
          if byte ≠ 0x3A then return .error .invalidCommand
          else
            let index ← skipWhitespaceAt frame fuel (index + 1)
            match ← fieldValueAt fuel frame index fields field with
            | .error e => return .error e
            | .ok (index, fields) =>
              let index ← skipWhitespaceAt frame fuel index
              return .ok (index, { fields with present := fields.present ||| field.bit })

/-- The loop of `parse_object`. -/
def membersAt : ℕ → ℕ → FieldBuffers → Checked (Except CommandDecodeFailure (ℕ × FieldBuffers))
  | 0, _, _ => .error .outOfFuel
  | steps + 1, index, fields => do
    let index ← skipWhitespaceAt frame fuel index
    if frame.length ≤ index then return .error .invalidCommand
    else
      let byte ← read frame index
      if byte = 0x7D then return .ok (index + 1, fields)
      else
        match ← memberAt fuel frame index fields with
        | .error e => return .error e
        | .ok (index, fields) =>
          if frame.length ≤ index then return .error .invalidCommand
          else
            let byte ← read frame index
            if byte = 0x7D then return .ok (index + 1, fields)
            else if byte ≠ 0x2C then return .error .invalidCommand
            else
              let index ← skipWhitespaceAt frame fuel (index + 1)
              if frame.length ≤ index then return .error .invalidCommand
              else
                let byte ← read frame index
                if byte = 0x7D then return .error .invalidCommand
                else membersAt steps index fields

/-- Whether the frame has room for its braces and has them. -/
def braced : Checked Bool :=
  if frame.length < 2 then return false
  else do
    let first ← read frame 0
    if first ≠ 0x7B then return false
    else
      let final ← sub frame.length 1
      return (← read frame final) = 0x7D

def parseObjectAt : Checked (Except CommandDecodeFailure FieldBuffers) := do
  if !(← braced frame) then return .error .invalidCommand
  else
    match ← membersAt fuel frame fuel 1 {} with
    | .error e => return .error e
    | .ok (index, fields) =>
      if index ≠ frame.length then return .error .invalidCommand else return .ok fields

end

/-! ## Fields to commands -/

inductive CommandKind where
  | none
  | configureGpioMode
  | pulseControl
  | setControlState
  | uartSend
  deriving DecidableEq, Repr

structure ConfigureOutput where
  mode : ControlMode := .openDrain
  activeLevel : ControlLevel := .low
  idleLevel : ControlLevel := .low
  hasIdleLevel : Bool := false
  deriving DecidableEq, Repr

structure UartSendOutput where
  data : Buffer uartSendMaxBytes := .zero _
  length : ℕ := 0
  deriving DecidableEq, Repr

/-- The command that is written to.  The members of its union are kept apart; a decoder writes to
one of them. -/
structure CommandOutput where
  kind : CommandKind := .none
  channel : ℕ := 0
  configure : ConfigureOutput := {}
  pulseMs : UInt32 := 0
  controlState : ControlTarget := .active
  uartSend : UartSendOutput := {}
  deriving DecidableEq, Repr

namespace CommandOutput

def zeroed : CommandOutput := {}

/-- The `memset` of the whole command. -/
def clear (_output : CommandOutput) : CommandOutput := zeroed

/-- The command as its kind reads it. -/
def command (output : CommandOutput) : Command :=
  match output.kind with
  | .none => .none
  | .configureGpioMode =>
    .configureGpioMode output.channel output.configure.mode output.configure.activeLevel
      output.configure.hasIdleLevel output.configure.idleLevel
  | .pulseControl => .pulseControl output.channel output.pulseMs
  | .setControlState => .setControlState output.channel output.controlState
  | .uartSend => .uartSend (output.uartSend.data.bytes.take output.uartSend.length)

end CommandOutput

/-! A decoder answers whether it succeeded, with what it wrote to. -/

def decodeChannelTo (value : Buffer 6) (channel : ℕ) : Checked (Bool × ℕ) := do
  let text ← value.text
  if text.length ≠ 5 then return (false, channel)
  else
    let head ← (List.range 4).mapM value.load
    let digit ← value.load 4
    if head ≠ ascii "CTRL" ∨ digit < 0x30 ∨ 0x33 < digit then return (false, channel)
    else return (true, digit.toNat - 0x30)

def decodeLevelTo (value : Buffer 5) (level : ControlLevel) : Checked (Bool × ControlLevel) := do
  let text ← value.text
  if text = ascii "low" then return (true, .low)
  else if text = ascii "high" then return (true, .high)
  else return (false, level)

/-- The loop of `decode_base64`, from the group at `inputIndex`, with the output's bytes and their
number. -/
def base64GroupsTo (encoded : Buffer (base64MaxBytes + 1)) (encodedLength : ℕ) :
    ℕ → ℕ → Buffer uartSendMaxBytes → ℕ → Checked (Bool × Buffer uartSendMaxBytes × ℕ)
  | 0, _, _, _ => .error .outOfFuel
  | fuel + 1, inputIndex, data, outputIndex =>
    if inputIndex < encodedLength then do
      let first ← encoded.load inputIndex
      let second ← encoded.load (inputIndex + 1)
      match base64Value first, base64Value second with
      | some a, some b =>
        if uartSendMaxBytes ≤ outputIndex then return (false, data, outputIndex)
        else
          let data ← data.store outputIndex (a * 4 + b / 16).toUInt8
          let third ← encoded.load (inputIndex + 2)
          if third = 0x3D then
            if inputIndex + 4 ≠ encodedLength then return (false, data, outputIndex + 1)
            else
              let fourth ← encoded.load (inputIndex + 3)
              if fourth ≠ 0x3D then return (false, data, outputIndex + 1)
              else base64GroupsTo encoded encodedLength fuel (inputIndex + 4) data (outputIndex + 1)
          else
            match base64Value third with
            | none => return (false, data, outputIndex + 1)
            | some c =>
              if uartSendMaxBytes ≤ outputIndex + 1 then return (false, data, outputIndex + 1)
              else
                let data ← data.store (outputIndex + 1) (b * 16 + c / 4).toUInt8
                let fourth ← encoded.load (inputIndex + 3)
                if fourth = 0x3D then
                  if inputIndex + 4 ≠ encodedLength then return (false, data, outputIndex + 2)
                  else
                    base64GroupsTo encoded encodedLength fuel (inputIndex + 4) data (outputIndex + 2)
                else
                  match base64Value fourth with
                  | none => return (false, data, outputIndex + 2)
                  | some d =>
                    if uartSendMaxBytes ≤ outputIndex + 2 then return (false, data, outputIndex + 2)
                    else
                      let data ← data.store (outputIndex + 2) (c * 64 + d).toUInt8
                      base64GroupsTo encoded encodedLength fuel (inputIndex + 4) data (outputIndex + 3)
      | _, _ => return (false, data, outputIndex)
    else return (true, data, outputIndex)

def decodeBase64To (fuel : ℕ) (encoded : Buffer (base64MaxBytes + 1)) (uart : UartSendOutput) :
    Checked (Bool × UartSendOutput) := do
  let text ← encoded.text
  if text.length < 4 ∨ base64MaxBytes < text.length ∨ text.length % 4 ≠ 0 then return (false, uart)
  else
    let (decoded, data, outputIndex) ← base64GroupsTo encoded text.length fuel 0 uart.data 0
    if !decoded then return (false, { uart with data := data })
    else return (decide (0 < outputIndex), { data := data, length := outputIndex })

def decodeConfigureTo (fields : FieldBuffers) (command : CommandOutput) :
    Checked (Bool × CommandOutput) := do
  let required := fieldBits [.cmd, .channel, .mode, .activeLevel]
  let (decoded, channel) ← decodeChannelTo fields.channel command.channel
  let command := { command with channel := channel }
  if !decoded then return (false, command)
  else
    let (decoded, activeLevel) ← decodeLevelTo fields.activeLevel command.configure.activeLevel
    let command := { command with configure.activeLevel := activeLevel }
    if !decoded then return (false, command)
    else
      let mode ← fields.mode.text
      if mode = ascii "open_drain" then
        if fields.present ≠ required ∨ command.configure.activeLevel ≠ .low then
          return (false, command)
        else
          return (true, { command with
            configure.mode := .openDrain
            configure.hasIdleLevel := false
            kind := .configureGpioMode })
      else if mode = ascii "push_pull" then
        if fields.present ≠ required ||| FieldId.idleLevel.bit then return (false, command)
        else
          let (decoded, idleLevel) ← decodeLevelTo fields.idleLevel command.configure.idleLevel
          let command := { command with configure.idleLevel := idleLevel }
          if !decoded ∨ command.configure.activeLevel = command.configure.idleLevel then
            return (false, command)
          else
            return (true, { command with
              configure.mode := .pushPull
              configure.hasIdleLevel := true
              kind := .configureGpioMode })
      else return (false, command)

def decodePulseTo (fields : FieldBuffers) (command : CommandOutput) :
    Checked (Bool × CommandOutput) := do
  if fields.present ≠ fieldBits [.cmd, .channel, .pulseMs] ∨ fields.pulseMs < 1
      ∨ 10000 < fields.pulseMs then return (false, command)
  else
    let (decoded, channel) ← decodeChannelTo fields.channel command.channel
    let command := { command with channel := channel }
    if !decoded then return (false, command)
    else return (true, { command with kind := .pulseControl, pulseMs := fields.pulseMs })

def decodeStateTo (fields : FieldBuffers) (command : CommandOutput) :
    Checked (Bool × CommandOutput) := do
  if fields.present ≠ fieldBits [.cmd, .channel, .state] then return (false, command)
  else
    let (decoded, channel) ← decodeChannelTo fields.channel command.channel
    let command := { command with channel := channel }
    if !decoded then return (false, command)
    else
      let state ← fields.state.text
      if state = ascii "active" then
        return (true, { command with controlState := .active, kind := .setControlState })
      else if state = ascii "idle" then
        return (true, { command with controlState := .idle, kind := .setControlState })
      else return (false, command)

def decodeUartSendTo (fuel : ℕ) (fields : FieldBuffers) (command : CommandOutput) :
    Checked (Bool × CommandOutput) := do
  if fields.present ≠ fieldBits [.cmd, .dataB64] then return (false, command)
  else
    let (decoded, uart) ← decodeBase64To fuel fields.dataB64 command.uartSend
    let command := { command with uartSend := uart }
    if !decoded then return (false, command) else return (true, { command with kind := .uartSend })

/-- The decoder a command's name selects. -/
def decodeNamedTo (fuel : ℕ) (fields : FieldBuffers) (name : List UInt8) (command : CommandOutput) :
    Option (Checked (Bool × CommandOutput)) :=
  if name = ascii "configure_gpio_mode" then some (decodeConfigureTo fields command)
  else if name = ascii "pulse_control" then some (decodePulseTo fields command)
  else if name = ascii "set_control_state" then some (decodeStateTo fields command)
  else if name = ascii "uart_send" then some (decodeUartSendTo fuel fields command)
  else none

/-- `dmh_command_decode` behind its argument checks: its answer and the command it leaves.  It clears the
command before anything else. -/
def commandDecodeTo (fuel : ℕ) (frame : List UInt8) (command : CommandOutput) :
    Checked (Except CommandDecodeFailure Unit × CommandOutput) := do
  let command := command.clear
  if frame.length = 0 ∨ commandFrameMaxBodyBytes < frame.length then
    return (.error .invalidCommand, command)
  else
    match ← parseObjectAt fuel frame with
    | .error e => return (.error e, command)
    | .ok fields =>
      if fields.present &&& FieldId.cmd.bit = 0 then return (.error .invalidCommand, command)
      else
        let first ← fields.cmd.load 0
        if first = 0 then return (.error .invalidCommand, command)
        else
          let name ← fields.cmd.text
          match decodeNamedTo fuel fields name command with
          | none => return (.error .invalidCommand, command)
          | some decoded =>
            let (valid, command) ← decoded
            if !valid then return (.error .invalidArgument, command.clear)
            else return (.ok (), command)
