/-
# Commands on the wire

`commands.py`: the host builds validated commands and writes each as one line of compact
JSON.  The constructors build exactly the commands of `HostCommand.Valid`.
-/
import DutchMate.Base64
import DutchMate.CommandIngress
import DutchMate.GpioRegistry
import DutchMate.Json
import DutchMate.Utf8

/-! ## Payloads -/

inductive PayloadValue where
  | text (s : String)
  | number (n : ℤ)
  deriving DecidableEq, Repr

/-- What the writer refuses. -/
inductive CommandError where
  | validation (detail : String)
  | uartSendValidation (detail : String) (actualBytes : Option ℕ)
  | frameTooLarge (actualFrameBytes maxFrameBytes : ℕ)
  deriving DecidableEq, Repr

/-- One character of a string literal when characters beyond ASCII are kept. -/
def keptChar (c : Char) : List Char :=
  if c = '"' then ['\\', '"']
  else if c = '\\' then ['\\', '\\']
  else if c = '\n' then ['\\', 'n']
  else if c = '\r' then ['\\', 'r']
  else if c = '\t' then ['\\', 't']
  else if c = '\x08' then ['\\', 'b']
  else if c = '\x0c' then ['\\', 'f']
  else if c.toNat < 0x20 then Json.escapeUnit c.toNat
  else [c]

def keptStringChars (s : String) : List Char := '"' :: (s.toList.flatMap keptChar ++ ['"'])

def PayloadValue.chars : PayloadValue → List Char
  | text s => keptStringChars s
  | number n => Json.intChars n

def payloadFieldChars (field : String × PayloadValue) : List Char :=
  keptStringChars field.1 ++ ':' :: field.2.chars

def payloadChars (payload : List (String × PayloadValue)) : List Char :=
  '{' :: (List.intercalate [','] (payload.map payloadFieldChars) ++ ['}'])

def maxHostFrameBytes : ℕ := 2048

/-- `_encode_payload`. -/
def encodePayload (payload : List (String × PayloadValue)) : Except CommandError (List UInt8) :=
  let frame := (payloadChars payload ++ ['\n']).flatMap String.utf8EncodeChar
  if maxHostFrameBytes < frame.length then
    .error (.frameTooLarge frame.length maxHostFrameBytes)
  else .ok frame

/-! ## Commands of the host -/

inductive HostCommand where
  | configureGpioMode (channel mode activeLevel : String) (idleLevel : Option String)
  | pulseControl (channel : String) (pulseMs : ℤ)
  | setControlState (channel state : String)
  | uartSend (data : List UInt8)
  deriving DecidableEq, Repr

namespace HostCommand

def toPayload : HostCommand → List (String × PayloadValue)
  | configureGpioMode channel mode activeLevel idleLevel =>
    [("cmd", .text "configure_gpio_mode"), ("channel", .text channel), ("mode", .text mode),
      ("active_level", .text activeLevel)]
      ++ (idleLevel.map fun level => ("idle_level", PayloadValue.text level)).toList
  | pulseControl channel pulseMs =>
    [("cmd", .text "pulse_control"), ("channel", .text channel), ("pulse_ms", .number pulseMs)]
  | setControlState channel state =>
    [("cmd", .text "set_control_state"), ("channel", .text channel), ("state", .text state)]
  | uartSend data =>
    [("cmd", .text "uart_send"), ("data_b64", .text (String.ofList (Base64.encode data)))]

def toNdjson (command : HostCommand) : Except CommandError (List UInt8) :=
  encodePayload command.toPayload

end HostCommand

/-! ## Validation -/

def GpioControlChannel.name : GpioControlChannel → String
  | ctrl0 => "CTRL0"
  | ctrl1 => "CTRL1"
  | ctrl2 => "CTRL2"
  | ctrl3 => "CTRL3"

def ControlMode.name : ControlMode → String
  | openDrain => "open_drain"
  | pushPull => "push_pull"

def ControlLevel.name : ControlLevel → String
  | low => "low"
  | high => "high"

def ControlTarget.name : ControlTarget → String
  | active => "active"
  | idle => "idle"

def validateGpioChannel (channel : String) : Except CommandError String :=
  if channel ∈ allControlChannels.map GpioControlChannel.name then .ok channel
  else .error
    (.validation "GPIO control channel must be 'CTRL0', 'CTRL1', 'CTRL2', or 'CTRL3'")

def validateGpioMode (mode : String) : Except CommandError String :=
  if mode ∈ [ControlMode.openDrain.name, ControlMode.pushPull.name] then .ok mode
  else .error (.validation "GPIO mode must be 'open_drain' or 'push_pull'")

def validateGpioLevel (level field : String) : Except CommandError String :=
  if level ∈ [ControlLevel.low.name, ControlLevel.high.name] then .ok level
  else .error (.validation ("GPIO " ++ field ++ " must be 'low' or 'high'"))

/-- Which levels a mode is configured with. -/
def checkModeMatrix (mode activeLevel : String) (idleLevel : Option String) :
    Except CommandError (String × String × Option String) :=
  if mode = "open_drain" then
    if activeLevel ≠ "low" then
      .error (.validation "GPIO open_drain active_level must be 'low'")
    else if idleLevel ≠ none then
      .error (.validation "GPIO open_drain idle_level must be omitted")
    else .ok (mode, activeLevel, idleLevel)
  else if idleLevel = none then
    .error (.validation "GPIO push_pull idle_level is required")
  else if idleLevel = some activeLevel then
    .error (.validation "GPIO push_pull idle_level must be opposite active_level")
  else .ok (mode, activeLevel, idleLevel)

def validateIdleLevel : Option String → Except CommandError (Option String)
  | none => .ok none
  | some level => (validateGpioLevel level "idle_level").map some

def validateGpioModeConfiguration (mode activeLevel : String) (idleLevel : Option String) :
    Except CommandError (String × String × Option String) := do
  let mode ← validateGpioMode mode
  let activeLevel ← validateGpioLevel activeLevel "active_level"
  let idleLevel ← validateIdleLevel idleLevel
  checkModeMatrix mode activeLevel idleLevel

def validateResetPulse (pulseMs : ℤ) : Except CommandError ℤ :=
  if 1 ≤ pulseMs ∧ pulseMs ≤ 10000 then .ok pulseMs
  else .error (.validation "Reset pulse_ms must be an integer between 1 and 10000")

def maxUartSendBytes : ℕ := 1024

def uartSendPayloadDetail : String := "UART send payload must contain 1..1024 bytes"

/-- `prepare_uart_send_payload`; its caller keeps only the detail of what it raises. -/
def prepareUartSendPayload (cmd : String) (appendNewline : Bool) :
    Except CommandError (List UInt8) :=
  let payload := Utf8.encode cmd
  let payload :=
    if appendNewline ∧ payload.getLast? ≠ some newline then payload ++ [newline] else payload
  if payload = [] then .error (.uartSendValidation uartSendPayloadDetail (some 0))
  else if maxUartSendBytes < payload.length then
    .error (.uartSendValidation uartSendPayloadDetail (some payload.length))
  else .ok payload

/-! ## Constructors -/

def configureGpioModeCommand (channel mode activeLevel : String) (idleLevel : Option String) :
    Except CommandError HostCommand := do
  let channel ← validateGpioChannel channel
  let (mode, activeLevel, idleLevel) ← validateGpioModeConfiguration mode activeLevel idleLevel
  .ok (.configureGpioMode channel mode activeLevel idleLevel)

def pulseControlCommand (channel : String) (pulseMs : ℤ) : Except CommandError HostCommand := do
  let channel ← validateGpioChannel channel
  let pulseMs ← validateResetPulse pulseMs
  .ok (.pulseControl channel pulseMs)

def setControlStateCommand (channel state : String) : Except CommandError HostCommand := do
  let channel ← validateGpioChannel channel
  if state = "active" then .ok (.setControlState channel "active")
  else if state = "idle" then .ok (.setControlState channel "idle")
  else .error (.validation "Control state must be 'active' or 'idle'")

def uartSendCommand (data : List UInt8) : Except CommandError HostCommand :=
  if data = [] then .error (.validation "UART send data must not be empty")
  else if 1024 < data.length then
    .error (.validation "UART send data must not exceed 1024 bytes")
  else .ok (.uartSend data)

def uartSendTextCommand (text : String) (appendNewline : Bool) :
    Except CommandError HostCommand :=
  match prepareUartSendPayload text appendNewline with
  | .error (.uartSendValidation detail _) => .error (.validation detail)
  | .error e => .error e
  | .ok data => uartSendCommand data

/-- A call of one of the constructors. -/
inductive CommandCall where
  | configureGpioMode (channel mode activeLevel : String) (idleLevel : Option String)
  | pulseControl (channel : String) (pulseMs : ℤ)
  | setControlState (channel state : String)
  | uartSend (data : List UInt8)
  | uartSendText (text : String) (appendNewline : Bool)
  deriving DecidableEq, Repr

def CommandCall.build : CommandCall → Except CommandError HostCommand
  | configureGpioMode channel mode activeLevel idleLevel =>
    configureGpioModeCommand channel mode activeLevel idleLevel
  | pulseControl channel pulseMs => pulseControlCommand channel pulseMs
  | setControlState channel state => setControlStateCommand channel state
  | uartSend data => uartSendCommand data
  | uartSendText text appendNewline => uartSendTextCommand text appendNewline

/-- A command of the firmware with the same fields. -/
def HostCommand.Carried : HostCommand → Command → Prop
  | configureGpioMode channel mode activeLevel idleLevel,
      .configureGpioMode index mode' activeLevel' hasIdleLevel idleLevel' =>
    (∃ c : GpioControlChannel, channel = c.name ∧ index = c.index) ∧ mode = mode'.name ∧
      activeLevel = activeLevel'.name ∧
      idleLevel = if hasIdleLevel then some idleLevel'.name else none
  | pulseControl channel pulseMs, .pulseControl index pulseMs' =>
    (∃ c : GpioControlChannel, channel = c.name ∧ index = c.index) ∧ pulseMs = pulseMs'.toNat
  | setControlState channel state, .setControlState index target =>
    (∃ c : GpioControlChannel, channel = c.name ∧ index = c.index) ∧ state = target.name
  | uartSend data, .uartSend data' => data = data'
  | _, _ => False

/-! ## Valid commands -/

def ControlLevel.opposite : ControlLevel → ControlLevel
  | low => high
  | high => low

/-- The commands the constructors build. -/
inductive HostCommand.Valid : HostCommand → Prop
  | openDrain (channel : GpioControlChannel) :
    Valid (.configureGpioMode channel.name "open_drain" "low" none)
  | pushPull (channel : GpioControlChannel) (level : ControlLevel) :
    Valid (.configureGpioMode channel.name "push_pull" level.name (some level.opposite.name))
  | pulseControl (channel : GpioControlChannel) (pulseMs : ℕ) (hmin : 1 ≤ pulseMs)
    (hmax : pulseMs ≤ 10000) : Valid (.pulseControl channel.name pulseMs)
  | setControlState (channel : GpioControlChannel) (target : ControlTarget) :
    Valid (.setControlState channel.name target.name)
  | uartSend (data : List UInt8) (hdata : data ≠ []) (hlength : data.length ≤ uartSendMaxBytes) :
    Valid (.uartSend data)

theorem validateGpioChannel_ok {channel channel' : String}
    (h : validateGpioChannel channel = .ok channel') :
    ∃ c : GpioControlChannel, channel' = c.name := by
  unfold validateGpioChannel at h
  split at h
  · rename_i hmem
    obtain ⟨c, _, hc⟩ := List.mem_map.mp hmem
    cases h
    exact ⟨c, hc.symm⟩
  · cases h

theorem validateGpioMode_ok {mode mode' : String} (h : validateGpioMode mode = .ok mode') :
    mode' = "open_drain" ∨ mode' = "push_pull" := by
  unfold validateGpioMode at h
  split at h
  · rename_i hmem
    cases h
    simpa [ControlMode.name] using hmem
  · cases h

theorem validateGpioLevel_ok {level level' field : String}
    (h : validateGpioLevel level field = .ok level') : ∃ l : ControlLevel, level' = l.name := by
  unfold validateGpioLevel at h
  split at h
  · rename_i hmem
    cases h
    rcases List.mem_pair.mp hmem with h | h
    · exact ⟨.low, h⟩
    · exact ⟨.high, h⟩
  · cases h

theorem ControlLevel.eq_opposite {level other : ControlLevel} (h : other.name ≠ level.name) :
    other = level.opposite := by
  cases level <;> cases other
  · exact absurd rfl h
  · rfl
  · rfl
  · exact absurd rfl h

theorem validateIdleLevel_ok {idleLevel idleLevel' : Option String}
    (h : validateIdleLevel idleLevel = .ok idleLevel') {idle : String}
    (hidle : idleLevel' = some idle) : ∃ l : ControlLevel, idle = l.name := by
  subst hidle
  cases idleLevel with
  | none => cases h
  | some level =>
    cases hlevel : validateGpioLevel level "idle_level" with
    | error e => rw [validateIdleLevel, hlevel] at h; cases h
    | ok level' =>
      rw [validateIdleLevel, hlevel] at h
      cases h
      exact validateGpioLevel_ok hlevel

/-- A mode configuration that passes the matrix. -/
inductive ModeMatrix : String × String × Option String → Prop
  | openDrain : ModeMatrix ("open_drain", "low", none)
  | pushPull (level : ControlLevel) :
    ModeMatrix ("push_pull", level.name, some level.opposite.name)

theorem checkModeMatrix_ok {mode : String} {level : ControlLevel} {idleLevel : Option String}
    {checked : String × String × Option String} (hmode : mode = "open_drain" ∨ mode = "push_pull")
    (hidle : ∀ idle, idleLevel = some idle → ∃ l : ControlLevel, idle = l.name)
    (h : checkModeMatrix mode level.name idleLevel = .ok checked) : ModeMatrix checked := by
  unfold checkModeMatrix at h
  rcases hmode with rfl | rfl
  · rw [if_pos rfl] at h
    split at h
    · cases h
    rename_i hactive
    split at h
    · cases h
    rename_i hnone
    cases h
    rw [not_not.mp hactive, not_not.mp hnone]
    exact .openDrain
  · rw [if_neg (by decide)] at h
    split at h
    · cases h
    rename_i hsome
    split at h
    · cases h
    rename_i hother
    cases h
    obtain ⟨idle, rfl⟩ := Option.ne_none_iff_exists'.mp hsome
    obtain ⟨other, rfl⟩ := hidle idle rfl
    rw [ControlLevel.eq_opposite fun heq => hother (congrArg some heq)]
    exact .pushPull level

theorem validateGpioModeConfiguration_ok {mode activeLevel : String} {idleLevel : Option String}
    {validated : String × String × Option String}
    (h : validateGpioModeConfiguration mode activeLevel idleLevel = .ok validated) :
    ModeMatrix validated := by
  unfold validateGpioModeConfiguration at h
  cases hmode : validateGpioMode mode with
  | error e => rw [hmode] at h; cases h
  | ok mode' =>
    cases hactive : validateGpioLevel activeLevel "active_level" with
    | error e => rw [hmode, hactive] at h; cases h
    | ok active' =>
      cases hidle : validateIdleLevel idleLevel with
      | error e => rw [hmode, hactive, hidle] at h; cases h
      | ok idle' =>
        obtain ⟨level, rfl⟩ := validateGpioLevel_ok hactive
        rw [hmode, hactive, hidle] at h
        exact checkModeMatrix_ok (validateGpioMode_ok hmode)
          (fun _ => validateIdleLevel_ok hidle) h

theorem configureGpioModeCommand_valid {channel mode activeLevel : String}
    {idleLevel : Option String} {command : HostCommand}
    (h : configureGpioModeCommand channel mode activeLevel idleLevel = .ok command) :
    command.Valid := by
  unfold configureGpioModeCommand at h
  cases hchannel : validateGpioChannel channel with
  | error e => rw [hchannel] at h; cases h
  | ok channel' =>
    cases hmode : validateGpioModeConfiguration mode activeLevel idleLevel with
    | error e => rw [hchannel, hmode] at h; cases h
    | ok validated =>
      obtain ⟨c, rfl⟩ := validateGpioChannel_ok hchannel
      rw [hchannel, hmode] at h
      cases h
      cases validateGpioModeConfiguration_ok hmode with
      | openDrain => exact .openDrain c
      | pushPull level => exact .pushPull c level

theorem pulseControlCommand_valid {channel : String} {pulseMs : ℤ} {command : HostCommand}
    (h : pulseControlCommand channel pulseMs = .ok command) : command.Valid := by
  unfold pulseControlCommand at h
  cases hchannel : validateGpioChannel channel with
  | error e => rw [hchannel] at h; cases h
  | ok channel' =>
    obtain ⟨c, rfl⟩ := validateGpioChannel_ok hchannel
    rw [hchannel] at h
    by_cases hpulse : 1 ≤ pulseMs ∧ pulseMs ≤ 10000
    · have hvalid : validateResetPulse pulseMs = .ok pulseMs := if_pos hpulse
      rw [hvalid] at h
      cases h
      obtain ⟨n, rfl⟩ := Int.eq_ofNat_of_zero_le (Int.le_of_lt hpulse.1)
      exact .pulseControl c n (Int.ofNat_le.mp hpulse.1) (Int.ofNat_le.mp hpulse.2)
    · have hinvalid : validateResetPulse pulseMs
          = .error (.validation "Reset pulse_ms must be an integer between 1 and 10000") :=
        if_neg hpulse
      rw [hinvalid] at h
      cases h

theorem setControlStateCommand_valid {channel state : String} {command : HostCommand}
    (h : setControlStateCommand channel state = .ok command) : command.Valid := by
  unfold setControlStateCommand at h
  cases hchannel : validateGpioChannel channel with
  | error e => rw [hchannel] at h; cases h
  | ok channel' =>
    obtain ⟨c, rfl⟩ := validateGpioChannel_ok hchannel
    rw [hchannel] at h
    dsimp only [bind, Except.bind] at h
    split at h
    · cases h
      exact .setControlState c .active
    split at h
    · cases h
      exact .setControlState c .idle
    · cases h

theorem uartSendCommand_valid {data : List UInt8} {command : HostCommand}
    (h : uartSendCommand data = .ok command) : command.Valid := by
  unfold uartSendCommand at h
  split at h
  · cases h
  rename_i hdata
  split at h
  · cases h
  rename_i hlength
  cases h
  exact .uartSend data hdata (Nat.le_of_not_lt hlength)

theorem uartSendTextCommand_valid {text : String} {appendNewline : Bool} {command : HostCommand}
    (h : uartSendTextCommand text appendNewline = .ok command) : command.Valid := by
  unfold uartSendTextCommand at h
  split at h
  · cases h
  · cases h
  · exact uartSendCommand_valid h

/-- Every command a constructor builds is one of these. -/
theorem CommandCall.build_valid {call : CommandCall} {command : HostCommand}
    (h : call.build = .ok command) : command.Valid := by
  cases call with
  | configureGpioMode channel mode activeLevel idleLevel =>
    exact configureGpioModeCommand_valid h
  | pulseControl channel pulseMs => exact pulseControlCommand_valid h
  | setControlState channel state => exact setControlStateCommand_valid h
  | uartSend data => exact uartSendCommand_valid h
  | uartSendText text appendNewline => exact uartSendTextCommand_valid h
