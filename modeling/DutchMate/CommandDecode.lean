/-
# Decoding commands

`command_decode.c`: a frame is one flat JSON object of known fields, each at most once, whose
strings are ASCII and bounded by the output each is parsed into.  The fields are then decoded
to a command.
-/
import DutchMate.CommandExecutor

/-! ## Strings and numbers -/

/-- What a string was refused for. -/
inductive StringParseFailure where
  | malformed
  | limit
  deriving DecidableEq, Repr

/-- Blanks between tokens. -/
def skipWhitespace (input : List UInt8) : List UInt8 :=
  input.dropWhile fun b => b = 0x20 ∨ b = 0x09

def hexValue (byte : UInt8) : Option ℕ :=
  if 0x30 ≤ byte ∧ byte ≤ 0x39 then some (byte.toNat - 0x30)
  else if 0x61 ≤ byte ∧ byte ≤ 0x66 then some (byte.toNat - 0x61 + 10)
  else if 0x41 ≤ byte ∧ byte ≤ 0x46 then some (byte.toNat - 0x41 + 10)
  else none

/-- The output keeps a byte for its terminator. -/
def appendStringByte (outputCapacity : ℕ) (output : List UInt8) (byte : UInt8) :
    Except StringParseFailure (List UInt8) :=
  if byte = 0 ∨ outputCapacity ≤ output.length + 1 then .error .limit else .ok (output ++ [byte])

def parseUnicodeEscape (outputCapacity : ℕ) (output : List UInt8) (a b c d : UInt8) :
    Except StringParseFailure (List UInt8) :=
  match hexValue a, hexValue b, hexValue c, hexValue d with
  | some a, some b, some c, some d =>
    let codepoint := ((a * 16 + b) * 16 + c) * 16 + d
    if 0x7F < codepoint then .error .limit
    else appendStringByte outputCapacity output codepoint.toUInt8
  | _, _, _, _ => .error .malformed

/-- The byte an escape letter other than `u` stands for. -/
def escapedByte (byte : UInt8) : Option UInt8 :=
  if byte = 0x22 ∨ byte = 0x5C ∨ byte = 0x2F then some byte
  else if byte = 0x62 then some 0x08
  else if byte = 0x66 then some 0x0C
  else if byte = 0x6E then some 0x0A
  else if byte = 0x72 then some 0x0D
  else if byte = 0x74 then some 0x09
  else none

/-- The loop of `parse_json_string`, after the opening quote. -/
def parseStringBody (outputCapacity : ℕ) (output : List UInt8) :
    List UInt8 → Except StringParseFailure (List UInt8 × List UInt8)
  | [] => .error .malformed
  | byte :: rest =>
    if byte = 0x22 then .ok (output, rest)
    else if byte < 0x20 ∨ 0x80 ≤ byte then .error .malformed
    else if byte ≠ 0x5C then
      match appendStringByte outputCapacity output byte with
      | .error e => .error e
      | .ok output => parseStringBody outputCapacity output rest
    else
      match rest with
      | [] => .error .malformed
      | escape :: rest =>
        if escape = 0x75 then
          match rest with
          | a :: b :: c :: d :: rest =>
            match parseUnicodeEscape outputCapacity output a b c d with
            | .error e => .error e
            | .ok output => parseStringBody outputCapacity output rest
          | _ => .error .malformed
        else
          match escapedByte escape with
          | none => .error .malformed
          | some byte =>
            match appendStringByte outputCapacity output byte with
            | .error e => .error e
            | .ok output => parseStringBody outputCapacity output rest

/-- A string and what follows it. -/
def parseJsonString (outputCapacity : ℕ) :
    List UInt8 → Except StringParseFailure (List UInt8 × List UInt8)
  | [] => .error .malformed
  | byte :: rest =>
    if byte ≠ 0x22 then .error .malformed else parseStringBody outputCapacity [] rest

def isDigit (byte : UInt8) : Bool := 0x30 ≤ byte && byte ≤ 0x39

/-- The loop of `parse_pulse_ms`; a number beyond 32 bits is refused. -/
def parsePulseDigits (parsed : ℕ) : List UInt8 → Option (ℕ × List UInt8)
  | [] => some (parsed, [])
  | byte :: rest =>
    if isDigit byte then
      let digit := byte.toNat - 0x30
      if (4294967295 - digit) / 10 < parsed then none
      else parsePulseDigits (parsed * 10 + digit) rest
    else some (parsed, byte :: rest)

def parsePulseMs : List UInt8 → Option (UInt32 × List UInt8)
  | [] => none
  | byte :: rest =>
    if !isDigit byte then none
    -- no leading zeros
    else if byte = 0x30 ∧ rest.head?.any isDigit then none
    else (parsePulseDigits 0 (byte :: rest)).map fun (value, rest) => (value.toUInt32, rest)

/-! ## Objects -/

inductive FieldId where
  | cmd
  | channel
  | mode
  | activeLevel
  | idleLevel
  | pulseMs
  | state
  | dataB64
  deriving DecidableEq, Repr

namespace FieldId

def index : FieldId → UInt32
  | cmd => 0
  | channel => 1
  | mode => 2
  | activeLevel => 3
  | idleLevel => 4
  | pulseMs => 5
  | state => 6
  | dataB64 => 7

def bit (field : FieldId) : UInt32 := 1 <<< field.index

def name : FieldId → String
  | cmd => "cmd"
  | channel => "channel"
  | mode => "mode"
  | activeLevel => "active_level"
  | idleLevel => "idle_level"
  | pulseMs => "pulse_ms"
  | state => "state"
  | dataB64 => "data_b64"

def all : List FieldId :=
  [cmd, channel, mode, activeLevel, idleLevel, pulseMs, state, dataB64]

def fromName (name : List UInt8) : Option FieldId :=
  all.find? fun field => name = ascii field.name

end FieldId

/-- Room for a key, with its terminator. -/
def keyCapacity : ℕ := 17

def commandNameMaxBytes : ℕ := 23

def base64MaxBytes : ℕ := 1368

/-- The texts of the fields that are `present`. -/
structure RawFields where
  present : UInt32 := 0
  cmd : List UInt8 := []
  channel : List UInt8 := []
  mode : List UInt8 := []
  activeLevel : List UInt8 := []
  idleLevel : List UInt8 := []
  state : List UInt8 := []
  dataB64 : List UInt8 := []
  pulseMs : UInt32 := 0
  deriving DecidableEq, Repr

namespace RawFields

variable (fields : RawFields)

/-- Size of the output a field's string is parsed into. -/
def capacity : FieldId → ℕ
  | .cmd => commandNameMaxBytes + 1
  | .channel => 6
  | .mode => 11
  | .activeLevel => 5
  | .idleLevel => 5
  | .pulseMs => 0
  | .state => 7
  | .dataB64 => base64MaxBytes + 1

def setString (value : List UInt8) : FieldId → RawFields
  | .cmd => { fields with cmd := value }
  | .channel => { fields with channel := value }
  | .mode => { fields with mode := value }
  | .activeLevel => { fields with activeLevel := value }
  | .idleLevel => { fields with idleLevel := value }
  | .pulseMs => fields
  | .state => { fields with state := value }
  | .dataB64 => { fields with dataB64 := value }

def markPresent (field : FieldId) : RawFields :=
  { fields with present := fields.present ||| field.bit }

end RawFields

def parseFieldString (fields : RawFields) (field : FieldId) (input : List UInt8) :
    Except StringParseFailure (RawFields × List UInt8) :=
  if field = .pulseMs then .error .malformed
  else
    match parseJsonString (RawFields.capacity field) input with
    | .error e => .error e
    | .ok (value, rest) => .ok (fields.setString value field, rest)

/-- What a bad string makes of the frame. -/
def StringParseFailure.toDecodeFailure : StringParseFailure → CommandDecodeFailure
  | malformed => .invalidCommand
  | limit => .invalidArgument

/-- The value of a member, after its colon. -/
def parseFieldValue (fields : RawFields) (field : FieldId) (input : List UInt8) :
    Except CommandDecodeFailure (RawFields × List UInt8) :=
  if field = .pulseMs then
    match parsePulseMs input with
    | none => .error .invalidArgument
    | some (value, rest) => .ok ({ fields with pulseMs := value }, rest)
  else if input.head? ≠ some 0x22 then
    .error (if field = .cmd then .invalidCommand else .invalidArgument)
  else
    match parseFieldString fields field input with
    | .error e => .error e.toDecodeFailure
    | .ok parsed => .ok parsed

/-- A member from its key to the blanks behind its value. -/
def parseMember (fields : RawFields) (input : List UInt8) :
    Except CommandDecodeFailure (RawFields × List UInt8) :=
  match parseJsonString keyCapacity input with
  | .error e => .error e.toDecodeFailure
  | .ok (key, rest) =>
    match FieldId.fromName key with
    | none => .error .invalidArgument
    | some field =>
      if fields.present &&& field.bit ≠ 0 then .error .invalidArgument
      else
        match skipWhitespace rest with
        | [] => .error .invalidCommand
        | byte :: rest =>
          if byte ≠ 0x3A then .error .invalidCommand
          else
            match parseFieldValue fields field (skipWhitespace rest) with
            | .error e => .error e
            | .ok (fields, rest) => .ok (fields.markPresent field, skipWhitespace rest)

/-! Every piece of a member consumes input. -/

theorem length_skipWhitespace (input : List UInt8) :
    (skipWhitespace input).length ≤ input.length :=
  (List.dropWhile_suffix _).length_le

theorem parseStringBody_length {outputCapacity : ℕ} {output input value rest : List UInt8}
    (h : parseStringBody outputCapacity output input = .ok (value, rest)) :
    rest.length < input.length := by
  fun_induction parseStringBody outputCapacity output input with
  | case2 output rest' =>
    obtain ⟨_, rfl⟩ := Prod.mk.inj (Except.ok.inj h)
    exact Nat.lt_succ_self _
  | case5 output byte rest' _ _ _ output' _ ih =>
    exact (ih h).trans (Nat.lt_succ_self _)
  | case8 output byte _ _ _ a b c d rest' output' _ ih =>
    exact (ih h).trans (by simp only [List.length_cons]; omega)
  | case12 output byte _ _ _ escape rest' _ byte' _ output' _ ih =>
    exact (ih h).trans (by simp only [List.length_cons]; omega)
  | _ => cases h

theorem parseJsonString_length {outputCapacity : ℕ} {input value rest : List UInt8}
    (h : parseJsonString outputCapacity input = .ok (value, rest)) :
    rest.length < input.length := by
  cases input with
  | nil => cases h
  | cons byte input =>
    rw [parseJsonString] at h
    split at h
    · cases h
    · exact (parseStringBody_length h).trans (Nat.lt_succ_self _)

theorem parsePulseDigits_length {parsed value : ℕ} {input rest : List UInt8}
    (h : parsePulseDigits parsed input = some (value, rest)) : rest.length ≤ input.length := by
  fun_induction parsePulseDigits parsed input with
  | case1 => cases h; exact Nat.le_refl _
  | case2 => cases h
  | case3 parsed byte input _ digit _ ih => exact (ih h).trans (Nat.le_succ _)
  | case4 => cases h; exact Nat.le_refl _

theorem parsePulseMs_length {input rest : List UInt8} {value : UInt32}
    (h : parsePulseMs input = some (value, rest)) : rest.length ≤ input.length := by
  cases input with
  | nil => cases h
  | cons byte input =>
    rw [parsePulseMs] at h
    split at h
    · cases h
    split at h
    · cases h
    obtain ⟨⟨parsed, rest'⟩, hdigits, heq⟩ := Option.map_eq_some_iff.mp h
    obtain ⟨_, rfl⟩ := Prod.mk.inj heq
    exact parsePulseDigits_length hdigits

theorem parseFieldValue_length {fields fields' : RawFields} {field : FieldId}
    {input rest : List UInt8} (h : parseFieldValue fields field input = .ok (fields', rest)) :
    rest.length ≤ input.length := by
  unfold parseFieldValue parseFieldString at h
  split at h
  · split at h
    · cases h
    · rename_i hparsed
      obtain ⟨_, rfl⟩ := Prod.mk.inj (Except.ok.inj h)
      exact parsePulseMs_length hparsed
  · split at h
    · cases h
    split at h
    · cases h
    rename_i hparsed
    split at hparsed
    · cases hparsed
    rename_i hstring
    cases hparsed
    obtain ⟨_, rfl⟩ := Prod.mk.inj (Except.ok.inj h)
    exact (parseJsonString_length hstring).le

theorem parseMember_length {fields fields' : RawFields} {input rest : List UInt8}
    (h : parseMember fields input = .ok (fields', rest)) : rest.length < input.length := by
  unfold parseMember at h
  split at h
  · cases h
  rename_i key afterKey hkey
  split at h
  · cases h
  split at h
  · cases h
  split at h
  · cases h
  rename_i byte afterColon hcolon
  split at h
  · cases h
  split at h
  · cases h
  rename_i fields'' afterValue hvalue
  obtain ⟨_, rfl⟩ := Prod.mk.inj (Except.ok.inj h)
  have hskipped := length_skipWhitespace afterKey
  rw [hcolon, List.length_cons] at hskipped
  calc (skipWhitespace afterValue).length ≤ afterValue.length := length_skipWhitespace _
    _ ≤ (skipWhitespace afterColon).length := parseFieldValue_length hvalue
    _ ≤ afterColon.length := length_skipWhitespace _
    _ < afterKey.length := hskipped
    _ < input.length := parseJsonString_length hkey

/-- The members from a key on, and what follows the closing brace. -/
def parseMembers (fields : RawFields) (input : List UInt8) :
    Except CommandDecodeFailure (RawFields × List UInt8) :=
  match _hmember : parseMember fields input with
  | .error e => .error e
  | .ok (_, []) => .error .invalidCommand
  | .ok (fields, byte :: rest) =>
    if byte = 0x7D then .ok (fields, rest)
    else if byte ≠ 0x2C then .error .invalidCommand
    else
      match _hnext : skipWhitespace rest with
      | [] => .error .invalidCommand
      | next :: afterComma =>
        if next = 0x7D then .error .invalidCommand
        else parseMembers fields (next :: afterComma)
termination_by input.length
decreasing_by
  have hmember := parseMember_length _hmember
  have hskipped := length_skipWhitespace rest
  rw [_hnext] at hskipped
  exact hskipped.trans_lt ((Nat.lt_succ_self _).trans hmember)

theorem parseMembers_end {fields fields' : RawFields} {input rest : List UInt8}
    (h : parseMember fields input = .ok (fields', 0x7D :: rest)) :
    parseMembers fields input = .ok (fields', rest) := by
  rw [parseMembers]
  split
  · rename_i hmember
    exact absurd (h.symm.trans hmember) nofun
  · rename_i hmember
    exact absurd (h.symm.trans hmember) nofun
  · rename_i hmember
    cases h.symm.trans hmember
    exact if_pos rfl

theorem parseMembers_next {fields fields' : RawFields} {input rest afterComma : List UInt8}
    {next : UInt8} (h : parseMember fields input = .ok (fields', 0x2C :: rest))
    (hnext : skipWhitespace rest = next :: afterComma) (hmember : next ≠ 0x7D) :
    parseMembers fields input = parseMembers fields' (next :: afterComma) := by
  rw [parseMembers]
  split
  · rename_i hparsed
    exact absurd (h.symm.trans hparsed) nofun
  · rename_i hparsed
    exact absurd (h.symm.trans hparsed) nofun
  · rename_i hparsed
    cases h.symm.trans hparsed
    rw [if_neg (by decide), if_neg (not_not.mpr rfl)]
    split
    · rename_i hskipped
      exact absurd (hnext.symm.trans hskipped) nofun
    · rename_i hskipped
      cases hnext.symm.trans hskipped
      exact if_neg hmember

def parseObject (frame : List UInt8) : Except CommandDecodeFailure RawFields :=
  if frame.length < 2 ∨ frame.head? ≠ some 0x7B ∨ frame.getLast? ≠ some 0x7D then
    .error .invalidCommand
  else
    let members : Except CommandDecodeFailure (RawFields × List UInt8) :=
      match skipWhitespace frame.tail with
      | [] => .error .invalidCommand
      | byte :: rest => if byte = 0x7D then .ok ({}, rest) else parseMembers {} (byte :: rest)
    match members with
    | .error e => .error e
    | .ok (fields, rest) => if rest ≠ [] then .error .invalidCommand else .ok fields

/-! ## Fields to commands -/

def decodeChannel (value : List UInt8) : Option ℕ :=
  match value with
  | [c, t, r, l, digit] =>
    if [c, t, r, l] ≠ ascii "CTRL" ∨ digit < 0x30 ∨ 0x33 < digit then none
    else some (digit.toNat - 0x30)
  | _ => none

def decodeLevel (value : List UInt8) : Option ControlLevel :=
  if value = ascii "low" then some .low else if value = ascii "high" then some .high else none

def base64Value (byte : UInt8) : Option ℕ :=
  if 0x41 ≤ byte ∧ byte ≤ 0x5A then some (byte.toNat - 0x41)
  else if 0x61 ≤ byte ∧ byte ≤ 0x7A then some (byte.toNat - 0x61 + 26)
  else if 0x30 ≤ byte ∧ byte ≤ 0x39 then some (byte.toNat - 0x30 + 52)
  else if byte = 0x2B then some 62
  else if byte = 0x2F then some 63
  else none

/-- The loop of `decode_base64`, over groups of four; the output holds a payload and no more. -/
def decodeBase64Groups (output : List UInt8) : List UInt8 → Option (List UInt8)
  | first :: second :: third :: fourth :: rest =>
    match base64Value first, base64Value second with
    | some a, some b =>
      if uartSendMaxBytes ≤ output.length then none
      else
        let output := output ++ [(a * 4 + b / 16).toUInt8]
        if third = 0x3D then
          if rest ≠ [] ∨ fourth ≠ 0x3D then none else decodeBase64Groups output rest
        else
          match base64Value third with
          | none => none
          | some c =>
            if uartSendMaxBytes ≤ output.length then none
            else
              let output := output ++ [(b * 16 + c / 4).toUInt8]
              if fourth = 0x3D then
                if rest ≠ [] then none else decodeBase64Groups output rest
              else
                match base64Value fourth with
                | none => none
                | some d =>
                  if uartSendMaxBytes ≤ output.length then none
                  else decodeBase64Groups (output ++ [(c * 64 + d).toUInt8]) rest
    | _, _ => none
  | _ => some output

def decodeBase64 (encoded : List UInt8) : Option (List UInt8) :=
  if encoded.length < 4 ∨ base64MaxBytes < encoded.length ∨ encoded.length % 4 ≠ 0 then none
  else (decodeBase64Groups [] encoded).filter fun data => data ≠ []

/-- Bits of the fields a command consists of. -/
def fieldBits (fields : List FieldId) : UInt32 :=
  (fields.map FieldId.bit).foldl (· ||| ·) 0

def decodeConfigure (fields : RawFields) : Option Command :=
  match decodeChannel fields.channel, decodeLevel fields.activeLevel with
  | some channel, some activeLevel =>
    let required := fieldBits [.cmd, .channel, .mode, .activeLevel]
    if fields.mode = ascii "open_drain" then
      if fields.present ≠ required ∨ activeLevel ≠ .low then none
      else some (.configureGpioMode channel .openDrain activeLevel false .low)
    else if fields.mode = ascii "push_pull" then
      if fields.present ≠ required ||| FieldId.idleLevel.bit then none
      else
        match decodeLevel fields.idleLevel with
        | none => none
        | some idleLevel =>
          if activeLevel = idleLevel then none
          else some (.configureGpioMode channel .pushPull activeLevel true idleLevel)
    else none
  | _, _ => none

def decodePulse (fields : RawFields) : Option Command :=
  if fields.present ≠ fieldBits [.cmd, .channel, .pulseMs] ∨ fields.pulseMs < 1
      ∨ 10000 < fields.pulseMs then none
  else (decodeChannel fields.channel).map fun channel => .pulseControl channel fields.pulseMs

def decodeState (fields : RawFields) : Option Command :=
  if fields.present ≠ fieldBits [.cmd, .channel, .state] then none
  else
    match decodeChannel fields.channel with
    | none => none
    | some channel =>
      if fields.state = ascii "active" then some (.setControlState channel .active)
      else if fields.state = ascii "idle" then some (.setControlState channel .idle)
      else none

def decodeUartSend (fields : RawFields) : Option Command :=
  if fields.present ≠ fieldBits [.cmd, .dataB64] then none
  else (decodeBase64 fields.dataB64).map .uartSend

def commandFrameMaxBodyBytes : ℕ := 2047

/-- A command's fields, with the failure of a command that is not known. -/
def decodeFields (fields : RawFields) : Except CommandDecodeFailure Command :=
  if fields.present &&& FieldId.cmd.bit = 0 ∨ fields.cmd = [] then .error .invalidCommand
  else
    let decoded :=
      if fields.cmd = ascii "configure_gpio_mode" then some (decodeConfigure fields)
      else if fields.cmd = ascii "pulse_control" then some (decodePulse fields)
      else if fields.cmd = ascii "set_control_state" then some (decodeState fields)
      else if fields.cmd = ascii "uart_send" then some (decodeUartSend fields)
      else none
    match decoded with
    | none => .error .invalidCommand
    | some none => .error .invalidArgument
    | some (some command) => .ok command

def commandDecode (frame : List UInt8) : Except CommandDecodeFailure Command :=
  if frame.length = 0 ∨ commandFrameMaxBodyBytes < frame.length then .error .invalidCommand
  else
    match parseObject frame with
    | .error e => .error e
    | .ok fields => decodeFields fields
