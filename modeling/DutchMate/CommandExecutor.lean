/-
# The command executor

`command_executor.c`: one command at a time, over the control outputs and the UART sender,
whose results are inputs of the calls.  In every run of calls the outputs are safe, and a
pulse that was started ends with one response.
-/
import DutchMate.CommandResponse
import DutchMate.ControlState

open OutputPins

/-! ## Commands -/

inductive Command where
  | none
  | configureGpioMode (channel : ℕ) (mode : ControlMode) (activeLevel : ControlLevel)
      (hasIdleLevel : Bool) (idleLevel : ControlLevel)
  | pulseControl (channel : ℕ) (pulseMs : UInt32)
  | setControlState (channel : ℕ) (target : ControlTarget)
  | uartSend (data : List UInt8)
  deriving DecidableEq, Repr

inductive CommandDecodeFailure where
  | invalidCommand
  | invalidArgument
  deriving DecidableEq, Repr

inductive UartTxResult where
  | idle
  | pending
  | completed
  | invalidArgument
  | busy
  | timeout
  | hardwareFault
  deriving DecidableEq, Repr

inductive ExecutorResult where
  | idle
  | pending
  | responseReady
  | busy
  | internalFault
  deriving DecidableEq, Repr

inductive ExecutorState where
  | idle
  | controlPulse
  | uartTx
  | response
  deriving DecidableEq, Repr

def invalidCommandDetail : List UInt8 := ascii "Command is invalid"
def invalidArgumentDetail : List UInt8 := ascii "Command argument is invalid"
def controlFaultDetail : List UInt8 := ascii "Control hardware operation failed"
def uartFaultDetail : List UInt8 := ascii "UART transmission failed"
def uartTimeoutDetail : List UInt8 := ascii "UART transmission timed out"

def notConfiguredDetail (channel : ℕ) : List UInt8 :=
  ascii "CTRL" ++ [(48 + channel).toUInt8] ++ ascii " is not configured"

/-- The executor; `response` is the staged frame. -/
structure CommandExecutor where
  control : Control
  state : ExecutorState := .idle
  response : List UInt8 := []

namespace CommandExecutor

def init (outcome : ℕ → Bool) : CommandExecutor := { control := .init outcome }

variable (executor : CommandExecutor)

def responseEncoded : Except EncodeError (List UInt8) → CommandExecutor × ExecutorResult
  | .error _ => ({ executor with state := .idle, response := [] }, .internalFault)
  | .ok frame => ({ executor with state := .response, response := frame }, .responseReady)

def stageTimestamp (timestampUs : UInt64) : CommandExecutor × ExecutorResult :=
  executor.responseEncoded (timestampResponseEncode timestampUs commandResponseFrameCapacity)

def stageUartSuccess (timestampUs bytesAccepted : UInt64) : CommandExecutor × ExecutorResult :=
  executor.responseEncoded
    (uartSendResponseEncode timestampUs bytesAccepted commandResponseFrameCapacity)

def stageError (code : CommandErrorCode) (detail : List UInt8) : CommandExecutor × ExecutorResult :=
  executor.responseEncoded (errorResponseEncode code detail commandResponseFrameCapacity)

def mapControlResult (result : ControlResult) (channel : ℕ) (timestampUs : UInt64) :
    CommandExecutor × ExecutorResult :=
  match result with
  | .ok => executor.stageTimestamp timestampUs
  | .invalidArgument => executor.stageError .invalidArgument invalidArgumentDetail
  | .notConfigured => executor.stageError .notConfigured (notConfiguredDetail channel)
  | _ => executor.stageError .hardwareFault controlFaultDetail

def submitPulse (channel : ℕ) (pulseMs : UInt32) (nowUs : UInt64) :
    CommandExecutor × ExecutorResult :=
  match executor.control.pulseStart channel pulseMs nowUs with
  | (control, .pending) =>
    ({ executor with control := control, state := .controlPulse }, .pending)
  | (control, result) => { executor with control := control }.mapControlResult result channel nowUs

/-- The UART port's answer to the start is `started`. -/
def submitUart (data : List UInt8) (nowUs : UInt64) (started : UartTxResult) :
    CommandExecutor × ExecutorResult :=
  match started with
  | .pending => ({ executor with state := .uartTx }, .pending)
  | .completed => executor.stageUartSuccess nowUs data.length.toUInt64
  | .invalidArgument => executor.stageError .invalidArgument invalidArgumentDetail
  | _ => executor.stageError .hardwareFault uartFaultDetail

def submit (command : Command) (nowUs : UInt64) (started : UartTxResult) :
    CommandExecutor × ExecutorResult :=
  if executor.state ≠ .idle then (executor, .busy)
  else
    match command with
    | .configureGpioMode channel mode activeLevel hasIdleLevel idleLevel =>
      let (control, result) :=
        executor.control.configure channel mode activeLevel hasIdleLevel idleLevel
      { executor with control := control }.mapControlResult result channel nowUs
    | .pulseControl channel pulseMs => executor.submitPulse channel pulseMs nowUs
    | .setControlState channel target =>
      let (control, result) := executor.control.setState channel target
      { executor with control := control }.mapControlResult result channel nowUs
    | .uartSend data => executor.submitUart data nowUs started
    | .none => executor.stageError .invalidCommand invalidCommandDetail

def reject (failure : CommandDecodeFailure) : CommandExecutor × ExecutorResult :=
  if executor.state ≠ .idle then (executor, .busy)
  else
    match failure with
    | .invalidArgument => executor.stageError .invalidArgument invalidArgumentDetail
    | .invalidCommand => executor.stageError .invalidCommand invalidCommandDetail

/-- The UART port's answer to the poll is `polled` with `bytesAccepted`. -/
def poll (nowUs : UInt64) (polled : UartTxResult) (bytesAccepted : UInt64) :
    CommandExecutor × ExecutorResult :=
  match executor.state with
  | .controlPulse =>
    match executor.control.poll nowUs with
    | (control, .completed) => { executor with control := control }.stageTimestamp nowUs
    | (control, .hardwareFault) =>
      { executor with control := control }.stageError .hardwareFault controlFaultDetail
    | (control, .none) => ({ executor with control := control }, .pending)
  | .uartTx =>
    match polled with
    | .completed => executor.stageUartSuccess nowUs bytesAccepted
    | .timeout => executor.stageError .timeout uartTimeoutDetail
    | .hardwareFault => executor.stageError .hardwareFault uartFaultDetail
    | .pending => (executor, .pending)
    | _ => (executor, .internalFault)
  | .response => (executor, .responseReady)
  | .idle => (executor, .idle)

def responseSent : CommandExecutor :=
  if executor.state = .response then { executor with state := .idle, response := [] }
  else executor

def cancelEpoch : CommandExecutor × ControlResult :=
  let (control, result) := executor.control.endEpoch
  ({ executor with control := control, state := .idle, response := [] }, result)

end CommandExecutor

/-! ## Calls -/

inductive ExecutorCall where
  | submit (command : Command) (nowUs : UInt64) (started : UartTxResult)
  | reject (failure : CommandDecodeFailure)
  | poll (nowUs : UInt64) (polled : UartTxResult) (bytesAccepted : UInt64)
  | responseSent
  | cancelEpoch
  deriving DecidableEq, Repr

/-- The clock read of a call. -/
def ExecutorCall.nowUs? : ExecutorCall → Option UInt64
  | submit _ nowUs _ => some nowUs
  | poll nowUs _ _ => some nowUs
  | _ => none

namespace CommandExecutor

def call (executor : CommandExecutor) : ExecutorCall → CommandExecutor × Option ExecutorResult
  | .submit command nowUs started =>
    ((executor.submit command nowUs started).1, some (executor.submit command nowUs started).2)
  | .reject failure => ((executor.reject failure).1, some (executor.reject failure).2)
  | .poll nowUs polled bytesAccepted =>
    ((executor.poll nowUs polled bytesAccepted).1,
      some (executor.poll nowUs polled bytesAccepted).2)
  | .responseSent => (executor.responseSent, none)
  | .cancelEpoch => (executor.cancelEpoch.1, none)

/-- The executor after calls. -/
def run (executor : CommandExecutor) (calls : List ExecutorCall) : CommandExecutor :=
  calls.foldl (fun executor c => (executor.call c).1) executor

/-- The results of calls. -/
def results (executor : CommandExecutor) : List ExecutorCall → List (Option ExecutorResult)
  | [] => []
  | c :: calls => (executor.call c).2 :: results (executor.call c).1 calls

end CommandExecutor

/-- The clock values read by calls never go back. -/
def ClockMonotone (calls : List ExecutorCall) : Prop :=
  (calls.filterMap ExecutorCall.nowUs?).Pairwise (· ≤ ·)

/-! ## Every call keeps the outputs safe -/

section Safe

-- What a response says does not matter here, only that one is staged.
attribute [local irreducible] timestampResponseEncode uartSendResponseEncode errorResponseEncode

/-- The executor's state tells whether the pulse slot is taken, on a configured channel. -/
structure ExecutorSafe (executor : CommandExecutor) : Prop where
  control : ControlSafe executor.control
  pulse : executor.control.pulse.active = true ↔ executor.state = .controlPulse
  configured : executor.control.pulse.active = true →
    (executor.control.channels executor.control.pulse.channel).configured = true

namespace ExecutorSafe

variable {executor : CommandExecutor}

theorem init (outcome : ℕ → Bool) : ExecutorSafe (.init outcome) where
  control := ⟨trivial, fun _ => ⟨nofun, fun _ => rfl, nofun, nofun⟩⟩
  pulse := ⟨nofun, nofun⟩
  configured := nofun

theorem idle_of_pulse (h : ExecutorSafe executor) (hstate : executor.state ≠ .controlPulse) :
    executor.control.pulse.active = false := by
  cases hactive : executor.control.pulse.active with
  | false => rfl
  | true => exact absurd (h.pulse.mp hactive) hstate

/-- A staged response leaves the control as it is, with no pulse running. -/
theorem responseEncoded (executor : CommandExecutor) (encoded : Except EncodeError (List UInt8)) :
    (executor.responseEncoded encoded).1.control = executor.control ∧
      (executor.responseEncoded encoded).1.state ≠ .controlPulse := by
  cases encoded <;> exact ⟨rfl, nofun⟩

/-- An operation that leaves no pulse running, with its response. -/
theorem of_staged {executor' : CommandExecutor}
    (hcontrol : ControlSafe executor'.control) (hactive : executor'.control.pulse.active = false)
    (hstate : executor'.state ≠ .controlPulse) : ExecutorSafe executor' where
  control := hcontrol
  pulse := ⟨fun h => absurd (hactive.symm.trans h) nofun, fun h => absurd h hstate⟩
  configured h := absurd (hactive.symm.trans h) nofun

end ExecutorSafe

/-- What a call does to the executor: its port calls, and what it keeps safe. -/
structure Called (executor executor' : CommandExecutor) : Prop where
  operated : Operated executor.control executor'.control
  safe : ExecutorSafe executor'

namespace Called

variable {executor executor' : CommandExecutor}

theorem refl (h : ExecutorSafe executor) : Called executor executor := ⟨.refl _, h⟩

theorem of_staged (h : ExecutorSafe executor) (hoperated : Operated executor.control executor'.control)
    (hactive : executor'.control.pulse.active = false) (hstate : executor'.state ≠ .controlPulse) :
    Called executor executor' :=
  ⟨hoperated, .of_staged (hoperated.safe h.control) hactive hstate⟩

/-- A control operation with its response. -/
theorem responded (h : ExecutorSafe executor) {control : Control}
    (hoperated : Operated executor.control control) (hactive : control.pulse.active = false)
    (encoded : Except EncodeError (List UInt8)) :
    Called executor
      (CommandExecutor.responseEncoded { executor with control := control } encoded).1 := by
  obtain ⟨hcontrol, hstaged⟩ :=
    ExecutorSafe.responseEncoded { executor with control := control } encoded
  exact of_staged h (by rw [hcontrol]; exact hoperated) (by rw [hcontrol]; exact hactive) hstaged

/-- A response is staged and nothing else happens. -/
theorem staged (h : ExecutorSafe executor) (hstate : executor.state ≠ .controlPulse)
    (encoded : Except EncodeError (List UInt8)) :
    Called executor (executor.responseEncoded encoded).1 :=
  responded h (.refl _) (h.idle_of_pulse hstate) encoded

theorem mapped (h : ExecutorSafe executor) {control : Control} (result : ControlResult)
    (channel : ℕ) (timestampUs : UInt64) (hoperated : Operated executor.control control)
    (hactive : control.pulse.active = false) :
    Called executor
      (CommandExecutor.mapControlResult { executor with control := control } result channel
        timestampUs).1 := by
  cases result <;> exact responded h hoperated hactive _

theorem submitPulse (h : ExecutorSafe executor) (hidle : executor.state = .idle) (channel : ℕ)
    (pulseMs : UInt32) (nowUs : UInt64) :
    Called executor (executor.submitPulse channel pulseMs nowUs).1 := by
  have hactive := h.idle_of_pulse (by rw [hidle]; nofun)
  have hoperated := Operated.pulseStart executor.control channel pulseMs nowUs
  have hcases := executor.control.pulseStart_cases channel pulseMs nowUs
  unfold CommandExecutor.submitPulse
  rcases hstart : executor.control.pulseStart channel pulseMs nowUs with ⟨control, result⟩
  rw [hstart] at hoperated hcases
  rcases hcases with ⟨hpending, hpulse, hconfigured, _⟩ | ⟨hresult, hpulse⟩
  · obtain rfl : result = .pending := hpending
    refine ⟨hoperated, hoperated.safe h.control, ⟨fun _ => rfl, fun _ => ?_⟩, fun _ => ?_⟩
    · exact congrArg ControlPulse.active hpulse
    · have hchannel : control.pulse.channel = channel := congrArg ControlPulse.channel hpulse
      show (control.channels control.pulse.channel).configured = true
      rw [hchannel]
      exact hconfigured
  · have hmapped := mapped h result channel nowUs hoperated
      ((congrArg ControlPulse.active hpulse).trans hactive)
    cases result with
    | pending => exact absurd rfl hresult
    | ok => exact hmapped
    | invalidArgument => exact hmapped
    | notConfigured => exact hmapped
    | hardwareFault => exact hmapped

theorem submit (h : ExecutorSafe executor) (command : Command) (nowUs : UInt64)
    (started : UartTxResult) : Called executor (executor.submit command nowUs started).1 := by
  unfold CommandExecutor.submit
  split
  · exact .refl h
  rename_i hidle
  have hidle : executor.state = .idle := not_not.mp hidle
  have hstate : executor.state ≠ .controlPulse := by rw [hidle]; nofun
  have hactive := h.idle_of_pulse hstate
  cases command with
  | none => exact staged h hstate _
  | configureGpioMode channel mode activeLevel hasIdleLevel idleLevel =>
    have hpulse := executor.control.configure_pulse channel mode activeLevel hasIdleLevel idleLevel
    exact mapped h _ channel nowUs
      (.configure executor.control channel mode activeLevel hasIdleLevel idleLevel)
      ((congrArg ControlPulse.active hpulse).trans hactive)
  | pulseControl channel pulseMs => exact submitPulse h hidle channel pulseMs nowUs
  | setControlState channel target =>
    have hpulse := executor.control.setState_pulse channel target
    exact mapped h _ channel nowUs (.setState executor.control channel target)
      ((congrArg ControlPulse.active hpulse).trans hactive)
  | uartSend data =>
    have hpending : Called executor { executor with state := .uartTx } :=
      of_staged h (.refl _) hactive nofun
    cases started with
    | pending => exact hpending
    | completed => exact staged h hstate _
    | invalidArgument => exact staged h hstate _
    | idle => exact staged h hstate _
    | busy => exact staged h hstate _
    | timeout => exact staged h hstate _
    | hardwareFault => exact staged h hstate _

theorem reject (h : ExecutorSafe executor) (failure : CommandDecodeFailure) :
    Called executor (executor.reject failure).1 := by
  unfold CommandExecutor.reject
  split
  · exact .refl h
  rename_i hidle
  have hstate : executor.state ≠ .controlPulse := by rw [not_not.mp hidle]; nofun
  cases failure <;> exact staged h hstate _

theorem pollPulse (h : ExecutorSafe executor) (hstate : executor.state = .controlPulse)
    (nowUs : UInt64) (polled : UartTxResult) (bytesAccepted : UInt64) :
    Called executor (executor.poll nowUs polled bytesAccepted).1 := by
  have hoperated := Operated.poll executor.control nowUs h.configured
  have hcases := executor.control.poll_cases nowUs
  unfold CommandExecutor.poll
  split
  · rcases hpoll : executor.control.poll nowUs with ⟨control, result⟩
    rw [hpoll] at hoperated hcases
    rcases hcases with ⟨hsame, _⟩ | ⟨_, _, hactive, hresult⟩
    · obtain ⟨rfl, rfl⟩ := Prod.mk.inj hsame
      exact .refl h
    · rcases hresult with ⟨hcompleted, _⟩ | hfault
      · obtain rfl : result = .completed := hcompleted
        exact responded h hoperated hactive _
      · obtain rfl : result = .hardwareFault := hfault
        exact responded h hoperated hactive _
  all_goals
    rename_i hother
    exact absurd (hother.symm.trans hstate) nofun

theorem poll (h : ExecutorSafe executor) (nowUs : UInt64) (polled : UartTxResult)
    (bytesAccepted : UInt64) : Called executor (executor.poll nowUs polled bytesAccepted).1 := by
  by_cases hpulse : executor.state = .controlPulse
  · exact pollPulse h hpulse nowUs polled bytesAccepted
  unfold CommandExecutor.poll
  split
  · rename_i hstate
    exact absurd hstate hpulse
  · cases polled with
    | completed => exact staged h hpulse _
    | timeout => exact staged h hpulse _
    | hardwareFault => exact staged h hpulse _
    | pending => exact .refl h
    | idle => exact .refl h
    | busy => exact .refl h
    | invalidArgument => exact .refl h
  · exact .refl h
  · exact .refl h

theorem call (h : ExecutorSafe executor) (c : ExecutorCall) :
    Called executor (executor.call c).1 := by
  cases c with
  | submit command nowUs started => exact submit h command nowUs started
  | reject failure => exact reject h failure
  | poll nowUs polled bytesAccepted => exact poll h nowUs polled bytesAccepted
  | responseSent =>
    show Called executor executor.responseSent
    unfold CommandExecutor.responseSent
    split
    · rename_i hresponse
      exact of_staged h (.refl _) (h.idle_of_pulse (by rw [hresponse]; nofun)) nofun
    · exact .refl h
  | cancelEpoch => exact of_staged h (.endEpoch _) (Control.endEpoch_pulse _) nofun

end Called

theorem ExecutorSafe.run {executor : CommandExecutor} (h : ExecutorSafe executor)
    (calls : List ExecutorCall) : ExecutorSafe (executor.run calls) := by
  induction calls generalizing executor with
  | nil => exact h
  | cons c calls ih => exact ih (Called.call h c).safe

/-! ## Pulses -/

/-- A pulse is running on a channel since `startedUs`. -/
structure PulseRuns (executor : CommandExecutor) (channel : ℕ) (pulseMs : UInt32)
    (startedUs : UInt64) : Prop where
  state : executor.state = .controlPulse
  pulse : executor.control.pulse = ⟨true, channel, startedUs, pulseMs.toUInt64 * 1000⟩
  bound : pulseMs.toNat ≤ controlPulseMaxMs

theorem PulseRuns.of_pending {executor : CommandExecutor} {channel : ℕ} {pulseMs : UInt32}
    {nowUs : UInt64} {started : UartTxResult}
    (h : (executor.submit (.pulseControl channel pulseMs) nowUs started).2 = .pending) :
    PulseRuns (executor.submit (.pulseControl channel pulseMs) nowUs started).1 channel pulseMs
      nowUs := by
  have hcases := executor.control.pulseStart_cases channel pulseMs nowUs
  unfold CommandExecutor.submit at h ⊢
  split at h
  · cases h
  rename_i hidle
  rw [if_neg hidle]
  dsimp only at h ⊢
  unfold CommandExecutor.submitPulse at h ⊢
  rcases hstart : executor.control.pulseStart channel pulseMs nowUs with ⟨control, result⟩
  rw [hstart] at hcases h
  rcases hcases with ⟨hpending, hpulse, _, hbound⟩ | ⟨hresult, _⟩
  · obtain rfl : result = .pending := hpending
    exact ⟨rfl, hpulse, hbound⟩
  · exfalso
    have hstaged : ∀ encoded, (CommandExecutor.responseEncoded
        { executor with control := control } encoded).2 ≠ .pending := by
      intro encoded
      cases encoded <;> nofun
    cases result with
    | pending => exact hresult rfl
    | ok => exact hstaged _ h
    | invalidArgument => exact hstaged _ h
    | notConfigured => exact hstaged _ h
    | hardwareFault => exact hstaged _ h

/-- The clock has run for as long as the pulse lasts. -/
theorem pulse_due_iff {pulseMs : UInt32} {startedUs nowUs : UInt64}
    (hbound : pulseMs.toNat ≤ controlPulseMaxMs) (hclock : startedUs ≤ nowUs) :
    nowUs - startedUs < pulseMs.toUInt64 * 1000
      ↔ nowUs.toNat < startedUs.toNat + pulseMs.toNat * 1000 := by
  have hle : startedUs.toNat ≤ nowUs.toNat := UInt64.le_iff_toNat_le.mp hclock
  have hduration : (pulseMs.toUInt64 * 1000).toNat = pulseMs.toNat * 1000 := by
    unfold controlPulseMaxMs at hbound
    rw [UInt64.toNat_mul, UInt32.toNat_toUInt64]
    have hthousand : (1000 : UInt64).toNat = 1000 := rfl
    rw [hthousand, Nat.mod_eq_of_lt (by omega)]
  rw [UInt64.lt_iff_toNat_lt, UInt64.toNat_sub_of_le _ _ hclock, hduration]
  omega

namespace CommandExecutor

variable {executor : CommandExecutor}

theorem submit_busy (h : executor.state ≠ .idle) (command : Command) (nowUs : UInt64)
    (started : UartTxResult) : executor.submit command nowUs started = (executor, .busy) :=
  if_pos h

theorem reject_busy (h : executor.state ≠ .idle) (failure : CommandDecodeFailure) :
    executor.reject failure = (executor, .busy) :=
  if_pos h

theorem responseSent_other (h : executor.state ≠ .response) : executor.responseSent = executor :=
  if_neg h

theorem poll_response (h : executor.state = .response) (nowUs : UInt64) (polled : UartTxResult)
    (bytesAccepted : UInt64) :
    executor.poll nowUs polled bytesAccepted = (executor, .responseReady) := by
  unfold poll
  rw [h]

theorem poll_notDue (h : executor.state = .controlPulse) {nowUs : UInt64}
    (hpoll : executor.control.poll nowUs = (executor.control, .none)) (polled : UartTxResult)
    (bytesAccepted : UInt64) :
    executor.poll nowUs polled bytesAccepted = (executor, .pending) := by
  unfold poll
  split
  · rw [hpoll]
  all_goals
    rename_i hother
    exact absurd (hother.symm.trans h) nofun

end CommandExecutor

/-- While a pulse runs nothing but its end or that of the epoch happens. -/
theorem PulseRuns.waits {executor : CommandExecutor} {channel : ℕ} {pulseMs : UInt32}
    {startedUs : UInt64} (h : PulseRuns executor channel pulseMs startedUs) {c : ExecutorCall}
    (hcancel : c ≠ .cancelEpoch) (hclock : ∀ nowUs ∈ c.nowUs?, startedUs ≤ nowUs)
    (hearly : ∀ nowUs polled bytesAccepted, c = .poll nowUs polled bytesAccepted →
      nowUs.toNat < startedUs.toNat + pulseMs.toNat * 1000) :
    (executor.call c).1 = executor ∧ (executor.call c).2 ≠ some .responseReady := by
  have hbusy : executor.state ≠ .idle := by rw [h.state]; nofun
  cases c with
  | submit command nowUs started =>
    rw [CommandExecutor.call, CommandExecutor.submit_busy hbusy]
    exact ⟨rfl, nofun⟩
  | reject failure =>
    rw [CommandExecutor.call, CommandExecutor.reject_busy hbusy]
    exact ⟨rfl, nofun⟩
  | responseSent =>
    rw [CommandExecutor.call, CommandExecutor.responseSent_other (by rw [h.state]; nofun)]
    exact ⟨rfl, nofun⟩
  | cancelEpoch => exact absurd rfl hcancel
  | poll nowUs polled bytesAccepted =>
    have hnotDue := (pulse_due_iff h.bound (hclock nowUs rfl)).mpr (hearly _ _ _ rfl)
    have hpoll : executor.control.poll nowUs = (executor.control, .none) := by
      rcases executor.control.poll_cases nowUs with ⟨hnone, _⟩ | ⟨_, hdue, _⟩
      · exact hnone
      · rw [h.pulse] at hdue
        exact absurd hnotDue (UInt64.not_lt.mpr hdue)
    rw [CommandExecutor.call, CommandExecutor.poll_notDue h.state hpoll]
    exact ⟨rfl, nofun⟩

theorem PulseRuns.waits_all {executor : CommandExecutor} {channel : ℕ} {pulseMs : UInt32}
    {startedUs : UInt64} (h : PulseRuns executor channel pulseMs startedUs)
    {calls : List ExecutorCall} (hcancel : .cancelEpoch ∉ calls)
    (hclock : ∀ nowUs ∈ calls.filterMap ExecutorCall.nowUs?, startedUs ≤ nowUs)
    (hearly : ∀ nowUs polled bytesAccepted, .poll nowUs polled bytesAccepted ∈ calls →
      nowUs.toNat < startedUs.toNat + pulseMs.toNat * 1000) :
    executor.run calls = executor ∧ some .responseReady ∉ executor.results calls := by
  induction calls with
  | nil => exact ⟨rfl, nofun⟩
  | cons c calls ih =>
    obtain ⟨hsame, hquiet⟩ := h.waits (c := c)
      (fun heq => hcancel (heq ▸ List.mem_cons_self))
      (fun nowUs hnow => hclock nowUs (List.mem_filterMap.mpr ⟨c, List.mem_cons_self, hnow⟩))
      (fun nowUs polled bytesAccepted heq =>
        hearly nowUs polled bytesAccepted (heq ▸ List.mem_cons_self))
    have hrest := ih (fun hmem => hcancel (List.mem_cons_of_mem _ hmem))
      (fun nowUs hnow => hclock nowUs (by
        obtain ⟨c', hc', heq⟩ := List.mem_filterMap.mp hnow
        exact List.mem_filterMap.mpr ⟨c', List.mem_cons_of_mem _ hc', heq⟩))
      (fun nowUs polled bytesAccepted hmem =>
        hearly nowUs polled bytesAccepted (List.mem_cons_of_mem _ hmem))
    constructor
    · show (executor.call c).1.run calls = executor
      rw [hsame]
      exact hrest.1
    · rw [CommandExecutor.results, hsame, List.mem_cons, not_or]
      exact ⟨Ne.symm hquiet, hrest.2⟩

/-- The channel is idle again, or the response is a hardware fault. -/
def EndsPulse (ended : CommandExecutor) (configuration : ControlChannel) (channel : ℕ)
    (nowUs : UInt64) : Prop :=
  (timestampResponseEncode nowUs commandResponseFrameCapacity = .ok ended.response ∧
      ended.control.port.faulted channel = false ∧
      ended.control.port.drive channel = configuration.configuredDrive .idle) ∨
    errorResponseEncode .hardwareFault controlFaultDetail commandResponseFrameCapacity
      = .ok ended.response

theorem controlFault_encodes : ∃ frame,
    errorResponseEncode .hardwareFault controlFaultDetail commandResponseFrameCapacity
      = .ok frame :=
  ⟨_, errorResponseEncode_eq _ (by decide) (by decide) (by decide +kernel)⟩

/-- The first poll at which a pulse is due ends it with a response. -/
theorem PulseRuns.ends {executor : CommandExecutor} {channel : ℕ} {pulseMs : UInt32}
    {startedUs nowUs : UInt64} (h : PulseRuns executor channel pulseMs startedUs)
    (hclock : startedUs ≤ nowUs) (hdue : startedUs.toNat + pulseMs.toNat * 1000 ≤ nowUs.toNat)
    (polled : UartTxResult) (bytesAccepted : UInt64) :
    (executor.poll nowUs polled bytesAccepted).2 = .responseReady ∧
      (executor.poll nowUs polled bytesAccepted).1.state = .response ∧
      EndsPulse (executor.poll nowUs polled bytesAccepted).1 (executor.control.channels channel)
        channel nowUs := by
  have hchannel : executor.control.pulse.channel = channel := by rw [h.pulse]
  have hcases := executor.control.poll_cases nowUs
  unfold CommandExecutor.poll
  split
  · rcases hpoll : executor.control.poll nowUs with ⟨control, result⟩
    rw [hpoll, hchannel] at hcases
    rcases hcases with ⟨_, hnotDue⟩ | ⟨_, _, _, hresult⟩
    · exfalso
      rw [h.pulse] at hnotDue
      rcases hnotDue with hnotDue | hnotDue
      · cases hnotDue
      · have hlt := (pulse_due_iff h.bound hclock).mp hnotDue
        omega
    · rcases hresult with ⟨hcompleted, hfaulted, hdrive⟩ | hfault
      · obtain rfl : result = .completed := hcompleted
        dsimp only
        unfold CommandExecutor.stageTimestamp CommandExecutor.responseEncoded
        have hencoded := timestampResponseEncode_eq nowUs
        rw [hencoded]
        exact ⟨rfl, rfl, .inl ⟨hencoded, hfaulted, hdrive⟩⟩
      · obtain rfl : result = .hardwareFault := hfault
        obtain ⟨frame, hencoded⟩ := controlFault_encodes
        dsimp only
        unfold CommandExecutor.stageError CommandExecutor.responseEncoded
        rw [hencoded]
        exact ⟨rfl, rfl, .inr hencoded⟩
  all_goals
    rename_i hother
    exact absurd (hother.symm.trans h.state) nofun

/-- A staged response stays until it is sent or the epoch ends. -/
theorem CommandExecutor.response_stays {executor : CommandExecutor}
    (hstate : executor.state = .response) {calls : List ExecutorCall}
    (hsent : .responseSent ∉ calls) (hcancel : .cancelEpoch ∉ calls) :
    executor.run calls = executor := by
  induction calls with
  | nil => rfl
  | cons c calls ih =>
    have hbusy : executor.state ≠ .idle := by rw [hstate]; nofun
    have hsame : (executor.call c).1 = executor := by
      cases c with
      | submit command nowUs started => exact congrArg Prod.fst (submit_busy hbusy ..)
      | reject failure => exact congrArg Prod.fst (reject_busy hbusy _)
      | poll nowUs polled bytesAccepted => exact congrArg Prod.fst (poll_response hstate ..)
      | responseSent => exact absurd List.mem_cons_self hsent
      | cancelEpoch => exact absurd List.mem_cons_self hcancel
    show (executor.call c).1.run calls = executor
    rw [hsame]
    exact ih (fun hmem => hsent (List.mem_cons_of_mem _ hmem))
      (fun hmem => hcancel (List.mem_cons_of_mem _ hmem))

/-! ## Runs -/

theorem CommandExecutor.run_append (executor : CommandExecutor) (before after : List ExecutorCall) :
    executor.run (before ++ after) = (executor.run before).run after :=
  List.foldl_append

theorem CommandExecutor.results_append (executor : CommandExecutor)
    (before after : List ExecutorCall) :
    executor.results (before ++ after)
      = executor.results before ++ (executor.run before).results after := by
  induction before generalizing executor with
  | nil => rfl
  | cons c before ih => exact congrArg (_ :: ·) (ih _)

/-- A pulse started by `submit` is over at the poll, with one response for it. -/
structure PulseAnswered (started ended : CommandExecutor) (results : List (Option ExecutorResult))
    (channel : ℕ) (nowUs : UInt64) : Prop where
  once : ∃ waited, results = waited ++ [some .responseReady] ∧ some .responseReady ∉ waited
  state : ended.state = .response
  ends : EndsPulse ended (started.control.channels channel) channel nowUs
  stays : ∀ calls : List ExecutorCall, .responseSent ∉ calls → .cancelEpoch ∉ calls →
    ended.run calls = ended

/-- In every run of calls the control outputs are safe; a channel a call failed on after
disabling it is left disabled; and the first poll at which a pulse is due answers it. -/
theorem CommandExecutor.outputs_safe (outcome : ℕ → Bool) (calls : List ExecutorCall)
    (hclock : ClockMonotone calls) :
    ControlSafe ((init outcome).run calls).control ∧
      (∀ c, ∃ block, (((init outcome).run calls).call c).1.control.port.log
          = block ++ ((init outcome).run calls).control.port.log ∧
        ∀ channel, FailedAfterDisable channel block →
          (((init outcome).run calls).call c).1.control.port.enabled channel = false) ∧
      ∀ before channel pulseMs startedUs started waiting nowUs polled bytesAccepted,
        calls = before ++ .submit (.pulseControl channel pulseMs) startedUs started ::
          (waiting ++ [.poll nowUs polled bytesAccepted]) →
        (((init outcome).run before).submit (.pulseControl channel pulseMs) startedUs started).2
          = .pending →
        .cancelEpoch ∉ waiting →
        (∀ earlierUs polled bytesAccepted, .poll earlierUs polled bytesAccepted ∈ waiting →
          earlierUs.toNat < startedUs.toNat + pulseMs.toNat * 1000) →
        startedUs.toNat + pulseMs.toNat * 1000 ≤ nowUs.toNat →
        PulseAnswered
          (((init outcome).run before).submit (.pulseControl channel pulseMs) startedUs started).1
          ((init outcome).run calls)
          (((init outcome).run before).results
            (.submit (.pulseControl channel pulseMs) startedUs started ::
              (waiting ++ [.poll nowUs polled bytesAccepted])))
          channel nowUs := by
  have hsafe := (ExecutorSafe.init outcome).run calls
  refine ⟨hsafe.control, fun c => (Called.call hsafe c).operated.calls, ?_⟩
  rintro before channel pulseMs startedUs started waiting nowUs polled bytesAccepted rfl hpending
    hcancel hearly hdue
  have hruns := PulseRuns.of_pending hpending
  -- The clock of the pulse's calls starts at the submit.
  have hlater : ∀ laterUs ∈ (waiting ++ [ExecutorCall.poll nowUs polled bytesAccepted]).filterMap
      ExecutorCall.nowUs?, startedUs ≤ laterUs := by
    rw [ClockMonotone, List.filterMap_append, List.filterMap_cons] at hclock
    exact (List.pairwise_cons.mp (List.pairwise_append.mp hclock).2.1).1
  obtain ⟨hwaited, hquiet⟩ := hruns.waits_all hcancel
    (fun laterUs hmem => hlater laterUs (by
      rw [List.filterMap_append]
      exact List.mem_append_left _ hmem)) hearly
  have hlast : startedUs ≤ nowUs := hlater nowUs (by
    rw [List.filterMap_append]
    exact List.mem_append_right _ List.mem_cons_self)
  obtain ⟨hready, hstate, hends⟩ := hruns.ends hlast hdue polled bytesAccepted
  have hended : (init outcome).run (before ++ .submit (.pulseControl channel pulseMs) startedUs
      started :: (waiting ++ [.poll nowUs polled bytesAccepted]))
      = ((((init outcome).run before).submit (.pulseControl channel pulseMs) startedUs
          started).1.poll nowUs polled bytesAccepted).1 := by
    rw [run_append]
    show (CommandExecutor.run (((init outcome).run before).submit (.pulseControl channel pulseMs)
      startedUs started).1 (waiting ++ _)) = _
    rw [run_append, hwaited]
    rfl
  rw [hended]
  refine ⟨⟨some .pending :: CommandExecutor.results (((init outcome).run before).submit
    (.pulseControl channel pulseMs) startedUs started).1 waiting, ?_, ?_⟩, hstate, hends,
    fun calls hsent hcancel => response_stays hstate hsent hcancel⟩
  · rw [results, CommandExecutor.call]
    dsimp only
    rw [hpending, results_append, hwaited, results, results, CommandExecutor.call, hready]
    rfl
  · rw [List.mem_cons, not_or]
    exact ⟨nofun, hquiet⟩

/-- A push-pull channel is pulsed for a millisecond over a port that never fails. -/
def pulseCalls : List ExecutorCall :=
  [.submit (.configureGpioMode 1 .pushPull .high true .low) 10 .idle, .responseSent,
    .submit (.pulseControl 1 1) 20 .idle, .poll 30 .idle 0, .poll 1020 .idle 0]

theorem CommandExecutor.outputs_safe_pulse :
    ClockMonotone pulseCalls ∧ ControlSafe ((init fun _ => true).run pulseCalls).control ∧
      ((init fun _ => true).run pulseCalls).state = .response := by
  have hclock : ClockMonotone pulseCalls := by
    unfold ClockMonotone
    decide
  obtain ⟨hsafe, _, hpulses⟩ := CommandExecutor.outputs_safe (fun _ => true) pulseCalls hclock
  have hanswered := hpulses (pulseCalls.take 2) 1 1 20 .idle [.poll 30 .idle 0] 1020 .idle 0 rfl
    (by decide +kernel) (by decide)
    (fun earlierUs polled bytesAccepted hmem => by
      cases List.mem_singleton.mp hmem
      decide)
    (by decide)
  exact ⟨hclock, hsafe, hanswered.state⟩

end Safe
