/-
# What the host and the firmware take to be driven

The host's registry, configurator and boot-mode state over the firmware's control outputs
of one connection epoch.  The firmware answers every command; an answer that is lost or
late ends the connection.  The two agree at every point of an epoch exactly when no role is
moved away from a channel that is still driven, and no stale boot mode survives an answer
that could not be stored.
-/
import DutchMate.CommandExecutor
import DutchMate.GpioRegistry

open OutputPins

/-! ## Answers of the firmware -/

inductive ControlAnswer where
  | success (timestampUs : UInt64)
  | failure (code : CommandErrorCode) (detail : List UInt8)
  deriving DecidableEq, Repr

def ControlAnswer.encode : ControlAnswer → Except EncodeError (List UInt8)
  | success timestampUs => timestampResponseEncode timestampUs commandResponseFrameCapacity
  | failure code detail => errorResponseEncode code detail commandResponseFrameCapacity

/-- What a control result is answered with. -/
def ControlResult.answer (channel : ℕ) (timestampUs : UInt64) : ControlResult → ControlAnswer
  | .ok => .success timestampUs
  | .invalidArgument => .failure .invalidArgument invalidArgumentDetail
  | .notConfigured => .failure .notConfigured (notConfiguredDetail channel)
  | _ => .failure .hardwareFault controlFaultDetail

/-- The executor stages that answer. -/
theorem CommandExecutor.mapControlResult_eq (executor : CommandExecutor) (result : ControlResult)
    (channel : ℕ) (timestampUs : UInt64) :
    executor.mapControlResult result channel timestampUs
      = executor.responseEncoded (result.answer channel timestampUs).encode := by
  cases result <;> unfold mapControlResult ControlResult.answer ControlAnswer.encode <;> rfl

namespace Control

/-- The polls of a running pulse, up to its answer. -/
def pollUntil (control : Control) : List UInt64 → Control × Option ControlAnswer
  | [] => (control, none)
  | nowUs :: polls =>
    match control.poll nowUs with
    | (control, .none) => control.pollUntil polls
    | (control, .completed) => (control, some (.success nowUs))
    | (control, .hardwareFault) =>
      (control, some (.failure .hardwareFault controlFaultDetail))

/-- A pulse with the polls that follow it. -/
def pulse? (control : Control) (channel : ℕ) (pulseMs : UInt32) (nowUs : UInt64)
    (polls : List UInt64) : Control × Option ControlAnswer :=
  match control.pulseStart channel pulseMs nowUs with
  | (control, .pending) => control.pollUntil polls
  | (control, result) => (control, some (result.answer channel nowUs))

end Control

/-! ## The host over the firmware -/

inductive BootMode where
  | normal
  | bootloader
  deriving DecidableEq, Repr

/-- The state a boot mode is commanded as. -/
def BootMode.target : BootMode → ControlTarget
  | normal => .idle
  | bootloader => .active

/-- Host and firmware; `commanded` keeps what the firmware was successfully commanded to. -/
structure GpioSystem where
  registry : GpioModeRegistry
  commandedBootMode : Option BootMode
  control : Control
  commanded : List (ℕ × ControlTarget)
  connected : Bool

/-- What a request meets: whether its audit records are stored and its answer arrives. -/
structure Exchange where
  attemptStored : Bool := true
  resultStored : Bool := true
  delivered : Bool := true
  nowUs : UInt64 := 0
  polls : List UInt64 := []
  clock : String := ""
  deriving DecidableEq, Repr

inductive GpioRequest where
  | configureGpioMode (request : ValidatedGpioConfiguration) (source : GpioModeRequestSource)
  | resetDut (pulseMs : UInt32)
  | setBootMode (mode : BootMode)
  deriving DecidableEq, Repr

/-- The state a channel was last successfully commanded to. -/
def lastTarget : List (ℕ × ControlTarget) → ℕ → Option ControlTarget
  | [], _ => none
  | (channel', target) :: commanded, channel =>
    if channel' = channel then some target else lastTarget commanded channel

def asciiText (bytes : List UInt8) : String := String.ofList (bytes.map fun b => Char.ofNat b.toNat)

namespace GpioSystem

/-- An epoch starts with nothing configured on either side. -/
def start (control : Control) : GpioSystem where
  registry := .invalidate
  commandedBootMode := none
  control := control
  commanded := []
  connected := true

variable (s : GpioSystem)

/-- The connection ends, and with it what the firmware acknowledged. -/
def lost (control : Control) : GpioSystem :=
  { s with
    registry := .invalidate
    commandedBootMode := none
    control := control
    connected := false }

/-- Whether a configuration request touches the boot role or its channel. -/
def affectsBootState (request : ValidatedGpioConfiguration) : Bool :=
  request.role = "boot" || match s.registry.findByRole "boot" with
    | some mapping => mapping.channel = request.channel
    | none => false

/-- `DeviceCoreRuntime._configure_gpio_mode`; a record that cannot be stored ends it. -/
def configureGpioMode (request : ValidatedGpioConfiguration) (source : GpioModeRequestSource)
    (exchange : Exchange) : GpioSystem :=
  if !exchange.attemptStored then s
  else
    let affectsBootState := s.affectsBootState request
    let (control, result) := s.control.configure request.channel.index request.mode
      request.activeLevel request.idleLevel.isSome (request.idleLevel.getD .low)
    if !exchange.delivered then s.lost control
    else
      match result.answer request.channel.index exchange.nowUs with
      | .success timestampUs =>
        let registry := s.registry.acceptMode request source exchange.clock
          (some timestampUs.toNat)
        let s :=
          { s with
            registry := registry
            control := control
            commanded := (request.channel.index, .idle) :: s.commanded }
        if !exchange.resultStored then s
        else if request.role = "boot" then { s with commandedBootMode := some .normal }
        else if registry.findByRole "boot" = none then { s with commandedBootMode := none }
        else s
      | .failure code detail =>
        match s.registry.rejectMode request source code.codeName (asciiText detail)
          exchange.clock with
        | .error _ => { s with control := control }
        | .ok registry =>
          let s := { s with registry := registry, control := control }
          if !exchange.resultStored then s
          else if affectsBootState && (code = .hardwareFault || code = .timeout) then
            { s with commandedBootMode := none }
          else s

/-- `DeviceCoreRuntime.reset_dut`. -/
def resetDut (pulseMs : UInt32) (exchange : Exchange) : GpioSystem :=
  match s.registry.requireRoleConfigured "reset" "reset" with
  | .error _ => s
  | .ok mapping =>
    if !exchange.attemptStored then s
    else
      let (control, answer) :=
        s.control.pulse? mapping.channel.index pulseMs exchange.nowUs exchange.polls
      if !exchange.delivered then s.lost control
      else
        match answer with
        | none => s.lost control
        | some (.success _) =>
          { s with
            control := control
            commanded := (mapping.channel.index, .idle) :: s.commanded }
        | some (.failure _ _) => { s with control := control }

/-- `DeviceCoreRuntime.set_boot_mode`. -/
def setBootMode (mode : BootMode) (exchange : Exchange) : GpioSystem :=
  match s.registry.requireRoleConfigured "boot" "set_boot_mode" with
  | .error _ => s
  | .ok mapping =>
    if !exchange.attemptStored then s
    else
      let (control, result) := s.control.setState mapping.channel.index mode.target
      if !exchange.delivered then s.lost control
      else
        match result.answer mapping.channel.index exchange.nowUs with
        | .success _ =>
          { s with
            control := control
            commanded := (mapping.channel.index, mode.target) :: s.commanded
            commandedBootMode := if exchange.resultStored then some mode else none }
        | .failure code _ =>
          { s with
            control := control
            commandedBootMode :=
              if exchange.resultStored && (code = .invalidArgument || code = .notConfigured) then
                s.commandedBootMode
              else none }

/-- One request of an epoch; there are none once the connection has ended. -/
def request (r : GpioRequest) (exchange : Exchange) : GpioSystem :=
  if !s.connected then s
  else
    match r with
    | .configureGpioMode request source => s.configureGpioMode request source exchange
    | .resetDut pulseMs => s.resetDut pulseMs exchange
    | .setBootMode mode => s.setBootMode mode exchange

def run (requests : List (GpioRequest × Exchange)) : GpioSystem :=
  requests.foldl (fun s r => s.request r.1 r.2) s

end GpioSystem

/-! ## Agreement -/

/-- The firmware holds a channel for what the host does. -/
def ConfiguredAlike (state : GpioControlChannelState) (channel : ControlChannel) : Prop :=
  channel.configured = true ∧ state.mode = some channel.mode ∧
    state.activeLevel = some channel.activeLevel ∧
    state.idleLevel = if channel.hasIdleLevel then some channel.idleLevel else none

/-- What a connected host reports is so. -/
structure GpioSystem.Agrees (s : GpioSystem) : Prop where
  configured : ∀ c, (s.registry c).state = .configured →
    ConfiguredAlike (s.registry c) (s.control.channels c.index)
  released : ∀ c, (s.registry c).state ≠ .configured → s.control.port.enabled c.index = false
  boot : ∀ mode, s.commandedBootMode = some mode → ∃ mapping,
    s.registry.findByRole "boot" = some mapping ∧
      lastTarget s.commanded mapping.channel.index = some mode.target

/-- Host and firmware agree at every point of an epoch, until its connection ends. -/
def AgreesThroughout (s : GpioSystem) (requests : List (GpioRequest × Exchange)) : Prop :=
  ∀ before, before <+: requests → (s.run before).connected = true → (s.run before).Agrees

/-- The port takes an attempt to drive a channel. -/
def ControlPort.accepts (port : ControlPort) (drive : ControlDrive) : Bool :=
  port.outcome port.log.length && port.outcome (port.log.length + 1)
    && (drive = .highZ || port.outcome (port.log.length + 2))

/-- The drive a request asks for. -/
def ValidatedGpioConfiguration.idleDrive (request : ValidatedGpioConfiguration) : ControlDrive :=
  match request.mode, request.idleLevel with
  | .openDrain, _ => .highZ
  | .pushPull, some .high => .high
  | .pushPull, _ => .low

/-- A configuration request is sent, taken by the firmware and answered. -/
def GpioSystem.Accepted (s : GpioSystem) (request : ValidatedGpioConfiguration)
    (exchange : Exchange) : Prop :=
  s.connected = true ∧ exchange.attemptStored = true ∧ exchange.delivered = true ∧
    configurationValid request.mode request.activeLevel request.idleLevel.isSome
      (request.idleLevel.getD .low) = true ∧
    s.control.port.accepts request.idleDrive = true

/-- An accepted configuration moves no role away from a channel that is driven and, if its
result is not stored, leaves no boot mode that is no longer so. -/
def GpioSystem.Harmless (s : GpioSystem) : GpioRequest → Exchange → Prop
  | .configureGpioMode request _, exchange =>
    s.Accepted request exchange →
      (∀ c, c ≠ request.channel → (s.registry c).role = some request.role →
        s.control.port.enabled c.index = false) ∧
      (exchange.resultStored = false → ∀ mode, s.commandedBootMode = some mode →
        if request.role = "boot" then mode = .normal
        else ∀ mapping, s.registry.findByRole "boot" = some mapping →
          mapping.channel ≠ request.channel)
  | _, _ => True

def HarmlessThroughout : GpioSystem → List (GpioRequest × Exchange) → Prop
  | _, [] => True
  | s, r :: requests => s.Harmless r.1 r.2 ∧ HarmlessThroughout (s.request r.1 r.2) requests

/-- An epoch is entered with every channel released. -/
def Control.Fresh (control : Control) : Prop :=
  ∀ c : GpioControlChannel, control.port.enabled c.index = false

/-! ## Attempts to drive a channel -/

theorem driveApply_accepts (port : ControlPort) (channel : ℕ) (drive : ControlDrive) :
    (driveApply port channel drive).2 = port.accepts drive := by
  unfold driveApply ControlPort.accepts
  dsimp only [ControlPort.setEnable, ControlPort.setData, ControlPort.write, List.length_cons]
  cases port.outcome port.log.length with
  | false => rfl
  | true =>
    cases port.outcome (port.log.length + 1) with
    | false => rfl
    | true =>
      by_cases hdrive : drive = .highZ
      · subst hdrive
        rfl
      · rw [if_neg (by simp), if_neg (by simp [hdrive])]
        cases port.outcome (port.log.length + 1 + 1) with
        | false => simp [hdrive]
        | true => simp

namespace Control

/-- One channel was driven anew, within its configuration. -/
structure Redriven (index : ℕ) (control control' : Control) : Prop where
  other : ∀ c, c ≠ index →
    control'.channels c = control.channels c ∧ control'.port.enabled c = control.port.enabled c
  drive : ∃ drive, control'.channels index = { control.channels index with drive := drive }

variable {index : ℕ} {control control' control'' : Control}

theorem Redriven.refl : Redriven index control control where
  other _ _ := ⟨rfl, rfl⟩
  drive := ⟨(control.channels index).drive, rfl⟩

theorem Redriven.trans (h : Redriven index control control')
    (h' : Redriven index control' control'') : Redriven index control control'' where
  other c hc := ⟨(h'.other c hc).1.trans (h.other c hc).1, (h'.other c hc).2.trans (h.other c hc).2⟩
  drive := by
    obtain ⟨drive, hdrive⟩ := h.drive
    obtain ⟨drive', hdrive'⟩ := h'.drive
    exact ⟨drive', by rw [hdrive', hdrive]⟩

/-- An attempt on one channel leaves the pins of the others. -/
theorem enabled_attempt {port : ControlPort} {drive : ControlDrive} {ok : Bool}
    {block : PinLog ℕ ControlLevel} (h : Attempt index drive block ok) {c : ℕ} (hc : c ≠ index) :
    (port.issued block).enabled c = port.enabled c := by
  refine enabled_append_spared fun entry hentry => ?_
  rw [h.channel_eq entry hentry]
  exact Ne.symm hc

theorem redriven_attempt {drive drive' : ControlDrive} {ok : Bool}
    {block : PinLog ℕ ControlLevel} (h : Attempt index drive block ok) :
    Redriven index control
      ({ control with port := control.port.issued block }.setDrive index drive') where
  other _ hc := ⟨if_neg hc, enabled_attempt h hc⟩
  drive := ⟨drive', if_pos rfl⟩

theorem redriven_applyConfiguredState (control : Control) (index : ℕ) (target : ControlTarget) :
    Redriven index control (control.applyConfiguredState index target).1 := by
  obtain ⟨block, hport, hattempt⟩ := driveApply_attempt control.port index
    ((control.channels index).configuredDrive target)
  unfold applyConfiguredState
  dsimp only
  rw [hport]
  split
  · exact redriven_attempt hattempt
  · exact redriven_attempt hattempt

theorem redriven_setState (control : Control) (index : ℕ) (target : ControlTarget) :
    Redriven index control (control.setState index target).1 := by
  unfold setState
  split
  · exact .refl
  split
  · exact .refl
  · exact redriven_applyConfiguredState control index target

theorem redriven_pulseStart (control : Control) (index : ℕ) (pulseMs : UInt32) (nowUs : UInt64) :
    Redriven index control (control.pulseStart index pulseMs nowUs).1 := by
  have happlied := redriven_applyConfiguredState control index .active
  unfold pulseStart
  split
  · exact .refl
  split
  · exact .refl
  generalize control.applyConfiguredState index .active = p at happlied ⊢
  obtain ⟨control', result⟩ := p
  cases result with
  | ok => exact ⟨happlied.other, happlied.drive⟩
  | pending => exact happlied
  | invalidArgument => exact happlied
  | notConfigured => exact happlied
  | hardwareFault => exact happlied

/-- A poll drives the pulse's channel only. -/
theorem redriven_poll (control : Control) (nowUs : UInt64) :
    Redriven control.pulse.channel control (control.poll nowUs).1 ∧
      (control.poll nowUs).1.pulse.channel = control.pulse.channel := by
  have happlied := redriven_applyConfiguredState
    { control with pulse := { control.pulse with active := false } } control.pulse.channel .idle
  have hpulse := (applyConfiguredState_spec
    { control with pulse := { control.pulse with active := false } } control.pulse.channel .idle).1
  unfold poll
  split
  · exact ⟨.refl, rfl⟩
  dsimp only
  generalize applyConfiguredState { control with pulse := { control.pulse with active := false } }
    control.pulse.channel .idle = p at happlied hpulse ⊢
  obtain ⟨control', result⟩ := p
  dsimp only at happlied hpulse
  have hsame : Redriven control.pulse.channel control control' := ⟨happlied.other, happlied.drive⟩
  cases result <;> exact ⟨hsame, by rw [hpulse]⟩

theorem redriven_pollUntil (control : Control) (polls : List UInt64) :
    Redriven control.pulse.channel control (control.pollUntil polls).1 := by
  induction polls generalizing control with
  | nil => exact .refl
  | cons nowUs polls ih =>
    obtain ⟨hpoll, hchannel⟩ := redriven_poll control nowUs
    unfold pollUntil
    generalize control.poll nowUs = p at hpoll hchannel ⊢
    obtain ⟨control', result⟩ := p
    dsimp only at hpoll hchannel
    cases result with
    | none => exact hpoll.trans (hchannel ▸ ih control')
    | completed => exact hpoll
    | hardwareFault => exact hpoll

theorem redriven_pulse? (control : Control) (index : ℕ) (pulseMs : UInt32) (nowUs : UInt64)
    (polls : List UInt64) : Redriven index control (control.pulse? index pulseMs nowUs polls).1 := by
  have hstart := redriven_pulseStart control index pulseMs nowUs
  have hcases := control.pulseStart_cases index pulseMs nowUs
  unfold pulse?
  generalize control.pulseStart index pulseMs nowUs = p at hstart hcases ⊢
  obtain ⟨control', result⟩ := p
  dsimp only at hstart hcases
  cases result with
  | pending =>
    rcases hcases with ⟨_, hpulse, _⟩ | ⟨hne, _⟩
    · have hpolls := redriven_pollUntil control' polls
      rw [hpulse] at hpolls
      exact hstart.trans hpolls
    · exact absurd rfl hne
  | ok => exact hstart
  | invalidArgument => exact hstart
  | notConfigured => exact hstart
  | hardwareFault => exact hstart

/-- A configuration request is taken as asked for, or leaves its channel's configuration and
does not enable it. -/
theorem configure_cases (control : Control) (c : GpioControlChannel) (mode : ControlMode)
    (activeLevel : ControlLevel) (hasIdleLevel : Bool) (idleLevel : ControlLevel) :
    ((control.configure c.index mode activeLevel hasIdleLevel idleLevel).2 = .ok ∧
        configurationValid mode activeLevel hasIdleLevel idleLevel = true ∧
        control.port.accepts (ControlChannel.configuredDrive
          ⟨true, mode, activeLevel, idleLevel, hasIdleLevel, .highZ⟩ .idle) = true ∧
        (∀ c', c' ≠ c.index →
          (control.configure c.index mode activeLevel hasIdleLevel idleLevel).1.channels c'
              = control.channels c' ∧
            (control.configure c.index mode activeLevel hasIdleLevel idleLevel).1.port.enabled c'
              = control.port.enabled c') ∧
        ∃ drive, (control.configure c.index mode activeLevel hasIdleLevel idleLevel).1.channels
          c.index = ⟨true, mode, activeLevel, idleLevel, hasIdleLevel, drive⟩) ∨
      ((control.configure c.index mode activeLevel hasIdleLevel idleLevel).2 ≠ .ok ∧
        ¬ (configurationValid mode activeLevel hasIdleLevel idleLevel = true ∧
          control.port.accepts (ControlChannel.configuredDrive
            ⟨true, mode, activeLevel, idleLevel, hasIdleLevel, .highZ⟩ .idle) = true) ∧
        Redriven c.index control
          (control.configure c.index mode activeLevel hasIdleLevel idleLevel).1 ∧
        (control.port.enabled c.index = false →
          (control.configure c.index mode activeLevel hasIdleLevel idleLevel).1.port.enabled c.index
            = false)) := by
  unfold configure
  split
  · rename_i hinvalid
    rw [GpioControlChannel.channelValid_index] at hinvalid
    refine .inr ⟨nofun, ?_, .refl, id⟩
    rintro ⟨hvalid, _⟩
    rw [hvalid] at hinvalid
    cases hinvalid
  rename_i hvalid
  simp only [GpioControlChannel.channelValid_index, Bool.not_true, Bool.false_or, Bool.not_eq_true',
    Bool.not_eq_false] at hvalid
  dsimp only
  generalize ControlChannel.configuredDrive
    ⟨true, mode, activeLevel, idleLevel, hasIdleLevel, .highZ⟩ .idle = drive
  obtain ⟨block, hport, hattempt⟩ := driveApply_attempt control.port c.index drive
  have haccepts := driveApply_accepts control.port c.index drive
  rw [hport]
  cases hok : (driveApply control.port c.index drive).2 with
  | true =>
    exact .inl ⟨rfl, hvalid, haccepts.symm.trans hok,
      fun c' hc => ⟨if_neg hc, enabled_attempt hattempt hc⟩, drive, if_pos rfl⟩
  | false =>
    refine .inr ⟨nofun, ?_, redriven_attempt hattempt, fun hdisabled => ?_⟩
    · rintro ⟨_, haccepted⟩
      exact absurd ((haccepted.symm.trans haccepts.symm).trans hok) nofun
    · rw [hok] at hattempt
      rcases hattempt.pins_of_failed control.port with hfloats | ⟨_, _, hsame⟩
      · exact hfloats
      · exact hsame.trans hdisabled

end Control

theorem ControlResult.answer_ok (channel : ℕ) (timestampUs : UInt64) :
    ControlResult.ok.answer channel timestampUs = .success timestampUs := rfl

/-- Only a request that was done is answered with a success. -/
theorem ControlResult.answer_failure {result : ControlResult} (h : result ≠ .ok) (channel : ℕ)
    (timestampUs : UInt64) :
    ∃ code detail, result.answer channel timestampUs = .failure code detail := by
  cases result with
  | ok => exact absurd rfl h
  | pending => exact ⟨_, _, rfl⟩
  | invalidArgument => exact ⟨_, _, rfl⟩
  | notConfigured => exact ⟨_, _, rfl⟩
  | hardwareFault => exact ⟨_, _, rfl⟩

/-! ## Requests -/

namespace GpioSystem

variable {s : GpioSystem} {request : ValidatedGpioConfiguration} {source : GpioModeRequestSource}
  {exchange : Exchange}

theorem idleDrive_eq (request : ValidatedGpioConfiguration) :
    request.idleDrive = ControlChannel.configuredDrive
      ⟨true, request.mode, request.activeLevel, request.idleLevel.getD .low,
        request.idleLevel.isSome, .highZ⟩ .idle := by
  unfold ValidatedGpioConfiguration.idleDrive ControlChannel.configuredDrive
  cases request.mode with
  | openDrain => rfl
  | pushPull =>
    cases request.idleLevel with
    | none => rfl
    | some level => cases level <;> rfl

/-- What an accepted configuration does. -/
structure Configured (s : GpioSystem) (request : ValidatedGpioConfiguration)
    (source : GpioModeRequestSource) (exchange : Exchange) (s' : GpioSystem) : Prop where
  accepted : s.connected = true → s.Accepted request exchange
  connected : s'.connected = s.connected
  registry : ∃ timestamp,
    s'.registry = s.registry.acceptMode request source exchange.clock timestamp
  other : ∀ c, c ≠ request.channel.index → s'.control.channels c = s.control.channels c ∧
    s'.control.port.enabled c = s.control.port.enabled c
  channel : ∃ drive, s'.control.channels request.channel.index
    = ⟨true, request.mode, request.activeLevel, request.idleLevel.getD .low,
        request.idleLevel.isSome, drive⟩
  commanded : s'.commanded = (request.channel.index, .idle) :: s.commanded
  boot : s'.commandedBootMode =
    if exchange.resultStored = false then s.commandedBootMode
    else if request.role = "boot" then some .normal
    else if s'.registry.findByRole "boot" = none then none
    else s.commandedBootMode

/-- What a rejected one does. -/
structure Rejected (s : GpioSystem) (request : ValidatedGpioConfiguration)
    (source : GpioModeRequestSource) (exchange : Exchange) (s' : GpioSystem) : Prop where
  rejected : ¬ s.Accepted request exchange
  connected : s'.connected = s.connected
  registry : s'.registry = s.registry ∨ ∃ error detail,
    s.registry.rejectMode request source error detail exchange.clock = .ok s'.registry
  redriven : s.control.Redriven request.channel.index s'.control
  disabled : s.control.port.enabled request.channel.index = false →
    s'.control.port.enabled request.channel.index = false
  commanded : s'.commanded = s.commanded
  boot : s'.commandedBootMode = s.commandedBootMode ∨ s'.commandedBootMode = none

theorem configureGpioMode_cases (s : GpioSystem) (request : ValidatedGpioConfiguration)
    (source : GpioModeRequestSource) (exchange : Exchange) :
    Configured s request source exchange (s.configureGpioMode request source exchange) ∨
      Rejected s request source exchange (s.configureGpioMode request source exchange) ∨
      (¬ s.Accepted request exchange ∧
        (s.configureGpioMode request source exchange).connected = false) := by
  have hconfigure := s.control.configure_cases request.channel request.mode request.activeLevel
    request.idleLevel.isSome (request.idleLevel.getD .low)
  unfold configureGpioMode
  split
  · rename_i hattempt
    rw [Bool.not_eq_true'] at hattempt
    refine .inr (.inl ⟨?_, rfl, .inl rfl, .refl, id, rfl, .inl rfl⟩)
    rintro ⟨_, hstored, _⟩
    exact absurd (hattempt.symm.trans hstored) nofun
  rename_i hattempt
  rw [Bool.not_eq_true', Bool.not_eq_false] at hattempt
  dsimp only
  rw [← idleDrive_eq] at hconfigure
  generalize s.control.configure request.channel.index request.mode request.activeLevel
    request.idleLevel.isSome (request.idleLevel.getD .low) = p at hconfigure ⊢
  obtain ⟨control, result⟩ := p
  dsimp only at hconfigure ⊢
  split
  · rename_i hlost
    rw [Bool.not_eq_true'] at hlost
    refine .inr (.inr ⟨?_, rfl⟩)
    rintro ⟨_, _, hdelivered, _⟩
    exact absurd (hlost.symm.trans hdelivered) nofun
  rename_i hdelivered
  rw [Bool.not_eq_true', Bool.not_eq_false] at hdelivered
  rcases hconfigure with ⟨rfl, hvalid, haccepts, hother, hchannel⟩
      | ⟨hfailed, hnot, hredriven, hdisabled⟩
  · rw [ControlResult.answer_ok]
    dsimp only
    have haccepted : s.connected = true → s.Accepted request exchange :=
      fun hconnected => ⟨hconnected, hattempt, hdelivered, hvalid, haccepts⟩
    left
    cases hstored : exchange.resultStored with
    | false =>
      rw [Bool.not_false, if_pos rfl]
      exact ⟨haccepted, rfl, ⟨_, rfl⟩, hother, hchannel, rfl, by rw [hstored, if_pos rfl]⟩
    | true =>
      rw [Bool.not_true, if_neg nofun]
      by_cases hrole : request.role = "boot"
      · rw [if_pos hrole]
        exact ⟨haccepted, rfl, ⟨_, rfl⟩, hother, hchannel, rfl, by
          rw [hstored, if_neg nofun, if_pos hrole]⟩
      · rw [if_neg hrole]
        split
        · rename_i hnone
          exact ⟨haccepted, rfl, ⟨_, rfl⟩, hother, hchannel, rfl, by
            rw [hstored, if_neg nofun, if_neg hrole, if_pos hnone]⟩
        · rename_i hsome
          exact ⟨haccepted, rfl, ⟨_, rfl⟩, hother, hchannel, rfl, by
            rw [hstored, if_neg nofun, if_neg hrole, if_neg hsome]⟩
  · obtain ⟨code, detail, hanswer⟩ :=
      ControlResult.answer_failure hfailed request.channel.index exchange.nowUs
    have hrejected : ¬ s.Accepted request exchange :=
      fun haccepted => hnot ⟨haccepted.2.2.2.1, haccepted.2.2.2.2⟩
    rw [hanswer]
    dsimp only
    right
    left
    split
    · exact ⟨hrejected, rfl, .inl rfl, hredriven, hdisabled, rfl, .inl rfl⟩
    rename_i registry hreject
    have hregistry : ∃ error detail, s.registry.rejectMode request source error detail
        exchange.clock = .ok registry := ⟨_, _, hreject⟩
    split
    · exact ⟨hrejected, rfl, .inr hregistry, hredriven, hdisabled, rfl, .inl rfl⟩
    split
    · exact ⟨hrejected, rfl, .inr hregistry, hredriven, hdisabled, rfl, .inr rfl⟩
    · exact ⟨hrejected, rfl, .inr hregistry, hredriven, hdisabled, rfl, .inl rfl⟩

/-- A command to a channel that holds a role. -/
structure Commanded (s : GpioSystem) (role : String) (s' : GpioSystem)
    (c : GpioControlChannel) : Prop where
  connected : s'.connected = s.connected
  holds : s.registry.Holds c role
  registry : s'.registry = s.registry
  redriven : s.control.Redriven c.index s'.control

theorem resetDut_cases (hw : s.registry.WellFormed) (pulseMs : UInt32) (exchange : Exchange) :
    s.resetDut pulseMs exchange = s ∨ (s.resetDut pulseMs exchange).connected = false ∨
      ∃ c, Commanded s "reset" (s.resetDut pulseMs exchange) c ∧
        (s.resetDut pulseMs exchange).commandedBootMode = s.commandedBootMode ∧
        ∃ targets : List ControlTarget, (s.resetDut pulseMs exchange).commanded
          = targets.map (fun target => (c.index, target)) ++ s.commanded := by
  unfold resetDut
  split
  · exact .inl rfl
  rename_i mapping hmapping
  have hholds := hw.holds_of_findByRole
    (GpioModeRegistry.findByRole_of_requireRoleConfigured hmapping)
  split
  · exact .inl rfl
  have hredriven := s.control.redriven_pulse? mapping.channel.index pulseMs exchange.nowUs
    exchange.polls
  dsimp only
  generalize s.control.pulse? mapping.channel.index pulseMs exchange.nowUs exchange.polls = p
    at hredriven ⊢
  obtain ⟨control, answer⟩ := p
  dsimp only at hredriven ⊢
  split
  · exact .inr (.inl rfl)
  cases answer with
  | none => exact .inr (.inl rfl)
  | some answer =>
    refine .inr (.inr ⟨mapping.channel, ?_⟩)
    cases answer with
    | success _ => exact ⟨⟨rfl, hholds, rfl, hredriven⟩, rfl, [.idle], rfl⟩
    | failure _ _ => exact ⟨⟨rfl, hholds, rfl, hredriven⟩, rfl, [], rfl⟩

theorem setBootMode_cases (hw : s.registry.WellFormed) (mode : BootMode) (exchange : Exchange) :
    s.setBootMode mode exchange = s ∨ (s.setBootMode mode exchange).connected = false ∨
      ∃ c, Commanded s "boot" (s.setBootMode mode exchange) c ∧
        ((s.setBootMode mode exchange).commandedBootMode = none ∨
          ((s.setBootMode mode exchange).commandedBootMode = some mode ∧
            (s.setBootMode mode exchange).commanded = (c.index, mode.target) :: s.commanded) ∨
          ((s.setBootMode mode exchange).commandedBootMode = s.commandedBootMode ∧
            (s.setBootMode mode exchange).commanded = s.commanded)) := by
  unfold setBootMode
  split
  · exact .inl rfl
  rename_i mapping hmapping
  have hholds := hw.holds_of_findByRole
    (GpioModeRegistry.findByRole_of_requireRoleConfigured hmapping)
  split
  · exact .inl rfl
  have hredriven := s.control.redriven_setState mapping.channel.index mode.target
  dsimp only
  generalize s.control.setState mapping.channel.index mode.target = p at hredriven ⊢
  obtain ⟨control, result⟩ := p
  dsimp only at hredriven ⊢
  split
  · exact .inr (.inl rfl)
  refine .inr (.inr ⟨mapping.channel, ?_⟩)
  split
  · refine ⟨⟨rfl, hholds, rfl, hredriven⟩, ?_⟩
    dsimp only
    split
    · exact .inr (.inl ⟨rfl, rfl⟩)
    · exact .inl rfl
  · refine ⟨⟨rfl, hholds, rfl, hredriven⟩, ?_⟩
    dsimp only
    split
    · exact .inr (.inr ⟨rfl, rfl⟩)
    · exact .inl rfl

end GpioSystem

/-! ## Steps -/

/-- The boot mode over the channel that holds the role. -/
theorem agrees_iff {s : GpioSystem} (hw : s.registry.WellFormed) :
    s.Agrees ↔
      (∀ c, (s.registry c).state = .configured →
        ConfiguredAlike (s.registry c) (s.control.channels c.index)) ∧
      (∀ c, (s.registry c).state ≠ .configured → s.control.port.enabled c.index = false) ∧
      ∀ mode, s.commandedBootMode = some mode → ∃ c, s.registry.Holds c "boot" ∧
        lastTarget s.commanded c.index = some mode.target := by
  constructor
  · rintro ⟨hconfigured, hreleased, hboot⟩
    refine ⟨hconfigured, hreleased, fun mode hmode => ?_⟩
    exact (hw.exists_findByRole fun c => lastTarget s.commanded c.index = some mode.target).mp
      (hboot mode hmode)
  · rintro ⟨hconfigured, hreleased, hboot⟩
    refine ⟨hconfigured, hreleased, fun mode hmode => ?_⟩
    exact (hw.exists_findByRole fun c => lastTarget s.commanded c.index = some mode.target).mpr
      (hboot mode hmode)

theorem ConfiguredAlike.redriven {state : GpioControlChannelState}
    {channel channel' : ControlChannel} (h : ConfiguredAlike state channel)
    (hdrive : ∃ drive, channel' = { channel with drive := drive }) :
    ConfiguredAlike state channel' := by
  obtain ⟨drive, rfl⟩ := hdrive
  exact h

theorem ConfiguredAlike.rejection {state : GpioControlChannelState} {channel : ControlChannel}
    (h : ConfiguredAlike state channel) (rejection : Option GpioModeRejection) :
    ConfiguredAlike { state with lastRejected := rejection } channel := h

theorem Control.Redriven.configuredAlike {index : ℕ} {control control' : Control}
    (h : control.Redriven index control') {state : GpioControlChannelState} {c : ℕ}
    (halike : ConfiguredAlike state (control.channels c)) :
    ConfiguredAlike state (control'.channels c) := by
  by_cases hc : c = index
  · subst hc
    exact halike.redriven h.drive
  · rw [(h.other c hc).1]
    exact halike

theorem lastTarget_cons_ne {index index' : ℕ} (h : index' ≠ index) (target : ControlTarget)
    (commanded : List (ℕ × ControlTarget)) :
    lastTarget ((index', target) :: commanded) index = lastTarget commanded index := if_neg h

theorem lastTarget_append_ne {index index' : ℕ} (h : index' ≠ index)
    (targets : List ControlTarget) (commanded : List (ℕ × ControlTarget)) :
    lastTarget (targets.map (fun target => (index', target)) ++ commanded) index
      = lastTarget commanded index := by
  induction targets with
  | nil => rfl
  | cons target targets ih =>
    rw [List.map_cons, List.cons_append, lastTarget_cons_ne h]
    exact ih

theorem GpioControlChannel.index_ne {c c' : GpioControlChannel} (h : c ≠ c') :
    c.index ≠ c'.index := fun heq => h (index_injective heq)

namespace GpioSystem

/-- Host and firmware agree and the host's roles are unambiguous. -/
structure Consistent (s : GpioSystem) : Prop where
  wellFormed : s.registry.WellFormed
  agrees : s.Agrees

variable {s s' : GpioSystem} {request : ValidatedGpioConfiguration}
  {source : GpioModeRequestSource} {exchange : Exchange}

/-- A role's channel driven anew keeps what holds of the channels. -/
theorem Commanded.consistent {role : String} {c : GpioControlChannel}
    (hcommanded : Commanded s role s' c) (h : s.Consistent)
    (hboot : ∀ mode, s'.commandedBootMode = some mode → ∃ c, s.registry.Holds c "boot" ∧
      lastTarget s'.commanded c.index = some mode.target) : s'.Consistent := by
  have hw : s'.registry.WellFormed := by
    rw [hcommanded.registry]
    exact h.wellFormed
  refine ⟨hw, (agrees_iff hw).mpr ?_⟩
  rw [hcommanded.registry]
  refine ⟨fun c' hc' => ?_, fun c' hc' => ?_, hboot⟩
  · exact hcommanded.redriven.configuredAlike (h.agrees.configured c' hc')
  · -- The commanded channel is configured; the others keep their pins.
    have hne : c' ≠ c := by
      rintro rfl
      exact hc' hcommanded.holds.2
    rw [(hcommanded.redriven.other _ (GpioControlChannel.index_ne hne)).2]
    exact h.agrees.released c' hc'

theorem Consistent.resetDut (h : s.Consistent) (pulseMs : UInt32) (exchange : Exchange)
    (hconnected : (s.resetDut pulseMs exchange).connected = true) :
    (s.resetDut pulseMs exchange).Consistent := by
  rcases resetDut_cases h.wellFormed pulseMs exchange with
    hsame | hlost | ⟨c, hcommanded, hmode, targets, htargets⟩
  · rw [hsame]
    exact h
  · exact absurd (hlost.symm.trans hconnected) nofun
  · refine hcommanded.consistent h fun mode hsome => ?_
    rw [hmode] at hsome
    obtain ⟨cboot, hholds, hlast⟩ := ((agrees_iff h.wellFormed).mp h.agrees).2.2 mode hsome
    refine ⟨cboot, hholds, ?_⟩
    -- The reset channel is not the boot channel.
    have hne : c ≠ cboot := by
      rintro rfl
      have hroles := hcommanded.holds.1.symm.trans hholds.1
      exact absurd hroles (by decide)
    rw [htargets, lastTarget_append_ne (GpioControlChannel.index_ne hne), hlast]

theorem Consistent.setBootMode (h : s.Consistent) (mode : BootMode) (exchange : Exchange)
    (hconnected : (s.setBootMode mode exchange).connected = true) :
    (s.setBootMode mode exchange).Consistent := by
  rcases setBootMode_cases h.wellFormed mode exchange with
    hsame | hlost | ⟨c, hcommanded, hmode⟩
  · rw [hsame]
    exact h
  · exact absurd (hlost.symm.trans hconnected) nofun
  · refine hcommanded.consistent h fun mode' hsome => ?_
    rcases hmode with hnone | ⟨hset, hlog⟩ | ⟨hkept, hlog⟩
    · exact absurd (hnone.symm.trans hsome) nofun
    · obtain rfl := Option.some.inj (hset.symm.trans hsome)
      refine ⟨c, hcommanded.holds, ?_⟩
      rw [hlog]
      exact if_pos rfl
    · rw [hkept] at hsome
      rw [hlog]
      exact ((agrees_iff h.wellFormed).mp h.agrees).2.2 mode' hsome

theorem Rejected.consistent (hrejected : Rejected s request source exchange s')
    (h : s.Consistent) : s'.Consistent := by
  obtain ⟨_, _, hregistry, hredriven, hdisabled, hlog, hmode⟩ := hrejected
  -- A channel shown as configured was so, with the same configuration.
  have hsame : ∀ c, (s'.registry c).state = .configured →
      ∃ rejection, s'.registry c = { s.registry c with lastRejected := rejection } := by
    intro c hc
    rcases hregistry with heq | ⟨error, detail, hreject⟩
    · exact ⟨(s.registry c).lastRejected, by rw [heq]⟩
    · exact GpioModeRegistry.rejectMode_configured hreject hc
  have hholds : ∀ c role, s'.registry.Holds c role ↔ s.registry.Holds c role := by
    intro c role
    rcases hregistry with heq | ⟨error, detail, hreject⟩
    · rw [heq]
    · exact GpioModeRegistry.holds_rejectMode hreject c
  have hnot : ∀ c, (s'.registry c).state ≠ .configured → (s.registry c).state ≠ .configured := by
    intro c hc hstate
    rcases hregistry with heq | ⟨error, detail, hreject⟩
    · rw [heq] at hc
      exact hc hstate
    · rcases GpioModeRegistry.rejectMode_cases hreject c with ⟨rejection, heq⟩ | ⟨_, hne, _, _⟩
      · rw [heq] at hc
        exact hc hstate
      · exact hne hstate
  have hw : s'.registry.WellFormed := by
    rcases hregistry with heq | ⟨error, detail, hreject⟩
    · rw [heq]
      exact h.wellFormed
    · exact h.wellFormed.rejectMode hreject
  refine ⟨hw, (agrees_iff hw).mpr ⟨fun c hc => ?_, fun c hc => ?_, fun mode hsome => ?_⟩⟩
  · obtain ⟨rejection, heq⟩ := hsame c hc
    rw [heq] at hc ⊢
    exact (hredriven.configuredAlike (h.agrees.configured c hc)).rejection rejection
  · have hreleased := h.agrees.released c (hnot c hc)
    by_cases hchannel : c = request.channel
    · rw [hchannel] at hreleased ⊢
      exact hdisabled hreleased
    · rw [(hredriven.other _ (GpioControlChannel.index_ne hchannel)).2]
      exact hreleased
  · rcases hmode with hkept | hnone
    · rw [hkept] at hsome
      obtain ⟨c, hc, hlast⟩ := ((agrees_iff h.wellFormed).mp h.agrees).2.2 mode hsome
      refine ⟨c, (hholds c "boot").mpr hc, ?_⟩
      rw [hlog]
      exact hlast
    · exact absurd (hnone.symm.trans hsome) nofun

theorem Configured.wellFormed (hconfigured : Configured s request source exchange s')
    (h : s.Consistent) : s'.registry.WellFormed := by
  obtain ⟨timestamp, hregistry⟩ := hconfigured.registry
  rw [hregistry]
  exact h.wellFormed.acceptMode

theorem Configured.holds (hconfigured : Configured s request source exchange s')
    (c : GpioControlChannel) (role : String) :
    s'.registry.Holds c role ↔ (c = request.channel ∧ role = request.role) ∨
      (c ≠ request.channel ∧ role ≠ request.role ∧ s.registry.Holds c role) := by
  obtain ⟨timestamp, hregistry⟩ := hconfigured.registry
  rw [hregistry]
  exact GpioModeRegistry.holds_acceptMode c

/-- The request's channel is configured as requested, the others as before. -/
theorem Configured.configuredAlike (hconfigured : Configured s request source exchange s')
    (h : s.Consistent) (c : GpioControlChannel) (hc : (s'.registry c).state = .configured) :
    ConfiguredAlike (s'.registry c) (s'.control.channels c.index) := by
  obtain ⟨timestamp, hregistry⟩ := hconfigured.registry
  rw [hregistry] at hc ⊢
  rcases GpioModeRegistry.acceptMode_configured hc with rfl | ⟨hne, _, hsame⟩
  · obtain ⟨drive, hchannel⟩ := hconfigured.channel
    rw [GpioModeRegistry.acceptMode_self, hchannel]
    refine ⟨rfl, rfl, rfl, ?_⟩
    cases request.idleLevel <;> rfl
  · rw [hsame] at hc ⊢
    rw [(hconfigured.other _ (GpioControlChannel.index_ne hne)).1]
    exact h.agrees.configured c hc

/-- Where the request's channel was the boot channel of a boot mode, or becomes one, the boot
mode is what it was left at. -/
theorem Configured.lastTarget_eq (hconfigured : Configured s request source exchange s')
    (c : GpioControlChannel) :
    lastTarget s'.commanded c.index
      = if c = request.channel then some .idle else lastTarget s.commanded c.index := by
  rw [hconfigured.commanded]
  by_cases hc : c = request.channel
  · rw [if_pos hc, hc]
    exact if_pos rfl
  · rw [if_neg hc]
    exact lastTarget_cons_ne (Ne.symm (GpioControlChannel.index_ne hc)) _ _

/-- An accepted configuration keeps the agreement exactly when it is harmless. -/
theorem Configured.agrees_iff_harmless (hconfigured : Configured s request source exchange s')
    (h : s.Consistent) (hconnected : s.connected = true) :
    s'.Agrees ↔ s.Harmless (.configureGpioMode request source) exchange := by
  have hw := hconfigured.wellFormed h
  obtain ⟨timestamp, hregistry⟩ := hconfigured.registry
  have hbootBefore := ((agrees_iff h.wellFormed).mp h.agrees).2.2
  rw [agrees_iff hw]
  constructor
  · rintro ⟨_, hreleased, hboot⟩ _
    refine ⟨fun c hc hrole => ?_, fun hunstored mode hmode => ?_⟩
    · rw [← (hconfigured.other _ (GpioControlChannel.index_ne hc)).2]
      refine hreleased c ?_
      rw [hregistry, GpioModeRegistry.acceptMode_moved hc hrole]
      exact nofun
    · -- The boot mode stays, so its channel is where it was or was just released.
      have hkept := hconfigured.boot
      rw [if_pos hunstored] at hkept
      obtain ⟨c, hholds, hlast⟩ := hboot mode (hkept.trans hmode)
      rw [hconfigured.lastTarget_eq] at hlast
      rcases (hconfigured.holds c "boot").mp hholds with ⟨hc, hrole⟩ | ⟨hc, hrole, hbefore⟩
      · rw [if_pos hrole.symm]
        rw [if_pos hc] at hlast
        cases mode with
        | normal => rfl
        | bootloader => exact absurd (Option.some.inj hlast) nofun
      · rw [if_neg (Ne.symm hrole)]
        intro mapping hfind
        rw [h.wellFormed.holds_unique (h.wellFormed.holds_of_findByRole hfind) hbefore]
        exact hc
  · intro hharmless
    obtain ⟨hmoved, hstale⟩ := hharmless (hconfigured.accepted hconnected)
    refine ⟨hconfigured.configuredAlike h, fun c hstate => ?_, fun mode hmode => ?_⟩
    · by_cases hc : c = request.channel
      · rw [hregistry, hc, GpioModeRegistry.acceptMode_self] at hstate
        exact absurd rfl hstate
      rw [(hconfigured.other _ (GpioControlChannel.index_ne hc)).2]
      by_cases hrole : (s.registry c).role = some request.role
      · exact hmoved c hc hrole
      · rw [hregistry, GpioModeRegistry.acceptMode_other hc hrole] at hstate
        exact h.agrees.released c hstate
    · have hset := hconfigured.boot
      rw [hmode] at hset
      by_cases hrole : request.role = "boot"
      · -- The boot channel is the request's, and idle.
        have hnormal : mode = .normal := by
          by_cases hunstored : exchange.resultStored = false
          · rw [if_pos hunstored] at hset
            have hharm := hstale hunstored mode hset.symm
            rwa [if_pos hrole] at hharm
          · rw [if_neg hunstored, if_pos hrole] at hset
            exact Option.some.inj hset
        refine ⟨request.channel, (hconfigured.holds _ _).mpr (.inl ⟨rfl, hrole.symm⟩), ?_⟩
        rw [hconfigured.lastTarget_eq, if_pos rfl, hnormal]
        rfl
      · -- The boot channel is another one, and as before.
        have hbefore : s.commandedBootMode = some mode ∧
            ∀ c, s.registry.Holds c "boot" → c ≠ request.channel := by
          by_cases hunstored : exchange.resultStored = false
          · rw [if_pos hunstored] at hset
            have hharm := hstale hunstored mode hset.symm
            rw [if_neg hrole] at hharm
            refine ⟨hset.symm, fun c hc => ?_⟩
            have hfind := h.wellFormed.findByRole_eq_some.mpr ⟨c, rfl, hc.1, hc.2⟩
            have hne := hharm _ hfind
            rwa [h.wellFormed.channel] at hne
          · rw [if_neg hunstored, if_neg hrole] at hset
            by_cases hnone : s'.registry.findByRole "boot" = none
            · rw [if_pos hnone] at hset
              cases hset
            · rw [if_neg hnone] at hset
              refine ⟨hset.symm, fun c hc => ?_⟩
              obtain ⟨mapping, hmapping⟩ := Option.ne_none_iff_exists'.mp hnone
              rcases (hconfigured.holds _ _).mp (hw.holds_of_findByRole hmapping) with
                ⟨_, heq⟩ | ⟨hne, _, hholds⟩
              · exact absurd heq.symm hrole
              · rwa [h.wellFormed.holds_unique hc hholds]
        obtain ⟨c, hc, hlast⟩ := hbootBefore mode hbefore.1
        have hne := hbefore.2 c hc
        refine ⟨c, (hconfigured.holds _ _).mpr (.inr ⟨hne, Ne.symm hrole, hc⟩), ?_⟩
        rw [hconfigured.lastTarget_eq, if_neg hne, hlast]

/-! ## Runs -/

/-- A request keeps the agreement of a connected pair exactly when it is harmless. -/
theorem Consistent.agrees_request_iff (h : s.Consistent) (hconnected : s.connected = true)
    (r : GpioRequest) (exchange : Exchange)
    (hstill : (s.request r exchange).connected = true) :
    (s.request r exchange).registry.WellFormed ∧
      ((s.request r exchange).Agrees ↔ s.Harmless r exchange) := by
  unfold GpioSystem.request at hstill ⊢
  rw [hconnected, Bool.not_true, if_neg nofun] at hstill ⊢
  cases r with
  | configureGpioMode request source =>
    dsimp only at hstill ⊢
    rcases configureGpioMode_cases s request source exchange with
      hconfigured | hrejected | ⟨_, hlost⟩
    · exact ⟨hconfigured.wellFormed h, hconfigured.agrees_iff_harmless h hconnected⟩
    · have hconsistent := hrejected.consistent h
      exact ⟨hconsistent.wellFormed, fun _ haccepted => absurd haccepted hrejected.rejected,
        fun _ => hconsistent.agrees⟩
    · exact absurd (hlost.symm.trans hstill) nofun
  | resetDut pulseMs =>
    have hconsistent := h.resetDut pulseMs exchange hstill
    exact ⟨hconsistent.wellFormed, fun _ => trivial, fun _ => hconsistent.agrees⟩
  | setBootMode mode =>
    have hconsistent := h.setBootMode mode exchange hstill
    exact ⟨hconsistent.wellFormed, fun _ => trivial, fun _ => hconsistent.agrees⟩

/-- Without a connection nothing is requested, and nothing is accepted. -/
theorem request_disconnected (hlost : s.connected = false) (r : GpioRequest)
    (exchange : Exchange) : s.request r exchange = s := by
  unfold GpioSystem.request
  rw [hlost, Bool.not_false, if_pos rfl]

theorem run_disconnected (hlost : s.connected = false)
    (requests : List (GpioRequest × Exchange)) : s.run requests = s := by
  induction requests with
  | nil => rfl
  | cons r requests ih =>
    show (s.request r.1 r.2).run requests = s
    rw [request_disconnected hlost]
    exact ih

theorem harmless_disconnected (hlost : s.connected = false) (r : GpioRequest)
    (exchange : Exchange) : s.Harmless r exchange := by
  cases r with
  | configureGpioMode request source =>
    rintro ⟨hconnected, _⟩
    exact absurd (hlost.symm.trans hconnected) nofun
  | resetDut _ => exact trivial
  | setBootMode _ => exact trivial

/-- A request that loses the connection is harmless. -/
theorem harmless_of_lost (r : GpioRequest) (exchange : Exchange)
    (hlost : (s.request r exchange).connected = false) : s.Harmless r exchange := by
  cases r with
  | configureGpioMode request source =>
    intro haccepted
    unfold GpioSystem.request at hlost
    rw [haccepted.1, Bool.not_true, if_neg nofun] at hlost
    rcases configureGpioMode_cases s request source exchange with
      hconfigured | hrejected | ⟨hnot, _⟩
    · have hconnected := hconfigured.connected.trans haccepted.1
      exact absurd (hlost.symm.trans hconnected) nofun
    · exact absurd haccepted hrejected.rejected
    · exact absurd haccepted hnot
  | resetDut _ => exact trivial
  | setBootMode _ => exact trivial

theorem harmlessThroughout_disconnected (hlost : s.connected = false)
    (requests : List (GpioRequest × Exchange)) : HarmlessThroughout s requests := by
  induction requests with
  | nil => exact trivial
  | cons r requests ih =>
    refine ⟨harmless_disconnected hlost r.1 r.2, ?_⟩
    rw [request_disconnected hlost]
    exact ih

theorem agreesThroughout_cons (r : GpioRequest × Exchange)
    (requests : List (GpioRequest × Exchange)) :
    AgreesThroughout s (r :: requests) ↔
      (s.connected = true → s.Agrees) ∧ AgreesThroughout (s.request r.1 r.2) requests := by
  constructor
  · intro h
    refine ⟨h [] List.nil_prefix, fun before hbefore => ?_⟩
    exact h (r :: before) (List.cons_prefix_cons.mpr ⟨rfl, hbefore⟩)
  · rintro ⟨hnow, hlater⟩ before hbefore
    cases before with
    | nil => exact hnow
    | cons first before =>
      obtain ⟨hfirst, hrest⟩ := List.cons_prefix_cons.mp hbefore
      subst hfirst
      exact hlater before hrest

theorem agreesThroughout_iff_harmless (h : s.connected = true → s.Consistent)
    (requests : List (GpioRequest × Exchange)) :
    AgreesThroughout s requests ↔ HarmlessThroughout s requests := by
  induction requests generalizing s with
  | nil =>
    refine ⟨fun _ => trivial, fun _ before hbefore hconnected => ?_⟩
    obtain rfl := List.prefix_nil.mp hbefore
    exact (h hconnected).agrees
  | cons r requests ih =>
    rw [agreesThroughout_cons]
    cases hconnected : s.connected with
    | false =>
      have hdisconnected := hconnected
      rw [← request_disconnected hconnected r.1 r.2] at hdisconnected
      constructor
      · exact fun _ => harmlessThroughout_disconnected hconnected (r :: requests)
      · refine fun _ => ⟨nofun, (ih fun hyes => ?_).mpr
          (harmlessThroughout_disconnected hdisconnected requests)⟩
        exact absurd (hdisconnected.symm.trans hyes) nofun
    | true =>
      have hconsistent := h hconnected
      have hnow : true = true → s.Agrees := fun _ => hconsistent.agrees
      cases hafter : (s.request r.1 r.2).connected with
      | false =>
        have hharmless := harmless_of_lost r.1 r.2 hafter
        have hrest := ih (s := s.request r.1 r.2) fun hyes =>
          absurd (hafter.symm.trans hyes) nofun
        exact ⟨fun h => ⟨hharmless, hrest.mp h.2⟩, fun h => ⟨hnow, hrest.mpr h.2⟩⟩
      | true =>
        obtain ⟨hw, hagrees⟩ := hconsistent.agrees_request_iff hconnected r.1 r.2 hafter
        constructor
        · rintro ⟨_, hlater⟩
          have hnext := hlater [] List.nil_prefix hafter
          exact ⟨hagrees.mp hnext, (ih fun _ => ⟨hw, hnext⟩).mp hlater⟩
        · rintro ⟨hharmless, hrest⟩
          have hnext := hagrees.mpr hharmless
          exact ⟨hnow, (ih fun _ => ⟨hw, hnext⟩).mpr hrest⟩

/-- With nothing configured, nothing has to be driven. -/
theorem consistent_start (control : {control : Control // control.Fresh}) :
    (start control.1).Consistent where
  wellFormed := GpioModeRegistry.wellFormed_invalidate
  agrees := ⟨nofun, fun c _ => control.2 c, nofun⟩

/-- From an epoch's start, host and firmware agree at every point of its connection exactly
when every accepted configuration is harmless. -/
theorem agreesThroughout_iff (control : {control : Control // control.Fresh})
    (requests : List (GpioRequest × Exchange)) :
    AgreesThroughout (start control.1) requests ↔
      HarmlessThroughout (start control.1) requests :=
  agreesThroughout_iff_harmless (fun _ => consistent_start control) requests

/-- The reset role of a push-pull line, idle high. -/
def resetOn (channel : GpioControlChannel) : GpioRequest :=
  .configureGpioMode ⟨channel, "reset", "NRST", .pushPull, .low, some .high⟩ .runtime

/-- Two configurations, with nothing failing, after which the first channel is shown as
unconfigured and driven high. -/
theorem not_agreesThroughout :
    ¬ ∀ (control : {control : Control // control.Fresh})
      (requests : List (GpioRequest × Exchange)), AgreesThroughout (start control.1) requests := by
  intro h
  have hagrees := h ⟨.init fun _ => true, fun _ => rfl⟩
    [(resetOn .ctrl0, {}), (resetOn .ctrl1, {})] _ (List.prefix_refl _) (by decide)
  exact absurd (hagrees.released .ctrl0 (by decide)) (by decide)

end GpioSystem

/-! ## Epochs -/

namespace Control

theorem fresh_init (outcome : ℕ → Bool) : (Control.init outcome).Fresh := fun _ => rfl

/-- Letting channels float leaves them disabled when it succeeds. -/
theorem endChannels_released (channels : List ℕ) (control : Control) (result : ControlResult) :
    (channels.foldl endChannel (control, result)).2 = .ok →
      result = .ok ∧ ∀ c, (c ∈ channels ∨ control.port.enabled c = false) →
        (channels.foldl endChannel (control, result)).1.port.enabled c = false := by
  induction channels generalizing control result with
  | nil => exact fun hok => ⟨hok, fun c hc => hc.resolve_left List.not_mem_nil⟩
  | cons channel channels ih =>
    obtain ⟨block, hport, hattempt⟩ := driveApply_attempt control.port channel .highZ
    intro hok
    rw [List.foldl_cons] at hok ⊢
    have hfirst : endChannel (control, result) channel
        = ((endChannel (control, result) channel).1, (endChannel (control, result) channel).2) := rfl
    rw [hfirst] at hok ⊢
    obtain ⟨hresult, hreleased⟩ := ih _ _ hok
    have happlied : (driveApply control.port channel .highZ).2 = true := by
      unfold endChannel at hresult
      dsimp only at hresult
      split at hresult
      · cases hresult
      · rename_i h
        simpa using h
    refine ⟨?_, fun c hc => hreleased c ?_⟩
    · unfold endChannel at hresult
      dsimp only at hresult
      rwa [happlied, Bool.not_true, if_neg nofun] at hresult
    · rw [happlied] at hattempt
      have hpins : (endChannel (control, result) channel).1.port = control.port.issued block := hport
      rw [hpins]
      by_cases hchannel : c = channel
      · rw [hchannel]
        exact .inr (hattempt.pins_of_ok control.port).1
      · rw [enabled_attempt hattempt hchannel]
        exact hc.imp_left fun hmem => (List.mem_cons.mp hmem).resolve_left hchannel

/-- An epoch that ended well leaves the channels as the next one is entered. -/
theorem fresh_endEpoch {control : Control} (h : control.endEpoch.2 = .ok) :
    control.endEpoch.1.Fresh := by
  intro c
  refine (endChannels_released _ _ _ h).2 c.index (.inl ?_)
  have hvalid := c.channelValid_index
  rw [channelValid, decide_eq_true_eq] at hvalid
  exact List.mem_range.mpr hvalid

end Control
