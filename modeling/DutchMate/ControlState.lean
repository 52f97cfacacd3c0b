/-
# Control outputs

`control_state.c`: four channels, each driven through an enable and a data pin behind a
port whose calls may fail, and one timed pulse.  `Attempt` says once which port calls an
attempt to drive a channel issues; every fact about the pins is read off it.
-/
import DutchMate.OutputPins

open OutputPins

/-! ## Control state -/

inductive ControlMode where
  | openDrain
  | pushPull
  deriving DecidableEq, Repr

inductive ControlLevel where
  | low
  | high
  deriving DecidableEq, Repr

/-- The state a channel is commanded to. -/
inductive ControlTarget where
  | active
  | idle
  deriving DecidableEq, Repr

def controlChannelCount : ℕ := 4
def controlPulseMinMs : ℕ := 1
def controlPulseMaxMs : ℕ := 10000

inductive ControlResult where
  | ok
  | pending
  | invalidArgument
  | notConfigured
  | hardwareFault
  deriving DecidableEq, Repr

inductive ControlPollResult where
  | none
  | completed
  | hardwareFault
  deriving DecidableEq, Repr

inductive ControlDrive where
  | highZ
  | low
  | high
  deriving DecidableEq, Repr

/-- The pins' port: which calls succeed, by how many were issued before. -/
structure ControlPort where
  outcome : ℕ → Bool
  log : PinLog ℕ ControlLevel := []

namespace ControlPort

/-- Issue one call. -/
def write (port : ControlPort) (call : PinWrite ℕ ControlLevel) : ControlPort × Bool :=
  let ok := port.outcome port.log.length
  ({ port with log := (call, ok) :: port.log }, ok)

def setEnable (port : ControlPort) (channel : ℕ) (enabled : Bool) : ControlPort × Bool :=
  port.write (.enable channel enabled)

def setData (port : ControlPort) (channel : ℕ) (level : ControlLevel) : ControlPort × Bool :=
  port.write (.data channel level)

/-- The port after a block of calls. -/
def issued (port : ControlPort) (block : PinLog ℕ ControlLevel) : ControlPort :=
  { port with log := block ++ port.log }

/-- A channel's enable pin. -/
def enabled (port : ControlPort) (channel : ℕ) : Bool := OutputPins.enabled port.log channel

/-- A channel's data pin; the board starts with all pins inactive. -/
def level (port : ControlPort) (channel : ℕ) : ControlLevel :=
  OutputPins.level .low port.log channel

/-- A call on the channel failed since its last successful disable. -/
def faulted (port : ControlPort) (channel : ℕ) : Bool := OutputPins.faulted port.log channel

end ControlPort

structure ControlChannel where
  configured : Bool
  mode : ControlMode
  activeLevel : ControlLevel
  idleLevel : ControlLevel
  hasIdleLevel : Bool
  drive : ControlDrive
  deriving DecidableEq, Repr

structure ControlPulse where
  active : Bool
  channel : ℕ
  startedUs : UInt64
  durationUs : UInt64
  deriving DecidableEq, Repr

structure Control where
  port : ControlPort
  channels : ℕ → ControlChannel
  pulse : ControlPulse

def channelValid (channel : ℕ) : Bool := channel < controlChannelCount

def configurationValid (mode : ControlMode) (activeLevel : ControlLevel) (hasIdleLevel : Bool)
    (idleLevel : ControlLevel) : Bool :=
  match mode with
  | .openDrain => activeLevel = .low && !hasIdleLevel
  | .pushPull => hasIdleLevel && activeLevel ≠ idleLevel

/-- Disable, set the level and enable again, unless the channel is to float; a channel
that cannot be disabled or enabled is disabled as far as possible. -/
def driveApply (port : ControlPort) (channel : ℕ) (drive : ControlDrive) : ControlPort × Bool :=
  let level : ControlLevel := if drive = .high then .high else .low
  let (port, disabled) := port.setEnable channel false
  if !disabled then ((port.setEnable channel false).1, false)
  else
    let (port, set) := port.setData channel level
    if !set || drive = .highZ then (port, set)
    else
      let (port, enabled) := port.setEnable channel true
      if !enabled then ((port.setEnable channel false).1, false) else (port, true)

namespace ControlChannel

def configuredDrive (channel : ControlChannel) (target : ControlTarget) : ControlDrive :=
  if channel.mode = .openDrain ∧ target = .idle then .highZ
  else
    match if target = .active then channel.activeLevel else channel.idleLevel with
    | .high => .high
    | .low => .low

end ControlChannel

namespace Control

def setChannel (control : Control) (channel : ℕ) (value : ControlChannel) : Control :=
  { control with channels := fun c => if c = channel then value else control.channels c }

def setDrive (control : Control) (channel : ℕ) (drive : ControlDrive) : Control :=
  control.setChannel channel { control.channels channel with drive := drive }

def applyConfiguredState (control : Control) (channel : ℕ) (target : ControlTarget) :
    Control × ControlResult :=
  let drive := (control.channels channel).configuredDrive target
  let (port, applied) := driveApply control.port channel drive
  if !applied then ({ control with port := port }.setDrive channel .highZ, .hardwareFault)
  else ({ control with port := port }.setDrive channel drive, .ok)

def init (outcome : ℕ → Bool) : Control where
  port := { outcome := outcome }
  channels _ := ⟨false, .openDrain, .low, .low, false, .highZ⟩
  pulse := ⟨false, 0, 0, 0⟩

def isConfigured (control : Control) (channel : ℕ) : Bool :=
  channelValid channel && (control.channels channel).configured

def configure (control : Control) (channel : ℕ) (mode : ControlMode)
    (activeLevel : ControlLevel) (hasIdleLevel : Bool) (idleLevel : ControlLevel) :
    Control × ControlResult :=
  if !channelValid channel || !configurationValid mode activeLevel hasIdleLevel idleLevel then
    (control, .invalidArgument)
  else
    let requested : ControlChannel := ⟨true, mode, activeLevel, idleLevel, hasIdleLevel, .highZ⟩
    let idleDrive := requested.configuredDrive .idle
    let (port, applied) := driveApply control.port channel idleDrive
    if !applied then ({ control with port := port }.setDrive channel .highZ, .hardwareFault)
    else
      ({ control with port := port }.setChannel channel { requested with drive := idleDrive }, .ok)

def setState (control : Control) (channel : ℕ) (target : ControlTarget) :
    Control × ControlResult :=
  if !channelValid channel then (control, .invalidArgument)
  else if !(control.channels channel).configured then (control, .notConfigured)
  else control.applyConfiguredState channel target

def pulseStart (control : Control) (channel : ℕ) (pulseMs : UInt32) (nowUs : UInt64) :
    Control × ControlResult :=
  if !channelValid channel || pulseMs.toNat < controlPulseMinMs
      || controlPulseMaxMs < pulseMs.toNat then
    (control, .invalidArgument)
  else if !(control.channels channel).configured then (control, .notConfigured)
  else
    match control.applyConfiguredState channel .active with
    | (control, .ok) =>
      ({ control with
          pulse :=
            { active := true
              channel := channel
              startedUs := nowUs
              durationUs := pulseMs.toUInt64 * 1000 } }, .pending)
    | (control, result) => (control, result)

def poll (control : Control) (nowUs : UInt64) : Control × ControlPollResult :=
  if !control.pulse.active || nowUs - control.pulse.startedUs < control.pulse.durationUs then
    (control, .none)
  else
    let channel := control.pulse.channel
    match { control with pulse := { control.pulse with active := false } }.applyConfiguredState
      channel .idle with
    | (control, .ok) => (control, .completed)
    | (control, _) => (control, .hardwareFault)

/-- Let one channel float and forget its configuration. -/
def endChannel (s : Control × ControlResult) (channel : ℕ) : Control × ControlResult :=
  let (control, result) := s
  let (port, applied) := driveApply control.port channel .highZ
  ({ control with port := port }.setChannel channel
      { control.channels channel with configured := false, drive := .highZ },
    if !applied then .hardwareFault else result)

def endEpoch (control : Control) : Control × ControlResult :=
  (List.range controlChannelCount).foldl endChannel
    ({ control with pulse := { control.pulse with active := false } }, .ok)

end Control

/-! ## Attempts to drive a channel -/

/-- The level a channel is driven to. -/
def ControlDrive.level (drive : ControlDrive) : ControlLevel := if drive = .high then .high else .low

/-- The port calls of one attempt, newest first, and whether it succeeded. -/
inductive Attempt (channel : ℕ) (drive : ControlDrive) : PinLog ℕ ControlLevel → Bool → Prop where
  /-- The first disable failed; a second one was tried. -/
  | stuck (retried : Bool) :
    Attempt channel drive [(.enable channel false, retried), (.enable channel false, false)] false
  /-- The level could not be set. -/
  | unset :
    Attempt channel drive [(.data channel drive.level, false), (.enable channel false, true)] false
  | floated (hdrive : drive = .highZ) :
    Attempt channel drive [(.data channel drive.level, true), (.enable channel false, true)] true
  | driven (hdrive : drive ≠ .highZ) :
    Attempt channel drive [(.enable channel true, true), (.data channel drive.level, true),
      (.enable channel false, true)] true
  /-- The channel could not be enabled; another disable was tried. -/
  | dropped (hdrive : drive ≠ .highZ) (retried : Bool) :
    Attempt channel drive [(.enable channel false, retried), (.enable channel true, false),
      (.data channel drive.level, true), (.enable channel false, true)] false

theorem driveApply_attempt (port : ControlPort) (channel : ℕ) (drive : ControlDrive) :
    ∃ block, (driveApply port channel drive).1 = port.issued block ∧
      Attempt channel drive block (driveApply port channel drive).2 := by
  unfold driveApply
  dsimp only [ControlPort.setEnable, ControlPort.setData, ControlPort.write]
  cases port.outcome port.log.length with
  | false => exact ⟨_, rfl, .stuck _⟩
  | true =>
    cases port.outcome (port.log.length + 1) with
    | false => exact ⟨_, rfl, .unset⟩
    | true =>
      by_cases hdrive : drive = .highZ
      · subst hdrive
        exact ⟨_, rfl, .floated rfl⟩
      · rw [if_neg (by simp), if_neg (by simp [hdrive])]
        dsimp only [List.length_cons]
        cases port.outcome (port.log.length + 1 + 1) with
        | false => exact ⟨_, rfl, .dropped hdrive _⟩
        | true => exact ⟨_, rfl, .driven hdrive⟩

namespace Attempt

variable {channel : ℕ} {drive : ControlDrive} {block log : PinLog ℕ ControlLevel} {ok : Bool}

theorem channel_eq (h : Attempt channel drive block ok) :
    ∀ entry ∈ block, entry.1.channel = channel := by
  intro entry hentry
  cases h <;> simp only [List.mem_cons, List.not_mem_nil, or_false] at hentry
  case stuck => rcases hentry with rfl | rfl <;> rfl
  case unset => rcases hentry with rfl | rfl <;> rfl
  case floated => rcases hentry with rfl | rfl <;> rfl
  case driven => rcases hentry with rfl | rfl | rfl <;> rfl
  case dropped => rcases hentry with rfl | rfl | rfl | rfl <;> rfl

/-- The level is written after a successful disable only. -/
theorem disciplined (h : Attempt channel drive block ok) (hlog : Disciplined log) :
    Disciplined (block ++ log) := by
  have hdisabled : OutputPins.enabled ((.enable channel false, true) :: log) channel = false := by
    rw [OutputPins.enabled, if_pos rfl]
  cases h with
  | stuck retried => exact hlog
  | unset => exact ⟨hdisabled, hlog⟩
  | floated hdrive => exact ⟨hdisabled, hlog⟩
  | driven hdrive => exact ⟨hdisabled, hlog⟩
  | dropped hdrive retried => exact ⟨hdisabled, hlog⟩

/-- A successful attempt leaves the pins at the drive asked for. -/
theorem pins_of_ok (h : Attempt channel drive block true) (port : ControlPort) :
    (port.issued block).enabled channel = decide (drive ≠ .highZ) ∧
      (port.issued block).level channel = drive.level ∧
      (port.issued block).faulted channel = false := by
  unfold ControlPort.enabled ControlPort.level ControlPort.faulted ControlPort.issued
  cases h with
  | floated hdrive => simp [OutputPins.enabled, OutputPins.level, OutputPins.faulted, hdrive]
  | driven hdrive => simp [OutputPins.enabled, OutputPins.level, OutputPins.faulted, hdrive]

/-- A failed attempt leaves the channel disabled, or as it was with a fault. -/
theorem pins_of_failed (h : Attempt channel drive block false) (port : ControlPort) :
    (port.issued block).enabled channel = false ∨
      ((port.issued block).faulted channel = true ∧
        (port.issued block).level channel = port.level channel ∧
        (port.issued block).enabled channel = port.enabled channel) := by
  unfold ControlPort.enabled ControlPort.level ControlPort.faulted ControlPort.issued
  cases h with
  | stuck retried =>
    cases retried with
    | false => exact .inr (by simp [OutputPins.enabled, OutputPins.level, OutputPins.faulted])
    | true => exact .inl (by simp [OutputPins.enabled])
  | unset => exact .inl (by simp [OutputPins.enabled])
  | dropped hdrive retried => exact .inl (by cases retried <;> simp [OutputPins.enabled])

end Attempt

/-- Calls of a block on a channel of which the first disabled it and a later one failed. -/
def FailedAfterDisable (channel : ℕ) (block : PinLog ℕ ControlLevel) : Prop :=
  ∃ later, block.filter (fun entry => entry.1.channel = channel)
      = later ++ [(.enable channel false, true)] ∧ ∃ entry ∈ later, entry.2 = false

/-! ## Safety of a channel -/

/-- What the pins drive. -/
def pinsDrive (enabled : Bool) (level : ControlLevel) : ControlDrive :=
  if enabled then match level with
    | .high => .high
    | .low => .low
  else .highZ

namespace ControlPort

def drive (port : ControlPort) (channel : ℕ) : ControlDrive :=
  pinsDrive (port.enabled channel) (port.level channel)

end ControlPort

/-- A channel's pins against its configuration. -/
structure ChannelSafe (port : ControlPort) (index : ℕ) (channel : ControlChannel) : Prop where
  valid : channel.configured = true → configurationValid channel.mode channel.activeLevel
    channel.hasIdleLevel channel.idleLevel = true
  recorded : port.faulted index = false → channel.drive = port.drive index
  driven : port.faulted index = false → port.enabled index = true → channel.configured = true ∧
    ∃ target, port.drive index = channel.configuredDrive target
  openDrain : port.enabled index = true → channel.configured = true →
    channel.mode = .openDrain → port.level index = .low

structure ControlSafe (control : Control) : Prop where
  disciplined : Disciplined control.port.log
  channels : ∀ c, ChannelSafe control.port c (control.channels c)

namespace ChannelSafe

variable {port : ControlPort} {index other : ℕ} {channel : ControlChannel} {drive : ControlDrive}
  {block : PinLog ℕ ControlLevel} {ok : Bool}

theorem pinsDrive_level (drive : ControlDrive) :
    pinsDrive (decide (drive ≠ .highZ)) drive.level = drive := by
  cases drive <;> decide

/-- A channel driven to a state of its configuration. -/
theorem of_ok (target : ControlTarget) (hattempt : Attempt index drive block true)
    (hvalid : configurationValid channel.mode channel.activeLevel channel.hasIdleLevel
      channel.idleLevel = true) (hconfigured : channel.configured = true)
    (hdrive : channel.drive = drive) (htarget : drive = channel.configuredDrive target) :
    ChannelSafe (port.issued block) index channel := by
  obtain ⟨henabled, hlevel, _⟩ := hattempt.pins_of_ok port
  have hpins : ControlPort.drive (port.issued block) index = drive := by
    rw [ControlPort.drive, henabled, hlevel, pinsDrive_level]
  refine ⟨fun _ => hvalid, fun _ => hdrive.trans hpins.symm,
    fun _ _ => ⟨hconfigured, target, hpins.trans htarget⟩, fun _ _ hmode => ?_⟩
  -- The valid open-drain configuration is driven low or not at all.
  rw [hlevel, htarget]
  rw [hmode] at hvalid
  simp only [configurationValid, Bool.and_eq_true, decide_eq_true_eq] at hvalid
  cases target with
  | idle => simp [ControlChannel.configuredDrive, hmode, ControlDrive.level]
  | active => simp [ControlChannel.configuredDrive, hvalid.1, ControlDrive.level]

/-- A channel whose attempt failed is recorded as floating. -/
theorem of_failed (h : ChannelSafe port index channel) (hattempt : Attempt index drive block false) :
    ChannelSafe (port.issued block) index { channel with drive := .highZ } := by
  refine ⟨h.valid, ?_, ?_, ?_⟩
  · intro hfaulted
    rcases hattempt.pins_of_failed port with hdisabled | ⟨hfault, _⟩
    · rw [ControlPort.drive, hdisabled]
      rfl
    · exact absurd (hfault.symm.trans hfaulted) nofun
  · intro hfaulted henabled
    rcases hattempt.pins_of_failed port with hdisabled | ⟨hfault, _⟩
    · exact absurd (hdisabled.symm.trans henabled) nofun
    · exact absurd (hfault.symm.trans hfaulted) nofun
  · intro henabled hconfigured hmode
    rcases hattempt.pins_of_failed port with hdisabled | ⟨_, hlevel, hsame⟩
    · exact absurd (hdisabled.symm.trans henabled) nofun
    · rw [hlevel]
      exact h.openDrain (hsame.symm.trans henabled) hconfigured hmode

/-- A channel that was told to float at the end of an epoch. -/
theorem of_ended (hattempt : Attempt index .highZ block ok) :
    ChannelSafe (port.issued block) index
      { channel with configured := false, drive := .highZ } := by
  have hpins : (port.issued block).enabled index = false ∨
      (port.issued block).faulted index = true := by
    cases ok with
    | true => exact .inl (hattempt.pins_of_ok port).1
    | false => exact (hattempt.pins_of_failed port).imp_right And.left
  refine ⟨nofun, ?_, ?_, fun _ h => absurd h nofun⟩
  · intro hfaulted
    rcases hpins with hdisabled | hfault
    · rw [ControlPort.drive, hdisabled]
      rfl
    · exact absurd (hfault.symm.trans hfaulted) nofun
  · intro hfaulted henabled
    rcases hpins with hdisabled | hfault
    · exact absurd (hdisabled.symm.trans henabled) nofun
    · exact absurd (hfault.symm.trans hfaulted) nofun

/-- Calls on other channels. -/
theorem spared (h : ChannelSafe port index channel) (hblock : Spares index block) :
    ChannelSafe (port.issued block) index channel := by
  have henabled : ControlPort.enabled (port.issued block) index
      = port.enabled index := enabled_append_spared hblock
  have hlevel : ControlPort.level (port.issued block) index = port.level index :=
    level_append_spared _ hblock
  have hfaulted : ControlPort.faulted (port.issued block) index
      = port.faulted index := faulted_append_spared hblock
  have hdrive : ControlPort.drive (port.issued block) index
      = port.drive index := by
    rw [ControlPort.drive, henabled, hlevel, ControlPort.drive]
  refine ⟨h.valid, ?_, ?_, ?_⟩
  · rw [hfaulted, hdrive]
    exact h.recorded
  · rw [hfaulted, henabled, hdrive]
    exact h.driven
  · rw [henabled, hlevel]
    exact h.openDrain

end ChannelSafe

/-! ## Operations -/

/-- An operation keeps the channels safe, and a channel it failed on after disabling it is
left disabled. -/
structure Operated (control control' : Control) : Prop where
  safe : ControlSafe control → ControlSafe control'
  calls : ∃ block, control'.port.log = block ++ control.port.log ∧
    ∀ c, FailedAfterDisable c block → control'.port.enabled c = false

theorem FailedAfterDisable.spared {c : ℕ} {block : PinLog ℕ ControlLevel} (hblock : Spares c block) :
    ¬ FailedAfterDisable c block := by
  rintro ⟨later, hfilter, _⟩
  have hnil : block.filter (fun entry => entry.1.channel = c) = [] := by
    apply List.filter_eq_nil_iff.mpr
    intro entry hentry
    simpa using hblock entry hentry
  rw [hnil] at hfilter
  exact absurd hfilter.symm (by simp)

/-- An attempt that disabled its channel and then failed leaves it disabled. -/
theorem Attempt.failedAfterDisable {channel : ℕ} {drive : ControlDrive}
    {block log : PinLog ℕ ControlLevel} {ok : Bool} (h : Attempt channel drive block ok)
    (hfailed : FailedAfterDisable channel block) :
    OutputPins.enabled (block ++ log) channel = false := by
  obtain ⟨later, hfilter, entry, hentry, hfalse⟩ := hfailed
  have hall : block.filter (fun entry => entry.1.channel = channel) = block := by
    apply List.filter_eq_self.mpr
    intro e he
    simpa using h.channel_eq e he
  rw [hall] at hfilter
  cases h with
  | stuck retried =>
    have hlast := congrArg List.getLast? hfilter
    simp at hlast
  | unset => simp [OutputPins.enabled]
  | floated hdrive =>
    exfalso
    have hlater : later = [(.data channel drive.level, true)] :=
      (List.append_cancel_right hfilter).symm
    rw [hlater, List.mem_singleton] at hentry
    rw [hentry] at hfalse
    cases hfalse
  | driven hdrive =>
    exfalso
    have hlater : later = [(.enable channel true, true), (.data channel drive.level, true)] :=
      (List.append_cancel_right hfilter).symm
    rw [hlater] at hentry
    rcases List.mem_cons.mp hentry with rfl | hentry
    · cases hfalse
    · rw [List.mem_singleton.mp hentry] at hfalse
      cases hfalse
  | dropped hdrive retried => cases retried <;> simp [OutputPins.enabled]

namespace Operated

theorem refl (control : Control) : Operated control control where
  safe := id
  calls := ⟨[], rfl, fun _ h => absurd h (FailedAfterDisable.spared nofun)⟩

/-- An attempt on one channel, which is safe afterwards. -/
theorem attempt {control : Control} {index : ℕ} {drive : ControlDrive}
    {block : PinLog ℕ ControlLevel} {ok : Bool} {channel : ControlChannel} {pulse : ControlPulse}
    (hattempt : Attempt index drive block ok)
    (hchannel : ChannelSafe control.port index (control.channels index) →
      ChannelSafe (control.port.issued block) index channel) :
    Operated control
      { port := control.port.issued block
        channels := fun c => if c = index then channel else control.channels c
        pulse := pulse } where
  safe h := by
    refine ⟨hattempt.disciplined h.disciplined, fun c => ?_⟩
    by_cases hc : c = index
    · subst hc
      dsimp only
      rw [if_pos rfl]
      exact hchannel (h.channels c)
    · dsimp only
      rw [if_neg hc]
      refine (h.channels c).spared fun entry hentry => ?_
      rw [hattempt.channel_eq entry hentry]
      exact Ne.symm hc
  calls := by
    refine ⟨block, rfl, fun c hfailed => ?_⟩
    by_cases hc : c = index
    · subst hc
      exact hattempt.failedAfterDisable hfailed
    · refine absurd hfailed (FailedAfterDisable.spared fun entry hentry => ?_)
      rw [hattempt.channel_eq entry hentry]
      exact Ne.symm hc

/-- Operations one after the other, on channels of their own. -/
theorem trans {c₁ c₂ c₃ : Control} (h₁ : Operated c₁ c₂) (h₂ : Operated c₂ c₃)
    (hapart : ∀ block₁ block₂, c₂.port.log = block₁ ++ c₁.port.log →
      c₃.port.log = block₂ ++ c₂.port.log → ∀ c, Spares c block₁ ∨ Spares c block₂) :
    Operated c₁ c₃ where
  safe := h₂.safe ∘ h₁.safe
  calls := by
    obtain ⟨block₁, hlog₁, hfailed₁⟩ := h₁.calls
    obtain ⟨block₂, hlog₂, hfailed₂⟩ := h₂.calls
    refine ⟨block₂ ++ block₁, by rw [hlog₂, hlog₁, List.append_assoc], fun c hfailed => ?_⟩
    obtain ⟨later, hfilter, hentry⟩ := hfailed
    rw [List.filter_append] at hfilter
    rcases hapart block₁ block₂ hlog₁ hlog₂ c with hspared | hspared
    · have hnil : block₁.filter (fun entry => entry.1.channel = c) = [] := by
        apply List.filter_eq_nil_iff.mpr
        intro entry he
        simpa using hspared entry he
      rw [hnil, List.append_nil] at hfilter
      exact hfailed₂ c ⟨later, hfilter, hentry⟩
    · have hnil : block₂.filter (fun entry => entry.1.channel = c) = [] := by
        apply List.filter_eq_nil_iff.mpr
        intro entry he
        simpa using hspared entry he
      rw [hnil, List.nil_append] at hfilter
      have hdisabled := hfailed₁ c ⟨later, hfilter, hentry⟩
      rw [ControlPort.enabled] at hdisabled ⊢
      rw [hlog₂, enabled_append_spared hspared]
      exact hdisabled

theorem applyConfiguredState (control : Control) (channel : ℕ) (target : ControlTarget)
    (hconfigured : (control.channels channel).configured = true) :
    Operated control (control.applyConfiguredState channel target).1 := by
  obtain ⟨block, hport, hattempt⟩ := driveApply_attempt control.port channel
    ((control.channels channel).configuredDrive target)
  unfold Control.applyConfiguredState
  dsimp only
  rw [hport]
  cases hok : (driveApply control.port channel
    ((control.channels channel).configuredDrive target)).2 with
  | false =>
    rw [hok] at hattempt
    exact attempt hattempt fun h => h.of_failed hattempt
  | true =>
    rw [hok] at hattempt
    exact attempt hattempt fun h =>
      .of_ok target hattempt (h.valid hconfigured) hconfigured rfl rfl

theorem configure (control : Control) (channel : ℕ) (mode : ControlMode)
    (activeLevel : ControlLevel) (hasIdleLevel : Bool) (idleLevel : ControlLevel) :
    Operated control (control.configure channel mode activeLevel hasIdleLevel idleLevel).1 := by
  unfold Control.configure
  split
  · exact .refl control
  rename_i hvalid
  have hvalid : configurationValid mode activeLevel hasIdleLevel idleLevel = true := by
    cases h : configurationValid mode activeLevel hasIdleLevel idleLevel with
    | true => rfl
    | false => simp [h] at hvalid
  obtain ⟨block, hport, hattempt⟩ := driveApply_attempt control.port channel
    (ControlChannel.configuredDrive ⟨true, mode, activeLevel, idleLevel, hasIdleLevel, .highZ⟩ .idle)
  dsimp only
  rw [hport]
  cases hok : (driveApply control.port channel (ControlChannel.configuredDrive
    ⟨true, mode, activeLevel, idleLevel, hasIdleLevel, .highZ⟩ .idle)).2 with
  | false =>
    rw [hok] at hattempt
    exact attempt hattempt fun h => h.of_failed hattempt
  | true =>
    rw [hok] at hattempt
    exact attempt hattempt fun _ => .of_ok .idle hattempt hvalid rfl rfl rfl

theorem setState (control : Control) (channel : ℕ) (target : ControlTarget) :
    Operated control (control.setState channel target).1 := by
  unfold Control.setState
  split
  · exact .refl control
  split
  · exact .refl control
  · rename_i hconfigured
    exact applyConfiguredState control channel target (by simpa using hconfigured)

/-- The pulse slot is no part of what is kept safe. -/
theorem setPulse {control control' : Control} (h : Operated control control')
    (pulse : ControlPulse) : Operated control { control' with pulse := pulse } where
  safe hsafe := ⟨(h.safe hsafe).disciplined, (h.safe hsafe).channels⟩
  calls := h.calls

theorem ofPulse {control control' : Control} {pulse : ControlPulse}
    (h : Operated { control with pulse := pulse } control') : Operated control control' where
  safe hsafe := h.safe ⟨hsafe.disciplined, hsafe.channels⟩
  calls := h.calls

theorem pulseStart (control : Control) (channel : ℕ) (pulseMs : UInt32) (nowUs : UInt64) :
    Operated control (control.pulseStart channel pulseMs nowUs).1 := by
  unfold Control.pulseStart
  split
  · exact .refl control
  split
  · exact .refl control
  rename_i hconfigured
  have happlied := applyConfiguredState control channel .active (by simpa using hconfigured)
  rcases hresult : control.applyConfiguredState channel .active with ⟨control', result⟩
  rw [hresult] at happlied
  cases result with
  | ok => exact happlied.setPulse _
  | pending => exact happlied
  | invalidArgument => exact happlied
  | notConfigured => exact happlied
  | hardwareFault => exact happlied

/-- A due pulse is ended on its channel, which is configured. -/
theorem poll (control : Control) (nowUs : UInt64)
    (hpulse : control.pulse.active = true →
      (control.channels control.pulse.channel).configured = true) :
    Operated control (control.poll nowUs).1 := by
  unfold Control.poll
  split
  · exact .refl control
  rename_i hdue
  have hactive : control.pulse.active = true := by
    cases h : control.pulse.active with
    | true => rfl
    | false => simp [h] at hdue
  have happlied := applyConfiguredState
    { control with pulse := { control.pulse with active := false } } control.pulse.channel .idle
    (hpulse hactive)
  dsimp only
  rcases hresult : Control.applyConfiguredState
    { control with pulse := { control.pulse with active := false } } control.pulse.channel .idle
    with ⟨control', result⟩
  rw [hresult] at happlied
  cases result with
  | ok => exact happlied.ofPulse
  | pending => exact happlied.ofPulse
  | invalidArgument => exact happlied.ofPulse
  | notConfigured => exact happlied.ofPulse
  | hardwareFault => exact happlied.ofPulse

/-- Calls to let one channel float go to that channel. -/
theorem endChannel (control : Control) (result : ControlResult) (channel : ℕ) :
    Operated control (Control.endChannel (control, result) channel).1 ∧
      ∃ block, (Control.endChannel (control, result) channel).1.port.log = block ++ control.port.log ∧
        ∀ entry ∈ block, entry.1.channel = channel := by
  obtain ⟨block, hport, hattempt⟩ := driveApply_attempt control.port channel .highZ
  unfold Control.endChannel
  dsimp only
  rw [hport]
  exact ⟨attempt hattempt fun _ => .of_ended hattempt, block, rfl, hattempt.channel_eq⟩

theorem endChannels (channels : List ℕ) (hnodup : channels.Nodup) (control : Control)
    (result : ControlResult) :
    Operated control (channels.foldl Control.endChannel (control, result)).1 ∧
      ∃ block, (channels.foldl Control.endChannel (control, result)).1.port.log
          = block ++ control.port.log ∧ ∀ entry ∈ block, entry.1.channel ∈ channels := by
  induction channels generalizing control result with
  | nil => exact ⟨.refl control, [], rfl, nofun⟩
  | cons channel channels ih =>
    obtain ⟨hnotMem, hnodup⟩ := List.nodup_cons.mp hnodup
    obtain ⟨hfirst, block₁, hlog₁, hchannel⟩ := endChannel control result channel
    rw [List.foldl_cons]
    generalize Control.endChannel (control, result) channel = first at hfirst hlog₁ ⊢
    obtain ⟨control', result'⟩ := first
    dsimp only at hfirst hlog₁
    obtain ⟨hrest, block₂, hlog₂, hchannels⟩ := ih hnodup control' result'
    refine ⟨hfirst.trans hrest ?_, block₂ ++ block₁, ?_, ?_⟩
    · -- The first channel is not among the others.
      intro block₁' block₂' hlog₁' hlog₂' c
      cases List.append_cancel_right (hlog₁.symm.trans hlog₁')
      cases List.append_cancel_right (hlog₂.symm.trans hlog₂')
      by_cases hc : c = channel
      · right
        rintro entry hentry heq
        exact hnotMem (hc ▸ heq ▸ hchannels entry hentry)
      · left
        rintro entry hentry heq
        exact hc (heq.symm.trans (hchannel entry hentry))
    · rw [hlog₂, hlog₁, List.append_assoc]
    · intro entry hentry
      rcases List.mem_append.mp hentry with hentry | hentry
      · exact List.mem_cons_of_mem _ (hchannels entry hentry)
      · rw [hchannel entry hentry]
        exact List.mem_cons_self

theorem endEpoch (control : Control) : Operated control control.endEpoch.1 :=
  (endChannels _ List.nodup_range _ .ok).1.ofPulse

end Operated

/-! ## Results -/

namespace Control

theorem setDrive_configured (control : Control) (channel : ℕ) (drive : ControlDrive) :
    ((control.setDrive channel drive).channels channel).configured
      = (control.channels channel).configured := by
  simp [setDrive, setChannel]

/-- Driving a channel to a state of its configuration keeps the configuration and the pulse,
and leaves the pins in that state when it succeeds. -/
theorem applyConfiguredState_spec (control : Control) (channel : ℕ) (target : ControlTarget) :
    (control.applyConfiguredState channel target).1.pulse = control.pulse ∧
      ((control.applyConfiguredState channel target).1.channels channel).configured
        = (control.channels channel).configured ∧
      (((control.applyConfiguredState channel target).2 = .ok ∧
          (control.applyConfiguredState channel target).1.port.faulted channel = false ∧
          (control.applyConfiguredState channel target).1.port.drive channel
            = (control.channels channel).configuredDrive target) ∨
        (control.applyConfiguredState channel target).2 = .hardwareFault) := by
  obtain ⟨block, hport, hattempt⟩ := driveApply_attempt control.port channel
    ((control.channels channel).configuredDrive target)
  unfold applyConfiguredState
  dsimp only
  rw [hport]
  cases hok : (driveApply control.port channel
    ((control.channels channel).configuredDrive target)).2 with
  | false =>
    exact ⟨rfl, setDrive_configured { control with port := control.port.issued block } channel _,
      .inr rfl⟩
  | true =>
    rw [hok] at hattempt
    obtain ⟨henabled, hlevel, hfaulted⟩ := hattempt.pins_of_ok control.port
    refine ⟨rfl, ?_, .inl ⟨rfl, hfaulted, ?_⟩⟩
    · exact setDrive_configured { control with port := control.port.issued block } channel _
    · show ControlPort.drive (control.port.issued block) channel = _
      rw [ControlPort.drive, henabled, hlevel, ChannelSafe.pinsDrive_level]

theorem configure_pulse (control : Control) (channel : ℕ) (mode : ControlMode)
    (activeLevel : ControlLevel) (hasIdleLevel : Bool) (idleLevel : ControlLevel) :
    (control.configure channel mode activeLevel hasIdleLevel idleLevel).1.pulse
      = control.pulse := by
  unfold configure
  split
  · rfl
  · dsimp only
    split <;> rfl

theorem setState_pulse (control : Control) (channel : ℕ) (target : ControlTarget) :
    (control.setState channel target).1.pulse = control.pulse := by
  unfold setState
  split
  · rfl
  split
  · rfl
  · exact (control.applyConfiguredState_spec channel target).1

/-- A pulse is started on a configured channel, or not at all. -/
theorem pulseStart_cases (control : Control) (channel : ℕ) (pulseMs : UInt32) (nowUs : UInt64) :
    ((control.pulseStart channel pulseMs nowUs).2 = .pending ∧
        (control.pulseStart channel pulseMs nowUs).1.pulse
          = ⟨true, channel, nowUs, pulseMs.toUInt64 * 1000⟩ ∧
        ((control.pulseStart channel pulseMs nowUs).1.channels channel).configured = true ∧
        pulseMs.toNat ≤ controlPulseMaxMs) ∨
      ((control.pulseStart channel pulseMs nowUs).2 ≠ .pending ∧
        (control.pulseStart channel pulseMs nowUs).1.pulse = control.pulse) := by
  unfold pulseStart
  split
  · exact .inr ⟨nofun, rfl⟩
  rename_i hvalid
  split
  · exact .inr ⟨nofun, rfl⟩
  rename_i hconfigured
  obtain ⟨hpulse, hsame, hresult⟩ := control.applyConfiguredState_spec channel .active
  rcases happlied : control.applyConfiguredState channel .active with ⟨control', result⟩
  rw [happlied] at hpulse hsame hresult
  rcases hresult with ⟨hok, _⟩ | hfault
  · obtain rfl : result = .ok := hok
    refine .inl ⟨rfl, rfl, ?_, ?_⟩
    · exact hsame.trans (by simpa using hconfigured)
    · simp only [Bool.or_eq_true, decide_eq_true_eq, not_or] at hvalid
      omega
  · obtain rfl : result = .hardwareFault := hfault
    exact .inr ⟨nofun, hpulse⟩

/-- Before a pulse is due a poll does nothing; the poll at which it is due ends it. -/
theorem poll_cases (control : Control) (nowUs : UInt64) :
    (control.poll nowUs = (control, .none) ∧ (control.pulse.active = false ∨
        nowUs - control.pulse.startedUs < control.pulse.durationUs)) ∨
      (control.pulse.active = true ∧
        control.pulse.durationUs ≤ nowUs - control.pulse.startedUs ∧
        (control.poll nowUs).1.pulse.active = false ∧
        (((control.poll nowUs).2 = .completed ∧
            (control.poll nowUs).1.port.faulted control.pulse.channel = false ∧
            (control.poll nowUs).1.port.drive control.pulse.channel
              = (control.channels control.pulse.channel).configuredDrive .idle) ∨
          (control.poll nowUs).2 = .hardwareFault)) := by
  unfold poll
  split
  · rename_i hdue
    rw [Bool.or_eq_true, Bool.not_eq_true', decide_eq_true_eq] at hdue
    exact .inl ⟨rfl, hdue⟩
  rename_i hdue
  simp only [Bool.or_eq_true, Bool.not_eq_true', decide_eq_true_eq, not_or, Bool.not_eq_false,
    UInt64.not_lt] at hdue
  obtain ⟨hpulse, _, hresult⟩ := applyConfiguredState_spec
    { control with pulse := { control.pulse with active := false } } control.pulse.channel .idle
  dsimp only
  rcases happlied : applyConfiguredState
    { control with pulse := { control.pulse with active := false } } control.pulse.channel .idle
    with ⟨control', result⟩
  rw [happlied] at hpulse hresult
  rcases hresult with ⟨hok, hpins⟩ | hfault
  · obtain rfl : result = .ok := hok
    exact .inr ⟨hdue.1, hdue.2, congrArg ControlPulse.active hpulse, .inl ⟨rfl, hpins⟩⟩
  · obtain rfl : result = .hardwareFault := hfault
    exact .inr ⟨hdue.1, hdue.2, congrArg ControlPulse.active hpulse, .inr rfl⟩

theorem endEpoch_pulse (control : Control) : control.endEpoch.1.pulse.active = false := by
  have hfold : ∀ (channels : List ℕ) (s : Control × ControlResult),
      (channels.foldl endChannel s).1.pulse = s.1.pulse := by
    intro channels
    induction channels with
    | nil => exact fun _ => rfl
    | cons channel channels ih => exact fun s => ih _
  rw [endEpoch, hfold]

end Control
