/-
# The host's GPIO registry

`gpio_config/modes.py`: what the host takes each control channel to be configured for, by
role, from the answers of the firmware.  Clock readings are texts.
-/
import DutchMate.ControlState

/-- The physical control channels. -/
inductive GpioControlChannel where
  | ctrl0
  | ctrl1
  | ctrl2
  | ctrl3
  deriving DecidableEq, Repr

namespace GpioControlChannel

/-- The firmware's number of a channel. -/
def index : GpioControlChannel → ℕ
  | ctrl0 => 0
  | ctrl1 => 1
  | ctrl2 => 2
  | ctrl3 => 3

theorem index_injective {c c' : GpioControlChannel} (h : c.index = c'.index) : c = c' := by
  revert h
  cases c <;> cases c' <;> decide

theorem channelValid_index (c : GpioControlChannel) : channelValid c.index = true := by
  cases c <;> decide

end GpioControlChannel

def allControlChannels : List GpioControlChannel := [.ctrl0, .ctrl1, .ctrl2, .ctrl3]

theorem mem_allControlChannels (c : GpioControlChannel) : c ∈ allControlChannels := by
  cases c <;> decide

inductive GpioModeState where
  | unconfigured
  | configured
  | rejected
  deriving DecidableEq, Repr

inductive GpioModeRequestSource where
  | config
  | runtime
  deriving DecidableEq, Repr

/-- A GPIO request after lexical and electrical validation. -/
structure ValidatedGpioConfiguration where
  channel : GpioControlChannel
  role : String
  dutSignal : String
  mode : ControlMode
  activeLevel : ControlLevel
  idleLevel : Option ControlLevel
  deriving DecidableEq, Repr

/-- A rejected channel mode request. -/
structure GpioModeRejection where
  request : ValidatedGpioConfiguration
  source : GpioModeRequestSource
  error : String
  detail : String
  rejectedAt : String
  deviceTimestampUs : Option ℕ := none
  deriving DecidableEq, Repr

/-- What the host takes one channel for. -/
structure GpioControlChannelState where
  channel : GpioControlChannel
  state : GpioModeState
  role : Option String := none
  dutSignal : Option String := none
  mode : Option ControlMode := none
  activeLevel : Option ControlLevel := none
  idleLevel : Option ControlLevel := none
  source : Option GpioModeRequestSource := none
  configuredAt : Option String := none
  deviceTimestampUs : Option ℕ := none
  lastRejected : Option GpioModeRejection := none
  deriving DecidableEq, Repr

/-- A workflow that cannot run with the current state. -/
structure GpioConfigurationError where
  detail : String
  operation : Option String := none
  requiredRole : Option String := none
  roleState : Option GpioModeState := none
  deriving DecidableEq, Repr

abbrev GpioModeRegistry := GpioControlChannel → GpioControlChannelState

namespace GpioModeRegistry

/-- Every channel unconfigured, at first and whenever a helper epoch ends. -/
def invalidate : GpioModeRegistry := fun channel => { channel := channel, state := .unconfigured }

def set (registry : GpioModeRegistry) (channel : GpioControlChannel)
    (state : GpioControlChannelState) : GpioModeRegistry :=
  fun c => if c = channel then state else registry c

variable (registry : GpioModeRegistry)

/-- The configured channel of a role, if there is one. -/
def findByRole (role : String) : Option GpioControlChannelState :=
  (allControlChannels.map registry).find? fun s => s.role = some role && s.state = .configured

def clearRoleFromOtherChannels (role : String) (channel : GpioControlChannel) :
    GpioModeRegistry := fun c =>
  if c = channel ∨ (registry c).role ≠ some role then registry c
  else { channel := c, state := .unconfigured }

/-- A mode the firmware accepted. -/
def acceptMode (request : ValidatedGpioConfiguration) (source : GpioModeRequestSource)
    (now : String) (deviceTimestampUs : Option ℕ) : GpioModeRegistry :=
  (registry.clearRoleFromOtherChannels request.role request.channel).set request.channel
    { channel := request.channel
      state := .configured
      role := some request.role
      dutSignal := some request.dutSignal
      mode := some request.mode
      activeLevel := some request.activeLevel
      idleLevel := request.idleLevel
      source := some source
      configuredAt := some now
      deviceTimestampUs := deviceTimestampUs }

/-- A mode the firmware or the host rejected; a configured channel stays as it is. -/
def rejectMode (request : ValidatedGpioConfiguration) (source : GpioModeRequestSource)
    (error detail now : String) (deviceTimestampUs : Option ℕ := none) :
    Except String GpioModeRegistry :=
  if error = "" then .error "GPIO mode rejection error must not be empty"
  else if detail = "" then .error "GPIO mode rejection detail must not be empty"
  else
    let current := registry request.channel
    let rejection : GpioModeRejection := ⟨request, source, error, detail, now, deviceTimestampUs⟩
    .ok
      (registry.set request.channel
        (if current.state = .configured then { current with lastRejected := some rejection }
        else
          { channel := request.channel
            state := .rejected
            role := some request.role
            lastRejected := some rejection }))

/-- The last rejection, in the order of the channels, of a request for the role. -/
def latestRejectionForRole (role : String) : Option GpioModeRejection :=
  (allControlChannels.filterMap fun c => (registry c).lastRejected).foldl
    (fun latest rejection => if rejection.request.role = role then some rejection else latest) none

def requireRoleConfigured (role : String) (operation : Option String) :
    Except GpioConfigurationError GpioControlChannelState :=
  match registry.findByRole role with
  | some state => .ok state
  | none =>
    match registry.latestRejectionForRole role with
    | some rejection =>
      .error
        { detail := rejection.detail
          operation := operation
          requiredRole := some role
          roleState := some .rejected }
    | none =>
      .error
        { detail := "GPIO role '" ++ role ++ "' is not configured"
          operation := operation
          requiredRole := some role
          roleState := some .unconfigured }

/-! ## Roles and channels -/

/-- Every state is stored under its channel, and no role is configured twice. -/
structure WellFormed : Prop where
  channel : ∀ c, (registry c).channel = c
  unique : ∀ c c' role, (registry c).state = .configured → (registry c').state = .configured →
    (registry c).role = some role → (registry c').role = some role → c = c'

variable {registry} {role : String}

theorem wellFormed_invalidate : WellFormed invalidate where
  channel _ := rfl
  unique := nofun

/-- The configured channel of a role is the one found. -/
theorem WellFormed.findByRole_eq_some (h : registry.WellFormed) {state : GpioControlChannelState} :
    registry.findByRole role = some state
      ↔ ∃ c, registry c = state ∧ state.role = some role ∧ state.state = .configured := by
  unfold findByRole
  constructor
  · intro hfind
    have hmem := List.mem_of_find?_eq_some hfind
    have hfound := List.find?_some hfind
    simp only [Bool.and_eq_true, decide_eq_true_eq] at hfound
    obtain ⟨c, _, hc⟩ := List.mem_map.mp hmem
    exact ⟨c, hc, hfound⟩
  · rintro ⟨c, rfl, hrole, hstate⟩
    cases hfind : (allControlChannels.map registry).find?
      fun s => s.role = some role && s.state = .configured with
    | none =>
      have hnone := List.find?_eq_none.mp hfind (registry c)
        (List.mem_map_of_mem (mem_allControlChannels c))
      simp [hrole, hstate] at hnone
    | some state =>
      have hmem := List.mem_of_find?_eq_some hfind
      have hfound := List.find?_some hfind
      simp only [Bool.and_eq_true, decide_eq_true_eq] at hfound
      obtain ⟨c', _, rfl⟩ := List.mem_map.mp hmem
      rw [h.unique c c' role hstate hfound.2 hrole hfound.1]

theorem WellFormed.findByRole_eq_none (h : registry.WellFormed) :
    registry.findByRole role = none
      ↔ ∀ c, (registry c).role = some role → (registry c).state ≠ .configured := by
  constructor
  · intro hnone c hrole hstate
    have hfound := h.findByRole_eq_some.mpr ⟨c, rfl, hrole, hstate⟩
    rw [hnone] at hfound
    cases hfound
  · intro hall
    cases hfind : registry.findByRole role with
    | none => rfl
    | some state =>
      obtain ⟨c, rfl, hrole, hstate⟩ := h.findByRole_eq_some.mp hfind
      exact absurd hstate (hall c hrole)

/-- A role is configured on a channel. -/
def Holds (registry : GpioModeRegistry) (c : GpioControlChannel) (role : String) : Prop :=
  (registry c).role = some role ∧ (registry c).state = .configured

theorem WellFormed.holds_unique (h : registry.WellFormed) {c c' : GpioControlChannel}
    (hc : registry.Holds c role) (hc' : registry.Holds c' role) : c = c' :=
  h.unique c c' role hc.2 hc'.2 hc.1 hc'.1

/-- What is so of the configured channel of a role. -/
theorem WellFormed.exists_findByRole (h : registry.WellFormed) (P : GpioControlChannel → Prop) :
    (∃ mapping, registry.findByRole role = some mapping ∧ P mapping.channel)
      ↔ ∃ c, registry.Holds c role ∧ P c := by
  constructor
  · rintro ⟨mapping, hfind, hP⟩
    obtain ⟨c, rfl, hrole, hstate⟩ := h.findByRole_eq_some.mp hfind
    rw [h.channel] at hP
    exact ⟨c, ⟨hrole, hstate⟩, hP⟩
  · rintro ⟨c, ⟨hrole, hstate⟩, hP⟩
    refine ⟨registry c, h.findByRole_eq_some.mpr ⟨c, rfl, hrole, hstate⟩, ?_⟩
    rwa [h.channel]

theorem WellFormed.holds_of_findByRole (h : registry.WellFormed) {state : GpioControlChannelState}
    (hfind : registry.findByRole role = some state) : registry.Holds state.channel role := by
  obtain ⟨c, rfl, hrole, hstate⟩ := h.findByRole_eq_some.mp hfind
  rw [h.channel]
  exact ⟨hrole, hstate⟩

theorem findByRole_of_requireRoleConfigured {operation : Option String}
    {state : GpioControlChannelState}
    (h : registry.requireRoleConfigured role operation = .ok state) :
    registry.findByRole role = some state := by
  unfold requireRoleConfigured at h
  split at h
  · rename_i state' hfind
    cases h
    exact hfind
  · split at h <;> cases h

/-! ## Accepting and rejecting a mode -/

variable {request : ValidatedGpioConfiguration} {source : GpioModeRequestSource}
  {now error detail : String} {deviceTimestampUs : Option ℕ} {registry' : GpioModeRegistry}

theorem acceptMode_self :
    registry.acceptMode request source now deviceTimestampUs request.channel
      = { channel := request.channel
          state := .configured
          role := some request.role
          dutSignal := some request.dutSignal
          mode := some request.mode
          activeLevel := some request.activeLevel
          idleLevel := request.idleLevel
          source := some source
          configuredAt := some now
          deviceTimestampUs := deviceTimestampUs } := if_pos rfl

theorem acceptMode_other {c : GpioControlChannel} (hc : c ≠ request.channel)
    (hrole : (registry c).role ≠ some request.role) :
    registry.acceptMode request source now deviceTimestampUs c = registry c :=
  (if_neg hc).trans (if_pos (.inr hrole))

theorem acceptMode_moved {c : GpioControlChannel} (hc : c ≠ request.channel)
    (hrole : (registry c).role = some request.role) :
    registry.acceptMode request source now deviceTimestampUs c
      = { channel := c, state := .unconfigured } := by
  refine (if_neg hc).trans (if_neg ?_)
  rintro (h | h)
  · exact hc h
  · exact h hrole

/-- A configured channel after an acceptance is the request's, or was so and has another role. -/
theorem acceptMode_configured {c : GpioControlChannel}
    (h : (registry.acceptMode request source now deviceTimestampUs c).state = .configured) :
    c = request.channel ∨ (c ≠ request.channel ∧ (registry c).role ≠ some request.role ∧
      registry.acceptMode request source now deviceTimestampUs c = registry c) := by
  by_cases hc : c = request.channel
  · exact .inl hc
  by_cases hrole : (registry c).role = some request.role
  · rw [acceptMode_moved hc hrole] at h
    cases h
  · exact .inr ⟨hc, hrole, acceptMode_other hc hrole⟩

theorem WellFormed.acceptMode (h : registry.WellFormed) :
    (registry.acceptMode request source now deviceTimestampUs).WellFormed where
  channel c := by
    by_cases hc : c = request.channel
    · rw [hc, acceptMode_self]
    by_cases hrole : (registry c).role = some request.role
    · rw [acceptMode_moved hc hrole]
    · rw [acceptMode_other hc hrole, h.channel]
  unique c c' role hstate hstate' hrole hrole' := by
    rcases acceptMode_configured hstate with rfl | ⟨hc, hother, hsame⟩ <;>
      rcases acceptMode_configured hstate' with rfl | ⟨hc', hother', hsame'⟩
    · rfl
    · rw [acceptMode_self] at hrole
      rw [hsame', ← hrole] at hrole'
      exact absurd hrole' hother'
    · rw [acceptMode_self] at hrole'
      rw [hsame, ← hrole'] at hrole
      exact absurd hrole hother
    · rw [hsame] at hstate hrole
      rw [hsame'] at hstate' hrole'
      exact h.unique c c' role hstate hstate' hrole hrole'

/-- An acceptance gives the role to its channel alone and leaves the other roles elsewhere. -/
theorem holds_acceptMode (c : GpioControlChannel) :
    (registry.acceptMode request source now deviceTimestampUs).Holds c role
      ↔ (c = request.channel ∧ role = request.role) ∨
        (c ≠ request.channel ∧ role ≠ request.role ∧ registry.Holds c role) := by
  by_cases hc : c = request.channel
  · subst hc
    unfold Holds
    rw [acceptMode_self]
    simp [eq_comm]
  by_cases hrole : (registry c).role = some request.role
  · constructor
    · intro hholds
      have hnone := hholds.1
      rw [acceptMode_moved hc hrole] at hnone
      cases hnone
    · rintro (⟨heq, _⟩ | ⟨_, hne, hholds⟩)
      · exact absurd heq hc
      · exact absurd (Option.some.inj (hholds.1.symm.trans hrole)) hne
  · unfold Holds
    rw [acceptMode_other hc hrole]
    constructor
    · rintro ⟨hsame, hstate⟩
      exact .inr ⟨hc, fun heq => hrole (heq ▸ hsame), hsame, hstate⟩
    · rintro (⟨heq, _⟩ | ⟨_, _, hholds⟩)
      · exact absurd heq hc
      · exact hholds

/-- A rejection is noted at a configured channel and makes no other one configured. -/
theorem rejectMode_cases
    (h : registry.rejectMode request source error detail now deviceTimestampUs = .ok registry')
    (c : GpioControlChannel) :
    (∃ rejection, registry' c = { registry c with lastRejected := rejection }) ∨
      (c = request.channel ∧ (registry c).state ≠ .configured ∧
        (registry' c).channel = c ∧ (registry' c).state = .rejected) := by
  unfold rejectMode at h
  split at h
  · cases h
  split at h
  · cases h
  cases h
  dsimp only [GpioModeRegistry.set]
  by_cases hc : c = request.channel
  · subst hc
    rw [if_pos rfl]
    by_cases hstate : (registry request.channel).state = .configured
    · rw [if_pos hstate]
      exact .inl ⟨_, rfl⟩
    · rw [if_neg hstate]
      exact .inr ⟨rfl, hstate, rfl, rfl⟩
  · rw [if_neg hc]
    exact .inl ⟨(registry c).lastRejected, rfl⟩

/-- The configured channels stay, with a rejection noted at most. -/
theorem rejectMode_configured
    (h : registry.rejectMode request source error detail now deviceTimestampUs = .ok registry')
    {c : GpioControlChannel} (hstate : (registry' c).state = .configured) :
    ∃ rejection, registry' c = { registry c with lastRejected := rejection } := by
  rcases rejectMode_cases h c with hsame | ⟨_, _, _, hrejected⟩
  · exact hsame
  · rw [hrejected] at hstate
    cases hstate

theorem WellFormed.rejectMode (hw : registry.WellFormed)
    (h : registry.rejectMode request source error detail now deviceTimestampUs = .ok registry') :
    registry'.WellFormed where
  channel c := by
    rcases rejectMode_cases h c with ⟨rejection, hsame⟩ | ⟨_, _, hchannel, _⟩
    · rw [hsame]
      exact hw.channel c
    · exact hchannel
  unique c c' role hstate hstate' hrole hrole' := by
    obtain ⟨rejection, hsame⟩ := rejectMode_configured h hstate
    obtain ⟨rejection', hsame'⟩ := rejectMode_configured h hstate'
    rw [hsame] at hstate hrole
    rw [hsame'] at hstate' hrole'
    exact hw.unique c c' role hstate hstate' hrole hrole'

theorem holds_rejectMode
    (h : registry.rejectMode request source error detail now deviceTimestampUs = .ok registry')
    (c : GpioControlChannel) : registry'.Holds c role ↔ registry.Holds c role := by
  rcases rejectMode_cases h c with ⟨rejection, hsame⟩ | ⟨_, hstate, _, hrejected⟩
  · unfold Holds
    rw [hsame]
  · constructor
    · intro hholds
      exact absurd (hrejected.symm.trans hholds.2) nofun
    · intro hholds
      exact absurd hholds.2 hstate

end GpioModeRegistry
