/-
# The registry against its history

Every call of the registry is checked before it changes anything.  A role is configured where the
history last accepted it, and what the registry reports of a role that is not configured is a
rejection it still holds: the one on the last of the channels, which need not be the latest.
-/
import DutchMate.GpioRegistry
import DutchMate.Throwing
import DutchMate.Utf8
import Mathlib.Data.List.Induction

/-! ## Checking a request -/

namespace GpioCall

def maxGpioIdentifierBytes : ℕ := 64

/-- `_is_unicode_whitespace`. -/
def isUnicodeWhitespace (c : Char) : Bool :=
  (0x09 ≤ c.toNat && c.toNat ≤ 0x0D) || c.toNat ∈ [0x20, 0x85, 0xA0, 0x1680, 0x2028, 0x2029, 0x202F,
    0x205F, 0x3000] || (0x2000 ≤ c.toNat && c.toNat ≤ 0x200A)

def validateGpioIdentifier (value field : String) : Except String String :=
  let actualBytes := (Utf8.encode value).length
  if ¬(1 ≤ actualBytes ∧ actualBytes ≤ maxGpioIdentifierBytes) then
    .error ("GPIO " ++ field ++ " must encode to 1..64 UTF-8 bytes")
  else if value.toList.head?.any isUnicodeWhitespace || value.toList.getLast?.any isUnicodeWhitespace
  then .error ("GPIO " ++ field ++ " must not have leading or trailing Unicode whitespace")
  else if value.toList.any isControl then
    .error ("GPIO " ++ field ++ " must not contain Unicode control characters")
  else .ok value

def validateGpioRole (role : String) : Except String String := validateGpioIdentifier role "role"

def validateGpioDutSignal (dutSignal : String) : Except String String :=
  validateGpioIdentifier dutSignal "dut_signal"

def validateGpioChannel (channel : String) : Except String GpioControlChannel :=
  if channel = "CTRL0" then .ok .ctrl0
  else if channel = "CTRL1" then .ok .ctrl1
  else if channel = "CTRL2" then .ok .ctrl2
  else if channel = "CTRL3" then .ok .ctrl3
  else .error "GPIO control channel must be 'CTRL0', 'CTRL1', 'CTRL2', or 'CTRL3'"

def validateGpioMode (mode : String) : Except String ControlMode :=
  if mode = "open_drain" then .ok .openDrain
  else if mode = "push_pull" then .ok .pushPull
  else .error "GPIO mode must be 'open_drain' or 'push_pull'"

def validateGpioLevel (level field : String) : Except String ControlLevel :=
  if level = "low" then .ok .low
  else if level = "high" then .ok .high
  else .error ("GPIO " ++ field ++ " must be 'low' or 'high'")

/-- The electrical-mode matrix. -/
def validateGpioModeConfiguration (mode activeLevel : String) (idleLevel : Option String) :
    Except String (ControlMode × ControlLevel × Option ControlLevel) := do
  let modeName ← validateGpioMode mode
  let activeLevelName ← validateGpioLevel activeLevel "active_level"
  let idleLevelName ← match idleLevel with
    | none => .ok none
    | some level => (validateGpioLevel level "idle_level").map some
  match modeName, idleLevelName with
  | .openDrain, idle =>
    if activeLevelName ≠ .low then .error "GPIO open_drain active_level must be 'low'"
    else if idle.isSome then .error "GPIO open_drain idle_level must be omitted"
    else .ok (modeName, activeLevelName, idle)
  | .pushPull, none => .error "GPIO push_pull idle_level is required"
  | .pushPull, some idle =>
    if idle = activeLevelName then .error "GPIO push_pull idle_level must be opposite active_level"
    else .ok (modeName, activeLevelName, some idle)

/-- A request as a caller makes it. -/
structure Request where
  role : String
  channel : String
  dutSignal : String
  mode : String
  activeLevel : String
  idleLevel : Option String := none
  deriving DecidableEq, Repr

def validateGpioConfiguration (request : Request) :
    Except String ValidatedGpioConfiguration := do
  let channel ← validateGpioChannel request.channel
  let role ← validateGpioRole request.role
  let dutSignal ← validateGpioDutSignal request.dutSignal
  let (mode, activeLevel, idleLevel) ←
    validateGpioModeConfiguration request.mode request.activeLevel request.idleLevel
  .ok ⟨channel, role, dutSignal, mode, activeLevel, idleLevel⟩

def validateGpioSource (source : String) : Except String GpioModeRequestSource :=
  if source = "config" then .ok .config
  else if source = "runtime" then .ok .runtime
  else .error "GPIO mode source must be 'config' or 'runtime'"

end GpioCall

/-! ## Calls -/

inductive GpioCall where
  | acceptMode (request : GpioCall.Request) (source now : String) (deviceTimestampUs : Option ℕ)
  | rejectMode (request : GpioCall.Request) (source error detail now : String)
      (deviceTimestampUs : Option ℕ)
  | invalidate
  deriving DecidableEq, Repr

namespace GpioCall

def perform (registry : GpioModeRegistry) : GpioCall → Except String GpioModeRegistry
  | acceptMode request source now deviceTimestampUs => do
    let request ← validateGpioConfiguration request
    let source ← validateGpioSource source
    .ok (registry.acceptMode request source now deviceTimestampUs)
  | rejectMode request source error detail now deviceTimestampUs => do
    let request ← validateGpioConfiguration request
    let source ← validateGpioSource source
    registry.rejectMode request source error detail now deviceTimestampUs
  | invalidate => .ok GpioModeRegistry.invalidate

/-- The registry after a call; one that raises leaves it as it was. -/
def step (registry : GpioModeRegistry) (call : GpioCall) : GpioModeRegistry :=
  match call.perform registry with
  | .ok registry' => registry'
  | .error _ => registry

/-- The checked request that a call accepts. -/
def accepts : GpioCall → Option ValidatedGpioConfiguration
  | acceptMode request source _ _ =>
    match validateGpioConfiguration request, validateGpioSource source with
    | .ok request, .ok _ => some request
    | _, _ => none
  | _ => none

/-- The checked request that a call rejects. -/
def rejects : GpioCall → Option ValidatedGpioConfiguration
  | rejectMode request source error detail _ _ =>
    match validateGpioConfiguration request, validateGpioSource source with
    | .ok request, .ok _ => if error = "" ∨ detail = "" then none else some request
    | _, _ => none
  | _ => none

/-- The registry after a run. -/
def after (calls : List GpioCall) : GpioModeRegistry := calls.foldl step GpioModeRegistry.invalidate

theorem after_concat (calls : List GpioCall) (call : GpioCall) :
    after (calls ++ [call]) = step (after calls) call := List.foldl_concat ..

/-- What a call does to the registry. -/
inductive Does (registry : GpioModeRegistry) (call : GpioCall) : Prop
  | accepted (request : ValidatedGpioConfiguration) (source : GpioModeRequestSource) (now : String)
      (deviceTimestampUs : Option ℕ) (haccepts : call.accepts = some request)
      (hrejects : call.rejects = none) (hcall : call ≠ invalidate)
      (hstep : step registry call = registry.acceptMode request source now deviceTimestampUs)
  | rejected (request : ValidatedGpioConfiguration) (source : GpioModeRequestSource)
      (error detail now : String) (deviceTimestampUs : Option ℕ) (haccepts : call.accepts = none)
      (hrejects : call.rejects = some request) (hcall : call ≠ invalidate)
      (hstep : registry.rejectMode request source error detail now deviceTimestampUs
        = .ok (step registry call))
  | invalidated (hcall : call = invalidate)
  | refused (haccepts : call.accepts = none) (hrejects : call.rejects = none)
      (hcall : call ≠ invalidate) (hstep : step registry call = registry)

theorem does (registry : GpioModeRegistry) (call : GpioCall) : Does registry call := by
  cases call with
  | invalidate => exact .invalidated rfl
  | acceptMode request source now deviceTimestampUs =>
    cases hrequest : validateGpioConfiguration request with
    | error detail =>
      refine .refused ?_ rfl nofun ?_
      · rw [accepts, hrequest]
      · rw [step, perform, hrequest]
        rfl
    | ok checked =>
      cases hsource : validateGpioSource source with
      | error detail =>
        refine .refused ?_ rfl nofun ?_
        · rw [accepts, hrequest, hsource]
        · rw [step, perform, hrequest, hsource]
          rfl
      | ok checkedSource =>
        refine .accepted checked checkedSource now deviceTimestampUs ?_ rfl nofun ?_
        · rw [accepts, hrequest, hsource]
        · rw [step, perform, hrequest, hsource]
          rfl
  | rejectMode request source error detail now deviceTimestampUs =>
    cases hrequest : validateGpioConfiguration request with
    | error fault =>
      refine .refused rfl ?_ nofun ?_
      · rw [rejects, hrequest]
      · rw [step, perform, hrequest]
        rfl
    | ok checked =>
      cases hsource : validateGpioSource source with
      | error fault =>
        refine .refused rfl ?_ nofun ?_
        · rw [rejects, hrequest, hsource]
        · rw [step, perform, hrequest, hsource]
          rfl
      | ok checkedSource =>
        have hperform : (rejectMode request source error detail now deviceTimestampUs).perform registry
            = registry.rejectMode checked checkedSource error detail now deviceTimestampUs := by
          rw [perform, hrequest, hsource]
          rfl
        by_cases hempty : error = "" ∨ detail = ""
        · refine .refused rfl ?_ nofun ?_
          · rw [rejects, hrequest, hsource]
            exact if_pos hempty
          · rw [step, hperform, GpioModeRegistry.rejectMode]
            by_cases herror : error = ""
            · rw [if_pos herror]
            · rw [if_neg herror, if_pos (hempty.resolve_left herror)]
        · refine .rejected checked checkedSource error detail now deviceTimestampUs rfl ?_ nofun ?_
          · rw [rejects, hrequest, hsource]
            exact if_neg hempty
          · rw [step, hperform, GpioModeRegistry.rejectMode, if_neg fun h => hempty (.inl h),
              if_neg fun h => hempty (.inr h)]

end GpioCall

/-! ## What the history says -/

namespace GpioCall

variable {calls : List GpioCall} {call : GpioCall} {c c' : GpioControlChannel} {role : String}

/-- The latest acceptance of the channel was for the role, and since then the registry was not
invalidated and the role not accepted anywhere. -/
def Configured (calls : List GpioCall) (c : GpioControlChannel) (role : String) : Prop :=
  ∃ earlier call later request, calls = earlier ++ call :: later ∧
    call.accepts = some request ∧ request.channel = c ∧ request.role = role ∧
    ∀ other ∈ later, other ≠ invalidate ∧
      ∀ request, other.accepts = some request → request.channel ≠ c ∧ request.role ≠ role

/-- The calls made since the latest rejection on a channel. -/
def age (calls : List GpioCall) (c : GpioControlChannel) : ℕ :=
  calls.reverse.findIdx fun call => call.rejects.any fun request => request.channel = c

/-- The registry still holds a rejection of the role, on a channel. -/
def HoldsRejection (registry : GpioModeRegistry) (c : GpioControlChannel)
    (rejection : GpioModeRejection) (role : String) : Prop :=
  (registry c).lastRejected = some rejection ∧ rejection.request.role = role

/-- The latest of the rejections of the role that the registry still holds. -/
def LatestRejection (calls : List GpioCall) (rejection : GpioModeRejection) (role : String) : Prop :=
  ∃ c, HoldsRejection (after calls) c rejection role ∧
    ∀ c' other, HoldsRejection (after calls) c' other role → age calls c ≤ age calls c'

/-- A rejection leaves the other channels and all of a configuration but its last rejection. -/
def LeavesConfigurations (registry registry' : GpioModeRegistry) (c : GpioControlChannel) : Prop :=
  (∀ c', c' ≠ c → registry' c' = registry c') ∧
    ((registry c).state = .configured →
      ∃ rejection, registry' c = { registry c with lastRejected := some rejection })

/-- The registry and its history agree. -/
structure Consistent (calls : List GpioCall) : Prop where
  unique : ∀ c c' role, (after calls).Holds c role → (after calls).Holds c' role → c = c'
  rejection : ∀ call request, call.rejects = some request →
    LeavesConfigurations (after calls) (after (calls ++ [call])) request.channel
  found : ∀ c role, (∃ state, (after calls).findByRole role = some state ∧ state.channel = c)
    ↔ Configured calls c role
  reported : ∀ role operation rejection, (after calls).findByRole role = none →
    LatestRejection calls rejection role →
      (after calls).requireRoleConfigured role operation
        = .error
            { detail := rejection.detail
              operation := operation
              requiredRole := some role
              roleState := some .rejected }
  unreported : ∀ role operation, (after calls).findByRole role = none →
    ((∃ error, (after calls).requireRoleConfigured role operation = .error error ∧
        error.roleState = some .unconfigured)
      ↔ ∀ c rejection, ¬HoldsRejection (after calls) c rejection role)

/-- A role is rejected on a channel only while no channel behind it holds a rejection of the
role. -/
def InOrder (calls : List GpioCall) : Prop :=
  ∀ earlier call later request, calls = earlier ++ call :: later → call.rejects = some request →
    ∀ c rejection, request.channel.index < c.index →
      ¬HoldsRejection (after earlier) c rejection request.role

theorem wellFormed_step {registry : GpioModeRegistry} (h : registry.WellFormed) (call : GpioCall) :
    (step registry call).WellFormed := by
  cases does registry call with
  | accepted request source now deviceTimestampUs _ _ _ hstep =>
    rw [hstep]
    exact h.acceptMode
  | rejected request source error detail now deviceTimestampUs _ _ _ hstep =>
    exact h.rejectMode hstep
  | invalidated hcall =>
    rw [hcall]
    exact GpioModeRegistry.wellFormed_invalidate
  | refused _ _ _ hstep =>
    rw [hstep]
    exact h

theorem wellFormed_after (calls : List GpioCall) : (after calls).WellFormed := by
  induction calls using List.reverseRecOn with
  | nil => exact GpioModeRegistry.wellFormed_invalidate
  | append_singleton calls call ih =>
    rw [after_concat]
    exact wellFormed_step ih call

/-! ## Where a role is configured -/

theorem not_configured_nil : ¬Configured [] c role := by
  rintro ⟨earlier, call, later, request, hcalls, -⟩
  exact absurd hcalls.symm (List.append_ne_nil_of_right_ne_nil _ (List.cons_ne_nil _ _))

theorem configured_concat : Configured (calls ++ [call]) c role
    ↔ (∃ request, call.accepts = some request ∧ request.channel = c ∧ request.role = role) ∨
      (Configured calls c role ∧ call ≠ invalidate ∧
        ∀ request, call.accepts = some request → request.channel ≠ c ∧ request.role ≠ role) := by
  constructor
  · rintro ⟨earlier, made, later, request, hcalls, haccepts, hchannel, hrole, hlater⟩
    rcases List.eq_nil_or_concat' later with rfl | ⟨later, last, rfl⟩
    · obtain ⟨-, hmade⟩ := List.append_inj' hcalls rfl
      obtain rfl : call = made := List.singleton_inj.mp hmade
      exact .inl ⟨request, haccepts, hchannel, hrole⟩
    · rw [← List.cons_append, ← List.append_assoc] at hcalls
      obtain ⟨rfl, hlast⟩ := List.append_inj' hcalls rfl
      obtain rfl : call = last := List.singleton_inj.mp hlast
      obtain ⟨hvalid, hother⟩ := hlater call (by simp)
      exact .inr ⟨⟨earlier, made, later, request, rfl, haccepts, hchannel, hrole,
        fun other hmem => hlater other (by simp [hmem])⟩, hvalid, hother⟩
  · rintro (⟨request, haccepts, hchannel, hrole⟩ | ⟨hconfigured, hvalid, hother⟩)
    · exact ⟨calls, call, [], request, rfl, haccepts, hchannel, hrole, nofun⟩
    · obtain ⟨earlier, made, later, request, rfl, haccepts, hchannel, hrole, hlater⟩ := hconfigured
      refine ⟨earlier, made, later ++ [call], request, by simp, haccepts, hchannel, hrole, ?_⟩
      intro other hmem
      rcases List.mem_append.mp hmem with hmem | hmem
      · exact hlater other hmem
      · rw [List.mem_singleton.mp hmem]
        exact ⟨hvalid, hother⟩

theorem holds_after : (after calls).Holds c role ↔ Configured calls c role := by
  induction calls using List.reverseRecOn generalizing c role with
  | nil =>
    refine iff_of_false ?_ not_configured_nil
    rintro ⟨hrole, -⟩
    cases hrole
  | append_singleton calls call ih =>
    rw [configured_concat, after_concat, ← ih]
    cases does (after calls) call with
    | accepted request source now deviceTimestampUs haccepts hrejects hcall hstep =>
      rw [hstep, GpioModeRegistry.holds_acceptMode, haccepts]
      constructor
      · rintro (⟨rfl, rfl⟩ | ⟨hc, hrole, hholds⟩)
        · exact .inl ⟨request, rfl, rfl, rfl⟩
        · refine .inr ⟨hholds, hcall, fun other hother => ?_⟩
          rw [← Option.some.inj hother]
          exact ⟨Ne.symm hc, Ne.symm hrole⟩
      · rintro (⟨other, hother, hc, hrole⟩ | ⟨hholds, -, hother⟩)
        · rw [← Option.some.inj hother] at hc hrole
          exact .inl ⟨hc.symm, hrole.symm⟩
        · obtain ⟨hc, hrole⟩ := hother request rfl
          exact .inr ⟨Ne.symm hc, Ne.symm hrole, hholds⟩
    | rejected request source error detail now deviceTimestampUs haccepts hrejects hcall hstep =>
      rw [GpioModeRegistry.holds_rejectMode hstep, haccepts]
      exact ⟨fun hholds => .inr ⟨hholds, hcall, nofun⟩,
        fun hor => hor.elim (fun ⟨_, hnone, _⟩ => nomatch hnone) And.left⟩
    | invalidated hcall =>
      subst hcall
      refine iff_of_false ?_ ?_
      · rintro ⟨hrole, -⟩
        cases hrole
      · rintro (⟨_, hnone, -⟩ | ⟨-, hne, -⟩)
        · cases hnone
        · exact hne rfl
    | refused haccepts hrejects hcall hstep =>
      rw [hstep, haccepts]
      exact ⟨fun hholds => .inr ⟨hholds, hcall, nofun⟩,
        fun hor => hor.elim (fun ⟨_, hnone, _⟩ => nomatch hnone) And.left⟩

/-! ## The rejections held -/

variable {registry registry' : GpioModeRegistry} {rejection : GpioModeRejection}

theorem holdsRejection_acceptMode {request : ValidatedGpioConfiguration}
    {source : GpioModeRequestSource} {now : String} {deviceTimestampUs : Option ℕ}
    (h : HoldsRejection (registry.acceptMode request source now deviceTimestampUs) c rejection role) :
    HoldsRejection registry c rejection role := by
  by_cases hc : c = request.channel
  · subst hc
    obtain ⟨hheld, -⟩ := h
    rw [GpioModeRegistry.acceptMode_self] at hheld
    cases hheld
  by_cases hrole : (registry c).role = some request.role
  · obtain ⟨hheld, -⟩ := h
    rw [GpioModeRegistry.acceptMode_moved hc hrole] at hheld
    cases hheld
  · rwa [HoldsRejection, GpioModeRegistry.acceptMode_other hc hrole] at h

theorem rejectMode_effect {request : ValidatedGpioConfiguration} {source : GpioModeRequestSource}
    {error detail now : String} {deviceTimestampUs : Option ℕ}
    (h : registry.rejectMode request source error detail now deviceTimestampUs = .ok registry') :
    LeavesConfigurations registry registry' request.channel ∧
      ∃ rejection, rejection.request = request ∧
        (registry' request.channel).lastRejected = some rejection := by
  unfold GpioModeRegistry.rejectMode at h
  split at h
  · cases h
  split at h
  · cases h
  obtain rfl := Except.ok.inj h
  dsimp only [LeavesConfigurations, GpioModeRegistry.set]
  rw [if_pos rfl]
  refine ⟨⟨fun c' hc' => if_neg hc', fun hstate => ?_⟩, ?_⟩
  · rw [if_pos hstate]
    exact ⟨_, rfl⟩
  · split
    · exact ⟨_, rfl, rfl⟩
    · exact ⟨_, rfl, rfl⟩

/-- The rejections held after a step: those held before it, or the one that it made. -/
theorem holdsRejection_step (call : GpioCall)
    (h : HoldsRejection (step registry call) c rejection role) :
    (∃ request, call.rejects = some request ∧ request.channel = c ∧ request.role = role) ∨
      (HoldsRejection registry c rejection role ∧
        ∀ request, call.rejects = some request → request.channel ≠ c) := by
  cases does registry call with
  | accepted request source now deviceTimestampUs _ hrejects _ hstep =>
    rw [hstep] at h
    exact .inr ⟨holdsRejection_acceptMode h, fun _ hsome => nomatch hrejects.symm.trans hsome⟩
  | rejected request source error detail now deviceTimestampUs _ hrejects _ hstep =>
    obtain ⟨⟨hothers, -⟩, made, hmade, hlast⟩ := rejectMode_effect hstep
    by_cases hc : c = request.channel
    · subst hc
      obtain ⟨hheld, hrole⟩ := h
      obtain rfl := Option.some.inj (hlast.symm.trans hheld)
      exact .inl ⟨request, hrejects, rfl, hmade ▸ hrole⟩
    · rw [HoldsRejection, hothers c hc] at h
      refine .inr ⟨h, fun other hother => ?_⟩
      rw [← Option.some.inj (hrejects.symm.trans hother)]
      exact Ne.symm hc
  | invalidated hcall =>
    subst hcall
    obtain ⟨hheld, -⟩ := h
    cases hheld
  | refused _ hrejects _ hstep =>
    rw [hstep] at h
    exact .inr ⟨h, fun _ hsome => nomatch hrejects.symm.trans hsome⟩

theorem age_concat_self {request : ValidatedGpioConfiguration} (h : call.rejects = some request) :
    age (calls ++ [call]) request.channel = 0 := by
  rw [age, List.reverse_concat, List.findIdx_cons, h]
  simp

theorem age_concat_other (h : ∀ request, call.rejects = some request → request.channel ≠ c) :
    age (calls ++ [call]) c = age calls c + 1 := by
  have hother : (call.rejects.any fun request => decide (request.channel = c)) = false := by
    cases hrejects : call.rejects with
    | none => rfl
    | some request => exact decide_eq_false (h request hrejects)
  rw [age, List.reverse_concat, List.findIdx_cons, hother]
  rfl

theorem InOrder.of_concat (h : InOrder (calls ++ [call])) : InOrder calls := by
  intro earlier made later request hcalls hrejects
  exact h earlier made (later ++ [call]) request (by rw [hcalls]; simp) hrejects

/-- In a run in order, of two rejections of a role the one on the later channel is the later. -/
theorem InOrder.age_lt (h : InOrder calls) {other : GpioModeRejection}
    (hc : HoldsRejection (after calls) c rejection role)
    (hc' : HoldsRejection (after calls) c' other role) (hlt : c.index < c'.index) :
    age calls c' < age calls c := by
  induction calls using List.reverseRecOn generalizing c c' rejection other role with
  | nil =>
    obtain ⟨hheld, -⟩ := hc
    cases hheld
  | append_singleton calls call ih =>
    rw [after_concat] at hc hc'
    rcases holdsRejection_step call hc with ⟨request, hrejects, rfl, rfl⟩ | ⟨hold, hnot⟩
    · rcases holdsRejection_step call hc' with ⟨again, hagain, rfl, -⟩ | ⟨hold', -⟩
      · rw [Option.some.inj (hrejects.symm.trans hagain)] at hlt
        exact absurd hlt (Nat.lt_irrefl _)
      · exact absurd hold' (h calls call [] request rfl hrejects c' other hlt)
    · rw [age_concat_other hnot]
      rcases holdsRejection_step call hc' with ⟨request, hrejects, rfl, -⟩ | ⟨hold', hnot'⟩
      · rw [age_concat_self hrejects]
        exact Nat.succ_pos _
      · rw [age_concat_other hnot']
        exact Nat.succ_lt_succ (ih h.of_concat hold hold' hlt)

/-! ## What is reported -/

/-- Whether a channel holds a rejection of the role. -/
theorem foldl_latest (registry : GpioModeRegistry) (role : String)
    (channels : List GpioControlChannel) :
    match (channels.filterMap fun c => (registry c).lastRejected).foldl
      (fun latest rejection => if rejection.request.role = role then some rejection else latest)
      none with
    | none => ∀ c ∈ channels, ∀ rejection, ¬HoldsRejection registry c rejection role
    | some rejection => ∃ front c rest, channels = front ++ c :: rest ∧
        HoldsRejection registry c rejection role ∧
        ∀ c' ∈ rest, ∀ other, ¬HoldsRejection registry c' other role := by
  induction channels using List.reverseRecOn with
  | nil => exact nofun
  | append_singleton channels c ih =>
    rw [List.filterMap_append, List.foldl_append]
    by_cases hholds : ∃ rejection, HoldsRejection registry c rejection role
    · obtain ⟨rejection, hheld, hrole⟩ := hholds
      have hlist : ([c].filterMap fun c => (registry c).lastRejected) = [rejection] :=
        List.filterMap_cons_some hheld
      rw [hlist, List.foldl_cons, if_pos hrole]
      exact ⟨channels, c, [], rfl, ⟨hheld, hrole⟩, nofun⟩
    · have hnot : ∀ rejection, ¬HoldsRejection registry c rejection role :=
        fun rejection h => hholds ⟨rejection, h⟩
      have hsame (latest : Option GpioModeRejection) :
          ([c].filterMap fun c => (registry c).lastRejected).foldl
            (fun latest rejection => if rejection.request.role = role then some rejection else latest)
            latest = latest := by
        cases hheld : (registry c).lastRejected with
        | none =>
          have hlist : ([c].filterMap fun c => (registry c).lastRejected) = [] :=
            List.filterMap_cons_none hheld
          rw [hlist]
          rfl
        | some rejection =>
          have hlist : ([c].filterMap fun c => (registry c).lastRejected) = [rejection] :=
            List.filterMap_cons_some hheld
          rw [hlist, List.foldl_cons, if_neg fun hrole => hnot rejection ⟨hheld, hrole⟩]
          rfl
      rw [hsame]
      split at ih
      · intro c' hc'
        rcases List.mem_append.mp hc' with hc' | hc'
        · exact ih c' hc'
        · rw [List.mem_singleton.mp hc']
          exact hnot
      · obtain ⟨front, c', rest, rfl, hheld, hrest⟩ := ih
        refine ⟨front, c', rest ++ [c], by simp, hheld, fun c'' hc'' => ?_⟩
        rcases List.mem_append.mp hc'' with hc'' | hc''
        · exact hrest c'' hc''
        · rw [List.mem_singleton.mp hc'']
          exact hnot

/-- The rejection reported is on the last channel that holds one of the role. -/
theorem latestRejectionForRole_eq_some (h : registry.latestRejectionForRole role = some rejection) :
    ∃ c, HoldsRejection registry c rejection role ∧
      ∀ c' other, c.index < c'.index → ¬HoldsRejection registry c' other role := by
  have hfold := foldl_latest registry role allControlChannels
  rw [show (allControlChannels.filterMap fun c => (registry c).lastRejected).foldl
      (fun latest rejection => if rejection.request.role = role then some rejection else latest)
      none = some rejection from h] at hfold
  obtain ⟨front, c, rest, hchannels, hheld, hrest⟩ := hfold
  refine ⟨c, hheld, fun c' other hlt => hrest c' ?_ other⟩
  have hordered : allControlChannels.Pairwise fun c c' => c.index < c'.index := by decide
  have hmem := mem_allControlChannels c'
  rw [hchannels] at hordered hmem
  rcases List.mem_append.mp hmem with hmem | hmem
  · have := (List.pairwise_append.mp hordered).2.2 c' hmem c (by simp)
    omega
  · rcases List.mem_cons.mp hmem with rfl | hmem
    · exact absurd hlt (Nat.lt_irrefl _)
    · exact hmem

theorem latestRejectionForRole_eq_none (h : registry.latestRejectionForRole role = none)
    (c : GpioControlChannel) (rejection : GpioModeRejection) :
    ¬HoldsRejection registry c rejection role := by
  have hfold := foldl_latest registry role allControlChannels
  rw [show (allControlChannels.filterMap fun c => (registry c).lastRejected).foldl
      (fun latest rejection => if rejection.request.role = role then some rejection else latest)
      none = none from h] at hfold
  exact hfold c (mem_allControlChannels c) rejection

/-- In a run in order the latest rejection is on the last channel that holds one. -/
theorem latestRejectionForRole_of_inOrder (h : InOrder calls)
    (hlatest : LatestRejection calls rejection role) :
    (after calls).latestRejectionForRole role = some rejection := by
  obtain ⟨c, hheld, hleast⟩ := hlatest
  cases hreported : (after calls).latestRejectionForRole role with
  | none => exact absurd hheld (latestRejectionForRole_eq_none hreported c rejection)
  | some reported =>
    obtain ⟨c', hheld', hlast⟩ := latestRejectionForRole_eq_some hreported
    rcases Nat.lt_trichotomy c.index c'.index with hlt | heq | hgt
    · exact absurd (h.age_lt hheld hheld' hlt) (Nat.not_lt.mpr (hleast c' reported hheld'))
    · obtain rfl := GpioControlChannel.index_injective heq
      exact hheld'.1.symm.trans hheld.1
    · exact absurd hheld (hlast c rejection hgt)

/-- A run in which every role is rejected on its channels in their order. -/
theorem consistent_of_inOrder (h : InOrder calls) : Consistent calls where
  unique c c' role hc hc' := (wellFormed_after calls).holds_unique hc hc'
  rejection call request hrejects := by
    rw [after_concat]
    cases does (after calls) call with
    | accepted _ _ _ _ _ hnone _ _ => exact nomatch hnone.symm.trans hrejects
    | rejected request' source error detail now deviceTimestampUs _ hrejects' _ hstep =>
      obtain rfl := Option.some.inj (hrejects'.symm.trans hrejects)
      exact (rejectMode_effect hstep).1
    | invalidated hcall =>
      rw [hcall] at hrejects
      cases hrejects
    | refused _ hnone _ _ => exact nomatch hnone.symm.trans hrejects
  found c role := by
    rw [(wellFormed_after calls).exists_findByRole fun channel => channel = c, ← holds_after]
    exact ⟨fun ⟨_, hholds, rfl⟩ => hholds, fun hholds => ⟨c, hholds, rfl⟩⟩
  reported role operation rejection hnone hlatest := by
    rw [GpioModeRegistry.requireRoleConfigured, hnone, latestRejectionForRole_of_inOrder h hlatest]
  unreported role operation hnone := by
    rw [GpioModeRegistry.requireRoleConfigured, hnone]
    cases hreported : (after calls).latestRejectionForRole role with
    | none =>
      exact iff_of_true ⟨_, rfl, rfl⟩ (latestRejectionForRole_eq_none hreported)
    | some reported =>
      obtain ⟨c, hheld, -⟩ := latestRejectionForRole_eq_some hreported
      refine iff_of_false ?_ fun hall => hall c reported hheld
      rintro ⟨error, herror, hstate⟩
      rw [← Except.error.inj herror] at hstate
      cases hstate

/-- A rejected request for a role. -/
def rejectReset (channel detail : String) : GpioCall :=
  .rejectMode ⟨"reset", channel, "NRST", "open_drain", "low", none⟩ "runtime" "unsupported" detail
    "2024-05-06T07:08:09Z" none

theorem consistent_of_inOrder_reset :
    Consistent [rejectReset "CTRL0" "first", rejectReset "CTRL3" "second"] := by
  refine consistent_of_inOrder ?_
  rintro (_ | ⟨first, _ | ⟨second, earlier⟩⟩) call later request hcalls hrejects c rejection hlt
  · exact nofun
  · simp only [List.cons_append, List.nil_append, List.cons.injEq] at hcalls
    obtain ⟨rfl, rfl, -⟩ := hcalls
    have hchannel : request.channel = .ctrl3 := by
      have hrequest : (rejectReset "CTRL3" "second").rejects
          = some ⟨.ctrl3, "reset", "NRST", .openDrain, .low, none⟩ := by decide
      rw [← Option.some.inj (hrequest.symm.trans hrejects)]
    rw [hchannel] at hlt
    exact absurd hlt (by cases c <;> decide)
  · simp at hcalls

/-- Rejected on CTRL3 first and on CTRL0 then, the role is reported with the older rejection. -/
theorem not_consistent_reset : ¬ ∀ calls, Consistent calls := by
  intro hall
  have hconsistent := hall [rejectReset "CTRL3" "first", rejectReset "CTRL0" "second"]
  have hlatest : LatestRejection [rejectReset "CTRL3" "first", rejectReset "CTRL0" "second"]
      ⟨⟨.ctrl0, "reset", "NRST", .openDrain, .low, none⟩, .runtime, "unsupported", "second",
        "2024-05-06T07:08:09Z", none⟩ "reset" :=
    ⟨.ctrl0, ⟨by decide, rfl⟩, fun _ _ _ => Nat.zero_le _⟩
  have hreported := hconsistent.reported "reset" none _ (by decide) hlatest
  have hfirst : (after [rejectReset "CTRL3" "first", rejectReset "CTRL0" "second"]).requireRoleConfigured
      "reset" none
        = .error
            { detail := "first"
              operation := none
              requiredRole := some "reset"
              roleState := some .rejected } := by decide
  exact absurd (hfirst.symm.trans hreported) (by decide)

end GpioCall
