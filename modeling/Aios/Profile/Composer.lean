import Aios.Lib.Table
import Aios.Rust.Basic
import Mathlib

/-! # Sandbox profiles and their composition

The data model of the sandbox crate: isolation kinds, resource limits, GPU policies, network postures
and the profile that holds one of each. The postures and GPU classes are ordered as they are declared,
the most restrictive first.
-/

namespace Aios.Profile

open Aios.Rust

inductive IsolationKind where
  | namespaceLocal
  | processContainer
  | vmGuest
  | browserOriginIsolated
  | noIsolation
deriving DecidableEq, Repr

inductive NetworkPosture where
  | denyAll
  | loopbackOnly
  | hostLimited
  | explicitAllowlist
  | full
deriving DecidableEq, Repr

namespace NetworkPosture

/-- The position in the declaration. -/
def index : NetworkPosture → ℕ
  | denyAll => 0
  | loopbackOnly => 1
  | hostLimited => 2
  | explicitAllowlist => 3
  | full => 4

theorem index_injective : Function.Injective index := by
  intro posture other same
  cases posture <;> cases other <;> first | rfl | cases same

instance : LinearOrder NetworkPosture := @LinearOrder.lift' _ _ Nat.instLinearOrder index index_injective

end NetworkPosture

inductive GpuCapabilityClass where
  | gpuPassiveDisplay
  | gpuBasic2d
  | gpuRich2d
  | gpuFull3d
  | gpuComputeHeavy
deriving DecidableEq, Repr

namespace GpuCapabilityClass

/-- The position in the declaration. -/
def index : GpuCapabilityClass → ℕ
  | gpuPassiveDisplay => 0
  | gpuBasic2d => 1
  | gpuRich2d => 2
  | gpuFull3d => 3
  | gpuComputeHeavy => 4

theorem index_injective : Function.Injective index := by
  intro gpuClass other same
  cases gpuClass <;> cases other <;> first | rfl | cases same

instance : LinearOrder GpuCapabilityClass := @LinearOrder.lift' _ _ Nat.instLinearOrder index index_injective

/-- The derived `Debug` form. -/
def debug : GpuCapabilityClass → String
  | gpuPassiveDisplay => "GpuPassiveDisplay"
  | gpuBasic2d => "GpuBasic2d"
  | gpuRich2d => "GpuRich2d"
  | gpuFull3d => "GpuFull3d"
  | gpuComputeHeavy => "GpuComputeHeavy"

end GpuCapabilityClass

/-- A cap of `none` is no cap. -/
structure ResourceLimits where
  cpuQuotaPercent : ℕ
  memoryMaxBytes : ℕ
  ioMaxBytesPerSec : Option ℕ
  networkMaxBytesPerSec : Option ℕ
  processMaxCount : Option ℕ
  fileDescriptorMax : Option ℕ
  expiresAt : Option DateTime
deriving DecidableEq, Repr

def ResourceLimits.defaultStrict : ResourceLimits where
  cpuQuotaPercent := 10
  memoryMaxBytes := 64 * 1024 * 1024
  ioMaxBytesPerSec := some (1024 * 1024)
  networkMaxBytesPerSec := some (1024 * 1024)
  processMaxCount := some 4
  fileDescriptorMax := some 64
  expiresAt := none

structure GpuPolicy where
  gpuCapabilityClass : GpuCapabilityClass
  vkDeviceRequired : Bool
  dmabufPassthroughAllowed : Bool
  perGroupPartitioning : Bool
  iommuRequired : Bool
  expiresAt : Option DateTime
deriving DecidableEq, Repr

def GpuPolicy.defaultDenyAll : GpuPolicy where
  gpuCapabilityClass := .gpuPassiveDisplay
  vkDeviceRequired := false
  dmabufPassthroughAllowed := false
  perGroupPartitioning := true
  iommuRequired := true
  expiresAt := none

structure ProfileId where
  value : String
deriving DecidableEq, Repr

structure SandboxProfile where
  profileId : ProfileId
  name : String
  description : String
  isolationKind : IsolationKind
  resourceLimits : ResourceLimits
  gpuPolicy : GpuPolicy
  networkPosture : NetworkPosture
  syscallAllowlist : Option (List String)
  signingAuthority : String
  signatureEd25519 : List UInt8
deriving DecidableEq, Repr

/-- `id` is the fresh identifier. -/
def SandboxProfile.newStrict (id : ProfileId) (name description : String) : SandboxProfile where
  profileId := id
  name := name
  description := description
  isolationKind := .namespaceLocal
  resourceLimits := .defaultStrict
  gpuPolicy := .defaultDenyAll
  networkPosture := .denyAll
  syscallAllowlist := none
  signingAuthority := ""
  signatureEd25519 := []

inductive SandboxError where
  | profileNotFound (id : ProfileId)
  | invalidProfile (message : String)
  | manifestSignatureInvalid
  | manifestUnknownAuthority (authority : String)
  | resourceLimitsViolation (limit : String) (requested max : ℕ)
  | gpuPolicyViolation (message : String)
  | isolationKindNotSupported (kind : IsolationKind) (reason : String)
  | syscallNotAllowed (syscall : String) (isolationKind : IsolationKind)
  | internal (message : String)
  | evidenceEmitFailed (message : String)
deriving DecidableEq, Repr

/-! ## Composing sandbox profiles

The embedding of `in_memory_composer.rs` and of `validate_policy`: a starting profile, up to five further
sources merged into it in order, and the rules of recovery mode and AI subjects.
-/

/-- Higher is more restrictive. -/
def isolationStrictness : IsolationKind → ℕ
  | .noIsolation => 0
  | .namespaceLocal => 1
  | .processContainer => 2
  | .vmGuest => 3
  | .browserOriginIsolated => 4

/-- `merge_option_u64_min`, `merge_option_u32_min` and the match on two expiries. -/
def mergeOptionMin {α : Type} [LinearOrder α] : Option α → Option α → Option α
  | none, none => none
  | some x, none => some x
  | none, some y => some y
  | some x, some y => some (min x y)

def mergeResourceLimits (a b : ResourceLimits) : ResourceLimits where
  cpuQuotaPercent := min a.cpuQuotaPercent b.cpuQuotaPercent
  memoryMaxBytes := min a.memoryMaxBytes b.memoryMaxBytes
  ioMaxBytesPerSec := mergeOptionMin a.ioMaxBytesPerSec b.ioMaxBytesPerSec
  networkMaxBytesPerSec := mergeOptionMin a.networkMaxBytesPerSec b.networkMaxBytesPerSec
  processMaxCount := mergeOptionMin a.processMaxCount b.processMaxCount
  fileDescriptorMax := mergeOptionMin a.fileDescriptorMax b.fileDescriptorMax
  expiresAt := mergeOptionMin a.expiresAt b.expiresAt

def mergeGpuPolicy (a b : GpuPolicy) : GpuPolicy where
  gpuCapabilityClass := min a.gpuCapabilityClass b.gpuCapabilityClass
  vkDeviceRequired := a.vkDeviceRequired || b.vkDeviceRequired
  dmabufPassthroughAllowed := a.dmabufPassthroughAllowed && b.dmabufPassthroughAllowed
  perGroupPartitioning := a.perGroupPartitioning || b.perGroupPartitioning
  iommuRequired := a.iommuRequired || b.iommuRequired
  expiresAt := mergeOptionMin a.expiresAt b.expiresAt

/-- The entries of the first list that are in the second, sorted. -/
def mergeSyscallAllowlist : Option (List String) → Option (List String) → Option (List String)
  | none, none => none
  | some list, none => some list
  | none, some list => some list
  | some a, some b => some ((a.filter fun entry => b.contains entry).mergeSort fun x y => decide (x ≤ y))

def mergeProfiles (base other : SandboxProfile) : SandboxProfile where
  profileId := base.profileId
  name := if other.name.isEmpty then base.name else other.name
  description := if other.description.isEmpty then base.description else other.description
  isolationKind :=
    if isolationStrictness base.isolationKind ≥ isolationStrictness other.isolationKind then base.isolationKind
    else other.isolationKind
  resourceLimits := mergeResourceLimits base.resourceLimits other.resourceLimits
  gpuPolicy := mergeGpuPolicy base.gpuPolicy other.gpuPolicy
  networkPosture := min base.networkPosture other.networkPosture
  syscallAllowlist := mergeSyscallAllowlist base.syscallAllowlist other.syscallAllowlist
  signingAuthority := base.signingAuthority
  signatureEd25519 := []

/-! ### The rules of the two modes -/

/-- The three fields that a rule can tighten; each answers whether it did. -/
def enforceLoopback (profile : SandboxProfile) : SandboxProfile × Bool :=
  if profile.networkPosture > .loopbackOnly then ({ profile with networkPosture := .loopbackOnly }, true)
  else (profile, false)

def enforceContainer (profile : SandboxProfile) : SandboxProfile × Bool :=
  if isolationStrictness profile.isolationKind < isolationStrictness .processContainer then
    ({ profile with isolationKind := .processContainer }, true)
  else (profile, false)

def enforceBasic2d (profile : SandboxProfile) : SandboxProfile × Bool :=
  if profile.gpuPolicy.gpuCapabilityClass > .gpuBasic2d then
    ({ profile with gpuPolicy := { profile.gpuPolicy with gpuCapabilityClass := .gpuBasic2d } }, true)
  else (profile, false)

/-- The profile, and whether a field was tightened. -/
def applyRecoveryRules (profile : SandboxProfile) : SandboxProfile × Bool :=
  let (profile, netEnforced) := enforceLoopback profile
  let (profile, isoEnforced) := enforceContainer profile
  (profile, netEnforced || isoEnforced)

def applyAiRules (profile : SandboxProfile) : SandboxProfile × Bool :=
  let (profile, netEnforced) := enforceLoopback profile
  let (profile, gpuEnforced) := enforceBasic2d profile
  (profile, netEnforced || gpuEnforced)

/-! ### Composition -/

structure ComposeRequest where
  baseProfileId : Option ProfileId
  adapterDefault : Option SandboxProfile
  appManifest : Option SandboxProfile
  userRequest : Option SandboxProfile
  policyRequired : Option SandboxProfile
  groupFloor : Option SandboxProfile
  runtimeSafetyFloor : Option SandboxProfile
  recoveryMode : Bool
  isAi : Bool

structure ComposeResult where
  profile : SandboxProfile
  mergedSources : List String
  recoveryModeEnforced : Bool
  aiModeEnforced : Bool

/-- A source under its name, if the request has it. -/
abbrev NamedSource := String × Option SandboxProfile

/-- Sources 2 to 6. -/
def ComposeRequest.mergeOrder (self : ComposeRequest) : List NamedSource :=
  [("app_manifest", self.appManifest), ("user_request", self.userRequest), ("policy_required", self.policyRequired),
    ("group_floor", self.groupFloor), ("runtime_safety_floor", self.runtimeSafetyFloor)]

/-- The profile under the rules of the modes, and whether those of recovery mode and of AI mode tightened it. -/
def ComposeRequest.postProcess (self : ComposeRequest) (profile : SandboxProfile) : SandboxProfile × Bool × Bool :=
  let recovered := if self.recoveryMode then applyRecoveryRules profile else (profile, false)
  let held := if self.isAi then applyAiRules recovered.1 else (recovered.1, false)
  (held.1, recovered.2, held.2)

/-- Merges a source that is there, and names it. -/
def mergeSource (merged : SandboxProfile × List String) (source : NamedSource) : SandboxProfile × List String :=
  match source.2 with
  | some profile => (mergeProfiles merged.1 profile, merged.2 ++ [source.1])
  | none => merged

structure InMemorySandboxComposer where
  profiles : Table ProfileId SandboxProfile

namespace InMemorySandboxComposer

variable (self : InMemorySandboxComposer)

def getProfile (profileId : ProfileId) : Except SandboxError SandboxProfile :=
  match self.profiles.lookup profileId with
  | some profile => .ok profile
  | none => .error (.profileNotFound profileId)

/-- The starting profile, under its name. `strictId` is the identifier of the strict default. -/
def startingProfile (request : ComposeRequest) (strictId : ProfileId) :
    Except SandboxError (SandboxProfile × List String) :=
  match request.baseProfileId with
  | some baseId =>
    match self.getProfile baseId with
    | .ok base => .ok (base, [s!"base_profile:{baseId.value}"])
    | .error failure => .error failure
  | none =>
    match request.adapterDefault with
    | some adapterDefault => .ok (adapterDefault, ["adapter_default"])
    | none => .ok (.newStrict strictId "composer-default" "Default strict composer profile", ["composer_default"])

/-- `compose`, with sources 2 to 6 in the given order. -/
def composeIn (order : List NamedSource) (request : ComposeRequest) (strictId freshId : ProfileId) :
    Except SandboxError ComposeResult :=
  match self.startingProfile request strictId with
  | .error failure => .error failure
  | .ok start =>
    let merged := order.foldl mergeSource start
    let processed := request.postProcess merged.1
    .ok ⟨{ processed.1 with profileId := freshId }, merged.2, processed.2.1, processed.2.2⟩

def compose (request : ComposeRequest) (strictId freshId : ProfileId) : Except SandboxError ComposeResult :=
  self.composeIn request.mergeOrder request strictId freshId

end InMemorySandboxComposer

/-! ### The GPU policy check -/

def validatePolicy (policy : GpuPolicy) : Except SandboxError Unit :=
  if policy.dmabufPassthroughAllowed && !policy.iommuRequired then
    .error (.gpuPolicyViolation ("dmabuf_passthrough_allowed=true requires iommu_required=true; cross-group " ++
      "dmabuf without IOMMU is a data leak vector per S8.2"))
  else if policy.gpuCapabilityClass > .gpuPassiveDisplay && !policy.vkDeviceRequired then
    .error (.gpuPolicyViolation (s!"gpu_capability_class={policy.gpuCapabilityClass.debug} requires " ++
      "vk_device_required=true; 3D/2D shader capability requires a `VkDevice` per S8.2"))
  else .ok ()

end Aios.Profile
