import Aios.Lib.Meet
import Aios.Profile.Composer

/-! # The most restrictive source wins

Each field that a profile enforces lives in an order in which the stricter value is the smaller one, and
a profile in their product. There a merge is a meet and the rules of the two modes are monotone and only
go down. So a composed profile is the meet of its sources under the rules of its modes.
-/

namespace Aios.Profile

open Aios.Rust

/-- What a profile enforces. The smaller value is the stricter one: a higher isolation rank, a smaller
cap, a required flag that is set, an allowed one that is not, fewer system calls. -/
@[ext]
structure Enforcement where
  isolation : ℕᵒᵈ
  cpuQuotaPercent : ℕ
  memoryMaxBytes : ℕ
  ioMaxBytesPerSec : WithTop ℕ
  networkMaxBytesPerSec : WithTop ℕ
  processMaxCount : WithTop ℕ
  fileDescriptorMax : WithTop ℕ
  expiresAt : WithTop DateTime
  gpuCapabilityClass : GpuCapabilityClass
  vkDeviceRequired : Boolᵒᵈ
  dmabufPassthroughAllowed : Bool
  perGroupPartitioning : Boolᵒᵈ
  iommuRequired : Boolᵒᵈ
  gpuExpiresAt : WithTop DateTime
  networkPosture : NetworkPosture
  syscalls : Set String

namespace Enforcement

variable (recoveryMode isAi : Bool) (self : Enforcement)

/-- The fields side by side. -/
abbrev Fields := (ℕᵒᵈ × ℕ × ℕ × WithTop ℕ × WithTop ℕ × WithTop ℕ × WithTop ℕ × WithTop DateTime) ×
  (GpuCapabilityClass × Boolᵒᵈ × Bool × Boolᵒᵈ × Boolᵒᵈ × WithTop DateTime) × NetworkPosture × Set String

def fields : Fields :=
  ((self.isolation, self.cpuQuotaPercent, self.memoryMaxBytes, self.ioMaxBytesPerSec, self.networkMaxBytesPerSec,
      self.processMaxCount, self.fileDescriptorMax, self.expiresAt),
    (self.gpuCapabilityClass, self.vkDeviceRequired, self.dmabufPassthroughAllowed, self.perGroupPartitioning,
      self.iommuRequired, self.gpuExpiresAt), self.networkPosture, self.syscalls)

theorem fields_injective : Function.Injective fields := by
  rintro ⟨⟩ ⟨⟩ same
  simp only [fields, Prod.mk.injEq] at same
  simp only [mk.injEq]
  tauto

instance : LE Enforcement := ⟨fun a b => a.fields ≤ b.fields⟩

instance : LT Enforcement := ⟨fun a b => a.fields < b.fields⟩

noncomputable instance : Min Enforcement where
  min a b :=
    { isolation := a.isolation ⊓ b.isolation
      cpuQuotaPercent := a.cpuQuotaPercent ⊓ b.cpuQuotaPercent
      memoryMaxBytes := a.memoryMaxBytes ⊓ b.memoryMaxBytes
      ioMaxBytesPerSec := a.ioMaxBytesPerSec ⊓ b.ioMaxBytesPerSec
      networkMaxBytesPerSec := a.networkMaxBytesPerSec ⊓ b.networkMaxBytesPerSec
      processMaxCount := a.processMaxCount ⊓ b.processMaxCount
      fileDescriptorMax := a.fileDescriptorMax ⊓ b.fileDescriptorMax
      expiresAt := a.expiresAt ⊓ b.expiresAt
      gpuCapabilityClass := a.gpuCapabilityClass ⊓ b.gpuCapabilityClass
      vkDeviceRequired := a.vkDeviceRequired ⊓ b.vkDeviceRequired
      dmabufPassthroughAllowed := a.dmabufPassthroughAllowed ⊓ b.dmabufPassthroughAllowed
      perGroupPartitioning := a.perGroupPartitioning ⊓ b.perGroupPartitioning
      iommuRequired := a.iommuRequired ⊓ b.iommuRequired
      gpuExpiresAt := a.gpuExpiresAt ⊓ b.gpuExpiresAt
      networkPosture := a.networkPosture ⊓ b.networkPosture
      syscalls := a.syscalls ⊓ b.syscalls }

noncomputable instance : SemilatticeInf Enforcement :=
  fields_injective.semilatticeInf fields Iff.rfl Iff.rfl fun _ _ => rfl

/-- No network beyond loopback. -/
noncomputable def loopback : Enforcement :=
  { self with networkPosture := self.networkPosture ⊓ .loopbackOnly }

/-- At least a process container. -/
noncomputable def container : Enforcement :=
  { self with isolation := self.isolation ⊓ OrderDual.toDual (isolationStrictness .processContainer) }

/-- At most basic 2D graphics. -/
noncomputable def basic2d : Enforcement :=
  { self with gpuCapabilityClass := self.gpuCapabilityClass ⊓ .gpuBasic2d }

theorem le_iff {a b : Enforcement} : a ≤ b ↔ a.fields ≤ b.fields := Iff.rfl

theorem loopback_le : self.loopback ≤ self := by
  simp [le_iff, fields, loopback]

theorem container_le : self.container ≤ self := by
  simp [le_iff, fields, container]

theorem basic2d_le : self.basic2d ≤ self := by
  simp [le_iff, fields, basic2d]

theorem loopback_mono : Monotone loopback := by
  intro a b below
  simp only [le_iff, fields, loopback, Prod.mk_le_mk] at below ⊢
  simp only [below, inf_le_inf_right, and_self]

theorem container_mono : Monotone container := by
  intro a b below
  simp only [le_iff, fields, container, Prod.mk_le_mk] at below ⊢
  simp only [below, inf_le_inf_right, and_self]

theorem basic2d_mono : Monotone basic2d := by
  intro a b below
  simp only [le_iff, fields, basic2d, Prod.mk_le_mk] at below ⊢
  simp only [below, inf_le_inf_right, and_self]

/-- What the rules of the modes make of what is enforced. -/
noncomputable def underModes : Enforcement :=
  let recovered := if recoveryMode then self.loopback.container else self
  if isAi then recovered.loopback.basic2d else recovered

theorem underModes_le : self.underModes recoveryMode isAi ≤ self := by
  have recovered : self.loopback.container ≤ self := (container_le _).trans (loopback_le _)
  unfold underModes
  dsimp only
  split_ifs
  · exact (basic2d_le _).trans ((loopback_le _).trans recovered)
  · exact (basic2d_le _).trans (loopback_le _)
  · exact recovered
  · exact le_rfl

theorem underModes_mono : Monotone (underModes recoveryMode isAi) := by
  intro a b below
  unfold underModes
  dsimp only
  split_ifs
  · exact basic2d_mono (loopback_mono (container_mono (loopback_mono below)))
  · exact basic2d_mono (loopback_mono below)
  · exact container_mono (loopback_mono below)
  · exact below

theorem underModes_recovery :
    (self.underModes true isAi).networkPosture ≤ .loopbackOnly ∧
      isolationStrictness .processContainer ≤ OrderDual.ofDual (self.underModes true isAi).isolation := by
  have contained : isolationStrictness .processContainer ≤ OrderDual.ofDual self.container.isolation :=
    OrderDual.ofDual_le_ofDual.mpr inf_le_right
  cases isAi with
  | false => exact ⟨inf_le_right, contained⟩
  | true => exact ⟨inf_le_right, contained⟩

theorem underModes_ai :
    (self.underModes recoveryMode true).networkPosture ≤ .loopbackOnly ∧
      (self.underModes recoveryMode true).gpuCapabilityClass ≤ .gpuBasic2d :=
  ⟨inf_le_right, inf_le_right⟩

/-- What `validate_policy` asks for: no passthrough without an IOMMU, and no rendering without a device. -/
structure GpuValid (enforced : Enforcement) : Prop where
  dmabuf : enforced.dmabufPassthroughAllowed = true → OrderDual.ofDual enforced.iommuRequired = true
  rendering : .gpuPassiveDisplay < enforced.gpuCapabilityClass → OrderDual.ofDual enforced.vkDeviceRequired = true

theorem gpuValid_inf (a b : Enforcement) (valid : a.GpuValid) (_ : b.GpuValid) : (a ⊓ b).GpuValid := by
  constructor
  · intro allowed
    obtain ⟨allowed, -⟩ := Bool.and_eq_true_iff.mp allowed
    exact Bool.or_eq_true_iff.mpr (.inl (valid.dmabuf allowed))
  · intro rendering
    exact Bool.or_eq_true_iff.mpr (.inl (valid.rendering (lt_of_lt_of_le rendering inf_le_left)))

theorem gpuValid_underModes {self : Enforcement} (valid : self.GpuValid) (recoveryMode isAi : Bool) :
    (self.underModes recoveryMode isAi).GpuValid := by
  have basic2d : ∀ {enforced : Enforcement}, enforced.GpuValid → enforced.loopback.basic2d.GpuValid := by
    intro enforced valid
    exact ⟨valid.dmabuf, fun rendering => valid.rendering (lt_of_lt_of_le rendering inf_le_left)⟩
  have container : self.loopback.container.GpuValid := ⟨valid.dmabuf, valid.rendering⟩
  unfold underModes
  dsimp only
  split_ifs
  · exact basic2d container
  · exact basic2d valid
  · exact container
  · exact valid

end Enforcement

section

variable {α : Type} (profile : SandboxProfile)

/-! ## The enforcement of a profile -/

/-- A cap, where none is the highest. -/
def cap : Option α → WithTop α
  | none => ⊤
  | some value => value

/-- The system calls that a list allows, where no list allows them all. -/
def allowed : Option (List String) → Set String
  | none => Set.univ
  | some list => {entry | entry ∈ list}

def SandboxProfile.enforcement (self : SandboxProfile) : Enforcement where
  isolation := OrderDual.toDual (isolationStrictness self.isolationKind)
  cpuQuotaPercent := self.resourceLimits.cpuQuotaPercent
  memoryMaxBytes := self.resourceLimits.memoryMaxBytes
  ioMaxBytesPerSec := cap self.resourceLimits.ioMaxBytesPerSec
  networkMaxBytesPerSec := cap self.resourceLimits.networkMaxBytesPerSec
  processMaxCount := cap self.resourceLimits.processMaxCount
  fileDescriptorMax := cap self.resourceLimits.fileDescriptorMax
  expiresAt := cap self.resourceLimits.expiresAt
  gpuCapabilityClass := self.gpuPolicy.gpuCapabilityClass
  vkDeviceRequired := OrderDual.toDual self.gpuPolicy.vkDeviceRequired
  dmabufPassthroughAllowed := self.gpuPolicy.dmabufPassthroughAllowed
  perGroupPartitioning := OrderDual.toDual self.gpuPolicy.perGroupPartitioning
  iommuRequired := OrderDual.toDual self.gpuPolicy.iommuRequired
  gpuExpiresAt := cap self.gpuPolicy.expiresAt
  networkPosture := self.networkPosture
  syscalls := allowed self.syscallAllowlist

theorem cap_mergeOptionMin [LinearOrder α] (a b : Option α) : cap (mergeOptionMin a b) = cap a ⊓ cap b := by
  cases a with
  | none => cases b <;> simp [cap, mergeOptionMin]
  | some x =>
    cases b with
    | none => simp [cap, mergeOptionMin]
    | some y => rfl

theorem allowed_mergeSyscallAllowlist (a b : Option (List String)) :
    allowed (mergeSyscallAllowlist a b) = allowed a ⊓ allowed b := by
  cases a with
  | none => cases b <;> simp [allowed, mergeSyscallAllowlist]
  | some list =>
    cases b with
    | none => simp [allowed, mergeSyscallAllowlist]
    | some list' =>
      ext entry
      simp [allowed, mergeSyscallAllowlist]

theorem isolationStrictness_merge (a b : IsolationKind) :
    isolationStrictness (if isolationStrictness a ≥ isolationStrictness b then a else b) =
      max (isolationStrictness a) (isolationStrictness b) := by
  split_ifs with higher
  · exact (max_eq_left higher).symm
  · exact (max_eq_right (not_le.mp higher).le).symm

/-- A merge enforces exactly the meet of what it merges. -/
theorem enforcement_mergeProfiles (base other : SandboxProfile) :
    (mergeProfiles base other).enforcement = base.enforcement ⊓ other.enforcement := by
  apply Enforcement.ext
  · exact congrArg OrderDual.toDual (isolationStrictness_merge base.isolationKind other.isolationKind)
  · rfl
  · rfl
  · exact cap_mergeOptionMin _ _
  · exact cap_mergeOptionMin _ _
  · exact cap_mergeOptionMin _ _
  · exact cap_mergeOptionMin _ _
  · exact cap_mergeOptionMin _ _
  · rfl
  · rfl
  · rfl
  · rfl
  · rfl
  · exact cap_mergeOptionMin _ _
  · rfl
  · exact allowed_mergeSyscallAllowlist _ _

/-- Setting a value that is beyond a bound to the bound is the meet with the bound. -/
theorem enforcement_tighten {α : Type} [LinearOrder α] {value bound : α} {tightened : SandboxProfile × Bool}
    (withValue : α → Enforcement) (own : profile.enforcement = withValue value)
    (set : tightened.1.enforcement = withValue bound) :
    (if bound < value then tightened else (profile, false)).1.enforcement = withValue (value ⊓ bound) := by
  split_ifs with beyond
  · rw [set, inf_eq_right.mpr beyond.le]
  · rw [own, inf_eq_left.mpr (not_lt.mp beyond)]

theorem enforcement_enforceLoopback : (enforceLoopback profile).1.enforcement = profile.enforcement.loopback :=
  enforcement_tighten profile (fun posture => { profile.enforcement with networkPosture := posture }) rfl rfl

theorem enforcement_enforceContainer : (enforceContainer profile).1.enforcement = profile.enforcement.container :=
  enforcement_tighten profile (fun isolation => { profile.enforcement with isolation }) rfl rfl

theorem enforcement_enforceBasic2d : (enforceBasic2d profile).1.enforcement = profile.enforcement.basic2d :=
  enforcement_tighten profile (fun capability => { profile.enforcement with gpuCapabilityClass := capability }) rfl rfl

theorem enforcement_applyRecoveryRules :
    (applyRecoveryRules profile).1.enforcement = profile.enforcement.loopback.container := by
  change (enforceContainer (enforceLoopback profile).1).1.enforcement = _
  rw [enforcement_enforceContainer, enforcement_enforceLoopback]

theorem enforcement_applyAiRules : (applyAiRules profile).1.enforcement = profile.enforcement.loopback.basic2d := by
  change (enforceBasic2d (enforceLoopback profile).1).1.enforcement = _
  rw [enforcement_enforceBasic2d, enforcement_enforceLoopback]

/-! ## The most restrictive source wins

What a composed profile enforces is the meet of the starting profile and the sources that are there, under
the rules of the modes. Everything that is asked of composition follows: it lies below every source and
floor, the order of the merges does not matter, a source less never makes it stricter, and valid GPU
policies compose to a valid one.
-/

theorem validatePolicy_ok_iff : validatePolicy profile.gpuPolicy = .ok () ↔ profile.enforcement.GpuValid := by
  have parts : profile.enforcement.GpuValid ↔
      (profile.gpuPolicy.dmabufPassthroughAllowed = true → profile.gpuPolicy.iommuRequired = true) ∧
        (.gpuPassiveDisplay < profile.gpuPolicy.gpuCapabilityClass → profile.gpuPolicy.vkDeviceRequired = true) :=
    ⟨fun valid => ⟨valid.dmabuf, valid.rendering⟩, fun valid => ⟨valid.1, valid.2⟩⟩
  rw [parts]
  unfold validatePolicy
  split_ifs with dmabuf rendering
  · simp_all
  · simp_all
  · simp_all

/-! ### The sources of a request -/

end

namespace ComposeRequest

variable (self : ComposeRequest)

/-- The sources that are there. -/
def sources : List SandboxProfile := self.mergeOrder.filterMap (·.2)

/-- Sources 2 to 6. -/
inductive Slot where
  | appManifest
  | userRequest
  | policyRequired
  | groupFloor
  | runtimeSafetyFloor
deriving DecidableEq, Repr

/-- The request without one of its sources. -/
def drop : Slot → ComposeRequest
  | .appManifest => { self with appManifest := none }
  | .userRequest => { self with userRequest := none }
  | .policyRequired => { self with policyRequired := none }
  | .groupFloor => { self with groupFloor := none }
  | .runtimeSafetyFloor => { self with runtimeSafetyFloor := none }

theorem mem_sources_iff (source : SandboxProfile) :
    source ∈ self.sources ↔ self.appManifest = some source ∨ self.userRequest = some source ∨
      self.policyRequired = some source ∨ self.groupFloor = some source ∨ self.runtimeSafetyFloor = some source := by
  simp [sources, mergeOrder]

theorem sources_drop_subset (slot : Slot) : (self.drop slot).sources ⊆ self.sources := by
  intro source member
  rw [mem_sources_iff] at member ⊢
  cases slot <;> simp only [drop, reduceCtorEq, false_or, or_false] at member <;> tauto

end ComposeRequest

/-! ### What composition enforces -/

/-- A source that is there is merged. -/
theorem foldl_mergeSource (order : List NamedSource) (start : SandboxProfile × List String) :
    (order.foldl mergeSource start).1 = (order.filterMap (·.2)).foldl mergeProfiles start.1 := by
  induction order generalizing start with
  | nil => rfl
  | cons head rest ih =>
    obtain ⟨name, source⟩ := head
    rw [List.foldl_cons, ih]
    cases source <;> rfl

theorem enforcement_postProcess (request : ComposeRequest) (profile : SandboxProfile) :
    (request.postProcess profile).1.enforcement =
      profile.enforcement.underModes request.recoveryMode request.isAi := by
  unfold ComposeRequest.postProcess Enforcement.underModes
  dsimp only
  split_ifs
  · rw [enforcement_applyAiRules, enforcement_applyRecoveryRules]
  · rw [enforcement_applyAiRules]
  · rw [enforcement_applyRecoveryRules]
  · rfl

namespace InMemorySandboxComposer

variable {self : InMemorySandboxComposer} {request : ComposeRequest} {strictId : ProfileId}

/-- The identifier of the strict default does not matter to what is enforced. -/
theorem startingProfile_enforcement {self : InMemorySandboxComposer} {request request' : ComposeRequest}
    {strictId strictId' : ProfileId} {start start' : SandboxProfile × List String}
    (started : self.startingProfile request strictId = .ok start)
    (started' : self.startingProfile request' strictId' = .ok start')
    (base : request'.baseProfileId = request.baseProfileId)
    (default : request'.adapterDefault = request.adapterDefault) :
    start'.1.enforcement = start.1.enforcement := by
  unfold startingProfile at started started'
  rw [base, default] at started'
  cases baseId : request.baseProfileId with
  | some id =>
    rw [baseId] at started started'
    rw [Except.ok.inj (started.symm.trans started')]
  | none =>
    rw [baseId] at started started'
    cases adapter : request.adapterDefault with
    | some profile =>
      rw [adapter] at started started'
      rw [Except.ok.inj (started.symm.trans started')]
    | none =>
      rw [adapter] at started started'
      cases started
      cases started'
      rfl

/-- A composed profile enforces the meet of the starting profile and the sources, under the modes. -/
theorem composeIn_enforcement {order : List NamedSource} {freshId : ProfileId} {result : ComposeResult}
    (composed : self.composeIn order request strictId freshId = .ok result) :
    ∃ start, self.startingProfile request strictId = .ok start ∧ result.profile.enforcement =
      (Meet.ofList start.1.enforcement ((order.filterMap (·.2)).map SandboxProfile.enforcement)).underModes
        request.recoveryMode request.isAi := by
  unfold composeIn at composed
  cases started : self.startingProfile request strictId with
  | error failure =>
    rw [started] at composed
    cases composed
  | ok start =>
    rw [started] at composed
    cases composed
    refine ⟨start, rfl, ?_⟩
    change (request.postProcess (order.foldl mergeSource start).1).1.enforcement = _
    rw [enforcement_postProcess, foldl_mergeSource, Meet.view_foldl enforcement_mergeProfiles]

end InMemorySandboxComposer

/-! ### The claim of the composer -/

/-- What composition is for. -/
structure MostRestrictiveWins (composer : InMemorySandboxComposer) (request : ComposeRequest)
    (start composed : SandboxProfile) : Prop where
  belowSources : ∀ source ∈ start :: request.sources, composed.enforcement ≤ source.enforcement
  recoveryFloor : request.recoveryMode = true → composed.networkPosture ≤ .loopbackOnly ∧
    isolationStrictness .processContainer ≤ isolationStrictness composed.isolationKind
  aiFloor : request.isAi = true → composed.networkPosture ≤ .loopbackOnly ∧
    composed.gpuPolicy.gpuCapabilityClass ≤ .gpuBasic2d
  anyOrder : ∀ order strictId freshId reordered, order.Perm request.mergeOrder →
    composer.composeIn order request strictId freshId = .ok reordered →
      reordered.profile.enforcement = composed.enforcement
  dropping : ∀ slot strictId freshId looser, composer.compose (request.drop slot) strictId freshId = .ok looser →
    composed.enforcement ≤ looser.profile.enforcement
  gpuValid : (∀ source ∈ start :: request.sources, validatePolicy source.gpuPolicy = .ok ()) →
    validatePolicy composed.gpuPolicy = .ok ()

/-- Composition is most-restrictive-wins. -/
theorem compose_mostRestrictiveWins {composer : InMemorySandboxComposer} {request : ComposeRequest}
    {strictId freshId : ProfileId} {result : ComposeResult}
    (composed : composer.compose request strictId freshId = .ok result) :
    ∃ start, composer.startingProfile request strictId = .ok start ∧
      MostRestrictiveWins composer request start.1 result.profile := by
  obtain ⟨start, started, enforced⟩ := InMemorySandboxComposer.composeIn_enforcement composed
  change result.profile.enforcement =
    (Meet.ofList start.1.enforcement (request.sources.map SandboxProfile.enforcement)).underModes _ _ at enforced
  have below := Enforcement.underModes_le request.recoveryMode request.isAi
    (Meet.ofList start.1.enforcement (request.sources.map SandboxProfile.enforcement))
  refine ⟨start, started, ?_, ?_, ?_, ?_, ?_, ?_⟩
  · intro source member
    rw [enforced]
    apply below.trans
    obtain rfl | member := List.mem_cons.mp member
    · exact Meet.ofList_le_start _ _
    · exact Meet.ofList_le_of_mem (List.mem_map_of_mem member)
  · intro recovery
    have floor := Enforcement.underModes_recovery request.isAi
      (Meet.ofList start.1.enforcement (request.sources.map SandboxProfile.enforcement))
    rw [← recovery, ← enforced] at floor
    exact floor
  · intro ai
    have floor := Enforcement.underModes_ai request.recoveryMode
      (Meet.ofList start.1.enforcement (request.sources.map SandboxProfile.enforcement))
    rw [← ai, ← enforced] at floor
    exact floor
  · intro order strictId' freshId' reordered perm composed'
    obtain ⟨start', started', enforced'⟩ := InMemorySandboxComposer.composeIn_enforcement composed'
    rw [enforced', enforced, InMemorySandboxComposer.startingProfile_enforcement started started' rfl rfl,
      Meet.ofList_perm ((perm.filterMap _).map _)]
    rfl
  · intro slot strictId' freshId' looser composed'
    obtain ⟨start', started', enforced'⟩ := InMemorySandboxComposer.composeIn_enforcement composed'
    have same : start'.1.enforcement = start.1.enforcement := by
      cases slot <;> exact InMemorySandboxComposer.startingProfile_enforcement started started' rfl rfl
    have modes : (request.drop slot).recoveryMode = request.recoveryMode ∧ (request.drop slot).isAi = request.isAi := by
      cases slot <;> exact ⟨rfl, rfl⟩
    rw [enforced', enforced, same, modes.1, modes.2]
    apply Enforcement.underModes_mono
    exact Meet.ofList_anti (List.map_subset _ (request.sources_drop_subset slot))
  · intro valid
    rw [validatePolicy_ok_iff, enforced]
    apply Enforcement.gpuValid_underModes
    apply Meet.ofList_induction Enforcement.gpuValid_inf
    · exact (validatePolicy_ok_iff start.1).mp (valid start.1 List.mem_cons_self)
    · intro value member
      obtain ⟨source, present, rfl⟩ := List.mem_map.mp member
      exact (validatePolicy_ok_iff source).mp (valid source (List.mem_cons_of_mem _ present))

/-! ### An example -/

/-- An adapter's default that allows passthrough behind an IOMMU. -/
def exampleDefault : SandboxProfile where
  profileId := ⟨"sbx_default"⟩
  name := "default"
  description := ""
  isolationKind := .namespaceLocal
  resourceLimits := ⟨75, 1024, none, none, some 64, none, none⟩
  gpuPolicy := ⟨.gpuFull3d, true, true, false, true, none⟩
  networkPosture := .hostLimited
  syscallAllowlist := none
  signingAuthority := "aios-root"
  signatureEd25519 := []

def exampleRequest : ComposeRequest where
  baseProfileId := none
  adapterDefault := some exampleDefault
  appManifest := some (.newStrict ⟨"sbx_app"⟩ "app" "")
  userRequest := none
  policyRequired := none
  groupFloor := none
  runtimeSafetyFloor := none
  recoveryMode := true
  isAi := true

/-- The most restrictive source wins in the composition of the example. -/
theorem compose_mostRestrictiveWins_example : ∃ result,
    (InMemorySandboxComposer.mk ∅).compose exampleRequest ⟨"sbx_strict"⟩ ⟨"sbx_fresh"⟩ = .ok result ∧
      ∃ start, (InMemorySandboxComposer.mk ∅).startingProfile exampleRequest ⟨"sbx_strict"⟩ = .ok start ∧
        MostRestrictiveWins ⟨∅⟩ exampleRequest start.1 result.profile :=
  ⟨_, rfl, compose_mostRestrictiveWins rfl⟩

end Aios.Profile
