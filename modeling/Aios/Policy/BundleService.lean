import Aios.Policy.BundleFlips

/-! # The bundle calls of the gRPC service

`PolicyKernelService` with the RPCs that flip the active bundle. The service keeps a version label of
its own beside the active bundle of the kernel, and swaps the two one after the other. The conversion of
a bundle from the wire and the checks of the `BundleLoader` (version pin, authority, signature, rules)
are one fallible function. The cache of the service is a handle of its own.
-/

namespace Aios.Policy

open Aios.Rust
open Succession (Flip Record Shows)

/-- The `tonic::Code`s of the bundle calls. -/
inductive Code where
  | unauthenticated
  | invalidArgument
  | failedPrecondition
  | unimplemented
deriving DecidableEq, Repr

/-- `tonic::Status`. -/
structure Status where
  code : Code
  message : String
deriving DecidableEq, Repr

def PolicyError.toCode : PolicyError → Code
  | .subjectUnauthenticated => .unauthenticated
  | .enrichmentUnavailable | .bundleLoad _ | .bundleSignatureInvalid | .bundleVersionMismatch .. |
    .bundleUnknownAuthority _ => .failedPrecondition
  | .schemaInvalid _ | .constraintsInvalid _ | .conditionParse _ | .conditionEval _ | .invalidPolicyBundle _ =>
    .invalidArgument

/-- `policy_error_to_status`. -/
def PolicyError.toStatus (self : PolicyError) : Status := ⟨self.toCode, self.display⟩

/-- `proto_bundle_to_rust` and then `BundleLoader::accept_bundle`. -/
structure BundleLoader (Wire : Type) where
  acceptBundle : Wire → Except PolicyError PolicyBundle

def DEFAULT_BUNDLE_VERSION : String := "polb_default"

structure PolicyKernelService (Wire : Type) where
  inMemoryKernel : Option PolicyKernel := none
  activeBundleVersion : String := DEFAULT_BUNDLE_VERSION
  bundleLoader : Option (BundleLoader Wire) := none
  cache : Option DecisionCache := none

structure LoadBundleResponse where
  bundleVersion : String
  active : Bool
  statusMessage : String
  activatedAt : DateTime
deriving DecidableEq, Repr

structure RollbackBundleResponse where
  previousBundleVersion : String
  currentBundleVersion : String
  evidenceReceiptId : String
deriving DecidableEq, Repr

namespace PolicyKernelService

variable {Wire : Type}

variable (self : PolicyKernelService Wire)

/-- Drop the cached decisions of a bundle version; the count is the number dropped. -/
def invalidateForBundle (bundleVersion : String) : ℕ × PolicyKernelService Wire :=
  ((self.cache.map fun cache => cache.entries.count fun key _ => key.bundleVersion == bundleVersion).getD 0,
    { self with cache := self.cache.map (·.retain fun key => key.bundleVersion != bundleVersion) })

def loadBundle (bundle : Option Wire) (stageOnly : Bool) (activatedAt : DateTime) :
    Except Status LoadBundleResponse × PolicyKernelService Wire :=
  match bundle with
  | none => (.error ⟨.invalidArgument, "LoadBundleRequest.bundle is required"⟩, self)
  | some protoBundle =>
    match self.bundleLoader with
    | none =>
      (.error ⟨.unimplemented,
        "LoadBundle disabled — service constructed without a BundleLoader (T-024 opt-in)"⟩, self)
    | some loader =>
      match loader.acceptBundle protoBundle with
      | .error failure => (.error failure.toStatus, self)
      | .ok verified =>
        let newVersion := verified.bundleVersion
        if stageOnly then
          (.ok ⟨newVersion, false, "bundle verified; not activated (stage_only=true)", activatedAt⟩, self)
        else
          let previousVersion := self.activeBundleVersion
          let swapped := { self with
            activeBundleVersion := newVersion
            inMemoryKernel := self.inMemoryKernel.map fun kernel => (PolicyKernel.setActiveBundle kernel verified).2 }
          let (invalidated, after) := swapped.invalidateForBundle previousVersion
          (.ok ⟨newVersion, true, "bundle activated; previous=" ++ previousVersion ++ "; cache entries invalidated=" ++
            toString invalidated, activatedAt⟩, after)

/-- `ulid` is the body of the receipt id minted for the call. -/
def rollbackBundle (targetBundleVersion ulid : String) :
    Except Status RollbackBundleResponse × PolicyKernelService Wire :=
  match self.inMemoryKernel with
  | none =>
    (.error ⟨.unimplemented, "RollbackBundle requires an InMemoryPolicyKernel (constructed via " ++
      "PolicyKernelService::new_in_memory)"⟩, self)
  | some kernel =>
    match kernel.rollbackActiveBundle with
    | (none, kernel) =>
      (.error ⟨.failedPrecondition,
        "RollbackBundle: rollback stack is empty (no previous bundle to restore — S2.3 §12.5)"⟩,
        { self with inMemoryKernel := some kernel })
    | (some (restored, _), kernel) =>
      if targetBundleVersion ≠ "" ∧ targetBundleVersion ≠ restored.bundleVersion then
        -- the restored bundle is set once more, and not the one it has displaced
        (.error ⟨.failedPrecondition, "RollbackBundle: target_bundle_version=" ++ targetBundleVersion ++
          " but the rollback stack head is " ++ restored.bundleVersion ++ " (S2.3 §12.5)"⟩,
          { self with inMemoryKernel := some (kernel.setActiveBundle restored).2 })
      else
        let previouslyActive := self.activeBundleVersion
        let swapped := { self with activeBundleVersion := restored.bundleVersion, inMemoryKernel := some kernel }
        (.ok ⟨previouslyActive, restored.bundleVersion, "evr_rb_" ++ ulid⟩,
          (swapped.invalidateForBundle previouslyActive).2)

end PolicyKernelService

/-- A bundle call, with the clock reading or the fresh id it draws. -/
inductive BundleRpc (Wire : Type) where
  | loadBundle (bundle : Option Wire) (stageOnly : Bool) (activatedAt : DateTime)
  | rollbackBundle (targetBundleVersion ulid : String)

namespace PolicyKernelService

variable {Wire : Type}

variable {self : PolicyKernelService Wire} {kernel : PolicyKernel} {restored : PolicyBundle}

def step (self : PolicyKernelService Wire) : BundleRpc Wire → PolicyKernelService Wire
  | .loadBundle bundle stageOnly activatedAt => (self.loadBundle bundle stageOnly activatedAt).2
  | .rollbackBundle targetBundleVersion ulid => (self.rollbackBundle targetBundleVersion ulid).2

/-- What a call puts on record: a load that activates sets its bundle, a rollback that succeeds restores one, and
a call that fails or only stages does neither. -/
def recorded (self : PolicyKernelService Wire) : BundleRpc Wire → List (Flip PolicyBundle)
  | .loadBundle bundle stageOnly _ =>
    if stageOnly then []
    else ((bundle.bind fun wire => self.bundleLoader.bind fun loader => (loader.acceptBundle wire).toOption).map
      Flip.set).toList
  | .rollbackBundle targetBundleVersion ulid =>
    match (self.rollbackBundle targetBundleVersion ulid).1 with
    | .ok _ => [.rollback]
    | .error _ => []

/-- The service with an in-memory kernel. -/
def newInMemory (kernel : PolicyKernel) (bundleLoader : Option (BundleLoader Wire)) (cache : Option DecisionCache) :
    PolicyKernelService Wire := { inMemoryKernel := some kernel, bundleLoader, cache }

/-! ## What a call does to the kernel and the label -/

/-- A rollback that names the version of another bundle. -/
def NamesOther (restored : PolicyBundle) : BundleRpc Wire → Prop
  | .loadBundle .. => False
  | .rollbackBundle targetBundleVersion _ => targetBundleVersion ≠ "" ∧ targetBundleVersion ≠ restored.bundleVersion

/-- A rollback that names a version other than that of the top of the stack. -/
def Mismatched (kernel : PolicyKernel) (restored : PolicyBundle) (rpc : BundleRpc Wire) : Prop :=
  kernel.rollbackStack.getLast? = some restored ∧ NamesOther restored rpc

/-- How a call changes the kernel and the label: not at all; by setting the bundle that it puts on record, or by
the rollback it puts on record, with the label along; or by a rollback and a call to set that it does not put on
record. -/
inductive Effect (self : PolicyKernelService Wire) (kernel : PolicyKernel) (rpc : BundleRpc Wire) : Prop
  | unchanged (none_ : self.recorded rpc = []) (kept : (self.step rpc).inMemoryKernel = some kernel)
      (label : (self.step rpc).activeBundleVersion = self.activeBundleVersion)
  | set (bundle : PolicyBundle) (one : self.recorded rpc = [.set bundle])
      (kept : (self.step rpc).inMemoryKernel = some (kernel.flip (.set bundle)))
      (label : (self.step rpc).activeBundleVersion = bundle.bundleVersion)
  | rolledBack (restored : PolicyBundle) (top : kernel.rollbackStack.getLast? = some restored)
      (one : self.recorded rpc = [.rollback]) (kept : (self.step rpc).inMemoryKernel = some (kernel.flip .rollback))
      (label : (self.step rpc).activeBundleVersion = restored.bundleVersion)
  | mismatched (restored : PolicyBundle) (mismatch : Mismatched kernel restored rpc) (none_ : self.recorded rpc = [])
      (kept : (self.step rpc).inMemoryKernel = some ((kernel.flip .rollback).flip (.set restored)))
      (label : (self.step rpc).activeBundleVersion = self.activeBundleVersion)

theorem effect_loadBundle (held : self.inMemoryKernel = some kernel) (bundle : Option Wire) (stageOnly : Bool)
    (activatedAt : DateTime) : Effect self kernel (.loadBundle bundle stageOnly activatedAt) := by
  have refused (none_ : (bundle.bind fun wire => self.bundleLoader.bind fun loader =>
      (loader.acceptBundle wire).toOption) = none) (kept : (self.loadBundle bundle stageOnly activatedAt).2 = self) :
      Effect self kernel (.loadBundle bundle stageOnly activatedAt) := by
    refine .unchanged ?_ (by rw [step, kept, held]) (by rw [step, kept])
    rw [recorded, none_]
    cases stageOnly <;> rfl
  cases bundle with
  | none => exact refused rfl rfl
  | some wire =>
    cases loads : self.bundleLoader with
    | none => exact refused (by rw [loads]; rfl) (by rw [loadBundle, loads])
    | some loader =>
      cases verdict : loader.acceptBundle wire with
      | error failure =>
        exact refused (by simp [loads, verdict, Except.toOption]) (by simp [loadBundle, loads, verdict])
      | ok verified =>
        cases stageOnly with
        | true =>
          have kept : (self.loadBundle (some wire) true activatedAt).2 = self := by simp [loadBundle, loads, verdict]
          exact .unchanged rfl (by rw [step, kept, held]) (by rw [step, kept])
        | false =>
          refine .set verified ?_ ?_ ?_
          · simp [recorded, loads, verdict, Except.toOption]
          · simp [step, loadBundle, loads, verdict, invalidateForBundle, held, PolicyKernel.flip]
          · simp [step, loadBundle, loads, verdict, invalidateForBundle]

theorem rollbackActiveBundle_of_top (top : kernel.rollbackStack.getLast? = some restored) :
    kernel.rollbackActiveBundle =
      (some (restored, kernel.activeBundle.map PolicyBundle.bundleVersion), kernel.flip .rollback) := by
  rw [PolicyKernel.flip, PolicyKernel.rollbackActiveBundle, top]

theorem step_of_mismatched (held : self.inMemoryKernel = some kernel) {rpc : BundleRpc Wire}
    (mismatch : Mismatched kernel restored rpc) :
    self.recorded rpc = [] ∧
      (self.step rpc).inMemoryKernel = some ((kernel.flip .rollback).flip (.set restored)) ∧
      (self.step rpc).activeBundleVersion = self.activeBundleVersion := by
  obtain ⟨top, other⟩ := mismatch
  cases rpc with
  | loadBundle bundle stageOnly activatedAt => exact other.elim
  | rollbackBundle targetBundleVersion ulid =>
    have differs : targetBundleVersion ≠ "" ∧ targetBundleVersion ≠ restored.bundleVersion := other
    rw [recorded, step, rollbackBundle, held]
    dsimp only
    rw [rollbackActiveBundle_of_top top]
    dsimp only
    rw [if_pos differs]
    exact ⟨rfl, rfl, rfl⟩

/-- A rollback that finds no bundle changes nothing. -/
theorem step_of_empty (held : self.inMemoryKernel = some kernel) (empty : kernel.rollbackStack.getLast? = none)
    (targetBundleVersion ulid : String) :
    self.recorded (.rollbackBundle targetBundleVersion ulid) = [] ∧
      (self.step (.rollbackBundle targetBundleVersion ulid)).inMemoryKernel = some kernel ∧
      (self.step (.rollbackBundle targetBundleVersion ulid)).activeBundleVersion = self.activeBundleVersion := by
  have stuck : kernel.rollbackActiveBundle = (none, kernel) := by rw [PolicyKernel.rollbackActiveBundle, empty]
  rw [recorded, step, rollbackBundle, held]
  dsimp only
  rw [stuck]
  exact ⟨rfl, rfl, rfl⟩

/-- A rollback to the version of the top of the stack, or to no version by name, is the rollback of the kernel. -/
theorem step_of_matched (held : self.inMemoryKernel = some kernel) (top : kernel.rollbackStack.getLast? = some restored)
    {targetBundleVersion : String}
    (matches_ : ¬(targetBundleVersion ≠ "" ∧ targetBundleVersion ≠ restored.bundleVersion)) (ulid : String) :
    self.recorded (.rollbackBundle targetBundleVersion ulid) = [.rollback] ∧
      (self.step (.rollbackBundle targetBundleVersion ulid)).inMemoryKernel = some (kernel.flip .rollback) ∧
      (self.step (.rollbackBundle targetBundleVersion ulid)).activeBundleVersion = restored.bundleVersion := by
  rw [recorded, step, rollbackBundle, held]
  dsimp only
  rw [rollbackActiveBundle_of_top top]
  dsimp only
  rw [if_neg matches_]
  exact ⟨rfl, rfl, rfl⟩

theorem effect_rollbackBundle (held : self.inMemoryKernel = some kernel) (targetBundleVersion ulid : String) :
    Effect self kernel (.rollbackBundle targetBundleVersion ulid) := by
  cases top : kernel.rollbackStack.getLast? with
  | none =>
    obtain ⟨none_, kept, label⟩ := step_of_empty held top targetBundleVersion ulid
    exact .unchanged none_ kept label
  | some restored =>
    by_cases mismatch : targetBundleVersion ≠ "" ∧ targetBundleVersion ≠ restored.bundleVersion
    · have mismatched : Mismatched kernel restored (.rollbackBundle targetBundleVersion ulid : BundleRpc Wire) :=
        ⟨top, mismatch⟩
      obtain ⟨none_, kept, label⟩ := step_of_mismatched held mismatched
      exact .mismatched restored mismatched none_ kept label
    · obtain ⟨one, kept, label⟩ := step_of_matched held top mismatch ulid
      exact .rolledBack restored top one kept label

theorem effect_step (held : self.inMemoryKernel = some kernel) (rpc : BundleRpc Wire) : Effect self kernel rpc := by
  cases rpc with
  | loadBundle bundle stageOnly activatedAt => exact effect_loadBundle held bundle stageOnly activatedAt
  | rollbackBundle targetBundleVersion ulid => exact effect_rollbackBundle held targetBundleVersion ulid

end PolicyKernelService

/-- A service beside the record of its calls. -/
structure Recorded (Wire : Type) where
  service : PolicyKernelService Wire
  record : Record PolicyBundle

namespace Recorded

variable {Wire : Type}

variable {capacity : ℕ} {self : Recorded Wire} {rpc : BundleRpc Wire} (kernel : PolicyKernel)

def step (capacity : ℕ) (self : Recorded Wire) (rpc : BundleRpc Wire) : Recorded Wire :=
  ⟨self.service.step rpc, self.record.run capacity (self.service.recorded rpc)⟩

def run (capacity : ℕ) (self : Recorded Wire) (rpcs : List (BundleRpc Wire)) : Recorded Wire :=
  StepRun.run (step capacity) self rpcs

/-- From the first load on there is an active bundle and the label is its version; it is the one on record, and the
rollback stack holds the latest bundles displaced on record, up to its capacity. -/
def Agrees (capacity : ℕ) (self : Recorded Wire) : Prop :=
  ∃ kernel, self.service.inMemoryKernel = some kernel ∧ kernel.rollbackCapacity = capacity ∧
    (kernel.activeBundle = none → self.record = .new PolicyBundle) ∧
    (∀ bundle, kernel.activeBundle = some bundle → self.service.activeBundleVersion = bundle.bundleVersion) ∧
    Shows capacity kernel.succession self.record

/-- The call is a rollback that names another version than that of the top of the stack, and the top is not the
active bundle itself. -/
def SwapsOnMismatch (self : Recorded Wire) (rpc : BundleRpc Wire) : Prop :=
  ∃ kernel restored, self.service.inMemoryKernel = some kernel ∧ PolicyKernelService.Mismatched kernel restored rpc ∧
    kernel.activeBundle ≠ some restored

theorem step_record_of_unrecorded (capacity : ℕ) (unrecorded : self.service.recorded rpc = []) :
    (self.step capacity rpc).record = self.record := by
  rw [step, unrecorded]
  rfl

/-- After a mismatch the top of the stack is in the slot, and it is not on record there. -/
theorem Agrees.not_step_of_swaps (agrees : self.Agrees capacity) (swaps : self.SwapsOnMismatch rpc) :
    ¬(self.step capacity rpc).Agrees capacity := by
  obtain ⟨kernel, held, -, -, -, shows_⟩ := agrees
  obtain ⟨kernel', restored, held', mismatch, differs⟩ := swaps
  obtain rfl := Option.some.inj (held.symm.trans held')
  rintro ⟨after, heldAfter, -, -, -, showsAfter⟩
  obtain ⟨none_, kept, -⟩ := PolicyKernelService.step_of_mismatched held mismatch
  have installed : after = (kernel.flip .rollback).flip (.set restored) := Option.some.inj (heldAfter.symm.trans kept)
  apply differs
  calc
    kernel.activeBundle = self.record.active := shows_.active
    _ = (self.step capacity rpc).record.active := by rw [step_record_of_unrecorded capacity none_]
    _ = after.activeBundle := showsAfter.active.symm
    _ = some restored := by rw [installed]; rfl

/-- To take the active bundle itself from the top of the stack and to set it again leaves the kernel as it was. -/
theorem succession_of_swapped {kernel : PolicyKernel} {restored : PolicyBundle} {record : Record PolicyBundle}
    (bound : kernel.rollbackCapacity = capacity) (shows_ : Shows capacity kernel.succession record)
    (top : kernel.rollbackStack.getLast? = some restored) (active : kernel.activeBundle = some restored) :
    ((kernel.flip .rollback).flip (.set restored)).succession = kernel.succession := by
  rw [(PolicyKernel.succession_flip _ _).1, (PolicyKernel.succession_flip _ _).1, (PolicyKernel.succession_flip _ _).2]
  exact Succession.set_of_rolledBack top active (bound ▸ shows_.depth ▸ shows_.bound)

theorem Agrees.step_of_fits {capacity : ℕ} (positive : 0 < capacity) {self : Recorded Wire} {rpc : BundleRpc Wire}
    (agrees : self.Agrees capacity) (fits : ¬self.SwapsOnMismatch rpc) : (self.step capacity rpc).Agrees capacity := by
  obtain ⟨kernel, held, bound, unloaded, label, shows_⟩ := agrees
  have flipped (flip : Flip PolicyBundle) :
      Shows capacity (kernel.flip flip).succession (self.record.run capacity [flip]) := by
    rw [(kernel.succession_flip flip).1, bound]
    exact shows_.flip positive flip
  cases PolicyKernelService.effect_step held rpc with
  | unchanged none_ kept sameLabel =>
    rw [Agrees, step_record_of_unrecorded capacity none_]
    exact ⟨kernel, kept, bound, unloaded, fun bundle active => sameLabel.trans (label bundle active), shows_⟩
  | set bundle one kept newLabel =>
    refine ⟨_, kept, (kernel.succession_flip _).2.trans bound, fun none_ =>
      absurd none_ (Option.some_ne_none _), ?_, ?_⟩
    · intro active isActive
      obtain rfl : bundle = active := Option.some.inj isActive
      exact newLabel
    · rw [step, one]
      exact flipped _
  | rolledBack restored top one kept newLabel =>
    have restores : (kernel.flip .rollback).activeBundle = some restored := by
      rw [PolicyKernel.flip, PolicyKernel.rollbackActiveBundle, top]
      rfl
    refine ⟨_, kept, (kernel.succession_flip _).2.trans bound, fun none_ =>
      absurd (restores.symm.trans none_) (Option.some_ne_none _), ?_, ?_⟩
    · intro active isActive
      obtain rfl : restored = active := Option.some.inj (restores.symm.trans isActive)
      exact newLabel
    · rw [step, one]
      exact flipped _
  | mismatched restored mismatch none_ kept sameLabel =>
    have active : kernel.activeBundle = some restored :=
      by_contra fun differs => fits ⟨kernel, restored, held, mismatch, differs⟩
    have capacity_ : ((kernel.flip .rollback).flip (.set restored)).rollbackCapacity = capacity := by
      rw [(PolicyKernel.succession_flip _ _).2, (PolicyKernel.succession_flip _ _).2, bound]
    have same := succession_of_swapped bound shows_ mismatch.1 active
    refine ⟨_, kept, capacity_, fun absent => absurd absent (Option.some_ne_none _), ?_, ?_⟩
    · intro bundle isActive
      exact sameLabel.trans (label bundle ((congrArg Succession.active same).symm.trans isActive))
    · rw [step_record_of_unrecorded capacity none_, same]
      exact shows_

theorem Agrees.step_iff (positive : 0 < capacity) (agrees : self.Agrees capacity) (rpc : BundleRpc Wire) :
    (self.step capacity rpc).Agrees capacity ↔ ¬self.SwapsOnMismatch rpc :=
  ⟨fun after swaps => agrees.not_step_of_swaps swaps after, agrees.step_of_fits positive⟩

/-- A service around a fresh kernel, before its first call. -/
def start (bundleLoader : Option (BundleLoader Wire)) (cache : Option DecisionCache) : Recorded Wire :=
  ⟨.newInMemory kernel bundleLoader cache, .new PolicyBundle⟩

/-- The label, the active bundle and the rollback stack agree with the record throughout a run exactly if no call of it
is a rollback that names another version than that of the top of the stack, with another bundle active. -/
theorem bundle_versions_agree_iff (bundleLoader : Option (BundleLoader Wire)) (cache : Option DecisionCache)
    (rpcs : List (BundleRpc Wire)) (inactive : kernel.activeBundle = none) (empty : kernel.rollbackStack = [])
    (positive : 0 < kernel.rollbackCapacity) :
    (∀ moment, moment <+: rpcs →
      ((start kernel bundleLoader cache).run kernel.rollbackCapacity moment).Agrees kernel.rollbackCapacity) ↔
    ∀ before rpc rest, rpcs = before ++ rpc :: rest →
      ¬((start kernel bundleLoader cache).run kernel.rollbackCapacity before).SwapsOnMismatch rpc := by
  refine @StepRun.forall_prefix_iff_cut _ _ (step kernel.rollbackCapacity) (Agrees kernel.rollbackCapacity)
    (fun self rpc => ¬self.SwapsOnMismatch rpc) (start kernel bundleLoader cache) rpcs ?_ ?_
  · refine ⟨kernel, rfl, rfl, fun _ => rfl, fun bundle active => ?_, ⟨inactive, ?_, Nat.zero_le _, ?_⟩⟩
    · cases inactive.symm.trans active
    · exact congrArg List.length empty
    · rw [PolicyKernel.succession, empty]
      exact List.nil_suffix
  · exact fun before rpc rest _ agrees => agrees.step_iff positive rpc

/-- A loader that accepts every bundle. -/
def trusting : BundleLoader PolicyBundle := ⟨.ok⟩

/-- Two bundles are loaded, and a rollback asks for the one before the current. -/
def rolledBack : List (BundleRpc PolicyBundle) :=
  [.loadBundle (some (Flipping.versioned "v1")) false 0, .loadBundle (some (Flipping.versioned "v2")) false 1,
    .rollbackBundle "v1" "R"]

theorem bundle_versions_agree_rolledBack :
    ¬∃ moment, moment <+: rolledBack ∧ ¬((start {} (some trusting) none).run 8 moment).Agrees 8 := by
  have fits : StepRun.Along (step 8) (fun self rpc => ¬self.SwapsOnMismatch rpc)
      (start {} (some trusting) none) rolledBack := by
    refine ⟨?_, ?_, ?_, trivial⟩
    · rintro ⟨kernel, restored, -, ⟨-, other⟩, -⟩
      exact other
    · rintro ⟨kernel, restored, -, ⟨-, other⟩, -⟩
      exact other
    · rintro ⟨kernel, restored, held, ⟨top, other⟩, -⟩
      obtain rfl := Option.some.inj held
      obtain rfl := Option.some.inj top
      exact other.2 rfl
  have agree := (bundle_versions_agree_iff {} (some trusting) none rolledBack rfl rfl (by decide)).mpr
    ((StepRun.along_iff_cut _ _ _ _).mp fits)
  rintro ⟨moment, inside, disagrees⟩
  exact disagrees (agree moment inside)

/-- A rollback asks for a version that is not on the stack. -/
def mistaken : List (BundleRpc PolicyBundle) :=
  [.loadBundle (some (Flipping.versioned "v1")) false 0, .loadBundle (some (Flipping.versioned "v2")) false 1,
    .rollbackBundle "v0" "R"]

/-- The call fails, the label stays with the second bundle, and the first one is active. -/
theorem bundle_versions_disagree :
    ¬∀ (kernel : PolicyKernel) (bundleLoader : Option (BundleLoader PolicyBundle)) (cache : Option DecisionCache)
      (rpcs : List (BundleRpc PolicyBundle)), kernel.activeBundle = none → kernel.rollbackStack = [] →
      0 < kernel.rollbackCapacity → ∀ after bundle,
        ((start kernel bundleLoader cache).run kernel.rollbackCapacity rpcs).service.inMemoryKernel = some after →
          after.activeBundle = some bundle →
            ((start kernel bundleLoader cache).run kernel.rollbackCapacity rpcs).service.activeBundleVersion =
              bundle.bundleVersion := by
  intro agree
  have label := agree {} (some trusting) none mistaken rfl rfl (by decide) _ (Flipping.versioned "v1") rfl rfl
  exact absurd label (by decide)

end Recorded

/-! ## Rollbacks that fail

A `RollbackBundle` call that fails on the version it names has already rolled the kernel back and cleared the
override grants; it then sets the restored bundle once more. What that leaves as it was.
-/

namespace PolicyKernelService

variable {Wire : Type}

/-- Nothing that a rollback writes has changed. -/
structure Untouched (before after : PolicyKernelService Wire) : Prop where
  activeBundle : after.inMemoryKernel.map (·.activeBundle) = before.inMemoryKernel.map (·.activeBundle)
  rollbackStack : after.inMemoryKernel.map (·.rollbackStack) = before.inMemoryKernel.map (·.rollbackStack)
  grants : after.inMemoryKernel.map (·.overrideBoundary) = before.inMemoryKernel.map (·.overrideBoundary)
  activeBundleVersion : after.activeBundleVersion = before.activeBundleVersion

theorem Untouched.refl (self : PolicyKernelService Wire) : Untouched self self := ⟨rfl, rfl, rfl, rfl⟩

/-- To roll back and to set the restored bundle once more changes nothing: it is the active bundle, pushing it
once more drops no other, and there are no grants. -/
structure RestoresItself (kernel : PolicyKernel) (restored : PolicyBundle) : Prop where
  active : kernel.activeBundle = some restored
  room : kernel.rollbackStack.length ≤ max 1 kernel.rollbackCapacity
  ungranted : ∀ boundary, kernel.overrideBoundary = some boundary → boundary.grants = ∅

/-- A push onto a stack that one has been taken from brings it back unless it drops the oldest. -/
theorem push_dropLast_iff {capacity : ℕ} {stack : List PolicyBundle} {top pushed : PolicyBundle}
    (last : stack.getLast? = some top) :
    (if capacity ≤ stack.dropLast.length ∧ stack.dropLast ≠ [] then stack.dropLast.drop 1 else stack.dropLast) ++
        [pushed] = stack ↔ pushed = top ∧ stack.length ≤ max 1 capacity := by
  obtain ⟨earlier, rfl⟩ : ∃ earlier, stack = earlier ++ [top] :=
    ⟨stack.dropLast, (List.dropLast_append_getLast? top last).symm⟩
  rw [List.dropLast_concat, List.length_append, List.length_singleton]
  split
  · next full =>
    obtain ⟨long, inhabited⟩ := full
    have positive : 0 < earlier.length := List.length_pos_iff.mpr inhabited
    apply iff_of_false
    · intro same
      have lengths := congrArg List.length same
      simp only [List.length_append, List.length_drop, List.length_singleton] at lengths
      omega
    · rintro ⟨-, bound⟩
      omega
  · next room =>
    have short : earlier.length + 1 ≤ max 1 capacity := by
      by_cases empty : earlier = []
      · rw [empty]
        exact Nat.le_max_left 1 capacity
      · have below : ¬capacity ≤ earlier.length := fun long => room ⟨long, empty⟩
        omega
    rw [List.append_cancel_left_eq, List.singleton_inj, and_iff_left short]

theorem clearGrants_iff {boundary : Option OverrideBoundary} :
    (boundary.map fun boundary => boundary.invalidateForBundleFlip.2) = boundary ↔
      ∀ stored, boundary = some stored → stored.grants = ∅ := by
  cases boundary with
  | none => simp
  | some stored =>
    obtain ⟨grants⟩ := stored
    simp only [Option.map_some, OverrideBoundary.invalidateForBundleFlip, Option.some.injEq,
      OverrideBoundary.mk.injEq, forall_eq']
    exact eq_comm

/-- The kernel after the rollback and the call to set is as it was exactly if it restores itself. -/
theorem flip_flip_iff {kernel : PolicyKernel} {restored : PolicyBundle}
    (top : kernel.rollbackStack.getLast? = some restored) :
    (((kernel.flip .rollback).flip (.set restored)).activeBundle = kernel.activeBundle ∧
      ((kernel.flip .rollback).flip (.set restored)).rollbackStack = kernel.rollbackStack ∧
      ((kernel.flip .rollback).flip (.set restored)).overrideBoundary = kernel.overrideBoundary) ↔
    RestoresItself kernel restored := by
  have rolledBack : kernel.flip .rollback =
      { kernel with activeBundle := some restored, rollbackStack := kernel.rollbackStack.dropLast }.clearGrants := by
    rw [PolicyKernel.flip, PolicyKernel.rollbackActiveBundle, top]
  have cleared : ((kernel.flip .rollback).flip (.set restored)).overrideBoundary =
      kernel.overrideBoundary.map fun boundary => boundary.invalidateForBundleFlip.2 := by
    rw [rolledBack]
    simp only [PolicyKernel.flip, PolicyKernel.setActiveBundle, PolicyKernel.clearGrants, Option.map_map]
    rfl
  have pushed : ((kernel.flip .rollback).flip (.set restored)).rollbackStack =
      (if kernel.rollbackCapacity ≤ kernel.rollbackStack.dropLast.length ∧ kernel.rollbackStack.dropLast ≠ [] then
        kernel.rollbackStack.dropLast.drop 1 else kernel.rollbackStack.dropLast) ++ [restored] := by
    rw [rolledBack]
    rfl
  have active : ((kernel.flip .rollback).flip (.set restored)).activeBundle = some restored := by
    rw [rolledBack]
    rfl
  rw [cleared, pushed, active, push_dropLast_iff top, clearGrants_iff, and_iff_right (rfl : restored = restored)]
  constructor
  · rintro ⟨same, room, ungranted⟩
    exact ⟨same.symm, room, ungranted⟩
  · rintro ⟨same, room, ungranted⟩
    exact ⟨same.symm, room, ungranted⟩

/-- A rollback that fails on the version has the effect of both calls to the kernel. -/
theorem rollbackBundle_of_mismatched {self : PolicyKernelService Wire} {kernel : PolicyKernel}
    {restored : PolicyBundle} {targetBundleVersion ulid : String} (held : self.inMemoryKernel = some kernel)
    (top : kernel.rollbackStack.getLast? = some restored)
    (differs : targetBundleVersion ≠ "" ∧ targetBundleVersion ≠ restored.bundleVersion) :
    ∃ status, self.rollbackBundle targetBundleVersion ulid =
      (.error status, { self with inMemoryKernel := some ((kernel.flip .rollback).flip (.set restored)) }) := by
  rw [rollbackBundle, held]
  dsimp only
  rw [rollbackActiveBundle_of_top top]
  dsimp only
  rw [if_pos differs]
  exact ⟨_, rfl⟩

/-- A call that fails leaves everything as it was, exactly if it does not name another version than that of the
top of the stack, or the kernel restores itself. -/
theorem rollbackBundle_untouched_iff (self : PolicyKernelService Wire) (targetBundleVersion ulid : String) :
    (∀ status after, self.rollbackBundle targetBundleVersion ulid = (.error status, after) → Untouched self after) ↔
      ∀ kernel restored, self.inMemoryKernel = some kernel → kernel.rollbackStack.getLast? = some restored →
        targetBundleVersion ≠ "" ∧ targetBundleVersion ≠ restored.bundleVersion → RestoresItself kernel restored := by
  constructor
  · intro untouched kernel restored held top differs
    obtain ⟨status, failed⟩ := @rollbackBundle_of_mismatched _ _ _ _ _ ulid held top differs
    obtain ⟨active, stack, grants, -⟩ := untouched _ _ failed
    rw [held] at active stack grants
    exact (flip_flip_iff top).mp ⟨Option.some.inj active, Option.some.inj stack, Option.some.inj grants⟩
  · intro restores status after failed
    cases held : self.inMemoryKernel with
    | none =>
      rw [rollbackBundle, held] at failed
      cases failed
      exact Untouched.refl self
    | some kernel =>
      cases top : kernel.rollbackStack.getLast? with
      | none =>
        have stuck : kernel.rollbackActiveBundle = (none, kernel) := by rw [PolicyKernel.rollbackActiveBundle, top]
        rw [rollbackBundle, held] at failed
        dsimp only at failed
        rw [stuck] at failed
        cases failed
        refine ⟨?_, ?_, ?_, rfl⟩ <;> rw [held]
      | some restored =>
        by_cases differs : targetBundleVersion ≠ "" ∧ targetBundleVersion ≠ restored.bundleVersion
        · obtain ⟨status', fails⟩ := @rollbackBundle_of_mismatched _ _ _ _ _ ulid held top differs
          cases fails.symm.trans failed
          obtain ⟨active, stack, grants⟩ := (flip_flip_iff top).mpr (restores kernel restored held top differs)
          refine ⟨?_, ?_, ?_, rfl⟩
          · rw [held, Option.map_some, Option.map_some, active]
          · rw [held, Option.map_some, Option.map_some, stack]
          · rw [held, Option.map_some, Option.map_some, grants]
        · rw [rollbackBundle, held] at failed
          dsimp only at failed
          rw [rollbackActiveBundle_of_top top] at failed
          dsimp only at failed
          rw [if_neg differs] at failed
          cases failed

/-- With the second bundle active and the first on the stack, a rollback that names a version neither has fails
and leaves the first bundle active. -/
theorem rollbackBundle_touches :
    ¬∀ (self : PolicyKernelService PolicyBundle) (targetBundleVersion ulid : String) (status : Status)
      (after : PolicyKernelService PolicyBundle),
      self.rollbackBundle targetBundleVersion ulid = (.error status, after) → Untouched self after := by
  intro untouched
  have touched := untouched
    { inMemoryKernel := some
        { activeBundle := some (Flipping.versioned "v2"), rollbackStack := [Flipping.versioned "v1"] }
      activeBundleVersion := "v2" } "v0" "R" _ _ rfl
  exact absurd touched.activeBundle (by decide)

end PolicyKernelService

end Aios.Policy
