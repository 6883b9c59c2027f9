import Aios.Distribution.ChainSoundness
import Aios.Distribution.Manifest

/-! # The install pipeline

The embedding of `install_state.rs`, `install_fsm.rs` and `run_install`: a package is fetched, verified
and put through the gates of the host in a fixed order, and the first gate that refuses ends the install.
The steps that belong to other crates are answers of the injected dependencies, which may be anything.

Whether the publisher is deprecated is read from the manifest's own claim. So the pipeline is closed
against everything but a publisher that the catalog lists as deprecated and whose manifest says otherwise.
-/

namespace Aios.Distribution

open Aios.Rust

inductive PackageInstallState where
  | draft
  | validating
  | awaitingApproval
  | approved
  | installing
  | active
  | quarantined
  | uninstalling
  | removed
  | installFailed
deriving DecidableEq, Repr

def PackageInstallState.label : PackageInstallState → String
  | draft => "DRAFT"
  | validating => "VALIDATING"
  | awaitingApproval => "AWAITING_APPROVAL"
  | approved => "APPROVED"
  | installing => "INSTALLING"
  | active => "ACTIVE"
  | quarantined => "QUARANTINED"
  | uninstalling => "UNINSTALLING"
  | removed => "REMOVED"
  | installFailed => "INSTALL_FAILED"

namespace InstallFsm

def canTransition : PackageInstallState → PackageInstallState → Bool
  | .draft, .validating => true
  | .validating, .awaitingApproval => true
  | .validating, .installFailed => true
  | .awaitingApproval, .approved => true
  | .awaitingApproval, .installFailed => true
  | .approved, .installing => true
  | .installing, .active => true
  | .installing, .installFailed => true
  | .active, .quarantined => true
  | .active, .uninstalling => true
  | .quarantined, .uninstalling => true
  | .quarantined, .validating => true
  | .uninstalling, .removed => true
  | _, _ => false

/-- The new state; an error leaves the state as it was. -/
def apply (current target : PackageInstallState) : Except DistributionError PackageInstallState :=
  if canTransition current target then .ok target
  else .error (.installStateInvalidTransition s!"invalid transition: {current.label} → {target.label}")

end InstallFsm

inductive PipelineStep where
  | fetch
  | signatureVerify
  | trustChainVerify
  | publisherStateCheck
  | contentHashVerify
  | manifestFieldValidation
  | sandboxProfileValidation
  | capabilityDeclaration
  | networkManifestValidation
  | policyDecision
  | approval
  | recoveryModeGate
  | markApprovedInstalling
  | atomicInstall
  | capabilityBinding
  | markActive
  | firstRunCapabilityLieAudit
deriving DecidableEq, Repr

inductive PolicyOutcome where
  | allow
  | requireApproval
  | deny
  | hardDeny
deriving DecidableEq, Repr

inductive ApprovalOutcome where
  | granted
  | denied
  | expired
  | revoked
  | failedDelivery
deriving DecidableEq, Repr

structure FetchedBytesMeta where
  contentHash : String
  mirrorSemantic : MirrorSemantic

structure StepFailure where
  step : PipelineStep
  result : PackageVerificationResult
  reason : String

structure InstallOutcome where
  finalState : PackageInstallState
  result : PackageVerificationResult
  failedStep : Option PipelineStep
deriving DecidableEq

structure InstallPipelineDeps where
  fetch : PackageManifest → Except StepFailure FetchedBytesMeta
  validateSandbox : PackageManifest → Except StepFailure Unit
  checkCapabilities : PackageManifest → Except StepFailure Unit
  validateNetworkManifest : PackageManifest → Except StepFailure Unit
  policyDecision : PackageManifest → PolicyOutcome
  requestApproval : PackageManifest → ApprovalOutcome
  recoveryModeActive : Bool
  atomicInstall : PackageManifest → Except StepFailure Unit
  bindCapabilities : PackageManifest → Except StepFailure Unit

/-! ## The pipeline -/

/-- A step that goes on with a value or ends the install. -/
abbrev Step := Except InstallOutcome

def installFailedOutcome (result : PackageVerificationResult) (failedStep : PipelineStep) : InstallOutcome :=
  ⟨.installFailed, result, some failedStep⟩

/-- A transition; where the state machine refuses it, the install ends at `step`. -/
def enter (state target : PackageInstallState) (step : PipelineStep) : Step PackageInstallState :=
  match InstallFsm.apply state target with
  | .ok next => .ok next
  | .error _ => .error (installFailedOutcome .bundleTampered step)

/-- An answer of the dependencies; a failure ends the install at `step` with the result it carries. -/
def answered {α : Type} (answer : Except StepFailure α) (step : PipelineStep) : Step α :=
  match answer with
  | .ok value => .ok value
  | .error failure => .error (installFailedOutcome failure.result step)

/-- An answer given while the package is being installed. -/
def installed (answer : Except StepFailure Unit) (state : PackageInstallState) (step : PipelineStep) : Step Unit :=
  match answer with
  | .ok () => .ok ()
  | .error failure =>
    .error ⟨(InstallFsm.apply state .installFailed).toOption.getD state, failure.result, some step⟩

/-- The step that a verification result is put down to; `none` for success. -/
def verificationStep : PackageVerificationResult → Option PipelineStep
  | .verifiedAiosRoot | .verifiedPublisher => none
  | .signatureFailed => some .signatureVerify
  | .trustChainBroken => some .trustChainVerify
  | .trustChainTooDeep => some .trustChainVerify
  | .publisherDeplatformed => some .publisherStateCheck
  | .hashMismatch => some .contentHashVerify
  | .manifestForged | .bundleTampered | .repositoryKindMismatch => some .manifestFieldValidation
  | .capabilityLie => some .manifestFieldValidation

def verified (result : PackageVerificationResult) : Step Unit :=
  match verificationStep result with
  | none => .ok ()
  | some step => .error (installFailedOutcome result step)

def publisherState (manifest : PackageManifest) : Step Unit :=
  if manifest.publisherTrust = .deprecated then .error (installFailedOutcome .manifestForged .publisherStateCheck)
  else .ok ()

def policy (deps : InstallPipelineDeps) (manifest : PackageManifest) (state : PackageInstallState) :
    Step PackageInstallState :=
  match deps.policyDecision manifest with
  | .deny | .hardDeny => .error ⟨.installFailed, .bundleTampered, some .policyDecision⟩
  | .allow => enter state .approved .approval
  | .requireApproval =>
    match deps.requestApproval manifest with
    | .granted => enter state .approved .approval
    | _ => .error ⟨.installFailed, .bundleTampered, some .approval⟩

def requiresRecovery (manifest : PackageManifest) : Bool :=
  manifest.installableScope == .systemOnly || match manifest.kind with
    | .invariantBundle | .policyBundle | .identityBundle | .kernelCandidate | .capabilityCatalogDelta => true
    | _ => false

def recoveryMode (deps : InstallPipelineDeps) (manifest : PackageManifest) : Step Unit :=
  if requiresRecovery manifest && !deps.recoveryModeActive then
    .error (installFailedOutcome .bundleTampered .recoveryModeGate)
  else .ok ()

/-- What `run_install` is given. -/
structure InstallRequest where
  manifest : PackageManifest
  context : ChainContext
  deps : InstallPipelineDeps
  now : DateTime

namespace InstallRequest

variable (self : InstallRequest)

def verification (fetched : FetchedBytesMeta) : PackageVerificationResult :=
  verifyManifest self.context self.manifest fetched.contentHash self.now

def steps : Step InstallOutcome := do
  let state ← enter .draft .validating .fetch
  let fetched ← answered (self.deps.fetch self.manifest) .fetch
  verified (self.verification fetched)
  publisherState self.manifest
  answered (self.deps.validateSandbox self.manifest) .sandboxProfileValidation
  answered (self.deps.checkCapabilities self.manifest) .capabilityDeclaration
  answered (self.deps.validateNetworkManifest self.manifest) .networkManifestValidation
  let state ← enter state .awaitingApproval .policyDecision
  let state ← policy self.deps self.manifest state
  recoveryMode self.deps self.manifest
  let state ← enter state .installing .markApprovedInstalling
  installed (self.deps.atomicInstall self.manifest) state .atomicInstall
  installed (self.deps.bindCapabilities self.manifest) state .capabilityBinding
  let _ ← enter state .active .markActive
  .ok ⟨.active, self.verification fetched, none⟩

def runInstall : InstallOutcome :=
  match self.steps with
  | .ok outcome => outcome
  | .error outcome => outcome

/-! ## The gates -/

def answerFailure {α : Type} (answer : Except StepFailure α) (step : PipelineStep) : Option PipelineStep :=
  if answer.isOk = true then none else some step

def verificationFailure : Option PipelineStep :=
  match self.deps.fetch self.manifest with
  | .ok fetched => verificationStep (self.verification fetched)
  | .error _ => none

def publisherFailure : Option PipelineStep :=
  if self.manifest.publisherTrust = .deprecated then some .publisherStateCheck else none

def policyFailure : Option PipelineStep :=
  match self.deps.policyDecision self.manifest with
  | .deny | .hardDeny => some .policyDecision
  | .allow => none
  | .requireApproval => if self.deps.requestApproval self.manifest = .granted then none else some .approval

def recoveryFailure : Option PipelineStep :=
  if requiresRecovery self.manifest && !self.deps.recoveryModeActive then some .recoveryModeGate else none

/-- The gates in their order: each names the step at which it refuses. -/
def gates : List (Option PipelineStep) :=
  [answerFailure (self.deps.fetch self.manifest) .fetch,
    self.verificationFailure,
    self.publisherFailure,
    answerFailure (self.deps.validateSandbox self.manifest) .sandboxProfileValidation,
    answerFailure (self.deps.checkCapabilities self.manifest) .capabilityDeclaration,
    answerFailure (self.deps.validateNetworkManifest self.manifest) .networkManifestValidation,
    self.policyFailure,
    self.recoveryFailure,
    answerFailure (self.deps.atomicInstall self.manifest) .atomicInstall,
    answerFailure (self.deps.bindCapabilities self.manifest) .capabilityBinding]

/-- The step of the first gate that refuses. -/
def firstFailure : Option PipelineStep := self.gates.findSome? id

end InstallRequest

/-- A step follows the gates: it goes on, with a value that has been `reached`, if none refuses, and
otherwise ends the install as failed at the first that does. -/
def Follows {α : Type} (step : Step α) (gates : List (Option PipelineStep)) (reached : α → Prop) : Prop :=
  match step with
  | .ok value => gates.findSome? id = none ∧ reached value
  | .error outcome => outcome.finalState = .installFailed ∧ outcome.failedStep ≠ none ∧
      outcome.failedStep = gates.findSome? id

namespace Follows

variable {α β : Type}

variable {step : PipelineStep} {gates : List (Option PipelineStep)} {reached : β → Prop} (request : InstallRequest)

theorem ended {outcome : InstallOutcome} {reached : α → Prop} (failed : outcome.finalState = .installFailed)
    (named : outcome.failedStep = some step) : Follows (.error outcome) [some step] reached :=
  ⟨failed, named ▸ Option.some_ne_none step, named⟩

/-- One gate after another. -/
theorem of_gate {step : Step α} {gate : Option PipelineStep} {passed : α → Prop} (follows : Follows step [gate] passed)
    {next : α → Step β} (rest : ∀ value, passed value → Follows (next value) gates reached) :
    Follows (step >>= next) (gate :: gates) reached := by
  cases taken : step with
  | ok value =>
    rw [taken] at follows
    obtain ⟨opened, passes⟩ := follows
    cases gate with
    | none => exact rest value passes
    | some refused => cases opened
  | error outcome =>
    rw [taken] at follows
    obtain ⟨failed, named, first⟩ := follows
    cases gate with
    | none => exact absurd first named
    | some refused => exact ⟨failed, named, first⟩

/-- A transition that the state machine allows. -/
theorem of_enter {state target : PackageInstallState} (allowed : InstallFsm.canTransition state target = true)
    {next : PackageInstallState → Step β} (rest : Follows (next target) gates reached) :
    Follows (enter state target step >>= next) gates reached := by
  have entered : enter state target step = .ok target := by
    unfold enter InstallFsm.apply
    rw [if_pos allowed]
  rw [entered]
  exact rest

theorem answered (answer : Except StepFailure α) (step : PipelineStep) :
    Follows (Distribution.answered answer step) [InstallRequest.answerFailure answer step] (answer = .ok ·) := by
  cases answer with
  | ok value => exact ⟨rfl, rfl⟩
  | error failure => exact ended rfl rfl

theorem installed (answer : Except StepFailure Unit) (step : PipelineStep) :
    Follows (Distribution.installed answer .installing step) [InstallRequest.answerFailure answer step]
      fun _ => True := by
  cases answer with
  | ok value => exact ⟨rfl, trivial⟩
  | error failure => exact ended rfl rfl

theorem verified (result : PackageVerificationResult) :
    Follows (Distribution.verified result) [verificationStep result] fun _ => True := by
  unfold Distribution.verified
  cases verificationStep result with
  | none => exact ⟨rfl, trivial⟩
  | some step => exact ended rfl rfl

theorem publisherState :
    Follows (Distribution.publisherState request.manifest) [request.publisherFailure] fun _ => True := by
  unfold Distribution.publisherState InstallRequest.publisherFailure
  split_ifs
  · exact ended rfl rfl
  · exact ⟨rfl, trivial⟩

theorem policy :
    Follows (Distribution.policy request.deps request.manifest .awaitingApproval) [request.policyFailure]
      (· = .approved) := by
  unfold Distribution.policy InstallRequest.policyFailure
  cases request.deps.policyDecision request.manifest with
  | allow => exact ⟨rfl, rfl⟩
  | deny => exact ended rfl rfl
  | hardDeny => exact ended rfl rfl
  | requireApproval =>
    cases request.deps.requestApproval request.manifest with
    | granted => exact ⟨rfl, rfl⟩
    | _ => exact ended rfl rfl

theorem recoveryMode :
    Follows (Distribution.recoveryMode request.deps request.manifest) [request.recoveryFailure] fun _ => True := by
  unfold Distribution.recoveryMode InstallRequest.recoveryFailure
  split_ifs
  · exact ended rfl rfl
  · exact ⟨rfl, trivial⟩

end Follows

namespace InstallRequest

variable (self : InstallRequest)

/-- The pipeline follows its gates, and where it passes them the package is active. -/
theorem steps_follows :
    Follows self.steps self.gates fun outcome => outcome.finalState = .active ∧ outcome.failedStep = none := by
  unfold steps
  apply Follows.of_enter rfl
  apply Follows.of_gate (.answered _ _)
  intro fetched answer
  have verification : self.verificationFailure = verificationStep (self.verification fetched) := by
    unfold verificationFailure
    rw [answer]
  rw [verification]
  apply Follows.of_gate (.verified _)
  intro _ _
  apply Follows.of_gate (.publisherState self)
  intro _ _
  apply Follows.of_gate (.answered _ _)
  intro _ _
  apply Follows.of_gate (.answered _ _)
  intro _ _
  apply Follows.of_gate (.answered _ _)
  intro _ _
  apply Follows.of_enter rfl
  apply Follows.of_gate (.policy self)
  rintro state rfl
  apply Follows.of_gate (.recoveryMode self)
  intro _ _
  apply Follows.of_enter rfl
  apply Follows.of_gate (.installed _ _)
  intro _ _
  apply Follows.of_gate (.installed _ _)
  intro _ _
  apply Follows.of_enter rfl
  exact ⟨rfl, rfl, rfl⟩

/-! ## What an active package was admitted by -/

/-- Every gate other than that of the publisher's state opens. -/
structure Admitted (request : InstallRequest) : Prop where
  verified : ∃ fetched, request.deps.fetch request.manifest = .ok fetched ∧
    (request.verification fetched).isSuccess = true
  sandbox : (request.deps.validateSandbox request.manifest).isOk = true
  capabilities : (request.deps.checkCapabilities request.manifest).isOk = true
  network : (request.deps.validateNetworkManifest request.manifest).isOk = true
  policy : request.deps.policyDecision request.manifest = .allow ∨
    request.deps.policyDecision request.manifest = .requireApproval ∧
      request.deps.requestApproval request.manifest = .granted
  recovery : requiresRecovery request.manifest = true → request.deps.recoveryModeActive = true
  installed : (request.deps.atomicInstall request.manifest).isOk = true
  bound : (request.deps.bindCapabilities request.manifest).isOk = true

theorem answerFailure_eq_none_iff {α : Type} (answer : Except StepFailure α) (step : PipelineStep) :
    answerFailure answer step = none ↔ answer.isOk = true := by
  unfold answerFailure
  split_ifs with opened
  · exact ⟨fun _ => opened, fun _ => rfl⟩
  · exact ⟨(fun found => by cases found), fun found => absurd found opened⟩

theorem verificationStep_eq_none_iff (result : PackageVerificationResult) :
    verificationStep result = none ↔ result.isSuccess = true := by
  cases result <;> decide

theorem verified_iff :
    (∃ fetched, self.deps.fetch self.manifest = .ok fetched ∧ (self.verification fetched).isSuccess = true) ↔
      (self.deps.fetch self.manifest).isOk = true ∧ self.verificationFailure = none := by
  unfold verificationFailure
  cases answer : self.deps.fetch self.manifest with
  | ok fetched =>
    constructor
    · rintro ⟨_, ⟨rfl⟩, success⟩
      exact ⟨rfl, (verificationStep_eq_none_iff _).mpr success⟩
    · rintro ⟨-, passed⟩
      exact ⟨fetched, rfl, (verificationStep_eq_none_iff _).mp passed⟩
  | error failure =>
    constructor
    · rintro ⟨_, found, -⟩
      cases found
    · rintro ⟨found, -⟩
      cases found

theorem policyFailure_eq_none_iff :
    self.policyFailure = none ↔ self.deps.policyDecision self.manifest = .allow ∨
      self.deps.policyDecision self.manifest = .requireApproval ∧
        self.deps.requestApproval self.manifest = .granted := by
  unfold policyFailure
  cases self.deps.policyDecision self.manifest with
  | allow => simp
  | requireApproval => simp
  | deny => simp
  | hardDeny => simp

theorem recoveryFailure_eq_none_iff :
    self.recoveryFailure = none ↔ (requiresRecovery self.manifest = true → self.deps.recoveryModeActive = true) := by
  unfold recoveryFailure
  cases requiresRecovery self.manifest <;> cases self.deps.recoveryModeActive <;> decide

/-- No gate refuses exactly if the package is admitted and its manifest does not claim a deprecated
publisher. -/
theorem firstFailure_eq_none_iff :
    self.firstFailure = none ↔ self.Admitted ∧ self.manifest.publisherTrust ≠ .deprecated := by
  have publisher : self.publisherFailure = none ↔ self.manifest.publisherTrust ≠ .deprecated := by
    unfold publisherFailure
    split_ifs with claimed <;> simp [claimed]
  unfold firstFailure gates
  simp only [List.findSome?_eq_none_iff, List.forall_mem_cons, id, answerFailure_eq_none_iff, publisher,
    policyFailure_eq_none_iff, recoveryFailure_eq_none_iff]
  constructor
  · rintro ⟨fetched, verified, trusted, sandbox, capabilities, network, policy, recovery, installed, bound, -⟩
    exact ⟨⟨self.verified_iff.mpr ⟨fetched, verified⟩, sandbox, capabilities, network, policy, recovery, installed,
      bound⟩, trusted⟩
  · rintro ⟨⟨verified, sandbox, capabilities, network, policy, recovery, installed, bound⟩, trusted⟩
    obtain ⟨fetched, verified⟩ := self.verified_iff.mp verified
    exact ⟨fetched, verified, trusted, sandbox, capabilities, network, policy, recovery, installed, bound,
      fun _ missing => absurd missing List.not_mem_nil⟩

/-- An install ends active if no gate refuses, and as failed at the first that does otherwise. -/
theorem runInstall_cases :
    (self.firstFailure = none ∧ self.runInstall.finalState = .active) ∨
      (self.firstFailure ≠ none ∧ self.runInstall.finalState = .installFailed ∧
        self.runInstall.failedStep = self.firstFailure) := by
  have follows := self.steps_follows
  unfold runInstall
  cases ran : self.steps with
  | ok outcome =>
    rw [ran] at follows
    exact .inl ⟨follows.1, follows.2.1⟩
  | error outcome =>
    rw [ran] at follows
    obtain ⟨failed, named, first⟩ := follows
    exact .inr ⟨fun none => named (first.trans none), failed, first⟩

/-- The trust level of the manifest's publisher, as the catalog has it. -/
def catalogTrust : Option PublisherTrustLevel :=
  (self.context.verifier.publisherCatalog.lookup self.manifest.publisherRootId).map (·.trustLevel)

/-- A verified manifest names a publisher that the catalog lists and has not deplatformed. -/
theorem Admitted.listed {self : InstallRequest} (admitted : self.Admitted) :
    ∃ level, self.catalogTrust = some level ∧ level ≠ .deplatformed := by
  obtain ⟨fetched, -, success⟩ := admitted.verified
  unfold verification verifyManifest at success
  cases valid : validateFields self.manifest self.now (seconds 300) with
  | error failure =>
    rw [valid] at success
    exact absurd success (Bool.eq_false_iff.mp (validateFields_rejects _ _ _ failure valid))
  | ok passed =>
    rw [valid] at success
    dsimp only at success
    split_ifs at success
    · cases success
    · cases success
    · obtain ⟨publisherRoot, signingKey, passes⟩ := (TrustChainVerifier.result_isSuccess_iff _ _ _
        ⟨_, self.context.publisherRootLinkSig, self.context.signingKeyLinkSig, _, self.now⟩).mp success
      obtain ⟨publisher, -⟩ := passes.finds
      exact ⟨publisherRoot.trustLevel, congrArg (Option.map PublisherRoot.trustLevel) publisher,
        passes.standing.notDeplatformed⟩

/-- What the pipeline is for: a package is active only if it was admitted and its publisher is listed as
neither deprecated nor deplatformed, and otherwise the install has failed, at the first gate that refused. -/
structure FailClosed (request : InstallRequest) : Prop where
  active : request.runInstall.finalState = .active → request.Admitted ∧ ∃ level, request.catalogTrust = some level ∧
    level ≠ .deprecated ∧ level ≠ .deplatformed
  failed : request.runInstall.finalState ≠ .active → request.runInstall.finalState = .installFailed ∧
    request.runInstall.failedStep = request.firstFailure ∧ request.runInstall.failedStep ≠ none

/-! ## An example install -/

def deprecatedPublisher : PublisherRoot := { TrustChainVerifier.examplePublisher with trustLevel := .deprecated }

def exampleHash : String := "0123456789abcdef0123456789abcdef"

/-- A manifest that names the publisher above as verified. -/
def exampleManifest : PackageManifest where
  packageId := "pkg:a:tool"
  version := "1.0.0"
  kind := .app
  publisherTrust := .verified
  publisherRootId := ⟨"pub:a"⟩
  packageSigningKeyId := ⟨"pks:a:release"⟩
  contentHash := exampleHash
  manifestCanonicalHash := exampleHash
  ed25519Signature := TrustChainVerifier.exampleSignature 3
  installableScope := .groupScoped
  requiredSandbox := "default"
  declaredCapabilities := ["net"]
  networkManifest := "none"
  issuedAt := 5
  eolAt := none
  channel := .stable
  originatingRepository := .aiosVerifiedRepo
  mirrorUrl := "mirror"
  mirrorSemantic := .origin

/-- Accepts the signatures of the root, the publisher and the key over what they signed. -/
def deprecatedCrypto : Ed25519 where
  verifyStrict key message signature :=
    (key == TrustChainVerifier.exampleKey 1 &&
      message == deprecatedPublisher.canonicalEntryBytes TrustChainVerifier.exampleClock &&
      signature == TrustChainVerifier.exampleSignature 1) ||
    (key == TrustChainVerifier.exampleKey 2 &&
      message == TrustChainVerifier.exampleSigningKey.canonicalEntryBytes TrustChainVerifier.exampleClock &&
      signature == TrustChainVerifier.exampleSignature 2) ||
    (key == TrustChainVerifier.exampleKey 3 && message == utf8 exampleHash &&
      signature == TrustChainVerifier.exampleSignature 3)

/-- Everything beyond the publisher's state lets the package through. -/
def exampleRequest : InstallRequest where
  manifest := exampleManifest
  context :=
    { crypto := deprecatedCrypto
      clock := TrustChainVerifier.exampleClock
      digest := ⟨fun _ => exampleHash⟩
      verifier := { TrustChainVerifier.exampleVerifier with publisherCatalog := ⟨[deprecatedPublisher]⟩ }
      publisherRootLinkSig := ⟨TrustChainVerifier.exampleSignature 1⟩
      signingKeyLinkSig := ⟨TrustChainVerifier.exampleSignature 2⟩ }
  deps :=
    { fetch := fun _ => .ok ⟨exampleHash, .origin⟩
      validateSandbox := fun _ => .ok ()
      checkCapabilities := fun _ => .ok ()
      validateNetworkManifest := fun _ => .ok ()
      policyDecision := fun _ => .allow
      requestApproval := fun _ => .denied
      recoveryModeActive := false
      atomicInstall := fun _ => .ok ()
      bindCapabilities := fun _ => .ok () }
  now := 100

/-- A package of a publisher that the catalog lists as deprecated becomes active. -/
theorem deprecatedPublisher_installed : ¬ exampleRequest.FailClosed := by
  have trust : exampleRequest.catalogTrust = some .deprecated := by decide +kernel
  intro closed
  obtain ⟨-, level, listed, current, -⟩ := closed.active (by decide +kernel)
  exact current (Option.some.inj (listed.symm.trans trust))

/-- The pipeline is closed unless the catalog lists the publisher of an admitted package as deprecated and
the manifest does not claim so. -/
theorem failClosed_iff :
    self.FailClosed ↔ ¬ (self.Admitted ∧ self.catalogTrust = some .deprecated ∧
      self.manifest.publisherTrust ≠ .deprecated) := by
  constructor
  · rintro closed ⟨admitted, deprecated, trusted⟩
    have opened := self.firstFailure_eq_none_iff.mpr ⟨admitted, trusted⟩
    obtain ⟨-, active⟩ | ⟨refused, -⟩ := self.runInstall_cases
    · obtain ⟨-, level, listed, current, -⟩ := closed.active active
      exact current (Option.some.inj (listed.symm.trans deprecated))
    · exact refused opened
  · intro current
    obtain ⟨opened, active⟩ | ⟨refused, failed, first⟩ := self.runInstall_cases
    · obtain ⟨admitted, trusted⟩ := self.firstFailure_eq_none_iff.mp opened
      obtain ⟨level, listed, standing⟩ := admitted.listed
      constructor
      · intro _
        refine ⟨admitted, level, listed, ?_, standing⟩
        rintro rfl
        exact current ⟨admitted, listed, trusted⟩
      · intro inactive
        exact absurd active inactive
    · constructor
      · intro active
        exact PackageInstallState.noConfusion (active.symm.trans failed)
      · intro _
        exact ⟨failed, first, first ▸ refused⟩

end InstallRequest

end Aios.Distribution
