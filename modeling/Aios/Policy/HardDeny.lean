import Aios.Action.Envelope
import Aios.Lib.Table

/-! # Subjects and the hard-deny engine

The Policy Kernel canonicalises the provisional subject id of an envelope through an identity
store. The store is a trait object: any function of the clock and the id. `InMemoryHydrator` is
the implementation the crate ships.
-/

namespace Aios.Policy

open Aios.Rust

inductive SubjectType where
  | human
  | agent
  | application
  | service
  | device
  | workflow
  | remoteOperator
deriving DecidableEq, Repr

structure HydratedSubject where
  canonicalSubjectId : String
  subjectType : SubjectType
  groups : List String
  capabilities : List String
  sessionClass : String
  recoveryMode : Bool
  isAi : Bool
deriving DecidableEq, Repr

/-- Failure modes the Policy Kernel itself raises. -/
inductive PolicyError where
  | subjectUnauthenticated
  | enrichmentUnavailable
  | bundleLoad (reason : String)
  | schemaInvalid (detail : String)
  | constraintsInvalid (detail : String)
  | conditionParse (detail : String)
  | conditionEval (detail : String)
  | invalidPolicyBundle (detail : String)
  | bundleSignatureInvalid
  | bundleVersionMismatch (expected found : String)
  | bundleUnknownAuthority (authority : String)
deriving DecidableEq, Repr

/-- `Display for PolicyError`. -/
def PolicyError.display : PolicyError → String
  | subjectUnauthenticated => "subject hydration failed: subject unauthenticated"
  | enrichmentUnavailable => "resource enrichment unavailable"
  | bundleLoad reason => "policy bundle load failed: " ++ reason
  | schemaInvalid detail => "policy bundle schema invalid: " ++ detail
  | constraintsInvalid detail => "constraints invalid: " ++ detail
  | conditionParse detail => "condition parse failed: " ++ detail
  | conditionEval detail => "condition eval failed: " ++ detail
  | invalidPolicyBundle detail => "invalid policy bundle: " ++ detail
  | bundleSignatureInvalid => "bundle signature invalid"
  | bundleVersionMismatch expected found => "bundle version mismatch: expected " ++ expected ++ ", found " ++ found
  | bundleUnknownAuthority authority => "bundle signed by unknown authority: " ++ authority

/-- `SubjectHydrator::hydrate` at a clock reading. -/
abbrev SubjectHydrator := DateTime → String → Except PolicyError HydratedSubject

structure HydratedRecord where
  subject : HydratedSubject
  validUntil : Option DateTime := none
  revoked : Bool := false

/-- Neither revoked nor past its expiry. -/
def HydratedRecord.isCurrentlyValid (record : HydratedRecord) (now : DateTime) : Bool :=
  if record.revoked then false
  else match record.validUntil with
    | none => true
    | some expiry => decide (now < expiry)

structure InMemoryHydrator where
  records : Table String HydratedRecord := ∅

namespace InMemoryHydrator

def insert (self : InMemoryHydrator) (provisional : String) (record : HydratedRecord) : InMemoryHydrator :=
  ⟨self.records.insert provisional record⟩

def hydrate (self : InMemoryHydrator) : SubjectHydrator := fun now provisional =>
  match self.records.lookup provisional with
  | none => .error .subjectUnauthenticated
  | some record =>
      if !record.isCurrentlyValid now then .error .subjectUnauthenticated else .ok record.subject

/-- The four representative subjects the crate's own suite relies on. -/
def withFixtures : InMemoryHydrator :=
  let hydrator : InMemoryHydrator := {}
  let hydrator := hydrator.insert "human:lucky"
    { subject := { canonicalSubjectId := "human:lucky:01HX0000000000000000000000", subjectType := .human,
                   groups := ["operators"], capabilities := [], sessionClass := "INTERNAL",
                   recoveryMode := false, isAi := false } }
  let hydrator := hydrator.insert "agent:dev"
    { subject := { canonicalSubjectId := "agent:dev:01HX1111111111111111111111", subjectType := .agent,
                   groups := ["cognitive-core"], capabilities := [], sessionClass := "INTERNAL",
                   recoveryMode := false, isAi := true } }
  let hydrator := hydrator.insert "application:planner"
    { subject := { canonicalSubjectId := "application:planner:01HX2222222222222222222222",
                   subjectType := .application, groups := ["apps"], capabilities := [],
                   sessionClass := "INTERNAL", recoveryMode := false, isAi := true } }
  hydrator.insert "service:systemd"
    { subject := { canonicalSubjectId := "service:systemd:01HX3333333333333333333333",
                   subjectType := .service, groups := ["system"], capabilities := [],
                   sessionClass := "INTERNAL", recoveryMode := false, isAi := false } }

end InMemoryHydrator

/-! ## The hard-deny engine

The ten constitutional classes and their detectors, in table order. The configuration sets are
lists: they are only searched, and the one that is iterated (`protected_roots`) is searched by a
disjunction that does not depend on the order.
-/

open Aios.Rust Aios.Action

inductive HardDenyClass where
  | secretRawReadByAi
  | recursiveDeleteRoot
  | policyLogMutation
  | evidenceLogMutation
  | disablePolicyKernel
  | disableRecoveryPath
  | modifyBootChain
  | untypedShellPrivileged
  | aiosFsPointerRollbackOnRecovery
  | privacyClassDowngrade
deriving DecidableEq, Repr

structure HardDenyEngineConfig where
  secretRawReadActions : List String
  recursiveDeleteActions : List String
  protectedRoots : List String
  recoveryPartitionPrefixes : List String
  policyLogMutationActions : List String
  evidenceLogMutationActions : List String
  disablePolicyKernelActions : List String
  disableRecoveryPathActions : List String
  modifyBootChainActions : List String
  untypedShellActions : List String
  privilegedGroups : List String
  privilegedCapabilities : List String
  aiosfsPointerRollbackActions : List String
  privacyClassDowngradeActions : List String

def HardDenyEngineConfig.specDefaults : HardDenyEngineConfig where
  secretRawReadActions := ["vault.read_raw", "secret.read_raw", "secret.reveal", "vault.reveal"]
  recursiveDeleteActions :=
    ["aiosfs.recursive_delete", "aiosfs.delete_recursive", "fs.rm_rf", "fs.recursive_delete"]
  protectedRoots := ["/", "/home", "/root", "/aios"]
  recoveryPartitionPrefixes := ["/recovery", "/boot/recovery", "/aios/recovery"]
  policyLogMutationActions :=
    ["policy.log.delete", "policy.log.mutate", "policy.log.truncate", "policy.log.rewrite"]
  evidenceLogMutationActions :=
    ["evidence.log.delete", "evidence.log.mutate", "evidence.log.truncate", "evidence.log.rewrite",
     "evidence.tamper"]
  disablePolicyKernelActions := ["policy_kernel.disable", "policy.kernel.disable", "policy.kernel.stop"]
  disableRecoveryPathActions := ["recovery.disable", "recovery.path.disable", "recovery.partition.disable"]
  modifyBootChainActions :=
    ["boot.chain.modify", "boot.loader.modify", "boot.efi.modify", "bootloader.modify"]
  untypedShellActions := ["shell.exec_untyped", "shell.untyped", "shell.exec_free_form"]
  privilegedGroups := ["root", "sudo", "wheel", "privileged", "operators"]
  privilegedCapabilities := ["shell.untyped", "system_admin", "root_shell"]
  aiosfsPointerRollbackActions := ["aiosfs.pointer.rollback", "aiosfs.pointer.revert"]
  privacyClassDowngradeActions :=
    ["aiosfs.object.set_privacy_class", "object.privacy.downgrade", "aiosfs.privacy.downgrade"]

/-- A string field of `request.target`. -/
def targetStringField (envelope : ActionEnvelope) (key : String) : Option String :=
  (envelope.request.target.get key).bind Json.asStr

/-- Strip trailing slashes, except on the bare `/`. -/
def normalisePath (path : String) : String :=
  if decide (1 < path.utf8ByteSize) && endsWithChar path '/' then trimEndMatches path '/' else path

/-- The privacy ladder; an unknown class ranks as `u8::MAX`. -/
def privacyRank (privacyClass : String) : ℕ :=
  if privacyClass = "PUBLIC" then 0
  else if privacyClass = "INTERNAL" then 1
  else if privacyClass = "CONFIDENTIAL" then 2
  else if privacyClass = "SECRET" then 3
  else if privacyClass = "TOP_SECRET" then 4
  else 255

structure HardDenyEngine where
  config : HardDenyEngineConfig

namespace HardDenyEngine

variable (self : HardDenyEngine)

variable (envelope : ActionEnvelope)

def newWithDefaults : HardDenyEngine := ⟨.specDefaults⟩

/-- The detectors that test nothing but the action name. -/
def detectAction (actions : List String) (envelope : ActionEnvelope) : Bool :=
  actions.contains envelope.request.action

def detectSecretRawReadByAi (subject : HydratedSubject) : Bool :=
  subject.isAi && detectAction self.config.secretRawReadActions envelope

def detectRecursiveDeleteRoot : Bool :=
  if !detectAction self.config.recursiveDeleteActions envelope then false
  else match targetStringField envelope "path" with
    | none => false
    | some path =>
        let normalised := normalisePath path
        self.config.protectedRoots.contains normalised ||
          self.config.protectedRoots.any
            (fun root => root == "/" || startsWith normalised (root ++ "/")) ||
          self.config.recoveryPartitionPrefixes.any
            (fun start => normalised == start || startsWith normalised (start ++ "/"))

def detectPolicyLogMutation : ActionEnvelope → Bool :=
  detectAction self.config.policyLogMutationActions

def detectEvidenceLogMutation : ActionEnvelope → Bool :=
  detectAction self.config.evidenceLogMutationActions

def detectDisablePolicyKernel : ActionEnvelope → Bool :=
  detectAction self.config.disablePolicyKernelActions

def detectDisableRecoveryPath : ActionEnvelope → Bool :=
  detectAction self.config.disableRecoveryPathActions

def detectModifyBootChain : ActionEnvelope → Bool :=
  detectAction self.config.modifyBootChainActions

def detectUntypedShellPrivileged (subject : HydratedSubject) : Bool :=
  if !detectAction self.config.untypedShellActions envelope then false
  else
    subject.groups.any (self.config.privilegedGroups.contains ·) ||
      subject.capabilities.any (self.config.privilegedCapabilities.contains ·)

def detectAiosFsPointerRollbackOnRecovery : ActionEnvelope → Bool :=
  detectAction self.config.aiosfsPointerRollbackActions

def detectPrivacyClassDowngrade : Bool :=
  if !detectAction self.config.privacyClassDowngradeActions envelope then false
  else match targetStringField envelope "current_class", targetStringField envelope "new_class" with
    | some current, some new => decide (privacyRank new < privacyRank current)
    | _, _ => true

/-- The first class that fires, in table order. -/
def check (subject : HydratedSubject) : Option HardDenyClass :=
  if self.detectSecretRawReadByAi envelope subject then some .secretRawReadByAi
  else if self.detectRecursiveDeleteRoot envelope then some .recursiveDeleteRoot
  else if self.detectPolicyLogMutation envelope then some .policyLogMutation
  else if self.detectEvidenceLogMutation envelope then some .evidenceLogMutation
  else if self.detectDisablePolicyKernel envelope then some .disablePolicyKernel
  else if self.detectDisableRecoveryPath envelope then some .disableRecoveryPath
  else if self.detectModifyBootChain envelope then some .modifyBootChain
  else if self.detectUntypedShellPrivileged envelope subject then some .untypedShellPrivileged
  else if self.detectAiosFsPointerRollbackOnRecovery envelope then some .aiosFsPointerRollbackOnRecovery
  else if self.detectPrivacyClassDowngrade envelope then some .privacyClassDowngrade
  else none

end HardDenyEngine

/-- `HardDeny:<Variant>`. -/
def reasonCodeFor (denied : HardDenyClass) : String :=
  "HardDeny:" ++ match denied with
    | .secretRawReadByAi => "SecretRawReadByAi"
    | .recursiveDeleteRoot => "RecursiveDeleteRoot"
    | .policyLogMutation => "PolicyLogMutation"
    | .evidenceLogMutation => "EvidenceLogMutation"
    | .disablePolicyKernel => "DisablePolicyKernel"
    | .disableRecoveryPath => "DisableRecoveryPath"
    | .modifyBootChain => "ModifyBootChain"
    | .untypedShellPrivileged => "UntypedShellPrivileged"
    | .aiosFsPointerRollbackOnRecovery => "AiosFsPointerRollbackOnRecovery"
    | .privacyClassDowngrade => "PrivacyClassDowngrade"

def hasRecoveryOverridePath : HardDenyClass → Bool
  | .modifyBootChain | .aiosFsPointerRollbackOnRecovery => true
  | _ => false

def reasonMessageFor (denied : HardDenyClass) : String :=
  let base := match denied with
    | .secretRawReadByAi =>
        "raw secret read by AI subject is constitutionally forbidden (S2.3 §6 row 1)"
    | .recursiveDeleteRoot =>
        "recursive deletion of a protected root path is constitutionally forbidden (S2.3 §6 row 2)"
    | .policyLogMutation => "mutation of the policy log is constitutionally forbidden (S2.3 §6 row 3)"
    | .evidenceLogMutation => "mutation of the evidence log is constitutionally forbidden (S2.3 §6 row 4)"
    | .disablePolicyKernel => "disabling the Policy Kernel is constitutionally forbidden (S2.3 §6 row 5)"
    | .disableRecoveryPath => "disabling the recovery path is constitutionally forbidden (S2.3 §6 row 6)"
    | .modifyBootChain => "modifying the boot chain is constitutionally forbidden (S2.3 §6 row 7)"
    | .untypedShellPrivileged =>
        "untyped shell execution as a privileged subject is constitutionally forbidden (S2.3 §6 row 8)"
    | .aiosFsPointerRollbackOnRecovery =>
        "rolling back recovery-essential AIOS-FS pointers is constitutionally forbidden (S2.3 §6 row 9)"
    | .privacyClassDowngrade =>
        "lowering an object's privacy class is constitutionally forbidden (S2.3 §6 row 10)"
  if hasRecoveryOverridePath denied then base ++ " (override path: recovery-mode operator approval)" else base

/-- Distinct classes have distinct reason codes. -/
theorem reasonCodeFor_injective : Function.Injective reasonCodeFor := by
  intro first second same
  cases first <;> cases second <;> first | rfl | exact absurd same (by decide)

end Aios.Policy
