import Aios.Action.Envelope

/-! # Decisions, constraints and bundles

The result types of the Policy Kernel and the bundle it activates. The kernel stores bundles and
reads their version; no modelled step reads their rules.
-/

namespace Aios.Policy

open Aios.Rust Aios.Action

inductive EvidenceGrade where
  | e2
  | e3
  | e4
  | e5
deriving DecidableEq, Repr

inductive NetworkPolicy where
  | localhostOnly
  | lanAllowed
  | internetAllowed
deriving DecidableEq, Repr

inductive SessionClass where
  | «public»
  | internal
  | confidential
  | restricted
  | recovery
deriving DecidableEq, Repr

inductive ApprovalScope where
  | exactRequestHash
deriving DecidableEq, Repr

inductive ApproverClass where
  | human
  | operator
  | agent
  | application
  | service
  | device
  | workflow
  | remoteOperator
deriving DecidableEq, Repr

/-- The closed constraints vocabulary; the defaults are those of `Constraints::default`. -/
structure Constraints where
  sandboxProfileId : Option String := none
  maxRuntimeSeconds : Option ℕ := none
  verificationRequired : Bool := false
  dryRunOnly : Bool := false
  requireEvidenceGrade : Option EvidenceGrade := none
  requireHumanCoSigner : Bool := false
  networkPolicy : Option NetworkPolicy := none
  maxConcurrentPerSubject : Option ℕ := none
  minSubjectSessionClass : Option SessionClass := none
  vaultCapabilityRequired : Option String := none
  ttlSeconds : ℕ := 300
  expiresAt : Option DateTime := none
deriving DecidableEq, Repr

/-- The defaults are those of `ApprovalRequirement::default`. -/
structure ApprovalRequirement where
  required : Bool := false
  approvalScope : ApprovalScope := .exactRequestHash
  ttlSeconds : ℕ := 0
  approverClasses : List ApproverClass := []
  requireHumanCoSigner : Bool := false
deriving DecidableEq, Repr

inductive Decision where
  | unspecified
  | allow
  | requireApproval
  | deny
deriving DecidableEq, Repr

structure PolicyDecision where
  policyDecisionId : String
  actionId : ActionId
  requestHash : String
  bundleVersion : String
  enrichmentSnapshotId : String
  decision : Decision
  reasonCode : String
  reasonMessage : String
  constraints : Constraints
  approval : ApprovalRequirement
  evidenceReceiptId : String
  evaluatedAt : DateTime
  rulesConsulted : ℕ
  simulated : Bool
deriving DecidableEq, Repr

/-- The signed distribution envelope, as far as the kernel handles it. -/
structure PolicyBundle where
  bundleVersion : String
  bundleId : String
  createdAt : DateTime
  signingAuthority : String
deriving DecidableEq, Repr

end Aios.Policy
