import Aios.Policy.Decision
import Aios.Policy.OverrideBoundary

/-! # The decision pipeline

The driver `evaluate_with_chain_full` step by step. The steps the source ships as stubs are stubs
here too, in their places, so that the precedence ladder reads as in the source. Clock readings,
minted ids and the grant map's iteration order of one evaluation are collected in `Readings`.
-/

namespace Aios.Policy

open Aios.Rust Aios.Action

/-- The enrichment snapshot, as far as a decision records it. -/
structure EnrichmentSnapshot where
  snapshotId : String := ""
deriving DecidableEq, Repr

structure PolicyContext where
  subject : HydratedSubject
  enrichment : EnrichmentSnapshot := {}
  bundleVersion : String
  codeVersion : String
deriving DecidableEq, Repr

/-- What one evaluation reads from its surroundings. -/
structure Readings where
  hydratedAt : DateTime
  overriddenAt : DateTime
  evaluatedAt : DateTime
  servedAt : DateTime
  decisionUlid : String
  actionUlid : String
  grantOrder : IterationOrder EmergencyOverride

namespace ReasonCode

def SCHEMA_INVALID : String := "SchemaInvalid"
def DEFAULT_DENY : String := "DefaultDeny"
def SUBJECT_UNAUTHENTICATED : String := "SubjectUnauthenticated"
def EMERGENCY_OVERRIDE_RELAXED : String := "EmergencyOverrideRelaxed"

end ReasonCode

/-- A risk flag of `request.target.risk`; missing or non-boolean counts as `false`. -/
def riskFlag (envelope : ActionEnvelope) (flag : String) : Bool :=
  (((envelope.request.target.get "risk").bind (·.get flag)).bind Json.asBool).getD false

def anyRiskFlag (envelope : ActionEnvelope) : Bool :=
  riskFlag envelope "destructive" || riskFlag envelope "privileged" ||
    riskFlag envelope "network_exposure" || riskFlag envelope "secret_access" ||
    riskFlag envelope "recovery_path_affected"

inductive PipelineState where
  | continue
  | shortCircuit (decision : PolicyDecision)

/-- `if let ShortCircuit(d) = step { return *d; }` followed by the rest of the driver. -/
def PipelineState.orElse : PipelineState → PolicyDecision → PolicyDecision
  | .shortCircuit decision, _ => decision
  | .continue, rest => rest

structure EmitDecision where
  context : PolicyContext
  requestHash : String
  decision : Decision
  reasonCode : String
  reasonMessage : String
  rulesConsulted : ℕ

namespace DecisionPipeline

def step10BindConstraints : Constraints := {}

def emitDecision (readings : Readings) (parts : EmitDecision) : PolicyDecision where
  policyDecisionId := "poldec_" ++ readings.decisionUlid
  actionId := "act_" ++ readings.actionUlid
  requestHash := parts.requestHash
  bundleVersion := parts.context.bundleVersion
  enrichmentSnapshotId := parts.context.enrichment.snapshotId
  decision := parts.decision
  reasonCode := parts.reasonCode
  reasonMessage := parts.reasonMessage
  constraints := step10BindConstraints
  approval := {}
  evidenceReceiptId := ""
  evaluatedAt := readings.evaluatedAt
  rulesConsulted := parts.rulesConsulted
  simulated := false

/-- The structural floor check of step 1. -/
def schemaInvalid (envelope : ActionEnvelope) : Bool :=
  envelope.schemaVersion == "" || envelope.request.action == "" ||
    envelope.identity.subjectCanonicalId == ""

def step1ValidateSchema (readings : Readings) (envelope : ActionEnvelope) (context : PolicyContext)
    (requestHash : String) : PipelineState :=
  if schemaInvalid envelope then
    .shortCircuit (emitDecision readings
      { context, requestHash, decision := .deny, reasonCode := ReasonCode.SCHEMA_INVALID
        reasonMessage := "envelope failed schema validation (S2.3 §3 step 1)", rulesConsulted := 1 })
  else .continue

def step3EnrichResources : PipelineState := .continue

def step4EvaluateHardDeniesWithEngine (readings : Readings) (envelope : ActionEnvelope)
    (context : PolicyContext) (requestHash : String) (engine : Option HardDenyEngine) : PipelineState :=
  match engine with
  | none => .continue
  | some engine =>
    match engine.check envelope context.subject with
    | none => .continue
    | some denied =>
        .shortCircuit (emitDecision readings
          { context, requestHash, decision := .deny, reasonCode := reasonCodeFor denied
            reasonMessage := reasonMessageFor denied, rulesConsulted := 1 })

def step5EmergencyOverrideWithBoundary (readings : Readings) (envelope : ActionEnvelope)
    (context : PolicyContext) (requestHash : String) (boundary : Option OverrideBoundary) : PipelineState :=
  match boundary with
  | none => .continue
  | some boundary =>
    match boundary.isOverriddenAt readings.grantOrder envelope.request.action
        context.subject.canonicalSubjectId readings.overriddenAt with
    | none => .continue
    | some grant =>
        .shortCircuit (emitDecision readings
          { context, requestHash, decision := .allow
            reasonCode := ReasonCode.EMERGENCY_OVERRIDE_RELAXED
            reasonMessage := "scoped rule `" ++ grant.scope.ruleId ++ "` relaxed by emergency override `" ++
              grant.overrideId ++ "` (granted_by=" ++ grant.grantedBySubjectId ++ ", reason=" ++
              grant.reason ++ ") — S2.3 §16"
            rulesConsulted := 1 })

def step6EvaluateScopedDenies : PipelineState := .continue

def step7EvaluateScopedAllows : PipelineState := .continue

def step8AiSelfApprovalPrevention : PipelineState := .continue

def step9ApplyDefaultDeny (readings : Readings) (context : PolicyContext) (requestHash : String) :
    PipelineState :=
  .shortCircuit (emitDecision readings
    { context, requestHash, decision := .deny, reasonCode := ReasonCode.DEFAULT_DENY
      reasonMessage := "no matching policy rule; default deny (S2.3 §11)", rulesConsulted := 0 })

/-- The whole ladder; `hydratedContext = none` is a failed subject hydration. -/
def evaluateWithChainFull (hash : RequestHash) (readings : Readings) (envelope : ActionEnvelope)
    (originalContext : PolicyContext) (hydratedContext : Option PolicyContext)
    (engine : Option HardDenyEngine) (boundary : Option OverrideBoundary) : PolicyDecision :=
  let requestHash := (hash envelope.request).getD ""
  (step1ValidateSchema readings envelope originalContext requestHash).orElse <|
    match hydratedContext with
    | none =>
        emitDecision readings
          { context := originalContext, requestHash, decision := .deny
            reasonCode := ReasonCode.SUBJECT_UNAUTHENTICATED
            reasonMessage := "subject hydration failed: unknown, expired, or revoked subject (S2.3 §7)"
            rulesConsulted := 1 }
    | some context =>
        step3EnrichResources.orElse <|
          (step4EvaluateHardDeniesWithEngine readings envelope context requestHash engine).orElse <|
            (step5EmergencyOverrideWithBoundary readings envelope context requestHash boundary).orElse <|
              step6EvaluateScopedDenies.orElse <|
                step7EvaluateScopedAllows.orElse <|
                  step8AiSelfApprovalPrevention.orElse <|
                    match step9ApplyDefaultDeny readings context requestHash with
                    | .shortCircuit decision => decision
                    | .continue =>
                        emitDecision readings
                          { context, requestHash, decision := .deny
                            reasonCode := ReasonCode.DEFAULT_DENY
                            reasonMessage := "default deny (S2.3 §11)", rulesConsulted := 0 }

end DecisionPipeline

end Aios.Policy
