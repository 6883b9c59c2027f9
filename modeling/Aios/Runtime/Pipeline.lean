import Aios.Policy.Pipeline
import Aios.Runtime.Evidence

/-! # The pipeline steps

One definition for each step of `ActionLifecyclePipeline`, in the variants the drivers call: plain,
with an engine, with an engine and an emitter, with the rollback driver.

A pipeline run consults each engine at most once, so an engine is the answer function it has during
that run; the evidence sink, which is asked repeatedly, answers from what it has accepted. The
dispatch queue and the approval sink handed to a step are those of the state.
-/

namespace Aios.Runtime

open Aios.Rust Aios.Action Aios.Policy

variable (envelope : ActionEnvelope) (ctx : ActionContext)

/-! ## Engines -/

/-- `PolicyKernel::evaluate_policy`. -/
abbrev PolicyEvaluation := ActionEnvelope → PolicyContext → Except PolicyError PolicyDecision

/-- `RuntimeVerificationEngine::verify` on an intent and an action id. -/
abbrev RuntimeVerificationEngine := String → String → Except String Bool

/-- `RuntimeCognitiveProvenance::verify_provenance`. -/
abbrev RuntimeCognitiveProvenance := ActionEnvelope → Except String Unit

structure SandboxProfileSummary where
  profileId : String
  isolationKind : String
  networkPosture : String
  gpuCapabilityClass : String
deriving DecidableEq, Repr

/-- `RuntimeSandboxComposer::compose_for_action` on target, subject, AI flag and recovery mode. -/
abbrev RuntimeSandboxComposer := String → String → Bool → Bool → Except String SandboxProfileSummary

/-- `serde_json::to_string` of a string. -/
def jsonString (text : String) : String :=
  "\"" ++ String.join (text.toList.map escaped) ++ "\""
where
  hexDigit (n : ℕ) : String := (n.digitChar).toString
  escaped (c : Char) : String :=
    if c = '"' then "\\\""
    else if c = '\\' then "\\\\"
    else if c = '\n' then "\\n"
    else if c = '\r' then "\\r"
    else if c = '\t' then "\\t"
    else if c.toNat = 8 then "\\b"
    else if c.toNat = 12 then "\\f"
    else if c.toNat < 32 then "\\u00" ++ hexDigit (c.toNat / 16) ++ hexDigit (c.toNat % 16)
    else c.toString

/-- `serde_json::to_string` of the summary. -/
def SandboxProfileSummary.toJson (summary : SandboxProfileSummary) : String :=
  "\x7b\"profile_id\":" ++ jsonString summary.profileId ++ ",\"isolation_kind\":" ++ jsonString summary.isolationKind ++
    ",\"network_posture\":" ++ jsonString summary.networkPosture ++ ",\"gpu_capability_class\":" ++
    jsonString summary.gpuCapabilityClass ++ "\x7d"

/-- The caller's context; the two policy slots are the contents on entry. -/
structure RuntimeContext where
  subject : HydratedSubject
  bundleVersion : String
  codeVersion : String
  policyConstraints : Option Constraints := none
  policyApproval : Option ApprovalRequirement := none
deriving DecidableEq, Repr

def RuntimeContext.policyContext (self : RuntimeContext) : PolicyContext where
  subject := self.subject
  bundleVersion := self.bundleVersion
  codeVersion := self.codeVersion

/-- `install_policy_constraints` and `install_policy_approval`. -/
def installPolicy (constraints : Option Constraints) (approval : Option ApprovalRequirement) : RuntimeM Unit :=
  modify fun state => { state with policyConstraints := constraints, policyApproval := approval }

/-! ## Step results -/

inductive PipelineState where
  | continueWith (ctx : ActionContext)
  | shortCircuit (ctx : ActionContext)
deriving DecidableEq, Repr

def PipelineState.intoContext : PipelineState → ActionContext
  | continueWith ctx => ctx
  | shortCircuit ctx => ctx

/-- The exit several steps share: FAILED with a reason, and the pipeline halts. -/
def failWith (ctx : ActionContext) (reason : ExecutionFailureReason) (now : DateTime) : RuntimeM PipelineState := do
  let ctx ← moveTo ctx .failed now
  return .shortCircuit { ctx with error := some reason }

/-! ## Step 1: validate -/

def stepValidate (ctx : ActionContext) (now : DateTime) : RuntimeM PipelineState :=
  if isBlank envelope.request.action || isBlank envelope.identity.subjectCanonicalId then
    failWith ctx .envelopeValidationFailed now
  else do
    let ctx ← moveTo ctx .policyPending now
    return .continueWith ctx

/-- Whether an AI envelope is refused by the provenance hook. -/
def provenanceRefuses (provenance : Option RuntimeCognitiveProvenance) : Bool :=
  envelope.identity.isAi && match provenance with
    | some hook => !(hook envelope).isOk
    | none => false

/-- The composed profile goes onto the evidence chain; a failed composition does not block. -/
def composeSandbox (sandboxComposer : Option RuntimeSandboxComposer) (recoveryMode : Bool) : ActionContext :=
  match sandboxComposer with
  | none => ctx
  | some composer =>
    match composer envelope.request.action envelope.identity.subjectCanonicalId envelope.identity.isAi recoveryMode with
    | .ok summary => { ctx with evidenceChain := ctx.evidenceChain ++ ["sandbox_profile:" ++ summary.toJson] }
    | .error _ => ctx

def stepValidateWithProvenanceAndSandbox (ctx : ActionContext) (now : DateTime)
    (provenance : Option RuntimeCognitiveProvenance) (sandboxComposer : Option RuntimeSandboxComposer)
    (recoveryMode : Bool) : RuntimeM PipelineState :=
  if provenanceRefuses envelope provenance then failWith ctx .adapterRefused now
  else stepValidate envelope (composeSandbox envelope ctx sandboxComposer recoveryMode) now

/-! ## Step 2: evaluate policy -/

/-- Without a kernel the step assumes ALLOW. -/
def stepPolicyEvaluate (ctx : ActionContext) (now : DateTime) : RuntimeM PipelineState := do
  let ctx ← moveTo ctx .approved now
  return .continueWith ctx

/-- An AI subject was allowed without a human approver class. -/
def needsDoubleCheck (runtimeContext : RuntimeContext) (decision : PolicyDecision) : Bool :=
  runtimeContext.subject.isAi &&
    !decision.approval.approverClasses.any fun approver => approver = .human || approver = .operator

/-- The transition a decision drives and what it installs on the runtime context, as both policy
steps have it. -/
def applyDecision (now : DateTime) (runtimeContext : RuntimeContext) (tripwire : Bool) (decision : PolicyDecision) :
    RuntimeM PipelineState :=
  match decision.decision with
  | .allow => do
      let ctx ← moveTo ctx .approved now
      installPolicy (some decision.constraints) (some decision.approval)
      modify fun state =>
        if needsDoubleCheck runtimeContext decision && tripwire then
          { state with policyDoubleCheckWarnings := state.policyDoubleCheckWarnings + 1 }
        else state
      return .continueWith ctx
  | .requireApproval => do
      let ctx ← moveTo ctx .approvalPending now
      installPolicy (some decision.constraints) (some decision.approval)
      return .shortCircuit ctx
  | .deny => do
      let ctx ← moveTo ctx .policyDenied now
      installPolicy none none
      return .shortCircuit ctx
  | .unspecified =>
      throw (.policyEvalFailed "kernel returned Decision::Unspecified (S2.3 §4 invariant violated)")

/-- The kernel produced no decision: an unauthenticated subject is denied, any other failure is the
runtime's own. -/
def applyPolicyError (now : DateTime) : PolicyError → RuntimeM PipelineState
  | .subjectUnauthenticated => do
      let ctx ← moveTo ctx .policyDenied now
      installPolicy none none
      return .shortCircuit { ctx with error := some .envelopeValidationFailed }
  | other => throw (.policyEvalFailed other.display)

def stepPolicyEvaluateWithKernel (ctx : ActionContext) (now : DateTime) (kernel : Option PolicyEvaluation)
    (runtimeContext : Option RuntimeContext) (tripwire : Bool) : RuntimeM PipelineState :=
  match kernel, runtimeContext with
  | some kernel, some runtimeContext =>
      match kernel envelope runtimeContext.policyContext with
      | .ok decision => applyDecision ctx now runtimeContext tripwire decision
      | .error failure => applyPolicyError ctx now failure
  | _, _ => stepPolicyEvaluate ctx now

def stepPolicyEvaluateWithKernelAndEmit (ctx : ActionContext) (now : DateTime) (kernel : Option PolicyEvaluation)
    (runtimeContext : Option RuntimeContext) (tripwire : Bool) (emitter : EvidenceEmitter) : RuntimeM PipelineState :=
  match kernel, runtimeContext with
  | some kernel, some runtimeContext =>
      match kernel envelope runtimeContext.policyContext with
      | .ok decision => do
          let state ← applyDecision ctx now runtimeContext tripwire decision
          let ctx ← emitter.emitPolicyDecision state.intoContext decision
          match decision.decision with
          | .allow => return .continueWith ctx
          | _ => return .shortCircuit ctx
      | .error failure => applyPolicyError ctx now failure
  | _, _ => stepPolicyEvaluate ctx now

/-! ## Step 3: request approval -/

def stepRequestApprovalPassthrough (ctx : ActionContext) : RuntimeM PipelineState := return .continueWith ctx

/-- `blake3_truncated` of the canonical request, empty when it cannot be canonicalised. -/
def canonicalHash (hash : RequestHash) (envelope : ActionEnvelope) : String := (hash envelope.request).getD ""

def defaultRequirement : ApprovalRequirement where
  required := true
  approvalScope := .exactRequestHash
  ttlSeconds := 300
  approverClasses := [.human]
  requireHumanCoSigner := false

/-- A sink behind the trait may refuse any call; the in-memory one accepts every request. -/
def stepRequestApproval (hash : RequestHash) (envelope : ActionEnvelope) (ctx : ActionContext) (requestId : String)
    (sinkOutage : Option RuntimeError) (requirement : Option ApprovalRequirement)
    (emitter : Option EvidenceEmitter) : RuntimeM PipelineState := do
  if ctx.status ≠ .approvalPending then return .continueWith ctx
  else
    match (← get).approvalSink with
    | none => return .shortCircuit ctx
    | some sink => do
        let requirement := requirement.getD defaultRequirement
        let request : ApprovalRequest :=
          { requestId, actionId := ctx.actionId, requirement
            proposingSubjectId := envelope.identity.subjectCanonicalId
            proposingSubjectIsAi := envelope.identity.isAi
            boundActionCanonicalHash := canonicalHash hash envelope
            requestedAt := ctx.lastUpdatedAt }
        match sinkOutage with
        | some failure => throw failure
        | none => do
            modify fun state => { state with approvalSink := some (sink.submitRequest request) }
            match emitter with
            | none => return .shortCircuit ctx
            | some emitter => do
                let ctx ← emitter.emitApprovalRequested ctx requestId envelope.identity.subjectCanonicalId
                  envelope.identity.isAi requirement.ttlSeconds requirement.requireHumanCoSigner
                return .shortCircuit ctx

/-- The approver classes of the requirement, or any class but agents when there are none. -/
def classMatches (requirement : Option ApprovalRequirement) (grantedByClass : ApproverClass) : Bool :=
  match requirement with
  | some requirement =>
      if requirement.approverClasses.isEmpty then grantedByClass != .agent
      else requirement.approverClasses.contains grantedByClass
  | none => grantedByClass != .agent

def NO_SINK : RuntimeError := .internal "no approval sink wired; cannot consume binding"

/-- `sink.consume_binding`. -/
def consumeFromSink (bindingId : String) (consumedAt : DateTime) (sinkOutage : Option RuntimeError) :
    RuntimeM ApprovalBinding := do
  match (← get).approvalSink, sinkOutage with
  | none, _ => throw NO_SINK
  | some _, some failure => throw failure
  | some sink, none =>
    match sink.consumeBinding bindingId consumedAt with
    | (answer, sink) => do
        modify fun state => { state with approvalSink := some sink }
        match answer with
        | .ok binding => return binding
        | .error failure => throw failure

/-- The receipt of a refused binding, on a copy of the context. -/
def refuseBinding (emitter : Option EvidenceEmitter) (ctx : ActionContext) (binding : ApprovalBinding)
    (reasonCode reasonMessage : String) (failure : RuntimeError) : RuntimeM PipelineState :=
  match emitter with
  | none => throw failure
  | some emitter => do
      let _ ← emitter.emitApprovalDenied ctx (some binding.requestId) (some binding.bindingId) reasonCode reasonMessage
      throw failure

/-- The checks on a consumed binding against the resumed envelope, then APPROVED. -/
def acceptBinding (hash : RequestHash) (envelope : ActionEnvelope) (ctx : ActionContext) (now : DateTime)
    (bindingId : String) (requirement : Option ApprovalRequirement) (emitter : Option EvidenceEmitter)
    (binding : ApprovalBinding) : RuntimeM PipelineState :=
  if binding.boundActionCanonicalHash ≠ "" ∧ canonicalHash hash envelope ≠ binding.boundActionCanonicalHash then
    refuseBinding emitter ctx binding "ACTION_REVISED"
      "binding voided: action canonical hash changed between grant and execute"
      (.approvalBindingInvalid ("binding " ++ bindingId ++ " bound to a different canonical hash"))
  else if envelope.identity.isAi = true ∧ binding.grantedBy = envelope.identity.subjectCanonicalId then
    refuseBinding emitter ctx binding "AI_SELF_APPROVAL_BLOCKED"
      "AI subject cannot approve its own action (INV-002 defense-in-depth)" .approvalApproverClassMismatch
  else if classMatches requirement binding.grantedByClass = false then
    refuseBinding emitter ctx binding "APPROVER_CLASS_MISMATCH"
      "binding granted_by_class is not in the policy's required approver classes" .approvalApproverClassMismatch
  else do
    let ctx ← moveTo ctx .approved now
    match emitter with
    | none => return .continueWith ctx
    | some emitter => do
        let ctx ← emitter.emitApprovalGranted ctx binding.requestId binding.bindingId binding.grantedBy
          binding.boundActionCanonicalHash
        return .continueWith ctx

def stepConsumeBinding (hash : RequestHash) (envelope : ActionEnvelope) (ctx : ActionContext) (now : DateTime)
    (bindingId : String) (consumedAt : DateTime) (sinkOutage : Option RuntimeError)
    (requirement : Option ApprovalRequirement) (emitter : Option EvidenceEmitter) : RuntimeM PipelineState :=
  if ctx.status ≠ .approvalPending then throw (.invalidTransition ctx.status .approved)
  else do
    let binding ← consumeFromSink bindingId consumedAt sinkOutage
    acceptBinding hash envelope ctx now bindingId requirement emitter binding

/-! ## Step 4: queue -/

def stepQueue (ctx : ActionContext) (now : DateTime) : RuntimeM PipelineState := do
  let ctx ← moveTo ctx .queued now
  return .continueWith ctx

/-- The admission gate: a full queue or an exhausted rate limit fails the action. -/
def enrolOrFail (queue : DispatchQueue) (envelope : ActionEnvelope) (ctx : ActionContext) (now : DateTime)
    (admitted : Bool) : RuntimeM PipelineState :=
  match queue.enroll ctx envelope.identity.subjectCanonicalId admitted with
  | .ok (stored, queue) => do
      modify fun state => { state with dispatchQueue := some queue }
      return .continueWith stored
  | .error (.queueFull _) => failWith ctx .resourceBudgetExceeded now
  | .error (.rateLimited _) => failWith ctx .resourceBudgetExceeded now
  | .error other => throw other

theorem enrolOrFail_eq (queue : DispatchQueue) (envelope : ActionEnvelope) (ctx : ActionContext) (now : DateTime)
    (admitted : Bool) :
    enrolOrFail queue envelope ctx now admitted =
      if admitted && queue.hasRoom ctx.queueClass then do
        modify fun state => { state with dispatchQueue := some (queue.pushBack ctx) }
        return .continueWith ctx
      else failWith ctx .resourceBudgetExceeded now := by
  unfold enrolOrFail
  rcases queue.enroll_cases ctx envelope.identity.subjectCanonicalId admitted with
    ⟨admits, room, enrolled⟩ | ⟨refused, limited | ⟨queueClass, full⟩⟩
  · rw [enrolled, admits, room]
    rfl
  · have closed : (admitted && queue.hasRoom ctx.queueClass) = false := by
      rcases refused with refused | refused <;> simp [refused]
    simp only [limited, closed, Bool.false_eq_true, if_false]
  · have closed : (admitted && queue.hasRoom ctx.queueClass) = false := by
      rcases refused with refused | refused <;> simp [refused]
    simp only [full, closed, Bool.false_eq_true, if_false]

def stepQueueWithEngine (ctx : ActionContext) (now : DateTime) (admitted : Bool) :
    RuntimeM PipelineState := do
  match (← get).dispatchQueue with
  | none => stepQueue ctx now
  | some queue => do
      let ctx ← moveTo { ctx with queueClass := selectQueueClass envelope false } .queued now
      enrolOrFail queue envelope ctx now admitted

def stepQueueWithEngineAndEmit (ctx : ActionContext) (now : DateTime) (admitted : Bool) (emitter : EvidenceEmitter) :
    RuntimeM PipelineState := do
  match ← stepQueueWithEngine envelope ctx now admitted with
  | .continueWith queued => do
      let queued ← emitter.emitActionQueued envelope queued queued.queueClass
      -- The marker is read off the context before enrolment, where the class is still the old one.
      match applyAiInteractiveDowngrade ctx envelope.identity.isAi with
      | some _ => do
          let queued ← emitter.emitAiInteractiveQueueDowngrade envelope queued
          return .continueWith queued
      | none => return .continueWith queued
  | .shortCircuit refused => return .shortCircuit refused

/-! ## Step 5: execute -/

/-- The dispatch kind of an adapter; the risk flag is not on the envelope and a looked-up adapter
counts as stable. -/
def chosenDispatchKind (adapter : RegisteredAdapter) : ActionDispatchKind :=
  computeDispatchKind adapter.manifest.dispatchKind
    { isSimulate := envelope.request.dryRun = .simulate, isAi := envelope.identity.isAi
      riskPrivileged := false, manifestStable := true }

/-- Whether the recovery gate turns the adapter away; the hook reports the current mode. -/
def recoveryRefuses (adapter : RegisteredAdapter) (recoveryHook : Option Bool) : Bool :=
  adapterRequiresRecovery adapter.manifest envelope.request.action && recoveryHook == some false

def stepExecuteWithEngines (ctx : ActionContext) (now : DateTime) (registry : Option InMemoryAdapterRegistry)
    (recoveryHook : Option Bool) : RuntimeM PipelineState :=
  match registry with
  | none => do
      let ctx ← moveTo ctx .executing now
      return .continueWith ctx
  | some registry =>
    match registry.lookupForTarget envelope.request.action with
    | none => failWith ctx .dependencyUnready now
    | some adapter =>
      if recoveryRefuses envelope adapter recoveryHook then failWith ctx .adapterRefused now
      else do
        let ctx ← moveTo { ctx with dispatchKind := chosenDispatchKind envelope adapter } .executing now
        return .continueWith ctx

def stepExecuteWithEnginesAndEmit (ctx : ActionContext) (now : DateTime) (registry : Option InMemoryAdapterRegistry)
    (emitter : EvidenceEmitter) (recoveryHook : Option Bool) :
    RuntimeM PipelineState := do
  match ← stepExecuteWithEngines envelope ctx now registry recoveryHook with
  | .continueWith ctx => do
      match registry.bind fun registry => registry.lookupForTarget envelope.request.action with
      | some _ => do
          let ctx ← emitter.emitRoutingDecision envelope ctx envelope.request.action ctx.dispatchKind
          let ctx ← emitter.emitExecutionStarted ctx
          return .continueWith ctx
      | none => do
          let ctx ← emitter.emitExecutionStarted ctx
          return .continueWith ctx
  | .shortCircuit ctx => return .shortCircuit ctx

/-! ## Step 6: verify -/

def stepVerify (ctx : ActionContext) (now : DateTime) : RuntimeM PipelineState := do
  let ctx ← moveTo ctx .verifying now
  let ctx ← moveTo ctx .succeeded now
  return .shortCircuit ctx

def verificationIntentJson : Option String :=
  ((envelope.request.target.get "verification_intent").bind Json.asStr).filter fun intent => !isBlank intent

/-- `verify(..).unwrap_or_default()`. -/
def verificationPassed (engine : RuntimeVerificationEngine) (intentJson : String) (actionId : ActionId) : Bool :=
  match engine intentJson actionId with
  | .ok passed => passed
  | .error _ => false

def stepVerifyWithEngine (envelope : ActionEnvelope) (ctx : ActionContext) (now : DateTime)
    (verificationEngine : Option RuntimeVerificationEngine) : RuntimeM PipelineState :=
  match verificationEngine, verificationIntentJson envelope with
  | some engine, some intentJson => do
      let ctx ← moveTo ctx .verifying now
      if verificationPassed engine intentJson ctx.actionId then do
        let ctx ← moveTo ctx .succeeded now
        return .shortCircuit ctx
      else do
        let ctx ← moveTo ctx .failed now
        return .continueWith { ctx with error := some .adapterRefused }
  | _, _ => stepVerify ctx now

def stepVerifyWithEngineAndEmit (ctx : ActionContext) (now : DateTime) (emitter : EvidenceEmitter)
    (verificationEngine : Option RuntimeVerificationEngine) :
    RuntimeM PipelineState := do
  let ctx ← emitter.emitExecutionCompleted ctx "ADAPTER_OK"
  let state ← stepVerifyWithEngine envelope ctx now verificationEngine
  let passed : Bool := state.intoContext.status = .succeeded
  let ctx ← emitter.emitVerificationResult state.intoContext passed
  if passed then return .shortCircuit ctx else return .continueWith ctx

def stepVerifyInjectFailureAndEmit (ctx : ActionContext) (now : DateTime) (emitter : EvidenceEmitter)
    (driver : Option RollbackDriver) (verificationEngine : Option RuntimeVerificationEngine) : RuntimeM PipelineState :=
  if driver.any RollbackDriver.injectVerifyFailure then do
    let ctx ← emitter.emitExecutionCompleted ctx "ADAPTER_OK"
    let ctx ← moveTo ctx .verifying now
    let ctx ← moveTo ctx .failed now
    let ctx ← emitter.emitVerificationResult { ctx with error := some .adapterRefused } false
    return .continueWith ctx
  else stepVerifyWithEngineAndEmit envelope ctx now emitter verificationEngine

/-! ## Steps 7 and 8: rollback, evidence -/

def stepRollback (ctx : ActionContext) : RuntimeM PipelineState := return .continueWith ctx

/-- Record the outcome and apply its terminal; a failed rollback raises the operator alert. -/
def finishRollback (ctx : ActionContext) (now : DateTime) (operatorAlerts : Bool) (outcome : RollbackOutcome) :
    RuntimeM ActionContext :=
  let ctx := { ctx with rollbackOutcome := some outcome }
  match outcome with
  | .succeeded => moveTo ctx (RollbackDriver.classifyTerminal outcome) now
  | .failed => do
      let ctx ← moveTo ctx (RollbackDriver.classifyTerminal outcome) now
      modify fun state =>
        if operatorAlerts then { state with operatorAlerts := state.operatorAlerts + 1 } else state
      return ctx
  | .notAttempted | .notApplicable => return ctx

def stepRollbackWithDriver (ctx : ActionContext) (now : DateTime) (registry : Option InMemoryAdapterRegistry)
    (driver : Option RollbackDriver) (operatorAlerts : Bool) : RuntimeM (PipelineState × Option RollbackOutcome) :=
  match driver with
  | none => return (.continueWith ctx, none)
  | some driver =>
    if ctx.status ≠ .failed then return (.continueWith ctx, none)
    else match registry.bind fun registry => registry.lookupForTarget envelope.request.action with
      | none => return (.shortCircuit ctx, none)
      | some registered =>
        match registered.manifest.rollbackStrategyFor envelope.request.action with
        | .error failure => throw failure
        | .ok strategy => do
            let outcome := driver.runRollback strategy
            let ctx ← finishRollback ctx now operatorAlerts outcome
            return (.shortCircuit ctx, some outcome)

def stepRollbackWithDriverAndEmit (ctx : ActionContext) (now : DateTime) (registry : Option InMemoryAdapterRegistry)
    (driver : Option RollbackDriver) (operatorAlerts : Bool) (emitter : EvidenceEmitter) : RuntimeM PipelineState := do
  match ← stepRollbackWithDriver envelope ctx now registry driver operatorAlerts with
  | (state, none) => return state
  | (state, some outcome) => do
      let ctx ← emitter.emitRollbackCompleted state.intoContext outcome state.intoContext.error
      return .shortCircuit ctx

def stepEmitEvidence (ctx : ActionContext) : RuntimeM PipelineState := return .continueWith ctx

end Aios.Runtime
