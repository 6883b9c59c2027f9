import Aios.Runtime.Pipeline

/-! # The pipeline drivers and the runtime

Three drivers walk the eight steps: plain, with an evidence emitter, and with emitter and rollback
driver. `submitAction` picks one of them; `resumeWithBinding` walks steps 4 to 6 on its own after it
has consumed a binding. `executeAction` is the RPC that routes to either with a context it builds
from the envelope.
-/

namespace Aios.Runtime

open Aios.Rust Aios.Action Aios.Policy

/-- What a runtime has attached besides the dispatch queue and the approval sink of its state.
`sinkOutage` is the error of a remote approval sink that refuses its call. -/
structure Engines where
  adapterRegistry : Option InMemoryAdapterRegistry := none
  policyKernel : Option PolicyEvaluation := none
  evidenceEmitter : Option EvidenceEmitter := none
  verificationEngine : Option RuntimeVerificationEngine := none
  recoveryHook : Option Bool := none
  cognitiveProvenance : Option RuntimeCognitiveProvenance := none
  sandboxComposer : Option RuntimeSandboxComposer := none
  rollbackDriver : Option RollbackDriver := none
  sinkOutage : Option RuntimeError := none

/-- What one call reads from its surroundings: the clock on entry, the minted ids, the verdict of
the rate limiter and the clock at the consumption of a binding. -/
structure CallReadings where
  now : DateTime
  actionId : ActionId
  requestId : String
  admitted : Bool
  consumedAt : DateTime

/-! ## Drivers -/

/-- `match state { Continue(c) => .., ShortCircuit(c) => return Ok(c) }`. -/
def onContinue (step : RuntimeM PipelineState) (next : ActionContext → RuntimeM ActionContext) :
    RuntimeM ActionContext := do
  match ← step with
  | .continueWith ctx => next ctx
  | .shortCircuit ctx => return ctx

/-- `match state { Continue(c) | ShortCircuit(c) => step_emit_evidence(c) }` and the final context. -/
def finishWith (step : RuntimeM PipelineState) : RuntimeM ActionContext := do
  let state ← step
  let state ← stepEmitEvidence state.intoContext
  return state.intoContext

section Drivers

variable (engines : Engines) (envelope : ActionEnvelope) (now : DateTime) (admitted : Bool)
  (runtimeContext : Option RuntimeContext) (tripwire : Bool)

variable (emitter : EvidenceEmitter) (ctx : ActionContext)

/-- Steps 3 to 8 of the plain driver. -/
def runFromApproved : RuntimeM ActionContext :=
  onContinue (stepRequestApprovalPassthrough ctx) fun ctx =>
  onContinue (stepQueueWithEngine envelope ctx now admitted) fun ctx =>
  onContinue (stepExecuteWithEngines envelope ctx now engines.adapterRegistry engines.recoveryHook) fun ctx =>
  onContinue (stepVerifyWithEngine envelope ctx now engines.verificationEngine) fun ctx =>
  finishWith (stepRollback ctx)

def runWithFullEngines (ctx : ActionContext) : RuntimeM ActionContext :=
  onContinue (stepValidateWithProvenanceAndSandbox envelope ctx now engines.cognitiveProvenance
    engines.sandboxComposer (runtimeContext.any fun context => context.subject.recoveryMode)) fun ctx =>
  onContinue (stepPolicyEvaluateWithKernel envelope ctx now engines.policyKernel runtimeContext tripwire) fun ctx =>
  runFromApproved engines envelope now admitted ctx

/-- Steps 1 and 2 of the drivers with an emitter. -/
def approveWithEvidence (next : ActionContext → RuntimeM ActionContext) : RuntimeM ActionContext :=
  onContinue (stepValidateWithProvenanceAndSandbox envelope ctx now engines.cognitiveProvenance
    engines.sandboxComposer (runtimeContext.any fun context => context.subject.recoveryMode)) fun ctx => do
  let ctx ← emitter.emitActionReceived envelope ctx
  onContinue (stepPolicyEvaluateWithKernelAndEmit envelope ctx now engines.policyKernel runtimeContext tripwire
    emitter) next

/-- Steps 3 to 8 with an emitter. -/
def runFromApprovedWithEvidence : RuntimeM ActionContext :=
  onContinue (stepRequestApprovalPassthrough ctx) fun ctx =>
  onContinue (stepQueueWithEngineAndEmit envelope ctx now admitted emitter) fun ctx =>
  onContinue (stepExecuteWithEnginesAndEmit envelope ctx now engines.adapterRegistry emitter
    engines.recoveryHook) fun ctx =>
  onContinue (stepVerifyWithEngineAndEmit envelope ctx now emitter engines.verificationEngine) fun ctx =>
  finishWith (stepRollback ctx)

def runWithFullEnginesAndEvidence (ctx : ActionContext) : RuntimeM ActionContext :=
  approveWithEvidence engines envelope now runtimeContext tripwire emitter ctx fun ctx =>
  runFromApprovedWithEvidence engines envelope now admitted emitter ctx

/-- Steps 3 to 8 with an emitter and the rollback driver. -/
def runFromApprovedWithRollback (rollbackDriver : Option RollbackDriver) (operatorAlerts : Bool) (ctx : ActionContext) :
    RuntimeM ActionContext :=
  onContinue (stepRequestApprovalPassthrough ctx) fun ctx =>
  onContinue (stepQueueWithEngineAndEmit envelope ctx now admitted emitter) fun ctx =>
  onContinue (stepExecuteWithEnginesAndEmit envelope ctx now engines.adapterRegistry emitter
    engines.recoveryHook) fun ctx =>
  onContinue (stepVerifyInjectFailureAndEmit envelope ctx now emitter rollbackDriver
    engines.verificationEngine) fun ctx =>
  finishWith (stepRollbackWithDriverAndEmit envelope ctx now engines.adapterRegistry rollbackDriver operatorAlerts
    emitter)

def runWithFullEnginesAndEvidenceAndRollback (rollbackDriver : Option RollbackDriver) (operatorAlerts : Bool)
    (ctx : ActionContext) : RuntimeM ActionContext :=
  approveWithEvidence engines envelope now runtimeContext tripwire emitter ctx fun ctx =>
  runFromApprovedWithRollback engines envelope now admitted emitter rollbackDriver operatorAlerts ctx

end Drivers

variable (engines : Engines) (envelope : ActionEnvelope) (ctx : ActionContext)

/-! ## The runtime -/

section

variable (now : DateTime) (actionId : ActionId)

/-- The driver `submit_action` selects, with the caller's context and both counters handed over. -/
def selectedDriver (envelope : ActionEnvelope) (context : RuntimeContext) (readings : CallReadings)
    (ctx : ActionContext) : RuntimeM ActionContext :=
  match engines.evidenceEmitter with
  | none => runWithFullEngines engines envelope readings.now readings.admitted (some context) true ctx
  | some emitter =>
    match engines.rollbackDriver with
    | some _ =>
        runWithFullEnginesAndEvidenceAndRollback engines envelope readings.now readings.admitted (some context) true
          emitter engines.rollbackDriver true ctx
    | none =>
        runWithFullEnginesAndEvidence engines envelope readings.now readings.admitted (some context) true emitter ctx

/-- Hand the caller's runtime context to the call: its slots become those of the state. -/
def enter (context : RuntimeContext) : RuntimeM Unit :=
  installPolicy context.policyConstraints context.policyApproval

/-- Insert under the action id. -/
def persist (ctx : ActionContext) : RuntimeM ActionContext := do
  modify fun state => { state with contexts := state.contexts.insert actionId ctx }
  return ctx

/-- The approval submission after the driver; it passes every other status through. -/
def submitApproval (hash : RequestHash) (engines : Engines) (envelope : ActionEnvelope) (requestId : String)
    (ctx : ActionContext) : RuntimeM ActionContext := do
  let state ← get
  if ctx.status = .approvalPending ∧ state.approvalSink.isSome then do
    let step ← stepRequestApproval hash envelope ctx requestId engines.sinkOutage state.policyApproval
      engines.evidenceEmitter
    return step.intoContext
  else return ctx

def submitAction (hash : RequestHash) (engines : Engines) (envelope : ActionEnvelope) (context : RuntimeContext)
    (readings : CallReadings) : RuntimeM ActionContext := do
  enter context
  let ctx ← selectedDriver engines envelope context readings (freshContext readings.actionId readings.now)
  let ctx ← submitApproval hash engines envelope readings.requestId ctx
  persist readings.actionId ctx

/-- The stored context of a resumable action. -/
def loadPending : RuntimeM ActionContext := do
  let state ← get
  if state.approvalSink.isNone then throw NO_SINK
  else match state.contexts.lookup actionId with
    | none => throw (.actionNotFound actionId)
    | some stored =>
      if stored.status ≠ .approvalPending then throw (.invalidTransition stored.status .approved)
      else return stored

/-- Step 4 of the resume path: the emitting variant when an emitter is wired. -/
def resumeQueue (admitted : Bool) : RuntimeM PipelineState :=
  match engines.evidenceEmitter with
  | some emitter => stepQueueWithEngineAndEmit envelope ctx now admitted emitter
  | none => stepQueueWithEngine envelope ctx now admitted

/-- Step 5 of the resume path. -/
def resumeExecute : RuntimeM PipelineState :=
  match engines.evidenceEmitter with
  | some emitter =>
      stepExecuteWithEnginesAndEmit envelope ctx now engines.adapterRegistry emitter engines.recoveryHook
  | none => stepExecuteWithEngines envelope ctx now engines.adapterRegistry engines.recoveryHook

/-- Step 6 of the resume path. -/
def resumeVerify : RuntimeM PipelineState :=
  match engines.evidenceEmitter with
  | some emitter => stepVerifyWithEngineAndEmit envelope ctx now emitter engines.verificationEngine
  | none => stepVerifyWithEngine envelope ctx now engines.verificationEngine

/-- The resume path from APPROVED on: each further step only in the status the last one should reach. -/
def resumeFromApproved (admitted : Bool) (ctx : ActionContext) : RuntimeM ActionContext := do
  let queued ← resumeQueue engines envelope ctx now admitted
  if queued.intoContext.status = .queued then do
    let executed ← resumeExecute engines envelope queued.intoContext now
    if executed.intoContext.status = .executing then do
      let verified ← resumeVerify engines envelope executed.intoContext now
      return verified.intoContext
    else return executed.intoContext
  else return queued.intoContext

/-- The consumption of a binding by a resume call that holds the stored context. -/
def consumeForResume (hash : RequestHash) (engines : Engines) (envelope : ActionEnvelope) (context : RuntimeContext)
    (bindingId : String) (readings : CallReadings) (stored : ActionContext) : RuntimeM ActionContext := do
  let step ← stepConsumeBinding hash envelope stored readings.now bindingId readings.consumedAt engines.sinkOutage
    context.policyApproval engines.evidenceEmitter
  return step.intoContext

def resumeWithBinding (hash : RequestHash) (engines : Engines) (actionId : ActionId) (envelope : ActionEnvelope)
    (context : RuntimeContext) (bindingId : String) (readings : CallReadings) : RuntimeM ActionContext := do
  let stored ← loadPending actionId
  let approved ← consumeForResume hash engines envelope context bindingId readings stored
  let ctx ← resumeFromApproved engines envelope readings.now readings.admitted approved
  persist actionId ctx

end

/-! ## The RPC -/

structure CapabilityRuntimeService where
  defaultSubject : HydratedSubject
  bundleVersion : String
  codeVersion : String
deriving DecidableEq, Repr

/-- A new context for each call, with empty policy slots. -/
def CapabilityRuntimeService.buildContext (self : CapabilityRuntimeService) (envelope : ActionEnvelope) :
    RuntimeContext where
  subject := { self.defaultSubject with
    canonicalSubjectId := envelope.identity.subjectCanonicalId, isAi := envelope.identity.isAi }
  bundleVersion := self.bundleVersion
  codeVersion := self.codeVersion

structure ExecuteActionRequest where
  envelope : ActionEnvelope
  actionRequestId : String := ""
  approvalBindingId : String := ""

/-- `ExecuteAction`. An action id that does not parse names no recorded action. -/
def executeAction (hash : RequestHash) (service : CapabilityRuntimeService) (engines : Engines)
    (request : ExecuteActionRequest) (readings : CallReadings) : RuntimeM ActionContext :=
  let context := service.buildContext request.envelope
  if !isBlank request.approvalBindingId && !isBlank request.actionRequestId then
    resumeWithBinding hash engines request.actionRequestId request.envelope context request.approvalBindingId readings
  else submitAction hash engines request.envelope context readings

end Aios.Runtime
