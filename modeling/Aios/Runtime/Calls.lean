import Aios.Runtime.Walk

/-! # What the steps leave alone

A pipeline step writes statuses, evidence, the policy slots and the counters; the queue step also
writes the queue, the request step and the consume step the approval sink. A part of the state that
ignores the first group is a `Bystander`, and every other step keeps it.
-/

namespace Aios.Runtime

open Aios.Rust Aios.Action Aios.Policy Stateful

/-- A part of the state that no status change, emission, policy slot or counter touches. -/
structure Bystander {γ : Type} (part : RuntimeState → γ) : Prop where
  statusChanges : ∀ state changes, part { state with statusChanges := changes } = part state
  evidenceLog : ∀ state log, part { state with evidenceLog := log } = part state
  policy : ∀ state constraints approval,
    part { state with policyConstraints := constraints, policyApproval := approval } = part state
  warnings : ∀ state count, part { state with policyDoubleCheckWarnings := count } = part state
  alerts : ∀ state count, part { state with operatorAlerts := count } = part state

/-- What outlives a call besides the queue and the evidence: the recorded contexts and the sink. -/
def RuntimeState.records (state : RuntimeState) : Table ActionId ActionContext × Option InMemoryApprovalSink :=
  (state.contexts, state.approvalSink)

theorem bystander_records : Bystander RuntimeState.records :=
  ⟨fun _ _ => rfl, fun _ _ => rfl, fun _ _ _ => rfl, fun _ _ => rfl, fun _ _ => rfl⟩

theorem bystander_dispatchQueue : Bystander RuntimeState.dispatchQueue :=
  ⟨fun _ _ => rfl, fun _ _ => rfl, fun _ _ _ => rfl, fun _ _ => rfl, fun _ _ => rfl⟩

namespace Bystander

variable {γ : Type} {part : RuntimeState → γ} (bystander : Bystander part) {ctx : ActionContext} {now : DateTime}
  {envelope : ActionEnvelope}
include bystander

theorem moveTo_keeps (target : ActionLifecycleState) : Keeps part (moveTo ctx target now) := by
  unfold moveTo
  cases applyTransition ctx target now with
  | error failure => exact Keeps.of_throw failure
  | ok moved =>
    exact (Keeps.of_modify fun state => bystander.statusChanges state _).bind fun _ => Keeps.of_pure moved

theorem failWith_keeps (reason : ExecutionFailureReason) : Keeps part (failWith ctx reason now) :=
  (bystander.moveTo_keeps .failed).bind fun _ => Keeps.of_pure _

theorem emitWithRetention_keeps (emitter : EvidenceEmitter) (retention : RetentionClass) (payload : EvidencePayload) :
    Keeps part (emitter.emitWithRetention retention ctx payload) := by
  intro state
  rw [EvidenceEmitter.emitWithRetention_apply]
  cases emitter state.evidenceLog ⟨ctx.actionId, retention, payload⟩ with
  | error reason => rfl
  | ok receiptId => exact bystander.evidenceLog state _

theorem emit_keeps (emitter : EvidenceEmitter) (payload : EvidencePayload) : Keeps part (emitter.emit ctx payload) :=
  bystander.emitWithRetention_keeps emitter _ payload

theorem installPolicy_keeps (constraints : Option Constraints) (approval : Option ApprovalRequirement) :
    Keeps part (installPolicy constraints approval) :=
  Keeps.of_modify fun state => bystander.policy state constraints approval

theorem stepValidate_keeps (provenance : Option RuntimeCognitiveProvenance)
    (sandboxComposer : Option RuntimeSandboxComposer) (recoveryMode : Bool) :
    Keeps part (stepValidateWithProvenanceAndSandbox envelope ctx now provenance sandboxComposer recoveryMode) := by
  unfold stepValidateWithProvenanceAndSandbox stepValidate
  split_ifs
  · exact bystander.failWith_keeps _
  · exact bystander.failWith_keeps _
  · exact (bystander.moveTo_keeps _).bind fun _ => Keeps.of_pure _

theorem applyDecision_keeps (runtimeContext : RuntimeContext) (tripwire : Bool) (decision : PolicyDecision) :
    Keeps part (applyDecision ctx now runtimeContext tripwire decision) := by
  unfold applyDecision
  cases decision.decision with
  | allow =>
    refine (bystander.moveTo_keeps _).bind fun moved => (bystander.installPolicy_keeps _ _).bind fun _ => ?_
    refine Keeps.bind (Keeps.of_modify fun state => ?_) fun _ => Keeps.of_pure _
    split_ifs
    · exact bystander.warnings state _
    · rfl
  | requireApproval =>
    exact (bystander.moveTo_keeps _).bind fun _ => (bystander.installPolicy_keeps _ _).bind fun _ => Keeps.of_pure _
  | deny =>
    exact (bystander.moveTo_keeps _).bind fun _ => (bystander.installPolicy_keeps _ _).bind fun _ => Keeps.of_pure _
  | unspecified => exact Keeps.of_throw _

theorem applyPolicyError_keeps (failure : PolicyError) : Keeps part (applyPolicyError ctx now failure) := by
  unfold applyPolicyError
  cases failure with
  | subjectUnauthenticated =>
    exact (bystander.moveTo_keeps _).bind fun _ => (bystander.installPolicy_keeps _ _).bind fun _ => Keeps.of_pure _
  | _ => exact Keeps.of_throw _

variable {kernel : Option PolicyEvaluation} {runtimeContext : Option RuntimeContext} {tripwire : Bool}

variable (registry : Option InMemoryAdapterRegistry) (emitter : EvidenceEmitter)
  (verificationEngine : Option RuntimeVerificationEngine)

section

variable (recoveryHook : Option Bool) (driver : Option RollbackDriver) (operatorAlerts : Bool)

theorem stepPolicyEvaluateWithKernel_keeps :
    Keeps part (stepPolicyEvaluateWithKernel envelope ctx now kernel runtimeContext tripwire) := by
  unfold stepPolicyEvaluateWithKernel
  split
  · split
    · exact bystander.applyDecision_keeps _ _ _
    · exact bystander.applyPolicyError_keeps _
  · exact (bystander.moveTo_keeps _).bind fun _ => Keeps.of_pure _

theorem stepPolicyEvaluateWithKernelAndEmit_keeps :
    Keeps part (stepPolicyEvaluateWithKernelAndEmit envelope ctx now kernel runtimeContext tripwire emitter) := by
  unfold stepPolicyEvaluateWithKernelAndEmit
  split
  · split
    · refine (bystander.applyDecision_keeps _ _ _).bind fun _ => (bystander.emit_keeps emitter _).bind fun _ => ?_
      split <;> exact Keeps.of_pure _
    · exact bystander.applyPolicyError_keeps _
  · exact (bystander.moveTo_keeps _).bind fun _ => Keeps.of_pure _

/-- The queue step keeps what also ignores the queue. -/
theorem stepQueueWithEngine_keeps (queue : ∀ state queue, part { state with dispatchQueue := queue } = part state)
    (admitted : Bool) : Keeps part (stepQueueWithEngine envelope ctx now admitted) := by
  refine Keeps.of_get fun current => ?_
  cases current.dispatchQueue with
  | none => exact (bystander.moveTo_keeps _).bind fun _ => Keeps.of_pure _
  | some held =>
    refine (bystander.moveTo_keeps _).bind fun moved => ?_
    rw [enrolOrFail_eq]
    split_ifs
    · exact Keeps.bind (Keeps.of_modify fun state => queue state _) fun _ => Keeps.of_pure _
    · exact bystander.failWith_keeps _

/-- The emissions after the queue step. -/
theorem emitQueued_keeps (marker : Option String) (queued : ActionContext) :
    Keeps part (do
      let queued ← emitter.emitActionQueued envelope queued queued.queueClass
      match marker with
      | some _ => do
          let queued ← emitter.emitAiInteractiveQueueDowngrade envelope queued
          return PipelineState.continueWith queued
      | none => return PipelineState.continueWith queued) := by
  refine (bystander.emit_keeps emitter _).bind fun _ => ?_
  split
  · exact (bystander.emit_keeps emitter _).bind fun _ => Keeps.of_pure _
  · exact Keeps.of_pure _

theorem stepExecuteWithEngines_keeps : Keeps part (stepExecuteWithEngines envelope ctx now registry recoveryHook) := by
  unfold stepExecuteWithEngines
  split
  · exact (bystander.moveTo_keeps _).bind fun _ => Keeps.of_pure _
  · split
    · exact bystander.failWith_keeps _
    · split_ifs
      · exact bystander.failWith_keeps _
      · exact (bystander.moveTo_keeps _).bind fun _ => Keeps.of_pure _

theorem stepExecuteWithEnginesAndEmit_keeps :
    Keeps part (stepExecuteWithEnginesAndEmit envelope ctx now registry emitter recoveryHook) := by
  refine (bystander.stepExecuteWithEngines_keeps registry recoveryHook).bind fun reached => ?_
  cases reached with
  | shortCircuit refused => exact Keeps.of_pure _
  | continueWith started =>
    dsimp only
    split
    · refine (bystander.emit_keeps emitter _).bind fun _ => ?_
      exact (bystander.emit_keeps emitter _).bind fun _ => Keeps.of_pure _
    · exact (bystander.emit_keeps emitter _).bind fun _ => Keeps.of_pure _

theorem stepVerifyWithEngine_keeps : Keeps part (stepVerifyWithEngine envelope ctx now verificationEngine) := by
  unfold stepVerifyWithEngine
  split
  · refine (bystander.moveTo_keeps _).bind fun _ => ?_
    split_ifs <;> exact (bystander.moveTo_keeps _).bind fun _ => Keeps.of_pure _
  · exact (bystander.moveTo_keeps _).bind fun _ => (bystander.moveTo_keeps _).bind fun _ => Keeps.of_pure _

theorem stepVerifyWithEngineAndEmit_keeps :
    Keeps part (stepVerifyWithEngineAndEmit envelope ctx now emitter verificationEngine) := by
  refine (bystander.emit_keeps emitter _).bind fun _ => ?_
  refine (bystander.stepVerifyWithEngine_keeps verificationEngine).bind fun _ => ?_
  refine (bystander.emit_keeps emitter _).bind fun _ => ?_
  split_ifs <;> exact Keeps.of_pure _

theorem stepVerifyInjectFailureAndEmit_keeps (verificationEngine : Option RuntimeVerificationEngine) :
    Keeps part (stepVerifyInjectFailureAndEmit envelope ctx now emitter driver verificationEngine) := by
  unfold stepVerifyInjectFailureAndEmit
  split_ifs
  · refine (bystander.emit_keeps emitter _).bind fun _ => (bystander.moveTo_keeps _).bind fun _ => ?_
    refine (bystander.moveTo_keeps _).bind fun _ => ?_
    exact (bystander.emit_keeps emitter _).bind fun _ => Keeps.of_pure _
  · exact bystander.stepVerifyWithEngineAndEmit_keeps emitter verificationEngine

theorem finishRollback_keeps (outcome : RollbackOutcome) :
    Keeps part (finishRollback ctx now operatorAlerts outcome) := by
  unfold finishRollback
  cases outcome with
  | succeeded => exact bystander.moveTo_keeps _
  | failed =>
    refine (bystander.moveTo_keeps _).bind fun _ =>
      Keeps.bind (Keeps.of_modify fun state => ?_) fun _ => Keeps.of_pure _
    split_ifs
    · exact bystander.alerts state _
    · rfl
  | _ => exact Keeps.of_pure _

theorem stepRollbackWithDriverAndEmit_keeps (emitter : EvidenceEmitter) :
    Keeps part (stepRollbackWithDriverAndEmit envelope ctx now registry driver operatorAlerts emitter) := by
  have rolled : Keeps part (stepRollbackWithDriver envelope ctx now registry driver operatorAlerts) := by
    unfold stepRollbackWithDriver
    cases driver with
    | none => exact Keeps.of_pure _
    | some driver =>
      dsimp only
      split_ifs
      · exact Keeps.of_pure _
      · split
        · exact Keeps.of_pure _
        · split
          · exact Keeps.of_throw _
          · exact (bystander.finishRollback_keeps _ _).bind fun _ => Keeps.of_pure _
  refine rolled.bind fun result => ?_
  rcases result with ⟨reached, _ | outcome⟩
  · exact Keeps.of_pure _
  · refine Keeps.bind ?_ fun _ => Keeps.of_pure _
    unfold EvidenceEmitter.emitRollbackCompleted
    split_ifs
    · exact bystander.emitWithRetention_keeps emitter _ _
    · exact bystander.emit_keeps emitter _

end

end Bystander

section

variable (engines : Engines) (envelope : ActionEnvelope)

/-! ## The calls of the runtime

The selected driver is split at APPROVED, so that the course of an action from there on has a name
of its own, for `submit_action` and for `resume_with_binding`. For each part: where it leaves the
action, and what it leaves alone.
-/

/-! ### The selected driver, split at APPROVED -/

section

variable (context : RuntimeContext) (now : DateTime) (ctx : ActionContext)

/-- Steps 1 and 2 of the selected driver. -/
def approve : RuntimeM PipelineState := do
  match ← stepValidateWithProvenanceAndSandbox envelope ctx now engines.cognitiveProvenance engines.sandboxComposer
    context.subject.recoveryMode with
  | .shortCircuit ctx => return .shortCircuit ctx
  | .continueWith ctx =>
    match engines.evidenceEmitter with
    | none => stepPolicyEvaluateWithKernel envelope ctx now engines.policyKernel (some context) true
    | some emitter => do
        let ctx ← emitter.emitActionReceived envelope ctx
        stepPolicyEvaluateWithKernelAndEmit envelope ctx now engines.policyKernel (some context) true emitter

/-- Steps 3 to 8 of the selected driver: what `submit_action` does from APPROVED onwards. -/
def submitFromApproved (admitted : Bool) (ctx : ActionContext) : RuntimeM ActionContext :=
  match engines.evidenceEmitter with
  | none => runFromApproved engines envelope now admitted ctx
  | some emitter =>
    match engines.rollbackDriver with
    | some _ => runFromApprovedWithRollback engines envelope now admitted emitter engines.rollbackDriver true ctx
    | none => runFromApprovedWithEvidence engines envelope now admitted emitter ctx

/-- Steps 6 to 8 of the selected driver. -/
def submitFromExecuting : RuntimeM ActionContext :=
  match engines.evidenceEmitter with
  | none =>
      onContinue (stepVerifyWithEngine envelope ctx now engines.verificationEngine) fun ctx =>
      finishWith (stepRollback ctx)
  | some emitter =>
    match engines.rollbackDriver with
    | some _ =>
        onContinue (stepVerifyInjectFailureAndEmit envelope ctx now emitter engines.rollbackDriver
          engines.verificationEngine) fun ctx =>
        finishWith (stepRollbackWithDriverAndEmit envelope ctx now engines.adapterRegistry engines.rollbackDriver true
          emitter)
    | none =>
        onContinue (stepVerifyWithEngineAndEmit envelope ctx now emitter engines.verificationEngine) fun ctx =>
        finishWith (stepRollback ctx)

/-- Steps 5 to 8 of the selected driver. -/
def submitFromQueued : RuntimeM ActionContext :=
  onContinue (resumeExecute engines envelope ctx now) (submitFromExecuting engines envelope now)

/-- Steps 5 and 6 of the resume path. -/
def resumeFromQueued (envelope : ActionEnvelope) (now : DateTime) (ctx : ActionContext) :
    RuntimeM ActionContext := do
  let executed ← resumeExecute engines envelope ctx now
  if executed.intoContext.status = .executing then do
    let verified ← resumeVerify engines envelope executed.intoContext now
    return verified.intoContext
  else return executed.intoContext

/-- Both calls share the queue step and the execute step. -/
theorem submitFromApproved_eq (admitted : Bool) (ctx : ActionContext) :
    submitFromApproved engines envelope now admitted ctx =
      onContinue (resumeQueue engines envelope ctx now admitted) (submitFromQueued engines envelope now) := by
  unfold submitFromApproved submitFromQueued submitFromExecuting resumeQueue resumeExecute
  cases engines.evidenceEmitter with
  | none => rfl
  | some emitter => cases engines.rollbackDriver <;> rfl

theorem selectedDriver_eq (readings : CallReadings) (ctx : ActionContext) :
    selectedDriver engines envelope context readings ctx =
      onContinue (approve engines envelope context readings.now ctx)
        (submitFromApproved engines envelope readings.now readings.admitted) := by
  unfold selectedDriver onContinue approve submitFromApproved
  rw [bind_assoc]
  cases engines.evidenceEmitter with
  | none =>
    refine bind_congr fun reached => ?_
    cases reached <;> rfl
  | some emitter =>
    cases engines.rollbackDriver with
    | none =>
      refine bind_congr fun reached => ?_
      cases reached with
      | shortCircuit refused => rfl
      | continueWith valid => exact (bind_assoc _ _ _).symm
    | some driver =>
      refine bind_congr fun reached => ?_
      cases reached with
      | shortCircuit refused => rfl
      | continueWith valid => exact (bind_assoc _ _ _).symm

end

end

section

open Journey

variable {journey : Journey} {ctx : ActionContext} {engines : Engines} {envelope : ActionEnvelope}
  {context : RuntimeContext} {now : DateTime} {admitted : Bool}

theorem approve_steps (created : ctx.status = .created) (allowed : journey.mayExecute) :
    journey.Steps ctx (approve engines envelope context now ctx) (· = .approved) Settled := by
  refine (stepValidateWithProvenanceAndSandbox_steps created _ _ _).bind ?_ ?_
  · intro valid pending
    dsimp only
    split
    · refine (stepPolicyEvaluateWithKernel_steps pending true fun _ => allowed).mono ?_ fun _ => .inl
      exact fun _ reached => reached.1
    · rename_i emitter _
      refine (emit_ends emitter _).bind fun received same => ?_
      refine (stepPolicyEvaluateWithKernelAndEmit_steps (same.trans pending) true emitter fun _ => allowed).mono ?_
        fun _ => .inl
      exact fun _ reached => reached.1
  · exact fun refused failed => returns_steps ⟨rfl, rfl, rfl⟩ (settled_of_failed failed)

theorem submitFromApproved_ends (approved : ctx.status = .approved) (allowed : journey.mayExecute) :
    journey.Ends ctx (submitFromApproved engines envelope now admitted ctx) Settled := by
  unfold submitFromApproved
  split
  · exact runFromApproved_ends approved allowed
  · split
    · exact runFromApprovedWithRollback_ends approved allowed _ _ _
    · exact runFromApprovedWithEvidence_ends approved allowed _

theorem selectedDriver_ends {readings : CallReadings} (created : ctx.status = .created) (allowed : journey.mayExecute) :
    journey.Ends ctx (selectedDriver engines envelope context readings ctx) Settled := by
  rw [selectedDriver_eq]
  refine onContinue_ends (approve_steps created allowed) (fun _ settled => settled) fun moved approved => ?_
  exact submitFromApproved_ends approved allowed

theorem resumeQueue_steps (approved : ctx.status = .approved) :
    journey.Steps ctx (resumeQueue engines envelope ctx now admitted) (· = .queued) (· = .failed) := by
  unfold resumeQueue
  split
  · exact stepQueueWithEngineAndEmit_steps approved admitted _
  · exact stepQueueWithEngine_steps approved admitted

theorem resumeExecute_steps (queued : ctx.status = .queued) (allowed : journey.mayExecute) :
    journey.Steps ctx (resumeExecute engines envelope ctx now) (· = .executing) (· = .failed) := by
  unfold resumeExecute
  split
  · exact stepExecuteWithEnginesAndEmit_steps queued allowed _ _ _
  · exact stepExecuteWithEngines_steps queued allowed _ _

theorem resumeVerify_steps (executing : ctx.status = .executing) :
    journey.Steps ctx (resumeVerify engines envelope ctx now) (· = .failed) (· = .succeeded) := by
  unfold resumeVerify
  split
  · exact stepVerifyWithEngineAndEmit_steps executing _ _
  · exact stepVerifyWithEngine_steps executing _

/-- On the statuses its steps reach, the resume path is a driver over steps 4 to 6. -/
theorem resumeFromApproved_ends (approved : ctx.status = .approved) (allowed : journey.mayExecute) :
    journey.Ends ctx (resumeFromApproved engines envelope now admitted ctx) Settled := by
  refine Triple.bind (resumeQueue_steps approved) ?_
  rintro (queued | refused) state ⟨at_, reached⟩
  · have going : (PipelineState.continueWith queued).intoContext.status = .queued := reached
    rw [if_pos going]
    refine Triple.bind (resumeExecute_steps reached allowed) ?_ state at_
    rintro (executing | refused) state ⟨at_, started⟩
    · have running : (PipelineState.continueWith executing).intoContext.status = .executing := started
      rw [if_pos running]
      refine Triple.bind (resumeVerify_steps started) ?_ state at_
      rintro (failed | succeeded) state ⟨at_, ended⟩
      · exact ⟨at_, settled_of_failed ended⟩
      · exact ⟨at_, .inr (.inl ended)⟩
    · have stopped : (PipelineState.shortCircuit refused).intoContext.status ≠ .executing := by
        rw [show (PipelineState.shortCircuit refused).intoContext.status = .failed from started]
        decide
      rw [if_neg stopped]
      exact ⟨at_, settled_of_failed started⟩
  · have stopped : (PipelineState.shortCircuit refused).intoContext.status ≠ .queued := by
      rw [show (PipelineState.shortCircuit refused).intoContext.status = .failed from reached]
      decide
    rw [if_neg stopped]
    exact ⟨at_, settled_of_failed reached⟩

end

/-! ### What the parts leave alone -/

namespace Bystander

variable {γ : Type} {part : RuntimeState → γ} (bystander : Bystander part) {ctx : ActionContext} {engines : Engines}
  {envelope : ActionEnvelope} {context : RuntimeContext} {now : DateTime} {admitted : Bool}

theorem onContinue_keeps {program : RuntimeM PipelineState} {rest : ActionContext → RuntimeM ActionContext}
    (first : Keeps part program) (next : ∀ ctx, Keeps part (rest ctx)) : Keeps part (onContinue program rest) := by
  refine first.bind fun reached => ?_
  cases reached with
  | continueWith moved => exact next moved
  | shortCircuit halted => exact Keeps.of_pure halted

theorem finishWith_keeps {program : RuntimeM PipelineState} (kept : Keeps part program) :
    Keeps part (finishWith program) :=
  kept.bind fun _ => (Keeps.of_pure _).bind fun _ => Keeps.of_pure _

include bystander

theorem approve_keeps : Keeps part (approve engines envelope context now ctx) := by
  refine (bystander.stepValidate_keeps _ _ _).bind fun reached => ?_
  cases reached with
  | shortCircuit refused => exact Keeps.of_pure _
  | continueWith valid =>
    dsimp only
    split
    · exact bystander.stepPolicyEvaluateWithKernel_keeps
    · exact (bystander.emit_keeps _ _).bind fun _ => bystander.stepPolicyEvaluateWithKernelAndEmit_keeps _

theorem resumeExecute_keeps : Keeps part (resumeExecute engines envelope ctx now) := by
  unfold resumeExecute
  split
  · exact bystander.stepExecuteWithEnginesAndEmit_keeps _ _ _
  · exact bystander.stepExecuteWithEngines_keeps _ _

theorem resumeVerify_keeps : Keeps part (resumeVerify engines envelope ctx now) := by
  unfold resumeVerify
  split
  · exact bystander.stepVerifyWithEngineAndEmit_keeps _ _
  · exact bystander.stepVerifyWithEngine_keeps _

theorem submitFromExecuting_keeps : Keeps part (submitFromExecuting engines envelope now ctx) := by
  unfold submitFromExecuting
  split
  · exact onContinue_keeps (bystander.stepVerifyWithEngine_keeps _) fun _ => finishWith_keeps (Keeps.of_pure _)
  · split
    · refine onContinue_keeps (bystander.stepVerifyInjectFailureAndEmit_keeps _ _ _) fun _ => ?_
      exact finishWith_keeps (bystander.stepRollbackWithDriverAndEmit_keeps _ _ _ _)
    · exact onContinue_keeps (bystander.stepVerifyWithEngineAndEmit_keeps _ _) fun _ =>
        finishWith_keeps (Keeps.of_pure _)

theorem submitFromQueued_keeps : Keeps part (submitFromQueued engines envelope now ctx) :=
  onContinue_keeps bystander.resumeExecute_keeps fun _ => bystander.submitFromExecuting_keeps

theorem resumeFromQueued_keeps : Keeps part (resumeFromQueued engines envelope now ctx) := by
  refine bystander.resumeExecute_keeps.bind fun executed => ?_
  split_ifs
  · exact bystander.resumeVerify_keeps.bind fun _ => Keeps.of_pure _
  · exact Keeps.of_pure _

section

variable (queue : ∀ state queue, part { state with dispatchQueue := queue } = part state)
include queue

theorem resumeQueue_keeps : Keeps part (resumeQueue engines envelope ctx now admitted) := by
  unfold resumeQueue
  split
  · refine (bystander.stepQueueWithEngine_keeps queue admitted).bind fun reached => ?_
    cases reached with
    | continueWith queued => exact bystander.emitQueued_keeps _ _ queued
    | shortCircuit refused => exact Keeps.of_pure _
  · exact bystander.stepQueueWithEngine_keeps queue admitted

theorem selectedDriver_keeps {readings : CallReadings} :
    Keeps part (selectedDriver engines envelope context readings ctx) := by
  rw [selectedDriver_eq]
  refine onContinue_keeps bystander.approve_keeps fun approved => ?_
  rw [submitFromApproved_eq]
  exact onContinue_keeps (bystander.resumeQueue_keeps queue) fun _ => bystander.submitFromQueued_keeps

theorem resumeFromApproved_keeps : Keeps part (resumeFromApproved engines envelope now admitted ctx) := by
  refine (bystander.resumeQueue_keeps queue).bind fun queued => ?_
  split_ifs
  · exact bystander.resumeFromQueued_keeps
  · exact Keeps.of_pure _

end

end Bystander

end Aios.Runtime
