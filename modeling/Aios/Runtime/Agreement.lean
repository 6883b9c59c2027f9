import Aios.Policy.Kernel
import Aios.Runtime.Walk

/-! # The drivers agree

Evidence is written and never read: erasing the evidence chains and the log from two states that
differ in nothing else leaves them equal, and every step keeps them so. With an emitter that never
fails, each emitting step is the plain step up to that erasure, and so are the drivers.
-/

namespace Aios.Runtime

open Aios.Rust Aios.Action Aios.Policy Stateful

/-! ## Erasing evidence -/

def ActionContext.unevidenced (ctx : ActionContext) : ActionContext := { ctx with evidenceChain := [] }

def DispatchQueue.unevidenced (queue : DispatchQueue) : DispatchQueue :=
  { queue with queues := fun queueClass => (queue.queues queueClass).map ActionContext.unevidenced }

def RuntimeState.unevidenced (state : RuntimeState) : RuntimeState :=
  { state with evidenceLog := [], dispatchQueue := state.dispatchQueue.map DispatchQueue.unevidenced }

/-- Equal up to evidence. -/
def Same (ctx other : ActionContext) : Prop := ctx.unevidenced = other.unevidenced

def Alike (state other : RuntimeState) : Prop := state.unevidenced = other.unevidenced

def SameStep : PipelineState → PipelineState → Prop
  | .continueWith ctx, .continueWith other => Same ctx other
  | .shortCircuit ctx, .shortCircuit other => Same ctx other
  | _, _ => False

theorem Same.rechained {ctx other : ActionContext} (same : Same ctx other) :
    other = { ctx with evidenceChain := other.evidenceChain } := by
  cases ctx
  cases other
  simp only [Same, ActionContext.unevidenced, ActionContext.mk.injEq] at same
  simp [same]

theorem SameStep.intoContext {step other : PipelineState} (same : SameStep step other) :
    Same step.intoContext other.intoContext := by
  cases step <;> cases other <;> first | exact same | exact same.elim

theorem DispatchQueue.unevidenced_pushBack (queue : DispatchQueue) (ctx : ActionContext) :
    (queue.pushBack ctx).unevidenced = queue.unevidenced.pushBack ctx.unevidenced := by
  unfold pushBack unevidenced
  congr 1
  funext queueClass
  by_cases here : queueClass = ctx.queueClass
  · subst here
    simp [ActionContext.unevidenced]
  · simp [ActionContext.unevidenced, Function.update_of_ne here]

theorem DispatchQueue.unevidenced_hasRoom (queue : DispatchQueue) (queueClass : QueueClass) :
    queue.unevidenced.hasRoom queueClass = queue.hasRoom queueClass := by
  have kept : queue.unevidenced.depth = queue.depth := funext fun _ => List.length_map _
  unfold hasRoom
  rw [kept]
  rfl

/-! ## Steps -/

variable {ctx other : ActionContext} {now : DateTime} {envelope : ActionEnvelope}

theorem moveTo_related (same : Same ctx other) (target : ActionLifecycleState) :
    Related Alike (fun moved moved' => Same moved moved' ∧ moved.status = target) (moveTo ctx target now)
      (moveTo other target now) := by
  intro state state' alike
  rw [same.rechained]
  unfold moveTo applyTransition
  dsimp only
  split_ifs
  · refine .ok ⟨rfl, rfl⟩ ?_
    simp only [Alike, RuntimeState.unevidenced, RuntimeState.mk.injEq] at alike ⊢
    simp [alike]
  · exact .error alike

theorem modify_related {update update' : RuntimeState → RuntimeState}
    (alike : ∀ state other, Alike state other → Alike (update state) (update' other)) :
    Related Alike Eq (modify update : RuntimeM PUnit) (modify update') := Related.of_modify alike

theorem failWith_related (same : Same ctx other) (reason : ExecutionFailureReason) :
    Related Alike SameStep (failWith ctx reason now) (failWith other reason now) := by
  refine (moveTo_related same .failed).bind fun moved moved' reached => Related.of_pure ?_
  rw [reached.1.rechained]
  rfl

/-- With a sink that never fails, an emission is invisible. -/
theorem emitWithRetention_related {emitter : EvidenceEmitter} (reliable : emitter.NeverFails) (same : Same ctx other)
    (retention : RetentionClass) (payload : EvidencePayload) :
    Related Alike Same (pure ctx) (emitter.emitWithRetention retention other payload) := by
  intro state state' alike
  obtain ⟨receiptId, accepted⟩ := reliable state'.evidenceLog ⟨other.actionId, retention, payload⟩
  rw [EvidenceEmitter.emitWithRetention_apply, accepted]
  exact .ok same alike

theorem emit_related {emitter : EvidenceEmitter} (reliable : emitter.NeverFails) (same : Same ctx other)
    (payload : EvidencePayload) : Related Alike Same (pure ctx) (emitter.emit other payload) :=
  emitWithRetention_related reliable same payload.retentionClass payload

theorem composeSandbox_same_of_same (same : Same ctx other) (sandboxComposer : Option RuntimeSandboxComposer)
    (recoveryMode : Bool) :
    Same (composeSandbox envelope ctx sandboxComposer recoveryMode)
      (composeSandbox envelope other sandboxComposer recoveryMode) := by
  rw [same.rechained]
  unfold composeSandbox
  cases sandboxComposer with
  | none => rfl
  | some composer =>
    dsimp only
    split <;> rfl

theorem stepValidate_related (same : Same ctx other) :
    Related Alike SameStep (stepValidate envelope ctx now) (stepValidate envelope other now) := by
  unfold stepValidate
  split_ifs
  · exact failWith_related same .envelopeValidationFailed
  · exact (moveTo_related same .policyPending).bind fun _ _ reached => Related.of_pure reached.1

theorem stepValidateWithProvenanceAndSandbox_related (same : Same ctx other)
    (provenance : Option RuntimeCognitiveProvenance) (sandboxComposer : Option RuntimeSandboxComposer)
    (recoveryMode : Bool) :
    Related Alike SameStep
      (stepValidateWithProvenanceAndSandbox envelope ctx now provenance sandboxComposer recoveryMode)
      (stepValidateWithProvenanceAndSandbox envelope other now provenance sandboxComposer recoveryMode) := by
  unfold stepValidateWithProvenanceAndSandbox
  split_ifs
  · exact failWith_related same .adapterRefused
  · exact stepValidate_related (composeSandbox_same_of_same same sandboxComposer recoveryMode)

theorem installPolicy_related (constraints : Option Constraints) (approval : Option ApprovalRequirement) :
    Related Alike Eq (installPolicy constraints approval) (installPolicy constraints approval) := by
  apply modify_related
  intro state other alike
  simp only [Alike, RuntimeState.unevidenced, RuntimeState.mk.injEq] at alike ⊢
  simp [alike]

/-- Two policy results of one decision: both go on exactly when it allows. -/
def AfterDecision (decision : PolicyDecision) : PipelineState → PipelineState → Prop
  | .continueWith ctx, .continueWith other => Same ctx other ∧ decision.decision = .allow
  | .shortCircuit ctx, .shortCircuit other => Same ctx other ∧ decision.decision ≠ .allow
  | _, _ => False

theorem AfterDecision.sameStep {decision : PolicyDecision} {step step' : PipelineState}
    (after : AfterDecision decision step step') : SameStep step step' := by
  cases step <;> cases step' <;> first | exact after.1 | exact after.elim

theorem applyDecision_related (same : Same ctx other) (runtimeContext : RuntimeContext) (tripwire : Bool)
    (decision : PolicyDecision) :
    Related Alike (AfterDecision decision) (applyDecision ctx now runtimeContext tripwire decision)
      (applyDecision other now runtimeContext tripwire decision) := by
  unfold applyDecision
  cases verdict : decision.decision with
  | allow =>
    refine (moveTo_related same .approved).bind fun moved moved' reached => ?_
    refine (installPolicy_related _ _).bind fun _ _ _ => ?_
    refine (modify_related ?_).bind fun _ _ _ => Related.of_pure ⟨reached.1, verdict⟩
    intro state other alike
    split_ifs
    · simp only [Alike, RuntimeState.unevidenced, RuntimeState.mk.injEq] at alike ⊢
      simp [alike]
    · exact alike
  | requireApproval =>
    refine (moveTo_related same .approvalPending).bind fun moved moved' reached => ?_
    refine (installPolicy_related _ _).bind fun _ _ _ => Related.of_pure ⟨reached.1, ?_⟩
    simp [verdict]
  | deny =>
    refine (moveTo_related same .policyDenied).bind fun moved moved' reached => ?_
    refine (installPolicy_related _ _).bind fun _ _ _ => Related.of_pure ⟨reached.1, ?_⟩
    simp [verdict]
  | unspecified => exact Related.of_throw _

theorem applyPolicyError_related (same : Same ctx other) (failure : PolicyError) :
    Related Alike SameStep (applyPolicyError ctx now failure) (applyPolicyError other now failure) := by
  unfold applyPolicyError
  cases failure with
  | subjectUnauthenticated =>
    refine (moveTo_related same .policyDenied).bind fun moved moved' reached => ?_
    refine (installPolicy_related _ _).bind fun _ _ _ => Related.of_pure ?_
    rw [reached.1.rechained]
    rfl
  | _ => exact Related.of_throw _

variable {emitter : EvidenceEmitter} {kernel : Option PolicyEvaluation} {runtimeContext : Option RuntimeContext}
  {tripwire : Bool}

theorem stepPolicyEvaluate_related (reliable : emitter.NeverFails) (same : Same ctx other) :
    Related Alike SameStep (stepPolicyEvaluateWithKernel envelope ctx now kernel runtimeContext tripwire)
      (stepPolicyEvaluateWithKernelAndEmit envelope other now kernel runtimeContext tripwire emitter) := by
  unfold stepPolicyEvaluateWithKernel stepPolicyEvaluateWithKernelAndEmit
  split
  · rename_i evaluate context
    cases evaluate envelope context.policyContext with
    | error failure => exact applyPolicyError_related same failure
    | ok decision =>
      refine (applyDecision_related same context tripwire decision).then_right ?_
      intro step step' after
      refine (emit_related reliable after.sameStep.intoContext _).skip_right fun receipted receipt => ?_
      cases step <;> cases step'
      · rw [after.2]
        exact Related.of_pure receipt
      · exact after.elim
      · exact after.elim
      · split
        · exact absurd ‹_› after.2
        · exact Related.of_pure receipt
  · exact (moveTo_related same .approved).bind fun _ _ reached => Related.of_pure reached.1

/-- Alike states hold queues that admit alike. -/
theorem Alike.dispatchQueue {state other : RuntimeState} (alike : Alike state other) :
    state.dispatchQueue.map DispatchQueue.unevidenced = other.dispatchQueue.map DispatchQueue.unevidenced :=
  congrArg RuntimeState.dispatchQueue alike

theorem Alike.withQueue {state other : RuntimeState} (alike : Alike state other) {queue queue' : DispatchQueue}
    (same : queue.unevidenced = queue'.unevidenced) :
    Alike { state with dispatchQueue := some queue } { other with dispatchQueue := some queue' } := by
  simp only [Alike, RuntimeState.unevidenced, RuntimeState.mk.injEq, Option.map_some, Option.some.injEq] at alike ⊢
  simp [alike, same]

/-- Enrolment decides alike on queues and contexts that are equal up to evidence. -/
theorem enrolOrFail_related {queue queue' : DispatchQueue} (queues : queue.unevidenced = queue'.unevidenced)
    (same : Same ctx other) (admitted : Bool) :
    Related Alike SameStep (enrolOrFail queue envelope ctx now admitted)
      (enrolOrFail queue' envelope other now admitted) := by
  have class_eq : other.queueClass = ctx.queueClass := by rw [same.rechained]
  have room : queue'.hasRoom other.queueClass = queue.hasRoom ctx.queueClass := by
    rw [← queue'.unevidenced_hasRoom, ← queues, queue.unevidenced_hasRoom, class_eq]
  rw [enrolOrFail_eq, enrolOrFail_eq, room]
  split_ifs
  · refine (modify_related fun state other alike => ?_).bind fun _ _ _ => Related.of_pure same
    apply alike.withQueue
    rw [DispatchQueue.unevidenced_pushBack, DispatchQueue.unevidenced_pushBack, queues, same]
  · exact failWith_related same .resourceBudgetExceeded

theorem stepQueueWithEngine_related (same : Same ctx other) (admitted : Bool) :
    Related Alike SameStep (stepQueueWithEngine envelope ctx now admitted)
      (stepQueueWithEngine envelope other now admitted) := by
  refine Related.of_get fun state state' alike => ?_
  have queues := alike.dispatchQueue
  cases held : state.dispatchQueue with
  | none =>
    cases held' : state'.dispatchQueue with
    | none => exact (moveTo_related same .queued).bind fun _ _ reached => Related.of_pure reached.1
    | some queue' => simp [held, held'] at queues
  | some queue =>
    cases held' : state'.dispatchQueue with
    | none => simp [held, held'] at queues
    | some queue' =>
      simp only [held, held', Option.map_some, Option.some.injEq] at queues
      have selected : Same { ctx with queueClass := selectQueueClass envelope false }
          { other with queueClass := selectQueueClass envelope false } := by
        rw [same.rechained]
        rfl
      exact (moveTo_related selected .queued).bind fun _ _ reached => enrolOrFail_related queues reached.1 admitted

theorem stepQueue_related (reliable : emitter.NeverFails) (same : Same ctx other) (admitted : Bool) :
    Related Alike SameStep (stepQueueWithEngine envelope ctx now admitted)
      (stepQueueWithEngineAndEmit envelope other now admitted emitter) := by
  refine (stepQueueWithEngine_related same admitted).then_right ?_
  rintro (queued | refused) (queued' | refused') step
  · refine (emit_related reliable step _).skip_right fun receipted receipt => ?_
    split
    · exact (emit_related reliable receipt _).skip_right fun _ marked => Related.of_pure marked
    · exact Related.of_pure receipt
  · exact step.elim
  · exact step.elim
  · exact Related.of_pure step

theorem stepExecuteWithEngines_related (same : Same ctx other) (registry : Option InMemoryAdapterRegistry)
    (recoveryHook : Option Bool) :
    Related Alike SameStep (stepExecuteWithEngines envelope ctx now registry recoveryHook)
      (stepExecuteWithEngines envelope other now registry recoveryHook) := by
  unfold stepExecuteWithEngines
  cases registry with
  | none => exact (moveTo_related same .executing).bind fun _ _ reached => Related.of_pure reached.1
  | some registry =>
    dsimp only
    split
    · exact failWith_related same .dependencyUnready
    · rename_i adapter _
      split_ifs
      · exact failWith_related same .adapterRefused
      · have chosen : Same { ctx with dispatchKind := chosenDispatchKind envelope adapter }
            { other with dispatchKind := chosenDispatchKind envelope adapter } := by
          rw [same.rechained]
          rfl
        exact (moveTo_related chosen .executing).bind fun _ _ reached => Related.of_pure reached.1

theorem stepExecute_related (reliable : emitter.NeverFails) (same : Same ctx other)
    (registry : Option InMemoryAdapterRegistry) (recoveryHook : Option Bool) :
    Related Alike SameStep (stepExecuteWithEngines envelope ctx now registry recoveryHook)
      (stepExecuteWithEnginesAndEmit envelope other now registry emitter recoveryHook) := by
  refine (stepExecuteWithEngines_related same registry recoveryHook).then_right ?_
  rintro (started | refused) (started' | refused') step
  · dsimp only
    split
    · refine (emit_related reliable step _).skip_right fun routed route => ?_
      exact (emit_related reliable route _).skip_right fun _ receipt => Related.of_pure receipt
    · exact (emit_related reliable step _).skip_right fun _ receipt => Related.of_pure receipt
  · exact step.elim
  · exact step.elim
  · exact Related.of_pure step

/-- Two verification results: the pipeline goes on with a failure and halts on success. -/
def AfterVerification : PipelineState → PipelineState → Prop
  | .continueWith ctx, .continueWith other => Same ctx other ∧ ctx.status = .failed
  | .shortCircuit ctx, .shortCircuit other => Same ctx other ∧ ctx.status = .succeeded
  | _, _ => False

theorem stepVerifyWithEngine_related (same : Same ctx other) (verificationEngine : Option RuntimeVerificationEngine) :
    Related Alike AfterVerification (stepVerifyWithEngine envelope ctx now verificationEngine)
      (stepVerifyWithEngine envelope other now verificationEngine) := by
  unfold stepVerifyWithEngine
  split
  · refine (moveTo_related same .verifying).bind fun moved moved' reached => ?_
    have id_eq : moved'.actionId = moved.actionId := by rw [reached.1.rechained]
    rw [id_eq]
    split_ifs
    · exact (moveTo_related reached.1 .succeeded).bind fun _ _ done => Related.of_pure done
    · refine (moveTo_related reached.1 .failed).bind fun failed failed' done => Related.of_pure ⟨?_, done.2⟩
      rw [done.1.rechained]
      rfl
  · refine (moveTo_related same .verifying).bind fun moved moved' reached => ?_
    exact (moveTo_related reached.1 .succeeded).bind fun _ _ done => Related.of_pure done

theorem stepVerify_related (reliable : emitter.NeverFails) (same : Same ctx other)
    (verificationEngine : Option RuntimeVerificationEngine) :
    Related Alike AfterVerification (stepVerifyWithEngine envelope ctx now verificationEngine)
      (stepVerifyWithEngineAndEmit envelope other now emitter verificationEngine) := by
  refine (emit_related reliable same _).skip_right fun completed receipt => ?_
  refine (stepVerifyWithEngine_related receipt verificationEngine).then_right ?_
  rintro (failed | succeeded) (failed' | succeeded') step
  · refine (emit_related reliable step.1 _).skip_right fun receipted receipt => ?_
    have ended : (PipelineState.continueWith failed').intoContext.status = .failed := by
      rw [step.1.rechained]
      exact step.2
    rw [ended, if_neg (by decide)]
    exact Related.of_pure ⟨receipt, step.2⟩
  · exact step.elim
  · exact step.elim
  · refine (emit_related reliable step.1 _).skip_right fun receipted receipt => ?_
    have ended : (PipelineState.shortCircuit succeeded').intoContext.status = .succeeded := by
      rw [step.1.rechained]
      exact step.2
    rw [ended, if_pos (by decide)]
    exact Related.of_pure ⟨receipt, step.2⟩

theorem AfterVerification.sameStep {step step' : PipelineState} (after : AfterVerification step step') :
    SameStep step step' := by
  cases step <;> cases step' <;> first | exact after.1 | exact after.elim

/-! ## Drivers -/

theorem onContinue_related {step step' : RuntimeM PipelineState} {next next' : ActionContext → RuntimeM ActionContext}
    (steps : Related Alike SameStep step step')
    (rest : ∀ ctx other, Same ctx other → Related Alike Same (next ctx) (next' other)) :
    Related Alike Same (onContinue step next) (onContinue step' next') := by
  refine steps.bind ?_
  rintro (moved | halted) (moved' | halted') same
  · exact rest moved moved' same
  · exact same.elim
  · exact same.elim
  · exact Related.of_pure same

variable {engines : Engines} {admitted : Bool}

theorem runFromApproved_related (reliable : emitter.NeverFails) (same : Same ctx other) :
    Related Alike Same (runFromApproved engines envelope now admitted ctx)
      (runFromApprovedWithEvidence engines envelope now admitted emitter other) := by
  refine onContinue_related (Related.of_pure same) fun ctx other same => ?_
  refine onContinue_related (stepQueue_related reliable same admitted) fun ctx other same => ?_
  refine onContinue_related (stepExecute_related reliable same _ _) fun ctx other same => ?_
  refine onContinue_related ((stepVerify_related reliable same _).mono fun _ _ after => after.sameStep)
    fun ctx other same => ?_
  exact Related.of_pure same

theorem runWithFullEngines_related (reliable : emitter.NeverFails) (same : Same ctx other) :
    Related Alike Same (runWithFullEngines engines envelope now admitted runtimeContext tripwire ctx)
      (runWithFullEnginesAndEvidence engines envelope now admitted runtimeContext tripwire emitter other) := by
  refine onContinue_related (stepValidateWithProvenanceAndSandbox_related same _ _ _) fun ctx other same => ?_
  refine (emit_related reliable same _).skip_right fun receipted receipt => ?_
  refine onContinue_related (stepPolicyEvaluate_related reliable receipt) fun ctx other same => ?_
  exact runFromApproved_related reliable same

/-- Without a rollback driver the rollback variant is the evidence variant. -/
theorem runWithRollback_none (operatorAlerts : Bool) :
    runWithFullEnginesAndEvidenceAndRollback engines envelope now admitted runtimeContext tripwire emitter none
      operatorAlerts ctx =
    runWithFullEnginesAndEvidence engines envelope now admitted runtimeContext tripwire emitter ctx := rfl

/-- What a caller reads off a final context, apart from times and evidence. -/
def ActionContext.observed (ctx : ActionContext) :
    ActionLifecycleState × Option ExecutionFailureReason × ActionDispatchKind × QueueClass :=
  (ctx.status, ctx.error, ctx.dispatchKind, ctx.queueClass)

theorem Same.observed {ctx other : ActionContext} (same : Same ctx other) : ctx.observed = other.observed := by
  rw [same.rechained]
  rfl

/-- A driver run of a fresh action makes a gapless walk of the transition table from CREATED to the
status it returns, enters EXECUTING only under the condition and never ends in an illegal
transition. -/
def LegalRun (before : RuntimeState) (actionId : ActionId) (mayExecute : Prop)
    (result : EStateM.Result RuntimeError RuntimeState ActionContext) : Prop :=
  ∃ changes status, (finalState result).statusChanges = before.statusChanges ++ changes ∧
    Walk actionId .created changes status ∧ (∀ ctx after, result = .ok ctx after → ctx.status = status) ∧
    (∀ change ∈ changes, change.target = .executing → mayExecute) ∧
    ∀ source target after, result ≠ .error (.invalidTransition source target) after

theorem legalRun_of_ends {before : RuntimeState} {actionId : ActionId} {mayExecute : Prop}
    {program : RuntimeM ActionContext} {final : ActionLifecycleState → Prop}
    (ends : Journey.Ends ⟨before, actionId, .created, mayExecute⟩ (freshContext actionId now) program final) :
    LegalRun before actionId mayExecute (program before) := by
  have reached := ends before ⟨rfl, ⟨[], (List.append_nil _).symm, .nil, by simp⟩, .inl rfl⟩
  cases ran : program before with
  | ok ctx after =>
    rw [ran] at reached
    obtain ⟨⟨-, ⟨changes, recorded, walked, guarded⟩, -⟩, -⟩ := reached
    refine ⟨changes, ctx.status, recorded, walked, ?_, guarded, ?_⟩
    · rintro _ _ ⟨⟩
      rfl
    · rintro _ _ _ ⟨⟩
  | error failure after =>
    rw [ran] at reached
    obtain ⟨legal, status, changes, recorded, walked, guarded⟩ := reached
    refine ⟨changes, status, recorded, walked, ?_, guarded, ?_⟩
    · rintro _ _ ⟨⟩
    · rintro source target _ ⟨⟩
      exact legal source target rfl

/-- The three drivers on one fresh action: they agree, and each makes a legal run. -/
def DriversAgree (engines : Engines) (envelope : ActionEnvelope) (actionId : ActionId) (now : DateTime)
    (admitted : Bool) (runtimeContext : Option RuntimeContext) (tripwire : Bool) (emitter : EvidenceEmitter)
    (operatorAlerts : Bool) (before : RuntimeState) (mayExecute : Prop) : Prop :=
  let plain := runWithFullEngines engines envelope now admitted runtimeContext tripwire
    (freshContext actionId now) before
  let evidence := runWithFullEnginesAndEvidence engines envelope now admitted runtimeContext tripwire emitter
    (freshContext actionId now) before
  let rollback := runWithFullEnginesAndEvidenceAndRollback engines envelope now admitted runtimeContext tripwire emitter
    none operatorAlerts (freshContext actionId now) before
  outcome ActionContext.observed plain = outcome ActionContext.observed evidence ∧
    outcome ActionContext.observed plain = outcome ActionContext.observed rollback ∧
    LegalRun before actionId mayExecute plain ∧ LegalRun before actionId mayExecute evidence ∧
    LegalRun before actionId mayExecute rollback

/-- The drivers agree, walk the table, and execute only what the kernel allowed, where a kernel and
a runtime context are supplied. -/
theorem pipeline_drivers_agree (engines : Engines) (envelope : ActionEnvelope) (actionId : ActionId) (now : DateTime)
    (admitted : Bool) (runtimeContext : Option RuntimeContext) (tripwire : Bool) {emitter : EvidenceEmitter}
    (reliable : emitter.NeverFails) (operatorAlerts : Bool) (before : RuntimeState) :
    DriversAgree engines envelope actionId now admitted runtimeContext tripwire emitter operatorAlerts before
      (KernelAllows engines.policyKernel runtimeContext envelope) := by
  have related : Related Alike Same
      (runWithFullEngines engines envelope now admitted runtimeContext tripwire (freshContext actionId now))
      (runWithFullEnginesAndEvidence engines envelope now admitted runtimeContext tripwire emitter
        (freshContext actionId now)) := runWithFullEngines_related reliable rfl
  have agree := related.outcome_eq (fun _ _ same => same.observed) (rfl : Alike before before)
  have evidenceLegal : LegalRun before actionId (KernelAllows engines.policyKernel runtimeContext envelope)
      (runWithFullEnginesAndEvidence engines envelope now admitted runtimeContext tripwire emitter
        (freshContext actionId now) before) := by
    apply legalRun_of_ends
    apply approveWithEvidence_ends rfl emitter id
    exact fun ctx approved allowed => runFromApprovedWithEvidence_ends approved allowed emitter
  refine ⟨agree, ?_, legalRun_of_ends (runWithFullEngines_ends rfl id), evidenceLegal, ?_⟩
  · rw [runWithRollback_none]
    exact agree
  · rw [runWithRollback_none]
    exact evidenceLegal

/-! ## A denied restart that executes -/

/-- The in-memory Policy Kernel as the engine of one run. -/
def kernelEvaluation (kernel : PolicyKernel) (hash : RequestHash) (readings : Readings) : PolicyEvaluation :=
  fun envelope context => (kernel.evaluatePolicy hash readings envelope context).1

/-- The attached kernel returned ALLOW for the envelope, under some policy context. -/
def AllowReturned (kernel : Option PolicyEvaluation) (envelope : ActionEnvelope) : Prop :=
  ∃ evaluate context decision, kernel = some evaluate ∧ evaluate envelope context = .ok decision ∧
    decision.decision = .allow

/-- A restart without a verification intent. -/
def plainRestart : ActionEnvelope where
  identity := { subjectCanonicalId := "human:lucky", isAi := false }
  request := { action := "service.restart", target := .object [] }

/-- The digest of its request. -/
def plainRestartHash : RequestHash := fun _ => some "b99cd703907adbffe70bc5e41d8f40bd"

/-- A kernel without rules denies by default. -/
def bareKernel : PolicyEvaluation :=
  kernelEvaluation {} (fun _ => some "b99cd703907adbffe70bc5e41d8f40bd") (readingsAt 0)

/-- An in-process evidence sink that hands out one receipt id. -/
def acceptingSink : EvidenceEmitter := fun _ _ => .ok "evr_01HX7777777777777777777777"

theorem bareKernel_denies (context : PolicyContext) :
    (bareKernel plainRestart context).map PolicyDecision.decision = .ok .deny := rfl

/-- A legal run that enters EXECUTING has met the condition. -/
theorem LegalRun.mayExecute {before : RuntimeState} {actionId : ActionId} {mayExecute : Prop}
    {result : EStateM.Result RuntimeError RuntimeState ActionContext}
    (legal : LegalRun before actionId mayExecute result)
    {entered : StatusChange} (recorded : entered ∈ (finalState result).statusChanges)
    (fresh : before.statusChanges = []) (executing : entered.target = .executing) : mayExecute := by
  obtain ⟨changes, status, appended, -, -, guarded, -⟩ := legal
  rw [appended, fresh, List.nil_append] at recorded
  exact guarded entered recorded executing

/-- Handed no runtime context, the drivers do not ask the denying kernel and execute; without a
kernel they do the same. -/
theorem driversAgree_fails_without_context :
    ¬ DriversAgree { policyKernel := some bareKernel } plainRestart "act_1" 0 true none true acceptingSink true {}
        (AllowReturned (some bareKernel) plainRestart) ∧
      ¬ DriversAgree {} plainRestart "act_1" 0 true none true acceptingSink true {}
        (AllowReturned none plainRestart) := by
  constructor
  · rintro ⟨-, -, legal, -⟩
    obtain ⟨evaluate, context, decision, attached, answered, allow⟩ :=
      legal.mayExecute (by decide : (⟨"act_1", .queued, .executing⟩ : StatusChange) ∈ _) rfl rfl
    obtain rfl := Option.some.inj attached
    have denied := bareKernel_denies context
    rw [answered] at denied
    rw [Except.ok.inj denied] at allow
    cases allow
  · rintro ⟨-, -, legal, -⟩
    obtain ⟨evaluate, context, decision, attached, -, -⟩ :=
      legal.mayExecute (by decide : (⟨"act_1", .queued, .executing⟩ : StatusChange) ∈ _) rfl rfl
    cases attached

/-- With the caller's context handed over, the denied restart never executes, on any driver. -/
theorem pipeline_drivers_agree_on_restart :
    acceptingSink.NeverFails ∧
      DriversAgree { policyKernel := some bareKernel } plainRestart "act_1" 0 true
        (some { subject := devAgent, bundleVersion := "polb_v1", codeVersion := "aios-policy/0.1.0-T025" }) true
        acceptingSink true {}
        (KernelAllows (some bareKernel)
          (some { subject := devAgent, bundleVersion := "polb_v1", codeVersion := "aios-policy/0.1.0-T025" })
          plainRestart) :=
  have reliable : acceptingSink.NeverFails := fun _ _ => ⟨_, rfl⟩
  ⟨reliable, pipeline_drivers_agree { policyKernel := some bareKernel } plainRestart "act_1" 0 true _ true reliable
    true {}⟩

end Aios.Runtime
