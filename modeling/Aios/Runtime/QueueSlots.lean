import Aios.Runtime.ResumeCourse

/-! # The slots of the dispatch queue

The queue step enrols an action; no step takes it out again. A call comes back only when its action
is at rest, so a slot it has taken is held by an action that is neither queued nor executing. The
slots of a run are in order exactly as long as no call enrols.
-/

namespace Aios.Runtime

open Aios.Rust Aios.Action Aios.Policy Stateful Journey

/-- Every context in the queue is of a recorded action that is still queued or executing. -/
def SlotsLive (state : RuntimeState) : Prop :=
  ∀ queue, state.dispatchQueue = some queue → ∀ queueClass, ∀ ctx ∈ queue.queues queueClass,
    ∃ recorded, state.contexts.lookup ctx.actionId = some recorded ∧
      (recorded.status = .queued ∨ recorded.status = .executing)

/-! ## When a call enrols -/

/-- Whether the attached sink, if there is one, takes a record on top of a log. -/
def receipts (emitter : Option EvidenceEmitter) (log : List EvidenceRecord) (record : EvidenceRecord) : Bool :=
  emitter.all fun emitter => (emitter log record).isOk

/-- `ACTION_RECEIVED`, as it is emitted after validation. -/
def receivedRecord (envelope : ActionEnvelope) (actionId : ActionId) (now : DateTime) : EvidenceRecord where
  actionId := actionId
  retention := .standard24M
  payload := .actionReceived envelope.request.action envelope.identity.subjectCanonicalId envelope.identity.isAi now
    .policyPending

/-- `POLICY_DECISION`, as it is emitted on an allowed action. -/
def allowedRecord (actionId : ActionId) (decision : PolicyDecision) : EvidenceRecord where
  actionId := actionId
  retention := .forever
  payload := .policyDecision decision.policyDecisionId "ALLOW" decision.reasonCode decision.bundleVersion .approved

/-- `APPROVAL_GRANTED`, as it is emitted on an accepted binding. -/
def grantedRecord (actionId : ActionId) (binding : ApprovalBinding) : EvidenceRecord where
  actionId := actionId
  retention := .standard24M
  payload := .approvalGranted binding.requestId binding.bindingId binding.grantedBy binding.boundActionCanonicalHash
    .approved

def validates (engines : Engines) (envelope : ActionEnvelope) : Bool :=
  !provenanceRefuses envelope engines.cognitiveProvenance &&
    !(isBlank envelope.request.action || isBlank envelope.identity.subjectCanonicalId)

/-- Whether the policy step approves: without a kernel, or on an ALLOW whose receipt is taken. -/
def policyApproves (engines : Engines) (envelope : ActionEnvelope) (context : RuntimeContext) (actionId : ActionId)
    (log : List EvidenceRecord) : Bool :=
  match engines.policyKernel with
  | none => true
  | some kernel =>
    match kernel envelope context.policyContext with
    | .error _ => false
    | .ok decision =>
        decision.decision = .allow && receipts engines.evidenceEmitter log (allowedRecord actionId decision)

/-- Whether a submission reaches APPROVED. -/
def approvable (engines : Engines) (envelope : ActionEnvelope) (context : RuntimeContext) (actionId : ActionId)
    (now : DateTime) (log : List EvidenceRecord) : Bool :=
  validates engines envelope && (receipts engines.evidenceEmitter log (receivedRecord envelope actionId now) &&
    policyApproves engines envelope context actionId (log ++ [receivedRecord envelope actionId now]))

/-- The call takes a slot: it reaches the queue step of an attached queue, which admits it. -/
def Enrols (hash : RequestHash) (state : RuntimeState) : RuntimeOp → Prop
  | .submit engines envelope context readings =>
      state.dispatchQueue.isSome ∧
        approvable engines envelope context readings.actionId readings.now state.evidenceLog = true ∧
        enrolled state.dispatchQueue envelope readings.admitted = true
  | .resume engines actionId envelope context bindingId readings =>
      state.dispatchQueue.isSome ∧
        (∃ stored binding, state.contexts.lookup actionId = some stored ∧ stored.status = .approvalPending ∧
          presentedBinding hash engines envelope context bindingId readings state = some binding ∧
          receipts engines.evidenceEmitter state.evidenceLog (grantedRecord actionId binding) = true) ∧
        enrolled state.dispatchQueue envelope readings.admitted = true
  | .sink _ => False

/-! ## Reaching APPROVED -/

def PipelineState.going? : PipelineState → Option ActionContext
  | .continueWith ctx => some ctx
  | .shortCircuit _ => none

variable {ctx : ActionContext} {now : DateTime} {envelope : ActionEnvelope} {emitter : EvidenceEmitter}
  {state : RuntimeState} {engines : Engines}

/-- The same action in another status, with the evidence log as it was. -/
structure Moved (ctx : ActionContext) (log : List EvidenceRecord) (target : ActionLifecycleState)
    (moved : ActionContext)
    (after : RuntimeState) : Prop where
  status : moved.status = target
  ownId : moved.actionId = ctx.actionId
  createdAt : moved.createdAt = ctx.createdAt
  log : after.evidenceLog = log

theorem failWith_passes {reason : ExecutionFailureReason} {Post : ActionContext → RuntimeState → Prop} :
    Passes PipelineState.going? (failWith ctx reason now) state false Post :=
  Passes.of_triple (Triple.bind Triple.of_any fun _ => Triple.of_pure fun _ _ => rfl)

theorem moveTo_passes {target : ActionLifecycleState} (listed : (ctx.status, target) ∈ TRANSITIONS) :
    Passes PipelineState.going? (do let ctx ← moveTo ctx target now; return .continueWith ctx) state true
      (Moved ctx state.evidenceLog target) := by
  have ran := moveTo_apply listed now state
  have returned : (do let ctx ← moveTo ctx target now; return .continueWith ctx : RuntimeM PipelineState) state =
      .ok (.continueWith { ctx with status := target, lastUpdatedAt := now })
        { state with statusChanges := state.statusChanges ++ [⟨ctx.actionId, ctx.status, target⟩] } := by
    rw [bind_apply, ran]
    rfl
  exact Passes.of_ok returned rfl ⟨rfl, rfl, rfl, rfl⟩

theorem stepValidate_passes (created : ctx.status = .created) {recoveryMode : Bool} :
    Passes PipelineState.going? (stepValidateWithProvenanceAndSandbox envelope ctx now engines.cognitiveProvenance
      engines.sandboxComposer recoveryMode) state (validates engines envelope)
      (Moved ctx state.evidenceLog .policyPending) := by
  have same := composeSandbox_same envelope ctx engines.sandboxComposer recoveryMode
  have createdAt : (composeSandbox envelope ctx engines.sandboxComposer recoveryMode).createdAt = ctx.createdAt := by
    unfold composeSandbox
    cases engines.sandboxComposer with
    | none => rfl
    | some composer =>
      dsimp only
      split <;> rfl
  have listed : ((composeSandbox envelope ctx engines.sandboxComposer recoveryMode).status,
      ActionLifecycleState.policyPending) ∈ TRANSITIONS := by
    rw [same.2.1, created]
    decide
  unfold stepValidateWithProvenanceAndSandbox stepValidate validates
  cases provenanceRefuses envelope engines.cognitiveProvenance with
  | true => exact failWith_passes
  | false =>
    cases isBlank envelope.request.action || isBlank envelope.identity.subjectCanonicalId with
    | true => exact failWith_passes
    | false =>
      obtain ⟨reached, moved, after, ran, going, arrived⟩ := moveTo_passes listed
      exact Passes.of_ok ran going ⟨arrived.status, arrived.ownId.trans same.1, arrived.createdAt.trans createdAt,
        arrived.log⟩

/-- An emission passes exactly when the sink takes the record. -/
theorem emit_passes {payload : EvidencePayload} {record : EvidenceRecord} {log : List EvidenceRecord}
    (recorded : ⟨ctx.actionId, payload.retentionClass, payload⟩ = record) (logged : state.evidenceLog = log) :
    Passes some (emitter.emit ctx payload) state (receipts (some emitter) log record)
      (Moved ctx (log ++ [record]) ctx.status) := by
  have answered := EvidenceEmitter.emitWithRetention_apply emitter payload.retentionClass ctx payload state
  rw [recorded, logged] at answered
  unfold receipts
  rw [Option.all_some]
  cases given : emitter log record with
  | error reason =>
    rw [given] at answered
    exact Passes.of_error answered
  | ok receiptId =>
    rw [given] at answered
    exact Passes.of_ok answered rfl ⟨rfl, rfl, rfl, rfl⟩

section Policy

variable {context : RuntimeContext} {tripwire : Bool} {decision : PolicyDecision}

theorem applyDecision_passes (pending : ctx.status = .policyPending) (allowed : decision.decision = .allow) :
    Passes PipelineState.going? (applyDecision ctx now context tripwire decision) state true
      (Moved ctx state.evidenceLog .approved) := by
  have listed : (ctx.status, ActionLifecycleState.approved) ∈ TRANSITIONS := by rw [pending]; decide
  have ran := moveTo_apply listed now state
  have reached : ∃ after, applyDecision ctx now context tripwire decision state =
      .ok (.continueWith { ctx with status := .approved, lastUpdatedAt := now }) after ∧
        after.evidenceLog = state.evidenceLog := by
    unfold applyDecision
    rw [allowed]
    dsimp only
    rw [bind_apply, ran]
    refine ⟨_, rfl, ?_⟩
    split_ifs <;> rfl
  obtain ⟨after, approved, log⟩ := reached
  exact Passes.of_ok approved rfl ⟨rfl, rfl, rfl, log⟩

theorem applyDecision_turned (refused : decision.decision ≠ .allow) :
    Triple (fun _ => True) (applyDecision ctx now context tripwire decision) (fun reached _ => reached.going? = none)
      (fun _ _ => True) := by
  unfold applyDecision
  cases verdict : decision.decision with
  | allow => exact absurd verdict refused
  | requireApproval =>
    exact Triple.bind Triple.of_any fun _ => Triple.bind Triple.of_any fun _ => Triple.of_pure fun _ _ => rfl
  | deny =>
    exact Triple.bind Triple.of_any fun _ => Triple.bind Triple.of_any fun _ => Triple.of_pure fun _ _ => rfl
  | unspecified => exact Triple.of_throw fun _ _ => trivial

theorem applyPolicyError_turned (failure : PolicyError) :
    Triple (fun _ => True) (applyPolicyError ctx now failure) (fun reached _ => reached.going? = none)
      (fun _ _ => True) := by
  unfold applyPolicyError
  cases failure with
  | subjectUnauthenticated =>
    exact Triple.bind Triple.of_any fun _ => Triple.bind Triple.of_any fun _ => Triple.of_pure fun _ _ => rfl
  | _ => exact Triple.of_throw fun _ _ => trivial

theorem stepPolicyEvaluate_passes (pending : ctx.status = .policyPending) {actionId : ActionId}
    {log : List EvidenceRecord} (silent : engines.evidenceEmitter = none) :
    Passes PipelineState.going? (stepPolicyEvaluateWithKernel envelope ctx now engines.policyKernel
      (some context) tripwire)
      state (policyApproves engines envelope context actionId log) (fun approved _ => approved.status = .approved) := by
  have listed : (ctx.status, ActionLifecycleState.approved) ∈ TRANSITIONS := by rw [pending]; decide
  unfold stepPolicyEvaluateWithKernel policyApproves
  cases engines.policyKernel with
  | none =>
    obtain ⟨reached, moved, after, ran, going, arrived⟩ := moveTo_passes listed
    exact Passes.of_ok ran going arrived.status
  | some kernel =>
    dsimp only
    cases kernel envelope context.policyContext with
    | error failure => exact Passes.of_triple (applyPolicyError_turned failure)
    | ok decision =>
      dsimp only
      by_cases allowed : decision.decision = .allow
      · rw [silent, decide_eq_true allowed]
        obtain ⟨reached, moved, after, ran, going, arrived⟩ := applyDecision_passes pending allowed
        exact Passes.of_ok ran going arrived.status
      · rw [decide_eq_false allowed]
        exact Passes.of_triple (applyDecision_turned allowed)

theorem stepPolicyEvaluateAndEmit_passes (pending : ctx.status = .policyPending)
    (attached : engines.evidenceEmitter = some emitter) :
    Passes PipelineState.going? (stepPolicyEvaluateWithKernelAndEmit envelope ctx now engines.policyKernel
      (some context)
      tripwire emitter) state (policyApproves engines envelope context ctx.actionId state.evidenceLog)
      (fun approved _ => approved.status = .approved) := by
  have listed : (ctx.status, ActionLifecycleState.approved) ∈ TRANSITIONS := by rw [pending]; decide
  unfold stepPolicyEvaluateWithKernelAndEmit policyApproves
  cases engines.policyKernel with
  | none =>
    obtain ⟨reached, moved, after, ran, going, arrived⟩ := moveTo_passes listed
    exact Passes.of_ok ran going arrived.status
  | some kernel =>
    dsimp only
    cases kernel envelope context.policyContext with
    | error failure => exact Passes.of_triple (applyPolicyError_turned failure)
    | ok decision =>
      dsimp only
      by_cases allowed : decision.decision = .allow
      · rw [attached, decide_eq_true allowed, Bool.true_and]
        apply (applyDecision_passes pending allowed).then_bind
        intro reached approved after going arrived
        cases reached with
        | shortCircuit halted => cases going
        | continueWith moved =>
          obtain rfl := Option.some.inj going
          have recorded : (⟨moved.actionId, .forever, .policyDecision decision.policyDecisionId
              (EvidenceEmitter.decisionToken decision.decision) decision.reasonCode decision.bundleVersion
              moved.status⟩ :
                EvidenceRecord) = allowedRecord ctx.actionId decision := by
            rw [arrived.ownId, arrived.status, allowed]
            rfl
          rw [← Bool.and_true (receipts _ _ _)]
          apply (emit_passes recorded arrived.log).bind
          · intro receipted passed later accepted same
            cases accepted
            rw [allowed]
            exact Passes.of_ok rfl rfl (same.status.trans arrived.status)
          · intro receipted later refused
            cases refused
      · rw [decide_eq_false allowed]
        refine Passes.of_triple (Triple.bind Triple.of_any fun reached => Triple.bind Triple.of_any fun receipted => ?_)
        split
        · contradiction
        · exact Triple.of_pure fun _ _ => rfl

end Policy

variable (hash : RequestHash) (capacities : Option (QueueClass → ℕ))

/-- A submission reaches APPROVED exactly when it is approvable. -/
theorem approve_passes {context : RuntimeContext} (created : ctx.status = .created) :
    Passes PipelineState.going? (approve engines envelope context now ctx) state
      (approvable engines envelope context ctx.actionId ctx.createdAt state.evidenceLog)
      (fun approved _ => approved.status = .approved) := by
  apply (stepValidate_passes created).bind
  · intro reached valid after going arrived
    cases reached with
    | shortCircuit halted => cases going
    | continueWith moved =>
      obtain rfl := Option.some.inj going
      dsimp only
      cases attached : engines.evidenceEmitter with
      | none => exact stepPolicyEvaluate_passes arrived.status attached
      | some emitter =>
        have recorded : (⟨moved.actionId, .standard24M, .actionReceived envelope.request.action
            envelope.identity.subjectCanonicalId envelope.identity.isAi moved.createdAt moved.status⟩ :
              EvidenceRecord) =
              receivedRecord envelope ctx.actionId ctx.createdAt := by
          rw [arrived.ownId, arrived.status, arrived.createdAt]
          rfl
        apply (emit_passes recorded arrived.log).bind
        · intro receipted passed later accepted same
          cases accepted
          rw [← same.log, ← arrived.ownId, ← same.ownId]
          exact stepPolicyEvaluateAndEmit_passes (same.status.trans arrived.status) attached
        · intro receipted later refused
          cases refused
  · intro reached after halted
    cases reached with
    | continueWith moved => cases halted
    | shortCircuit refused => exact Passes.of_refused rfl rfl

/-! ## What a call does to the queue -/

theorem stepQueueWithEngine_slot (envelope : ActionEnvelope) (now : DateTime) (approved : ctx.status = .approved)
    {queue : DispatchQueue}
    (attached : state.dispatchQueue = some queue) (admitted : Bool) :
    if enrolled state.dispatchQueue envelope admitted then
      ∃ enrolled, (finalState (stepQueueWithEngine envelope ctx now admitted state)).dispatchQueue =
        some (queue.pushBack enrolled)
    else (finalState (stepQueueWithEngine envelope ctx now admitted state)).dispatchQueue = state.dispatchQueue := by
  have listed : (({ ctx with queueClass := selectQueueClass envelope false } : ActionContext).status,
      ActionLifecycleState.queued) ∈ TRANSITIONS := by
    rw [approved]
    decide
  have moved := moveTo_apply listed now state
  unfold stepQueueWithEngine enrolled
  rw [get_bind_apply, attached]
  dsimp only [Option.all_some]
  rw [bind_apply, moved]
  dsimp only
  rw [enrolOrFail_eq]
  by_cases slot : (admitted && queue.hasRoom (selectQueueClass envelope false)) = true
  · rw [if_pos slot, if_pos slot]
    exact ⟨_, rfl⟩
  · rw [if_neg slot, if_neg slot]
    exact (bystander_dispatchQueue.failWith_keeps _ _).trans attached

/-- How a call changes the attached queue: one context more at the back of a bucket, or nothing. -/
def Enrolled (takes : Prop) (before after : Option DispatchQueue) : Prop :=
  (takes → ∀ queue, before = some queue → ∃ ctx, after = some (queue.pushBack ctx)) ∧ (¬ takes → after = before)

theorem resumeQueue_slot (approved : ctx.status = .approved) (admitted : Bool) :
    Enrolled (state.dispatchQueue.isSome ∧ enrolled state.dispatchQueue envelope admitted = true) state.dispatchQueue
      (finalState (resumeQueue engines envelope ctx now admitted state)).dispatchQueue := by
  have emits : (finalState (resumeQueue engines envelope ctx now admitted state)).dispatchQueue =
      (finalState (stepQueueWithEngine envelope ctx now admitted state)).dispatchQueue := by
    unfold resumeQueue
    cases engines.evidenceEmitter with
    | none => rfl
    | some emitter =>
      refine Keeps.after RuntimeState.dispatchQueue ?_ state
      rintro (queued | refused)
      · exact bystander_dispatchQueue.emitQueued_keeps emitter _ queued
      · exact Keeps.of_pure _
  rw [emits]
  constructor
  · rintro ⟨-, takes⟩ queue attached
    have slot := stepQueueWithEngine_slot envelope now approved attached admitted
    rw [if_pos takes] at slot
    exact slot
  · intro takes
    cases attached : state.dispatchQueue with
    | none =>
      unfold stepQueueWithEngine
      rw [get_bind_apply, attached]
      have kept : Keeps RuntimeState.dispatchQueue (stepQueue ctx now) :=
        (bystander_dispatchQueue.moveTo_keeps _).bind fun _ => Keeps.of_pure _
      exact (kept state).trans attached
    | some queue =>
      have slot := stepQueueWithEngine_slot envelope now approved attached admitted
      rw [if_neg] at slot
      · exact slot.trans attached
      · intro opens
        exact takes ⟨by rw [attached]; rfl, opens⟩

theorem submitApproval_keepsQueue (requestId : String) (ctx : ActionContext) :
    Keeps RuntimeState.dispatchQueue (submitApproval hash engines envelope requestId ctx) := by
  intro state
  rcases submitApproval_cases requestId ctx state with
    ⟨-, skipped⟩ | ⟨failure, refused⟩ | ⟨-, ⟨failure, unreceipted⟩ | ⟨chain, log, asked⟩⟩
  · rw [skipped]
    rfl
  · rw [refused]
    rfl
  · rw [unreceipted]
    rfl
  · rw [asked]
    rfl

/-- A driver halted by its first part changes no more than that part. -/
theorem onContinue_of_halted {program : RuntimeM PipelineState} {rest : ActionContext → RuntimeM ActionContext}
    {Post : ActionContext → RuntimeState → Prop} (halted : Passes PipelineState.going? program state false Post) :
    finalState (onContinue program rest state) = finalState (program state) := by
  unfold onContinue
  rw [bind_apply]
  cases ran : program state with
  | error failure after => rfl
  | ok reached after =>
    cases reached with
    | shortCircuit refused => rfl
    | continueWith moved => cases halted _ _ ran

/-- From APPROVED on, a submission enrols in its queue step or not at all. -/
theorem submitFromApproved_slot (engines : Engines) (envelope : ActionEnvelope) (now : DateTime)
    (approved : ctx.status = .approved) (admitted : Bool) (state : RuntimeState) :
    Enrolled (state.dispatchQueue.isSome ∧ enrolled state.dispatchQueue envelope admitted = true) state.dispatchQueue
      (finalState (submitFromApproved engines envelope now admitted ctx state)).dispatchQueue := by
  rw [submitFromApproved_eq]
  unfold onContinue
  rw [Keeps.after RuntimeState.dispatchQueue]
  · exact resumeQueue_slot approved admitted
  · rintro (queued | refused)
    · exact bystander_dispatchQueue.submitFromQueued_keeps
    · exact Keeps.of_pure _

/-- So does a resume call. -/
theorem resumeFromApproved_slot (engines : Engines) (envelope : ActionEnvelope) (now : DateTime)
    (approved : ctx.status = .approved) (admitted : Bool) (state : RuntimeState) :
    Enrolled (state.dispatchQueue.isSome ∧ enrolled state.dispatchQueue envelope admitted = true) state.dispatchQueue
      (finalState (resumeFromApproved engines envelope now admitted ctx state)).dispatchQueue := by
  unfold resumeFromApproved
  rw [Keeps.after RuntimeState.dispatchQueue]
  · exact resumeQueue_slot approved admitted
  · intro queued
    split_ifs
    · exact bystander_dispatchQueue.resumeFromQueued_keeps
    · exact Keeps.of_pure _

theorem persist_keepsQueue (actionId : ActionId) (ctx : ActionContext) :
    Keeps RuntimeState.dispatchQueue (persist actionId ctx) :=
  Keeps.bind (Keeps.of_modify fun _ => rfl) fun _ => Keeps.of_pure _

theorem submitAction_slot (engines : Engines) (envelope : ActionEnvelope) (context : RuntimeContext)
    (readings : CallReadings) (state : RuntimeState) :
    Enrolled (Enrols hash state (.submit engines envelope context readings)) state.dispatchQueue
      (step hash state (.submit engines envelope context readings)).dispatchQueue := by
  let entered : RuntimeState :=
    { state with policyConstraints := context.policyConstraints, policyApproval := context.policyApproval }
  have driven : (step hash state (.submit engines envelope context readings)).dispatchQueue =
      (finalState (selectedDriver engines envelope context readings (freshContext readings.actionId readings.now)
        entered)).dispatchQueue := by
    refine Keeps.after RuntimeState.dispatchQueue (fun ctx => ?_) entered
    exact (submitApproval_keepsQueue hash readings.requestId ctx).bind (persist_keepsQueue readings.actionId)
  rw [driven, selectedDriver_eq]
  have passes : Passes PipelineState.going? (approve engines envelope context readings.now
      (freshContext readings.actionId readings.now)) entered
      (approvable engines envelope context readings.actionId readings.now state.evidenceLog)
      (fun approved _ => approved.status = .approved) := approve_passes rfl
  have keeps : Keeps RuntimeState.dispatchQueue (approve engines envelope context readings.now
      (freshContext readings.actionId readings.now)) := bystander_dispatchQueue.approve_keeps
  cases opens : approvable engines envelope context readings.actionId readings.now state.evidenceLog with
  | false =>
    rw [opens] at passes
    have closed : ¬ Enrols hash state (.submit engines envelope context readings) := by
      rintro ⟨-, approves, -⟩
      rw [opens] at approves
      cases approves
    refine ⟨fun takes => absurd takes closed, fun _ => ?_⟩
    rw [onContinue_of_halted passes]
    exact keeps entered
  | true =>
    rw [opens] at passes
    obtain ⟨reached, approved, mid, ran, going, status⟩ := passes
    cases reached with
    | shortCircuit refused => cases going
    | continueWith moved =>
      obtain rfl := Option.some.inj going
      have queue : mid.dispatchQueue = entered.dispatchQueue := keeps.ok ran
      have continued : onContinue (approve engines envelope context readings.now
          (freshContext readings.actionId readings.now))
          (submitFromApproved engines envelope readings.now readings.admitted) entered =
          submitFromApproved engines envelope readings.now readings.admitted moved mid := by
        unfold onContinue
        rw [bind_apply, ran]
      have slot := submitFromApproved_slot engines envelope readings.now status readings.admitted mid
      rw [queue] at slot
      rw [continued]
      constructor
      · exact fun takes => slot.1 ⟨takes.1, takes.2.2⟩
      · intro closed
        exact slot.2 fun takes => closed ⟨takes.1, opens, takes.2⟩

/-- The receipt of an accepted binding passes exactly when the sink takes it. -/
theorem announceGrant_passes (binding : ApprovalBinding) (approved : ctx.status = .approved) :
    Passes some (announceGrant engines.evidenceEmitter binding ctx) state
      (receipts engines.evidenceEmitter state.evidenceLog (grantedRecord ctx.actionId binding))
      (fun receipted after => receipted.status = .approved ∧ after.dispatchQueue = state.dispatchQueue) := by
  cases engines.evidenceEmitter with
  | none => exact Passes.of_ok rfl rfl ⟨approved, rfl⟩
  | some emitter =>
    have recorded : (⟨ctx.actionId, .standard24M, .approvalGranted binding.requestId binding.bindingId binding.grantedBy
        binding.boundActionCanonicalHash ctx.status⟩ : EvidenceRecord) = grantedRecord ctx.actionId binding := by
      rw [approved]
      rfl
    have emitted : Passes some (emitter.emitApprovalGranted ctx binding.requestId binding.bindingId binding.grantedBy
        binding.boundActionCanonicalHash) state
        (receipts (some emitter) state.evidenceLog (grantedRecord ctx.actionId binding)) _ := emit_passes recorded rfl
    exact emitted.frame (bystander_dispatchQueue.emit_keeps emitter _) fun receipted after moved queue =>
      ⟨moved.status.trans approved, queue⟩

theorem resumeWithBinding_slot (engines : Engines) (actionId : ActionId) (envelope : ActionEnvelope)
    (context : RuntimeContext) (bindingId : String) (readings : CallReadings) (atRest : state.AtRest) :
    Enrolled (Enrols hash state (.resume engines actionId envelope context bindingId readings)) state.dispatchQueue
      (step hash state (.resume engines actionId envelope context bindingId readings)).dispatchQueue := by
  unfold step
  dsimp only
  rw [resumeWithBinding_eq, bind_apply]
  rcases consumption_cases actionId state with
    ⟨⟨failure, failed⟩, unready⟩ | ⟨stored, -, -, presented, failure, log, sink, -, refused⟩ |
      ⟨stored, binding, recorded, pending, presented, consumed⟩
  · rw [failed]
    refine ⟨?_, fun _ => rfl⟩
    rintro ⟨-, ⟨stored, binding, recorded, pending, presented, -⟩, -⟩
    obtain ⟨sink, attached, -⟩ := presentedBinding_eq_some.mp presented
    rcases unready with detached | other
    · rw [attached] at detached
      cases detached
    · exact absurd pending (other stored recorded)
  · rw [refused]
    refine ⟨?_, fun _ => rfl⟩
    rintro ⟨-, ⟨_, binding, -, -, accepted, -⟩, -⟩
    rw [presented] at accepted
    cases accepted
  · have own := (atRest actionId stored recorded).ownId
    rw [consumed, own]
    have announced : Passes some
        (announceGrant engines.evidenceEmitter binding (stored.approvedAt readings.now))
        (state.approving actionId bindingId)
        (receipts engines.evidenceEmitter state.evidenceLog (grantedRecord stored.actionId binding)) _ :=
      announceGrant_passes binding rfl
    rw [own] at announced
    cases taken : receipts engines.evidenceEmitter state.evidenceLog (grantedRecord actionId binding) with
    | false =>
      rw [taken] at announced
      rcases announceGrant_cases engines.evidenceEmitter binding (stored.approvedAt readings.now)
        (state.approving actionId bindingId) with ⟨failure, unreceipted⟩ | ⟨chain, log, receipted⟩
      · rw [unreceipted]
        refine ⟨?_, fun _ => rfl⟩
        rintro ⟨-, ⟨_, other, -, -, accepted, receipt⟩, -⟩
        rw [presented] at accepted
        obtain rfl := Option.some.inj accepted
        rw [taken] at receipt
        cases receipt
      · cases announced _ _ receipted
    | true =>
      rw [taken] at announced
      obtain ⟨approved, _, entered, ran, ⟨⟩, status, queue⟩ := announced
      have slot := resumeFromApproved_slot engines envelope readings.now status readings.admitted entered
      have untouched : entered.dispatchQueue = state.dispatchQueue := queue
      rw [untouched] at slot
      rw [ran]
      dsimp only
      rw [Keeps.after RuntimeState.dispatchQueue (persist_keepsQueue actionId)]
      constructor
      · exact fun takes => slot.1 ⟨takes.1, takes.2.2⟩
      · intro closed
        exact slot.2 fun takes => closed ⟨takes.1, ⟨stored, binding, recorded, pending, presented, taken⟩, takes.2⟩

/-! ## Along a run -/

theorem step_slot (atRest : state.AtRest) (op : RuntimeOp) :
    Enrolled (Enrols hash state op) state.dispatchQueue (step hash state op).dispatchQueue := by
  cases op with
  | submit engines envelope context readings => exact submitAction_slot hash engines envelope context readings state
  | resume engines actionId envelope context bindingId readings =>
    exact resumeWithBinding_slot hash engines actionId envelope context bindingId readings atRest
  | sink op => exact ⟨False.elim, fun _ => rfl⟩

theorem mem_pushBack (queue : DispatchQueue) (ctx : ActionContext) :
    ctx ∈ (queue.pushBack ctx).queues ctx.queueClass := by
  simp [DispatchQueue.pushBack]

def EmptyBuckets (state : RuntimeState) : Prop :=
  ∀ queue, state.dispatchQueue = some queue → ∀ queueClass, queue.queues queueClass = []

theorem launched_emptyBuckets (withSink : Bool) : EmptyBuckets (.launched capacities withSink) := by
  intro queue attached queueClass
  cases capacities with
  | none => cases attached
  | some capacityPerClass =>
    obtain rfl := Option.some.inj attached
    rfl

/-- At rest, the slots are live only while all buckets are empty. -/
theorem slotsLive_iff_empty (atRest : state.AtRest) : SlotsLive state ↔ EmptyBuckets state := by
  constructor
  · intro live queue attached queueClass
    rw [List.eq_nil_iff_forall_not_mem]
    intro ctx held
    obtain ⟨recorded, stored, waiting⟩ := live queue attached queueClass ctx held
    have settled := (atRest _ recorded stored).settled
    rcases waiting with status | status <;> rw [status] at settled <;>
      simp [Settled, PolicyHalt, RollbackHalt] at settled
  · intro empty queue attached queueClass ctx held
    rw [empty queue attached queueClass] at held
    cases held

/-- Along every run, the slots are live after each operation exactly when no call of the run enrols. -/
theorem slotsLive_iff_unenrolled (withSink : Bool) (ops : List RuntimeOp) :
    (∀ before, before <+: ops → SlotsLive (runFrom hash (.launched capacities withSink) before)) ↔
      ∀ before op after, ops = before ++ op :: after →
        ¬ Enrols hash (runFrom hash (.launched capacities withSink) before) op := by
  have atRest (before : List RuntimeOp) : (runFrom hash (.launched capacities withSink) before).AtRest :=
    runFrom_atRest hash (launched_atRest capacities withSink) before
  constructor
  · intro live before op after split takes
    have later : before ++ [op] <+: ops := StepRun.upTo_of_cut split
    obtain ⟨queue, attached⟩ : ∃ queue, (runFrom hash (.launched capacities withSink) before).dispatchQueue =
        some queue := by
      cases op with
      | submit engines envelope context readings => exact Option.isSome_iff_exists.mp takes.1
      | resume engines actionId envelope context bindingId readings => exact Option.isSome_iff_exists.mp takes.1
      | sink op => exact takes.elim
    obtain ⟨ctx, enrolled⟩ := (step_slot hash (atRest before) op).1 takes queue attached
    have reached : runFrom hash (.launched capacities withSink) (before ++ [op]) =
        step hash (runFrom hash (.launched capacities withSink) before) op := StepRun.run_append _ _ before [op]
    have empty := (slotsLive_iff_empty (atRest _)).mp (live _ later) (queue.pushBack ctx) (by rw [reached, enrolled])
      ctx.queueClass
    have held := mem_pushBack queue ctx
    rw [empty] at held
    cases held
  · intro unenrolled
    have kept : ∀ before op after, ops = before ++ op :: after →
        EmptyBuckets (runFrom hash (.launched capacities withSink) before) →
        EmptyBuckets (step hash (runFrom hash (.launched capacities withSink) before) op) := by
      intro before op after split empty queue attached
      rw [(step_slot hash (atRest before) op).2 (unenrolled before op after split)] at attached
      exact empty queue attached
    intro before cut
    rw [slotsLive_iff_empty (atRest before)]
    exact StepRun.run_invariant_cut EmptyBuckets (launched_emptyBuckets capacities withSink) kept before cut

/-- A restart that has succeeded still holds its slot. -/
theorem slotsLive_fails_after_restart :
    ¬ SlotsLive (runFrom (fun _ => some "b99cd703907adbffe70bc5e41d8f40bd")
      (.launched (some DispatchQueue.newWithDefaults.capacityPerClass) false)
      [.submit {} plainRestart humanContext (callAt 0 "act_1" "apr_1")]) := by
  rw [slotsLive_iff_empty (runFrom_atRest _ (launched_atRest _ _) _)]
  intro empty
  have bucket := empty _ rfl .interactive
  revert bucket
  decide

end Aios.Runtime
