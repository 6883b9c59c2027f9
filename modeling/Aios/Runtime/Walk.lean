import Aios.Runtime.Drivers

/-! # Every run walks the transition table

A `Journey` fixes one action, the status it starts from and a condition for entering EXECUTING. The
invariant `At` says that the status changes recorded since the journey began are a gapless walk of
the transition table to the status of the context at hand, and that EXECUTING occurs on it only
under the condition. Each step keeps it from the status the drivers reach it in, and never fails
with an illegal transition.
-/

namespace Aios.Runtime

open Aios.Rust Aios.Action Aios.Policy Stateful

structure Journey where
  before : RuntimeState
  actionId : ActionId
  start : ActionLifecycleState
  mayExecute : Prop

namespace Journey

section

variable (journey : Journey) (status : ActionLifecycleState)

/-- The changes since the journey began lead to `status`. -/
def Reaches (state : RuntimeState) : Prop :=
  ∃ changes, state.statusChanges = journey.before.statusChanges ++ changes ∧
    Walk journey.actionId journey.start changes status ∧
    ∀ change ∈ changes, change.target = .executing → journey.mayExecute

/-- The outcomes of a rollback attempt. -/
def RollbackHalt : Prop :=
  status = .failed ∨ status = .rolledBack ∨ status = .rollbackFailed

/-- The context at hand: of this action, at the end of the walk, with no rollback outcome before a
failure. -/
def At (ctx : ActionContext) (state : RuntimeState) : Prop :=
  ctx.actionId = journey.actionId ∧ journey.Reaches ctx.status state ∧
    (ctx.rollbackOutcome = none ∨ RollbackHalt ctx.status)

/-- A failure that is no illegal transition, after a legal walk. -/
def Broken (failure : RuntimeError) (state : RuntimeState) : Prop :=
  (∀ source target, failure ≠ .invalidTransition source target) ∧ ∃ status, journey.Reaches status state

end

variable {journey : Journey} {ctx : ActionContext} {state : RuntimeState}

section

variable {source target : ActionLifecycleState}

theorem At.broken (at_ : journey.At ctx state) {failure : RuntimeError}
    (legal : ∀ source target, failure ≠ .invalidTransition source target) : journey.Broken failure state :=
  ⟨legal, ctx.status, at_.2.1⟩

theorem Reaches.snoc (reaches : journey.Reaches source state) (listed : (source, target) ∈ TRANSITIONS)
    (opens : target = .executing → journey.mayExecute) :
    journey.Reaches target
      { state with statusChanges := state.statusChanges ++ [⟨journey.actionId, source, target⟩] } := by
  obtain ⟨changes, recorded, walked, guarded⟩ := reaches
  refine ⟨changes ++ [⟨journey.actionId, source, target⟩], ?_, .snoc walked listed, ?_⟩
  · rw [recorded, List.append_assoc]
  · intro change mem entered
    rcases List.mem_append.mp mem with earlier | last
    · exact guarded change earlier entered
    · rw [List.mem_singleton] at last
      subst last
      exact opens entered

/-- Where a step may leave the context: in one status set when the pipeline continues, in another
when it halts. -/
def Leads (next halt : ActionLifecycleState → Prop) : PipelineState → Prop
  | .continueWith ctx => next ctx.status
  | .shortCircuit ctx => halt ctx.status

/-- The judgement about one step. -/
def Steps (journey : Journey) (ctx : ActionContext) (program : RuntimeM PipelineState)
    (next halt : ActionLifecycleState → Prop) : Prop :=
  Triple (journey.At ctx) program
    (fun reached state => journey.At reached.intoContext state ∧ Leads next halt reached) journey.Broken

/-- The judgement about the rest of a driver. -/
def Ends (journey : Journey) (ctx : ActionContext) (program : RuntimeM ActionContext)
    (final : ActionLifecycleState → Prop) : Prop :=
  Triple (journey.At ctx) program (fun ctx state => journey.At ctx state ∧ final ctx.status) journey.Broken

/-- Two contexts that differ in nothing a journey looks at. -/
def Fellow (ctx ctx' : ActionContext) : Prop :=
  ctx.actionId = ctx'.actionId ∧ ctx.status = ctx'.status ∧ ctx.rollbackOutcome = ctx'.rollbackOutcome

theorem at_congr {ctx ctx' : ActionContext} (same : Fellow ctx' ctx) : journey.At ctx' = journey.At ctx := by
  funext state
  rw [At, At, same.1, same.2.1, same.2.2]

/-- The table has no way back from a rollback or a failure. -/
theorem rollbackHalt_of_listed (listed : (source, target) ∈ TRANSITIONS) (halted : RollbackHalt source) :
    RollbackHalt target := by
  rcases halted with rfl | rfl | rfl <;> cases target <;> revert listed <;> unfold RollbackHalt <;> decide

end

variable {now : DateTime} {next halt final : ActionLifecycleState → Prop}

section

variable {updated : ActionContext} {program : RuntimeM PipelineState} {target : ActionLifecycleState}
  {next' halt' : ActionLifecycleState → Prop} (emitter : EvidenceEmitter)

theorem moveTo_ends (listed : (ctx.status, target) ∈ TRANSITIONS) (opens : target = .executing → journey.mayExecute) :
    journey.Ends ctx (moveTo ctx target now) (· = target) := by
  intro state at_
  unfold moveTo
  rw [applyTransition_of_mem listed]
  have moved := at_.2.1.snoc listed opens
  rw [← at_.1] at moved
  exact ⟨⟨at_.1, moved, at_.2.2.imp_right (rollbackHalt_of_listed listed)⟩, rfl⟩

/-- A move to a status other than EXECUTING. -/
theorem moveTo_ends_of_ne (listed : (ctx.status, target) ∈ TRANSITIONS) (other : target ≠ .executing) :
    journey.Ends ctx (moveTo ctx target now) (· = target) :=
  moveTo_ends listed fun entered => absurd entered other

/-- A move right after an update of other fields. -/
theorem moveTo_ends_of_same (same : Fellow updated ctx) (listed : (ctx.status, target) ∈ TRANSITIONS)
    (opens : target = .executing → journey.mayExecute) : journey.Ends ctx (moveTo updated target now) (· = target) := by
  unfold Ends
  rw [← at_congr same]
  rw [← same.2.1] at listed
  exact moveTo_ends listed opens

/-- After a program that ends in `final`, return the context as a step result. -/
theorem Ends.returning {program : RuntimeM ActionContext} (ends : journey.Ends ctx program final)
    {wrap : ActionContext → PipelineState}
    (same : ∀ ctx, Fellow (wrap ctx).intoContext ctx)
    (leads : ∀ ctx, final ctx.status → Leads next halt (wrap ctx)) :
    journey.Steps ctx (do let ctx ← program; return wrap ctx) next halt := by
  refine Triple.bind ends fun moved => Triple.of_pure ?_
  rintro state ⟨at_, reached⟩
  refine ⟨?_, leads moved reached⟩
  rw [at_congr (same moved)]
  exact at_

theorem Ends.continues {program : RuntimeM ActionContext} (ends : journey.Ends ctx program final) :
    journey.Steps ctx (do let ctx ← program; return .continueWith ctx) final halt :=
  ends.returning (fun _ => ⟨rfl, rfl, rfl⟩) fun _ reached => reached

theorem Ends.bind {program : RuntimeM ActionContext} {rest : ActionContext → RuntimeM PipelineState}
    (ends : journey.Ends ctx program final)
    (steps : ∀ moved, final moved.status → journey.Steps moved (rest moved) next halt) :
    journey.Steps ctx (program >>= rest) next halt :=
  Triple.bind ends fun moved state at_ => steps moved at_.2 state at_.1

theorem Steps.bind {rest : PipelineState → RuntimeM PipelineState} (steps : journey.Steps ctx program next halt)
    (continued : ∀ moved, next moved.status → journey.Steps moved (rest (.continueWith moved)) next' halt')
    (halted : ∀ moved, halt moved.status → journey.Steps moved (rest (.shortCircuit moved)) next' halt') :
    journey.Steps ctx (program >>= rest) next' halt' := by
  refine Triple.bind steps fun reached => ?_
  cases reached with
  | continueWith moved => exact fun state at_ => continued moved at_.2 state at_.1
  | shortCircuit moved => exact fun state at_ => halted moved at_.2 state at_.1

theorem Steps.mono (steps : journey.Steps ctx program next halt) (continued : ∀ status, next status → next' status)
    (halted : ∀ status, halt status → halt' status) : journey.Steps ctx program next' halt' := by
  refine Triple.mono steps ?_ fun _ _ broken => broken
  rintro (moved | moved) state ⟨at_, leads⟩
  · exact ⟨at_, continued _ leads⟩
  · exact ⟨at_, halted _ leads⟩

theorem Ends.mono {program : RuntimeM ActionContext} {final' : ActionLifecycleState → Prop}
    (ends : journey.Ends ctx program final) (weaker : ∀ status, final status → final' status) :
    journey.Ends ctx program final' :=
  Triple.mono ends (fun _ _ at_ => ⟨at_.1, weaker _ at_.2⟩) fun _ _ broken => broken

theorem failWith_steps {reason : ExecutionFailureReason} (listed : (ctx.status, .failed) ∈ TRANSITIONS) :
    journey.Steps ctx (failWith ctx reason now) next (· = .failed) :=
  (moveTo_ends_of_ne listed (by decide)).returning (fun _ => ⟨rfl, rfl, rfl⟩) fun _ reached => reached

/-- An emission keeps the status or fails as an emission. -/
theorem emitWithRetention_ends (retention : RetentionClass) (payload : EvidencePayload) :
    journey.Ends ctx (emitter.emitWithRetention retention ctx payload) (· = ctx.status) := by
  intro state at_
  rw [EvidenceEmitter.emitWithRetention_apply]
  cases emitter state.evidenceLog ⟨ctx.actionId, retention, payload⟩ with
  | error reason => exact at_.broken fun _ _ => nofun
  | ok receiptId => exact ⟨at_, rfl⟩

theorem emit_ends (payload : EvidencePayload) : journey.Ends ctx (emitter.emit ctx payload) (· = ctx.status) :=
  emitWithRetention_ends emitter payload.retentionClass payload

theorem emit_ends_of_same (same : Fellow updated ctx) (emitter : EvidenceEmitter) (payload : EvidencePayload) :
    journey.Ends ctx (emitter.emit updated payload) (· = ctx.status) := by
  unfold Ends
  rw [← at_congr same, ← same.2.1]
  exact emit_ends emitter payload

theorem onContinue_ends {rest : ActionContext → RuntimeM ActionContext} (steps : journey.Steps ctx program next halt)
    (halted : ∀ status, halt status → final status)
    (ends : ∀ moved, next moved.status → journey.Ends moved (rest moved) final) :
    journey.Ends ctx (onContinue program rest) final := by
  refine Triple.bind steps fun reached => ?_
  cases reached with
  | continueWith moved => exact fun state at_ => ends moved at_.2 state at_.1
  | shortCircuit moved => exact fun state at_ => ⟨at_.1, halted _ at_.2⟩

theorem Steps.after_modify {update : RuntimeState → RuntimeState}
    (kept : ∀ state, (update state).statusChanges = state.statusChanges) (steps : journey.Steps ctx program next halt) :
    journey.Steps ctx (do modify update; program) next halt := by
  have updated : Triple (journey.At ctx) (modify update) (fun _ => journey.At ctx) journey.Broken := by
    apply Triple.of_modify
    rintro state ⟨same, ⟨changes, recorded, walked⟩, unrolled⟩
    exact ⟨same, ⟨changes, by rw [kept, recorded], walked⟩, unrolled⟩
  exact Triple.bind updated fun _ => steps

theorem returns_steps {reached : PipelineState} (same : Fellow reached.intoContext ctx)
    (leads : Leads next halt reached) :
    journey.Steps ctx (return reached) next halt := by
  refine Triple.of_pure fun state at_ => ⟨?_, leads⟩
  rw [at_congr same]
  exact at_

/-! ## The steps -/

end

variable {envelope : ActionEnvelope}

theorem stepValidate_steps (created : ctx.status = .created) :
    journey.Steps ctx (stepValidate envelope ctx now) (· = .policyPending) (· = .failed) := by
  unfold stepValidate
  split_ifs
  · exact failWith_steps (by rw [created]; decide)
  · exact (moveTo_ends_of_ne (by rw [created]; decide) (by decide)).continues

theorem composeSandbox_same (envelope : ActionEnvelope) (ctx : ActionContext)
    (sandboxComposer : Option RuntimeSandboxComposer) (recoveryMode : Bool) :
    Fellow (composeSandbox envelope ctx sandboxComposer recoveryMode) ctx := by
  unfold composeSandbox
  cases sandboxComposer with
  | none => exact ⟨rfl, rfl, rfl⟩
  | some composer =>
    dsimp only
    split <;> exact ⟨rfl, rfl, rfl⟩

theorem stepValidateWithProvenanceAndSandbox_steps (created : ctx.status = .created)
    (provenance : Option RuntimeCognitiveProvenance) (sandboxComposer : Option RuntimeSandboxComposer)
    (recoveryMode : Bool) :
    journey.Steps ctx
      (stepValidateWithProvenanceAndSandbox envelope ctx now provenance sandboxComposer recoveryMode)
      (· = .policyPending) (· = .failed) := by
  unfold stepValidateWithProvenanceAndSandbox
  split_ifs
  · exact failWith_steps (by rw [created]; decide)
  · have same := composeSandbox_same envelope ctx sandboxComposer recoveryMode
    unfold Steps
    rw [← at_congr same]
    exact stepValidate_steps (same.2.1.trans created)

theorem stepPolicyEvaluate_steps (pending : ctx.status = .policyPending) (allowed : journey.mayExecute) :
    journey.Steps ctx (stepPolicyEvaluate ctx now) (fun status => status = .approved ∧ journey.mayExecute) halt :=
  (moveTo_ends_of_ne (by rw [pending]; decide) (by decide)).returning (fun _ => ⟨rfl, rfl, rfl⟩)
    fun _ reached => ⟨reached, allowed⟩

/-- What the policy step can leave an action in when it halts. -/
def PolicyHalt (status : ActionLifecycleState) : Prop := status = .approvalPending ∨ status = .policyDenied

theorem applyDecision_steps (pending : ctx.status = .policyPending) (runtimeContext : RuntimeContext)
    (tripwire : Bool) (decision : PolicyDecision) :
    journey.Steps ctx (applyDecision ctx now runtimeContext tripwire decision)
      (fun status => status = .approved ∧ decision.decision = .allow)
      (fun status => PolicyHalt status ∧ decision.decision ≠ .allow) := by
  unfold applyDecision installPolicy
  cases verdict : decision.decision with
  | allow =>
    refine (moveTo_ends_of_ne (by rw [pending]; decide) (by decide)).bind fun moved reached => ?_
    refine Steps.after_modify (fun _ => rfl) (Steps.after_modify ?_ ?_)
    · intro state
      split_ifs <;> rfl
    · exact returns_steps ⟨rfl, rfl, rfl⟩ ⟨reached, rfl⟩
  | requireApproval =>
    refine (moveTo_ends_of_ne (by rw [pending]; decide) (by decide)).bind fun moved reached => ?_
    exact Steps.after_modify (fun _ => rfl) (returns_steps ⟨rfl, rfl, rfl⟩ ⟨.inl reached, nofun⟩)
  | deny =>
    refine (moveTo_ends_of_ne (by rw [pending]; decide) (by decide)).bind fun moved reached => ?_
    exact Steps.after_modify (fun _ => rfl) (returns_steps ⟨rfl, rfl, rfl⟩ ⟨.inr reached, nofun⟩)
  | unspecified => exact Triple.of_throw fun state at_ => at_.broken fun _ _ => nofun

theorem applyPolicyError_steps (pending : ctx.status = .policyPending) (failure : PolicyError) :
    journey.Steps ctx (applyPolicyError ctx now failure) next PolicyHalt := by
  unfold applyPolicyError installPolicy
  cases failure with
  | subjectUnauthenticated =>
    refine (moveTo_ends_of_ne (by rw [pending]; decide) (by decide)).bind fun moved reached => ?_
    exact Steps.after_modify (fun _ => rfl) (returns_steps ⟨rfl, rfl, rfl⟩ (.inr reached))
  | _ => exact Triple.of_throw fun state at_ => at_.broken fun _ _ => nofun

end Journey

/-- The attached kernel allowed the envelope, where both the kernel and the runtime context reach
the policy step. -/
def KernelAllows (kernel : Option PolicyEvaluation) (runtimeContext : Option RuntimeContext)
    (envelope : ActionEnvelope) : Prop :=
  ∀ evaluate context, kernel = some evaluate → runtimeContext = some context →
    ∃ decision, evaluate envelope context.policyContext = .ok decision ∧ decision.decision = .allow

namespace Journey

variable {journey : Journey} {ctx : ActionContext} {now : DateTime} {envelope : ActionEnvelope}
  {next halt final : ActionLifecycleState → Prop}

variable {kernel : Option PolicyEvaluation} {runtimeContext : Option RuntimeContext}

theorem kernelAllows_of_decision {evaluate : PolicyEvaluation} {context : RuntimeContext} {decision : PolicyDecision}
    (answered : evaluate envelope context.policyContext = .ok decision) (allowed : decision.decision = .allow) :
    KernelAllows (some evaluate) (some context) envelope := by
  rintro _ _ ⟨⟩ ⟨⟩
  exact ⟨decision, answered, allowed⟩

theorem stepPolicyEvaluateWithKernel_steps (pending : ctx.status = .policyPending) (tripwire : Bool)
    (allows : KernelAllows kernel runtimeContext envelope → journey.mayExecute) :
    journey.Steps ctx (stepPolicyEvaluateWithKernel envelope ctx now kernel runtimeContext tripwire)
      (fun status => status = .approved ∧ journey.mayExecute) PolicyHalt := by
  unfold stepPolicyEvaluateWithKernel
  split
  · rename_i evaluate context
    cases answered : evaluate envelope context.policyContext with
    | error failure => exact applyPolicyError_steps pending failure
    | ok decision =>
      refine (applyDecision_steps pending context tripwire decision).mono ?_ fun _ halted => halted.1
      rintro status ⟨reached, allowed⟩
      exact ⟨reached, allows (kernelAllows_of_decision answered allowed)⟩
  · rename_i missing
    refine stepPolicyEvaluate_steps pending (allows ?_)
    intro evaluate context attached handed
    exact absurd handed (missing evaluate context attached)

theorem stepPolicyEvaluateWithKernelAndEmit_steps (pending : ctx.status = .policyPending) (tripwire : Bool)
    (emitter : EvidenceEmitter) (allows : KernelAllows kernel runtimeContext envelope → journey.mayExecute) :
    journey.Steps ctx (stepPolicyEvaluateWithKernelAndEmit envelope ctx now kernel runtimeContext tripwire emitter)
      (fun status => status = .approved ∧ journey.mayExecute) PolicyHalt := by
  unfold stepPolicyEvaluateWithKernelAndEmit
  split
  · rename_i evaluate context
    cases answered : evaluate envelope context.policyContext with
    | error failure => exact applyPolicyError_steps pending failure
    | ok decision =>
      refine (applyDecision_steps pending context tripwire decision).bind ?_ ?_
      · rintro moved ⟨reached, allowed⟩
        refine (emit_ends emitter _).bind fun receipted same => ?_
        rw [allowed]
        refine returns_steps ⟨rfl, rfl, rfl⟩ ⟨same.trans reached, ?_⟩
        exact allows (kernelAllows_of_decision answered allowed)
      · rintro moved ⟨reached, refused⟩
        refine (emit_ends emitter _).bind fun receipted same => ?_
        split
        · contradiction
        · refine returns_steps ⟨rfl, rfl, rfl⟩ ?_
          rw [← same] at reached
          exact reached
  · rename_i missing
    refine stepPolicyEvaluate_steps pending (allows ?_)
    intro evaluate context attached handed
    exact absurd handed (missing evaluate context attached)

theorem stepQueueWithEngine_steps (approved : ctx.status = .approved) (admitted : Bool) :
    journey.Steps ctx (stepQueueWithEngine envelope ctx now admitted) (· = .queued) (· = .failed) := by
  refine Triple.of_get fun current => ?_
  cases current.dispatchQueue with
  | none => exact (moveTo_ends_of_ne (by rw [approved]; decide) (by decide)).continues
  | some queue =>
    refine Ends.bind (moveTo_ends_of_same ⟨rfl, rfl, rfl⟩ (by rw [approved]; decide) nofun) fun moved reached => ?_
    rw [enrolOrFail_eq]
    split_ifs
    · exact Steps.after_modify (fun _ => rfl) (returns_steps ⟨rfl, rfl, rfl⟩ reached)
    · exact failWith_steps (by rw [reached]; decide)

theorem stepQueueWithEngineAndEmit_steps (approved : ctx.status = .approved) (admitted : Bool)
    (emitter : EvidenceEmitter) :
    journey.Steps ctx (stepQueueWithEngineAndEmit envelope ctx now admitted emitter) (· = .queued) (· = .failed) := by
  refine (stepQueueWithEngine_steps approved admitted).bind ?_ ?_
  · intro queued reached
    refine (emit_ends emitter _).bind fun receipted same => ?_
    split
    · refine (emit_ends emitter _).bind fun marked still => ?_
      exact returns_steps ⟨rfl, rfl, rfl⟩ (still.trans (same.trans reached))
    · exact returns_steps ⟨rfl, rfl, rfl⟩ (same.trans reached)
  · exact fun refused reached => returns_steps ⟨rfl, rfl, rfl⟩ reached

theorem stepExecuteWithEngines_steps (queued : ctx.status = .queued) (allowed : journey.mayExecute)
    (registry : Option InMemoryAdapterRegistry) (recoveryHook : Option Bool) :
    journey.Steps ctx (stepExecuteWithEngines envelope ctx now registry recoveryHook) (· = .executing)
      (· = .failed) := by
  unfold stepExecuteWithEngines
  cases registry with
  | none => exact (moveTo_ends (by rw [queued]; decide) fun _ => allowed).continues
  | some registry =>
    dsimp only
    split
    · exact failWith_steps (by rw [queued]; decide)
    · split_ifs
      · exact failWith_steps (by rw [queued]; decide)
      · exact Ends.continues (moveTo_ends_of_same ⟨rfl, rfl, rfl⟩ (by rw [queued]; decide) fun _ => allowed)

theorem stepExecuteWithEnginesAndEmit_steps (queued : ctx.status = .queued) (allowed : journey.mayExecute)
    (registry : Option InMemoryAdapterRegistry) (emitter : EvidenceEmitter) (recoveryHook : Option Bool) :
    journey.Steps ctx (stepExecuteWithEnginesAndEmit envelope ctx now registry emitter recoveryHook)
      (· = .executing) (· = .failed) := by
  refine (stepExecuteWithEngines_steps queued allowed registry recoveryHook).bind ?_ ?_
  · intro started reached
    dsimp only
    split
    · refine (emit_ends emitter _).bind fun routed same => ?_
      refine (emit_ends emitter _).bind fun receipted still => ?_
      exact returns_steps ⟨rfl, rfl, rfl⟩ (still.trans (same.trans reached))
    · refine (emit_ends emitter _).bind fun receipted same => ?_
      exact returns_steps ⟨rfl, rfl, rfl⟩ (same.trans reached)
  · exact fun refused reached => returns_steps ⟨rfl, rfl, rfl⟩ reached

theorem stepVerify_steps (executing : ctx.status = .executing) :
    journey.Steps ctx (stepVerify ctx now) next (· = .succeeded) := by
  refine (moveTo_ends_of_ne (by rw [executing]; decide) (by decide)).bind fun verifying reached => ?_
  exact (moveTo_ends_of_ne (by rw [reached]; decide) (by decide)).returning (fun _ => ⟨rfl, rfl, rfl⟩)
    fun _ done => done

theorem stepVerifyWithEngine_steps (executing : ctx.status = .executing)
    (verificationEngine : Option RuntimeVerificationEngine) :
    journey.Steps ctx (stepVerifyWithEngine envelope ctx now verificationEngine) (· = .failed) (· = .succeeded) := by
  unfold stepVerifyWithEngine
  split
  · refine (moveTo_ends_of_ne (by rw [executing]; decide) (by decide)).bind fun verifying reached => ?_
    split_ifs
    · exact (moveTo_ends_of_ne (by rw [reached]; decide) (by decide)).returning (fun _ => ⟨rfl, rfl, rfl⟩)
        fun _ done => done
    · exact (moveTo_ends_of_ne (by rw [reached]; decide) (by decide)).returning (fun _ => ⟨rfl, rfl, rfl⟩)
        fun _ done => done
  · exact stepVerify_steps executing

theorem stepVerifyWithEngineAndEmit_steps (executing : ctx.status = .executing) (emitter : EvidenceEmitter)
    (verificationEngine : Option RuntimeVerificationEngine) :
    journey.Steps ctx (stepVerifyWithEngineAndEmit envelope ctx now emitter verificationEngine)
      (· = .failed) (· = .succeeded) := by
  refine (emit_ends emitter _).bind fun completed same => ?_
  refine (stepVerifyWithEngine_steps (same.trans executing) verificationEngine).bind ?_ ?_
  · intro failed reached
    refine (emit_ends emitter _).bind fun receipted still => ?_
    have ended : (PipelineState.continueWith failed).intoContext.status = .failed := reached
    rw [ended, if_neg (by decide)]
    exact returns_steps ⟨rfl, rfl, rfl⟩ (still.trans reached)
  · intro succeeded reached
    refine (emit_ends emitter _).bind fun receipted still => ?_
    have ended : (PipelineState.shortCircuit succeeded).intoContext.status = .succeeded := reached
    rw [ended, if_pos (by decide)]
    exact returns_steps ⟨rfl, rfl, rfl⟩ (still.trans reached)

theorem stepVerifyInjectFailureAndEmit_steps (executing : ctx.status = .executing) (emitter : EvidenceEmitter)
    (driver : Option RollbackDriver) (verificationEngine : Option RuntimeVerificationEngine) :
    journey.Steps ctx (stepVerifyInjectFailureAndEmit envelope ctx now emitter driver verificationEngine)
      (· = .failed) (· = .succeeded) := by
  unfold stepVerifyInjectFailureAndEmit
  split_ifs
  · refine (emit_ends emitter _).bind fun completed same => ?_
    refine (moveTo_ends_of_ne (by rw [same, executing]; decide) (by decide)).bind fun verifying reached => ?_
    refine (moveTo_ends_of_ne (by rw [reached]; decide) (by decide)).bind fun failed ended => ?_
    have receipts : journey.Ends failed
        (emitter.emitVerificationResult { failed with error := some .adapterRefused } false) (· = failed.status) := by
      apply emit_ends_of_same
      exact ⟨rfl, rfl, rfl⟩
    exact receipts.bind fun receipted still => returns_steps ⟨rfl, rfl, rfl⟩ (still.trans ended)
  · exact stepVerifyWithEngineAndEmit_steps executing emitter verificationEngine

theorem finishRollback_ends (failed : ctx.status = .failed) (operatorAlerts : Bool) (outcome : RollbackOutcome) :
    journey.Ends ctx (finishRollback ctx now operatorAlerts outcome) RollbackHalt := by
  -- The outcome is written before the transition, which the walk allows on a failed action.
  suffices recorded : journey.Ends { ctx with rollbackOutcome := some outcome }
      (finishRollback ctx now operatorAlerts outcome) RollbackHalt from
    fun state at_ => recorded state ⟨at_.1, at_.2.1, .inr (.inl failed)⟩
  unfold finishRollback
  cases outcome with
  | succeeded =>
    exact Ends.mono (moveTo_ends_of_ne (by rw [failed]; decide) (by decide)) fun _ reached => .inr (.inl reached)
  | failed =>
    refine Triple.bind (moveTo_ends_of_ne (by rw [failed]; decide) (by decide)) fun moved => ?_
    have alerted : Triple (fun state => journey.At moved state ∧ moved.status = .rollbackFailed)
        (modify fun state : RuntimeState =>
          if operatorAlerts then { state with operatorAlerts := state.operatorAlerts + 1 } else state)
        (fun _ state => journey.At moved state ∧ moved.status = .rollbackFailed) journey.Broken := by
      apply Triple.of_modify
      rintro state ⟨at_, reached⟩
      split_ifs
      · exact ⟨at_, reached⟩
      · exact ⟨at_, reached⟩
    exact Triple.bind alerted fun _ => Triple.of_pure fun state at_ => ⟨at_.1, .inr (.inr at_.2)⟩
  | _ => exact Triple.of_pure fun state at_ => ⟨at_, .inl failed⟩

/-- A rollback result keeps the context on the walk; without an outcome nothing has happened. -/
theorem stepRollbackWithDriver_triple (failed : ctx.status = .failed)
    (registry : Option InMemoryAdapterRegistry) (driver : Option RollbackDriver) (operatorAlerts : Bool) :
    Triple (journey.At ctx) (stepRollbackWithDriver envelope ctx now registry driver operatorAlerts)
      (fun result state => journey.At result.1.intoContext state ∧ RollbackHalt result.1.intoContext.status)
      journey.Broken := by
  unfold stepRollbackWithDriver
  cases driver with
  | none => exact Triple.of_pure fun state at_ => ⟨at_, .inl failed⟩
  | some driver =>
    dsimp only
    rw [if_neg (not_not.mpr failed)]
    split
    · exact Triple.of_pure fun state at_ => ⟨at_, .inl failed⟩
    · rename_i registered _
      cases parsed : registered.manifest.rollbackStrategyFor envelope.request.action with
      | error failure =>
        obtain ⟨detail, rfl⟩ := AdapterManifest.rollbackStrategyFor_eq_error parsed
        exact Triple.of_throw fun state at_ => at_.broken fun _ _ => nofun
      | ok strategy =>
        refine Triple.bind (finishRollback_ends failed operatorAlerts _) fun finished => ?_
        exact Triple.of_pure fun state at_ => at_

theorem emitRollbackCompleted_ends (emitter : EvidenceEmitter) (outcome : RollbackOutcome)
    (triggeringReason : Option ExecutionFailureReason) :
    journey.Ends ctx (emitter.emitRollbackCompleted ctx outcome triggeringReason) (· = ctx.status) := by
  unfold EvidenceEmitter.emitRollbackCompleted
  split_ifs
  · exact emitWithRetention_ends emitter _ _
  · exact emit_ends emitter _

theorem stepRollbackWithDriverAndEmit_steps (failed : ctx.status = .failed)
    (registry : Option InMemoryAdapterRegistry) (driver : Option RollbackDriver) (operatorAlerts : Bool)
    (emitter : EvidenceEmitter) :
    journey.Steps ctx (stepRollbackWithDriverAndEmit envelope ctx now registry driver operatorAlerts emitter)
      RollbackHalt RollbackHalt := by
  refine Triple.bind (stepRollbackWithDriver_triple failed registry driver operatorAlerts) ?_
  rintro ⟨reached, outcome⟩
  cases outcome with
  | none =>
    refine Triple.of_pure fun state at_ => ⟨at_.1, ?_⟩
    cases reached <;> exact at_.2
  | some outcome =>
    rintro state ⟨at_, halted⟩
    refine Ends.bind (emitRollbackCompleted_ends emitter outcome reached.intoContext.error) ?_ state at_
    intro receipted same
    refine returns_steps ⟨rfl, rfl, rfl⟩ ?_
    rw [← same] at halted
    exact halted

/-- Where a driver can leave an action. -/
def Settled (status : ActionLifecycleState) : Prop :=
  PolicyHalt status ∨ status = .succeeded ∨ RollbackHalt status

theorem settled_of_failed {status : ActionLifecycleState} (failed : status = .failed) : Settled status :=
  .inr (.inr (.inl failed))

theorem finishWith_ends {program : RuntimeM PipelineState} (steps : journey.Steps ctx program next halt)
    (continued : ∀ status, next status → final status) (halted : ∀ status, halt status → final status) :
    journey.Ends ctx (finishWith program) final := by
  refine Triple.bind steps fun reached => ?_
  cases reached with
  | continueWith moved => exact fun state at_ => ⟨at_.1, continued _ at_.2⟩
  | shortCircuit moved => exact fun state at_ => ⟨at_.1, halted _ at_.2⟩

end Journey

/-! ## The drivers -/

section

open Journey

variable {journey : Journey} {ctx : ActionContext} {engines : Engines} {envelope : ActionEnvelope} {now : DateTime}
  {admitted : Bool}

theorem passthrough_steps {halt : ActionLifecycleState → Prop} :
    journey.Steps ctx (stepRequestApprovalPassthrough ctx) (· = ctx.status) halt :=
  returns_steps ⟨rfl, rfl, rfl⟩ rfl

theorem stepRollback_ends (failed : ctx.status = .failed) :
    journey.Ends ctx (finishWith (stepRollback ctx)) Settled :=
  Triple.of_pure fun _ at_ => ⟨at_, settled_of_failed failed⟩

theorem runFromApproved_ends (approved : ctx.status = .approved) (allowed : journey.mayExecute) :
    journey.Ends ctx (runFromApproved engines envelope now admitted ctx) Settled := by
  refine onContinue_ends passthrough_steps (fun _ => False.elim) fun ctx same => ?_
  refine onContinue_ends (stepQueueWithEngine_steps (same.trans approved) admitted)
    (fun _ => settled_of_failed) fun ctx queued => ?_
  refine onContinue_ends (stepExecuteWithEngines_steps queued allowed _ _) (fun _ => settled_of_failed)
    fun ctx executing => ?_
  refine onContinue_ends (stepVerifyWithEngine_steps executing _) (fun _ reached => .inr (.inl reached))
    fun ctx failed => ?_
  exact stepRollback_ends failed

theorem runFromApprovedWithEvidence_ends (approved : ctx.status = .approved) (allowed : journey.mayExecute)
    (emitter : EvidenceEmitter) :
    journey.Ends ctx (runFromApprovedWithEvidence engines envelope now admitted emitter ctx) Settled := by
  refine onContinue_ends passthrough_steps (fun _ => False.elim) fun ctx same => ?_
  refine onContinue_ends (stepQueueWithEngineAndEmit_steps (same.trans approved) admitted emitter)
    (fun _ => settled_of_failed) fun ctx queued => ?_
  refine onContinue_ends (stepExecuteWithEnginesAndEmit_steps queued allowed _ emitter _) (fun _ => settled_of_failed)
    fun ctx executing => ?_
  refine onContinue_ends (stepVerifyWithEngineAndEmit_steps executing emitter _) (fun _ reached => .inr (.inl reached))
    fun ctx failed => ?_
  exact stepRollback_ends failed

theorem runFromApprovedWithRollback_ends (approved : ctx.status = .approved) (allowed : journey.mayExecute)
    (emitter : EvidenceEmitter) (rollbackDriver : Option RollbackDriver) (operatorAlerts : Bool) :
    journey.Ends ctx
      (runFromApprovedWithRollback engines envelope now admitted emitter rollbackDriver operatorAlerts ctx)
      Settled := by
  refine onContinue_ends passthrough_steps (fun _ => False.elim) fun ctx same => ?_
  refine onContinue_ends (stepQueueWithEngineAndEmit_steps (same.trans approved) admitted emitter)
    (fun _ => settled_of_failed) fun ctx queued => ?_
  refine onContinue_ends (stepExecuteWithEnginesAndEmit_steps queued allowed _ emitter _) (fun _ => settled_of_failed)
    fun ctx executing => ?_
  refine onContinue_ends (stepVerifyInjectFailureAndEmit_steps executing emitter _ _)
    (fun _ reached => .inr (.inl reached)) fun ctx failed => ?_
  exact finishWith_ends (stepRollbackWithDriverAndEmit_steps failed _ _ _ emitter)
    (fun _ reached => .inr (.inr reached)) fun _ reached => .inr (.inr reached)

variable {runtimeContext : Option RuntimeContext} {tripwire : Bool}

theorem runWithFullEngines_ends (created : ctx.status = .created)
    (allows : KernelAllows engines.policyKernel runtimeContext envelope → journey.mayExecute) :
    journey.Ends ctx (runWithFullEngines engines envelope now admitted runtimeContext tripwire ctx) Settled := by
  refine onContinue_ends (stepValidateWithProvenanceAndSandbox_steps created _ _ _) (fun _ => settled_of_failed)
    fun ctx pending => ?_
  refine onContinue_ends (stepPolicyEvaluateWithKernel_steps pending tripwire allows) (fun _ => .inl)
    fun ctx approved => ?_
  exact runFromApproved_ends approved.1 approved.2

theorem approveWithEvidence_ends (created : ctx.status = .created) (emitter : EvidenceEmitter)
    (allows : KernelAllows engines.policyKernel runtimeContext envelope → journey.mayExecute)
    {next : ActionContext → RuntimeM ActionContext}
    (ends : ∀ moved, moved.status = .approved → journey.mayExecute → journey.Ends moved (next moved) Settled) :
    journey.Ends ctx (approveWithEvidence engines envelope now runtimeContext tripwire emitter ctx next) Settled := by
  refine onContinue_ends (stepValidateWithProvenanceAndSandbox_steps created _ _ _) (fun _ => settled_of_failed)
    fun ctx pending => ?_
  refine Triple.bind (emit_ends emitter _) fun receipted state at_ => ?_
  refine onContinue_ends (stepPolicyEvaluateWithKernelAndEmit_steps (at_.2.trans pending) tripwire emitter allows)
    (fun _ => .inl) (fun ctx approved => ?_) state at_.1
  exact ends ctx approved.1 approved.2

end

end Aios.Runtime
