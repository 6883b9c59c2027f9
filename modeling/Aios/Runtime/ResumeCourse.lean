import Aios.Runtime.Agreement
import Aios.Runtime.Runs

/-! # The course of a resumed action

From APPROVED on, `resume_with_binding` walks steps 4 to 6 by hand where `submit_action` hands the
action to a pipeline driver. The two share the queue step and the execute step; they part after
verification, where only the driver knows the rollback step.
-/

namespace Aios.Runtime

open Aios.Rust Aios.Action Aios.Policy Stateful Journey

/-- What the two courses are compared on. -/
def ActionContext.courseEnd (ctx : ActionContext) :
    ActionLifecycleState × Option ExecutionFailureReason × Option RollbackOutcome :=
  (ctx.status, ctx.error, ctx.rollbackOutcome)

/-! ## What decides the course -/

/-- Whether the queue step lets an action through. -/
def enrolled (queue : Option DispatchQueue) (envelope : ActionEnvelope) (admitted : Bool) : Bool :=
  queue.all fun queue => admitted && queue.hasRoom (selectQueueClass envelope false)

/-- Whether the execute step lets an action through. -/
def dispatched (engines : Engines) (envelope : ActionEnvelope) : Bool :=
  engines.adapterRegistry.all fun registry =>
    (registry.lookupForTarget envelope.request.action).any fun adapter =>
      !recoveryRefuses envelope adapter engines.recoveryHook

/-- The verdict of the verify step: the stub passes, and so does an intent the engine confirms. -/
def verifies (engines : Engines) (envelope : ActionEnvelope) (actionId : ActionId) : Bool :=
  match engines.verificationEngine, verificationIntentJson envelope with
  | some engine, some intentJson => verificationPassed engine intentJson actionId
  | _, _ => true

/-- The courses agree unless an emitter and a rollback driver are attached, the action executes, and
its verification fails under an adapter or is made to fail by the driver. -/
def courseAgrees (engines : Engines) (envelope : ActionEnvelope) (actionId : ActionId) (admitted : Bool)
    (queue : Option DispatchQueue) : Bool :=
  engines.evidenceEmitter.isNone || engines.rollbackDriver.isNone ||
    !(enrolled queue envelope admitted && dispatched engines envelope) ||
    if verifies engines envelope actionId then !engines.rollbackDriver.any RollbackDriver.injectVerifyFailure
    else engines.adapterRegistry.isNone

/-! ## Steps that return -/

variable {ctx : ActionContext} {now : DateTime} {envelope : ActionEnvelope} {emitter : EvidenceEmitter}
  {state : RuntimeState}

section

variable {engines : Engines} {target : ActionLifecycleState}

theorem moveTo_returns (listed : (ctx.status, target) ∈ TRANSITIONS) :
    Returns (moveTo ctx target now) state (· = { ctx with status := target, lastUpdatedAt := now }) :=
  ⟨_, _, moveTo_apply listed now state, rfl⟩

theorem emitWithRetention_returns (reliable : emitter.NeverFails) (retention : RetentionClass)
    (payload : EvidencePayload) :
    Returns (emitter.emitWithRetention retention ctx payload) state
      fun receipted => ∃ chain, receipted = { ctx with evidenceChain := chain } := by
  obtain ⟨receiptId, accepted⟩ := reliable state.evidenceLog ⟨ctx.actionId, retention, payload⟩
  unfold Returns
  rw [EvidenceEmitter.emitWithRetention_apply, accepted]
  exact ⟨_, _, rfl, _, rfl⟩

theorem emit_returns (reliable : emitter.NeverFails) (payload : EvidencePayload) :
    Returns (emitter.emit ctx payload) state fun receipted =>
      ∃ chain, receipted = { ctx with evidenceChain := chain } :=
  emitWithRetention_returns reliable payload.retentionClass payload

/-- A step that goes on with the same action in a new status, or halts it. -/
def GoesOn (opens : Bool) (ctx : ActionContext) (target : ActionLifecycleState) : PipelineState → Prop
  | .continueWith moved =>
      opens = true ∧ moved.status = target ∧ moved.actionId = ctx.actionId ∧ moved.rollbackOutcome = ctx.rollbackOutcome
  | .shortCircuit _ => opens = false

theorem failWith_returns {reason : ExecutionFailureReason} (listed : (ctx.status, .failed) ∈ TRANSITIONS) :
    Returns (failWith ctx reason now) state (GoesOn false ctx target) :=
  (moveTo_returns listed).bind fun _ _ _ => Returns.of_pure rfl

theorem stepQueueWithEngine_returns (approved : ctx.status = .approved) (admitted : Bool) :
    Returns (stepQueueWithEngine envelope ctx now admitted) state
      (GoesOn (enrolled state.dispatchQueue envelope admitted) ctx .queued) := by
  have listed : (ctx.status, ActionLifecycleState.queued) ∈ TRANSITIONS := by rw [approved]; decide
  unfold Returns stepQueueWithEngine
  rw [get_bind_apply]
  cases state.dispatchQueue with
  | none =>
    apply (moveTo_returns listed).bind
    rintro _ after rfl
    exact Returns.of_pure ⟨rfl, rfl, rfl, rfl⟩
  | some queue =>
    have selected : (({ ctx with queueClass := selectQueueClass envelope false } : ActionContext).status,
        ActionLifecycleState.queued) ∈ TRANSITIONS := listed
    apply (moveTo_returns selected).bind
    rintro _ after rfl
    rw [enrolOrFail_eq]
    change Returns _ _ (GoesOn (admitted && queue.hasRoom (selectQueueClass envelope false)) _ _)
    split_ifs with opens
    · rw [opens]
      exact Returns.after_modify (Returns.of_pure ⟨rfl, rfl, rfl, rfl⟩)
    · rw [Bool.not_eq_true] at opens
      rw [opens]
      exact failWith_returns (show (ActionLifecycleState.queued, ActionLifecycleState.failed) ∈ TRANSITIONS by decide)

theorem stepQueueWithEngineAndEmit_returns (reliable : emitter.NeverFails) (approved : ctx.status = .approved)
    (admitted : Bool) :
    Returns (stepQueueWithEngineAndEmit envelope ctx now admitted emitter) state
      (GoesOn (enrolled state.dispatchQueue envelope admitted) ctx .queued) := by
  apply (stepQueueWithEngine_returns approved admitted).bind
  rintro (queued | refused) after reached
  · apply (emit_returns reliable _).bind
    rintro _ after ⟨chain, rfl⟩
    split
    · apply (emit_returns reliable _).bind
      rintro _ after ⟨chain, rfl⟩
      exact Returns.of_pure reached
    · exact Returns.of_pure reached
  · exact Returns.of_pure reached

theorem stepExecuteWithEngines_returns (queued : ctx.status = .queued) :
    Returns (stepExecuteWithEngines envelope ctx now engines.adapterRegistry engines.recoveryHook) state
      (GoesOn (dispatched engines envelope) ctx .executing) := by
  have listed : (ctx.status, ActionLifecycleState.executing) ∈ TRANSITIONS := by rw [queued]; decide
  have failing : (ctx.status, ActionLifecycleState.failed) ∈ TRANSITIONS := by rw [queued]; decide
  unfold stepExecuteWithEngines dispatched
  cases engines.adapterRegistry with
  | none =>
    apply (moveTo_returns listed).bind
    rintro _ after rfl
    exact Returns.of_pure ⟨rfl, rfl, rfl, rfl⟩
  | some registry =>
    dsimp only [Option.all_some]
    cases registry.lookupForTarget envelope.request.action with
    | none => exact failWith_returns failing
    | some adapter =>
      dsimp only [Option.any_some]
      cases refuses : recoveryRefuses envelope adapter engines.recoveryHook with
      | true =>
        rw [if_pos rfl]
        exact failWith_returns failing
      | false =>
        have chosen : (({ ctx with dispatchKind := chosenDispatchKind envelope adapter } : ActionContext).status,
            ActionLifecycleState.executing) ∈ TRANSITIONS := listed
        rw [if_neg (by decide)]
        apply (moveTo_returns chosen).bind
        rintro _ after rfl
        exact Returns.of_pure ⟨rfl, rfl, rfl, rfl⟩

theorem stepExecuteWithEnginesAndEmit_returns (reliable : emitter.NeverFails) (queued : ctx.status = .queued) :
    Returns (stepExecuteWithEnginesAndEmit envelope ctx now engines.adapterRegistry emitter engines.recoveryHook) state
      (GoesOn (dispatched engines envelope) ctx .executing) := by
  apply (stepExecuteWithEngines_returns queued).bind
  rintro (started | refused) after reached
  · dsimp only
    split
    · apply (emit_returns reliable _).bind
      rintro _ after ⟨chain, rfl⟩
      apply (emit_returns reliable _).bind
      rintro _ after ⟨chain, rfl⟩
      exact Returns.of_pure reached
    · apply (emit_returns reliable _).bind
      rintro _ after ⟨chain, rfl⟩
      exact Returns.of_pure reached
  · exact Returns.of_pure reached

/-- A passed verification halts the pipeline in SUCCEEDED; a failed one goes on to the rollback step. -/
def AfterVerdict (passed : Bool) : PipelineState → Prop
  | .shortCircuit ended => passed = true ∧ ended.status = .succeeded ∧ ended.rollbackOutcome = none
  | .continueWith ended => passed = false ∧ ended.courseEnd = (.failed, some .adapterRefused, none)

theorem stepVerifyWithEngine_returns (executing : ctx.status = .executing) (unrolled : ctx.rollbackOutcome = none) :
    Returns (stepVerifyWithEngine envelope ctx now engines.verificationEngine) state
      (AfterVerdict (verifies engines envelope ctx.actionId)) := by
  have listed : (ctx.status, ActionLifecycleState.verifying) ∈ TRANSITIONS := by rw [executing]; decide
  have passing : (ActionLifecycleState.verifying, ActionLifecycleState.succeeded) ∈ TRANSITIONS := by decide
  have failing : (ActionLifecycleState.verifying, ActionLifecycleState.failed) ∈ TRANSITIONS := by decide
  have stub : Returns (stepVerify ctx now) state (AfterVerdict true) := by
    apply (moveTo_returns listed).bind
    rintro _ after rfl
    apply (moveTo_returns passing).bind
    rintro _ after rfl
    exact Returns.of_pure ⟨rfl, rfl, unrolled⟩
  unfold stepVerifyWithEngine verifies
  cases engines.verificationEngine with
  | none => exact stub
  | some engine =>
    cases verificationIntentJson envelope with
    | none => exact stub
    | some intentJson =>
      apply (moveTo_returns listed).bind
      rintro _ after rfl
      dsimp only
      cases verificationPassed engine intentJson ctx.actionId with
      | true =>
        apply (moveTo_returns passing).bind
        rintro _ after rfl
        exact Returns.of_pure ⟨rfl, rfl, unrolled⟩
      | false =>
        apply (moveTo_returns failing).bind
        rintro _ after rfl
        refine Returns.of_pure ⟨rfl, ?_⟩
        rw [← unrolled]
        rfl

theorem stepVerifyWithEngineAndEmit_returns (reliable : emitter.NeverFails) (executing : ctx.status = .executing)
    (unrolled : ctx.rollbackOutcome = none) :
    Returns (stepVerifyWithEngineAndEmit envelope ctx now emitter engines.verificationEngine) state
      (AfterVerdict (verifies engines envelope ctx.actionId)) := by
  apply (emit_returns reliable _).bind
  rintro _ after ⟨chain, rfl⟩
  refine Returns.bind (stepVerifyWithEngine_returns ?_ ?_) ?_
  · exact executing
  · exact unrolled
  rintro (failed | succeeded) after ended
  · have status : failed.status = .failed := congrArg Prod.fst ended.2
    apply (emit_returns reliable _).bind
    rintro _ after ⟨chain, rfl⟩
    rw [if_neg (by simp [PipelineState.intoContext, status])]
    exact Returns.of_pure ended
  · apply (emit_returns reliable _).bind
    rintro _ after ⟨chain, rfl⟩
    rw [if_pos (by simp [PipelineState.intoContext, ended.2.1])]
    exact Returns.of_pure ended

/-- The failure that the rollback driver injects. -/
theorem injectedFailure_returns (reliable : emitter.NeverFails) (executing : ctx.status = .executing)
    (unrolled : ctx.rollbackOutcome = none)
    (injects : engines.rollbackDriver.any RollbackDriver.injectVerifyFailure = true) :
    Returns (stepVerifyInjectFailureAndEmit envelope ctx now emitter engines.rollbackDriver engines.verificationEngine)
      state (AfterVerdict false) := by
  have listed : (ctx.status, ActionLifecycleState.verifying) ∈ TRANSITIONS := by rw [executing]; decide
  have failing : (ActionLifecycleState.verifying, ActionLifecycleState.failed) ∈ TRANSITIONS := by decide
  unfold stepVerifyInjectFailureAndEmit
  rw [if_pos injects]
  apply (emit_returns reliable _).bind
  rintro _ after ⟨chain, rfl⟩
  refine Returns.bind (moveTo_returns ?_) ?_
  · exact listed
  rintro _ after rfl
  apply (moveTo_returns failing).bind
  rintro _ after rfl
  apply (emit_returns reliable _).bind
  rintro _ after ⟨chain, rfl⟩
  refine Returns.of_pure ⟨rfl, ?_⟩
  rw [← unrolled]
  rfl

/-! ## The rollback step -/

theorem moveTo_rollbackOutcome (target : ActionLifecycleState) :
    Triple (fun _ => True) (moveTo ctx target now) (fun moved _ => moved.rollbackOutcome = ctx.rollbackOutcome)
      (fun _ _ => True) := by
  intro state _
  unfold moveTo applyTransition
  split_ifs
  · rfl
  · trivial

/-- A rollback that is attempted leaves its outcome on the context. -/
theorem finishRollback_outcome (operatorAlerts : Bool) (outcome : RollbackOutcome) :
    Triple (fun _ => True) (finishRollback ctx now operatorAlerts outcome)
      (fun finished _ => finished.rollbackOutcome = some outcome) (fun _ _ => True) := by
  unfold finishRollback
  cases outcome with
  | succeeded => exact moveTo_rollbackOutcome _
  | failed =>
    refine Triple.bind (moveTo_rollbackOutcome _) fun moved => ?_
    have alerted : Triple (fun _ => moved.rollbackOutcome = some .failed)
        (modify fun state : RuntimeState =>
          if operatorAlerts then { state with operatorAlerts := state.operatorAlerts + 1 } else state)
        (fun _ _ => moved.rollbackOutcome = some .failed) (fun (_ : RuntimeError) _ => True) :=
      Triple.of_modify fun _ recorded => recorded
    exact Triple.bind alerted fun _ => Triple.of_pure fun _ recorded => recorded
  | notAttempted => exact Triple.of_pure fun _ _ => rfl
  | notApplicable => exact Triple.of_pure fun _ _ => rfl

theorem emitRollbackCompleted_outcome (outcome : RollbackOutcome) (triggeringReason : Option ExecutionFailureReason) :
    Triple (fun _ => True) (emitter.emitRollbackCompleted ctx outcome triggeringReason)
      (fun receipted _ => receipted.rollbackOutcome = ctx.rollbackOutcome) (fun _ _ => True) := by
  have kept (retention : RetentionClass) (payload : EvidencePayload) :
      Triple (fun _ => True) (emitter.emitWithRetention retention ctx payload)
        (fun receipted _ => receipted.rollbackOutcome = ctx.rollbackOutcome) (fun _ _ => True) := by
    intro state _
    rw [EvidenceEmitter.emitWithRetention_apply]
    cases emitter state.evidenceLog ⟨ctx.actionId, retention, payload⟩ with
    | error reason => trivial
    | ok receiptId => rfl
  unfold EvidenceEmitter.emitRollbackCompleted
  split_ifs
  · exact kept .forever _
  · exact kept _ _

end

section Rollback

variable {registry : Option InMemoryAdapterRegistry} {driver : RollbackDriver} {operatorAlerts : Bool}

theorem stepRollbackWithDriver_of_failed (failed : ctx.status = .failed) :
    stepRollbackWithDriver envelope ctx now registry (some driver) operatorAlerts =
      match registry.bind fun registry => registry.lookupForTarget envelope.request.action with
      | none => return (.shortCircuit ctx, none)
      | some registered =>
        match registered.manifest.rollbackStrategyFor envelope.request.action with
        | .error failure => throw failure
        | .ok strategy => do
            let ctx ← finishRollback ctx now operatorAlerts (driver.runRollback strategy)
            return (.shortCircuit ctx, some (driver.runRollback strategy)) :=
  if_neg (not_not.mpr failed)

/-- Without an adapter there is no strategy to roll back with. -/
theorem rollback_without_adapter (failed : ctx.status = .failed)
    (missing : (registry.bind fun registry => registry.lookupForTarget envelope.request.action) = none) :
    finishWith (stepRollbackWithDriverAndEmit envelope ctx now registry (some driver) operatorAlerts emitter) state =
      .ok ctx state := by
  unfold finishWith stepRollbackWithDriverAndEmit
  rw [stepRollbackWithDriver_of_failed failed, missing]
  rfl

/-- With an adapter the rollback fails on its strategy or leaves an outcome on the context. -/
theorem rollback_with_adapter (failed : ctx.status = .failed) {registered : RegisteredAdapter}
    (found : (registry.bind fun registry => registry.lookupForTarget envelope.request.action) = some registered) :
    Triple (fun _ => True)
      (finishWith (stepRollbackWithDriverAndEmit envelope ctx now registry (some driver) operatorAlerts emitter))
      (fun final _ => final.rollbackOutcome ≠ none) (fun _ _ => True) := by
  have rolled : Triple (fun _ => True) (stepRollbackWithDriver envelope ctx now registry (some driver) operatorAlerts)
      (fun result _ => result.2.isSome ∧ result.1.intoContext.rollbackOutcome ≠ none) (fun _ _ => True) := by
    rw [stepRollbackWithDriver_of_failed failed, found]
    dsimp only
    cases registered.manifest.rollbackStrategyFor envelope.request.action with
    | error failure => exact Triple.of_throw fun _ _ => trivial
    | ok strategy =>
      refine Triple.bind (finishRollback_outcome operatorAlerts _) fun finished => Triple.of_pure ?_
      intro state recorded
      refine ⟨rfl, ?_⟩
      simp [PipelineState.intoContext, recorded]
  have receipted : Triple (fun _ => True)
      (stepRollbackWithDriverAndEmit envelope ctx now registry (some driver) operatorAlerts emitter)
      (fun reached _ => reached.intoContext.rollbackOutcome ≠ none) (fun _ _ => True) := by
    apply Triple.bind rolled
    rintro ⟨reached, _ | outcome⟩ mid ⟨attempted, recorded⟩
    · cases attempted
    · refine Triple.bind (emitRollbackCompleted_outcome outcome _) (fun final => Triple.of_pure ?_) mid trivial
      intro _ same
      rw [← same] at recorded
      exact recorded
  exact Triple.bind receipted fun reached => Triple.of_pure fun _ recorded => recorded

end Rollback

/-! ## The two courses -/

section Courses

variable {engines : Engines} {admitted : Bool}

/-- The last step of the resume path. -/
def resumeFromExecuting (engines : Engines) (envelope : ActionEnvelope) (now : DateTime) (ctx : ActionContext) :
    RuntimeM ActionContext := do
  let verified ← resumeVerify engines envelope ctx now
  return verified.intoContext

/-- Steps 4 and 5, as both calls take them. -/
def advance (engines : Engines) (envelope : ActionEnvelope) (now : DateTime) (admitted : Bool) (ctx : ActionContext)
    (rest : ActionContext → RuntimeM ActionContext) : RuntimeM ActionContext :=
  onContinue (resumeQueue engines envelope ctx now admitted) fun ctx =>
  onContinue (resumeExecute engines envelope ctx now) rest

theorem submitFromApproved_eq_advance :
    submitFromApproved engines envelope now admitted ctx =
      advance engines envelope now admitted ctx (submitFromExecuting engines envelope now) :=
  submitFromApproved_eq engines envelope now admitted ctx

/-- The resume path tests the status where a driver tests the step result; the tests agree. -/
theorem branch_eq_onContinue {journey : Journey} {program : RuntimeM PipelineState} {status : ActionLifecycleState}
    {rest rest' : ActionContext → RuntimeM ActionContext} (steps : journey.Steps ctx program (· = status) (· = .failed))
    (other : ActionLifecycleState.failed ≠ status) (at_ : journey.At ctx state)
    (same : ∀ moved after, journey.At moved after → moved.status = status → rest moved after = rest' moved after) :
    (do let reached ← program
        if reached.intoContext.status = status then rest reached.intoContext
        else return reached.intoContext) state = onContinue program rest' state := by
  have reached := steps state at_
  unfold onContinue
  rw [bind_apply, bind_apply]
  generalize program state = result at reached
  rcases result with ⟨moved | halted, after⟩ | ⟨failure, after⟩
  · have status_eq : (PipelineState.continueWith moved).intoContext.status = status := reached.2
    dsimp only
    rw [if_pos status_eq]
    exact same moved after reached.1 reached.2
  · have status_eq : (PipelineState.shortCircuit halted).intoContext.status = .failed := reached.2
    dsimp only
    rw [status_eq, if_neg other]
    rfl
  · rfl

theorem resumeFromApproved_eq_advance (approved : ctx.status = .approved) (unrolled : ctx.rollbackOutcome = none)
    (state : RuntimeState) :
    resumeFromApproved engines envelope now admitted ctx state =
      advance engines envelope now admitted ctx (resumeFromExecuting engines envelope now) state := by
  let journey : Journey := ⟨state, ctx.actionId, ctx.status, True⟩
  have begun : journey.At ctx state := ⟨rfl, ⟨[], (List.append_nil _).symm, .nil, by simp⟩, .inl unrolled⟩
  have fromQueued : ∀ queued after, journey.At queued after → queued.status = .queued →
      resumeFromQueued engines envelope now queued after =
        onContinue (resumeExecute engines envelope queued now) (resumeFromExecuting engines envelope now) after := by
    intro queued after reached status
    have fromExecuting : ∀ executing later, journey.At executing later → executing.status = .executing →
        resumeFromExecuting engines envelope now executing later =
          resumeFromExecuting engines envelope now executing later := fun _ _ _ _ => rfl
    exact branch_eq_onContinue (resumeExecute_steps status trivial) (by decide) reached fromExecuting
  exact branch_eq_onContinue (resumeQueue_steps approved) (by decide) begun fromQueued

/-- Where no rollback driver takes part, verification ends both courses. -/
theorem submitFromExecuting_of_undriven (undriven : engines.evidenceEmitter = none ∨ engines.rollbackDriver = none) :
    submitFromExecuting engines envelope now ctx = resumeFromExecuting engines envelope now ctx := by
  unfold submitFromExecuting resumeFromExecuting resumeVerify onContinue
  cases emitting : engines.evidenceEmitter with
  | none =>
    apply bind_congr
    rintro (failed | succeeded) <;> rfl
  | some emitter =>
    rcases undriven with silent | undriven
    · rw [emitting] at silent
      cases silent
    · rw [undriven]
      apply bind_congr
      rintro (failed | succeeded) <;> rfl

/-- The attached emitter, if there is one, never fails. -/
def Engines.Reliable (engines : Engines) : Prop :=
  ∀ emitter, engines.evidenceEmitter = some emitter → emitter.NeverFails

theorem resumeQueue_returns (reliable : engines.Reliable) (approved : ctx.status = .approved) :
    Returns (resumeQueue engines envelope ctx now admitted) state
      (GoesOn (enrolled state.dispatchQueue envelope admitted) ctx .queued) := by
  unfold resumeQueue
  cases attached : engines.evidenceEmitter with
  | none => exact stepQueueWithEngine_returns approved admitted
  | some emitter => exact stepQueueWithEngineAndEmit_returns (reliable emitter attached) approved admitted

theorem resumeExecute_returns (reliable : engines.Reliable) (queued : ctx.status = .queued) :
    Returns (resumeExecute engines envelope ctx now) state (GoesOn (dispatched engines envelope) ctx .executing) := by
  unfold resumeExecute
  cases attached : engines.evidenceEmitter with
  | none => exact stepExecuteWithEngines_returns queued
  | some emitter => exact stepExecuteWithEnginesAndEmit_returns (reliable emitter attached) queued

/-- Steps 4 and 5 halt the action, or hand it on in EXECUTING, whatever comes after them. -/
theorem advance_cases (now : DateTime) (reliable : engines.Reliable) (approved : ctx.status = .approved)
    (state : RuntimeState) :
    (enrolled state.dispatchQueue envelope admitted && dispatched engines envelope) = false ∧
        (∃ halted after, ∀ rest, advance engines envelope now admitted ctx rest state = .ok halted after) ∨
      (enrolled state.dispatchQueue envelope admitted && dispatched engines envelope) = true ∧
        ∃ executing mid, executing.status = .executing ∧ executing.actionId = ctx.actionId ∧
          executing.rollbackOutcome = ctx.rollbackOutcome ∧
          ∀ rest, advance engines envelope now admitted ctx rest state = rest executing mid := by
  obtain ⟨step, mid, queued, reached⟩ : Returns (resumeQueue engines envelope ctx now admitted) state _ :=
    resumeQueue_returns reliable approved
  cases step with
  | shortCircuit halted =>
    left
    refine ⟨by rw [show enrolled _ _ _ = false from reached, Bool.false_and], halted, mid, fun rest => ?_⟩
    unfold advance onContinue
    rw [bind_apply, queued]
    rfl
  | continueWith moved =>
    obtain ⟨opens, status, own, outcome⟩ := reached
    obtain ⟨step, after, executed, reached⟩ : Returns (resumeExecute engines envelope moved now) mid _ :=
      resumeExecute_returns reliable status
    rw [opens, Bool.true_and]
    cases step with
    | shortCircuit halted =>
      left
      refine ⟨reached, halted, after, fun rest => ?_⟩
      unfold advance onContinue
      rw [bind_apply, queued]
      dsimp only
      rw [bind_apply, executed]
      rfl
    | continueWith executing =>
      obtain ⟨dispatches, running, own', outcome'⟩ := reached
      right
      refine ⟨dispatches, executing, after, running, own'.trans own, outcome'.trans outcome, fun rest => ?_⟩
      unfold advance onContinue
      rw [bind_apply, queued]
      dsimp only
      rw [bind_apply, executed]

/-- An action that executes under a registry has an adapter there. -/
theorem adapter_of_dispatched (dispatches : dispatched engines envelope = true) :
    engines.adapterRegistry = none ∨ ∃ registered,
      (engines.adapterRegistry.bind fun registry => registry.lookupForTarget envelope.request.action) =
        some registered := by
  unfold dispatched at dispatches
  cases registered : engines.adapterRegistry with
  | none => exact .inl rfl
  | some registry =>
    rw [registered, Option.all_some] at dispatches
    cases found : registry.lookupForTarget envelope.request.action with
    | none =>
      rw [found] at dispatches
      cases dispatches
    | some adapter => exact .inr ⟨adapter, found⟩

/-- The rollback step leaves an end without an outcome exactly where there is no registry. -/
theorem rollback_outcome_iff (dispatches : dispatched engines envelope = true) {driver : RollbackDriver}
    {operatorAlerts : Bool} (failed : ctx.courseEnd = (.failed, some .adapterRefused, none))
    {seen : ActionLifecycleState × Option ExecutionFailureReason × Option RollbackOutcome}
    (unrolled : seen.2.2 = none) :
    Except.ok seen = outcome ActionContext.courseEnd (finishWith (stepRollbackWithDriverAndEmit envelope ctx now
        engines.adapterRegistry (some driver) operatorAlerts emitter) state) ↔
      engines.adapterRegistry = none ∧ seen = (.failed, some .adapterRefused, none) := by
  have status : ctx.status = .failed := congrArg Prod.fst failed
  rcases adapter_of_dispatched dispatches with missing | ⟨registered, found⟩
  · have unfound : (engines.adapterRegistry.bind fun registry =>
        registry.lookupForTarget envelope.request.action) = none := by rw [missing]; rfl
    rw [rollback_without_adapter status unfound]
    simp only [outcome, Except.ok.injEq, missing, true_and, failed]
  · have attached : engines.adapterRegistry ≠ none := by
      intro missing
      rw [missing] at found
      cases found
    have rolled : Triple (fun _ => True) (finishWith (stepRollbackWithDriverAndEmit envelope ctx now
        engines.adapterRegistry (some driver) operatorAlerts emitter))
        (fun final _ => final.rollbackOutcome ≠ none) (fun _ _ => True) := rollback_with_adapter status found
    have reached := rolled state trivial
    constructor
    · intro same
      generalize finishWith _ state = result at reached same
      cases result with
      | error failure after => cases same
      | ok final after =>
        refine absurd ?_ reached
        rw [← unrolled, Except.ok.inj same]
        rfl
    · exact fun absent => absurd absent.1 attached

section Driven

variable {emitter : EvidenceEmitter} (attached : engines.evidenceEmitter = some emitter) {driver : RollbackDriver}
  (driven : engines.rollbackDriver = some driver)
include attached driven

theorem submitFromExecuting_of_driven :
    submitFromExecuting engines envelope now ctx =
      onContinue (stepVerifyInjectFailureAndEmit envelope ctx now emitter engines.rollbackDriver
        engines.verificationEngine) fun ctx =>
      finishWith (stepRollbackWithDriverAndEmit envelope ctx now engines.adapterRegistry (some driver) true
        emitter) := by
  unfold submitFromExecuting
  rw [attached, driven]

/-- An injected failure is rolled back wherever there is a registry. -/
theorem injectedTail_eq_iff (reliable : engines.Reliable) (injects : driver.injectVerifyFailure = true)
    (dispatches : dispatched engines envelope = true) (executing : ctx.status = .executing)
    (unrolled : ctx.rollbackOutcome = none) (state : RuntimeState)
    {seen : ActionLifecycleState × Option ExecutionFailureReason × Option RollbackOutcome} (bare : seen.2.2 = none) :
    Except.ok seen = outcome ActionContext.courseEnd (submitFromExecuting engines envelope now ctx state) ↔
      engines.adapterRegistry = none ∧ seen = (.failed, some .adapterRefused, none) := by
  obtain ⟨failing, mid, failed, injected⟩ :
      Returns (stepVerifyInjectFailureAndEmit envelope ctx now emitter engines.rollbackDriver
        engines.verificationEngine) state _ :=
    injectedFailure_returns (reliable emitter attached) executing unrolled (by rw [driven]; exact injects)
  cases failing with
  | shortCircuit halted => cases injected.1
  | continueWith halted =>
    rw [submitFromExecuting_of_driven attached driven]
    unfold onContinue
    rw [bind_apply, failed]
    exact rollback_outcome_iff dispatches injected.2 bare

/-- From EXECUTING on the courses agree when the verification passes untouched, or fails where there
is nothing to roll back. -/
theorem tails_agree_iff (reliable : engines.Reliable) (dispatches : dispatched engines envelope = true)
    (executing : ctx.status = .executing) (unrolled : ctx.rollbackOutcome = none) (state : RuntimeState) :
    outcome ActionContext.courseEnd (resumeFromExecuting engines envelope now ctx state) =
        outcome ActionContext.courseEnd (submitFromExecuting engines envelope now ctx state) ↔
      (if verifies engines envelope ctx.actionId then !driver.injectVerifyFailure
        else engines.adapterRegistry.isNone) = true := by
  obtain ⟨step, after, verified, verdict⟩ :
      Returns (stepVerifyWithEngineAndEmit envelope ctx now emitter engines.verificationEngine) state _ :=
    stepVerifyWithEngineAndEmit_returns (reliable emitter attached) executing unrolled
  have resumed : outcome ActionContext.courseEnd (resumeFromExecuting engines envelope now ctx state) =
      .ok step.intoContext.courseEnd := by
    unfold resumeFromExecuting resumeVerify
    rw [attached]
    dsimp only
    rw [bind_apply, verified]
    rfl
  rw [resumed]
  cases injects : driver.injectVerifyFailure with
  | true =>
    have bare : step.intoContext.courseEnd.2.2 = none := by
      cases step with
      | shortCircuit succeeded => exact verdict.2.2
      | continueWith failed => exact congrArg (fun seen => seen.2.2) verdict.2
    rw [injectedTail_eq_iff attached driven reliable injects dispatches executing unrolled state bare]
    cases step with
    | shortCircuit succeeded =>
      have passed : verifies engines envelope ctx.actionId = true := verdict.1
      have status : succeeded.courseEnd.1 = .succeeded := verdict.2.1
      have other : succeeded.courseEnd ≠ (.failed, some .adapterRefused, none) := by
        intro same
        rw [same] at status
        cases status
      simp [passed, PipelineState.intoContext, other]
    | continueWith ended =>
      have refuted : verifies engines envelope ctx.actionId = false := verdict.1
      simp [refuted, PipelineState.intoContext, verdict.2]
  | false =>
    have untouched : stepVerifyInjectFailureAndEmit envelope ctx now emitter engines.rollbackDriver
        engines.verificationEngine =
          stepVerifyWithEngineAndEmit envelope ctx now emitter engines.verificationEngine := by
      unfold stepVerifyInjectFailureAndEmit
      rw [driven, Option.any_some, injects]
      rfl
    rw [submitFromExecuting_of_driven attached driven]
    unfold onContinue
    rw [untouched, bind_apply, verified]
    cases step with
    | shortCircuit succeeded =>
      have passed : verifies engines envelope ctx.actionId = true := verdict.1
      simp [passed, PipelineState.intoContext, pure, EStateM.pure, outcome]
    | continueWith failed =>
      have failing : verifies engines envelope ctx.actionId = false := verdict.1
      have ended : failed.courseEnd = (.failed, some .adapterRefused, none) := verdict.2
      have seen : (PipelineState.continueWith failed).intoContext.courseEnd = (.failed, some .adapterRefused, none) :=
        ended
      dsimp only
      rw [seen, rollback_outcome_iff dispatches ended rfl]
      simp [failing]

end Driven

theorem courses_agree_iff (reliable : engines.Reliable) (approved : ctx.status = .approved)
    (unrolled : ctx.rollbackOutcome = none) (state : RuntimeState) :
    outcome ActionContext.courseEnd (resumeFromApproved engines envelope now admitted ctx state) =
        outcome ActionContext.courseEnd (submitFromApproved engines envelope now admitted ctx state) ↔
      courseAgrees engines envelope ctx.actionId admitted state.dispatchQueue = true := by
  rw [resumeFromApproved_eq_advance approved unrolled, submitFromApproved_eq_advance]
  unfold courseAgrees
  cases attached : engines.evidenceEmitter with
  | none =>
    have same : submitFromExecuting engines envelope now = resumeFromExecuting engines envelope now :=
      funext fun _ => submitFromExecuting_of_undriven (.inl attached)
    simp [same]
  | some emitter =>
    cases driven : engines.rollbackDriver with
    | none =>
      have same : submitFromExecuting engines envelope now = resumeFromExecuting engines envelope now :=
        funext fun _ => submitFromExecuting_of_undriven (.inr driven)
      simp [same]
    | some driver =>
      obtain ⟨closed, halted, after, halts⟩ | ⟨opens, executing, mid, running, own, outcome_eq, goes⟩ :=
        advance_cases now reliable approved state
      · rw [halts, halts, closed]
        simp
      · have dispatches : dispatched engines envelope = true := by
          rw [Bool.and_eq_true] at opens
          exact opens.2
        rw [goes, goes, opens, ← own,
          tails_agree_iff attached driven reliable dispatches running (outcome_eq.trans unrolled)]
        simp

end Courses

/-- A resume call that gets past its consumption holds the approved action, with no rollback behind it. -/
theorem consumed_facts {hash : RequestHash} {engines : Engines} {actionId : ActionId} {context : RuntimeContext}
    {bindingId : String} {readings : CallReadings} {approved : ActionContext} {after : RuntimeState}
    (atRest : state.AtRest)
    (consumed : (loadPending actionId >>= consumeForResume hash engines envelope context bindingId readings) state =
      .ok approved after) :
    approved.status = .approved ∧ approved.rollbackOutcome = none ∧ approved.actionId = actionId ∧
      after.dispatchQueue = state.dispatchQueue := by
  rcases consumption_cases actionId state with
    ⟨⟨failure, failed⟩, -⟩ | ⟨stored, -, -, -, failure, log, sink, -, refused⟩ |
      ⟨stored, binding, recorded, pending, -, approves⟩
  · rw [failed] at consumed
    cases consumed
  · rw [refused] at consumed
    cases consumed
  · have rested := atRest actionId stored recorded
    rw [approves] at consumed
    rcases announceGrant_cases engines.evidenceEmitter binding (stored.approvedAt readings.now)
      (state.approving stored.actionId bindingId) with ⟨failure, unreceipted⟩ | ⟨chain, log, announced⟩
    · rw [unreceipted] at consumed
      cases consumed
    · rw [announced] at consumed
      cases consumed
      exact ⟨rfl, rested.unrolled_of_pending pending, rested.ownId, rfl⟩

/-- In every state a run reaches, a resume call whose binding is valid ends as `submit_action` would
from APPROVED on, exactly when the rollback step has nothing to do. -/
theorem resumeCourse_agrees_iff (hash : RequestHash) (capacities : Option (QueueClass → ℕ)) (withSink : Bool)
    (history : List RuntimeOp) {engines : Engines} (reliable : engines.Reliable) {actionId : ActionId}
    {envelope : ActionEnvelope} {context : RuntimeContext} {bindingId : String} {readings : CallReadings}
    {approved : ActionContext} {after : RuntimeState}
    (consumed : (loadPending actionId >>= consumeForResume hash engines envelope context bindingId readings)
      (runFrom hash (.launched capacities withSink) history) = .ok approved after) :
    outcome ActionContext.courseEnd (resumeWithBinding hash engines actionId envelope context bindingId readings
        (runFrom hash (.launched capacities withSink) history)) =
      outcome ActionContext.courseEnd
        (submitFromApproved engines envelope readings.now readings.admitted approved after) ↔
      courseAgrees engines envelope actionId readings.admitted
        (runFrom hash (.launched capacities withSink) history).dispatchQueue = true := by
  have atRest := runFrom_atRest hash (launched_atRest capacities withSink) history
  obtain ⟨status, unrolled, own, queue⟩ := consumed_facts atRest consumed
  generalize runFrom hash (.launched capacities withSink) history = state at *
  have persisted : outcome ActionContext.courseEnd (resumeWithBinding hash engines actionId envelope context bindingId
      readings state) =
        outcome ActionContext.courseEnd
          (resumeFromApproved engines envelope readings.now readings.admitted approved after) := by
    rw [resumeWithBinding_eq, bind_apply, consumed]
    dsimp only
    rw [bind_apply]
    cases resumeFromApproved engines envelope readings.now readings.admitted approved after <;> rfl
  rw [persisted, courses_agree_iff reliable status unrolled, own, queue]

/-! ## A failed verification that is not rolled back -/

/-- A restart that asks for verification. -/
def verifiedRestart : ActionEnvelope where
  identity := { subjectCanonicalId := "human:lucky", isAi := false }
  request := { action := "service.restart", target := .object [("verification_intent", .string "nginx is active")] }

def serviceAdapter : RegisteredAdapter where
  manifest :=
    { adapterId := "adapter.service", declaredStability := .stable, dispatchKind := .inProcessRpc
      declaredActions := [{ actionKind := "service.restart", rollbackStrategy := "IDEMPOTENT_REVERSE" }] }
  registeredAt := 0

/-- Emitter, adapter and rollback driver, with a verification that fails. -/
def failingVerification : Engines where
  adapterRegistry := some { adapters := (∅ : Table String RegisteredAdapter).insert "adapter.service" serviceAdapter }
  policyKernel := some requireHuman
  evidenceEmitter := some acceptingSink
  verificationEngine := some fun _ _ => .ok false
  rollbackDriver := some {}

def verifiedRestartHash : RequestHash := fun _ => some "1920de219f7ca72c1d51d6732c08cac1"

/-- The restart waits for a human, who grants it. -/
def grantedRestart : List RuntimeOp :=
  [.submit failingVerification verifiedRestart humanContext (callAt 0 "act_1" "apr_1"),
    .sink (.grant "apr_1" "human:operator" .human "bnd_1" 1)]

theorem failingVerification_reliable : failingVerification.Reliable := by
  rintro _ ⟨⟩
  exact fun _ _ => ⟨_, rfl⟩

/-- The resumed restart ends in FAILED where the same restart, directly allowed, is rolled back. -/
theorem resumeCourse_skips_rollback :
    failingVerification.Reliable ∧ ∃ approved after,
      (loadPending "act_1" >>= consumeForResume verifiedRestartHash failingVerification verifiedRestart
        humanContext "bnd_1"
        (callAt 2 "act_2" "apr_2")) (runFrom verifiedRestartHash (.launched none true) grantedRestart) =
          .ok approved after ∧
      outcome ActionContext.courseEnd (resumeWithBinding verifiedRestartHash failingVerification "act_1" verifiedRestart
        humanContext "bnd_1" (callAt 2 "act_2" "apr_2")
          (runFrom verifiedRestartHash (.launched none true) grantedRestart)) =
          .ok (.failed, some .adapterRefused, none) ∧
      outcome ActionContext.courseEnd (submitFromApproved failingVerification verifiedRestart 2 true approved after) =
        .ok (.rolledBack, some .adapterRefused, some .succeeded) :=
  ⟨failingVerification_reliable, _, _, rfl, rfl, rfl⟩

theorem resumeCourse_agrees_iff_on_restart :
    failingVerification.Reliable ∧ ∃ approved after,
      (loadPending "act_1" >>= consumeForResume verifiedRestartHash failingVerification verifiedRestart humanContext
        "bnd_1" (callAt 2 "act_2" "apr_2")) (runFrom verifiedRestartHash (.launched none true) grantedRestart) =
          .ok approved after ∧
      (outcome ActionContext.courseEnd (resumeWithBinding verifiedRestartHash failingVerification "act_1"
          verifiedRestart humanContext "bnd_1" (callAt 2 "act_2" "apr_2")
          (runFrom verifiedRestartHash (.launched none true) grantedRestart)) =
        outcome ActionContext.courseEnd (submitFromApproved failingVerification verifiedRestart
          (callAt 2 "act_2" "apr_2").now (callAt 2 "act_2" "apr_2").admitted approved after) ↔
        courseAgrees failingVerification verifiedRestart "act_1" (callAt 2 "act_2" "apr_2").admitted
          (runFrom verifiedRestartHash (.launched none true) grantedRestart).dispatchQueue = true) :=
  ⟨failingVerification_reliable, _, _, rfl,
    resumeCourse_agrees_iff verifiedRestartHash none true grantedRestart failingVerification_reliable rfl⟩

end Aios.Runtime
