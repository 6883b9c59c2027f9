import Aios.Runtime.Calls

/-! # Consuming a binding

A resume call takes its action to APPROVED exactly when the binding it presents is granted, has not
expired and passes the checks against the resumed envelope. Otherwise the call fails before any
status changes; the binding may be spent all the same.
-/

namespace Aios.Runtime

open Aios.Rust Aios.Action Aios.Policy Stateful

/-- The checks of the consume step that compare a binding with the resumed envelope. -/
def bindingAccepted (hash : RequestHash) (envelope : ActionEnvelope) (requirement : Option ApprovalRequirement)
    (binding : ApprovalBinding) : Bool :=
  (binding.boundActionCanonicalHash = "" || canonicalHash hash envelope = binding.boundActionCanonicalHash) &&
    !(envelope.identity.isAi && binding.grantedBy = envelope.identity.subjectCanonicalId) &&
    classMatches requirement binding.grantedByClass

/-- The binding a resume call presents, if it can be consumed and passes the checks. -/
def presentedBinding (hash : RequestHash) (engines : Engines) (envelope : ActionEnvelope) (context : RuntimeContext)
    (bindingId : String) (readings : CallReadings) (state : RuntimeState) : Option ApprovalBinding :=
  match state.approvalSink, engines.sinkOutage with
  | some sink, none =>
      (sink.bindings.lookup bindingId).filter fun binding =>
        binding.state = .granted && readings.consumedAt < binding.expiresAt &&
          bindingAccepted hash envelope context.policyApproval binding
  | _, _ => none

/-- The sink after a consumption. -/
def InMemoryApprovalSink.spent (self : InMemoryApprovalSink) (bindingId : String) : InMemoryApprovalSink :=
  { self with bindings := self.bindings.modify bindingId fun stored => { stored with state := .consumed } }

theorem presentedBinding_eq_some {hash : RequestHash} {engines : Engines} {envelope : ActionEnvelope}
    {context : RuntimeContext} {bindingId : String} {readings : CallReadings} {state : RuntimeState}
    {binding : ApprovalBinding} :
    presentedBinding hash engines envelope context bindingId readings state = some binding ↔
      ∃ sink, state.approvalSink = some sink ∧ engines.sinkOutage = none ∧
        sink.bindings.lookup bindingId = some binding ∧ binding.state = .granted ∧
        readings.consumedAt < binding.expiresAt ∧
        bindingAccepted hash envelope context.policyApproval binding = true := by
  unfold presentedBinding
  cases state.approvalSink with
  | none => simp
  | some sink =>
    cases engines.sinkOutage with
    | some failure => simp
    | none => simp [Option.filter_eq_some_iff, and_assoc]

variable {hash : RequestHash} {envelope : ActionEnvelope} {ctx : ActionContext} {now : DateTime} {bindingId : String}
  {requirement : Option ApprovalRequirement} {emitter : Option EvidenceEmitter} {binding : ApprovalBinding}

/-- A refused binding fails the call and leaves all but the evidence alone. -/
theorem refuseBinding_fails {reasonCode reasonMessage : String} {failure : RuntimeError} (state : RuntimeState) :
    ∃ failure' log, refuseBinding emitter ctx binding reasonCode reasonMessage failure state =
      .error failure' { state with evidenceLog := log } := by
  unfold refuseBinding
  cases emitter with
  | none => exact ⟨failure, state.evidenceLog, rfl⟩
  | some emitter =>
    dsimp only
    rw [bind_apply]
    unfold EvidenceEmitter.emitApprovalDenied EvidenceEmitter.emit
    rw [EvidenceEmitter.emitWithRetention_apply]
    cases emitter state.evidenceLog _ with
    | error reason => exact ⟨_, state.evidenceLog, rfl⟩
    | ok receiptId => exact ⟨failure, _, rfl⟩

theorem acceptBinding_of_refused (refused : bindingAccepted hash envelope requirement binding = false)
    (state : RuntimeState) :
    ∃ failure log, acceptBinding hash envelope ctx now bindingId requirement emitter binding state =
      .error failure { state with evidenceLog := log } := by
  unfold acceptBinding
  split_ifs with revised selfApproved mismatched
  · exact refuseBinding_fails state
  · exact refuseBinding_fails state
  · exact refuseBinding_fails state
  · exact absurd refused (by simp_all [bindingAccepted])

/-- The receipt of an accepted binding. -/
def announceGrant (emitter : Option EvidenceEmitter) (binding : ApprovalBinding) (ctx : ActionContext) :
    RuntimeM ActionContext :=
  match emitter with
  | none => return ctx
  | some emitter =>
      emitter.emitApprovalGranted ctx binding.requestId binding.bindingId binding.grantedBy
        binding.boundActionCanonicalHash

theorem announceGrant_cases (emitter : Option EvidenceEmitter) (binding : ApprovalBinding) (ctx : ActionContext)
    (state : RuntimeState) :
    (∃ failure, announceGrant emitter binding ctx state = .error failure state) ∨
      ∃ chain log, announceGrant emitter binding ctx state =
        .ok { ctx with evidenceChain := chain } { state with evidenceLog := log } := by
  cases emitter with
  | none => exact .inr ⟨ctx.evidenceChain, state.evidenceLog, rfl⟩
  | some emitter => exact emitter.emit_cases ctx _ state

/-- The context of an action its binding has just approved. -/
def ActionContext.approvedAt (ctx : ActionContext) (now : DateTime) : ActionContext :=
  { ctx with status := .approved, lastUpdatedAt := now }

theorem acceptBinding_of_accepted (pending : ctx.status = .approvalPending)
    (accepted : bindingAccepted hash envelope requirement binding = true) (state : RuntimeState) :
    (do let step ← acceptBinding hash envelope ctx now bindingId requirement emitter binding
        return step.intoContext) state =
      announceGrant emitter binding (ctx.approvedAt now)
        { state with statusChanges := state.statusChanges ++ [⟨ctx.actionId, .approvalPending, .approved⟩] } := by
  simp only [bindingAccepted, Bool.and_eq_true, Bool.or_eq_true, Bool.not_eq_true', Bool.and_eq_false_imp,
    decide_eq_true_eq, decide_eq_false_iff_not] at accepted
  obtain ⟨⟨hashes, apart⟩, matched⟩ := accepted
  have unrevised : ¬ (binding.boundActionCanonicalHash ≠ "" ∧
      canonicalHash hash envelope ≠ binding.boundActionCanonicalHash) := by
    rintro ⟨bound, revised⟩
    exact hashes.elim bound revised
  have foreign : ¬ (envelope.identity.isAi = true ∧ binding.grantedBy = envelope.identity.subjectCanonicalId) :=
    fun own => apart own.1 own.2
  have listed : (ctx.status, ActionLifecycleState.approved) ∈ TRANSITIONS := by rw [pending]; decide
  unfold acceptBinding
  rw [if_neg unrevised, if_neg foreign, if_neg (by simp [matched])]
  unfold moveTo announceGrant
  rw [applyTransition_of_mem listed, pending]
  cases emitter with
  | none => rfl
  | some emitter =>
    simp only [bind_assoc, pure_bind, PipelineState.intoContext, bind_pure]
    rfl

theorem consumeFromSink_apply (bindingId : String) (consumedAt : DateTime) (sinkOutage : Option RuntimeError)
    (state : RuntimeState) :
    consumeFromSink bindingId consumedAt sinkOutage state =
      match state.approvalSink, sinkOutage with
      | none, _ => .error NO_SINK state
      | some _, some failure => .error failure state
      | some sink, none =>
        match sink.consumeBinding bindingId consumedAt with
        | (.ok binding, sink) => .ok binding { state with approvalSink := some sink }
        | (.error failure, sink) => .error failure { state with approvalSink := some sink } := by
  unfold consumeFromSink
  rw [get_bind_apply]
  cases state.approvalSink with
  | none => rfl
  | some sink =>
    cases sinkOutage with
    | some failure => rfl
    | none =>
      dsimp only
      rcases sink.consumeBinding bindingId consumedAt with ⟨failure | binding, after⟩ <;> rfl

/-- The sink after a refused consumption: unchanged, or with the named binding no longer granted. -/
def Faded (bindingId : String) (before after : Option InMemoryApprovalSink) : Prop :=
  after = before ∨ ∃ sink, before = some sink ∧ ∃ state, state ≠ .granted ∧
    after = some { sink with
      bindings := sink.bindings.modify bindingId fun stored => { stored with state := state } }

section Resume

variable {engines : Engines} {context : RuntimeContext} {readings : CallReadings} {stored : ActionContext}

/-- A resume call whose binding is refused fails; only evidence and the binding may have changed. -/
theorem consumeForResume_of_refused (stored : ActionContext) {state : RuntimeState}
    (refused : presentedBinding hash engines envelope context bindingId readings state = none) :
    ∃ failure log sink, Faded bindingId state.approvalSink sink ∧
      consumeForResume hash engines envelope context bindingId readings stored state =
        .error failure { state with evidenceLog := log, approvalSink := sink } := by
  unfold consumeForResume stepConsumeBinding
  split_ifs with other
  · exact ⟨_, state.evidenceLog, state.approvalSink, .inl rfl, rfl⟩
  · rw [bind_assoc, bind_apply, consumeFromSink_apply]
    cases attached : state.approvalSink with
    | none =>
      have same : { state with approvalSink := none } = state := by rw [← attached]
      exact ⟨NO_SINK, state.evidenceLog, none, .inl rfl, congrArg _ same.symm⟩
    | some sink =>
      have same : { state with approvalSink := some sink } = state := by rw [← attached]
      cases outage : engines.sinkOutage with
      | some failure => exact ⟨failure, state.evidenceLog, some sink, .inl rfl, congrArg _ same.symm⟩
      | none =>
        dsimp only
        have faded : Faded bindingId (some sink) (some (sink.consumeBinding bindingId readings.consumedAt).2) := by
          rcases sink.consumeBinding_bindings bindingId readings.consumedAt with same | ⟨state, other, changed⟩
          · exact .inl (congrArg some same)
          · exact .inr ⟨sink, rfl, state, other, congrArg some changed⟩
        rcases answered : sink.consumeBinding bindingId readings.consumedAt with ⟨failure | binding, after⟩
        · rw [answered] at faded
          exact ⟨_, state.evidenceLog, some after, faded, rfl⟩
        · rw [answered] at faded
          have unaccepted : bindingAccepted hash envelope context.policyApproval binding = false := by
            obtain ⟨held, found, granted, unexpired, rfl, -⟩ :=
              InMemoryApprovalSink.consumeBinding_ok_iff.mp answered
            rw [← Bool.not_eq_true]
            intro accepted
            have presented := presentedBinding_eq_some.mpr
              ⟨sink, attached, outage, found, granted, unexpired, accepted⟩
            rw [refused] at presented
            cases presented
          have fails : ∃ failure log, acceptBinding hash envelope stored readings.now bindingId context.policyApproval
              engines.evidenceEmitter binding { state with approvalSink := some after } =
                .error failure { state with approvalSink := some after, evidenceLog := log } :=
            acceptBinding_of_refused unaccepted _
          obtain ⟨failure, log, failed⟩ := fails
          refine ⟨failure, log, some after, faded, ?_⟩
          dsimp only
          rw [bind_apply, failed]

/-- The state right after a binding has approved an action. -/
def RuntimeState.approving (state : RuntimeState) (actionId : ActionId) (bindingId : String) : RuntimeState :=
  { state with
    approvalSink := state.approvalSink.map fun sink => sink.spent bindingId
    statusChanges := state.statusChanges ++ [⟨actionId, .approvalPending, .approved⟩] }

/-- An accepted binding is spent and takes the action to APPROVED; only its receipt can still fail. -/
theorem consumeForResume_of_presented {state : RuntimeState} {binding : ApprovalBinding}
    (pending : stored.status = .approvalPending)
    (presented : presentedBinding hash engines envelope context bindingId readings state = some binding) :
    consumeForResume hash engines envelope context bindingId readings stored state =
      announceGrant engines.evidenceEmitter binding (stored.approvedAt readings.now)
        (state.approving stored.actionId bindingId) := by
  obtain ⟨sink, attached, reachable, found, granted, unexpired, accepted⟩ := presentedBinding_eq_some.mp presented
  have acceptedSpent :
      bindingAccepted hash envelope context.policyApproval { binding with state := .consumed } = true := accepted
  have answered : sink.consumeBinding bindingId readings.consumedAt =
      (.ok { binding with state := .consumed }, sink.spent bindingId) :=
    InMemoryApprovalSink.consumeBinding_ok_iff.mpr ⟨binding, found, granted, unexpired, rfl, rfl⟩
  unfold consumeForResume stepConsumeBinding
  rw [if_neg (not_not.mpr pending), bind_assoc, bind_apply, consumeFromSink_apply, attached, reachable]
  dsimp only
  rw [answered]
  dsimp only
  rw [acceptBinding_of_accepted pending acceptedSpent]
  unfold RuntimeState.approving announceGrant
  rw [attached]
  rfl

end Resume

end Aios.Runtime
