import Aios.Runtime.Binding

/-! # Runs of the runtime

A run interleaves calls of `submit_action` and `resume_with_binding` with what an operator does on
the approval sink. Every call brings the engines it finds attached, with their answers. In every
state a run reaches, the recorded contexts have come to rest: a call records its action only in a
status the drivers end in.
-/

namespace Aios.Runtime

open Aios.Rust Aios.Action Aios.Policy Stateful Journey

section

variable (hash : RequestHash) (state : RuntimeState)

/-- What an operator or a test does on the in-memory sink. -/
inductive SinkOp where
  | grant (requestId grantedBy : String) (grantedByClass : ApproverClass) (bindingId : String) (now : DateTime)
  | expire (bindingId : String) (now : DateTime)
  | deny (bindingId : String)
  | suspend (bindingId : String)
deriving DecidableEq, Repr

def SinkOp.perform (sink : InMemoryApprovalSink) : SinkOp → Except RuntimeError InMemoryApprovalSink
  | grant requestId grantedBy grantedByClass bindingId now =>
      (sink.injectGrantedBinding requestId grantedBy grantedByClass bindingId now).map Prod.snd
  | expire bindingId now => sink.forceExpire bindingId now
  | deny bindingId => sink.forceDenied bindingId
  | suspend bindingId => sink.forcePending bindingId

/-- The attached sink after an operation; a refused one changes nothing. -/
def RuntimeState.onSink (op : SinkOp) : RuntimeState :=
  { state with approvalSink := state.approvalSink.map fun sink =>
      match op.perform sink with
      | .ok sink => sink
      | .error _ => sink }

inductive RuntimeOp where
  | submit (engines : Engines) (envelope : ActionEnvelope) (context : RuntimeContext) (readings : CallReadings)
  | resume (engines : Engines) (actionId : ActionId) (envelope : ActionEnvelope) (context : RuntimeContext)
      (bindingId : String) (readings : CallReadings)
  | sink (op : SinkOp)

def step : RuntimeOp → RuntimeState
  | .submit engines envelope context readings => finalState (submitAction hash engines envelope context readings state)
  | .resume engines actionId envelope context bindingId readings =>
      finalState (resumeWithBinding hash engines actionId envelope context bindingId readings state)
  | .sink op => state.onSink op

/-- A runtime as it is built: nothing recorded, and an empty queue and an empty sink where they are
attached. -/
def RuntimeState.launched (capacities : Option (QueueClass → ℕ)) (withSink : Bool) : RuntimeState where
  dispatchQueue := capacities.map fun capacityPerClass => { capacityPerClass }
  approvalSink := if withSink then some {} else none

def runFrom (start : RuntimeState) (ops : List RuntimeOp) : RuntimeState :=
  StepRun.run (step hash) start ops

/-! ## What a call records -/

/-- A context as the runtime records it under an action id. -/
structure ActionContext.AtRest (actionId : ActionId) (ctx : ActionContext) : Prop where
  ownId : ctx.actionId = actionId
  settled : Settled ctx.status
  unrolled : ctx.rollbackOutcome = none ∨ RollbackHalt ctx.status

def RuntimeState.AtRest : Prop :=
  ∀ actionId ctx, state.contexts.lookup actionId = some ctx → ctx.AtRest actionId

/-- How a call changes the recorded contexts: it records one that has come to rest, or nothing. -/
def Records (actionId : ActionId) (before after : RuntimeState) : Prop :=
  after.contexts = before.contexts ∨
    ∃ ctx, ctx.AtRest actionId ∧ after.contexts = before.contexts.insert actionId ctx

theorem Records.atRest {actionId : ActionId} {before after : RuntimeState} (records : Records actionId before after)
    (atRest : before.AtRest) : after.AtRest := by
  intro other ctx stored
  rcases records with same | ⟨recorded, rested, inserted⟩
  · rw [same] at stored
    exact atRest other ctx stored
  · rw [inserted, Table.lookup_insert_eq] at stored
    split_ifs at stored with here
    · obtain rfl := Option.some.inj stored
      rw [here]
      exact rested
    · exact atRest other ctx stored

/-- The request submitted for a pending action. -/
def approvalRequest (envelope : ActionEnvelope) (ctx : ActionContext) (requestId : String)
    (requirement : Option ApprovalRequirement) : ApprovalRequest where
  requestId := requestId
  actionId := ctx.actionId
  requirement := requirement.getD defaultRequirement
  proposingSubjectId := envelope.identity.subjectCanonicalId
  proposingSubjectIsAi := envelope.identity.isAi
  boundActionCanonicalHash := canonicalHash hash envelope
  requestedAt := ctx.lastUpdatedAt

def RuntimeState.asking (request : ApprovalRequest) : RuntimeState :=
  { state with approvalSink := state.approvalSink.map fun sink => sink.submitRequest request }

end

section Calls

variable {hash : RequestHash} {engines : Engines} {envelope : ActionEnvelope} {context : RuntimeContext}
  {readings : CallReadings}

/-- The receipt of a submitted request. -/
def announceRequest (emitter : Option EvidenceEmitter) (ctx : ActionContext) (request : ApprovalRequest) :
    RuntimeM ActionContext :=
  match emitter with
  | none => return ctx
  | some emitter =>
      emitter.emitApprovalRequested ctx request.requestId request.proposingSubjectId request.proposingSubjectIsAi
        request.requirement.ttlSeconds request.requirement.requireHumanCoSigner

theorem submitApproval_of_pending {requestId : String} {ctx : ActionContext} {state : RuntimeState}
    (pending : ctx.status = .approvalPending) (attached : state.approvalSink.isSome) :
    submitApproval hash engines envelope requestId ctx state =
      match engines.sinkOutage with
      | some failure => .error failure state
      | none =>
          announceRequest engines.evidenceEmitter ctx
            (approvalRequest hash envelope ctx requestId state.policyApproval)
            (state.asking (approvalRequest hash envelope ctx requestId state.policyApproval)) := by
  obtain ⟨sink, held⟩ := Option.isSome_iff_exists.mp attached
  unfold submitApproval stepRequestApproval
  rw [get_bind_apply, if_pos ⟨pending, attached⟩, if_neg (not_not.mpr pending), bind_assoc, get_bind_apply, held]
  unfold announceRequest RuntimeState.asking
  rw [held]
  cases engines.sinkOutage with
  | some failure => rfl
  | none =>
    cases engines.evidenceEmitter with
    | none => rfl
    | some emitter =>
      simp only [bind_assoc, pure_bind, PipelineState.intoContext, bind_pure]
      rfl

/-- The approval submission skips an action that is not pending, fails, or leaves a request with the
sink; the receipt may fail after that. -/
theorem submitApproval_cases (requestId : String) (ctx : ActionContext) (state : RuntimeState) :
    ((ctx.status = .approvalPending → state.approvalSink = none) ∧
        submitApproval hash engines envelope requestId ctx state = .ok ctx state) ∨
      (∃ failure, submitApproval hash engines envelope requestId ctx state = .error failure state) ∨
      ctx.status = .approvalPending ∧
        ((∃ failure, submitApproval hash engines envelope requestId ctx state =
            .error failure (state.asking (approvalRequest hash envelope ctx requestId state.policyApproval))) ∨
          ∃ chain log, submitApproval hash engines envelope requestId ctx state =
            .ok { ctx with evidenceChain := chain }
              { state.asking (approvalRequest hash envelope ctx requestId state.policyApproval) with
                evidenceLog := log }) := by
  by_cases asked : ctx.status = .approvalPending ∧ state.approvalSink.isSome
  · right
    rw [submitApproval_of_pending asked.1 asked.2]
    cases engines.sinkOutage with
    | some failure => exact .inl ⟨failure, rfl⟩
    | none =>
      right
      constructor
      · exact asked.1
      · unfold announceRequest
        cases engines.evidenceEmitter with
        | none => exact .inr ⟨ctx.evidenceChain, state.evidenceLog, rfl⟩
        | some emitter => exact emitter.emit_cases ctx _ _
  · left
    constructor
    · intro pending
      have detached : ¬ state.approvalSink.isSome := fun attached => asked ⟨pending, attached⟩
      simpa using detached
    · unfold submitApproval
      rw [get_bind_apply, if_neg asked]
      rfl

/-- The driver of a submission ends at rest or fails, and touches neither the recorded contexts nor the
sink. -/
theorem selectedDriver_triple (engines : Engines) (envelope : ActionEnvelope) (context : RuntimeContext)
    (readings : CallReadings) (entered : RuntimeState) :
    Triple (· = entered)
      (selectedDriver engines envelope context readings (freshContext readings.actionId readings.now))
      (fun ctx after => ctx.AtRest readings.actionId ∧ after.records = entered.records)
      (fun _ after => after.records = entered.records) := by
  let journey : Journey := ⟨entered, readings.actionId, .created, True⟩
  have begun : journey.At (freshContext readings.actionId readings.now) entered :=
    ⟨rfl, ⟨[], (List.append_nil _).symm, .nil, by simp⟩, .inl rfl⟩
  have ends : journey.Ends (freshContext readings.actionId readings.now)
      (selectedDriver engines envelope context readings (freshContext readings.actionId readings.now)) Settled :=
    selectedDriver_ends rfl trivial
  have framed := ends.frame (bystander_records.selectedDriver_keeps fun _ _ => rfl) entered.records
  intro state same
  rw [same]
  have reached := framed entered ⟨begun, rfl⟩
  cases ran : selectedDriver engines envelope context readings (freshContext readings.actionId readings.now)
    entered with
  | ok ctx after =>
    rw [ran] at reached
    obtain ⟨⟨⟨own, -, unrolled⟩, settled⟩, kept⟩ := reached
    exact ⟨⟨own, settled, unrolled⟩, kept⟩
  | error failure after =>
    rw [ran] at reached
    exact reached.2

/-- What a submission leaves behind: nothing, a request and perhaps the action, or the action alone. -/
theorem submitAction_effect (state : RuntimeState) :
    let after := finalState (submitAction hash engines envelope context readings state)
    after.records = state.records ∨
      (∃ ctx requirement, ctx.actionId = readings.actionId ∧
        after.approvalSink = state.approvalSink.map (fun sink =>
          sink.submitRequest (approvalRequest hash envelope ctx readings.requestId requirement)) ∧
        Records readings.actionId state after) ∨
      ∃ ctx, ctx.AtRest readings.actionId ∧ (ctx.status = .approvalPending → state.approvalSink = none) ∧
        after.contexts = state.contexts.insert readings.actionId ctx ∧ after.approvalSink = state.approvalSink := by
  let entered : RuntimeState :=
    { state with policyConstraints := context.policyConstraints, policyApproval := context.policyApproval }
  have driven := selectedDriver_triple engines envelope context readings entered entered rfl
  have unfolded : submitAction hash engines envelope context readings state =
      (do
        let ctx ← selectedDriver engines envelope context readings (freshContext readings.actionId readings.now)
        let ctx ← submitApproval hash engines envelope readings.requestId ctx
        persist readings.actionId ctx) entered := rfl
  rw [unfolded, bind_apply]
  generalize selectedDriver engines envelope context readings (freshContext readings.actionId readings.now) entered =
    result at driven
  cases result with
  | error failure after => exact .inl driven
  | ok ctx after =>
    obtain ⟨rested, kept⟩ := driven
    have contexts : after.contexts = state.contexts := congrArg Prod.fst kept
    have sink : after.approvalSink = state.approvalSink := congrArg Prod.snd kept
    dsimp only
    rw [bind_apply]
    rcases submitApproval_cases readings.requestId ctx after with
      ⟨unasked, skipped⟩ | ⟨failure, refused⟩ | ⟨pending, ⟨failure, unreceipted⟩ | ⟨chain, log, asked⟩⟩
    · rw [skipped]
      right
      right
      refine ⟨ctx, rested, fun pending => ?_, ?_, sink⟩
      · rw [← sink]
        exact unasked pending
      · exact congrArg (AList.insert readings.actionId ctx) contexts
    · rw [refused]
      exact .inl kept
    · rw [unreceipted]
      refine .inr (.inl ⟨ctx, after.policyApproval, rested.ownId, ?_, .inl contexts⟩)
      rw [← sink]
      rfl
    · rw [asked]
      refine .inr (.inl ⟨ctx, after.policyApproval, rested.ownId, ?_,
        .inr ⟨{ ctx with evidenceChain := chain }, ?_, ?_⟩⟩)
      · rw [← sink]
        rfl
      · exact ⟨rested.ownId, rested.settled, rested.unrolled⟩
      · exact congrArg (AList.insert readings.actionId _) contexts

variable {actionId : ActionId} {bindingId : String}

theorem loadPending_apply (actionId : ActionId) (state : RuntimeState) :
    (∃ failure, loadPending actionId state = .error failure state) ∧
        (state.approvalSink = none ∨ ∀ ctx, state.contexts.lookup actionId = some ctx → ctx.status ≠ .approvalPending) ∨
      ∃ stored, loadPending actionId state = .ok stored state ∧ state.approvalSink.isSome ∧
        state.contexts.lookup actionId = some stored ∧ stored.status = .approvalPending := by
  unfold loadPending
  rw [get_bind_apply]
  cases state.approvalSink with
  | none => exact .inl ⟨⟨NO_SINK, rfl⟩, .inl rfl⟩
  | some sink =>
    rw [if_neg (by simp)]
    cases recorded : state.contexts.lookup actionId with
    | none => exact .inl ⟨⟨.actionNotFound actionId, rfl⟩, .inr (by simp)⟩
    | some stored =>
      by_cases pending : stored.status = .approvalPending
      · exact .inr ⟨stored, by simp [pending, pure, EStateM.pure], rfl, rfl, pending⟩
      · refine .inl ⟨⟨_, by simp only [pending, ne_eq, not_false_eq_true, if_true]; rfl⟩, .inr ?_⟩
        rintro ctx ⟨⟩
        exact pending

/-- A resume call is split where its action is APPROVED. -/
theorem resumeWithBinding_eq (hash : RequestHash) (engines : Engines) (actionId : ActionId) (envelope : ActionEnvelope)
    (context : RuntimeContext) (bindingId : String) (readings : CallReadings) :
    resumeWithBinding hash engines actionId envelope context bindingId readings =
      (loadPending actionId >>= consumeForResume hash engines envelope context bindingId readings) >>= fun approved =>
        resumeFromApproved engines envelope readings.now readings.admitted approved >>= persist actionId := by
  rw [bind_assoc]
  rfl

/-- What can happen up to there: the action is not waiting, its binding is refused, or the binding is spent
and the action approved, with only the receipt to come. -/
theorem consumption_cases (actionId : ActionId) (state : RuntimeState) :
    let consumed := (loadPending actionId >>= consumeForResume hash engines envelope context bindingId readings) state
    ((∃ failure, consumed = .error failure state) ∧ (state.approvalSink = none ∨
        ∀ stored, state.contexts.lookup actionId = some stored → stored.status ≠ .approvalPending)) ∨
      (∃ stored, state.contexts.lookup actionId = some stored ∧ stored.status = .approvalPending ∧
        presentedBinding hash engines envelope context bindingId readings state = none ∧
        ∃ failure log sink, Faded bindingId state.approvalSink sink ∧
          consumed = .error failure { state with evidenceLog := log, approvalSink := sink }) ∨
      ∃ stored binding, state.contexts.lookup actionId = some stored ∧ stored.status = .approvalPending ∧
        presentedBinding hash engines envelope context bindingId readings state = some binding ∧
        consumed = announceGrant engines.evidenceEmitter binding (stored.approvedAt readings.now)
          (state.approving stored.actionId bindingId) := by
  dsimp only
  rw [bind_apply]
  rcases loadPending_apply actionId state with ⟨⟨failure, failed⟩, unready⟩ | ⟨stored, loaded, -, recorded, pending⟩
  · rw [failed]
    exact .inl ⟨⟨failure, rfl⟩, unready⟩
  · rw [loaded]
    right
    cases presented : presentedBinding hash engines envelope context bindingId readings state with
    | none => exact .inl ⟨stored, recorded, pending, rfl, consumeForResume_of_refused stored presented⟩
    | some binding =>
      exact .inr ⟨stored, binding, recorded, pending, rfl, consumeForResume_of_presented pending presented⟩

/-- The rest of a resume call after the consumption leaves the sink alone and records the action at rest,
unless it fails. -/
theorem resumeFromApproved_effect (engines : Engines) (envelope : ActionEnvelope) (readings : CallReadings)
    {approved : ActionContext} (own : approved.actionId = actionId)
    (status : approved.status = .approved) (unrolled : approved.rollbackOutcome = none) (entered : RuntimeState) :
    let after := finalState ((do
      let ctx ← resumeFromApproved engines envelope readings.now readings.admitted approved
      persist actionId ctx) entered)
    after.approvalSink = entered.approvalSink ∧ entered.statusChanges <+: after.statusChanges ∧
      Records actionId entered after := by
  let journey : Journey := ⟨entered, actionId, .approved, True⟩
  have begun : journey.At approved entered := by
    refine ⟨own, ⟨[], (List.append_nil _).symm, ?_, by simp⟩, .inl unrolled⟩
    rw [status]
    exact .nil
  have ends : journey.Ends approved
      (resumeFromApproved engines envelope readings.now readings.admitted approved) Settled :=
    resumeFromApproved_ends status trivial
  have reached := ends.frame (bystander_records.resumeFromApproved_keeps fun _ _ => rfl) entered.records entered
    ⟨begun, rfl⟩
  rw [bind_apply]
  cases ran : resumeFromApproved engines envelope readings.now readings.admitted approved entered with
  | ok ctx after =>
    rw [ran] at reached
    obtain ⟨⟨⟨own, ⟨changes, recorded, -⟩, unrolled⟩, settled⟩, kept⟩ := reached
    refine ⟨congrArg Prod.snd kept, ⟨changes, recorded.symm⟩, .inr ⟨ctx, ⟨own, settled, unrolled⟩, ?_⟩⟩
    exact congrArg (AList.insert actionId ctx) (congrArg Prod.fst kept)
  | error failure after =>
    rw [ran] at reached
    obtain ⟨⟨-, -, changes, recorded, -⟩, kept⟩ := reached
    exact ⟨congrArg Prod.snd kept, ⟨changes, recorded.symm⟩, .inl (congrArg Prod.fst kept)⟩

theorem ActionContext.AtRest.unrolled_of_pending {ctx : ActionContext} (rested : ctx.AtRest actionId)
    (pending : ctx.status = .approvalPending) : ctx.rollbackOutcome = none := by
  rcases rested.unrolled with unrolled | halted
  · exact unrolled
  · rw [pending] at halted
    rcases halted with halted | halted | halted <;> cases halted

/-- What a resume call leaves behind: nothing, a binding that no longer stands, or a spent binding, the
approval of the action and perhaps a new record of it. -/
theorem resumeWithBinding_effect {state : RuntimeState} (atRest : state.AtRest) :
    let after := finalState (resumeWithBinding hash engines actionId envelope context bindingId readings state)
    (after = state ∧ (state.approvalSink = none ∨
        ∀ stored, state.contexts.lookup actionId = some stored → stored.status ≠ .approvalPending)) ∨
      (∃ stored, state.contexts.lookup actionId = some stored ∧ stored.status = .approvalPending ∧
        presentedBinding hash engines envelope context bindingId readings state = none ∧
        ∃ log sink, Faded bindingId state.approvalSink sink ∧
          after = { state with evidenceLog := log, approvalSink := sink }) ∨
      ∃ stored binding, state.contexts.lookup actionId = some stored ∧ stored.status = .approvalPending ∧
        presentedBinding hash engines envelope context bindingId readings state = some binding ∧
        after.approvalSink = state.approvalSink.map (fun sink => sink.spent bindingId) ∧
        state.statusChanges ++ [⟨actionId, .approvalPending, .approved⟩] <+: after.statusChanges ∧
        Records actionId state after := by
  dsimp only
  rw [resumeWithBinding_eq, bind_apply]
  rcases consumption_cases actionId state with
    ⟨⟨failure, failed⟩, unready⟩ | ⟨stored, recorded, pending, presented, failure, log, sink, faded, refused⟩ |
      ⟨stored, binding, recorded, pending, presented, consumed⟩
  · rw [failed]
    exact .inl ⟨rfl, unready⟩
  · rw [refused]
    exact .inr (.inl ⟨stored, recorded, pending, presented, log, sink, faded, rfl⟩)
  · have rested := atRest actionId stored recorded
    refine .inr (.inr ⟨stored, binding, recorded, pending, presented, ?_⟩)
    rw [consumed, rested.ownId]
    rcases announceGrant_cases engines.evidenceEmitter binding (stored.approvedAt readings.now)
      (state.approving actionId bindingId) with ⟨failure, unreceipted⟩ | ⟨chain, log, announced⟩
    · rw [unreceipted]
      exact ⟨rfl, List.prefix_rfl, .inl rfl⟩
    · rw [announced]
      have own : ({ stored.approvedAt readings.now with evidenceChain := chain } : ActionContext).actionId = actionId :=
        rested.ownId
      obtain ⟨sink, grown, records⟩ := resumeFromApproved_effect engines envelope readings own rfl
        (rested.unrolled_of_pending pending) { state.approving actionId bindingId with evidenceLog := log }
      exact ⟨sink, grown, records⟩

end Calls

/-! ## Reachable states -/

theorem launched_atRest (capacities : Option (QueueClass → ℕ)) (withSink : Bool) :
    (RuntimeState.launched capacities withSink).AtRest := by
  intro actionId ctx stored
  cases stored

theorem step_atRest (hash : RequestHash) {state : RuntimeState} (op : RuntimeOp) (atRest : state.AtRest) :
    (step hash state op).AtRest := by
  cases op with
  | submit engines envelope context readings =>
    have records : Records readings.actionId state (step hash state (.submit engines envelope context readings)) := by
      rcases submitAction_effect state with kept | ⟨ctx, requirement, -, -, records⟩ | ⟨ctx, rested, -, inserted, -⟩
      · exact .inl (congrArg Prod.fst kept)
      · exact records
      · exact .inr ⟨ctx, rested, inserted⟩
    exact records.atRest atRest
  | resume engines actionId envelope context bindingId readings =>
    have records : Records actionId state
        (step hash state (.resume engines actionId envelope context bindingId readings)) := by
      rcases resumeWithBinding_effect atRest with
        ⟨same, -⟩ | ⟨stored, -, -, -, log, sink, -, faded⟩ | ⟨stored, binding, -, -, -, -, -, records⟩
      · exact .inl (congrArg RuntimeState.contexts same)
      · have kept := congrArg RuntimeState.contexts faded
        exact .inl kept
      · exact records
    exact records.atRest atRest
  | sink op => exact atRest

/-- In every state a run reaches, the recorded contexts have come to rest. -/
theorem runFrom_atRest (hash : RequestHash) {start : RuntimeState} (atRest : start.AtRest) (ops : List RuntimeOp) :
    (runFrom hash start ops).AtRest :=
  StepRun.run_invariant RuntimeState.AtRest (fun _ op => step_atRest hash op) atRest ops

/-! ## A kernel that asks for a human -/

/-- The scripted kernel of the acceptance fixtures: every envelope waits for a human. -/
def requireHuman : PolicyEvaluation := fun _ _ =>
  .ok
    { policyDecisionId := "poldec_t035_acc_0000000000000000", actionId := "", requestHash := ""
      bundleVersion := "polb_t035_acc", enrichmentSnapshotId := "polb_snap_t035_acc", decision := .requireApproval
      reasonCode := "AcceptanceFixture", reasonMessage := "acceptance fixture decision", constraints := {}
      approval := { required := true, ttlSeconds := 300, approverClasses := [.human] }
      evidenceReceiptId := "evr_t035_acc_0", evaluatedAt := 0, rulesConsulted := 0, simulated := false }

/-- A runtime with that kernel and no other engine. -/
def humanApproval : Engines where
  policyKernel := some requireHuman

/-- The readings of a call at one instant. -/
def callAt (now : DateTime) (actionId : ActionId) (requestId : String) : CallReadings where
  now := now
  actionId := actionId
  requestId := requestId
  admitted := true
  consumedAt := now

/-- What a caller hands over for a human subject. -/
def humanContext : RuntimeContext where
  subject :=
    { canonicalSubjectId := "human:lucky", subjectType := .human, groups := [], capabilities := []
      sessionClass := "INTERNAL", recoveryMode := false, isAi := false }
  bundleVersion := "polb_t035_acc"
  codeVersion := "aios-policy/0.1.0-T025"

/-- An action that waits for approval is recorded as pending, with its request at the sink. -/
example : ((step (fun _ => some "b99cd703907adbffe70bc5e41d8f40bd") (.launched none true)
    (.submit humanApproval
      { identity := { subjectCanonicalId := "human:lucky", isAi := false }
        request := { action := "service.restart", target := .object [] } }
      humanContext (callAt 0 "act_1" "apr_1"))).contexts.lookup "act_1").map ActionContext.status =
    some .approvalPending := by
  decide

end Aios.Runtime
