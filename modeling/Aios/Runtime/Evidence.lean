import Aios.Runtime.Adapter
import Aios.Runtime.ApprovalSink
import Aios.Runtime.DispatchQueue

/-! # The runtime state and the evidence emitter

`RuntimeState` is everything the pipeline steps share: the recorded contexts, the attached queue and
approval sink, the evidence log, the counters, and the two policy slots of the runtime context of
the call under way. The last field is a ghost that records each status change and that nothing
reads. A step is a computation over this state that may fail; what it did before failing stays
done.

An evidence sink answers each append with a receipt id or refuses it, on the strength of what it has
accepted so far. A constructor of `EvidencePayload` stands for one record type.
-/

namespace Aios.Runtime

open Aios.Rust Aios.Action Aios.Policy

inductive RetentionClass where
  | standard24M
  | extended60M
  | forever
deriving DecidableEq, Repr

inductive EvidencePayload where
  | actionReceived (actionKind subjectCanonicalId : String) (isAi : Bool) (receivedAt : DateTime)
      (lifecycleStateAfter : ActionLifecycleState)
  | policyDecision (policyDecisionId decision reasonCode bundleVersion : String)
      (lifecycleStateAfter : ActionLifecycleState)
  | routingDecision (adapterId actionKind : String) (dispatchKind : ActionDispatchKind)
  | actionQueued (queueClass : QueueClass) (dispatched : Bool) (subjectCanonicalId : String)
  | executionStarted (dispatchKind : ActionDispatchKind) (queueClass : QueueClass)
  | executionCompleted (outcome : String) (lifecycleStateAfter : ActionLifecycleState)
  | verificationResult (passed : Bool) (lifecycleStateAfter : ActionLifecycleState)
  | rollbackCompleted (outcome : RollbackOutcome) (triggeringReason : Option ExecutionFailureReason)
      (lifecycleStateAfter : ActionLifecycleState)
  | aiInteractiveQueueDowngrade (subjectCanonicalId : String) (originalQueueClass effectiveQueueClass : QueueClass)
  | approvalRequested (approvalRequestId proposingSubjectId : String) (proposingSubjectIsAi : Bool) (ttlSeconds : ℕ)
      (requireHumanCoSigner : Bool) (lifecycleStateAfter : ActionLifecycleState)
  | approvalGranted (approvalRequestId bindingId grantingSubjectId boundActionCanonicalHash : String)
      (lifecycleStateAfter : ActionLifecycleState)
  | approvalDenied (approvalRequestId bindingId : Option String) (reasonCode reasonMessage : String)
deriving DecidableEq, Repr

/-- `retention_class_for` on the record types the runtime emits. -/
def EvidencePayload.retentionClass : EvidencePayload → RetentionClass
  | policyDecision .. | executionCompleted .. => .forever
  | approvalDenied .. => .extended60M
  | _ => .standard24M

structure EvidenceRecord where
  actionId : ActionId
  retention : RetentionClass
  payload : EvidencePayload
deriving DecidableEq, Repr

/-- `EvidenceSink::append_signed`: the records accepted so far and the next one, to a receipt id or
the text of the refusal. -/
abbrev EvidenceEmitter := List EvidenceRecord → EvidenceRecord → Except String String

def EvidenceEmitter.NeverFails (emitter : EvidenceEmitter) : Prop :=
  ∀ accepted record, ∃ receiptId, emitter accepted record = .ok receiptId

structure RuntimeState where
  contexts : Table ActionId ActionContext := ∅
  dispatchQueue : Option DispatchQueue := none
  approvalSink : Option InMemoryApprovalSink := none
  evidenceLog : List EvidenceRecord := []
  policyConstraints : Option Constraints := none
  policyApproval : Option ApprovalRequirement := none
  policyDoubleCheckWarnings : ℕ := 0
  operatorAlerts : ℕ := 0
  statusChanges : List StatusChange := []

abbrev RuntimeM := EStateM RuntimeError RuntimeState

/-- `apply_transition`, with the change recorded on the ghost. -/
def moveTo (ctx : ActionContext) (target : ActionLifecycleState) (now : DateTime) : RuntimeM ActionContext :=
  match applyTransition ctx target now with
  | .error failure => throw failure
  | .ok moved => do
      modify fun state =>
        { state with statusChanges := state.statusChanges ++ [⟨ctx.actionId, ctx.status, target⟩] }
      return moved

/-- A listed move returns the moved context and records the change. -/
theorem moveTo_apply {ctx : ActionContext} {target : ActionLifecycleState} (listed : (ctx.status, target) ∈ TRANSITIONS)
    (now : DateTime) (state : RuntimeState) :
    moveTo ctx target now state = .ok { ctx with status := target, lastUpdatedAt := now }
      { state with statusChanges := state.statusChanges ++ [⟨ctx.actionId, ctx.status, target⟩] } := by
  unfold moveTo
  rw [applyTransition_of_mem listed]
  rfl

namespace EvidenceEmitter

variable (emitter : EvidenceEmitter)

variable (envelope : ActionEnvelope)

def emitWithRetention (retention : RetentionClass) (ctx : ActionContext) (payload : EvidencePayload) :
    RuntimeM ActionContext := do
  let state ← get
  let record : EvidenceRecord := { actionId := ctx.actionId, retention, payload }
  match emitter state.evidenceLog record with
  | .error reason => throw (.evidenceEmitFailed reason)
  | .ok receiptId => do
      set { state with evidenceLog := state.evidenceLog ++ [record] }
      return { ctx with evidenceChain := ctx.evidenceChain ++ [receiptId] }

/-- An emission is answered from the log; a refusal leaves the state unchanged. -/
theorem emitWithRetention_apply (retention : RetentionClass) (ctx : ActionContext) (payload : EvidencePayload)
    (state : RuntimeState) :
    emitter.emitWithRetention retention ctx payload state =
      match emitter state.evidenceLog ⟨ctx.actionId, retention, payload⟩ with
      | .error reason => .error (.evidenceEmitFailed reason) state
      | .ok receiptId =>
          .ok { ctx with evidenceChain := ctx.evidenceChain ++ [receiptId] }
            { state with evidenceLog := state.evidenceLog ++ [⟨ctx.actionId, retention, payload⟩] } := by
  dsimp only [emitWithRetention, bind, EStateM.bind, get, getThe, MonadStateOf.get, EStateM.get]
  cases emitter state.evidenceLog ⟨ctx.actionId, retention, payload⟩ <;> rfl

def emit (ctx : ActionContext) (payload : EvidencePayload) : RuntimeM ActionContext :=
  emitter.emitWithRetention payload.retentionClass ctx payload

/-- An emission writes a receipt and the log, or fails and writes nothing. -/
theorem emit_cases (ctx : ActionContext) (payload : EvidencePayload) (state : RuntimeState) :
    (∃ failure, emitter.emit ctx payload state = .error failure state) ∨
      ∃ chain log, emitter.emit ctx payload state =
        .ok { ctx with evidenceChain := chain } { state with evidenceLog := log } := by
  unfold emit
  rw [emitWithRetention_apply]
  cases emitter state.evidenceLog ⟨ctx.actionId, payload.retentionClass, payload⟩ with
  | error reason => exact .inl ⟨_, rfl⟩
  | ok receiptId => exact .inr ⟨_, _, rfl⟩

def emitActionReceived (ctx : ActionContext) : RuntimeM ActionContext :=
  emitter.emit ctx (.actionReceived envelope.request.action envelope.identity.subjectCanonicalId
    envelope.identity.isAi ctx.createdAt ctx.status)

/-- `format!("{:?}", decision).to_uppercase()`. -/
def decisionToken : Decision → String
  | .unspecified => "UNSPECIFIED"
  | .allow => "ALLOW"
  | .requireApproval => "REQUIREAPPROVAL"
  | .deny => "DENY"

def emitPolicyDecision (ctx : ActionContext) (decision : PolicyDecision) : RuntimeM ActionContext :=
  emitter.emit ctx (.policyDecision decision.policyDecisionId (decisionToken decision.decision)
    decision.reasonCode decision.bundleVersion ctx.status)

def emitRoutingDecision (ctx : ActionContext) (adapterId : String) (dispatchKind : ActionDispatchKind) :
    RuntimeM ActionContext :=
  emitter.emit ctx (.routingDecision adapterId envelope.request.action dispatchKind)

def emitActionQueued (ctx : ActionContext) (queueClass : QueueClass) : RuntimeM ActionContext :=
  emitter.emit ctx (.actionQueued queueClass false envelope.identity.subjectCanonicalId)

def emitExecutionStarted (ctx : ActionContext) : RuntimeM ActionContext :=
  emitter.emit ctx (.executionStarted ctx.dispatchKind ctx.queueClass)

def emitExecutionCompleted (ctx : ActionContext) (outcome : String) : RuntimeM ActionContext :=
  emitter.emit ctx (.executionCompleted outcome ctx.status)

def emitVerificationResult (ctx : ActionContext) (passed : Bool) : RuntimeM ActionContext :=
  emitter.emit ctx (.verificationResult passed ctx.status)

/-- A failed rollback is kept forever. -/
def emitRollbackCompleted (ctx : ActionContext) (outcome : RollbackOutcome)
    (triggeringReason : Option ExecutionFailureReason) : RuntimeM ActionContext :=
  let payload := .rollbackCompleted outcome triggeringReason ctx.status
  if outcome = .failed then emitter.emitWithRetention .forever ctx payload else emitter.emit ctx payload

def emitApprovalRequested (ctx : ActionContext) (approvalRequestId proposingSubjectId : String)
    (proposingSubjectIsAi : Bool) (ttlSeconds : ℕ) (requireHumanCoSigner : Bool) : RuntimeM ActionContext :=
  emitter.emit ctx (.approvalRequested approvalRequestId proposingSubjectId proposingSubjectIsAi ttlSeconds
    requireHumanCoSigner ctx.status)

def emitApprovalGranted (ctx : ActionContext)
    (approvalRequestId bindingId grantingSubjectId boundActionCanonicalHash : String) : RuntimeM ActionContext :=
  emitter.emit ctx (.approvalGranted approvalRequestId bindingId grantingSubjectId boundActionCanonicalHash ctx.status)

def emitApprovalDenied (ctx : ActionContext) (approvalRequestId bindingId : Option String)
    (reasonCode reasonMessage : String) : RuntimeM ActionContext :=
  emitter.emit ctx (.approvalDenied approvalRequestId bindingId reasonCode reasonMessage)

def emitAiInteractiveQueueDowngrade (ctx : ActionContext) : RuntimeM ActionContext :=
  emitter.emit ctx
    (.aiInteractiveQueueDowngrade envelope.identity.subjectCanonicalId .interactive .agentProposal)

end EvidenceEmitter

end Aios.Runtime
