import Aios.Action.Envelope

/-! # The action lifecycle

The closed status vocabulary of the Capability Runtime, the transition table and the per-action
context. `applyTransition` is the one writer of a status; every other update of a context leaves
status and action id alone.
-/

namespace Aios.Runtime

open Aios.Rust Aios.Action

inductive ActionLifecycleState where
  | created
  | policyPending
  | approvalPending
  | overridePending
  | approved
  | policyDenied
  | overrideDenied
  | queued
  | executing
  | verifying
  | succeeded
  | failed
  | rolledBack
  | rollbackFailed
deriving DecidableEq, Repr

inductive ActionDispatchKind where
  | inProcessRpc
  | subprocessFork
  | isolatedSandbox
  | dryRun
deriving DecidableEq, Repr

inductive QueueClass where
  | interactive
  | agentProposal
  | background
  | recoveryPriority
deriving DecidableEq, Repr

inductive ExecutionFailureReason where
  | sandboxApplicationFailed
  | adapterTimeout
  | adapterPanic
  | resourceBudgetExceeded
  | dependencyUnready
  | backendUnavailable
  | idempotencyKeyReplayDetected
  | envelopeValidationFailed
  | rollbackPreconditionFailed
  | bindingExpired
  | bindingVoidedActionRevised
  | adapterRefused
deriving DecidableEq, Repr

inductive RollbackOutcome where
  | notAttempted
  | succeeded
  | failed
  | notApplicable
deriving DecidableEq, Repr

inductive RuntimeError where
  | actionNotFound (actionId : ActionId)
  | invalidTransition (source target : ActionLifecycleState)
  | adapterUnknown (adapter : String)
  | adapterSignatureInvalid
  | adapterUnknownAuthority (authority : String)
  | adapterAlreadyRegistered (adapterId : String)
  | manifestInvalid (detail : String)
  | queueFull (queueClass : QueueClass)
  | rateLimited (subjectId : String)
  | internal (detail : String)
  | policyEvalFailed (detail : String)
  | evidenceEmitFailed (detail : String)
  | approvalBindingInvalid (detail : String)
  | approvalBindingConsumed
  | approvalBindingExpired
  | approvalRequestNotFound (requestId : String)
  | approvalApproverClassMismatch
deriving DecidableEq, Repr

structure ActionContext where
  actionId : ActionId
  status : ActionLifecycleState := .created
  dispatchKind : ActionDispatchKind
  queueClass : QueueClass
  createdAt : DateTime
  lastUpdatedAt : DateTime
  error : Option ExecutionFailureReason := none
  rollbackOutcome : Option RollbackOutcome := none
  evidenceChain : List String := []
deriving DecidableEq, Repr

/-- The context seeded for a fresh envelope. -/
def freshContext (actionId : ActionId) (now : DateTime) : ActionContext where
  actionId := actionId
  dispatchKind := .subprocessFork
  queueClass := .interactive
  createdAt := now
  lastUpdatedAt := now

/-- The allowed status changes T2 to T21. -/
def TRANSITIONS : List (ActionLifecycleState × ActionLifecycleState) :=
  [(.created, .policyPending),
   (.created, .failed),
   (.policyPending, .approved),
   (.policyPending, .approvalPending),
   (.policyPending, .policyDenied),
   (.policyPending, .overridePending),
   (.approvalPending, .approved),
   (.approvalPending, .failed),
   (.overridePending, .approved),
   (.overridePending, .overrideDenied),
   (.approved, .queued),
   (.queued, .executing),
   (.queued, .failed),
   (.executing, .verifying),
   (.executing, .failed),
   (.verifying, .succeeded),
   (.verifying, .failed),
   (.failed, .rolledBack),
   (.failed, .rollbackFailed),
   (.policyDenied, .overridePending)]

/-- Drive a context through one transition, or refuse the pair that the table does not list. -/
def applyTransition (ctx : ActionContext) (target : ActionLifecycleState) (now : DateTime) :
    Except RuntimeError ActionContext :=
  if TRANSITIONS.any fun pair => pair.1 = ctx.status ∧ pair.2 = target then
    .ok { ctx with status := target, lastUpdatedAt := now }
  else .error (.invalidTransition ctx.status target)

theorem applyTransition_of_mem {ctx : ActionContext} {target : ActionLifecycleState} {now : DateTime}
    (listed : (ctx.status, target) ∈ TRANSITIONS) :
    applyTransition ctx target now = .ok { ctx with status := target, lastUpdatedAt := now } := by
  unfold applyTransition
  rw [if_pos]
  rw [List.any_eq_true]
  exact ⟨(ctx.status, target), listed, by simp⟩

/-- One status change of an action. -/
structure StatusChange where
  actionId : ActionId
  source : ActionLifecycleState
  target : ActionLifecycleState
deriving DecidableEq, Repr

/-- `Walk actionId start changes finish`: the changes lead the action from one status to another
along the table, without a gap. -/
inductive Walk (actionId : ActionId) (start : ActionLifecycleState) :
    List StatusChange → ActionLifecycleState → Prop
  | nil : Walk actionId start [] start
  | snoc {changes : List StatusChange} {source target : ActionLifecycleState}
      (walked : Walk actionId start changes source) (listed : (source, target) ∈ TRANSITIONS) :
      Walk actionId start (changes ++ [⟨actionId, source, target⟩]) target

end Aios.Runtime
