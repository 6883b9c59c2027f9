import Aios.Lib.Stateful
import Aios.Rust.Basic

/-! # Action envelopes

The caller-owned sections of `aios_action::ActionEnvelope`. The runtime-owned `execution` section
and the transport-owned `trace` section are read by none of the modelled functions and are left
out. Ids are the strings the source wraps.
-/

namespace Aios.Action

open Aios.Rust

abbrev ActionId := String

inductive DryRunMode where
  | live
  | validate
  | simulate
deriving DecidableEq, Repr

/-- What the caller wants done. -/
structure Request where
  action : String
  target : Json
  idempotencyKey : Option String := none
  parentActionId : Option ActionId := none
  dryRun : DryRunMode := .live

/-- Who issued the action. -/
structure Identity where
  subjectCanonicalId : String
  isAi : Bool
  sessionId : Option String := none
deriving DecidableEq, Repr

def SCHEMA_VERSION : String := "aios.action.v1alpha1"

structure ActionEnvelope where
  schemaVersion : String := SCHEMA_VERSION
  identity : Identity
  request : Request

/-- `Request::request_hash`: the canonicaliser and the digest are third-party code, so the function
is a parameter of everything that hashes; `none` is a canonicalisation failure. -/
abbrev RequestHash := Request → Option String

/-! ## The runtime-owned section of an envelope

`transition_to` and `add_condition` change the execution section in place and may fail on the way, so
each is a computation on the envelope that keeps the state it has reached. The clock reading of
`Utc::now` is an argument. The rendering of an instant inside an error text is third-party code and a
parameter.
-/

/-- The coarse-grained lifecycle phase. -/
inductive ActionPhase where
  | pending
  | running
  | succeeded
  | failed
  | rolledBack
deriving DecidableEq, Repr

namespace ActionPhase

def isTerminal : ActionPhase → Bool
  | succeeded | failed | rolledBack => true
  | pending | running => false

/-- The allowed transitions; any departure from a terminal phase is refused. -/
def canTransitionTo : ActionPhase → ActionPhase → Bool
  | pending, failed | pending, running => true
  | running, succeeded | running, failed | running, rolledBack => true
  | _, _ => false

end ActionPhase

/-- The closed vocabulary of conditions. -/
inductive ConditionType where
  | policyEvaluated
  | policyAccepted
  | approvalRequired
  | approvalGranted
  | approvalExpired
  | sandboxed
  | executed
  | verified
  | rollbackPossible
  | rolledBack
  | idempotent
  | simulated
  | deprecatedFieldUsed
deriving DecidableEq, Repr

/-- The derived `Debug` names. -/
def ConditionType.debug : ConditionType → String
  | policyEvaluated => "PolicyEvaluated"
  | policyAccepted => "PolicyAccepted"
  | approvalRequired => "ApprovalRequired"
  | approvalGranted => "ApprovalGranted"
  | approvalExpired => "ApprovalExpired"
  | sandboxed => "Sandboxed"
  | executed => "Executed"
  | verified => "Verified"
  | rollbackPossible => "RollbackPossible"
  | rolledBack => "RolledBack"
  | idempotent => "Idempotent"
  | simulated => "Simulated"
  | deprecatedFieldUsed => "DeprecatedFieldUsed"

inductive ConditionStatus where
  | true
  | false
  | unknown
deriving DecidableEq, Repr

def ConditionStatus.debug : ConditionStatus → String
  | .true => "True"
  | .false => "False"
  | .unknown => "Unknown"

/-- A timestamped fact about the execution. -/
structure Condition where
  conditionType : ConditionType
  status : ConditionStatus
  observedAt : DateTime
  message : String
deriving DecidableEq, Repr

structure Execution where
  phase : ActionPhase
  phaseChangedAt : DateTime
  startedAt : Option DateTime
  endedAt : Option DateTime
  sandboxProfileId : Option String
  conditions : List Condition
deriving DecidableEq, Repr

/-- `Execution::pending` at a clock reading. -/
def Execution.pending (now : DateTime) : Execution where
  phase := .pending
  phaseChangedAt := now
  startedAt := none
  endedAt := none
  sandboxProfileId := none
  conditions := []

/-- The errors of the two calls. -/
inductive TransitionError where
  | illegalTransition («from» «to» : ActionPhase)
  | terminalPhase
  | monotonicityViolation (text : String)
deriving DecidableEq, Repr

/-- An envelope with its execution section. -/
structure TrackedEnvelope extends ActionEnvelope where
  execution : Execution

namespace TrackedEnvelope

/-- `ActionEnvelope::new`. -/
def new (identity : Identity) (request : Request) (now : DateTime) : TrackedEnvelope where
  identity := identity
  request := request
  execution := .pending now

/-- An assignment to fields of the execution section. -/
def setExecution (update : Execution → Execution) (envelope : TrackedEnvelope) : TrackedEnvelope :=
  { envelope with execution := update envelope.execution }

@[simp] theorem setExecution_execution (update : Execution → Execution) (envelope : TrackedEnvelope) :
    (envelope.setExecution update).execution = update envelope.execution := rfl

/-- `transition_to` with the clock reading `now`. -/
def transitionTo (now : DateTime) (next : ActionPhase) : EStateM TransitionError TrackedEnvelope Unit := do
  let envelope ← get
  if envelope.execution.phase.isTerminal then throw .terminalPhase
  else if !envelope.execution.phase.canTransitionTo next then
    throw (.illegalTransition envelope.execution.phase next)
  else
    -- A clock that has gone back does not take the stamp back.
    let newStamp := if now < envelope.execution.phaseChangedAt then envelope.execution.phaseChangedAt else now
    if envelope.execution.phase = .pending ∧ next = .running ∧ envelope.execution.startedAt.isNone then
      modify (setExecution fun execution => { execution with startedAt := some newStamp })
    if next.isTerminal ∧ envelope.execution.endedAt.isNone then
      modify (setExecution fun execution => { execution with endedAt := some newStamp })
    modify (setExecution fun execution => { execution with phase := next, phaseChangedAt := newStamp })

/-- Whether the new condition is older than the last one. -/
def regresses (last : Option Condition) (condition : Condition) : Option Condition :=
  last.filter fun last => condition.observedAt < last.observedAt

/-- `add_condition`; `display` renders an instant. -/
def addCondition (display : DateTime → String) (condition : Condition) :
    EStateM TransitionError TrackedEnvelope Unit := do
  let envelope ← get
  match regresses envelope.execution.conditions.getLast? condition with
  | some last =>
    throw (.monotonicityViolation ("condition observed_at " ++ display condition.observedAt ++
      " regresses past last observed_at " ++ display last.observedAt))
  | none =>
    if condition.status ≠ .true ∧ envelope.execution.conditions.any (fun existing =>
        existing.conditionType = condition.conditionType ∧ existing.status = .true) then
      throw (.monotonicityViolation ("cannot flip condition " ++ condition.conditionType.debug ++ " from True to " ++
        condition.status.debug ++ " (S0.1 §6.7)"))
    else
      modify (setExecution fun execution => { execution with conditions := execution.conditions ++ [condition] })

end TrackedEnvelope

end Aios.Action
