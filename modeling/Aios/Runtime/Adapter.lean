import Aios.Lib.Table
import Aios.Runtime.Lifecycle

/-! # Adapters, dispatch kinds and rollback

The parts of an adapter manifest the pipeline reads, the registry lookup, the dispatch-kind table
and the rollback driver. The registry is a hash map: a lookup by target takes the first live adapter
in the map's own iteration order, which is part of the registry value.
-/

namespace Aios.Runtime

open Aios.Rust Aios.Action

inductive AdapterStability where
  | registered
  | experimental
  | stable
  | deprecated
  | retired
deriving DecidableEq, Repr

structure AdapterActionDeclaration where
  actionKind : String
  rollbackStrategy : String
deriving DecidableEq, Repr

structure AdapterManifest where
  adapterId : String
  declaredStability : AdapterStability
  dispatchKind : ActionDispatchKind
  declaredActions : List AdapterActionDeclaration
deriving DecidableEq, Repr

structure RegisteredAdapter where
  manifest : AdapterManifest
  registeredAt : DateTime
deriving DecidableEq, Repr

structure InMemoryAdapterRegistry where
  adapters : Table String RegisteredAdapter := ∅
  order : IterationOrder RegisteredAdapter := .stored _

/-- The first live adapter that declares the action kind. -/
def InMemoryAdapterRegistry.lookupForTarget (self : InMemoryAdapterRegistry) (target : String) :
    Option RegisteredAdapter :=
  (self.order.arrange self.adapters.values).find? fun registered =>
    registered.manifest.declaredStability != .retired &&
      registered.manifest.declaredActions.any fun declared => declared.actionKind == target

def recoveryOnlyActionKind (actionKind : String) : Bool :=
  actionKind == "hardware.accept_drift_substrate" || actionKind == "network.resolver.set_allowlist" ||
    actionKind == "recovery.firstboot.reset"

def adapterRequiresRecovery (manifest : AdapterManifest) (actionKind : String) : Bool :=
  manifest.declaredActions.any fun declared =>
    declared.actionKind == actionKind && recoveryOnlyActionKind declared.actionKind

/-! ## Dispatch kind and queue class -/

structure DispatchKindInputs where
  isSimulate : Bool
  isAi : Bool
  riskPrivileged : Bool
  manifestStable : Bool

def computeDispatchKind (manifestKind : ActionDispatchKind) (inputs : DispatchKindInputs) :
    ActionDispatchKind :=
  if inputs.isSimulate then .dryRun
  else if inputs.isAi || inputs.riskPrivileged then .isolatedSandbox
  else if manifestKind = .inProcessRpc ∧ inputs.manifestStable = true then .inProcessRpc
  else .subprocessFork

def selectQueueClass (envelope : ActionEnvelope) (recoveryMode : Bool) : QueueClass :=
  if recoveryMode then .recoveryPriority
  else if envelope.identity.isAi then .agentProposal
  else .interactive

def AI_INTERACTIVE_DOWNGRADE_MARKER : String := "AI_INTERACTIVE_QUEUE_DOWNGRADE"

def applyAiInteractiveDowngrade (context : ActionContext) (isAi : Bool) : Option String :=
  if isAi = true ∧ context.queueClass = .interactive then some AI_INTERACTIVE_DOWNGRADE_MARKER else none

/-! ## Rollback -/

inductive RollbackStrategy where
  | unspecified
  | none
  | idempotentReverse
  | checkpointBased
  | externalRequired
deriving DecidableEq, Repr

/-- The `{:?}` form of a string, as far as its characters are printable or have a short escape. -/
def debugForm (text : String) : String :=
  "\"" ++ String.join (text.toList.map escaped) ++ "\""
where
  escaped : Char → String
    | '"' => "\\\""
    | '\\' => "\\\\"
    | '\n' => "\\n"
    | '\r' => "\\r"
    | '\t' => "\\t"
    | '\x00' => "\\0"
    | c => c.toString

def RollbackStrategy.parseManifestValue (raw : String) : Except RuntimeError RollbackStrategy :=
  match trim raw with
  | "" => .ok .unspecified
  | "ROLLBACK_STRATEGY_UNSPECIFIED" => .ok .unspecified
  | "NONE" => .ok .none
  | "IDEMPOTENT_REVERSE" => .ok .idempotentReverse
  | "CHECKPOINT_BASED" => .ok .checkpointBased
  | "EXTERNAL_REQUIRED" => .ok .externalRequired
  | other => .error (.manifestInvalid ("unknown rollback_strategy: " ++ debugForm other))

/-- The strategy the manifest declares for an action kind; an undeclared kind has none specified. -/
def AdapterManifest.rollbackStrategyFor (manifest : AdapterManifest) (actionKind : String) :
    Except RuntimeError RollbackStrategy :=
  match manifest.declaredActions.find? fun declared => declared.actionKind == actionKind with
  | some declared => RollbackStrategy.parseManifestValue declared.rollbackStrategy
  | none => .ok .unspecified

/-- An unreadable strategy is the only failure of the strategy lookup. -/
theorem AdapterManifest.rollbackStrategyFor_eq_error {manifest : AdapterManifest} {actionKind : String}
    {failure : RuntimeError} (failed : manifest.rollbackStrategyFor actionKind = .error failure) :
    ∃ detail, failure = .manifestInvalid detail := by
  unfold rollbackStrategyFor at failed
  split at failed
  · unfold RollbackStrategy.parseManifestValue at failed
    split at failed <;> cases failed
    exact ⟨_, rfl⟩
  · cases failed

inductive RollbackFailureMode where
  | succeedSimulated
  | failSimulated
deriving DecidableEq, Repr

structure RollbackDriver where
  failureMode : RollbackFailureMode := .succeedSimulated
  injectVerifyFailure : Bool := false
deriving DecidableEq, Repr

namespace RollbackDriver

def runRollback (self : RollbackDriver) : RollbackStrategy → RollbackOutcome
  | .none | .unspecified => .notAttempted
  | .externalRequired => .notApplicable
  | .idempotentReverse | .checkpointBased =>
      match self.failureMode with
      | .succeedSimulated => .succeeded
      | .failSimulated => .failed

def classifyTerminal : RollbackOutcome → ActionLifecycleState
  | .succeeded => .rolledBack
  | .failed => .rollbackFailed
  | .notAttempted | .notApplicable => .failed

end RollbackDriver

end Aios.Runtime
