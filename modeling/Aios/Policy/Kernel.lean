import Aios.Lib.Lru
import Aios.Policy.Pipeline

/-! # Evaluations and the in-memory Policy Kernel

Every evaluation leaves the ladder at one of five gates. `gateOf` names the gate from the inputs
alone, without assembling a decision, and `evaluateWithChainFull_verdict` says that the driver's
decision, reason code and constraints are exactly those of the gate. The gates other than the
override deny; no gate of the driver consults the section-17 risk flags.
-/

namespace Aios.Policy

open Aios.Rust Aios.Action DecisionPipeline

/-- Where an evaluation leaves the ladder. -/
inductive Gate where
  | schema
  | unauthenticated
  | hardDeny (denied : HardDenyClass)
  | override
  | floor
deriving DecidableEq, Repr

/-- The part of a decision its consumers act on. -/
structure Verdict where
  decision : Decision
  reasonCode : String
  constraints : Constraints
deriving DecidableEq

def PolicyDecision.verdict (self : PolicyDecision) : Verdict :=
  ⟨self.decision, self.reasonCode, self.constraints⟩

namespace Gate

def verdict : Gate → Verdict
  | schema => ⟨.deny, ReasonCode.SCHEMA_INVALID, {}⟩
  | unauthenticated => ⟨.deny, ReasonCode.SUBJECT_UNAUTHENTICATED, {}⟩
  | hardDeny denied => ⟨.deny, reasonCodeFor denied, {}⟩
  | override => ⟨.allow, ReasonCode.EMERGENCY_OVERRIDE_RELAXED, {}⟩
  | floor => ⟨.deny, ReasonCode.DEFAULT_DENY, {}⟩

/-- The reason code tells the gates apart. -/
theorem verdict_injective : Function.Injective verdict := by
  intro first second same
  have codes := congrArg Verdict.reasonCode same
  cases first with
  | hardDeny denied =>
    cases second with
    | hardDeny other => exact congrArg hardDeny (reasonCodeFor_injective codes)
    | schema => cases denied <;> exact absurd codes (by decide)
    | unauthenticated => cases denied <;> exact absurd codes (by decide)
    | override => cases denied <;> exact absurd codes (by decide)
    | floor => cases denied <;> exact absurd codes (by decide)
  | _ =>
    cases second with
    | hardDeny other => cases other <;> exact absurd codes (by decide)
    | _ => first | rfl | exact absurd codes (by decide)

theorem verdict_allow_iff (gate : Gate) : gate.verdict.decision = .allow ↔ gate = .override := by
  cases gate <;> simp [verdict]

theorem verdict_deny_iff (gate : Gate) : gate.verdict.decision = .deny ↔ gate ≠ .override := by
  cases gate <;> simp [verdict]

end Gate

/-- The hard-deny class of an attached engine. -/
def hardDenied (engine : Option HardDenyEngine) (envelope : ActionEnvelope) (subject : HydratedSubject) :
    Option HardDenyClass :=
  engine.bind (·.check envelope subject)

/-- An attached boundary holds a live grant for the envelope's action and the subject. -/
def overrideCovers (boundary : Option OverrideBoundary) (envelope : ActionEnvelope)
    (subject : HydratedSubject) (now : DateTime) : Bool :=
  match boundary with
  | none => false
  | some boundary => boundary.covers envelope.request.action subject.canonicalSubjectId now

/-- The gate for an envelope whose subject hydrated to `subject?`. -/
def gateOf (envelope : ActionEnvelope) (subject? : Option HydratedSubject)
    (engine : Option HardDenyEngine) (boundary : Option OverrideBoundary) (now : DateTime) : Gate :=
  if schemaInvalid envelope then .schema
  else match subject? with
    | none => .unauthenticated
    | some subject =>
      match hardDenied engine envelope subject with
      | some denied => .hardDeny denied
      | none => if overrideCovers boundary envelope subject now then .override else .floor

theorem gateOf_eq_override_iff (envelope : ActionEnvelope) (subject : HydratedSubject)
    (engine : Option HardDenyEngine) (boundary : Option OverrideBoundary) (now : DateTime) :
    gateOf envelope (some subject) engine boundary now = .override ↔
      schemaInvalid envelope = false ∧ hardDenied engine envelope subject = none ∧
        overrideCovers boundary envelope subject now = true := by
  unfold gateOf
  cases schemaInvalid envelope with
  | true => simp
  | false =>
    cases denied : hardDenied engine envelope subject with
    | some fired => simp [denied]
    | none => cases covered : overrideCovers boundary envelope subject now <;> simp [denied, covered]

/-- Step 4 stops exactly at a fired class. -/
theorem step4_orElse_verdict (readings : Readings) (envelope : ActionEnvelope) (context : PolicyContext)
    (requestHash : String) (engine : Option HardDenyEngine) (rest : PolicyDecision) :
    ((step4EvaluateHardDeniesWithEngine readings envelope context requestHash engine).orElse rest).verdict =
      match hardDenied engine envelope context.subject with
      | some denied => (Gate.hardDeny denied).verdict
      | none => rest.verdict := by
  cases engine with
  | none => rfl
  | some engine =>
    simp only [step4EvaluateHardDeniesWithEngine, hardDenied, Option.bind_some]
    cases engine.check envelope context.subject with
    | none => rfl
    | some denied => rfl

/-- Step 5 stops exactly at a covering grant. -/
theorem step5_orElse_verdict (readings : Readings) (envelope : ActionEnvelope) (context : PolicyContext)
    (requestHash : String) (boundary : Option OverrideBoundary) (rest : PolicyDecision) :
    ((step5EmergencyOverrideWithBoundary readings envelope context requestHash boundary).orElse rest).verdict =
      if overrideCovers boundary envelope context.subject readings.overriddenAt then Gate.override.verdict
      else rest.verdict := by
  cases boundary with
  | none => rfl
  | some boundary =>
    have found := boundary.isOverriddenAt_isSome readings.grantOrder envelope.request.action
      context.subject.canonicalSubjectId readings.overriddenAt
    simp only [step5EmergencyOverrideWithBoundary, overrideCovers, ← found]
    cases boundary.isOverriddenAt readings.grantOrder envelope.request.action
      context.subject.canonicalSubjectId readings.overriddenAt with
    | none => rfl
    | some grant => rfl

/-- The driver decides by the gate and by nothing else. -/
theorem evaluateWithChainFull_verdict (hash : RequestHash) (readings : Readings) (envelope : ActionEnvelope)
    (original : PolicyContext) (hydrated : Option PolicyContext) (engine : Option HardDenyEngine)
    (boundary : Option OverrideBoundary) :
    (evaluateWithChainFull hash readings envelope original hydrated engine boundary).verdict =
      (gateOf envelope (hydrated.map PolicyContext.subject) engine boundary readings.overriddenAt).verdict := by
  unfold evaluateWithChainFull gateOf step1ValidateSchema
  cases schemaInvalid envelope with
  | true => rfl
  | false =>
    cases hydrated with
    | none => rfl
    | some context =>
      -- the remaining steps are `continue` up to step 4, and from step 6 on up to the floor
      change ((step4EvaluateHardDeniesWithEngine readings envelope context _ engine).orElse _).verdict = _
      rw [step4_orElse_verdict, step5_orElse_verdict]
      simp only [Bool.false_eq_true, ↓reduceIte, Option.map_some]
      cases hardDenied engine envelope context.subject with
      | some denied => rfl
      | none =>
        dsimp only
        rw [apply_ite Gate.verdict]
        rfl

/-- The section-17 guard on one evaluation: no allow for an AI subject with a risk flag set. -/
def RiskGuarded (hash : RequestHash) (readings : Readings) (envelope : ActionEnvelope)
    (original context : PolicyContext) (engine : Option HardDenyEngine) (boundary : Option OverrideBoundary) :
    Prop :=
  context.subject.isAi = true → anyRiskFlag envelope = true →
    (evaluateWithChainFull hash readings envelope original (some context) engine boundary).decision ≠ .allow

/-- A risky AI request is kept from an allow exactly by the schema check, by a hard deny, or by the
absence of a covering grant; the risk flags themselves stop nothing. -/
theorem riskGuarded_iff (hash : RequestHash) (readings : Readings) (envelope : ActionEnvelope)
    (original context : PolicyContext) (engine : Option HardDenyEngine) (boundary : Option OverrideBoundary) :
    RiskGuarded hash readings envelope original context engine boundary ↔
      (context.subject.isAi = true → anyRiskFlag envelope = true →
        schemaInvalid envelope = true ∨ (hardDenied engine envelope context.subject).isSome = true ∨
          overrideCovers boundary envelope context.subject readings.overriddenAt = false) := by
  have verdict := evaluateWithChainFull_verdict hash readings envelope original (some context) engine boundary
  have decision := congrArg Verdict.decision verdict
  change (evaluateWithChainFull hash readings envelope original (some context) engine boundary).decision = _
    at decision
  unfold RiskGuarded
  rw [decision, Ne, Gate.verdict_allow_iff, Option.map_some, gateOf_eq_override_iff]
  refine imp_congr_right fun _ => imp_congr_right fun _ => ?_
  cases schemaInvalid envelope <;> cases hardDenied engine envelope context.subject <;>
    cases overrideCovers boundary envelope context.subject readings.overriddenAt <;> simp

/-- The agent of the fixture store, asking for a destructive restart. -/
def devAgent : HydratedSubject where
  canonicalSubjectId := "agent:dev:01HX1111111111111111111111"
  subjectType := .agent
  groups := ["cognitive-core"]
  capabilities := []
  sessionClass := "INTERNAL"
  recoveryMode := false
  isAi := true

def riskyRestart : ActionEnvelope where
  identity := { subjectCanonicalId := "agent:dev", isAi := true }
  request :=
    { action := "service.restart", target := .object [("risk", .object [("destructive", .bool true)])] }

/-- A boundary with one live grant on `service.restart` for every subject. -/
def restartRelaxed : OverrideBoundary where
  grants := (∅ : Table String EmergencyOverride).insert "ovr_01HX4444444444444444444444"
    { overrideId := "ovr_01HX4444444444444444444444"
      grantedBySubjectId := "human:lucky:01HX0000000000000000000000"
      grantedAt := 0
      expiresAt := seconds 3600
      scope := { ruleId := "deny_restart", action := "service.restart" }
      reason := "incident"
      revoked := false }

def devContext : PolicyContext where
  subject := devAgent
  bundleVersion := "polb_v1"
  codeVersion := "aios-policy/0.1.0-T025"

/-- Readings of an evaluation all of whose clock readings agree. -/
def readingsAt (now : DateTime) : Readings where
  hydratedAt := now
  overriddenAt := now
  evaluatedAt := now
  servedAt := now
  decisionUlid := "01HX5555555555555555555555"
  actionUlid := "01HX6666666666666666666666"
  grantOrder := IterationOrder.stored _

/-- The digest the hash gives for the restart request. -/
def restartHash : RequestHash :=
  fun _ => some "6dfc6b16b19faef8fa3453d68cf0252f254c41036f236b1f8cc25c7962b0472f"

/-- The grant relaxes the agent's destructive restart to an allow. -/
theorem riskGuarded_fails_under_grant :
    ¬ RiskGuarded restartHash (readingsAt 0) riskyRestart devContext devContext
      (some HardDenyEngine.newWithDefaults) (some restartRelaxed) := by
  intro guarded
  exact guarded (by decide) (by decide) (by decide)

/-! ## The in-memory Policy Kernel

The kernel state is the decision cache, the override boundary, the active bundle and the rollback
stack beside its fixed parts. `evaluatePolicy` looks the request up in the cache before anything
else; the key is the request hash and the bundle version of the caller's context, and a hit is
served with a new timestamp only.

`KernelOp` collects what a holder of the kernel can do. The `LoadBundle` RPC of the service is
`setActiveBundle` followed by `invalidateForBundle` of the version label it replaced, and
`RollbackBundle` is `rollbackActiveBundle` followed by the same.
-/

structure CacheKey where
  requestHash : String
  bundleVersion : String
deriving DecidableEq, Repr

abbrev DecisionCache := Lru CacheKey PolicyDecision

def DEFAULT_CAPACITY : ℕ := 1024

/-- A capacity of zero collapses to the default. -/
def DecisionCache.new (capacity : ℕ) : DecisionCache :=
  if positive : 0 < capacity then Lru.empty capacity positive
  else Lru.empty DEFAULT_CAPACITY (by decide)

def DEFAULT_ROLLBACK_STACK_CAPACITY : ℕ := 8

structure PolicyKernel where
  hardDenyEngine : Option HardDenyEngine := none
  subjectHydrator : Option SubjectHydrator := none
  decisionCache : Option DecisionCache := none
  activeBundle : Option PolicyBundle := none
  rollbackStack : List PolicyBundle := []
  rollbackCapacity : ℕ := DEFAULT_ROLLBACK_STACK_CAPACITY
  overrideBoundary : Option OverrideBoundary := none

namespace PolicyKernel

variable (self : PolicyKernel)

/-- The production constructor: hydrator, engine and cache attached. -/
def newWithFullChainAndCache (hydrator : SubjectHydrator) (engine : HardDenyEngine) (cache : DecisionCache) :
    PolicyKernel where
  hardDenyEngine := some engine
  subjectHydrator := some hydrator
  decisionCache := some cache

def withOverrideBoundary (boundary : OverrideBoundary) : PolicyKernel :=
  { self with overrideBoundary := some boundary }

/-- `invalidate_for_bundle_flip` on the boundary, when one is attached. -/
def clearGrants : PolicyKernel :=
  { self with overrideBoundary := self.overrideBoundary.map fun boundary => boundary.invalidateForBundleFlip.2 }

/-- Install a bundle; a displaced one goes onto the rollback stack, which drops its oldest when full. -/
def setActiveBundle (bundle : PolicyBundle) : Option PolicyBundle × PolicyKernel :=
  let previous := self.activeBundle
  let stack := match previous with
    | none => self.rollbackStack
    | some displaced =>
        (if self.rollbackCapacity ≤ self.rollbackStack.length ∧ self.rollbackStack ≠ [] then
          self.rollbackStack.drop 1 else self.rollbackStack) ++ [displaced]
  (previous, { self with activeBundle := some bundle, rollbackStack := stack }.clearGrants)

/-- Reinstall the most recently displaced bundle; the answer carries the version it displaces. -/
def rollbackActiveBundle : Option (PolicyBundle × Option String) × PolicyKernel :=
  match self.rollbackStack.getLast? with
  | none => (none, self)
  | some restore =>
      (some (restore, self.activeBundle.map PolicyBundle.bundleVersion),
        { self with activeBundle := some restore, rollbackStack := self.rollbackStack.dropLast }.clearGrants)

def cacheKey (hash : RequestHash) (envelope : ActionEnvelope) (context : PolicyContext) : CacheKey :=
  ⟨(hash envelope.request).getD "", context.bundleVersion⟩

/-- Step 2: the hydrated context, `none` for an unauthenticated subject. -/
def hydrateContext (readings : Readings) (envelope : ActionEnvelope) (context : PolicyContext) :
    Except PolicyError (Option PolicyContext) :=
  match self.subjectHydrator with
  | none => .ok (some context)
  | some hydrator =>
    match hydrator readings.hydratedAt envelope.identity.subjectCanonicalId with
    | .ok subject => .ok (some { context with subject })
    | .error .subjectUnauthenticated => .ok none
    | .error other => .error other

/-- The evaluation behind the cache: hydration and the pipeline. -/
def evaluateUncached (hash : RequestHash) (readings : Readings) (envelope : ActionEnvelope) (context : PolicyContext) :
    Except PolicyError PolicyDecision :=
  match self.hydrateContext readings envelope context with
  | .error failure => .error failure
  | .ok hydrated =>
      .ok (evaluateWithChainFull hash readings envelope context hydrated self.hardDenyEngine
        self.overrideBoundary)

/-- Evaluate an envelope: cache lookup, then the uncached evaluation and a write-through insert. -/
def evaluatePolicy (hash : RequestHash) (readings : Readings) (envelope : ActionEnvelope) (context : PolicyContext) :
    Except PolicyError PolicyDecision × PolicyKernel :=
  match self.decisionCache with
  | none => (self.evaluateUncached hash readings envelope context, self)
  | some cache =>
    match cache.get (cacheKey hash envelope context) with
    | (some cached, cache) =>
        (.ok { cached with evaluatedAt := readings.servedAt }, { self with decisionCache := some cache })
    | (none, cache) =>
      match self.evaluateUncached hash readings envelope context with
      | .error failure => (.error failure, { self with decisionCache := some cache })
      | .ok decision =>
          (.ok decision,
            { self with decisionCache := some (cache.put (cacheKey hash envelope context) decision) })

/-- Drop every cached decision of a bundle version. -/
def invalidateForBundle (bundleVersion : String) : PolicyKernel :=
  { self with decisionCache := self.decisionCache.map (·.retain fun key => key.bundleVersion != bundleVersion) }

def onBoundary (update : OverrideBoundary → OverrideBoundary) : PolicyKernel :=
  { self with overrideBoundary := self.overrideBoundary.map update }

end PolicyKernel

/-- One call of `evaluate_policy`. -/
structure EvaluateCall where
  readings : Readings
  envelope : ActionEnvelope
  context : PolicyContext

inductive KernelOp where
  | evaluate (call : EvaluateCall)
  | requestOverride (req : OverrideRequest) (now : DateTime) (ulid : String)
  | revokeOverride (overrideId : String)
  | pruneExpired (now : DateTime)
  | setActiveBundle (bundle : PolicyBundle)
  | rollbackActiveBundle
  | invalidateForBundle (bundleVersion : String)

namespace PolicyKernel

variable (hash : RequestHash) (self : PolicyKernel)

def answer (hash : RequestHash) (call : EvaluateCall) : Except PolicyError PolicyDecision :=
  (self.evaluatePolicy hash call.readings call.envelope call.context).1

def step : KernelOp → PolicyKernel
  | .evaluate call => (self.evaluatePolicy hash call.readings call.envelope call.context).2
  | .requestOverride req now ulid => self.onBoundary fun boundary => (boundary.requestOverrideAt req now ulid).2
  | .revokeOverride overrideId => self.onBoundary fun boundary => (boundary.revoke overrideId).2
  | .pruneExpired now => self.onBoundary fun boundary => (boundary.pruneExpired now).2
  | .setActiveBundle bundle => (self.setActiveBundle bundle).2
  | .rollbackActiveBundle => self.rollbackActiveBundle.2
  | .invalidateForBundle bundleVersion => self.invalidateForBundle bundleVersion

/-- The state after a sequence of operations. -/
def runFrom (start : PolicyKernel) (ops : List KernelOp) : PolicyKernel :=
  StepRun.run (step hash) start ops

end PolicyKernel

end Aios.Policy
