import Aios.Policy.Kernel

/-! # The decision cache over whole runs

A run is traced with one ghost: for each cache key, the gate at which the evaluation that last
filled the key stopped. Every cached decision carries the verdict of its ghost gate. Since the key
names neither the subject nor the override grants nor the time, a hit may serve the verdict of a
different gate than the call's own, and both whole-run laws of the cache come down to that: the
cache is transparent exactly when every hit meets its own gate again, and hard denies dominate
exactly when no hard-denied call hits an entry that an override filled.
-/

namespace Aios.Policy

open Aios.Rust Aios.Action DecisionPipeline

namespace PolicyKernel

variable (self : PolicyKernel) (hash : RequestHash) (call : EvaluateCall)

variable (start : PolicyKernel) (ops : List KernelOp)

/-- The gate of a call in a kernel state, from hydration, engine, grants and clock. -/
def callGate : Except PolicyError Gate :=
  (self.hydrateContext call.readings call.envelope call.context).map fun hydrated =>
    gateOf call.envelope (hydrated.map PolicyContext.subject) self.hardDenyEngine self.overrideBoundary
      call.readings.overriddenAt

/-- The cached decision a call would be served. -/
def cached : Option PolicyDecision :=
  self.decisionCache.bind (·.peek (cacheKey hash call.envelope call.context))

def withoutCache : PolicyKernel := { self with decisionCache := none }

theorem evaluateUncached_verdict :
    (self.evaluateUncached hash call.readings call.envelope call.context).map PolicyDecision.verdict =
      (self.callGate call).map Gate.verdict := by
  unfold evaluateUncached callGate
  cases self.hydrateContext call.readings call.envelope call.context with
  | error failure => rfl
  | ok hydrated =>
    simp only [Except.map]
    rw [evaluateWithChainFull_verdict]

/-- A call is answered from the cache if it holds the key, and by the pipeline otherwise. -/
theorem answer_verdict :
    (self.answer hash call).map PolicyDecision.verdict =
      match self.cached hash call with
      | some decision => .ok decision.verdict
      | none => (self.callGate call).map Gate.verdict := by
  rw [← evaluateUncached_verdict self hash call]
  unfold answer evaluatePolicy cached
  cases self.decisionCache with
  | none => rfl
  | some cache =>
    simp only [Option.bind_some, ← cache.get_fst]
    rcases cache.get (cacheKey hash call.envelope call.context) with ⟨found, touched⟩
    cases found with
    | some decision => rfl
    | none =>
      cases self.evaluateUncached hash call.readings call.envelope call.context with
      | error failure => rfl
      | ok decision => rfl

theorem answer_withoutCache :
    (self.withoutCache.answer hash call).map PolicyDecision.verdict = (self.callGate call).map Gate.verdict :=
  answer_verdict self.withoutCache hash call

/-- The cache influences no other part of the state. -/
theorem step_withoutCache (self : PolicyKernel) (op : KernelOp) :
    step hash self.withoutCache op = (step hash self op).withoutCache := by
  cases op with
  | evaluate call =>
    simp only [step, evaluatePolicy, withoutCache]
    cases self.decisionCache with
    | none => rfl
    | some cache =>
      dsimp only
      rcases cache.get (cacheKey hash call.envelope call.context) with ⟨found, touched⟩
      cases found with
      | some decision => rfl
      | none => cases self.evaluateUncached hash call.readings call.envelope call.context <;> rfl
  | rollbackActiveBundle =>
    simp only [step, rollbackActiveBundle, withoutCache]
    cases self.rollbackStack.getLast? <;> rfl
  | _ => rfl

theorem runFrom_withoutCache : runFrom hash start.withoutCache ops = (runFrom hash start ops).withoutCache := by
  induction ops generalizing start with
  | nil => rfl
  | cons op rest ih =>
    simp only [runFrom, StepRun.run_cons] at ih ⊢
    rw [step_withoutCache, ih]

/-- No operation replaces the engine or the hydrator. -/
theorem step_fixed (self : PolicyKernel) (op : KernelOp) :
    (step hash self op).hardDenyEngine = self.hardDenyEngine ∧
      (step hash self op).subjectHydrator = self.subjectHydrator := by
  cases op with
  | evaluate call =>
    simp only [step, evaluatePolicy]
    cases self.decisionCache with
    | none => exact ⟨rfl, rfl⟩
    | some cache =>
      dsimp only
      rcases cache.get (cacheKey hash call.envelope call.context) with ⟨found, touched⟩
      cases found with
      | some decision => exact ⟨rfl, rfl⟩
      | none =>
        cases self.evaluateUncached hash call.readings call.envelope call.context <;> exact ⟨rfl, rfl⟩
  | rollbackActiveBundle =>
    simp only [step, rollbackActiveBundle]
    cases self.rollbackStack.getLast? <;> exact ⟨rfl, rfl⟩
  | _ => exact ⟨rfl, rfl⟩

theorem runFrom_fixed :
    (runFrom hash start ops).hardDenyEngine = start.hardDenyEngine ∧
      (runFrom hash start ops).subjectHydrator = start.subjectHydrator := by
  apply StepRun.run_invariant fun kernel : PolicyKernel =>
    kernel.hardDenyEngine = start.hardDenyEngine ∧ kernel.subjectHydrator = start.subjectHydrator
  · intro kernel op fixed
    rw [(step_fixed hash kernel op).1, (step_fixed hash kernel op).2]
    exact fixed
  · exact ⟨rfl, rfl⟩

end PolicyKernel

/-! ## Tracing who filled an entry -/

/-- What an evaluation does to the cache: it keeps what it holds, or it fills its own key with the
decision the pipeline made. -/
theorem PolicyKernel.evaluate_cache_cases {self : PolicyKernel} {hash : RequestHash} {call : EvaluateCall}
    {after : DecisionCache} (attached : (self.step hash (.evaluate call)).decisionCache = some after) :
    ∃ before, self.decisionCache = some before ∧
      (((self.cached hash call).isSome ∨
          ∃ failure, self.evaluateUncached hash call.readings call.envelope call.context = .error failure) ∧
        (∀ key decision, after.peek key = some decision → before.peek key = some decision) ∨
      self.cached hash call = none ∧
        ∃ fresh, self.evaluateUncached hash call.readings call.envelope call.context = .ok fresh ∧
          after.peek (cacheKey hash call.envelope call.context) = some fresh ∧
          ∀ key decision, key ≠ cacheKey hash call.envelope call.context →
            after.peek key = some decision → before.peek key = some decision) := by
  simp only [step, evaluatePolicy] at attached
  cases held : self.decisionCache with
  | none => simp [held] at attached
  | some before =>
    refine ⟨before, rfl, ?_⟩
    have found := before.get_fst (cacheKey hash call.envelope call.context)
    have keeps : ∀ key decision, (before.get (cacheKey hash call.envelope call.context)).2.peek key = some decision →
        before.peek key = some decision := fun key decision => before.peek_get_eq_some
    rw [held] at attached
    simp only [cached, held, Option.bind_some, ← found]
    cases looked : before.get (cacheKey hash call.envelope call.context) with
    | mk served touched =>
      simp only [looked] at attached keeps ⊢
      cases served with
      | some hit =>
        cases attached
        exact .inl ⟨.inl rfl, keeps⟩
      | none =>
        cases ran : self.evaluateUncached hash call.readings call.envelope call.context with
        | error failure =>
          simp only [ran, Option.some.injEq] at attached
          subst attached
          exact .inl ⟨.inr ⟨failure, rfl⟩, keeps⟩
        | ok fresh =>
          simp only [ran, Option.some.injEq] at attached
          subst attached
          refine .inr ⟨rfl, fresh, rfl, Lru.peek_put_self .., ?_⟩
          exact fun key decision other stored => keeps key decision (Lru.peek_put_of_ne other stored)

/-- A kernel with the ghost record of the gate each key was last filled at. -/
structure TracedKernel where
  kernel : PolicyKernel
  filledAt : CacheKey → Option Gate := fun _ => none

namespace TracedKernel

variable {self : TracedKernel} (hash : RequestHash) (start : PolicyKernel)

/-- An evaluation that misses and hydrates records its own gate under its key. -/
def record (self : TracedKernel) (hash : RequestHash) (call : EvaluateCall) : CacheKey → Option Gate :=
  match self.kernel.cached hash call, self.kernel.callGate call with
  | none, .ok gate =>
      Function.update self.filledAt (PolicyKernel.cacheKey hash call.envelope call.context) (some gate)
  | _, _ => self.filledAt

def step (self : TracedKernel) (op : KernelOp) : TracedKernel where
  kernel := self.kernel.step hash op
  filledAt := match op with
    | .evaluate call => self.record hash call
    | _ => self.filledAt

def runFrom (ops : List KernelOp) : TracedKernel :=
  StepRun.run (step hash) { kernel := start } ops

/-- The ghost watches the run and does not steer it. -/
theorem runFrom_kernel (ops : List KernelOp) :
    (runFrom hash start ops).kernel = PolicyKernel.runFrom hash start ops := by
  suffices traced : ∀ self : TracedKernel,
      (StepRun.run (step hash) self ops).kernel = StepRun.run (PolicyKernel.step hash) self.kernel ops by
    exact traced _
  induction ops with
  | nil => exact fun _ => rfl
  | cons op rest ih => exact fun self => ih (step hash self op)

/-- Every cached decision has the verdict of the gate recorded for its key. -/
def EntriesFilled (self : TracedKernel) : Prop :=
  ∀ cache key decision, self.kernel.decisionCache = some cache → cache.peek key = some decision →
    ∃ gate, self.filledAt key = some gate ∧ decision.verdict = gate.verdict

theorem EntriesFilled.evaluate (filled : self.EntriesFilled) (hash : RequestHash) (call : EvaluateCall) :
    (self.step hash (.evaluate call)).EntriesFilled := by
  intro after key decision attached stored
  have uncached := self.kernel.evaluateUncached_verdict hash call
  obtain ⟨before, held, ⟨why, keeps⟩ | ⟨missed, fresh, ran, own, keeps⟩⟩ :=
    PolicyKernel.evaluate_cache_cases attached
  · have unrecorded : self.record hash call = self.filledAt := by
      unfold record
      obtain served | ⟨failure, ran⟩ := why
      · obtain ⟨hit, served⟩ := Option.isSome_iff_exists.mp served
        simp only [served]
      · rw [ran] at uncached
        cases gate : self.kernel.callGate call with
        | error other => cases self.kernel.cached hash call <;> rfl
        | ok own => simp [gate, Except.map] at uncached
    obtain ⟨gate, recorded, verdict⟩ := filled before key decision held (keeps key decision stored)
    exact ⟨gate, by rw [← recorded]; exact congrFun unrecorded key, verdict⟩
  · rw [ran] at uncached
    cases gate : self.kernel.callGate call with
    | error other => simp [gate, Except.map] at uncached
    | ok ownGate =>
      simp only [gate, Except.map, Except.ok.injEq] at uncached
      have recorded : self.record hash call = Function.update self.filledAt
          (PolicyKernel.cacheKey hash call.envelope call.context) (some ownGate) := by
        simp only [record, missed, gate]
      by_cases same : key = PolicyKernel.cacheKey hash call.envelope call.context
      · subst same
        rw [own, Option.some.injEq] at stored
        refine ⟨ownGate, ?_, stored ▸ uncached⟩
        exact (congrFun recorded _).trans (Function.update_self ..)
      · obtain ⟨other, earlier, verdict⟩ := filled before key decision held (keeps key decision same stored)
        refine ⟨other, ?_, verdict⟩
        rw [← earlier]
        exact (congrFun recorded key).trans (Function.update_of_ne same ..)

/-- No other operation adds an entry. -/
theorem EntriesFilled.step (filled : self.EntriesFilled) (hash : RequestHash) (op : KernelOp) :
    (self.step hash op).EntriesFilled := by
  cases op with
  | evaluate call => exact filled.evaluate hash call
  | rollbackActiveBundle =>
    intro cache key decision attached stored
    simp only [TracedKernel.step, PolicyKernel.step, PolicyKernel.rollbackActiveBundle] at attached
    refine filled cache key decision ?_ stored
    cases top : self.kernel.rollbackStack.getLast? <;> simpa [top, PolicyKernel.clearGrants] using attached
  | invalidateForBundle bundleVersion =>
    intro cache key decision attached stored
    simp only [TracedKernel.step, PolicyKernel.step, PolicyKernel.invalidateForBundle,
      Option.map_eq_some_iff] at attached
    obtain ⟨before, held, rfl⟩ := attached
    exact filled before key decision held (Lru.peek_retain_eq_some stored)
  | _ => exact filled

theorem runFrom_entriesFilled (base : PolicyKernel) (capacity : ℕ) (ops : List KernelOp) :
    (runFrom hash { base with decisionCache := some (DecisionCache.new capacity) } ops).EntriesFilled := by
  apply StepRun.run_invariant EntriesFilled fun self op filled => filled.step hash op
  intro cache key decision attached stored
  cases attached
  unfold DecisionCache.new at stored
  split_ifs at stored <;> cases stored

/-- A hit is served the verdict of the recorded gate. -/
theorem EntriesFilled.answer_hit (filled : self.EntriesFilled) {hash : RequestHash} {call : EvaluateCall}
    (hit : (self.kernel.cached hash call).isSome) :
    ∃ gate, self.filledAt (PolicyKernel.cacheKey hash call.envelope call.context) = some gate ∧
      (self.kernel.answer hash call).map PolicyDecision.verdict = .ok gate.verdict := by
  obtain ⟨decision, served⟩ := Option.isSome_iff_exists.mp hit
  obtain ⟨cache, attached, stored⟩ := Option.bind_eq_some_iff.mp served
  obtain ⟨gate, recorded, verdict⟩ := filled cache _ decision attached stored
  refine ⟨gate, recorded, ?_⟩
  rw [self.kernel.answer_verdict, served]
  exact congrArg Except.ok verdict

end TracedKernel

variable (hash : RequestHash)

/-! ## Transparency -/

section

variable (base : PolicyKernel) (capacity : ℕ) (ops : List KernelOp)

/-- A kernel with an empty decision cache attached. -/
def PolicyKernel.withCache (self : PolicyKernel) (capacity : ℕ) : PolicyKernel :=
  { self with decisionCache := some (DecisionCache.new capacity) }

/-- Every evaluation of the run has the verdict it has when the same run is made without a cache. -/
def CacheTransparent : Prop :=
  ∀ before call rest, ops = before ++ .evaluate call :: rest →
    ((PolicyKernel.runFrom hash (base.withCache capacity) before).answer hash call).map PolicyDecision.verdict =
      ((PolicyKernel.runFrom hash base.withoutCache before).answer hash call).map PolicyDecision.verdict

/-- Every hit of the run finds an entry filled at the gate of the hitting call itself. -/
def HitsMeetOwnGate : Prop :=
  ∀ before call rest gate, ops = before ++ .evaluate call :: rest →
    ((TracedKernel.runFrom hash (base.withCache capacity) before).kernel.cached hash call).isSome →
    (TracedKernel.runFrom hash (base.withCache capacity) before).filledAt
      (PolicyKernel.cacheKey hash call.envelope call.context) = some gate →
    (TracedKernel.runFrom hash (base.withCache capacity) before).kernel.callGate call = .ok gate

/-- The cache is transparent along a run exactly when every hit meets its own gate. -/
theorem cacheTransparent_iff : CacheTransparent hash base capacity ops ↔ HitsMeetOwnGate hash base capacity ops := by
  have atCut : ∀ before call,
      ((PolicyKernel.runFrom hash (base.withCache capacity) before).answer hash call).map PolicyDecision.verdict =
        ((PolicyKernel.runFrom hash base.withoutCache before).answer hash call).map PolicyDecision.verdict ↔
      ∀ gate, ((TracedKernel.runFrom hash (base.withCache capacity) before).kernel.cached hash call).isSome →
        (TracedKernel.runFrom hash (base.withCache capacity) before).filledAt
          (PolicyKernel.cacheKey hash call.envelope call.context) = some gate →
        (TracedKernel.runFrom hash (base.withCache capacity) before).kernel.callGate call = .ok gate := by
    intro before call
    have filled := TracedKernel.runFrom_entriesFilled hash base capacity before
    change (TracedKernel.runFrom hash (base.withCache capacity) before).EntriesFilled at filled
    have plain : PolicyKernel.runFrom hash base.withoutCache before =
        (PolicyKernel.runFrom hash (base.withCache capacity) before).withoutCache :=
      PolicyKernel.runFrom_withoutCache hash (base.withCache capacity) before
    rw [plain, PolicyKernel.answer_withoutCache, ← TracedKernel.runFrom_kernel]
    generalize TracedKernel.runFrom hash (base.withCache capacity) before = traced at filled
    cases found : traced.kernel.cached hash call with
    | none =>
      rw [traced.kernel.answer_verdict, found]
      simp
    | some decision =>
      obtain ⟨gate, recorded, served⟩ := filled.answer_hit (Option.isSome_of_eq_some found)
      rw [served, recorded]
      cases own : traced.kernel.callGate call with
      | error failure => simp [Except.map]
      | ok other => simp [Except.map, Gate.verdict_injective.eq_iff, eq_comm]
  constructor
  · intro transparent before call rest gate split
    exact (atCut before call).mp (transparent before call rest split) gate
  · intro own before call rest split
    exact (atCut before call).mpr fun gate => own before call rest gate split

end

/-! ## Hard-deny dominance -/

section

variable (hydrator : SubjectHydrator) (engine : HardDenyEngine)

variable (capacity : ℕ) (boundary : OverrideBoundary) (ops : List KernelOp)

/-- The production kernel with an empty cache and a boundary attached. -/
def PolicyKernel.production : PolicyKernel :=
  (newWithFullChainAndCache hydrator engine (DecisionCache.new capacity)).withOverrideBoundary boundary

/-- Every evaluation of the run whose envelope and hydrated subject fire the engine returns `Deny`. -/
def HardDenyDominates : Prop :=
  ∀ before call rest subject denied, ops = before ++ .evaluate call :: rest →
    hydrator call.readings.hydratedAt call.envelope.identity.subjectCanonicalId = .ok subject →
    engine.check call.envelope subject = some denied →
    ∃ decision, (PolicyKernel.runFrom hash (PolicyKernel.production hydrator engine capacity boundary) before).answer
      hash call = .ok decision ∧ decision.decision = .deny

/-- No evaluation whose envelope and hydrated subject fire the engine finds an entry under its key
that was filled at the override gate. -/
def NoOverrideFilledHit : Prop :=
  ∀ before call rest subject denied, ops = before ++ .evaluate call :: rest →
    hydrator call.readings.hydratedAt call.envelope.identity.subjectCanonicalId = .ok subject →
    engine.check call.envelope subject = some denied →
    ((TracedKernel.runFrom hash (PolicyKernel.production hydrator engine capacity boundary) before).kernel.cached
      hash call).isSome →
    (TracedKernel.runFrom hash (PolicyKernel.production hydrator engine capacity boundary) before).filledAt
      (PolicyKernel.cacheKey hash call.envelope call.context) ≠ some .override

/-- The pipeline itself denies whatever the engine fires on. -/
theorem PolicyKernel.callGate_denied {self : PolicyKernel} {call : EvaluateCall} {hydrator : SubjectHydrator}
    {engine : HardDenyEngine} {subject : HydratedSubject} {denied : HardDenyClass}
    (hydrates : self.subjectHydrator = some hydrator) (checks : self.hardDenyEngine = some engine)
    (known : hydrator call.readings.hydratedAt call.envelope.identity.subjectCanonicalId = .ok subject)
    (fires : engine.check call.envelope subject = some denied) :
    ∃ gate, self.callGate call = .ok gate ∧ gate ≠ .override := by
  have context : self.hydrateContext call.readings call.envelope call.context =
      .ok (some { call.context with subject }) := by
    simp only [hydrateContext, hydrates, known]
  refine ⟨_, by rw [callGate, context]; rfl, ?_⟩
  intro overridden
  change gateOf call.envelope (some subject) self.hardDenyEngine _ _ = .override at overridden
  rw [gateOf_eq_override_iff, hardDenied, checks] at overridden
  simp [fires] at overridden

theorem map_verdict_eq_ok_iff {outcome : Except PolicyError PolicyDecision} {verdict : Verdict} :
    outcome.map PolicyDecision.verdict = .ok verdict ↔
      ∃ decision, outcome = .ok decision ∧ decision.verdict = verdict := by
  cases outcome <;> simp [Except.map]

/-- Hard denies dominate a run exactly when no hard-denied call hits an override-filled entry. -/
theorem hardDenyDominates_iff :
    HardDenyDominates hash hydrator engine capacity boundary ops ↔
      NoOverrideFilledHit hash hydrator engine capacity boundary ops := by
  have atCut : ∀ before call subject denied,
      hydrator call.readings.hydratedAt call.envelope.identity.subjectCanonicalId = .ok subject →
      engine.check call.envelope subject = some denied →
      ((∃ decision, (PolicyKernel.runFrom hash
        (PolicyKernel.production hydrator engine capacity boundary) before).answer
          hash call = .ok decision ∧ decision.decision = .deny) ↔
        (((TracedKernel.runFrom hash (PolicyKernel.production hydrator engine capacity boundary) before).kernel.cached
            hash call).isSome →
          (TracedKernel.runFrom hash (PolicyKernel.production hydrator engine capacity boundary) before).filledAt
            (PolicyKernel.cacheKey hash call.envelope call.context) ≠ some .override)) := by
    intro before call subject denied known fires
    have filled := TracedKernel.runFrom_entriesFilled hash
      (PolicyKernel.production hydrator engine capacity boundary) capacity before
    change (TracedKernel.runFrom hash (PolicyKernel.production hydrator engine capacity boundary) before).EntriesFilled
      at filled
    obtain ⟨checks, hydrates⟩ := PolicyKernel.runFrom_fixed hash
      (PolicyKernel.production hydrator engine capacity boundary) before
    rw [← TracedKernel.runFrom_kernel] at checks hydrates ⊢
    generalize TracedKernel.runFrom hash (PolicyKernel.production hydrator engine capacity boundary) before =
      traced at filled checks hydrates
    obtain ⟨own, gate, notOverride⟩ := PolicyKernel.callGate_denied hydrates checks known fires
    have denies : (∃ decision, traced.kernel.answer hash call = .ok decision ∧ decision.decision = .deny) ↔
        ∃ verdict, (traced.kernel.answer hash call).map PolicyDecision.verdict = .ok verdict ∧
          verdict.decision = .deny := by
      simp only [map_verdict_eq_ok_iff]
      constructor
      · rintro ⟨decision, answered, deny⟩
        exact ⟨decision.verdict, ⟨decision, answered, rfl⟩, deny⟩
      · rintro ⟨_, ⟨decision, answered, rfl⟩, deny⟩
        exact ⟨decision, answered, deny⟩
    rw [denies]
    cases found : traced.kernel.cached hash call with
    | none =>
      rw [traced.kernel.answer_verdict, found, gate]
      simpa [Except.map] using (Gate.verdict_deny_iff own).mpr notOverride
    | some decision =>
      obtain ⟨recordedGate, recorded, served⟩ := filled.answer_hit (Option.isSome_of_eq_some found)
      rw [served, recorded]
      simp [Gate.verdict_deny_iff]
  constructor
  · intro dominates before call rest subject denied split known fires
    exact (atCut before call subject denied known fires).mp
      (dominates before call rest subject denied split known fires)
  · intro noHit before call rest subject denied split known fires
    exact (atCut before call subject denied known fires).mpr
      (noHit before call rest subject denied split known fires)

end

/-! ## A secret revealed through the cache -/

/-- The request both subjects of the example make. -/
def revealRequest : Request := { action := "secret.reveal", target := .object [] }

/-- The digest the hash gives for it. -/
def revealHash : RequestHash :=
  fun _ => some "dba5893c38a8917bd2ef0ec3e3a3fe793f4b4a1ede4617a6e81a675d102dba0d"

def revealCall (subject : String) (isAi : Bool) (now : DateTime) : EvaluateCall where
  readings := readingsAt now
  envelope := { identity := { subjectCanonicalId := subject, isAi }, request := revealRequest }
  context := devContext

/-- The human operator of the fixture store grants himself the reveal for one hour. -/
def revealGrant : OverrideRequest where
  grantedBySubject :=
    { canonicalSubjectId := "human:lucky:01HX0000000000000000000000", subjectType := .human
      groups := ["operators"], capabilities := [], sessionClass := "INTERNAL", recoveryMode := false
      isAi := false }
  scope := { ruleId := "deny_reveal", action := "secret.reveal", subjects :=
    ["human:lucky:01HX0000000000000000000000"] }
  reason := "incident"
  ttlSeconds := 3600

/-- The human's relaxed reveal is cached; the agent's identical request then hits it. -/
def revealRun : List KernelOp :=
  [.requestOverride revealGrant 0 "01HX4444444444444444444444",
   .evaluate (revealCall "human:lucky" false 1),
   .evaluate (revealCall "agent:dev" true 2)]

/-- The agent's raw secret read fires the engine and is served the human's allow. -/
theorem hardDenyDominates_fails_on_reveal :
    ¬ HardDenyDominates revealHash InMemoryHydrator.withFixtures.hydrate HardDenyEngine.newWithDefaults 1024 {}
      revealRun := by
  intro dominates
  obtain ⟨decision, answered, deny⟩ :=
    dominates (revealRun.take 2) (revealCall "agent:dev" true 2) [] devAgent .secretRawReadByAi rfl rfl rfl
  have allowed : ((PolicyKernel.runFrom revealHash (PolicyKernel.production
      InMemoryHydrator.withFixtures.hydrate HardDenyEngine.newWithDefaults 1024 {}) (revealRun.take 2)).answer
      revealHash (revealCall "agent:dev" true 2)).map PolicyDecision.decision = .ok .allow := rfl
  rw [answered] at allowed
  have allow : decision.decision = .allow := Except.ok.inj allowed
  rw [allow] at deny
  cases deny

/-- The same run without a cache denies the agent, so the cache is not transparent. -/
theorem cacheTransparent_fails_on_reveal :
    ¬ CacheTransparent revealHash
      { hardDenyEngine := some HardDenyEngine.newWithDefaults
        subjectHydrator := some InMemoryHydrator.withFixtures.hydrate
        overrideBoundary := some {} } 1024 revealRun := by
  intro transparent
  have same := transparent (revealRun.take 2) (revealCall "agent:dev" true 2) [] rfl
  exact absurd (congrArg (Except.map Verdict.decision) same) (by decide)

end Aios.Policy
