import Aios.Verification.Grammar

/-! # Running verification expressions

`VerificationExecutor` walks an expression from left to right. A primitive runs under a timer, and its
result is a verdict, a timeout or a probe error; the compositions short-circuit and pass statuses up,
a probe error only while it is marked load-bearing.
-/

namespace Aios.Verification

open Aios.Rust

section

variable (surroundings : Surroundings)

inductive VerificationStatus where
  | passed
  | failed
  | timeout
  | probeError
  | skipped
  deriving DecidableEq, Repr

/-- One primitive's result inside a verification run. -/
structure PrimitiveResult where
  primitiveKind : VerificationPrimitive
  passed : Bool
  actual : Json
  expected : Json
  elapsedMs : ℕ
  error : Option String

/-- What the surroundings do during one run, by the place of a term in the expression. -/
structure Surroundings where
  /-- The result of the primitive there, unless its timer ends first. -/
  execution : List ℕ → PrimitiveInvocation → Option PrimitiveResult
  /-- The time the primitive there takes. -/
  elapsedMs : List ℕ → ℕ
  /-- What `remaining_ms` reads at the start of each attempt of the `eventually` there. -/
  remainingMs : List ℕ → List ℕ

/-- The surroundings of the term at one index below. -/
def Surroundings.below (index : ℕ) : Surroundings where
  execution place := surroundings.execution (index :: place)
  elapsedMs place := surroundings.elapsedMs (index :: place)
  remainingMs place := surroundings.remainingMs (index :: place)

structure EvaluationScope where
  underNot : Bool := false

structure NodeOutcome where
  status : VerificationStatus
  perPrimitive : List PrimitiveResult
  loadBearingProbeError : Bool

/-- A probe error that is not load-bearing reaches the parent as a failure. -/
def NodeOutcome.statusForParent (outcome : NodeOutcome) : VerificationStatus :=
  if outcome.status = .probeError ∧ ¬ outcome.loadBearingProbeError then .failed else outcome.status

/-! ## Primitives -/

def isAsciiAlphanumeric (c : Char) : Bool := c.isAlpha || c.isDigit

/-- A word of the text, cut at everything that is not an ASCII letter or digit, is `timeout`. -/
def errorMentionsTimeout (error : String) : Bool :=
  (error.toList.splitOnP fun c => !isAsciiAlphanumeric c).any fun word =>
    word.map Char.toLower == "timeout".toList

def primitiveStatus (result : PrimitiveResult) : VerificationStatus :=
  match result.error with
  | some error => if errorMentionsTimeout error then .timeout else .probeError
  | none => if result.passed then .passed else .failed

def isProbeError (result : PrimitiveResult) : Bool :=
  result.error.any fun error => !errorMentionsTimeout error

def executePrimitiveWithTimeout (invocation : PrimitiveInvocation) (primitiveTimeoutMs : ℕ) : PrimitiveResult :=
  let timeoutMs := max primitiveTimeoutMs 1
  match surroundings.execution [] invocation with
  | some result => { result with elapsedMs := surroundings.elapsedMs [] }
  | none =>
    { primitiveKind := invocation.kind
      passed := false
      actual := .null
      expected := invocation.args
      elapsedMs := surroundings.elapsedMs []
      error := some s!"TIMEOUT after {timeoutMs}ms" }

def evaluatePrimitive (invocation : PrimitiveInvocation) (primitiveTimeoutMs : ℕ) (scope : EvaluationScope) :
    NodeOutcome :=
  let result := executePrimitiveWithTimeout surroundings invocation primitiveTimeoutMs
  let status := primitiveStatus result
  { status
    perPrimitive := [result]
    loadBearingProbeError := status == .probeError && !scope.underNot && isProbeError result }

def shortCircuitedResult (invocation : PrimitiveInvocation) : PrimitiveResult where
  primitiveKind := invocation.kind
  passed := false
  actual := .null
  expected := invocation.args
  elapsedMs := 0
  error := some "SHORT_CIRCUITED"

end

mutual

/-- The results recorded for a term that is not run. -/
def skippedTerm : VerificationGrammar → List PrimitiveResult
  | .primitive invocation => [shortCircuitedResult invocation]
  | .all terms => skippedTerms terms
  | .any terms => skippedTerms terms
  | .not term => skippedTerm term
  | .eventually term _ _ => skippedTerm term

def skippedTerms : List VerificationGrammar → List PrimitiveResult
  | [] => []
  | term :: rest => skippedTerm term ++ skippedTerms rest

end

/-! ## Retries -/

def addRetryCountToActual (actual : Json) (retryCount : ℕ) : Json :=
  match actual with
  | .object fields => .object (insertField fields "retry_count" (.number (toString retryCount)))
  | previous => .object [("last_actual", previous), ("retry_count", .number (toString retryCount))]

def annotateRetryCount (perPrimitive : List PrimitiveResult) (retryCount : ℕ) : List PrimitiveResult :=
  perPrimitive.map fun result => { result with actual := addRetryCountToActual result.actual retryCount }

/-- `str::contains`. -/
def contains (text part : String) : Bool := text.toList.tails.any part.toList.isPrefixOf

def appendRetryCountToError (error : Option String) (retryCount : ℕ) : String :=
  let retrySuffix := s!"retry_count={retryCount}"
  match error with
  | some error => if contains error "retry_count=" then error else s!"{error}; {retrySuffix}"
  | none => retrySuffix

def annotateEventuallyTerminal (perPrimitive : List PrimitiveResult) (status : VerificationStatus)
    (maxDurationMs retryCount : ℕ) : List PrimitiveResult :=
  (annotateRetryCount perPrimitive retryCount).map fun result =>
    match status with
    | .probeError => { result with error := some (appendRetryCountToError result.error retryCount) }
    | .timeout =>
      { result with error := some s!"TIMEOUT after {maxDurationMs}ms; retry_count={retryCount}" }
    | _ => result

/-- `u64::MAX`, where `saturating_mul` and `saturating_add` stop. -/
def U64_MAX : ℕ := 18446744073709551615

def durationToMs (duration : VerificationDuration) : ℕ :=
  let multiplier := match duration.unit with
    | .milliseconds => 1
    | .seconds => 1000
    | .minutes => 60000
    | .hours => 3600000
  min (duration.value * multiplier) U64_MAX

/-- The attempts of `evaluate_eventually`: one for each reading of the remaining time, until a reading
is zero or an attempt passes. -/
def eventuallyAttempts (attempt : ℕ → ℕ → NodeOutcome) (readings : List ℕ) (retryCount : ℕ)
    (lastOutcome : Option NodeOutcome) : ℕ × Option NodeOutcome :=
  match readings with
  | [] => (retryCount, lastOutcome)
  | remaining :: later =>
    if remaining = 0 then (retryCount, lastOutcome)
    else
      let retried := min (retryCount + 1) U64_MAX
      let outcome := attempt retryCount remaining
      let annotated := { outcome with perPrimitive := annotateRetryCount outcome.perPrimitive retried }
      if outcome.status = .passed then (retried, some annotated)
      else eventuallyAttempts attempt later retried (some annotated)

def eventuallyOutcome (term : VerificationGrammar) (maxDurationMs retryCount : ℕ)
    (lastOutcome : Option NodeOutcome) : NodeOutcome :=
  let outcome := lastOutcome.getD ⟨.timeout, skippedTerm term, false⟩
  if outcome.status = .passed then outcome
  else
    let status := if outcome.loadBearingProbeError then .probeError else .timeout
    ⟨status, annotateEventuallyTerminal outcome.perPrimitive status maxDurationMs retryCount,
      outcome.loadBearingProbeError⟩

/-! ## Expressions -/

def negated : VerificationStatus → VerificationStatus
  | .passed => .failed
  | .failed => .passed
  | .timeout => .timeout
  | .probeError => .probeError
  | .skipped => .skipped

mutual

def evaluate (surroundings : Surroundings) (grammar : VerificationGrammar) (primitiveTimeoutMs : ℕ)
    (scope : EvaluationScope) : NodeOutcome :=
  match grammar with
  | .primitive invocation => evaluatePrimitive surroundings invocation primitiveTimeoutMs scope
  | .all terms => evaluateAll surroundings terms primitiveTimeoutMs scope 0 []
  | .any terms => evaluateAny surroundings terms primitiveTimeoutMs scope 0 [] false false
  | .not term =>
    let child := evaluate (surroundings.below 0) term primitiveTimeoutMs { underNot := true }
    ⟨negated child.status, child.perPrimitive, false⟩
  | .eventually term maxDuration _ =>
    let maxDurationMs := max (durationToMs maxDuration) 1
    let (retryCount, lastOutcome) := eventuallyAttempts
      (fun attempt remaining =>
        evaluate (surroundings.below attempt) term (max (min (max primitiveTimeoutMs 1) remaining) 1) scope)
      (surroundings.remainingMs []) 0 none
    eventuallyOutcome term maxDurationMs retryCount lastOutcome

/-- The loop of `evaluate_all`, from the term at `index` on. -/
def evaluateAll (surroundings : Surroundings) (terms : List VerificationGrammar)
    (primitiveTimeoutMs : ℕ) (scope : EvaluationScope) (index : ℕ)
    (perPrimitive : List PrimitiveResult) : NodeOutcome :=
  match terms with
  | [] => ⟨.passed, perPrimitive, false⟩
  | term :: rest =>
    let child := evaluate (surroundings.below index) term primitiveTimeoutMs scope
    let results := perPrimitive ++ child.perPrimitive
    match child.statusForParent with
    | .passed => evaluateAll surroundings rest primitiveTimeoutMs scope (index + 1) results
    | .timeout => ⟨.timeout, results ++ skippedTerms rest, child.loadBearingProbeError⟩
    | .probeError => ⟨.probeError, results ++ skippedTerms rest, child.loadBearingProbeError⟩
    | .failed | .skipped => ⟨.failed, results ++ skippedTerms rest, child.loadBearingProbeError⟩

/-- The loop of `evaluate_any`, from the term at `index` on. -/
def evaluateAny (surroundings : Surroundings) (terms : List VerificationGrammar)
    (primitiveTimeoutMs : ℕ) (scope : EvaluationScope) (index : ℕ)
    (perPrimitive : List PrimitiveResult) (sawTimeout sawLoadBearingProbeError : Bool) : NodeOutcome :=
  match terms with
  | [] =>
    if sawLoadBearingProbeError then ⟨.probeError, perPrimitive, true⟩
    else if sawTimeout then ⟨.timeout, perPrimitive, false⟩
    else ⟨.failed, perPrimitive, false⟩
  | term :: rest =>
    let child := evaluate (surroundings.below index) term primitiveTimeoutMs scope
    let results := perPrimitive ++ child.perPrimitive
    if child.statusForParent = .passed then ⟨.passed, results ++ skippedTerms rest, false⟩
    else
      evaluateAny surroundings rest primitiveTimeoutMs scope (index + 1) results
        (sawTimeout || child.statusForParent == .timeout)
        (sawLoadBearingProbeError || child.loadBearingProbeError)

end

mutual

def primitiveCount : VerificationGrammar → ℕ
  | .primitive _ => 1
  | .all terms => primitiveCounts terms
  | .any terms => primitiveCounts terms
  | .not term => primitiveCount term
  | .eventually term _ _ => primitiveCount term

def primitiveCounts : List VerificationGrammar → ℕ
  | [] => 0
  | term :: rest => primitiveCount term + primitiveCounts rest

end

def perPrimitiveTimeoutMs (timeoutSeconds count : ℕ) : ℕ :=
  let timeoutMs := min (timeoutSeconds * 1000) U64_MAX
  if count = 0 then max timeoutMs 1 else max (timeoutMs / count) 1

/-- `VerificationExecutor`, with the probes inside the surroundings of a run. -/
structure VerificationExecutor where
  defaultTimeoutMs : ℕ

def VerificationExecutor.primitiveTimeoutMs (executor : VerificationExecutor)
    (timeoutSeconds count : ℕ) : ℕ :=
  if executor.defaultTimeoutMs > 0 then executor.defaultTimeoutMs
  else perPrimitiveTimeoutMs timeoutSeconds count

/-- The status and the primitives' results of `execute` on an expression. -/
def VerificationExecutor.execute (executor : VerificationExecutor) (surroundings : Surroundings)
    (grammar : VerificationGrammar) (timeoutSeconds : ℕ) : VerificationStatus × List PrimitiveResult :=
  let outcome := evaluate surroundings grammar
    (executor.primitiveTimeoutMs timeoutSeconds (primitiveCount grammar)) {}
  (outcome.status, outcome.perPrimitive)

end Aios.Verification
