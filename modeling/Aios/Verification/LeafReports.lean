import Aios.Verification.Executor
import Mathlib.Data.List.Forall2
import Mathlib.Tactic.Common

/-! # One result for every primitive of an expression

An evaluation leaves one result for every leaf of the expression, in source order: the compositions that
stop early fill the places of the terms they skip, and an `eventually` keeps the results of its last
attempt only. The course of an evaluation says beside each leaf whether it was run in the attempt that
is reported, and a result is marked as short-circuited at none that was.
-/

namespace Aios.Verification

open Aios.Rust

/-! ## Verdicts of the tiers -/

/-- `ProbeVerdict`, which the tiers build by these three functions only. -/
inductive ProbeVerdict where
  | passed (actual : Json)
  | failed (actual : Json)
  | probeError (reason : String)

/-- `primitive_result`, the one place where a tier's verdict becomes a result. -/
def primitiveResult (primitive : VerificationPrimitive) (expected : Json) : ProbeVerdict → PrimitiveResult
  | .passed actual => ⟨primitive, true, actual, expected, 0, none⟩
  | .failed actual => ⟨primitive, false, actual, expected, 0, none⟩
  | .probeError reason => ⟨primitive, false, .null, expected, 0, some ("PROBE_ERROR: " ++ reason)⟩

/-- What the probes and the clock give in one run, by the place of a term in the expression. -/
structure Probes where
  /-- The verdict of the tier on the primitive there, unless its timer ends first. -/
  verdict : List ℕ → PrimitiveInvocation → Option ProbeVerdict
  elapsedMs : List ℕ → ℕ
  remainingMs : List ℕ → List ℕ

def Probes.surroundings (probes : Probes) : Surroundings where
  execution place invocation :=
    (probes.verdict place invocation).map (primitiveResult invocation.kind invocation.args)
  elapsedMs := probes.elapsedMs
  remainingMs := probes.remainingMs

/-! ## Leaves and the course of an evaluation -/

mutual

/-- The primitive calls of an expression, in source order. -/
def leaves : VerificationGrammar → List PrimitiveInvocation
  | .primitive invocation => [invocation]
  | .all terms => leavesOf terms
  | .any terms => leavesOf terms
  | .not term => leaves term
  | .eventually term _ _ => leaves term

def leavesOf : List VerificationGrammar → List PrimitiveInvocation
  | [] => []
  | term :: rest => leaves term ++ leavesOf rest

end

/-- Leaves of which none is run. -/
def unrun (leaves : List PrimitiveInvocation) : List (PrimitiveInvocation × Bool) := leaves.map (·, false)

/-- The number and the remaining time of the last attempt of an `eventually`: the one that passes, or else
the last one before the time is up. -/
def lastAttempt (attempt : ℕ → ℕ → NodeOutcome) (readings : List ℕ) (retryCount : ℕ)
    (last : Option (ℕ × ℕ)) : Option (ℕ × ℕ) :=
  match readings with
  | [] => last
  | remaining :: later =>
    if remaining = 0 then last
    else if (attempt retryCount remaining).status = .passed then some (retryCount, remaining)
    else lastAttempt attempt later (min (retryCount + 1) U64_MAX) (some (retryCount, remaining))

mutual

/-- The leaves, each with whether it is run in the attempt that is reported. -/
def course (surroundings : Surroundings) (grammar : VerificationGrammar) (primitiveTimeoutMs : ℕ)
    (scope : EvaluationScope) : List (PrimitiveInvocation × Bool) :=
  match grammar with
  | .primitive invocation => [(invocation, true)]
  | .all terms => courseAll surroundings terms primitiveTimeoutMs scope 0
  | .any terms => courseAny surroundings terms primitiveTimeoutMs scope 0
  | .not term => course (surroundings.below 0) term primitiveTimeoutMs { underNot := true }
  | .eventually term _ _ =>
    let attemptTimeoutMs remaining := max (min (max primitiveTimeoutMs 1) remaining) 1
    let attempts := lastAttempt
      (fun attempt remaining => evaluate (surroundings.below attempt) term (attemptTimeoutMs remaining) scope)
      (surroundings.remainingMs []) 0 none
    match attempts with
    | some (attempt, remaining) => course (surroundings.below attempt) term (attemptTimeoutMs remaining) scope
    | none => unrun (leaves term)

/-- The terms of an `all` are run up to the first that is not read as passed. -/
def courseAll (surroundings : Surroundings) (terms : List VerificationGrammar) (primitiveTimeoutMs : ℕ)
    (scope : EvaluationScope) (index : ℕ) : List (PrimitiveInvocation × Bool) :=
  match terms with
  | [] => []
  | term :: rest =>
    course (surroundings.below index) term primitiveTimeoutMs scope ++
      if (evaluate (surroundings.below index) term primitiveTimeoutMs scope).statusForParent = .passed then
        courseAll surroundings rest primitiveTimeoutMs scope (index + 1)
      else unrun (leavesOf rest)

/-- The terms of an `any` are run up to the first that is read as passed. -/
def courseAny (surroundings : Surroundings) (terms : List VerificationGrammar) (primitiveTimeoutMs : ℕ)
    (scope : EvaluationScope) (index : ℕ) : List (PrimitiveInvocation × Bool) :=
  match terms with
  | [] => []
  | term :: rest =>
    course (surroundings.below index) term primitiveTimeoutMs scope ++
      if (evaluate (surroundings.below index) term primitiveTimeoutMs scope).statusForParent = .passed then
        unrun (leavesOf rest)
      else courseAny surroundings rest primitiveTimeoutMs scope (index + 1)

end

section

variable {leaves : List (PrimitiveInvocation × Bool)} {results : List PrimitiveResult}

/-- The result carries the mark of a term that was skipped; an `eventually` around it may have added the
number of its attempts. -/
def PrimitiveResult.marked (result : PrimitiveResult) : Bool :=
  result.error.any (startsWith · "SHORT_CIRCUITED")

/-- The result of a leaf: it names the leaf's primitive, and it is not marked if the leaf was run. -/
structure Tells (leaf : PrimitiveInvocation × Bool) (result : PrimitiveResult) : Prop where
  kind : result.primitiveKind = leaf.1.kind
  ran : result.marked = true → leaf.2 = false

/-- The results of a list of leaves, one each in its order. -/
abbrev Reports (leaves : List (PrimitiveInvocation × Bool)) (results : List PrimitiveResult) : Prop :=
  List.Forall₂ Tells leaves results

theorem Reports.append {first second : List (PrimitiveInvocation × Bool)}
    {firstResults secondResults : List PrimitiveResult} (here : Reports first firstResults)
    (later : Reports second secondResults) : Reports (first ++ second) (firstResults ++ secondResults) :=
  List.rel_append here later

/-- A rewrite of the results that keeps their primitives and marks no new one. -/
theorem Reports.map (reports : Reports leaves results) {rewrite : PrimitiveResult → PrimitiveResult}
    (kind : ∀ result, (rewrite result).primitiveKind = result.primitiveKind)
    (marked : ∀ result, (rewrite result).marked = true → result.marked = true) :
    Reports leaves (results.map rewrite) := by
  rw [Reports, List.forall₂_map_right_iff]
  refine reports.imp fun leaf result tells => ⟨?_, fun mark => tells.ran (marked result mark)⟩
  rw [kind, tells.kind]

theorem Reports.kinds (reports : Reports leaves results) : results.map (·.primitiveKind) = leaves.map (·.1.kind) := by
  induction reports with
  | nil => rfl
  | cons tells _ ih => rw [List.map_cons, List.map_cons, tells.kind, ih]

theorem Reports.marked_unrun (reports : Reports leaves results) {index : ℕ} {result : PrimitiveResult}
    (there : results[index]? = some result) (marked : result.marked = true) :
    ∃ invocation, leaves[index]? = some (invocation, false) := by
  obtain ⟨within, rfl⟩ := List.getElem?_eq_some_iff.mp there
  obtain ⟨same, each⟩ := List.forall₂_iff_get.mp reports
  have unrun := (each index (same ▸ within) within).ran marked
  exact ⟨_, List.getElem?_eq_some_iff.mpr ⟨same ▸ within, Prod.ext rfl unrun⟩⟩

/-! ## Skipped terms -/

end

mutual

theorem leaves_length (grammar : VerificationGrammar) : (leaves grammar).length = primitiveCount grammar := by
  cases grammar with
  | primitive => rfl
  | all terms => exact leavesOf_length terms
  | any terms => exact leavesOf_length terms
  | not term => exact leaves_length term
  | eventually term => exact leaves_length term

theorem leavesOf_length (terms : List VerificationGrammar) : (leavesOf terms).length = primitiveCounts terms := by
  cases terms with
  | nil => rfl
  | cons term rest =>
    rw [leavesOf, primitiveCounts, List.length_append, leaves_length term, leavesOf_length rest]

end

theorem unrun_append (first second : List PrimitiveInvocation) :
    unrun (first ++ second) = unrun first ++ unrun second := List.map_append

theorem map_fst_unrun (leaves : List PrimitiveInvocation) : (unrun leaves).map Prod.fst = leaves := by
  simp [unrun, Function.comp_def]

mutual

theorem skippedTerm_reports (grammar : VerificationGrammar) :
    Reports (unrun (leaves grammar)) (skippedTerm grammar) := by
  cases grammar with
  | primitive invocation => exact .cons ⟨rfl, fun _ => rfl⟩ .nil
  | all terms => exact skippedTerms_reports terms
  | any terms => exact skippedTerms_reports terms
  | not term => exact skippedTerm_reports term
  | eventually term => exact skippedTerm_reports term

theorem skippedTerms_reports (terms : List VerificationGrammar) :
    Reports (unrun (leavesOf terms)) (skippedTerms terms) := by
  cases terms with
  | nil => exact .nil
  | cons term rest =>
    rw [leavesOf, skippedTerms, unrun_append]
    exact (skippedTerm_reports term).append (skippedTerms_reports rest)

end

section

variable {terms : List VerificationGrammar} {leaves before : List (PrimitiveInvocation × Bool)}
  {results perPrimitive : List PrimitiveResult} (probes : Probes)

/-! ## Errors and marks -/

theorem marked_eq_false_of_head {result : PrimitiveResult} {error : String} {head : Char}
    (errs : result.error = some error) (first : error.toList.head? = some head) (other : head ≠ 'S') :
    result.marked = false := by
  rw [PrimitiveResult.marked, errs, Option.any_some, startsWith]
  obtain ⟨tail, shape⟩ := List.head?_eq_some_iff.mp first
  rw [shape, show "SHORT_CIRCUITED".toList = 'S' :: "HORT_CIRCUITED".toList from rfl, List.isPrefixOf,
    Bool.and_eq_false_iff]
  exact .inl (beq_eq_false_iff_ne.mpr (Ne.symm other))

theorem primitiveResult_unmarked (primitive : VerificationPrimitive) (expected : Json) (verdict : ProbeVerdict) :
    (primitiveResult primitive expected verdict).marked = false := by
  cases verdict with
  | passed => rfl
  | failed => rfl
  | probeError reason =>
    refine @marked_eq_false_of_head _ _ 'P' rfl ?_ (by decide)
    rw [String.toList_append]
    rfl

/-- A run primitive is not marked, whether its tier gives a verdict or its timer ends first. -/
theorem evaluatePrimitive_reports (probes : Probes) (invocation : PrimitiveInvocation) (primitiveTimeoutMs : ℕ)
    (scope : EvaluationScope) :
    Reports [(invocation, true)]
      (evaluatePrimitive probes.surroundings invocation primitiveTimeoutMs scope).perPrimitive := by
  refine .cons ?_ .nil
  rw [executePrimitiveWithTimeout]
  cases given : probes.surroundings.execution [] invocation with
  | some result =>
    obtain ⟨verdict, -, rfl⟩ := Option.map_eq_some_iff.mp given
    refine ⟨?_, fun mark => ?_⟩
    · cases verdict <;> rfl
    · exact absurd mark (Bool.eq_false_iff.mp (primitiveResult_unmarked invocation.kind invocation.args verdict))
  | none =>
    refine ⟨rfl, fun mark => absurd mark (Bool.eq_false_iff.mp ?_)⟩
    refine @marked_eq_false_of_head _ _ 'T' rfl ?_ (by decide)
    rw [String.toList_append, String.toList_append]
    rfl

/-! ## Retries -/

theorem annotateRetryCount_reports (reports : Reports leaves results) (retryCount : ℕ) :
    Reports leaves (annotateRetryCount results retryCount) :=
  reports.map (fun _ => rfl) fun _ mark => mark

theorem prefix_of_prefix_append {start text rest : List Char} {next : Char} (absent : next ∉ start)
    (starts : start <+: text ++ next :: rest) : start <+: text := by
  induction start generalizing text with
  | nil => exact List.nil_prefix
  | cons c start ih =>
    cases text with
    | nil =>
      obtain ⟨same, -⟩ := List.cons_prefix_cons.mp starts
      exact absurd (same ▸ List.mem_cons_self) absent
    | cons d text =>
      obtain ⟨same, later⟩ := List.cons_prefix_cons.mp starts
      exact List.cons_prefix_cons.mpr ⟨same, ih (fun member => absent (List.mem_cons_of_mem c member)) later⟩

/-- The number of attempts goes behind an error, or stands alone. -/
theorem startsWith_appendRetryCountToError {error : Option String} {retryCount : ℕ}
    (mark : startsWith (appendRetryCountToError error retryCount) "SHORT_CIRCUITED" = true) :
    error.any (startsWith · "SHORT_CIRCUITED") = true := by
  cases error with
  | none =>
    rw [appendRetryCountToError, startsWith, String.toList_append] at mark
    cases mark
  | some error =>
    rw [appendRetryCountToError] at mark
    rw [Option.any_some]
    split_ifs at mark
    · exact mark
    · rw [startsWith, List.isPrefixOf_iff_prefix, String.toList_append, String.toList_append, List.append_assoc] at mark
      rw [startsWith, List.isPrefixOf_iff_prefix]
      exact prefix_of_prefix_append (by decide) mark

theorem annotateEventuallyTerminal_reports (reports : Reports leaves results) (status : VerificationStatus)
    (maxDurationMs retryCount : ℕ) :
    Reports leaves (annotateEventuallyTerminal results status maxDurationMs retryCount) := by
  refine (annotateRetryCount_reports reports retryCount).map (fun result => ?_) fun result mark => ?_
  · cases status <;> rfl
  · cases status with
    | probeError => exact startsWith_appendRetryCountToError mark
    | timeout =>
      refine absurd mark (Bool.eq_false_iff.mp (@marked_eq_false_of_head _ _ 'T' rfl ?_ (by decide)))
      rw [String.toList_append, String.toList_append, String.toList_append, List.append_assoc, List.append_assoc]
      rfl
    | _ => exact mark

/-- What `eventually` is left with are the results of the last attempt, if there was one. -/
theorem eventuallyAttempts_reports {attempt : ℕ → ℕ → NodeOutcome}
    {ran : ℕ → ℕ → List (PrimitiveInvocation × Bool)} {skipped : List (PrimitiveInvocation × Bool)}
    (each : ∀ number remaining, Reports (ran number remaining) (attempt number remaining).perPrimitive)
    {results : List PrimitiveResult} {status : VerificationStatus} {loadBearing : Bool}
    (readings : List ℕ) (retryCount : ℕ) {last : Option (ℕ × ℕ)} {lastOutcome : Option NodeOutcome}
    (before : Reports (last.elim skipped fun number => ran number.1 number.2)
      (lastOutcome.getD ⟨status, results, loadBearing⟩).perPrimitive) :
    Reports ((lastAttempt attempt readings retryCount last).elim skipped fun number => ran number.1 number.2)
      ((eventuallyAttempts attempt readings retryCount lastOutcome).2.getD
        ⟨status, results, loadBearing⟩).perPrimitive := by
  induction readings generalizing retryCount last lastOutcome with
  | nil => exact before
  | cons remaining later ih =>
    rw [lastAttempt, eventuallyAttempts]
    have annotated := annotateRetryCount_reports (each retryCount remaining) (min (retryCount + 1) U64_MAX)
    by_cases spent : remaining = 0
    · rw [if_pos spent, if_pos spent]
      exact before
    · rw [if_neg spent, if_neg spent]
      by_cases passed : (attempt retryCount remaining).status = .passed
      · rw [if_pos passed, if_pos passed]
        exact annotated
      · rw [if_neg passed, if_neg passed]
        exact ih _ annotated

theorem eventuallyOutcome_reports {term : VerificationGrammar} {lastOutcome : Option NodeOutcome}
    (maxDurationMs retryCount : ℕ)
    (reports : Reports leaves (lastOutcome.getD ⟨.timeout, skippedTerm term, false⟩).perPrimitive) :
    Reports leaves (eventuallyOutcome term maxDurationMs retryCount lastOutcome).perPrimitive := by
  rw [eventuallyOutcome]
  by_cases passed : (lastOutcome.getD ⟨.timeout, skippedTerm term, false⟩).status = .passed
  · rw [if_pos passed]
    exact reports
  · rw [if_neg passed]
    exact annotateEventuallyTerminal_reports reports _ _ _

/-! ## Every shape of expression -/

/-- The probes of the term at one index below. -/
def Probes.below (index : ℕ) : Probes where
  verdict place := probes.verdict (index :: place)
  elapsedMs place := probes.elapsedMs (index :: place)
  remainingMs place := probes.remainingMs (index :: place)

theorem Probes.surroundings_below (index : ℕ) :
    probes.surroundings.below index = (probes.below index).surroundings := rfl

/-- The evaluation of a term reports its course. -/
def Reported (grammar : VerificationGrammar) : Prop :=
  ∀ (probes : Probes) (primitiveTimeoutMs : ℕ) (scope : EvaluationScope),
    Reports (course probes.surroundings grammar primitiveTimeoutMs scope)
      (evaluate probes.surroundings grammar primitiveTimeoutMs scope).perPrimitive

theorem evaluateAll_reports (each : ∀ term ∈ terms, Reported term) (probes : Probes) (primitiveTimeoutMs : ℕ)
    (scope : EvaluationScope) (index : ℕ) (reports : Reports before perPrimitive) :
    Reports (before ++ courseAll probes.surroundings terms primitiveTimeoutMs scope index)
      (evaluateAll probes.surroundings terms primitiveTimeoutMs scope index perPrimitive).perPrimitive := by
  induction terms generalizing index before perPrimitive with
  | nil =>
    rw [courseAll, List.append_nil]
    exact reports
  | cons term rest ih =>
    rw [evaluateAll, courseAll, ← List.append_assoc]
    have here := reports.append (each term List.mem_cons_self (probes.below index) primitiveTimeoutMs scope)
    rw [← Probes.surroundings_below] at here
    have stopped := here.append (skippedTerms_reports rest)
    cases read : (evaluate (probes.surroundings.below index) term primitiveTimeoutMs scope).statusForParent with
    | passed => exact ih (fun later member => each later (List.mem_cons_of_mem term member)) (index + 1) here
    | _ => exact stopped

theorem evaluateAny_reports (each : ∀ term ∈ terms, Reported term) (probes : Probes) (primitiveTimeoutMs : ℕ)
    (scope : EvaluationScope) (index : ℕ) (reports : Reports before perPrimitive)
    (sawTimeout sawLoadBearingProbeError : Bool) :
    Reports (before ++ courseAny probes.surroundings terms primitiveTimeoutMs scope index)
      (evaluateAny probes.surroundings terms primitiveTimeoutMs scope index perPrimitive sawTimeout
        sawLoadBearingProbeError).perPrimitive := by
  induction terms generalizing index before perPrimitive sawTimeout sawLoadBearingProbeError with
  | nil =>
    rw [courseAny, List.append_nil, evaluateAny]
    split_ifs <;> exact reports
  | cons term rest ih =>
    rw [evaluateAny, courseAny, ← List.append_assoc]
    have here := reports.append (each term List.mem_cons_self (probes.below index) primitiveTimeoutMs scope)
    rw [← Probes.surroundings_below] at here
    by_cases passed :
        (evaluate (probes.surroundings.below index) term primitiveTimeoutMs scope).statusForParent = .passed
    · rw [if_pos passed, if_pos passed]
      exact here.append (skippedTerms_reports rest)
    · rw [if_neg passed, if_neg passed]
      exact ih (fun later member => each later (List.mem_cons_of_mem term member)) (index + 1) here _ _

theorem reported (grammar : VerificationGrammar) : Reported grammar := by
  induction grammar with
  | primitive invocation =>
    intro probes primitiveTimeoutMs scope
    rw [course, evaluate]
    exact evaluatePrimitive_reports probes invocation primitiveTimeoutMs scope
  | all terms ih =>
    intro probes primitiveTimeoutMs scope
    rw [course, evaluate]
    exact evaluateAll_reports ih probes primitiveTimeoutMs scope 0 .nil
  | any terms ih =>
    intro probes primitiveTimeoutMs scope
    rw [course, evaluate]
    exact evaluateAny_reports ih probes primitiveTimeoutMs scope 0 .nil false false
  | not term ih =>
    intro probes primitiveTimeoutMs scope
    rw [course, evaluate]
    exact ih (probes.below 0) primitiveTimeoutMs { underNot := true }
  | eventually term maxDuration interval ih =>
    intro probes primitiveTimeoutMs scope
    rw [course, evaluate]
    refine eventuallyOutcome_reports _ _ ?_
    let attemptTimeoutMs remaining := max (min (max primitiveTimeoutMs 1) remaining) 1
    have last := @eventuallyAttempts_reports
      (fun attempt remaining =>
        evaluate (probes.surroundings.below attempt) term (attemptTimeoutMs remaining) scope)
      (fun attempt remaining => course (probes.surroundings.below attempt) term (attemptTimeoutMs remaining) scope)
      _ (fun attempt remaining => ih (probes.below attempt) (attemptTimeoutMs remaining) scope)
      _ .timeout false (probes.surroundings.remainingMs []) 0 none none (skippedTerm_reports term)
    revert last
    dsimp only
    split <;> rename_i attempts <;> rw [attempts] <;> exact id

end

mutual

/-- The course lists the leaves in source order. -/
theorem map_fst_course (surroundings : Surroundings) (grammar : VerificationGrammar) (primitiveTimeoutMs : ℕ)
    (scope : EvaluationScope) :
    (course surroundings grammar primitiveTimeoutMs scope).map Prod.fst = leaves grammar := by
  cases grammar with
  | primitive => rw [course, leaves]; rfl
  | all terms => rw [course, leaves, map_fst_courseAll]
  | any terms => rw [course, leaves, map_fst_courseAny]
  | not term => rw [course, leaves, map_fst_course]
  | eventually term maxDuration interval =>
    rw [course, leaves]
    dsimp only
    split
    · rw [map_fst_course]
    · rw [map_fst_unrun]

theorem map_fst_courseAll (surroundings : Surroundings) (terms : List VerificationGrammar)
    (primitiveTimeoutMs : ℕ) (scope : EvaluationScope) (index : ℕ) :
    (courseAll surroundings terms primitiveTimeoutMs scope index).map Prod.fst = leavesOf terms := by
  cases terms with
  | nil => rw [courseAll]; rfl
  | cons term rest =>
    rw [courseAll, leavesOf, List.map_append, map_fst_course]
    split_ifs
    · rw [map_fst_courseAll]
    · rw [map_fst_unrun]

theorem map_fst_courseAny (surroundings : Surroundings) (terms : List VerificationGrammar)
    (primitiveTimeoutMs : ℕ) (scope : EvaluationScope) (index : ℕ) :
    (courseAny surroundings terms primitiveTimeoutMs scope index).map Prod.fst = leavesOf terms := by
  cases terms with
  | nil => rw [courseAny]; rfl
  | cons term rest =>
    rw [courseAny, leavesOf, List.map_append, map_fst_course]
    split_ifs
    · rw [map_fst_unrun]
    · rw [map_fst_courseAny]

end

/-! ## The executor -/

/-- The results of a run are one for each primitive of the expression: as many as `primitive_count` says,
with the kinds of the leaves in source order, and marked as short-circuited only beside a leaf that the
reported attempt did not run. -/
theorem every_leaf_reported_once (executor : VerificationExecutor) (probes : Probes)
    (grammar : VerificationGrammar) (timeoutSeconds : ℕ) :
    let perPrimitive := (executor.execute probes.surroundings grammar timeoutSeconds).2
    let ran := course probes.surroundings grammar
      (executor.primitiveTimeoutMs timeoutSeconds (primitiveCount grammar)) {}
    perPrimitive.length = primitiveCount grammar ∧
      perPrimitive.map (·.primitiveKind) = (leaves grammar).map (·.kind) ∧
      ran.map Prod.fst = leaves grammar ∧
      ∀ (index : ℕ) (result : PrimitiveResult), perPrimitive[index]? = some result → result.marked = true →
        ∃ invocation, ran[index]? = some (invocation, false) := by
  intro perPrimitive ran
  have reports : Reports ran perPrimitive := reported grammar probes _ _
  have listed : ran.map Prod.fst = leaves grammar := map_fst_course _ grammar _ _
  refine ⟨?_, ?_, listed, ?_⟩
  · rw [← reports.length_eq, ← List.length_map Prod.fst, listed, leaves_length]
  · rw [← listed, List.map_map]
    exact reports.kinds
  · intro index result
    exact reports.marked_unrun

end Aios.Verification
