import Aios.Verification.Executor
import Mathlib.Tactic.Common

/-! # What an evaluation can come to

The loops of `all` and `any` through their terms, and the marks: only a probe error is marked
load-bearing, none is below a `not`, and an unmarked one is a primitive's own.
-/

namespace Aios.Verification

/-- Expressions of primitives, `all`, `any` and `not`. -/
inductive Untimed : VerificationGrammar → Prop
  | primitive (invocation) : Untimed (.primitive invocation)
  | all {terms} (each : ∀ term ∈ terms, Untimed term) : Untimed (.all terms)
  | any {terms} (each : ∀ term ∈ terms, Untimed term) : Untimed (.any terms)
  | not {term} (below : Untimed term) : Untimed (.not term)

/-- A primitive under any number of `not`s. -/
def VerificationGrammar.bare : VerificationGrammar → Bool
  | .primitive _ => true
  | .not term => term.bare
  | _ => false

/-- What the primitive at a place comes to. -/
def Surroundings.outcome (surroundings : Surroundings) (place : List ℕ) (invocation : PrimitiveInvocation) :
    VerificationStatus :=
  match surroundings.execution place invocation with
  | some result => primitiveStatus result
  | none => .timeout

/-! ## The loops, term by term -/

theorem mem_zipIdx_cons {α : Type} {head item : α} {tail : List α} {start index : ℕ} :
    (item, index) ∈ (head :: tail).zipIdx start ↔
      (item = head ∧ index = start) ∨ (item, index) ∈ tail.zipIdx (start + 1) := by
  simp [List.zipIdx_cons]

theorem exists_index {α : Type} {item : α} {items : List α} (member : item ∈ items) (start : ℕ) :
    ∃ index, (item, index) ∈ items.zipIdx start := by
  obtain ⟨index, there⟩ := List.mem_iff_getElem?.mp member
  exact ⟨start + index, List.mk_add_mem_zipIdx_iff_getElem?.mpr there⟩

section Loops

variable {surroundings : Surroundings} {terms : List VerificationGrammar} {primitiveTimeoutMs : ℕ}
  {scope : EvaluationScope} {start : ℕ} {perPrimitive : List PrimitiveResult}

variable {sawTimeout sawLoadBearingProbeError : Bool}

theorem evaluateAll_passed_iff :
    (evaluateAll surroundings terms primitiveTimeoutMs scope start perPrimitive).status = .passed ↔
      ∀ term index, (term, index) ∈ terms.zipIdx start →
        (evaluate (surroundings.below index) term primitiveTimeoutMs scope).statusForParent = .passed := by
  induction terms generalizing start perPrimitive with
  | nil => simp [evaluateAll]
  | cons head tail ih =>
    simp only [mem_zipIdx_cons]
    rw [evaluateAll]
    constructor
    · intro passed
      cases first : (evaluate (surroundings.below start) head primitiveTimeoutMs scope).statusForParent with
      | passed =>
        simp only [first] at passed
        rintro term index (⟨rfl, rfl⟩ | later)
        · exact first
        · exact ih.mp passed term index later
      | _ => simp [first] at passed
    · intro each
      simp only [each head start (.inl ⟨rfl, rfl⟩)]
      exact ih.mpr fun term index later => each term index (.inr later)

/-- A composition that does not pass takes its status and its mark from one of its terms. -/
theorem evaluateAll_stopped
    (stopped : (evaluateAll surroundings terms primitiveTimeoutMs scope start perPrimitive).status ≠ .passed) :
    ∃ term index, (term, index) ∈ terms.zipIdx start ∧
      (evaluate (surroundings.below index) term primitiveTimeoutMs scope).loadBearingProbeError =
        (evaluateAll surroundings terms primitiveTimeoutMs scope start perPrimitive).loadBearingProbeError ∧
      ((evaluate (surroundings.below index) term primitiveTimeoutMs scope).statusForParent =
          (evaluateAll surroundings terms primitiveTimeoutMs scope start perPrimitive).status ∨
        (evaluate (surroundings.below index) term primitiveTimeoutMs scope).statusForParent = .skipped ∧
          (evaluateAll surroundings terms primitiveTimeoutMs scope start perPrimitive).status = .failed) := by
  induction terms generalizing start perPrimitive with
  | nil => exact absurd rfl stopped
  | cons head tail ih =>
    simp only [mem_zipIdx_cons]
    rw [evaluateAll] at stopped ⊢
    cases first : (evaluate (surroundings.below start) head primitiveTimeoutMs scope).statusForParent with
    | passed =>
      simp only [first] at stopped ⊢
      obtain ⟨term, index, later, reads⟩ := ih stopped
      exact ⟨term, index, .inr later, reads⟩
    | _ => exact ⟨head, start, .inl ⟨rfl, rfl⟩, by simp [first]⟩

/-- The first term that is read as failed decides. -/
theorem evaluateAll_failed_of {term : VerificationGrammar} {index : ℕ} (member : (term, index) ∈ terms.zipIdx start)
    (failed : (evaluate (surroundings.below index) term primitiveTimeoutMs scope).statusForParent = .failed)
    (others : ∀ other position, (other, position) ∈ terms.zipIdx start → position ≠ index →
      (evaluate (surroundings.below position) other primitiveTimeoutMs scope).statusForParent = .passed) :
    (evaluateAll surroundings terms primitiveTimeoutMs scope start perPrimitive).status = .failed := by
  induction terms generalizing start perPrimitive with
  | nil => cases member
  | cons head tail ih =>
    rw [evaluateAll]
    rcases mem_zipIdx_cons.mp member with ⟨rfl, rfl⟩ | later
    · simp [failed]
    · have apart : start ≠ index := by
        have := List.le_snd_of_mem_zipIdx later
        omega
      simp only [others head start (mem_zipIdx_cons.mpr (.inl ⟨rfl, rfl⟩)) apart]
      exact ih later fun other position further => others other position (mem_zipIdx_cons.mpr (.inr further))

theorem evaluateAny_passed_iff :
    (evaluateAny surroundings terms primitiveTimeoutMs scope start perPrimitive sawTimeout
        sawLoadBearingProbeError).status = .passed ↔
      ∃ term index, (term, index) ∈ terms.zipIdx start ∧
        (evaluate (surroundings.below index) term primitiveTimeoutMs scope).statusForParent = .passed := by
  induction terms generalizing start perPrimitive sawTimeout sawLoadBearingProbeError with
  | nil => cases sawTimeout <;> cases sawLoadBearingProbeError <;> simp [evaluateAny]
  | cons head tail ih =>
    rw [evaluateAny]
    simp only [mem_zipIdx_cons]
    split_ifs with first
    · exact ⟨fun _ => ⟨head, start, .inl ⟨rfl, rfl⟩, first⟩, fun _ => rfl⟩
    · rw [ih]
      constructor
      · rintro ⟨term, index, later, passed⟩
        exact ⟨term, index, .inr later, passed⟩
      · rintro ⟨term, index, ⟨rfl, rfl⟩ | later, passed⟩
        · exact absurd passed first
        · exact ⟨term, index, later, passed⟩

theorem evaluateAny_failed_iff :
    (evaluateAny surroundings terms primitiveTimeoutMs scope start perPrimitive sawTimeout
        sawLoadBearingProbeError).status = .failed ↔
      sawTimeout = false ∧ sawLoadBearingProbeError = false ∧
        ∀ term index, (term, index) ∈ terms.zipIdx start →
          (evaluate (surroundings.below index) term primitiveTimeoutMs scope).statusForParent ≠ .passed ∧
          (evaluate (surroundings.below index) term primitiveTimeoutMs scope).statusForParent ≠ .timeout ∧
          (evaluate (surroundings.below index) term primitiveTimeoutMs scope).loadBearingProbeError = false := by
  induction terms generalizing start perPrimitive sawTimeout sawLoadBearingProbeError with
  | nil => cases sawTimeout <;> cases sawLoadBearingProbeError <;> simp [evaluateAny]
  | cons head tail ih =>
    rw [evaluateAny]
    simp only [mem_zipIdx_cons]
    split_ifs with first
    · refine iff_of_false (by simp) ?_
      rintro ⟨-, -, each⟩
      exact (each head start (.inl ⟨rfl, rfl⟩)).1 first
    · rw [ih]
      simp only [Bool.or_eq_false_iff, beq_eq_false_iff_ne]
      constructor
      · rintro ⟨⟨noTimeout, timely⟩, ⟨noError, unmarked⟩, rest⟩
        refine ⟨noTimeout, noError, ?_⟩
        rintro term index (⟨rfl, rfl⟩ | later)
        · exact ⟨first, timely, unmarked⟩
        · exact rest term index later
      · rintro ⟨noTimeout, noError, each⟩
        obtain ⟨-, timely, unmarked⟩ := each head start (.inl ⟨rfl, rfl⟩)
        exact ⟨⟨noTimeout, timely⟩, ⟨noError, unmarked⟩, fun term index later => each term index (.inr later)⟩

/-- A probe error of an `any` is load-bearing, and only that is. -/
theorem evaluateAny_probeError_iff :
    (evaluateAny surroundings terms primitiveTimeoutMs scope start perPrimitive sawTimeout
        sawLoadBearingProbeError).status = .probeError ↔
      (evaluateAny surroundings terms primitiveTimeoutMs scope start perPrimitive sawTimeout
        sawLoadBearingProbeError).loadBearingProbeError = true := by
  induction terms generalizing start perPrimitive sawTimeout sawLoadBearingProbeError with
  | nil => cases sawTimeout <;> cases sawLoadBearingProbeError <;> simp [evaluateAny]
  | cons head tail ih =>
    rw [evaluateAny]
    split_ifs with first
    · simp
    · exact ih

end Loops

section

variable {surroundings : Surroundings} {terms : List VerificationGrammar} {primitiveTimeoutMs start : ℕ}
  {scope : EvaluationScope} {perPrimitive : List PrimitiveResult} {sawTimeout sawLoadBearingProbeError : Bool}

/-- A composition is marked by a marked term. -/
theorem evaluateAll_marked {surroundings : Surroundings} {terms : List VerificationGrammar}
    {primitiveTimeoutMs start : ℕ} {scope : EvaluationScope} {perPrimitive : List PrimitiveResult}
    (marked : (evaluateAll surroundings terms primitiveTimeoutMs scope start perPrimitive).loadBearingProbeError =
      true) :
    ∃ term index, (term, index) ∈ terms.zipIdx start ∧
      (evaluate (surroundings.below index) term primitiveTimeoutMs scope).loadBearingProbeError = true := by
  induction terms generalizing start perPrimitive with
  | nil => simp [evaluateAll] at marked
  | cons head tail ih =>
    simp only [mem_zipIdx_cons]
    rw [evaluateAll] at marked
    cases first : (evaluate (surroundings.below start) head primitiveTimeoutMs scope).statusForParent with
    | passed =>
      simp only [first] at marked
      obtain ⟨term, index, later, reads⟩ := ih marked
      exact ⟨term, index, .inr later, reads⟩
    | _ => exact ⟨head, start, .inl ⟨rfl, rfl⟩, by simpa [first] using marked⟩

theorem evaluateAny_marked {surroundings : Surroundings} {terms : List VerificationGrammar}
    {primitiveTimeoutMs start : ℕ} {scope : EvaluationScope} {perPrimitive : List PrimitiveResult}
    {sawTimeout sawLoadBearingProbeError : Bool}
    (marked : (evaluateAny surroundings terms primitiveTimeoutMs scope start perPrimitive sawTimeout
      sawLoadBearingProbeError).loadBearingProbeError = true) :
    sawLoadBearingProbeError = true ∨ ∃ term index, (term, index) ∈ terms.zipIdx start ∧
      (evaluate (surroundings.below index) term primitiveTimeoutMs scope).loadBearingProbeError = true := by
  induction terms generalizing start perPrimitive sawTimeout sawLoadBearingProbeError with
  | nil => cases sawTimeout <;> cases sawLoadBearingProbeError <;> simp_all [evaluateAny]
  | cons head tail ih =>
    simp only [mem_zipIdx_cons]
    rw [evaluateAny] at marked
    split_ifs at marked with first
    rcases ih marked with saw | ⟨term, index, later, reads⟩
    · rcases Bool.or_eq_true_iff.mp saw with before | here
      · exact .inl before
      · exact .inr ⟨head, start, .inl ⟨rfl, rfl⟩, here⟩
    · exact .inr ⟨term, index, .inr later, reads⟩

theorem evaluateAny_ne_skipped :
    (evaluateAny surroundings terms primitiveTimeoutMs scope start perPrimitive sawTimeout
      sawLoadBearingProbeError).status ≠ .skipped := by
  induction terms generalizing start perPrimitive sawTimeout sawLoadBearingProbeError with
  | nil => cases sawTimeout <;> cases sawLoadBearingProbeError <;> simp [evaluateAny]
  | cons head tail ih =>
    rw [evaluateAny]
    split_ifs
    · simp
    · exact ih

end

/-! ## What one term tells its parent -/

section

variable {status : VerificationStatus} {outcome : NodeOutcome} (surroundings : Surroundings)

theorem negated_passed : negated status = .passed ↔ status = .failed := by
  cases status <;> decide

theorem negated_failed : negated status = .failed ↔ status = .passed := by
  cases status <;> decide

theorem negated_probeError : negated status = .probeError ↔ status = .probeError := by
  cases status <;> decide

theorem negated_skipped : negated status = .skipped ↔ status = .skipped := by
  cases status <;> decide

theorem statusForParent_passed : outcome.statusForParent = .passed ↔ outcome.status = .passed := by
  rw [NodeOutcome.statusForParent]
  split_ifs with swallowed
  · simp [swallowed.1]
  · rfl

theorem statusForParent_failed :
    outcome.statusForParent = .failed ↔
      outcome.status = .failed ∨ outcome.status = .probeError ∧ outcome.loadBearingProbeError = false := by
  rw [NodeOutcome.statusForParent]
  split_ifs with swallowed
  · simpa using Or.inr swallowed
  · refine ⟨.inl, ?_⟩
    rintro (failed | ⟨erred, unmarked⟩)
    · exact failed
    · exact absurd ⟨erred, by simp [unmarked]⟩ swallowed

theorem statusForParent_probeError (erred : outcome.statusForParent = .probeError) :
    outcome.status = .probeError ∧ outcome.loadBearingProbeError = true := by
  rw [NodeOutcome.statusForParent] at erred
  split_ifs at erred with swallowed
  exact ⟨erred, by simpa [erred] using swallowed⟩

/-- The message of the executor's own timer reads as a timeout. -/
theorem errorMentionsTimeout_after (timeoutMs : ℕ) : errorMentionsTimeout s!"TIMEOUT after {timeoutMs}ms" = true := by
  have text : (s!"TIMEOUT after {timeoutMs}ms").toList =
      "TIMEOUT".toList ++ ' ' :: ("after ".toList ++ (toString timeoutMs).toList ++ "ms".toList) := by
    simp [toString]
  have letters : ∀ c ∈ "TIMEOUT".toList, (!isAsciiAlphanumeric c) = false := by
    simp [isAsciiAlphanumeric]
  rw [errorMentionsTimeout, text, List.splitOnP_append_cons_of_forall_mem letters]
  · simp
  · decide

theorem evaluatePrimitive_status (invocation : PrimitiveInvocation) (primitiveTimeoutMs : ℕ) (scope : EvaluationScope) :
    (evaluatePrimitive surroundings invocation primitiveTimeoutMs scope).status =
      surroundings.outcome [] invocation := by
  rw [evaluatePrimitive, executePrimitiveWithTimeout, Surroundings.outcome]
  cases surroundings.execution [] invocation with
  | some result => rfl
  | none => simp only [primitiveStatus, errorMentionsTimeout_after, if_true]

theorem primitiveStatus_ne_skipped (result : PrimitiveResult) : primitiveStatus result ≠ .skipped := by
  rw [primitiveStatus]
  split <;> split_ifs <;> decide

theorem outcome_ne_skipped (place : List ℕ) (invocation : PrimitiveInvocation) :
    surroundings.outcome place invocation ≠ .skipped := by
  rw [Surroundings.outcome]
  split
  · apply primitiveStatus_ne_skipped
  · decide

end

section Outcomes

variable {grammar : VerificationGrammar} {primitiveTimeoutMs : ℕ}

variable {surroundings : Surroundings} {scope : EvaluationScope}

theorem evaluate_ne_skipped (untimed : Untimed grammar) (surroundings : Surroundings) (scope : EvaluationScope) :
    (evaluate surroundings grammar primitiveTimeoutMs scope).status ≠ .skipped := by
  induction grammar generalizing surroundings scope with
  | primitive invocation =>
    rw [evaluate, evaluatePrimitive_status]
    apply outcome_ne_skipped
  | all terms ih =>
    cases untimed with | all each =>
    rw [evaluate]
    intro skipped
    obtain ⟨term, index, member, -, reads | ⟨-, failed⟩⟩ := evaluateAll_stopped (by rw [skipped]; decide)
    · rw [skipped, NodeOutcome.statusForParent] at reads
      split_ifs at reads
      have listed := List.fst_mem_of_mem_zipIdx member
      exact ih term listed (each term listed) _ _ reads
    · rw [skipped] at failed
      cases failed
  | any terms ih =>
    rw [evaluate]
    apply evaluateAny_ne_skipped
  | not term ih =>
    cases untimed with | not below =>
    rw [evaluate]
    intro skipped
    exact ih below (surroundings.below 0) { underNot := true } (negated_skipped.mp skipped)
  | eventually => cases untimed

/-- Under a `not` no probe error is load-bearing. -/
theorem unmarked_under_not (untimed : Untimed grammar) (surroundings : Surroundings) (under : scope.underNot = true) :
    (evaluate surroundings grammar primitiveTimeoutMs scope).loadBearingProbeError = false := by
  induction grammar generalizing surroundings with
  | primitive invocation => simp [evaluate, evaluatePrimitive, under]
  | all terms ih =>
    cases untimed with | all each =>
    rw [evaluate, ← Bool.not_eq_true]
    intro marked
    obtain ⟨term, index, member, marked⟩ := evaluateAll_marked marked
    have listed := List.fst_mem_of_mem_zipIdx member
    simp [ih term listed (each term listed)] at marked
  | any terms ih =>
    cases untimed with | any each =>
    rw [evaluate, ← Bool.not_eq_true]
    intro marked
    obtain before | ⟨term, index, member, marked⟩ := evaluateAny_marked marked
    · cases before
    · have listed := List.fst_mem_of_mem_zipIdx member
      simp [ih term listed (each term listed)] at marked
  | not term ih => rw [evaluate]
  | eventually => cases untimed

/-- The unmarked probe errors are those of primitives, handed up by `not`s only. -/
theorem bare_of_unmarked (untimed : Untimed grammar)
    (erred : (evaluate surroundings grammar primitiveTimeoutMs scope).status = .probeError)
    (unmarked : (evaluate surroundings grammar primitiveTimeoutMs scope).loadBearingProbeError = false) :
    grammar.bare = true := by
  induction grammar generalizing surroundings scope with
  | primitive invocation => rfl
  | all terms =>
    rw [evaluate] at erred unmarked
    obtain ⟨term, index, -, mark, reads | ⟨-, failed⟩⟩ := evaluateAll_stopped (by rw [erred]; decide)
    · rw [erred] at reads
      rw [unmarked, (statusForParent_probeError reads).2] at mark
      cases mark
    · rw [erred] at failed
      cases failed
  | any terms =>
    rw [evaluate] at erred unmarked
    rw [evaluateAny_probeError_iff.mp erred] at unmarked
    cases unmarked
  | not term ih =>
    cases untimed with | not below =>
    rw [evaluate] at erred
    exact ih below (negated_probeError.mp erred) (unmarked_under_not below _ rfl)
  | eventually => cases untimed

/-- A term is read as failed when it fails, or when it is a bare primitive that erred. -/
theorem reads_failed (untimed : Untimed grammar)
    (failed : (evaluate surroundings grammar primitiveTimeoutMs scope).statusForParent = .failed) :
    (evaluate surroundings grammar primitiveTimeoutMs scope).status = .failed ∨ grammar.bare = true := by
  rcases statusForParent_failed.mp failed with failed | ⟨erred, unmarked⟩
  · exact .inl failed
  · exact .inr (bare_of_unmarked untimed erred unmarked)

theorem statusForParent_ne_skipped (untimed : Untimed grammar) :
    (evaluate surroundings grammar primitiveTimeoutMs scope).statusForParent ≠ .skipped := by
  rw [NodeOutcome.statusForParent]
  split_ifs
  · decide
  · exact evaluate_ne_skipped untimed surroundings scope

/-- Where an `any` fails, every term is read as failed. -/
theorem any_reads_failed {terms : List VerificationGrammar} (each : ∀ term ∈ terms, Untimed term)
    (failed : (evaluateAny surroundings terms primitiveTimeoutMs scope 0 [] false false).status = .failed)
    {term : VerificationGrammar} {index : ℕ} (member : (term, index) ∈ terms.zipIdx) :
    (evaluate (surroundings.below index) term primitiveTimeoutMs scope).statusForParent = .failed := by
  obtain ⟨notPassed, timely, unmarked⟩ := (evaluateAny_failed_iff.mp failed).2.2 term index member
  cases reads : (evaluate (surroundings.below index) term primitiveTimeoutMs scope).statusForParent with
  | failed => rfl
  | probeError => simp [(statusForParent_probeError reads).2] at unmarked
  | passed => exact absurd reads notPassed
  | timeout => exact absurd reads timely
  | skipped => exact absurd reads (statusForParent_ne_skipped (each term (List.fst_mem_of_mem_zipIdx member)))

/-- Only a probe error is marked. -/
theorem erred_of_marked (untimed : Untimed grammar)
    (marked : (evaluate surroundings grammar primitiveTimeoutMs scope).loadBearingProbeError = true) :
    (evaluate surroundings grammar primitiveTimeoutMs scope).status = .probeError := by
  induction grammar generalizing surroundings scope with
  | primitive invocation =>
    simp only [evaluate, evaluatePrimitive, Bool.and_eq_true, beq_iff_eq] at marked ⊢
    exact marked.1.1
  | all terms ih =>
    cases untimed with | all each =>
    rw [evaluate] at marked ⊢
    by_cases passed : (evaluateAll surroundings terms primitiveTimeoutMs scope 0 []).status = .passed
    · obtain ⟨term, index, member, marked⟩ := evaluateAll_marked marked
      have listed := List.fst_mem_of_mem_zipIdx member
      have reads := statusForParent_passed.mp (evaluateAll_passed_iff.mp passed term index member)
      rw [ih term listed (each term listed) marked] at reads
      cases reads
    · obtain ⟨term, index, member, mark, reads⟩ := evaluateAll_stopped passed
      have listed := List.fst_mem_of_mem_zipIdx member
      have erred := ih term listed (each term listed) (mark.trans marked)
      rcases reads with reads | ⟨skipped, -⟩
      · rw [← reads, NodeOutcome.statusForParent, mark, marked, erred]
        simp
      · exact absurd skipped (statusForParent_ne_skipped (each term listed))
  | any terms =>
    rw [evaluate] at marked ⊢
    exact evaluateAny_probeError_iff.mpr marked
  | not term =>
    rw [evaluate] at marked
    cases marked
  | eventually => cases untimed

end Outcomes

end Aios.Verification
