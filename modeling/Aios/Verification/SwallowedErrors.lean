import Aios.Verification.FailClosed

/-! # Probe errors that come out as a pass

An expression that swallows a probe error under an odd number of `not`s has a run that brings it
out: every other primitive gets the verdict that leaves the compositions around it undecided.
-/

namespace Aios.Verification

/-! ## Runs put together from runs -/

/-- Surroundings in which every primitive has the same result. -/
def Surroundings.answering (result : PrimitiveResult) : Surroundings where
  execution _ _ := some result
  elapsedMs _ := 0
  remainingMs _ := []

/-- Surroundings put together from those of the terms. -/
def Surroundings.join (family : ℕ → Surroundings) : Surroundings where
  execution
    | [], _ => none
    | index :: place, invocation => (family index).execution place invocation
  elapsedMs
    | [] => 0
    | index :: place => (family index).elapsedMs place
  remainingMs
    | [] => []
    | index :: place => (family index).remainingMs place

def joinTruth (family : ℕ → List ℕ → Bool) : List ℕ → Bool
  | [] => false
  | index :: place => family index place

/-- The result of a probe that gives this verdict. -/
def verdictResult (passed : Bool) : PrimitiveResult :=
  ⟨.httpOk, passed, .null, .null, 0, none⟩

/-- The result of a probe that could not run. -/
def erredResult : PrimitiveResult :=
  ⟨.httpOk, false, .null, .null, 0, some "PROBE_ERROR: HTTP_OK: state source unavailable"⟩

theorem outcome_erred (place : List ℕ) (invocation : PrimitiveInvocation) :
    (Surroundings.answering erredResult).outcome place invocation = .probeError := by
  have erred : primitiveStatus erredResult = .probeError := by decide
  exact erred

theorem outcome_verdict (passed : Bool) (place : List ℕ) (invocation : PrimitiveInvocation) :
    (Surroundings.answering (verdictResult passed)).outcome place invocation =
      if passed then .passed else .failed := rfl

/-- A choice for each term of a list. -/
theorem exists_family {α β : Type} {items : List α} {fits : α → ℕ → β → Prop} (default : β)
    (each : ∀ item index, (item, index) ∈ items.zipIdx → ∃ choice, fits item index choice) :
    ∃ family : ℕ → β, ∀ item index, (item, index) ∈ items.zipIdx → fits item index (family index) := by
  have indexed (index : ℕ) : ∃ choice, ∀ item, (item, index) ∈ items.zipIdx → fits item index choice := by
    cases listed : items[index]? with
    | none => exact ⟨default, fun item member => by simp [List.mk_mem_zipIdx_iff_getElem?, listed] at member⟩
    | some item =>
      obtain ⟨choice, chosen⟩ := each item index (List.mk_mem_zipIdx_iff_getElem?.mpr listed)
      refine ⟨choice, fun other member => ?_⟩
      rw [List.mk_mem_zipIdx_iff_getElem?, listed, Option.some_inj] at member
      exact member ▸ chosen
  choose family chosen using indexed
  exact ⟨family, fun item index => chosen index item⟩

/-- A run for each term of a composition makes one of the composition. -/
theorem join_runs {terms : List VerificationGrammar}
    {fits : VerificationGrammar → ℕ → Surroundings → (List ℕ → Bool) → Prop}
    (each : ∀ term index, (term, index) ∈ terms.zipIdx →
      ∃ run : Surroundings × (List ℕ → Bool), fits term index run.1 run.2) :
    ∃ run : Surroundings × (List ℕ → Bool), ∀ term index, (term, index) ∈ terms.zipIdx →
      fits term index (run.1.below index) fun place => run.2 (index :: place) := by
  obtain ⟨family, fitting⟩ := exists_family (.answering erredResult, fun _ => false) each
  exact ⟨(.join fun index => (family index).1, joinTruth fun index => (family index).2), fitting⟩

/-- The run comes to the value and has no unknowns. -/
def Attains (grammar : VerificationGrammar) (value : Bool) (surroundings : Surroundings) (truth : List ℕ → Bool) :
    Prop :=
  Decided surroundings grammar ∧ Replaces surroundings grammar truth ∧ grammar.holds truth = value

theorem exists_attains_some (grammar : VerificationGrammar) :
    ∃ value, Attains grammar value (.answering (verdictResult true)) fun _ => true := by
  refine ⟨_, fun _ _ _ => .inl rfl, fun place invocation _ => ?_, rfl⟩
  simp [outcome_verdict]

section Attaining

variable {terms : List VerificationGrammar} {value : Bool}

theorem decided_replaces_of_terms {grammar : VerificationGrammar} {surroundings : Surroundings} {truth : List ℕ → Bool}
    (composed : ∀ place, grammar.primitiveAt place = primitiveIn terms place)
    (each : ∀ term index, (term, index) ∈ terms.zipIdx →
      ∃ value, Attains term value (surroundings.below index) fun place => truth (index :: place)) :
    Decided surroundings grammar ∧ Replaces surroundings grammar truth := by
  constructor
  · refine (decided_terms composed).mpr fun term index member => ?_
    obtain ⟨_, decided, -⟩ := each term index member
    exact decided
  · refine (replaces_terms composed).mpr fun term index member => ?_
    obtain ⟨_, -, replaces, -⟩ := each term index member
    exact replaces

/-- If every term can have the value, one run gives it to all of them. -/
theorem exists_attains_each (can : eachCanBe value terms = true)
    (attains : ∀ term ∈ terms, term.canBe value = true →
      ∃ run : Surroundings × (List ℕ → Bool), Attains term value run.1 run.2) :
    ∃ run : Surroundings × (List ℕ → Bool), ∀ term index, (term, index) ∈ terms.zipIdx →
      Attains term value (run.1.below index) fun place => run.2 (index :: place) := by
  apply @join_runs terms fun term _ => Attains term value
  intro term index member
  have listed := List.fst_mem_of_mem_zipIdx member
  exact attains term listed (eachCanBe_iff.mp can term listed)

/-- If some term can have the value, one run gives it to that term and some value to the others. -/
theorem exists_attains_one (can : someCanBe value terms = true)
    (attains : ∀ term ∈ terms, term.canBe value = true →
      ∃ run : Surroundings × (List ℕ → Bool), Attains term value run.1 run.2) :
    ∃ run : Surroundings × (List ℕ → Bool),
      (∀ term index, (term, index) ∈ terms.zipIdx →
        ∃ given, Attains term given (run.1.below index) fun place => run.2 (index :: place)) ∧
      ∃ term index, (term, index) ∈ terms.zipIdx ∧
        Attains term value (run.1.below index) fun place => run.2 (index :: place) := by
  obtain ⟨target, listed, can⟩ := someCanBe_iff.mp can
  obtain ⟨position, there⟩ := exists_index listed 0
  have chosen : ∃ run : Surroundings × (List ℕ → Bool), ∀ term index, (term, index) ∈ terms.zipIdx →
      ∃ given, (index = position → given = value) ∧
        Attains term given (run.1.below index) fun place => run.2 (index :: place) := by
    apply @join_runs terms fun term index surroundings truth =>
      ∃ given, (index = position → given = value) ∧ Attains term given surroundings truth
    intro term index member
    by_cases same : index = position
    · have term_eq : target = term := by
        rw [same] at member
        exact Option.some_inj.mp ((List.mk_mem_zipIdx_iff_getElem?.mp there).symm.trans
          (List.mk_mem_zipIdx_iff_getElem?.mp member))
      obtain ⟨run, attained⟩ := attains target listed can
      exact ⟨run, value, fun _ => rfl, term_eq ▸ attained⟩
    · obtain ⟨given, attained⟩ := exists_attains_some term
      exact ⟨(_, _), given, fun equal => absurd equal same, attained⟩
  obtain ⟨run, fits⟩ := chosen
  refine ⟨run, fun term index member => ?_, target, position, there, ?_⟩
  · obtain ⟨given, -, attained⟩ := fits term index member
    exact ⟨given, attained⟩
  · obtain ⟨given, equal, attained⟩ := fits target position there
    exact equal rfl ▸ attained

end Attaining

variable {grammar : VerificationGrammar} {odd neutral value : Bool} {terms : List VerificationGrammar}
  {surroundings : Surroundings} {truth : List ℕ → Bool}

/-- A value an expression can have is attained. -/
theorem exists_attains (untimed : Untimed grammar) (can : grammar.canBe value = true) :
    ∃ run : Surroundings × (List ℕ → Bool), Attains grammar value run.1 run.2 := by
  induction grammar generalizing value with
  | primitive invocation =>
    refine ⟨(.answering (verdictResult value), fun _ => value), fun place invocation _ => ?_,
      fun place invocation _ => ?_, rfl⟩
    · cases value <;> simp [outcome_verdict]
    · cases value <;> simp [outcome_verdict]
  | all terms ih =>
    cases untimed with | all each =>
    have composed (place : List ℕ) : (VerificationGrammar.all terms).primitiveAt place = primitiveIn terms place := by
      rw [VerificationGrammar.primitiveAt]
    cases value with
    | true =>
      obtain ⟨run, attained⟩ := exists_attains_each can fun term listed => ih term listed (each term listed)
      have known := decided_replaces_of_terms composed fun term index member => ⟨_, attained term index member⟩
      exact ⟨run, known.1, known.2, holdsAll_iff.mpr fun term index member => (attained term index member).2.2⟩
    | false =>
      obtain ⟨run, attained, term, index, member, -, -, fails⟩ :=
        exists_attains_one can fun term listed => ih term listed (each term listed)
      have known := decided_replaces_of_terms composed attained
      refine ⟨run, known.1, known.2, ?_⟩
      rw [VerificationGrammar.holds, ← Bool.not_eq_true, holdsAll_iff]
      intro all
      simp [all term index member] at fails
  | any terms ih =>
    cases untimed with | any each =>
    have composed (place : List ℕ) : (VerificationGrammar.any terms).primitiveAt place = primitiveIn terms place := by
      rw [VerificationGrammar.primitiveAt]
    cases value with
    | true =>
      obtain ⟨run, attained, term, index, member, -, -, holds⟩ :=
        exists_attains_one can fun term listed => ih term listed (each term listed)
      have known := decided_replaces_of_terms composed attained
      exact ⟨run, known.1, known.2, holdsAny_iff.mpr ⟨term, index, member, holds⟩⟩
    | false =>
      obtain ⟨run, attained⟩ := exists_attains_each can fun term listed => ih term listed (each term listed)
      have known := decided_replaces_of_terms composed fun term index member => ⟨_, attained term index member⟩
      refine ⟨run, known.1, known.2, ?_⟩
      rw [VerificationGrammar.holds, ← Bool.not_eq_true, holdsAny_iff]
      rintro ⟨term, index, member, holds⟩
      simp [(attained term index member).2.2] at holds
  | not term ih =>
    cases untimed with | not below =>
    obtain ⟨run, decided, replaces, holds⟩ := ih below can
    refine ⟨(.join fun _ => run.1, joinTruth fun _ => run.2), decided_not.mpr decided, replaces_not.mpr replaces, ?_⟩
    rw [VerificationGrammar.holds]
    exact (congrArg _ holds).trans (Bool.not_not value)
  | eventually => cases untimed

/-- A bare primitive passes its probe error up to the composition. -/
theorem bare_errs (bare : grammar.bare = true) (primitiveTimeoutMs : ℕ) (scope : EvaluationScope) :
    (evaluate (.answering erredResult) grammar primitiveTimeoutMs scope).status = .probeError := by
  induction grammar generalizing scope with
  | primitive invocation => rw [evaluate, evaluatePrimitive_status, outcome_erred]
  | not term ih =>
    rw [evaluate]
    exact negated_probeError.mpr (ih bare { underNot := true })
  | _ => cases bare

/-- A replacement gives the expression one value while its outcome is read as the other. -/
def Misread (read : NodeOutcome → VerificationStatus) (odd : Bool) (grammar : VerificationGrammar)
    (surroundings : Surroundings) (truth : List ℕ → Bool) : Prop :=
  Replaces surroundings grammar truth ∧ grammar.holds truth = odd ∧
    ∀ primitiveTimeoutMs scope, (odd = true → scope.underNot = true) →
      read (evaluate surroundings grammar primitiveTimeoutMs scope) = if odd then .failed else .passed

theorem misread_bare (untimed : Untimed grammar) (bare : grammar.bare = true) :
    ∃ run : Surroundings × (List ℕ → Bool), Misread NodeOutcome.statusForParent true grammar run.1 run.2 := by
  obtain ⟨run, -, -, holds⟩ := exists_attains untimed (bare_canBe bare true)
  refine ⟨(.answering erredResult, run.2), fun place invocation _ =>
    ?_, holds, fun primitiveTimeoutMs scope under => ?_⟩
  · simp [outcome_erred]
  · exact statusForParent_failed.mpr
      (.inr ⟨bare_errs bare primitiveTimeoutMs scope, unmarked_under_not untimed _ (under rfl)⟩)

theorem Misread.byParent (misread : Misread NodeOutcome.status odd grammar surroundings truth) :
    Misread NodeOutcome.statusForParent odd grammar surroundings truth := by
  obtain ⟨replaces, holds, reads⟩ := misread
  refine ⟨replaces, holds, fun primitiveTimeoutMs scope under => ?_⟩
  have status := reads primitiveTimeoutMs scope under
  split_ifs at status ⊢
  · exact statusForParent_failed.mpr (.inl status)
  · exact statusForParent_passed.mpr status

/-- A term that swallows, or a bare primitive of a composition under an odd number of `not`s, is
misread in some run that gives every other term the neutral value. -/
theorem exists_misread_term {odd neutral : Bool} {terms : List VerificationGrammar}
    (each : ∀ term ∈ terms, Untimed term) (some : someSwallows odd neutral terms = true)
    (misread : ∀ term ∈ terms, term.swallows odd = true →
      ∃ run : Surroundings × (List ℕ → Bool), Misread NodeOutcome.status odd term run.1 run.2) :
    ∃ target position, (target, position) ∈ terms.zipIdx ∧
      ∃ run : Surroundings × (List ℕ → Bool), ∀ term index, (term, index) ∈ terms.zipIdx →
        (index = position → Misread NodeOutcome.statusForParent odd term (run.1.below index)
          fun place => run.2 (index :: place)) ∧
        (index ≠ position → Attains term neutral (run.1.below index) fun place => run.2 (index :: place)) := by
  obtain ⟨target, position, there, risky, others⟩ := (@someSwallows_iff odd neutral terms 0).mp some
  have listed := List.fst_mem_of_mem_zipIdx there
  have targeted : ∃ run : Surroundings × (List ℕ → Bool),
      Misread NodeOutcome.statusForParent odd target run.1 run.2 := by
    rcases risky with swallows | ⟨rfl, bare⟩
    · obtain ⟨run, misread⟩ := misread target listed swallows
      exact ⟨run, misread.byParent⟩
    · exact misread_bare (each target listed) bare
  refine ⟨target, position, there, @join_runs terms (fun term index surroundings truth =>
    (index = position → Misread NodeOutcome.statusForParent odd term surroundings truth) ∧
      (index ≠ position → Attains term neutral surroundings truth)) fun term index member => ?_⟩
  by_cases same : index = position
  · have term_eq : target = term := by
      rw [same] at member
      exact Option.some_inj.mp ((List.mk_mem_zipIdx_iff_getElem?.mp there).symm.trans
        (List.mk_mem_zipIdx_iff_getElem?.mp member))
    obtain ⟨run, misread⟩ := targeted
    exact ⟨run, fun _ => term_eq ▸ misread, fun apart => absurd same apart⟩
  · obtain ⟨run, attained⟩ :=
      exists_attains (each term (List.fst_mem_of_mem_zipIdx member)) (others term index member same)
    exact ⟨run, fun equal => absurd equal same, fun _ => attained⟩

theorem Attains.status (untimed : Untimed grammar) (attains : Attains grammar value surroundings truth)
    (primitiveTimeoutMs : ℕ) (scope : EvaluationScope) :
    (evaluate surroundings grammar primitiveTimeoutMs scope).status = if value then .passed else .failed := by
  obtain ⟨decided, replaces, holds⟩ := attains
  rw [evaluate_decided untimed decided replaces, holds]

theorem replaces_of_misread_term {odd neutral : Bool} {terms : List VerificationGrammar} {grammar : VerificationGrammar}
    {surroundings : Surroundings} {truth : List ℕ → Bool} {position : ℕ}
    (composed : ∀ place, grammar.primitiveAt place = primitiveIn terms place)
    (fits : ∀ term index, (term, index) ∈ terms.zipIdx →
      (index = position → Misread NodeOutcome.statusForParent odd term (surroundings.below index)
        fun place => truth (index :: place)) ∧
      (index ≠ position → Attains term neutral (surroundings.below index) fun place => truth (index :: place))) :
    Replaces surroundings grammar truth := by
  refine (replaces_terms composed).mpr fun term index member => ?_
  by_cases same : index = position
  · exact ((fits term index member).1 same).1
  · exact ((fits term index member).2 same).2.1

/-- An expression that swallows is misread in some run. -/
theorem exists_misread (untimed : Untimed grammar) (swallows : grammar.swallows odd = true) :
    ∃ run : Surroundings × (List ℕ → Bool), Misread NodeOutcome.status odd grammar run.1 run.2 := by
  induction grammar generalizing odd with
  | primitive => cases swallows
  | all terms ih =>
    cases untimed with | all each =>
    obtain ⟨target, position, there, run, fits⟩ :=
      exists_misread_term each swallows fun term listed => ih term listed (each term listed)
    obtain ⟨-, value, reads⟩ := (fits target position there).1 rfl
    refine ⟨run, replaces_of_misread_term (fun place => by rw [VerificationGrammar.primitiveAt]) fits, ?_,
      fun primitiveTimeoutMs scope under => ?_⟩
    · rw [VerificationGrammar.holds]
      cases odd with
      | true =>
        refine holdsAll_iff.mpr fun term index member => ?_
        by_cases same : index = position
        · exact ((fits term index member).1 same).2.1
        · exact ((fits term index member).2 same).2.2
      | false =>
        rw [← Bool.not_eq_true, holdsAll_iff]
        intro all
        simp [all target position there] at value
    · have passes {term : VerificationGrammar} {index : ℕ} (member : (term, index) ∈ terms.zipIdx)
          (apart : index ≠ position) :
          (evaluate (run.1.below index) term primitiveTimeoutMs scope).statusForParent = .passed :=
        statusForParent_passed.mpr (((fits term index member).2 apart).status
          (each term (List.fst_mem_of_mem_zipIdx member)) primitiveTimeoutMs scope)
      rw [evaluate]
      cases odd with
      | true =>
        exact evaluateAll_failed_of there (reads primitiveTimeoutMs scope under)
          fun term index member => passes member
      | false =>
        refine evaluateAll_passed_iff.mpr fun term index member => ?_
        by_cases same : index = position
        · exact ((fits term index member).1 same).2.2 primitiveTimeoutMs scope under
        · exact passes member same
  | any terms ih =>
    cases untimed with | any each =>
    obtain ⟨target, position, there, run, fits⟩ :=
      exists_misread_term each swallows fun term listed => ih term listed (each term listed)
    obtain ⟨-, value, reads⟩ := (fits target position there).1 rfl
    refine ⟨run, replaces_of_misread_term (fun place => by rw [VerificationGrammar.primitiveAt]) fits, ?_,
      fun primitiveTimeoutMs scope under => ?_⟩
    · rw [VerificationGrammar.holds]
      cases odd with
      | true => exact holdsAny_iff.mpr ⟨target, position, there, value⟩
      | false =>
        rw [← Bool.not_eq_true, holdsAny_iff]
        rintro ⟨term, index, member, holds⟩
        by_cases same : index = position
        · simp [((fits term index member).1 same).2.1] at holds
        · simp [((fits term index member).2 same).2.2] at holds
    · rw [evaluate]
      cases odd with
      | true =>
        refine evaluateAny_failed_iff.mpr ⟨rfl, rfl, fun term index member => ?_⟩
        have untimed := each term (List.fst_mem_of_mem_zipIdx member)
        have failed : (evaluate (run.1.below index) term primitiveTimeoutMs scope).statusForParent = .failed := by
          by_cases same : index = position
          · exact ((fits term index member).1 same).2.2 primitiveTimeoutMs scope under
          · exact statusForParent_failed.mpr
              (.inl (((fits term index member).2 same).status untimed primitiveTimeoutMs scope))
        rw [failed]
        exact ⟨by decide, by decide, unmarked_under_not untimed _ (under rfl)⟩
      | false =>
        exact evaluateAny_passed_iff.mpr ⟨target, position, there, reads primitiveTimeoutMs scope under⟩
  | not term ih =>
    cases untimed with | not below =>
    obtain ⟨run, replaces, value, reads⟩ := ih below swallows
    refine ⟨(.join fun _ => run.1, joinTruth fun _ => run.2), replaces_not.mpr replaces, ?_,
      fun primitiveTimeoutMs scope _ => ?_⟩
    · rw [VerificationGrammar.holds]
      exact (congrArg _ value).trans (Bool.not_not odd)
    · have status := reads primitiveTimeoutMs { underNot := true } fun _ => rfl
      rw [evaluate]
      cases odd with
      | true => exact negated_failed.mpr status
      | false => exact negated_passed.mpr status
  | eventually => cases untimed

/-! ## The executor -/

/-- The executor fails closed on an expression, whatever its primitives come to, exactly if no place of
the expression swallows a probe error. -/
theorem neverPassesUnknown_iff (executor : VerificationExecutor) (timeoutSeconds : ℕ)
    {grammar : VerificationGrammar} (untimed : Untimed grammar) :
    (∀ surroundings, FailsClosed surroundings grammar
        (executor.execute surroundings grammar timeoutSeconds).1) ↔ grammar.swallows false = false := by
  constructor
  · intro closed
    rw [← Bool.not_eq_true]
    intro swallows
    obtain ⟨run, replaces, value, reads⟩ := exists_misread untimed swallows
    have passed := reads (executor.primitiveTimeoutMs timeoutSeconds (primitiveCount grammar)) {} nofun
    have holds := (closed run.1).1 passed run.2 replaces
    rw [value] at holds
    cases holds
  · intro nothing surroundings
    exact ⟨fun passed truth replaces => (evaluate_sound untimed replaces _ _).1 nothing passed,
      fun decided truth replaces => evaluate_decided untimed decided replaces _ _⟩

def serviceHealthy : VerificationGrammar :=
  .primitive ⟨.httpOk, .object [("url", .string "http://127.0.0.1/")]⟩

def fileThere : VerificationGrammar :=
  .primitive ⟨.fileExists, .object [("object_or_path", .string "/tmp/aios-ok")]⟩

theorem neverPassesUnknown_iff_primitive :
    Untimed (.not serviceHealthy) ∧ ∀ surroundings, FailsClosed surroundings (.not serviceHealthy)
      ((⟨100⟩ : VerificationExecutor).execute surroundings (.not serviceHealthy) 1).1 :=
  ⟨.not (.primitive _), (neverPassesUnknown_iff ⟨100⟩ 1 (.not (.primitive _))).mpr rfl⟩

/-- The file exists, and the health of the service is unknown. -/
def healthUnknown : Surroundings where
  execution place _ := some (if place = [0, 0] then erredResult else verdictResult true)
  elapsedMs _ := 0
  remainingMs _ := []

/-- `not(all[http_ok(..), file_exists(..)])` passes while the health of the service is unknown; if the
service is healthy, it is false. -/
theorem passes_unknown_health :
    Untimed (.not (.all [serviceHealthy, fileThere])) ∧
      ((⟨100⟩ : VerificationExecutor).execute healthUnknown (.not (.all [serviceHealthy, fileThere])) 1).1 =
        .passed ∧
      ¬ FailsClosed healthUnknown (.not (.all [serviceHealthy, fileThere]))
        ((⟨100⟩ : VerificationExecutor).execute healthUnknown (.not (.all [serviceHealthy, fileThere])) 1).1 := by
  have passed : ((⟨100⟩ : VerificationExecutor).execute healthUnknown
      (.not (.all [serviceHealthy, fileThere])) 1).1 = .passed := by
    decide +kernel
  refine ⟨.not (.all ?_), passed, ?_⟩
  · intro term listed
    rcases List.mem_pair.mp listed with rfl | rfl <;> exact .primitive _
  · intro closed
    have replaces : Replaces healthUnknown (.not (.all [serviceHealthy, fileThere])) fun _ => true := by
      refine fun place invocation _ => ⟨fun _ => rfl, fun failed => ?_⟩
      change primitiveStatus (if place = [0, 0] then erredResult else verdictResult true) = .failed at failed
      have errs : primitiveStatus erredResult ≠ .failed := by decide
      split_ifs at failed
      · exact absurd failed errs
      · cases failed
    cases closed.1 passed (fun _ => true) replaces

end Aios.Verification
