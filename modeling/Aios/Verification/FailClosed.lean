import Aios.Verification.Outcomes

/-! # What a passed verification says about the primitives

Against the Boolean value of an expression: a passed status should leave no replacement of the
unknown primitives, those that time out or err, that makes the expression false. A probe error below a
`not` loses its load-bearing mark, so the composition it lands in reads it as a failure; under an odd
number of `not`s that failure comes out as a pass.
-/

namespace Aios.Verification

/-! ## Meaning of an expression -/

mutual

/-- The Boolean value, the primitives at their places being true or false. An `eventually` counts as
its term. -/
def VerificationGrammar.holds (truth : List ℕ → Bool) : VerificationGrammar → Bool
  | .primitive _ => truth []
  | .all terms => holdsAll truth terms 0
  | .any terms => holdsAny truth terms 0
  | .not term => !term.holds fun place => truth (0 :: place)
  | .eventually term _ _ => term.holds fun place => truth (0 :: place)

def holdsAll (truth : List ℕ → Bool) : List VerificationGrammar → ℕ → Bool
  | [], _ => true
  | term :: rest, index => term.holds (fun place => truth (index :: place)) && holdsAll truth rest (index + 1)

def holdsAny (truth : List ℕ → Bool) : List VerificationGrammar → ℕ → Bool
  | [], _ => false
  | term :: rest, index => term.holds (fun place => truth (index :: place)) || holdsAny truth rest (index + 1)

end

mutual

/-- The primitive at a place. -/
def VerificationGrammar.primitiveAt : VerificationGrammar → List ℕ → Option PrimitiveInvocation
  | .primitive invocation, [] => some invocation
  | .primitive _, _ :: _ => none
  | .all terms, place => primitiveIn terms place
  | .any terms, place => primitiveIn terms place
  | .not term, 0 :: place => term.primitiveAt place
  | .not _, _ => none
  | .eventually _ _ _, _ => none

def primitiveIn : List VerificationGrammar → List ℕ → Option PrimitiveInvocation
  | [], _ => none
  | term :: _, 0 :: place => term.primitiveAt place
  | _ :: rest, (index + 1) :: place => primitiveIn rest (index :: place)
  | _ :: _, [] => none

end

section

variable (surroundings : Surroundings)

/-- Truth values that keep the verdicts of the run and replace its unknowns by true or false. -/
def Replaces (grammar : VerificationGrammar) (truth : List ℕ → Bool) : Prop :=
  ∀ place invocation, grammar.primitiveAt place = some invocation →
    (surroundings.outcome place invocation = .passed → truth place = true) ∧
      (surroundings.outcome place invocation = .failed → truth place = false)

/-- No primitive of the expression times out or errs. -/
def Decided (grammar : VerificationGrammar) : Prop :=
  ∀ place invocation, grammar.primitiveAt place = some invocation →
    surroundings.outcome place invocation = .passed ∨ surroundings.outcome place invocation = .failed

/-- A status that claims no more than the verdicts bear: it passes only what every replacement makes
true, and without unknowns it is the Boolean value. -/
def FailsClosed (grammar : VerificationGrammar) (status : VerificationStatus) : Prop :=
  (status = .passed → ∀ truth, Replaces surroundings grammar truth → grammar.holds truth = true) ∧
    (Decided surroundings grammar → ∀ truth, Replaces surroundings grammar truth →
      status = if grammar.holds truth then .passed else .failed)

/-! ## Where an error is swallowed -/

end

mutual

/-- Some truth values give the expression this value: only empty compositions leave no choice. -/
def VerificationGrammar.canBe (value : Bool) : VerificationGrammar → Bool
  | .primitive _ => true
  | .all terms => if value then eachCanBe true terms else someCanBe false terms
  | .any terms => if value then someCanBe true terms else eachCanBe false terms
  | .not term => term.canBe !value
  | .eventually term _ _ => term.canBe value

def eachCanBe (value : Bool) : List VerificationGrammar → Bool
  | [] => true
  | term :: rest => term.canBe value && eachCanBe value rest

def someCanBe (value : Bool) : List VerificationGrammar → Bool
  | [] => false
  | term :: rest => term.canBe value || someCanBe value rest

end

mutual

/-- A bare primitive is a term of a composition that stands under an odd number of `not`s (counted
with those around the expression, as `odd` says), and no composition from there up is decided by its
other terms. -/
def VerificationGrammar.swallows (odd : Bool) : VerificationGrammar → Bool
  | .primitive _ => false
  | .all terms => someSwallows odd true terms
  | .any terms => someSwallows odd false terms
  | .not term => term.swallows !odd
  | .eventually term _ _ => term.swallows odd

def someSwallows (odd neutral : Bool) : List VerificationGrammar → Bool
  | [] => false
  | term :: rest =>
    ((term.swallows odd || (odd && term.bare)) && eachCanBe neutral rest) ||
      (term.canBe neutral && someSwallows odd neutral rest)

end

variable {odd neutral value : Bool} {surroundings : Surroundings} {terms : List VerificationGrammar}
  {truth : List ℕ → Bool} {grammar term : VerificationGrammar} {start : ℕ}

/-! ## The values, term by term -/

theorem holdsAll_iff :
    holdsAll truth terms start = true ↔ ∀ term index, (term, index) ∈ terms.zipIdx start →
      term.holds (fun place => truth (index :: place)) = true := by
  induction terms generalizing start with
  | nil => simp [holdsAll]
  | cons head tail ih =>
    simp only [holdsAll, Bool.and_eq_true, ih, mem_zipIdx_cons]
    constructor
    · rintro ⟨first, rest⟩ term index (⟨rfl, rfl⟩ | later)
      · exact first
      · exact rest term index later
    · intro each
      exact ⟨each head start (.inl ⟨rfl, rfl⟩), fun term index later => each term index (.inr later)⟩

theorem holdsAny_iff :
    holdsAny truth terms start = true ↔ ∃ term index, (term, index) ∈ terms.zipIdx start ∧
      term.holds (fun place => truth (index :: place)) = true := by
  induction terms generalizing start with
  | nil => simp [holdsAny]
  | cons head tail ih =>
    simp only [holdsAny, Bool.or_eq_true, ih, mem_zipIdx_cons]
    constructor
    · rintro (first | ⟨term, index, later, holds⟩)
      · exact ⟨head, start, .inl ⟨rfl, rfl⟩, first⟩
      · exact ⟨term, index, .inr later, holds⟩
    · rintro ⟨term, index, ⟨rfl, rfl⟩ | later, holds⟩
      · exact .inl holds
      · exact .inr ⟨term, index, later, holds⟩

theorem eachCanBe_iff : eachCanBe value terms = true ↔ ∀ term ∈ terms, term.canBe value = true := by
  induction terms with
  | nil => simp [eachCanBe]
  | cons head tail ih => simp [eachCanBe, ih]

theorem someCanBe_iff : someCanBe value terms = true ↔ ∃ term ∈ terms, term.canBe value = true := by
  induction terms with
  | nil => simp [someCanBe]
  | cons head tail ih => simp [someCanBe, ih]

theorem someSwallows_iff :
    someSwallows odd neutral terms = true ↔ ∃ term index, (term, index) ∈ terms.zipIdx start ∧
      (term.swallows odd = true ∨ odd = true ∧ term.bare = true) ∧
      ∀ other position, (other, position) ∈ terms.zipIdx start → position ≠ index →
        other.canBe neutral = true := by
  induction terms generalizing start with
  | nil => simp [someSwallows]
  | cons head tail ih =>
    have later {item : VerificationGrammar} {index : ℕ} (member : (item, index) ∈ tail.zipIdx (start + 1)) :
        start < index := by
      have := List.le_snd_of_mem_zipIdx member
      omega
    simp only [someSwallows, Bool.or_eq_true, Bool.and_eq_true, eachCanBe_iff, @ih (start + 1), mem_zipIdx_cons]
    constructor
    · rintro (⟨swallowed, rest⟩ | ⟨first, term, index, member, swallowed, rest⟩)
      · refine ⟨head, start, .inl ⟨rfl, rfl⟩, swallowed, ?_⟩
        rintro other position (⟨rfl, rfl⟩ | further) apart
        · exact absurd rfl apart
        · exact rest other (List.fst_mem_of_mem_zipIdx further)
      · refine ⟨term, index, .inr member, swallowed, ?_⟩
        rintro other position (⟨rfl, rfl⟩ | further) apart
        · exact first
        · exact rest other position further apart
    · rintro ⟨term, index, ⟨rfl, rfl⟩ | member, swallowed, rest⟩
      · refine .inl ⟨swallowed, fun other among => ?_⟩
        obtain ⟨position, further⟩ := exists_index among (index + 1)
        exact rest other position (.inr further) (later further).ne'
      · exact .inr ⟨rest head start (.inl ⟨rfl, rfl⟩) (later member).ne, term, index, member, swallowed,
          fun other position further => rest other position (.inr further)⟩

/-! ## Expressions with one possible value -/

theorem bare_canBe (bare : grammar.bare = true) (value : Bool) : grammar.canBe value = true := by
  induction grammar generalizing value with
  | primitive => rfl
  | not term ih => exact ih bare !value
  | _ => cases bare

theorem canBe_false_of_each (cannot : eachCanBe value terms = false) :
    ∃ term index, (term, index) ∈ terms.zipIdx ∧ term.canBe value = false := by
  rw [← Bool.not_eq_true, eachCanBe_iff] at cannot
  push Not at cannot
  obtain ⟨term, listed, cannot⟩ := cannot
  obtain ⟨index, member⟩ := exists_index listed 0
  exact ⟨term, index, member, by simpa using cannot⟩

theorem canBe_false_of_some (cannot : someCanBe value terms = false) (listed : term ∈ terms) :
    term.canBe value = false := by
  rw [← Bool.not_eq_true, someCanBe_iff] at cannot
  simpa using fun can => cannot ⟨term, listed, can⟩

/-- The executor does not give an expression the value it cannot have. -/
theorem status_of_cannot (untimed : Untimed grammar) (surroundings : Surroundings) (primitiveTimeoutMs : ℕ)
    (scope : EvaluationScope) :
    (grammar.canBe true = false →
        (evaluate surroundings grammar primitiveTimeoutMs scope).status ≠ .passed) ∧
      (grammar.canBe false = false →
        (evaluate surroundings grammar primitiveTimeoutMs scope).status ≠ .failed) := by
  induction grammar generalizing surroundings scope with
  | primitive => exact ⟨nofun, nofun⟩
  | all terms ih =>
    cases untimed with | all each =>
    rw [evaluate]
    constructor
    · intro cannot passed
      obtain ⟨term, index, member, cannot⟩ := canBe_false_of_each cannot
      have listed := List.fst_mem_of_mem_zipIdx member
      exact (ih term listed (each term listed) _ scope).1 cannot
        (statusForParent_passed.mp (evaluateAll_passed_iff.mp passed term index member))
    · intro cannot failed
      obtain ⟨term, index, member, -, reads | ⟨skipped, -⟩⟩ := evaluateAll_stopped (by rw [failed]; decide)
      · have listed := List.fst_mem_of_mem_zipIdx member
        have cannot := canBe_false_of_some cannot listed
        rcases reads_failed (each term listed) (reads.trans failed) with failed | bare
        · exact (ih term listed (each term listed) _ scope).2 cannot failed
        · simp [bare_canBe bare] at cannot
      · exact absurd skipped (statusForParent_ne_skipped (each term (List.fst_mem_of_mem_zipIdx member)))
  | any terms ih =>
    cases untimed with | any each =>
    rw [evaluate]
    constructor
    · intro cannot passed
      obtain ⟨term, index, member, passed⟩ := evaluateAny_passed_iff.mp passed
      have listed := List.fst_mem_of_mem_zipIdx member
      exact (ih term listed (each term listed) _ scope).1 (canBe_false_of_some cannot listed)
        (statusForParent_passed.mp passed)
    · intro cannot failed
      obtain ⟨term, index, member, cannot⟩ := canBe_false_of_each cannot
      have listed := List.fst_mem_of_mem_zipIdx member
      rcases reads_failed (each term listed) (any_reads_failed each failed member) with failed | bare
      · exact (ih term listed (each term listed) _ scope).2 cannot failed
      · simp [bare_canBe bare] at cannot
  | not term ih =>
    cases untimed with | not below =>
    rw [evaluate]
    have cannot := ih below (surroundings.below 0) { underNot := true }
    exact ⟨fun never passed => cannot.2 never (negated_passed.mp passed),
      fun never failed => cannot.1 never (negated_failed.mp failed)⟩
  | eventually => cases untimed

/-- Nor do truth values. -/
theorem holds_of_cannot (untimed : Untimed grammar) (cannot : grammar.canBe value = false) (truth : List ℕ → Bool) :
    grammar.holds truth = !value := by
  induction grammar generalizing value truth with
  | primitive => cases cannot
  | all terms ih =>
    cases untimed with | all each =>
    cases value with
    | true =>
      obtain ⟨term, index, member, cannot⟩ := canBe_false_of_each cannot
      have listed := List.fst_mem_of_mem_zipIdx member
      rw [VerificationGrammar.holds, Bool.not_true, ← Bool.not_eq_true, holdsAll_iff]
      intro all
      simpa [ih term listed (each term listed) cannot] using all term index member
    | false =>
      rw [VerificationGrammar.holds, Bool.not_false, holdsAll_iff]
      intro term index member
      have listed := List.fst_mem_of_mem_zipIdx member
      exact ih term listed (each term listed) (canBe_false_of_some cannot listed) _
  | any terms ih =>
    cases untimed with | any each =>
    cases value with
    | true =>
      rw [VerificationGrammar.holds, Bool.not_true, ← Bool.not_eq_true, holdsAny_iff]
      rintro ⟨term, index, member, holds⟩
      have listed := List.fst_mem_of_mem_zipIdx member
      simp [ih term listed (each term listed) (canBe_false_of_some cannot listed)] at holds
    | false =>
      obtain ⟨term, index, member, cannot⟩ := canBe_false_of_each cannot
      have listed := List.fst_mem_of_mem_zipIdx member
      rw [VerificationGrammar.holds, Bool.not_false, holdsAny_iff]
      exact ⟨term, index, member, ih term listed (each term listed) cannot _⟩
  | not term ih =>
    cases untimed with | not below =>
    rw [VerificationGrammar.holds, ih below cannot, Bool.not_not]
  | eventually => cases untimed

/-! ## Replacements, term by term -/

theorem primitiveIn_eq (terms : List VerificationGrammar) (index : ℕ) (place : List ℕ) :
    primitiveIn terms (index :: place) = terms[index]?.bind (·.primitiveAt place) := by
  induction terms generalizing index with
  | nil => simp [primitiveIn]
  | cons head tail ih =>
    cases index with
    | zero => simp [primitiveIn]
    | succ index => simp [primitiveIn, ih]

theorem primitiveIn_nil (terms : List VerificationGrammar) : primitiveIn terms [] = none := by
  cases terms <;> rfl

/-- A property of the primitives of a composition is one of those of each term. -/
theorem forall_primitiveIn {holds : List ℕ → PrimitiveInvocation → Prop} :
    (∀ place invocation, primitiveIn terms place = some invocation → holds place invocation) ↔
      ∀ term index, (term, index) ∈ terms.zipIdx → ∀ place invocation,
        term.primitiveAt place = some invocation → holds (index :: place) invocation := by
  constructor
  · intro each term index member place invocation there
    apply each
    rw [primitiveIn_eq, List.mk_mem_zipIdx_iff_getElem?.mp member]
    exact there
  · intro each place invocation there
    cases place with
    | nil => simp [primitiveIn_nil] at there
    | cons index place =>
      rw [primitiveIn_eq] at there
      obtain ⟨term, listed, there⟩ := Option.bind_eq_some_iff.mp there
      exact each term index (List.mk_mem_zipIdx_iff_getElem?.mpr listed) place invocation there

theorem replaces_terms (composed : ∀ place, grammar.primitiveAt place = primitiveIn terms place) :
    Replaces surroundings grammar truth ↔ ∀ term index, (term, index) ∈ terms.zipIdx →
      Replaces (surroundings.below index) term fun place => truth (index :: place) := by
  rw [Replaces]
  simp only [composed]
  exact forall_primitiveIn

theorem replaces_not :
    Replaces surroundings (.not term) truth ↔
      Replaces (surroundings.below 0) term fun place => truth (0 :: place) := by
  constructor
  · intro replaces place invocation there
    exact replaces (0 :: place) invocation there
  · intro replaces place invocation there
    match place, there with
    | 0 :: place, there => exact replaces place invocation there

/-! ## Soundness of the statuses -/

/-- In an expression that swallows nothing here, a term that could be swallowed has a sibling that
decides the composition. -/
theorem harmless_of_not_swallows (nothing : someSwallows odd neutral terms = false) {index : ℕ}
    (member : (term, index) ∈ terms.zipIdx) :
    (term.swallows odd = false ∧ (odd = true → term.bare = false)) ∨
      ∃ other position, (other, position) ∈ terms.zipIdx ∧ other.canBe neutral = false := by
  rw [← Bool.not_eq_true, @someSwallows_iff odd neutral terms 0] at nothing
  push Not at nothing
  by_cases risky : term.swallows odd = true ∨ odd = true ∧ term.bare = true
  · obtain ⟨other, position, listed, -, cannot⟩ := nothing term index member risky
    exact .inr ⟨other, position, listed, by simpa using cannot⟩
  · push Not at risky
    simpa using Or.inl risky

/-- Where nothing is swallowed, a pass outside an odd number of `not`s and a failure inside one are
the value under every replacement. -/
theorem evaluate_sound (untimed : Untimed grammar) (replaces : Replaces surroundings grammar truth)
    (primitiveTimeoutMs : ℕ) (scope : EvaluationScope) :
    (grammar.swallows false = false →
      (evaluate surroundings grammar primitiveTimeoutMs scope).status = .passed → grammar.holds truth = true) ∧
    (grammar.swallows true = false → scope.underNot = true →
      (evaluate surroundings grammar primitiveTimeoutMs scope).status = .failed →
        grammar.holds truth = false) := by
  induction grammar generalizing surroundings truth scope with
  | primitive invocation =>
    rw [evaluate, evaluatePrimitive_status]
    exact ⟨fun _ => (replaces [] invocation rfl).1, fun _ _ => (replaces [] invocation rfl).2⟩
  | all terms ih =>
    cases untimed with | all each =>
    have replaces := (replaces_terms fun place => by rw [VerificationGrammar.primitiveAt]).mp replaces
    rw [evaluate, VerificationGrammar.holds, VerificationGrammar.swallows, VerificationGrammar.swallows]
    constructor
    · intro nothing passed
      have passed := evaluateAll_passed_iff.mp passed
      refine holdsAll_iff.mpr fun term index member => ?_
      have listed := List.fst_mem_of_mem_zipIdx member
      rcases harmless_of_not_swallows nothing member with ⟨nothing, -⟩ | ⟨other, position, among, cannot⟩
      · exact (ih term listed (each term listed) (replaces term index member) scope).1 nothing
          (statusForParent_passed.mp (passed term index member))
      · have present := List.fst_mem_of_mem_zipIdx among
        exact absurd (statusForParent_passed.mp (passed other position among))
          ((status_of_cannot (each other present) _ _ _).1 cannot)
    · intro nothing under failed
      rw [← Bool.not_eq_true, holdsAll_iff]
      intro all
      obtain ⟨term, index, member, -, reads | ⟨skipped, -⟩⟩ := evaluateAll_stopped (by rw [failed]; decide)
      · have listed := List.fst_mem_of_mem_zipIdx member
        rcases harmless_of_not_swallows nothing member with ⟨nothing, covered⟩ | ⟨other, position, among, cannot⟩
        · rcases reads_failed (each term listed) (reads.trans failed) with failed | bare
          · have value := (ih term listed (each term listed) (replaces term index member) scope).2 nothing under failed
            simp [all term index member] at value
          · simp [covered rfl] at bare
        · have value := holds_of_cannot (each other (List.fst_mem_of_mem_zipIdx among)) cannot
          simpa [value] using all other position among
      · exact absurd skipped (statusForParent_ne_skipped (each term (List.fst_mem_of_mem_zipIdx member)))
  | any terms ih =>
    cases untimed with | any each =>
    have replaces := (replaces_terms fun place => by rw [VerificationGrammar.primitiveAt]).mp replaces
    rw [evaluate, VerificationGrammar.holds, VerificationGrammar.swallows, VerificationGrammar.swallows]
    constructor
    · intro nothing passed
      obtain ⟨term, index, member, passed⟩ := evaluateAny_passed_iff.mp passed
      rw [holdsAny_iff]
      rcases harmless_of_not_swallows nothing member with ⟨nothing, -⟩ | ⟨other, position, among, cannot⟩
      · have listed := List.fst_mem_of_mem_zipIdx member
        exact ⟨term, index, member, (ih term listed (each term listed) (replaces term index member) scope).1 nothing
          (statusForParent_passed.mp passed)⟩
      · exact ⟨other, position, among, holds_of_cannot (each other (List.fst_mem_of_mem_zipIdx among)) cannot _⟩
    · intro nothing under failed
      rw [← Bool.not_eq_true, holdsAny_iff]
      rintro ⟨term, index, member, holds⟩
      have listed := List.fst_mem_of_mem_zipIdx member
      rcases harmless_of_not_swallows nothing member with ⟨nothing, covered⟩ | ⟨other, position, among, cannot⟩
      · rcases reads_failed (each term listed) (any_reads_failed each failed member) with failed | bare
        · have value := (ih term listed (each term listed) (replaces term index member) scope).2 nothing under failed
          simp [holds] at value
        · simp [covered rfl] at bare
      · have present := List.fst_mem_of_mem_zipIdx among
        rcases reads_failed (each other present) (any_reads_failed each failed among) with failed | bare
        · exact (status_of_cannot (each other present) _ _ _).2 cannot failed
        · simp [bare_canBe bare] at cannot
  | not term ih =>
    cases untimed with | not below =>
    have sound := ih below (replaces_not.mp replaces) { underNot := true }
    rw [evaluate, VerificationGrammar.holds]
    constructor
    · intro nothing passed
      rw [sound.2 nothing rfl (negated_passed.mp passed), Bool.not_false]
    · intro nothing _ failed
      rw [sound.1 nothing (negated_failed.mp failed), Bool.not_true]
  | eventually => cases untimed

/-! ## Runs without unknowns -/

theorem decided_terms (composed : ∀ place, grammar.primitiveAt place = primitiveIn terms place) :
    Decided surroundings grammar ↔ ∀ term index, (term, index) ∈ terms.zipIdx →
      Decided (surroundings.below index) term := by
  rw [Decided]
  simp only [composed]
  exact forall_primitiveIn

theorem decided_not : Decided surroundings (.not term) ↔ Decided (surroundings.below 0) term := by
  constructor
  · intro decided place invocation there
    exact decided (0 :: place) invocation there
  · intro decided place invocation there
    match place, there with
    | 0 :: place, there => exact decided place invocation there

theorem evaluate_decided (untimed : Untimed grammar) (decided : Decided surroundings grammar)
    (replaces : Replaces surroundings grammar truth) (primitiveTimeoutMs : ℕ) (scope : EvaluationScope) :
    (evaluate surroundings grammar primitiveTimeoutMs scope).status =
      if grammar.holds truth then .passed else .failed := by
  induction grammar generalizing surroundings truth scope with
  | primitive invocation =>
    rw [evaluate, evaluatePrimitive_status, VerificationGrammar.holds]
    rcases decided [] invocation rfl with passed | failed
    · rw [passed, (replaces [] invocation rfl).1 passed, if_pos rfl]
    · rw [failed, (replaces [] invocation rfl).2 failed, if_neg Bool.false_ne_true]
  | all terms ih =>
    cases untimed with | all each =>
    have value {term : VerificationGrammar} {index : ℕ} (member : (term, index) ∈ terms.zipIdx) :=
      ih term (List.fst_mem_of_mem_zipIdx member) (each term (List.fst_mem_of_mem_zipIdx member))
        ((decided_terms fun place => by rw [VerificationGrammar.primitiveAt]).mp decided term index member)
        ((replaces_terms fun place => by rw [VerificationGrammar.primitiveAt]).mp replaces term index member) scope
    rw [evaluate, VerificationGrammar.holds]
    split_ifs with holds
    · refine evaluateAll_passed_iff.mpr fun term index member => statusForParent_passed.mpr ?_
      rw [value member, if_pos (holdsAll_iff.mp holds term index member)]
    · have stopped : (evaluateAll surroundings terms primitiveTimeoutMs scope 0 []).status ≠ .passed := by
        intro passed
        apply holds
        refine holdsAll_iff.mpr fun term index member => ?_
        have passed := statusForParent_passed.mp (evaluateAll_passed_iff.mp passed term index member)
        rw [value member] at passed
        split_ifs at passed with holds
        exact holds
      obtain ⟨term, index, member, -, reads | ⟨-, failed⟩⟩ := evaluateAll_stopped stopped
      · rw [← reads] at stopped ⊢
        have verdict := value member
        split_ifs at verdict
        · exact absurd (statusForParent_passed.mpr verdict) stopped
        · exact statusForParent_failed.mpr (.inl verdict)
      · exact failed
  | any terms ih =>
    cases untimed with | any each =>
    have value {term : VerificationGrammar} {index : ℕ} (member : (term, index) ∈ terms.zipIdx) :=
      ih term (List.fst_mem_of_mem_zipIdx member) (each term (List.fst_mem_of_mem_zipIdx member))
        ((decided_terms fun place => by rw [VerificationGrammar.primitiveAt]).mp decided term index member)
        ((replaces_terms fun place => by rw [VerificationGrammar.primitiveAt]).mp replaces term index member) scope
    rw [evaluate, VerificationGrammar.holds]
    split_ifs with holds
    · obtain ⟨term, index, member, holds⟩ := holdsAny_iff.mp holds
      refine evaluateAny_passed_iff.mpr ⟨term, index, member, statusForParent_passed.mpr ?_⟩
      rw [value member, if_pos holds]
    · refine evaluateAny_failed_iff.mpr ⟨rfl, rfl, fun term index member => ?_⟩
      have failed := value member
      rw [if_neg fun holding => holds (holdsAny_iff.mpr ⟨term, index, member, holding⟩)] at failed
      rw [statusForParent_failed.mpr (.inl failed)]
      refine ⟨by decide, by decide, ?_⟩
      rw [← Bool.not_eq_true]
      intro marked
      rw [erred_of_marked (each term (List.fst_mem_of_mem_zipIdx member)) marked] at failed
      cases failed
  | not term ih =>
    cases untimed with | not below =>
    rw [evaluate, VerificationGrammar.holds, ih below (decided_not.mp decided) (replaces_not.mp replaces)]
    cases term.holds fun place => truth (0 :: place) <;> rfl
  | eventually => cases untimed

end Aios.Verification
