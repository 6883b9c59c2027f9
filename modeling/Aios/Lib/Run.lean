import Mathlib.Data.List.Induction

/-! # Runs of a deterministic step function

A machine is a step function from a state and an input to the next state. A run folds the step
over a list of inputs; every intermediate state is the run of a prefix. `Along` states a property
of each step of a run, seen from the state in which the step is taken; `stateAt` is the state at a
moment of a run; `trace` pairs each input with the reply of its step.
-/

namespace StepRun

variable {σ ι ρ : Type*}

variable {step : σ → ι → σ} {reply : σ → ι → ρ} {count : ℕ} (Inv : σ → Prop) {start : σ} {inputs : List ι}

/-- The state after all inputs have been consumed in order. -/
def run (step : σ → ι → σ) (start : σ) (inputs : List ι) : σ := inputs.foldl step start

@[simp] theorem run_nil (step : σ → ι → σ) (start : σ) : run step start [] = start := rfl

@[simp] theorem run_cons (step : σ → ι → σ) (start : σ) (input : ι) (rest : List ι) :
    run step start (input :: rest) = run step (step start input) rest := rfl

theorem run_append (step : σ → ι → σ) (start : σ) (first second : List ι) :
    run step start (first ++ second) = run step (run step start first) second :=
  List.foldl_append

/-- `Along step P start inputs`: each step of the run satisfies `P` at the state it starts from. -/
def Along (step : σ → ι → σ) (P : σ → ι → Prop) : σ → List ι → Prop
  | _, [] => True
  | start, input :: rest => P start input ∧ Along step P (step start input) rest

@[simp] theorem along_nil (step : σ → ι → σ) (P : σ → ι → Prop) (start : σ) :
    Along step P start [] := trivial

@[simp] theorem along_cons (step : σ → ι → σ) (P : σ → ι → Prop) (start : σ) (input : ι) (rest : List ι) :
    Along step P start (input :: rest) ↔ P start input ∧ Along step P (step start input) rest :=
  Iff.rfl

/-- A property along a run is one along its first part and along the rest. -/
theorem along_append {P : σ → ι → Prop} {first second : List ι} :
    Along step P start (first ++ second) ↔ Along step P start first ∧ Along step P (run step start first) second := by
  induction first generalizing start with
  | nil => simp
  | cons input rest ih => rw [List.cons_append, along_cons, along_cons, ih, run_cons, and_assoc]

/-- A property along the run is a property of every cut of its input list. -/
theorem along_iff_cut (step : σ → ι → σ) (P : σ → ι → Prop) (start : σ) (inputs : List ι) :
    Along step P start inputs ↔
      ∀ before input after, inputs = before ++ input :: after → P (run step start before) input := by
  induction inputs generalizing start with
  | nil => simp
  | cons head rest ih =>
    rw [along_cons, ih]
    constructor
    · rintro ⟨first, later⟩ before input after split
      cases before with
      | nil =>
        obtain ⟨rfl, rfl⟩ := List.cons.inj split
        exact first
      | cons skipped before =>
        obtain ⟨same, tail⟩ := List.cons.inj split
        subst same
        exact later before input after tail
    · intro cuts
      refine ⟨cuts [] head rest rfl, ?_⟩
      intro before input after split
      exact cuts (head :: before) input after (by rw [split, List.cons_append])

/-- Where two properties of a step agree under an invariant that the first keeps, they agree along runs. -/
theorem along_iff_along {P Q : σ → ι → Prop} (kept : ∀ state input, Inv state → P state input → Inv (step state input))
    (same : ∀ state input, Inv state → (P state input ↔ Q state input)) (initial : Inv start) (inputs : List ι) :
    Along step P start inputs ↔ Along step Q start inputs := by
  induction inputs generalizing start with
  | nil => exact Iff.rfl
  | cons input rest ih =>
    rw [along_cons, along_cons, ← same start input initial]
    exact and_congr_right fun holds => ih (kept start input initial holds)

/-- The inputs up to and including a step of the run. -/
theorem upTo_of_cut {before rest : List ι} {input : ι} (split : inputs = before ++ input :: rest) :
    before ++ [input] <+: inputs := ⟨rest, by rw [split, List.append_assoc, List.singleton_append]⟩

/-- An invariant of every step holds in the final state of every run. -/
theorem run_invariant (preserved : ∀ state input, Inv state → Inv (step state input)) {start : σ} (initial : Inv start)
    (inputs : List ι) : Inv (run step start inputs) := by
  induction inputs generalizing start with
  | nil => exact initial
  | cons input rest ih => exact ih (preserved start input initial)

/-- An invariant of the inputs consumed so far and the state they lead to, kept by the steps a run
actually takes. -/
theorem run_invariant_along {step : σ → ι → σ} (Inv : List ι → σ → Prop) {start : σ} {inputs : List ι}
    (initial : Inv [] start)
    (preserved : ∀ before input rest, inputs = before ++ input :: rest →
      Inv before (run step start before) → Inv (before ++ [input]) (step (run step start before) input)) :
    ∀ before, before <+: inputs → Inv before (run step start before) := by
  intro before
  induction before using List.reverseRecOn with
  | nil => exact fun _ => initial
  | append_singleton before input ih =>
    rintro ⟨rest, split⟩
    have cut : inputs = before ++ input :: rest := by rw [← split, List.append_assoc, List.singleton_append]
    rw [run_append]
    exact preserved before input rest cut (ih ⟨input :: rest, cut.symm⟩)

/-- An invariant kept by the steps a run actually takes holds in every state on its way. -/
theorem run_invariant_cut {step : σ → ι → σ} (Inv : σ → Prop) {start : σ} {inputs : List ι} (initial : Inv start)
    (preserved : ∀ before input rest, inputs = before ++ input :: rest →
      Inv (run step start before) → Inv (step (run step start before) input)) :
    ∀ before, before <+: inputs → Inv (run step start before) :=
  run_invariant_along (fun _ => Inv) initial preserved

/-- Where a step keeps the invariant exactly if it fits what came before, the invariant holds in every
state of a run exactly if every step of it fits. -/
theorem forall_prefix_iff_along {step : σ → ι → σ} {Inv : List ι → σ → Prop} {Fits : List ι → ι → Prop}
    {start : σ} {inputs : List ι} (initial : Inv [] start)
    (kept : ∀ before input rest, inputs = before ++ input :: rest → Inv before (run step start before) →
      (Inv (before ++ [input]) (step (run step start before) input) ↔ Fits before input)) :
    (∀ before, before <+: inputs → Inv before (run step start before)) ↔
      ∀ before input rest, inputs = before ++ input :: rest → Fits before input := by
  constructor
  · intro holds before input rest split
    have here := holds before ⟨input :: rest, split.symm⟩
    have next := holds (before ++ [input]) (upTo_of_cut split)
    rw [run_append] at next
    exact (kept before input rest split here).mp next
  · intro fits
    apply run_invariant_along Inv initial
    intro before input rest split here
    exact (kept before input rest split here).mpr (fits before input rest split)

/-- The same for an invariant of the state alone. -/
theorem forall_prefix_iff_cut {step : σ → ι → σ} {Inv : σ → Prop} {Fits : σ → ι → Prop} {start : σ}
    {inputs : List ι} (initial : Inv start)
    (kept : ∀ before input rest, inputs = before ++ input :: rest → Inv (run step start before) →
      (Inv (step (run step start before) input) ↔ Fits (run step start before) input)) :
    (∀ before, before <+: inputs → Inv (run step start before)) ↔
      ∀ before input rest, inputs = before ++ input :: rest → Fits (run step start before) input :=
  @forall_prefix_iff_along σ ι step (fun _ => Inv) (fun before => Fits (run step start before)) start inputs
    initial kept

/-! ## Moments -/

/-- The state after the first `count` inputs of a run. -/
def stateAt (step : σ → ι → σ) (start : σ) (inputs : List ι) (count : ℕ) : σ := run step start (inputs.take count)

theorem stateAt_succ {input : ι} (taken : inputs[count]? = some input) :
    stateAt step start inputs (count + 1) = step (stateAt step start inputs count) input := by
  rw [stateAt, stateAt, List.take_add_one, taken, run_append]
  rfl

/-- An invariant of the moment and the state, kept by the steps a run actually takes. -/
theorem stateAt_invariant (Inv : ℕ → σ → Prop) (initial : Inv 0 start)
    (preserved : ∀ count input, inputs[count]? = some input → Inv count (stateAt step start inputs count) →
      Inv (count + 1) (step (stateAt step start inputs count) input))
    (bound : count ≤ inputs.length) : Inv count (stateAt step start inputs count) := by
  induction count with
  | zero => exact initial
  | succ count ih =>
    have taken : inputs[count]? = some inputs[count] := List.getElem?_eq_getElem bound
    rw [stateAt_succ taken]
    exact preserved count _ taken (ih (Nat.le_of_succ_le bound))

/-! ## Replies -/

/-- The inputs of a run, each with the reply its step gives. -/
def trace (step : σ → ι → σ) (reply : σ → ι → ρ) : σ → List ι → List (ι × ρ)
  | _, [] => []
  | start, input :: rest => (input, reply start input) :: trace step reply (step start input) rest

theorem trace_append (step : σ → ι → σ) (reply : σ → ι → ρ) (start : σ) (first second : List ι) :
    trace step reply start (first ++ second) =
      trace step reply start first ++ trace step reply (run step start first) second := by
  induction first generalizing start with
  | nil => rfl
  | cons input rest ih =>
    change (input, reply start input) :: trace step reply (step start input) (rest ++ second) = _
    rw [ih]
    rfl

/-- The trace of one more input. -/
theorem trace_append_singleton (step : σ → ι → σ) (reply : σ → ι → ρ) (start : σ) (before : List ι) (input : ι) :
    trace step reply start (before ++ [input]) =
      trace step reply start before ++ [(input, reply (run step start before) input)] :=
  trace_append step reply start before [input]

/-- A cut of a trace is the trace of a cut. -/
theorem trace_cut {before after : List (ι × ρ)} {entry : ι × ρ}
    (split : trace step reply start inputs = before ++ entry :: after) :
    ∃ earlier input later, inputs = earlier ++ input :: later ∧ before = trace step reply start earlier ∧
      entry = (input, reply (run step start earlier) input) := by
  induction inputs generalizing start before with
  | nil => simp [trace] at split
  | cons head rest ih =>
    cases before with
    | nil =>
      obtain ⟨first, -⟩ := List.cons.inj split
      exact ⟨[], head, rest, rfl, rfl, first.symm⟩
    | cons skipped before =>
      obtain ⟨first, tail⟩ := List.cons.inj split
      obtain ⟨earlier, input, later, rfl, rfl, rfl⟩ := ih tail
      refine ⟨head :: earlier, input, later, rfl, ?_, rfl⟩
      rw [← first]
      rfl

/-- A property of every entry of a trace and of what came before it is one of every cut of the run. -/
theorem forall_trace_iff_cut {P : List (ι × ρ) → ι × ρ → Prop} :
    (∀ before entry after, trace step reply start inputs = before ++ entry :: after → P before entry) ↔
      ∀ earlier input later, inputs = earlier ++ input :: later →
        P (trace step reply start earlier) (input, reply (run step start earlier) input) := by
  constructor
  · intro holds earlier input later split
    apply holds _ _ (trace step reply (run step start (earlier ++ [input])) later)
    rw [split, trace_append, run_append]
    rfl
  · intro holds before entry after split
    obtain ⟨earlier, input, later, cut, rfl, rfl⟩ := trace_cut split
    exact holds earlier input later cut

end StepRun
