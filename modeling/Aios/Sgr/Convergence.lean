import Aios.Lib.Fallible
import Aios.Sgr.GraphCalls

/-! # Views of convergence

Three answers to whether the graph has reached what its units ask for: `graph_state` of the store and
`convergence_state` and `is_converged` of the evaluator. The store looks at the states of the units
alone; the evaluator compares each with the state its manifest desires.
-/

namespace Aios.Sgr

open Aios.Rust

variable {units : List ServiceUnit} (graph : InMemoryServiceGraph) (order : IterationOrder ServiceUnit)

inductive GraphState where
  | empty
  | resolving
  | converging
  | converged
  | degraded
  | failed
  deriving DecidableEq, Repr

/-- `str::eq_ignore_ascii_case`. -/
def eqIgnoreAsciiCase (text other : String) : Bool := text.toList.map Char.toLower == other.toList.map Char.toLower

/-- The store and the evaluator have one copy each. -/
def isCriticalUnit (unit : ServiceUnit) : Bool :=
  (((unit.manifest.labels.bind (·.get "criticality")).bind Json.asStr).any (eqIgnoreAsciiCase · "critical"))

/-- `InMemoryServiceGraph::graph_state`. -/
def InMemoryServiceGraph.graphState : GraphState :=
  let units := graph.units.values
  if units.isEmpty then .empty
  else if units.any (·.state == .failed) then
    let failedCount := units.countP (·.state == .failed)
    let criticalFailed := units.any fun unit => unit.state == .failed && isCriticalUnit unit
    if criticalFailed || failedCount == units.length then .failed else .degraded
  else if units.any fun unit => [.degraded, .unhealthy, .retired].contains unit.state then .degraded
  else if units.any fun unit => [.draft, .queued, .starting, .stopping].contains unit.state then .converging
  else .converged

/-! ## The evaluator -/

def isTransitional (state : UnitState) : Bool := [.draft, .queued, .starting, .stopping].contains state

def desiredStateMatches (desiredState : DesiredState) (unitState : UnitState) : Bool :=
  match desiredState with
  | .running | .restarted | .reloaded => isRunningStable unitState
  | .stopped => unitState == .stopped

def isConverged (order : IterationOrder ServiceUnit) : Bool :=
  (graph.listUnits order).all fun unit =>
    !isTransitional unit.state && desiredStateMatches unit.manifest.desiredState unit.state

/-- What `convergence_state` derives from the listed units. -/
def convergenceOf (units : List ServiceUnit) : GraphState :=
  if units.isEmpty then .empty
  else if units.any (·.state == .failed) then
    let failedCount := units.countP (·.state == .failed)
    let criticalFailed := units.any fun unit => unit.state == .failed && isCriticalUnit unit
    if criticalFailed || failedCount == units.length then .failed else .degraded
  else if units.any fun unit => [.degraded, .unhealthy, .retired].contains unit.state then .degraded
  else if units.any fun unit => isTransitional unit.state then .converging
  else if units.all fun unit => desiredStateMatches unit.manifest.desiredState unit.state then .converged
  else .converging

/-- `emitter` is what an attached emitter answers to the state and the number of units. -/
def convergenceState (order : IterationOrder ServiceUnit) (emitter : Option (GraphState → ℕ → Except SgrError Unit)) :
    Except SgrError GraphState := do
  let units := graph.listUnits order
  let state := convergenceOf units
  if state == .converged then
    if let some emit := emitter then
      emit state units.length
  return state

/-! ## Where the views part -/

/-- Every unit is up or down for good. -/
def Settled (units : List ServiceUnit) : Prop :=
  ∀ unit ∈ units, unit.state = .running ∨ unit.state = .healthy ∨ unit.state = .stopped

/-- Every unit is in the state its manifest asks for. -/
def AsDesired (units : List ServiceUnit) : Prop :=
  ∀ unit ∈ units, desiredStateMatches unit.manifest.desiredState unit.state = true

theorem not_isTransitional_of_matches {desired : DesiredState} {state : UnitState}
    (fits : desiredStateMatches desired state = true) :
    isTransitional state = false ∧ (state = .running ∨ state = .healthy ∨ state = .stopped) := by
  cases desired <;> cases state <;> simp_all [desiredStateMatches, isRunningStable, isTransitional]

/-- The listing holds the stored units in some order, so the evaluator derives what it would from the store. -/
theorem convergenceOf_perm {listed : List ServiceUnit} (perm : listed.Perm units) :
    convergenceOf listed = convergenceOf units := by
  simp only [convergenceOf, perm.any_eq, perm.all_eq, perm.isEmpty_eq, perm.countP_eq, perm.length_eq]

/-- A state that none of the three tests of a cascade finds is settled. -/
theorem settled_of_untested (failed : ¬ units.any (·.state == .failed) = true)
    (degraded : ¬ (units.any fun unit => [.degraded, .unhealthy, .retired].contains unit.state) = true)
    (transitional : ¬ (units.any fun unit => isTransitional unit.state) = true) : Settled units := by
  intro unit member
  rw [List.any_eq_true, not_exists] at failed degraded transitional
  have up := failed unit
  have whole := degraded unit
  have still := transitional unit
  cases state : unit.state <;> simp_all [isTransitional]

theorem tests_of_settled (settled : Settled units) :
    units.any (·.state == .failed) = false ∧
      (units.any fun unit => [.degraded, .unhealthy, .retired].contains unit.state) = false ∧
      (units.any fun unit => isTransitional unit.state) = false := by
  simp only [List.any_eq_false]
  refine ⟨fun unit member => ?_, fun unit member => ?_, fun unit member => ?_⟩
  all_goals
    obtain state | state | state := settled unit member
    all_goals
      rw [state]
      decide

/-- Off the settled graphs the two cascades end in the same branch. -/
theorem graphState_of_unsettled {graph : InMemoryServiceGraph} (restless : ¬ Settled graph.units.values) :
    graph.graphState = convergenceOf graph.units.values := by
  rw [InMemoryServiceGraph.graphState, convergenceOf]
  change (if _ then _ else if _ then _ else if _ then _ else
    if (graph.units.values.any fun unit => isTransitional unit.state) = true then _ else _) = _
  split_ifs with empty failed degraded transitional
  all_goals first | rfl | exact absurd (settled_of_untested failed degraded transitional) restless

/-- On a settled graph with units the store answers `CONVERGED`, the evaluator only if they are as desired. -/
theorem states_of_settled {graph : InMemoryServiceGraph} (settled : Settled graph.units.values)
    (some_unit : graph.units.values ≠ []) :
    graph.graphState = .converged ∧
      convergenceOf graph.units.values =
        if (graph.units.values.all fun unit => desiredStateMatches unit.manifest.desiredState unit.state)
          then .converged else .converging := by
  obtain ⟨failed, degraded, transitional⟩ := tests_of_settled settled
  have filled : graph.units.values.isEmpty = false := List.isEmpty_eq_false_iff.mpr some_unit
  constructor
  · rw [InMemoryServiceGraph.graphState]
    change (if _ then _ else if _ then _ else if _ then _ else
      if (graph.units.values.any fun unit => isTransitional unit.state) = true then _ else _) = _
    simp only [filled, failed, degraded, transitional, Bool.false_eq_true, if_false]
  · simp only [convergenceOf, filled, failed, degraded, transitional, Bool.false_eq_true, if_false]

theorem graphState_eq_iff :
    graph.graphState = convergenceOf graph.units.values ↔
      ¬ Settled graph.units.values ∨ AsDesired graph.units.values := by
  by_cases settled : Settled graph.units.values
  · by_cases empty : graph.units.values = []
    · refine iff_of_true ?_ (.inr fun unit member => ?_)
      · simp [InMemoryServiceGraph.graphState, convergenceOf, empty]
      · rw [empty] at member
        cases member
    · obtain ⟨stored, derived⟩ := states_of_settled settled empty
      rw [stored, derived, AsDesired, ← List.all_eq_true]
      split
      · next desired => exact iff_of_true rfl (.inr desired)
      · next undesired => exact iff_of_false GraphState.noConfusion (by simp [settled, undesired])
  · exact iff_of_true (graphState_of_unsettled settled) (.inl settled)

theorem isConverged_iff_forall : isConverged graph order = true ↔ AsDesired graph.units.values := by
  rw [isConverged, List.all_eq_true]
  constructor
  · intro all unit member
    have both := all unit ((order.perm _).mem_iff.mpr member)
    rw [Bool.and_eq_true] at both
    exact both.2
  · intro desired unit member
    have fits := desired unit ((order.perm _).mem_iff.mp member)
    rw [(not_isTransitional_of_matches fits).1, fits]
    rfl

/-- The evaluator's cascade ends in `EMPTY` or `CONVERGED` exactly if every unit is as desired. -/
theorem convergenceOf_done_iff (units : List ServiceUnit) :
    convergenceOf units = .empty ∨ convergenceOf units = .converged ↔ AsDesired units := by
  constructor
  · intro done
    unfold convergenceOf at done
    split at done
    · next empty =>
      intro unit member
      rw [List.isEmpty_iff.mp empty] at member
      cases member
    · split at done
      · dsimp only at done
        split at done
        · simp at done
        · simp at done
      · split at done
        · simp at done
        · split at done
          · simp at done
          · split at done
            · next desired => exact List.all_eq_true.mp desired
            · simp at done
  · intro desired
    have settled : Settled units := fun unit member => (not_isTransitional_of_matches (desired unit member)).2
    obtain ⟨failed, degraded, transitional⟩ := tests_of_settled settled
    rw [convergenceOf, failed, degraded, transitional, List.all_eq_true.mpr desired]
    cases units with
    | nil => exact .inl rfl
    | cons unit rest => exact .inr rfl

/-! ## The three views -/

/-- The state the evaluator returns is the one the store derives, and the graph is converged exactly if it is
`EMPTY` or `CONVERGED`. -/
def ViewsAgree (order : IterationOrder ServiceUnit) (emitter : Option (GraphState → ℕ → Except SgrError Unit)) : Prop :=
  ∀ state, convergenceState graph order emitter = .ok state →
    graph.graphState = state ∧ (isConverged graph order = true ↔ state = .empty ∨ state = .converged)

theorem convergenceState_ok {graph : InMemoryServiceGraph} {order : IterationOrder ServiceUnit}
    {emitter : Option (GraphState → ℕ → Except SgrError Unit)} {state : GraphState}
    (derived : convergenceState graph order emitter = .ok state) : state = convergenceOf graph.units.values := by
  rw [← convergenceOf_perm (order.perm graph.units.values)]
  unfold convergenceState at derived
  rw [InMemoryServiceGraph.listUnits] at derived
  dsimp only at derived
  split at derived
  · split at derived
    · obtain ⟨-, -, ended⟩ := Fallible.bind_eq_ok_iff.mp derived
      exact (Except.ok.inj ended).symm
    · exact (Except.ok.inj derived).symm
  · exact (Except.ok.inj derived).symm

/-- Unless it is converged, the state is derived without the emitter. -/
theorem convergenceState_of_converging {graph : InMemoryServiceGraph}
    (emitter : Option (GraphState → ℕ → Except SgrError Unit))
    (converging : convergenceOf graph.units.values = .converging) :
    convergenceState graph order emitter = .ok .converging := by
  unfold convergenceState
  rw [InMemoryServiceGraph.listUnits]
  dsimp only
  rw [convergenceOf_perm (order.perm graph.units.values), converging]
  rfl

/-- The evaluator's two views always agree; the store agrees with them exactly if some unit is in a state other
than `RUNNING`, `HEALTHY` and `STOPPED`, or every unit is in the state its manifest desires. -/
theorem viewsAgree_iff (emitter : Option (GraphState → ℕ → Except SgrError Unit)) :
    (∀ state, convergenceState graph order emitter = .ok state →
      (isConverged graph order = true ↔ state = .empty ∨ state = .converged)) ∧
    (ViewsAgree graph order emitter ↔ ¬ Settled graph.units.values ∨ AsDesired graph.units.values) := by
  have evaluator : ∀ state, convergenceState graph order emitter = .ok state →
      (isConverged graph order = true ↔ state = .empty ∨ state = .converged) := by
    intro state derived
    rw [convergenceState_ok derived, convergenceOf_done_iff, isConverged_iff_forall]
  refine ⟨evaluator, fun agree => ?_, fun fits state derived => ⟨?_, evaluator state derived⟩⟩
  · by_contra parted
    rw [not_or, not_not] at parted
    obtain ⟨settled, undesired⟩ := parted
    have some_unit : graph.units.values ≠ [] := by
      intro empty
      exact undesired (by simp [AsDesired, empty])
    obtain ⟨stored, derived⟩ := states_of_settled settled some_unit
    rw [if_neg (fun all => undesired (List.all_eq_true.mp all))] at derived
    have same := (agree .converging (convergenceState_of_converging order emitter derived)).1
    rw [stored] at same
    cases same
  · rw [convergenceState_ok derived]
    exact (graphState_eq_iff graph).mpr fits

/-- A service that is to run has stopped: the store reports the graph converged. -/
theorem not_viewsAgree_stopped :
    ¬ ViewsAgree ⟨(∅ : Table UnitId ServiceUnit).insert "web"
      ⟨"web", ⟨"web", "root", [], "", [], none, .running, .null⟩, .stopped, 0⟩, ∅⟩ (IterationOrder.stored _) none := by
  intro agree
  have same := (agree .converging rfl).1
  cases same

end Aios.Sgr
