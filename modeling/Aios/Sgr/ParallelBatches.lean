import Aios.Sgr.TopologicalSort

/-! # Parallel batches and cycle reports

The partition into levels that may start together shares its counting with the dependency order. Both fail
exactly on the graphs for which the cycle detection returns a component, and report one of those it returns.
-/

namespace Aios.Sgr

open Digraphs

/-- The loop over the units of a batch. -/
def releaseBatch (index : DependencyIndex) : List UnitId → Table UnitId ℕ → List UnitId →
    Except SgrError (Table UnitId ℕ × List UnitId)
  | [], counts, next => .ok (counts, next)
  | unitId :: batch, counts, next => do
    let (counts, next) ← releaseDependents (index.dependentsOf unitId) counts next
    releaseBatch index batch counts next

/-- The loop of `identify_parallel_batches`: the batches and the units processed. -/
def levelBatches (index : DependencyIndex) : ℕ → Table UnitId ℕ → List UnitId → List (List UnitId) → List UnitId →
    Except SgrError (List (List UnitId) × List UnitId)
  | _, _, [], batches, processed => .ok (batches, processed)
  | 0, _, _ :: _, _, _ => .error .outOfFuel
  | fuel + 1, counts, unitId :: rest, batches, processed => do
    let batch := unitId :: rest
    let (counts, next) ← releaseBatch index batch counts []
    levelBatches index fuel counts (sortAndDedupUnitIds next) (batches ++ [batch]) (processed ++ batch)

def identifyParallelBatches (graph : InMemoryServiceGraph) (order : IterationOrder ServiceUnit) :
    Except SgrError (List (List UnitId)) := do
  let index ← loadDependencyIndex graph order
  let ready := zeroPrerequisiteUnits index.units index.prerequisiteCounts
  let (batches, processed) ← levelBatches index index.units.length index.prerequisiteCounts ready [] []
  unlessCyclic index processed batches

def detectCycles (graph : InMemoryServiceGraph) (order : IterationOrder ServiceUnit) :
    Except SgrError (List (List UnitId)) := do
  let index ← loadDependencyIndex graph order
  detectCyclesInIndex index

/-! ## The levels -/

/-- Between two rounds: the next batch holds the available units in order. -/
structure Levelling (index : DependencyIndex) (counts : Table UnitId ℕ) (ready done : List UnitId) : Prop where
  counted : Counted index counts done
  sorted : ready.Pairwise (· < ·)
  mem_ready : ∀ unitId, unitId ∈ ready ↔ index.Available done unitId
  processed : Processed index done

section Levels

variable {index : DependencyIndex} {counts : Table UnitId ℕ} {ready done : List UnitId}

/-- A batch of available units pushes the units it held the last prerequisites of. -/
theorem releaseBatch_ok (consistent : index.Consistent) {batch next : List UnitId} (counted : Counted index counts done)
    (nodup : batch.Nodup) (available : ∀ unitId ∈ batch, unitId ∈ index.units ∧ unitId ∉ done) :
    ∃ counts' next', releaseBatch index batch counts next = .ok (counts', next') ∧
      Counted index counts' (done ++ batch) ∧
      ∀ dependent, dependent ∈ next' ↔ dependent ∈ next ∨ ((∃ released ∈ batch, released ∈ index.neighbors dependent) ∧
        ∀ prerequisite ∈ index.neighbors dependent, prerequisite ∈ done ++ batch) := by
  induction batch generalizing counts next done with
  | nil => exact ⟨counts, next, rfl, by simpa using counted, by simp⟩
  | cons unitId batch ih =>
    obtain ⟨fresh, nodup⟩ := List.nodup_cons.mp nodup
    obtain ⟨listed, unprocessed⟩ := available unitId List.mem_cons_self
    obtain ⟨middle, pushed, ran, held, members⟩ :=
      @Counted.release index counts next done unitId consistent counted listed unprocessed
    have later : ∀ other ∈ batch, other ∈ index.units ∧ other ∉ done ++ [unitId] := by
      intro other member
      obtain ⟨listed, unprocessed⟩ := available other (List.mem_cons_of_mem _ member)
      refine ⟨listed, ?_⟩
      rw [List.mem_append, List.mem_singleton, not_or]
      exact ⟨unprocessed, fun same => fresh (same ▸ member)⟩
    obtain ⟨counts', next', rest, held', members'⟩ := @ih middle (done ++ [unitId]) pushed held nodup later
    rw [List.append_assoc, List.singleton_append] at held' members'
    refine ⟨counts', next', ?_, held', fun dependent => ?_⟩
    · rw [releaseBatch, ran]
      exact rest
    · rw [members', members, or_assoc]
      refine or_congr_right ?_
      constructor
      · rintro (⟨near, prerequisites⟩ | ⟨⟨released, inside, near⟩, prerequisites⟩)
        · refine ⟨⟨unitId, List.mem_cons_self, near⟩, fun prerequisite member => ?_⟩
          have := prerequisites prerequisite member
          simp only [List.mem_append, List.mem_cons, List.not_mem_nil, or_false] at this ⊢
          exact this.imp id .inl
        · exact ⟨⟨released, List.mem_cons_of_mem _ inside, near⟩, prerequisites⟩
      · rintro ⟨⟨released, inside, near⟩, prerequisites⟩
        by_cases last : ∃ other ∈ batch, other ∈ index.neighbors dependent
        · exact .inr ⟨last, prerequisites⟩
        · left
          have first : released = unitId := (List.mem_cons.mp inside).resolve_right fun other =>
            last ⟨released, other, near⟩
          refine ⟨first ▸ near, fun prerequisite member => ?_⟩
          have := prerequisites prerequisite member
          simp only [List.mem_append, List.mem_cons, List.not_mem_nil, or_false] at this ⊢
          refine this.imp id fun inside => inside.resolve_right fun other => last ⟨prerequisite, other, member⟩

theorem levelling_initial (consistent : index.Consistent) : Levelling index index.prerequisiteCounts
    (zeroPrerequisiteUnits index.units index.prerequisiteCounts) [] where
  counted := counted_initial consistent
  sorted := sortUnitIds_strict ((consistent.sorted.imp ne_of_lt).filter _)
  mem_ready _ := mem_zeroPrerequisiteUnits (counted_initial consistent)
  processed := .nil

theorem Levelling.round (consistent : index.Consistent) (levelling : Levelling index counts ready done) :
    ∃ counts' next, releaseBatch index ready counts [] = .ok (counts', next) ∧
      Levelling index counts' (sortAndDedupUnitIds next) (done ++ ready) := by
  have available : ∀ unitId ∈ ready, index.Available done unitId := fun _ => (levelling.mem_ready _).mp
  have nodup : ready.Nodup := levelling.sorted.imp ne_of_lt
  obtain ⟨counts', next, ran, counted, members⟩ :=
    @releaseBatch_ok index counts done consistent ready [] levelling.counted
    nodup fun unitId member => ⟨(available unitId member).1, (available unitId member).2.1⟩
  obtain ⟨strict, same⟩ := sortAndDedupUnitIds_spec next
  refine ⟨counts', next, ran, counted, strict, fun unitId => ?_, levelling.processed.append nodup available⟩
  have none : ¬ (index.Available done unitId ∧ unitId ∉ ready) := fun both =>
    both.2 ((levelling.mem_ready unitId).mpr both.1)
  rw [same, members, levelling.processed.available_append consistent available, or_iff_right none]
  exact or_iff_right List.not_mem_nil

/-- Each batch is filled, and holds the units that were available after the batches before it. -/
def Layered (index : DependencyIndex) (batches : List (List UnitId)) : Prop :=
  ∀ before batch after, batches = before ++ batch :: after →
    batch ≠ [] ∧ ∀ unitId, unitId ∈ batch ↔ index.Available before.flatten unitId

theorem Layered.append {batches : List (List UnitId)} (layered : Layered index batches)
    (levelling : Levelling index counts ready batches.flatten) (filled : ready ≠ []) :
    Layered index (batches ++ [ready]) := by
  intro before batch after split
  obtain ⟨rest, earlier⟩ | ⟨passed, rfl, last⟩ := cut_append split
  · exact layered before batch rest earlier
  · obtain ⟨rfl, rfl, -⟩ : passed = [] ∧ batch = ready ∧ after = [] := by
      cases passed with
      | nil =>
        obtain ⟨same, rest⟩ := List.cons.inj last
        exact ⟨rfl, same.symm, rest.symm⟩
      | cons _ passed => simp at last
    rw [List.append_nil]
    exact ⟨filled, levelling.mem_ready⟩

theorem Levelling.run (consistent : index.Consistent) {fuel : ℕ} {batches : List (List UnitId)}
    (levelling : Levelling index counts ready batches.flatten) (layered : Layered index batches)
    (enough : index.units.length ≤ batches.flatten.length + fuel) :
    ∃ counts' batches',
      levelBatches index fuel counts ready batches batches.flatten = .ok (batches', batches'.flatten) ∧
      Levelling index counts' [] batches'.flatten ∧ Layered index batches' := by
  induction fuel generalizing counts ready batches with
  | zero =>
    cases ready with
    | nil => exact ⟨counts, batches, rfl, levelling, layered⟩
    | cons unitId ready =>
      obtain ⟨_, _, _, next⟩ := levelling.round consistent
      have bound := next.processed.length_le
      rw [List.length_append, List.length_cons] at bound
      omega
  | succ fuel ih =>
    cases ready with
    | nil => exact ⟨counts, batches, rfl, levelling, layered⟩
    | cons unitId ready =>
      obtain ⟨counts', next, ran, held⟩ := levelling.round consistent
      have flat : (batches ++ [unitId :: ready]).flatten = batches.flatten ++ unitId :: ready := by simp
      rw [← flat] at held
      have enough' : index.units.length ≤ (batches ++ [unitId :: ready]).flatten.length + fuel := by
        rw [flat, List.length_append, List.length_cons]
        omega
      obtain ⟨final, batches', rest, ended, layered'⟩ :=
        ih held (layered.append levelling (List.cons_ne_nil _ _)) enough'
      refine ⟨final, batches', ?_, ended, layered'⟩
      rw [levelBatches, ran]
      rw [flat] at rest
      exact rest

end Levels

/-! ## The reports -/

/-- The end of both algorithms against the cycles detected. -/
theorem unlessCyclic_reports {α : Type} {index : DependencyIndex} (consistent : index.Consistent) {done : List UnitId}
    (processed : Processed index done) (stuck : ∀ unitId, ¬ index.Available done unitId) (result : α)
    {cycles : List (List UnitId)} (detected : detectCyclesInIndex index = .ok cycles) :
    (cycles = [] ↔ ∃ value, unlessCyclic index done result = .ok value) ∧
      ∀ failure, unlessCyclic index done result = .error failure →
        ∃ component ∈ cycles, failure = .dependencyCycleDetected component := by
  rw [cycles_eq_nil_iff consistent detected]
  rcases unlessCyclic_eq consistent processed stuck result with
    ⟨acyclic, -, ended⟩ | ⟨cyclic, component, rest, found, ended⟩
  · rw [ended]
    exact ⟨iff_of_true acyclic ⟨result, rfl⟩, nofun⟩
  · obtain rfl : component :: rest = cycles := Except.ok.inj (found.symm.trans detected)
    rw [ended]
    refine ⟨iff_of_false cyclic (by rintro ⟨_, ⟨⟩⟩), ?_⟩
    rintro _ ⟨⟩
    exact ⟨component, List.mem_cons_self, rfl⟩

theorem identifyParallelBatches_eq {graph : InMemoryServiceGraph} {index : DependencyIndex}
    (loaded : ∀ order, loadDependencyIndex graph order = .ok index) (consistent : index.Consistent) :
    ∃ batches, (∀ order, identifyParallelBatches graph order = unlessCyclic index batches.flatten batches) ∧
      Processed index batches.flatten ∧ (∀ unitId, ¬ index.Available batches.flatten unitId) ∧
      Layered index batches := by
  obtain ⟨_, batches, ran, ended, layered⟩ :=
    @Levelling.run index _ _ consistent index.units.length [] (levelling_initial consistent)
      (fun before _ _ split => by simp at split) (Nat.zero_add _).ge
  refine ⟨batches, fun order => ?_, ended.processed, fun unitId available => ?_, layered⟩
  · rw [identifyParallelBatches, loaded order]
    change (levelBatches index index.units.length index.prerequisiteCounts _ [] [] >>= _) = _
    rw [List.flatten_nil] at ran
    rw [ran]
    rfl
  · exact List.not_mem_nil ((ended.mem_ready unitId).mpr available)

/-- The detection returns exactly the components with a cycle, each once and sorted. The sort and the
batches succeed exactly when it returns none; an error of theirs carries a component it returns. -/
theorem detectCycles_exact (graph : RegisteredGraph) : ∃ cycles, (∀ order, detectCycles graph.1 order = .ok cycles) ∧
    cycles.Nodup ∧
    (∀ component, component ∈ cycles ↔ component.Pairwise (· < ·) ∧ IsComponent graph.1.DependsOn component ∧
      (2 ≤ component.length ∨ ∃ unitId ∈ component, graph.1.DependsOn unitId unitId)) ∧
    ∀ order,
      (cycles = [] ↔ ∃ ordered, topologicalSort graph.1 order = .ok ordered) ∧
      (cycles = [] ↔ ∃ batches, identifyParallelBatches graph.1 order = .ok batches) ∧
      (∀ failure, topologicalSort graph.1 order = .error failure →
        ∃ component ∈ cycles, failure = .dependencyCycleDetected component) ∧
      ∀ failure, identifyParallelBatches graph.1 order = .error failure →
        ∃ component ∈ cycles, failure = .dependencyCycleDetected component := by
  obtain ⟨index, loaded, consistent, reflects⟩ := loadDependencyIndex_ok graph
  obtain ⟨cycles, detected, nodup, members⟩ := detectCyclesInIndex_ok consistent
  obtain ⟨ordered, sorts, processed, stuck, -⟩ := topologicalSort_eq loaded consistent
  obtain ⟨batches, partitions, processed', stuck', -⟩ := identifyParallelBatches_eq loaded consistent
  obtain ⟨sorted_iff, sort_error⟩ := unlessCyclic_reports consistent processed stuck ordered detected
  obtain ⟨batched_iff, batch_error⟩ := unlessCyclic_reports consistent processed' stuck' batches detected
  refine ⟨cycles, fun order => ?_, nodup, ?_, fun order => ?_⟩
  · rw [detectCycles, loaded order]
    exact detected
  · simpa only [reflects.edge_eq, reflects.mem_neighbors] using members
  · rw [sorts order, partitions order]
    exact ⟨sorted_iff, batched_iff, sort_error, batch_error⟩

/-! ## Parallel batches are the dependency levels

Each batch holds the units that become available with the batches before it, so a unit stands one batch
after the latest of its prerequisites, and its batch counts the edges of the longest path from it.
-/

/-! ### Levels -/

/-- The batches split the registered units into levels: every unit stands in one place, no batch is empty,
the index of a batch is the length of the longest dependency path from each of its units, and no two units
of a batch depend on one another. -/
structure IsLevelling (graph : InMemoryServiceGraph) (batches : List (List UnitId)) : Prop where
  nodup : batches.flatten.Nodup
  mem_iff : ∀ unitId, unitId ∈ batches.flatten ↔ graph.IsRegistered unitId
  filled : ∀ batch ∈ batches, batch ≠ []
  height : ∀ (level : ℕ) batch, batches[level]? = some batch → ∀ unitId ∈ batch,
    IsHeight graph.DependsOn unitId level
  independent : ∀ batch ∈ batches, ∀ one ∈ batch, ∀ other ∈ batch, ¬ graph.DependsOn one other

section Layers

variable {index : DependencyIndex} {batches : List (List UnitId)}

variable {unitId : UnitId} {batch : List UnitId} {level : ℕ}

/-- The unit stands in the batch of a level. -/
def OnLevel (batches : List (List UnitId)) (unitId : UnitId) (level : ℕ) : Prop :=
  ∃ batch, batches[level]? = some batch ∧ unitId ∈ batch

theorem Layered.mem_iff (layered : Layered index batches) (stored : batches[level]? = some batch) (unitId : UnitId) :
    unitId ∈ batch ↔ index.Available (batches.take level).flatten unitId := by
  obtain ⟨bound, rfl⟩ := List.getElem?_eq_some_iff.mp stored
  have split : batches = batches.take level ++ batches[level] :: batches.drop (level + 1) := by
    rw [List.getElem_cons_drop, List.take_append_drop]
  exact (layered _ _ _ split).2 unitId

theorem mem_flatten_take : unitId ∈ (batches.take level).flatten ↔ ∃ lower < level, OnLevel batches unitId lower := by
  rw [List.mem_flatten]
  constructor
  · rintro ⟨batch, member, inside⟩
    obtain ⟨lower, stored⟩ := List.mem_iff_getElem?.mp member
    rw [List.getElem?_take] at stored
    split at stored
    · next below => exact ⟨lower, below, batch, stored, inside⟩
    · cases stored
  · rintro ⟨lower, below, batch, stored, inside⟩
    refine ⟨batch, List.mem_iff_getElem?.mpr ⟨lower, ?_⟩, inside⟩
    rw [List.getElem?_take, if_pos below, stored]

/-- The prerequisites of a unit stand on lower levels. -/
theorem Layered.descends (layered : Layered index batches) {prerequisite : UnitId} (on : OnLevel batches unitId level)
    (near : prerequisite ∈ index.neighbors unitId) : ∃ lower < level, OnLevel batches prerequisite lower := by
  obtain ⟨batch, stored, inside⟩ := on
  obtain ⟨-, -, prerequisites⟩ := (layered.mem_iff stored unitId).mp inside
  exact mem_flatten_take.mp (prerequisites prerequisite near)

/-- A unit above the lowest level has a prerequisite one level below: otherwise it would have been
available for that level. -/
theorem Layered.attained (layered : Layered index batches) (on : OnLevel batches unitId (level + 1)) :
    ∃ prerequisite ∈ index.neighbors unitId, OnLevel batches prerequisite level := by
  obtain ⟨batch, stored, inside⟩ := on
  obtain ⟨listed, fresh, prerequisites⟩ := (layered.mem_iff stored unitId).mp inside
  obtain ⟨bound, -⟩ := List.getElem?_eq_some_iff.mp stored
  obtain ⟨below, stored_below⟩ : ∃ below, batches[level]? = some below :=
    ⟨_, List.getElem?_eq_getElem (Nat.lt_of_succ_lt bound)⟩
  by_contra skipped
  push Not at skipped
  -- every prerequisite stands below the level, so the unit would stand on it
  have available : index.Available (batches.take level).flatten unitId := by
    refine ⟨listed, fun member => fresh ?_, fun prerequisite near => ?_⟩
    · obtain ⟨lower, under, on⟩ := mem_flatten_take.mp member
      exact mem_flatten_take.mpr ⟨lower, Nat.lt_succ_of_lt under, on⟩
    · obtain ⟨lower, under, on⟩ := mem_flatten_take.mp (prerequisites prerequisite near)
      obtain under | rfl := Nat.lt_succ_iff_lt_or_eq.mp under
      · exact mem_flatten_take.mpr ⟨lower, under, on⟩
      · exact absurd on (skipped prerequisite near)
  have early : OnLevel batches unitId level :=
    ⟨below, stored_below, (layered.mem_iff stored_below unitId).mpr available⟩
  exact fresh (mem_flatten_take.mpr ⟨level, Nat.lt_succ_self level, early⟩)

theorem Layered.isHeight (layered : Layered index batches) (on : OnLevel batches unitId level) :
    IsHeight (Tarjan.Edge index.neighbors) unitId level :=
  isHeight_of_levels (fun _ _ _ on near => layered.descends on near) (fun _ _ on => layered.attained on) on

theorem Layered.filled (layered : Layered index batches) : ∀ batch ∈ batches, batch ≠ [] := by
  intro batch member
  obtain ⟨before, after, split⟩ := List.append_of_mem member
  exact (layered before batch after split).1

/-- The units of a batch were available before any of them was processed. -/
theorem Layered.independent (layered : Layered index batches) (member : batch ∈ batches) {one other : UnitId}
    (inside : one ∈ batch) (inside' : other ∈ batch) : other ∉ index.neighbors one := by
  obtain ⟨before, after, split⟩ := List.append_of_mem member
  obtain ⟨-, available⟩ := layered before batch after split
  intro near
  obtain ⟨-, -, prerequisites⟩ := (available one).mp inside
  obtain ⟨-, fresh, -⟩ := (available other).mp inside'
  exact fresh (prerequisites other near)

end Layers

/-- The batches are the dependency levels, and there are some exactly if the graph has no cycle. -/
theorem identifyParallelBatches_levels (graph : RegisteredGraph) (order : IterationOrder ServiceUnit) :
    (∀ batches, identifyParallelBatches graph.1 order = .ok batches → IsLevelling graph.1 batches) ∧
      ((∃ failure, identifyParallelBatches graph.1 order = .error failure) ↔ ¬ Acyclic graph.1.DependsOn) := by
  obtain ⟨index, loaded, consistent, reflects⟩ := loadDependencyIndex_ok graph
  obtain ⟨batches, partitions, processed, stuck, layered⟩ := identifyParallelBatches_eq loaded consistent
  rw [partitions order]
  obtain ⟨acyclic, all, ended⟩ | ⟨cyclic, component, _, -, ended⟩ := unlessCyclic_eq consistent processed stuck batches
  · rw [ended, ← reflects.edge_eq]
    refine ⟨?_, iff_of_false (by rintro ⟨_, ⟨⟩⟩) (not_not.mpr acyclic)⟩
    rintro _ ⟨⟩
    have perm := (List.subperm_of_subset processed.nodup processed.within).perm_of_length_le all.ge
    refine ⟨processed.nodup, fun unitId => perm.mem_iff.trans (reflects.mem_units unitId), layered.filled, ?_, ?_⟩
    · intro level batch stored unitId inside
      rw [← reflects.edge_eq]
      exact layered.isHeight ⟨batch, stored, inside⟩
    · intro batch member one inside other inside'
      rw [← reflects.mem_neighbors]
      exact layered.independent member inside inside'
  · rw [ended, ← reflects.edge_eq]
    exact ⟨nofun, iff_of_true ⟨_, rfl⟩ cyclic⟩

end Aios.Sgr
