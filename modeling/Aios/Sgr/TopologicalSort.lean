import Aios.Sgr.CycleDetection
import Mathlib.Order.Bounds.Basic

/-! # Dependency order

Kahn's algorithm over a dependency index. Its counts are those of the prerequisites not processed yet,
parallel edges included, so no count underflows, and what it leaves over holds a cycle.
-/

namespace Aios.Sgr

open Digraphs Relation

section

variable (index : DependencyIndex)

def zeroPrerequisiteUnits (units : List UnitId) (counts : Table UnitId ℕ) : List UnitId :=
  sortUnitIds (units.filter fun unitId => (counts.lookup unitId).getD 0 = 0)

def decrementPrerequisiteCount (counts : Table UnitId ℕ) (unitId : UnitId) : Except SgrError (Table UnitId ℕ) := do
  let count ← indexEntry "prerequisite count" counts unitId
  if count = 0 then
    throw (.internal s!"dependency count underflow for {unitId}")
  else
    return counts.insert unitId (count - 1)

/-- The loop over the dependents of a unit, which pushes those whose count falls to zero. -/
def releaseDependents : List UnitId → Table UnitId ℕ → List UnitId → Except SgrError (Table UnitId ℕ × List UnitId)
  | [], counts, ready => .ok (counts, ready)
  | dependent :: rest, counts, ready => do
    let counts ← decrementPrerequisiteCount counts dependent
    releaseDependents rest counts (if (counts.lookup dependent).getD 0 = 0 then ready ++ [dependent] else ready)

/-- `dependents.get(unit_id).into_iter().flatten()`. -/
def DependencyIndex.dependentsOf (unitId : UnitId) : List UnitId :=
  (index.dependents.lookup unitId).getD []

/-- The loop of `topological_sort`. -/
def sortReady (index : DependencyIndex) : ℕ → Table UnitId ℕ → List UnitId → List UnitId → Except SgrError (List UnitId)
  | _, _, [], ordered => .ok ordered
  | 0, _, _ :: _, _ => .error .outOfFuel
  | fuel + 1, counts, unitId :: ready, ordered => do
    let (counts, ready) ← releaseDependents (index.dependentsOf unitId) counts ready
    sortReady index fuel counts (sortAndDedupUnitIds ready) (ordered ++ [unitId])

def firstCycleOrRemaining (processed : List UnitId) : Except SgrError (List UnitId) := do
  let cycles ← detectCyclesInIndex index
  match cycles with
  | cycle :: _ => return cycle
  | [] => return sortUnitIds (index.units.filter (· ∉ processed))

/-- The end of both algorithms: an error unless every unit was processed. -/
def unlessCyclic {α : Type} (index : DependencyIndex) (processed : List UnitId) (result : α) : Except SgrError α :=
  if processed.length ≠ index.units.length then do
    let component ← firstCycleOrRemaining index processed
    throw (.dependencyCycleDetected component)
  else
    return result

def topologicalSort (graph : InMemoryServiceGraph) (order : IterationOrder ServiceUnit) :
    Except SgrError (List UnitId) := do
  let index ← loadDependencyIndex graph order
  let ready := zeroPrerequisiteUnits index.units index.prerequisiteCounts
  let ordered ← sortReady index index.units.length index.prerequisiteCounts ready []
  unlessCyclic index ordered ordered

/-! ## Counting prerequisites -/

/-- The unit is not processed, but all its prerequisites are. -/
def DependencyIndex.Available (done : List UnitId) (unitId : UnitId) : Prop :=
  unitId ∈ index.units ∧ unitId ∉ done ∧ ∀ prerequisite ∈ index.neighbors unitId, prerequisite ∈ done

/-- Each count is that of the edges to units not processed. -/
def Counted (counts : Table UnitId ℕ) (done : List UnitId) : Prop :=
  ∀ unitId ∈ index.units, counts.lookup unitId = some ((index.neighbors unitId).countP (· ∉ done))

end

section Counts

variable {index : DependencyIndex} {counts : Table UnitId ℕ} {ready done : List UnitId} {unitId : UnitId}

theorem counted_initial (consistent : index.Consistent) : Counted index index.prerequisiteCounts [] := by
  intro unitId member
  rw [consistent.counts unitId member]
  simp

theorem mem_zeroPrerequisiteUnits (counted : Counted index counts []) :
    unitId ∈ zeroPrerequisiteUnits index.units counts ↔ index.Available [] unitId := by
  rw [zeroPrerequisiteUnits, (sortUnitIds_perm _).mem_iff, List.mem_filter, DependencyIndex.Available]
  refine and_congr_right fun member => ?_
  rw [counted unitId member]
  simp [List.eq_nil_iff_forall_not_mem]

/-- No decrement underflows if no unit stands in the list more often than it has prerequisites left. -/
theorem releaseDependents_ok {dependents : List UnitId} {left : UnitId → ℕ} {within : UnitId → Prop}
    (stored : ∀ unitId, within unitId → counts.lookup unitId = some (left unitId))
    (fit : ∀ unitId ∈ dependents, within unitId) (enough : ∀ unitId, dependents.count unitId ≤ left unitId) :
    ∃ counts' ready', releaseDependents dependents counts ready = .ok (counts', ready') ∧
      (∀ unitId, within unitId → counts'.lookup unitId = some (left unitId - dependents.count unitId)) ∧
      ∀ unitId, unitId ∈ ready' ↔ unitId ∈ ready ∨ (unitId ∈ dependents ∧ left unitId = dependents.count unitId) := by
  induction dependents generalizing counts ready left with
  | nil => exact ⟨counts, ready, rfl, by simpa using stored, by simp⟩
  | cons dependent rest ih =>
    have known := stored dependent (fit dependent List.mem_cons_self)
    have positive : 0 < left dependent := by
      have := enough dependent
      rw [List.count_cons_self] at this
      omega
    have stored' : ∀ unitId, within unitId → (counts.insert dependent (left dependent - 1)).lookup unitId =
        some (left unitId - if unitId = dependent then 1 else 0) := by
      intro unitId inside
      rw [Table.lookup_insert_eq]
      split_ifs with same
      · rw [same]
      · exact stored unitId inside
    have enough' : ∀ unitId, rest.count unitId ≤ left unitId - if unitId = dependent then 1 else 0 := by
      intro unitId
      have bound := enough unitId
      rw [List.count_cons] at bound
      split_ifs with same
      · rw [same, if_pos (beq_self_eq_true _)] at bound
        rw [same]
        omega
      · omega
    obtain ⟨counts', ready', ran, counted, pushed⟩ :=
      @ih _ (if left dependent - 1 = 0 then ready ++ [dependent] else ready) _ stored'
        (fun unitId member => fit unitId (List.mem_cons_of_mem _ member)) enough'
    refine ⟨counts', ready', ?_, fun unitId inside => ?_, fun unitId => ?_⟩
    · rw [releaseDependents, decrementPrerequisiteCount, indexEntry_of_lookup known]
      change (if left dependent = 0 then _ else _) >>= _ = _
      rw [if_neg positive.ne']
      change releaseDependents rest _
        (if ((counts.insert dependent (left dependent - 1)).lookup dependent).getD 0 = 0 then _ else _) = _
      rw [AList.lookup_insert]
      exact ran
    · rw [counted unitId inside, List.count_cons]
      congr 1
      by_cases same : unitId = dependent
      · simp only [same, if_true, beq_self_eq_true]
        omega
      · simp [same, Ne.symm same]
    · rw [pushed, List.mem_cons, List.count_cons]
      by_cases same : unitId = dependent
      · have bound := enough' dependent
        have absent : dependent ∈ rest ∨ rest.count dependent = 0 := by
          rw [List.count_eq_zero]
          exact em _
        simp only [same, if_true, beq_self_eq_true, true_or, true_and] at bound ⊢
        split_ifs with last
        · simp only [List.mem_append, List.mem_singleton, or_true, true_or, true_iff]
          right
          omega
        · refine or_congr_right ?_
          constructor
          · rintro ⟨-, exact'⟩
            omega
          · intro exact'
            exact ⟨absent.resolve_right (by omega), by omega⟩
      · have unchanged : unitId ∈ (if left dependent - 1 = 0 then ready ++ [dependent] else ready) ↔
            unitId ∈ ready := by
          split_ifs
          · simp [same]
          · rfl
        simp [unchanged, same, Ne.symm same]

/-- Processing a unit pushes the units it was the last prerequisite of. -/
theorem Counted.release (consistent : index.Consistent) (counted : Counted index counts done)
    (listed : unitId ∈ index.units) (fresh : unitId ∉ done) :
    ∃ counts' ready', releaseDependents (index.dependentsOf unitId) counts ready = .ok (counts', ready') ∧
      Counted index counts' (done ++ [unitId]) ∧ ∀ dependent, dependent ∈ ready' ↔ dependent ∈ ready ∨
        (unitId ∈ index.neighbors dependent ∧ ∀ prerequisite ∈ index.neighbors dependent,
          prerequisite ∈ done ++ [unitId]) := by
  obtain ⟨sources, stored, counts_eq⟩ := consistent.dependents unitId listed
  have dependents : index.dependentsOf unitId = sources := by rw [DependencyIndex.dependentsOf, stored]; rfl
  -- the edges to units not processed are those to this unit and those still left afterwards
  have split (dependent : UnitId) : (index.neighbors dependent).countP (· ∉ done) =
      sources.count dependent + (index.neighbors dependent).countP (· ∉ done ++ [unitId]) := by
    rw [counts_eq]
    induction index.neighbors dependent with
    | nil => simp
    | cons prerequisite rest ih =>
      rw [List.countP_cons, List.countP_cons, List.count_cons, ih]
      by_cases same : prerequisite = unitId
      · simp only [same, fresh, List.mem_append, List.mem_singleton, not_false_eq_true, or_true, not_true_eq_false,
          decide_true, decide_false, if_true, beq_self_eq_true, Bool.false_eq_true, if_false]
        omega
      · simp only [same, List.mem_append, List.mem_singleton, or_false, beq_eq_false_iff_ne.mpr same,
          Bool.false_eq_true,
          if_false]
        omega
  have member_iff (dependent : UnitId) : dependent ∈ sources ↔ unitId ∈ index.neighbors dependent := by
    rw [← List.count_pos_iff, counts_eq, List.count_pos_iff]
  have fit : ∀ dependent ∈ sources, dependent ∈ index.units := fun dependent member =>
    (consistent.closed dependent unitId ((member_iff dependent).mp member)).1
  have enough (dependent : UnitId) : sources.count dependent ≤ (index.neighbors dependent).countP (· ∉ done) := by
    rw [split dependent]
    exact Nat.le_add_right ..
  obtain ⟨counts', ready', ran, counted', pushed⟩ := @releaseDependents_ok counts ready sources
    (fun dependent => (index.neighbors dependent).countP (· ∉ done)) (· ∈ index.units) counted fit enough
  refine ⟨counts', ready', dependents ▸ ran, fun dependent member => ?_, fun dependent => ?_⟩
  · rw [counted' dependent member, split dependent, Nat.add_sub_cancel_left]
  · rw [pushed, split dependent, member_iff]
    refine or_congr_right (and_congr_right fun _ => ?_)
    rw [Nat.add_eq_left, List.countP_eq_zero]
    refine forall₂_congr fun prerequisite _ => ?_
    rw [decide_eq_true_eq, not_not]

end Counts

/-! ## Processed units -/

/-- A cut of two lists in a row is a cut of the first or of the second. -/
theorem cut_append {α : Type} {first second before after : List α} {item : α}
    (split : first ++ second = before ++ item :: after) :
    (∃ rest, first = before ++ item :: rest) ∨ ∃ passed, before = first ++ passed ∧ second = passed ++ item ::
    after := by
  rcases List.append_eq_append_iff.mp split with ⟨passed, earlier, rest⟩ | ⟨passed, earlier, rest⟩
  · exact .inr ⟨passed, earlier, rest⟩
  · cases passed with
    | nil => exact .inr ⟨[], by simpa using earlier.symm, rest.symm⟩
    | cons head passed =>
      obtain ⟨rfl, -⟩ := List.cons.inj rest
      exact .inl ⟨passed, earlier⟩

/-- What both algorithms keep of the units processed so far: each once, after all its prerequisites. -/
structure Processed (index : DependencyIndex) (done : List UnitId) : Prop where
  nodup : done.Nodup
  within : ∀ unitId ∈ done, unitId ∈ index.units
  ordered : ∀ before unitId after, done = before ++ unitId :: after →
    ∀ prerequisite ∈ index.neighbors unitId, prerequisite ∈ before

namespace Processed

variable {index : DependencyIndex} {done : List UnitId} {unitId : UnitId}

theorem nil : Processed index [] := ⟨.nil, by simp, by simp⟩

theorem neighbors_mem (processed : Processed index done) (member : unitId ∈ done) :
    ∀ prerequisite ∈ index.neighbors unitId, prerequisite ∈ done := by
  obtain ⟨before, after, rfl⟩ := List.append_of_mem member
  exact fun prerequisite near => List.mem_append_left _ (processed.ordered before unitId after rfl prerequisite near)

theorem length_le (processed : Processed index done) : done.length ≤ index.units.length :=
  (List.subperm_of_subset processed.nodup processed.within).length_le

/-- Available units may be processed in any order. -/
theorem append (processed : Processed index done) {batch : List UnitId} (nodup : batch.Nodup)
    (available : ∀ unitId ∈ batch, index.Available done unitId) : Processed index (done ++ batch) := by
  refine ⟨List.nodup_append.mpr ⟨processed.nodup, nodup, ?_⟩, fun unitId member => ?_, ?_⟩
  · rintro unitId old other new rfl
    exact (available unitId new).2.1 old
  · rcases List.mem_append.mp member with old | new
    · exact processed.within unitId old
    · exact (available unitId new).1
  · intro before unitId after split prerequisite near
    rcases cut_append split with ⟨rest, earlier⟩ | ⟨passed, rfl, rest⟩
    · exact processed.ordered before unitId rest earlier prerequisite near
    · have member : unitId ∈ batch := rest ▸ List.mem_append_right _ List.mem_cons_self
      exact List.mem_append_left _ ((available unitId member).2.2 prerequisite near)

/-- The units available after a batch of available ones: those that were and those the batch released. -/
theorem available_append (processed : Processed index done) (consistent : index.Consistent) {batch : List UnitId}
    (available : ∀ unitId ∈ batch, index.Available done unitId) :
    index.Available (done ++ batch) unitId ↔ (index.Available done unitId ∧ unitId ∉ batch) ∨
      ((∃ released ∈ batch, released ∈ index.neighbors unitId) ∧
        ∀ prerequisite ∈ index.neighbors unitId, prerequisite ∈ done ++ batch) := by
  constructor
  · rintro ⟨listed, fresh, prerequisites⟩
    rw [List.mem_append, not_or] at fresh
    by_cases released : ∃ released ∈ batch, released ∈ index.neighbors unitId
    · exact .inr ⟨released, prerequisites⟩
    · refine .inl ⟨⟨listed, fresh.1, fun prerequisite near => ?_⟩, fresh.2⟩
      exact (List.mem_append.mp (prerequisites prerequisite near)).resolve_right fun inside =>
        released ⟨prerequisite, inside, near⟩
  · rintro (⟨⟨listed, fresh, prerequisites⟩, outside⟩ | ⟨⟨released, inside, near⟩, prerequisites⟩)
    · refine ⟨listed, ?_, fun prerequisite near => List.mem_append_left _ (prerequisites prerequisite near)⟩
      rw [List.mem_append, not_or]
      exact ⟨fresh, outside⟩
    · refine ⟨(consistent.closed unitId released near).1, ?_, prerequisites⟩
      have open' := (available released inside).2.1
      rw [List.mem_append, not_or]
      constructor
      · exact fun old => open' (processed.neighbors_mem old released near)
      · exact fun new => open' ((available unitId new).2.2 released near)

/-- When no unit is available, every unit was processed exactly if the graph has no cycle. -/
theorem length_eq_iff (processed : Processed index done) (consistent : index.Consistent)
    (stuck : ∀ unitId, ¬ index.Available done unitId) :
    done.length = index.units.length ↔ Acyclic (Tarjan.Edge index.neighbors) := by
  have sub := List.subperm_of_subset processed.nodup processed.within
  constructor
  · intro all unitId cycle
    obtain ⟨next, edge, -⟩ := TransGen.head'_iff.mp cycle
    have member : unitId ∈ done := (sub.perm_of_length_le all.ge).mem_iff.mpr (consistent.closed unitId next edge).1
    refine @not_transGen_self_of_rank UnitId (Tarjan.Edge index.neighbors) unitId (fun unitId => done.idxOf unitId)
      (· ∈ done) (fun unitId prerequisite inside near => processed.neighbors_mem inside prerequisite near) ?_
      member cycle
    intro unitId prerequisite inside near
    obtain ⟨before, after, rfl⟩ := List.append_of_mem inside
    have earlier := processed.ordered before unitId after rfl prerequisite near
    have fresh : unitId ∉ before := fun again =>
      (List.nodup_append.mp processed.nodup).2.2 unitId again unitId List.mem_cons_self rfl
    rw [List.idxOf_append_of_mem earlier, List.idxOf_append_of_notMem fresh]
    exact (List.idxOf_lt_length_iff.mpr earlier).trans_le (Nat.le_add_right ..)
  · intro acyclic
    by_contra short
    have left : (index.units.toFinset.filter (· ∉ done)).Nonempty := by
      rw [Finset.nonempty_iff_ne_empty]
      intro none
      have all : index.units ⊆ done := fun unitId listed => by
        by_contra fresh
        exact Finset.notMem_empty unitId (none ▸ Finset.mem_filter.mpr ⟨List.mem_toFinset.mpr listed, fresh⟩)
      have nodup : index.units.Nodup := consistent.sorted.imp ne_of_lt
      exact short (sub.length_le.antisymm (List.subperm_of_subset nodup all).length_le)
    obtain ⟨unitId, -, cycle⟩ := @exists_cycle UnitId (Tarjan.Edge index.neighbors) _ left fun unitId member => by
      obtain ⟨listed, fresh⟩ := Finset.mem_filter.mp member
      by_contra none
      refine stuck unitId ⟨List.mem_toFinset.mp listed, fresh, fun prerequisite near => ?_⟩
      by_contra open'
      exact none ⟨prerequisite, Finset.mem_filter.mpr
        ⟨List.mem_toFinset.mpr (consistent.closed unitId prerequisite near).2, open'⟩, near⟩
    exact acyclic unitId cycle

end Processed

/-! ## The loop -/

/-- Between two rounds: the list holds the available units in order, and each unit processed was the
least one available in its round. -/
structure Sorting (index : DependencyIndex) (counts : Table UnitId ℕ) (ready done : List UnitId) : Prop where
  counted : Counted index counts done
  sorted : ready.Pairwise (· < ·)
  mem_ready : ∀ unitId, unitId ∈ ready ↔ index.Available done unitId
  processed : Processed index done
  least : ∀ before unitId after, done = before ++ unitId :: after →
    IsLeast {candidate | index.Available before candidate} unitId

section Loop

variable {index : DependencyIndex} {counts : Table UnitId ℕ} {ready done : List UnitId} {unitId : UnitId}

theorem sorting_initial (consistent : index.Consistent) : Sorting index index.prerequisiteCounts
    (zeroPrerequisiteUnits index.units index.prerequisiteCounts) [] where
  counted := counted_initial consistent
  sorted := sortUnitIds_strict ((consistent.sorted.imp ne_of_lt).filter _)
  mem_ready _ := mem_zeroPrerequisiteUnits (counted_initial consistent)
  processed := .nil
  least := by simp

theorem Sorting.round (consistent : index.Consistent) (sorting : Sorting index counts (unitId :: ready) done) :
    ∃ counts' ready', releaseDependents (index.dependentsOf unitId) counts ready = .ok (counts', ready') ∧
      Sorting index counts' (sortAndDedupUnitIds ready') (done ++ [unitId]) := by
  have available := (sorting.mem_ready unitId).mp List.mem_cons_self
  have only : ∀ other ∈ [unitId], index.Available done other := fun other member =>
    List.mem_singleton.mp member ▸ available
  obtain ⟨above, sorted⟩ := List.pairwise_cons.mp sorting.sorted
  obtain ⟨counts', ready', ran, counted, pushed⟩ := @Counted.release index counts ready done unitId consistent
    sorting.counted available.1 available.2.1
  obtain ⟨strict, members⟩ := sortAndDedupUnitIds_spec ready'
  refine ⟨counts', ready', ran, counted, strict, fun other =>
    ?_, sorting.processed.append (List.nodup_singleton _) only, ?_⟩
  · rw [members, pushed, sorting.processed.available_append consistent only, ← sorting.mem_ready, List.mem_cons,
      List.mem_singleton]
    have rest : other ∈ ready ↔ (other = unitId ∨ other ∈ ready) ∧ ¬ other = unitId := by
      constructor
      · exact fun later => ⟨.inr later, (above other later).ne'⟩
      · exact fun both => both.1.resolve_left both.2
    refine or_congr rest ?_
    simp
  · intro before other after split
    rcases cut_append split with ⟨rest, earlier⟩ | ⟨passed, rfl, last⟩
    · exact sorting.least before other rest earlier
    · obtain ⟨rfl, same⟩ : passed = [] ∧ unitId = other := by
        cases passed with
        | nil => exact ⟨rfl, (List.cons.inj last).1⟩
        | cons head passed => simp at last
      subst same
      rw [List.append_nil]
      refine ⟨available, fun candidate free => ?_⟩
      rcases List.mem_cons.mp ((sorting.mem_ready candidate).mpr free) with rfl | later
      · exact le_rfl
      · exact (above candidate later).le

/-- The loop ends with no unit available. -/
theorem Sorting.run (consistent : index.Consistent) {fuel : ℕ} (sorting : Sorting index counts ready done)
    (enough : index.units.length ≤ done.length + fuel) :
    ∃ counts' ordered, sortReady index fuel counts ready done = .ok ordered ∧ Sorting index counts' [] ordered := by
  induction fuel generalizing counts ready done with
  | zero =>
    cases ready with
    | nil => exact ⟨counts, done, rfl, sorting⟩
    | cons unitId ready =>
      obtain ⟨_, _, _, next⟩ := sorting.round consistent
      have bound := next.processed.length_le
      rw [List.length_append, List.length_singleton] at bound
      omega
  | succ fuel ih =>
    cases ready with
    | nil => exact ⟨counts, done, rfl, sorting⟩
    | cons unitId ready =>
      obtain ⟨counts', ready', ran, next⟩ := sorting.round consistent
      obtain ⟨final, ordered, rest, ended⟩ := ih next (by rw [List.length_append, List.length_singleton]; omega)
      refine ⟨final, ordered, ?_, ended⟩
      rw [sortReady, ran]
      exact rest

end Loop

/-! ## The end of both algorithms -/

/-- The detection returns a component exactly if there is a cycle. -/
theorem cycles_eq_nil_iff {index : DependencyIndex} (consistent : index.Consistent) {cycles : List (List UnitId)}
    (detected : detectCyclesInIndex index = .ok cycles) : cycles = [] ↔ Acyclic (Tarjan.Edge index.neighbors) := by
  classical
  obtain ⟨found, ran, -, members⟩ := detectCyclesInIndex_ok consistent
  obtain rfl : found = cycles := Except.ok.inj (ran.symm.trans detected)
  constructor
  · intro none unitId cycle
    obtain ⟨next, edge, -⟩ := TransGen.head'_iff.mp cycle
    have listed := (consistent.closed unitId next edge).1
    have closed : ∀ unitId ∈ index.units, ∀ prerequisite, Tarjan.Edge index.neighbors unitId prerequisite →
        prerequisite ∈ index.units := fun unitId _ prerequisite near => (consistent.closed unitId prerequisite near).2
    have component := isComponent_filter (consistent.sorted.imp ne_of_lt) closed listed
    have inside : unitId ∈ index.units.filter (Connected (Tarjan.Edge index.neighbors) unitId ·) :=
      List.mem_filter.mpr ⟨listed, decide_eq_true ⟨.refl, .refl⟩⟩
    have holds := (members _).mpr ⟨consistent.sorted.filter _, component,
      ((component.transGen_self_iff inside).mp cycle).imp id fun loop => ⟨unitId, inside, loop⟩⟩
    rw [none] at holds
    exact List.not_mem_nil holds
  · intro acyclic
    refine List.eq_nil_iff_forall_not_mem.mpr fun component member => ?_
    obtain ⟨-, isComponent, cyclic⟩ := (members component).mp member
    rcases cyclic with two | ⟨unitId, inside, loop⟩
    · obtain ⟨unitId, inside⟩ := List.exists_mem_of_ne_nil _ isComponent.nonempty
      exact acyclic unitId ((isComponent.transGen_self_iff inside).mpr (.inl two))
    · exact acyclic unitId (.single loop)

/-- Both algorithms return what they have if there is no cycle, and the first component detected otherwise. -/
theorem unlessCyclic_eq {α : Type} {index : DependencyIndex} (consistent : index.Consistent) {done : List UnitId}
    (processed : Processed index done) (stuck : ∀ unitId, ¬ index.Available done unitId) (result : α) :
    (Acyclic (Tarjan.Edge index.neighbors) ∧ done.length = index.units.length ∧
      unlessCyclic index done result = .ok result) ∨
      (¬ Acyclic (Tarjan.Edge index.neighbors) ∧ ∃ component rest, detectCyclesInIndex index = .ok (component :: rest) ∧
        unlessCyclic index done result = .error (.dependencyCycleDetected component)) := by
  have covers := processed.length_eq_iff consistent stuck
  rw [unlessCyclic]
  by_cases acyclic : Acyclic (Tarjan.Edge index.neighbors)
  · refine .inl ⟨acyclic, covers.mpr acyclic, ?_⟩
    rw [if_neg (not_not.mpr (covers.mpr acyclic))]
    rfl
  · obtain ⟨cycles, detected, -, -⟩ := detectCyclesInIndex_ok consistent
    have some := mt (cycles_eq_nil_iff consistent detected).mp acyclic
    cases cycles with
    | nil => exact absurd rfl some
    | cons component rest =>
      refine .inr ⟨acyclic, component, rest, detected, ?_⟩
      rw [if_pos (mt covers.mp acyclic), firstCycleOrRemaining, detected]
      rfl

/-! ## What the sort returns -/

namespace InMemoryServiceGraph

/-- The unit is registered and not processed, and all it depends on is processed. -/
def Available (graph : InMemoryServiceGraph) (done : List UnitId) (unitId : UnitId) : Prop :=
  graph.IsRegistered unitId ∧ unitId ∉ done ∧ ∀ prerequisite, graph.DependsOn unitId prerequisite → prerequisite ∈ done

/-- Every unit once, after all it depends on, and always the least unit whose turn it may be. -/
structure IsDependencyOrder (graph : InMemoryServiceGraph) (ordered : List UnitId) : Prop where
  nodup : ordered.Nodup
  mem_iff : ∀ unitId, unitId ∈ ordered ↔ graph.IsRegistered unitId
  prerequisites : ∀ before unitId after, ordered = before ++ unitId :: after →
    ∀ prerequisite, graph.DependsOn unitId prerequisite → prerequisite ∈ before
  least : ∀ before unitId after, ordered = before ++ unitId :: after →
    IsLeast {candidate | graph.Available before candidate} unitId

end InMemoryServiceGraph

variable {index : DependencyIndex} {graph : InMemoryServiceGraph}

theorem DependencyIndex.Reflects.edge_eq (reflects : index.Reflects graph) :
    Tarjan.Edge index.neighbors = graph.DependsOn := by
  funext unitId prerequisite
  exact propext (reflects.mem_neighbors unitId prerequisite)

theorem DependencyIndex.Reflects.available_iff {index : DependencyIndex} {graph : InMemoryServiceGraph}
    (reflects : index.Reflects graph) (done : List UnitId) (unitId : UnitId) :
    index.Available done unitId ↔ graph.Available done unitId := by
  rw [DependencyIndex.Available, InMemoryServiceGraph.Available, reflects.mem_units]
  simp only [reflects.mem_neighbors]

theorem topologicalSort_eq (loaded : ∀ order, loadDependencyIndex graph order = .ok index)
    (consistent : index.Consistent) :
    ∃ ordered, (∀ order, topologicalSort graph order = unlessCyclic index ordered ordered) ∧ Processed index ordered ∧
      (∀ unitId, ¬ index.Available ordered unitId) ∧ ∀ before unitId after, ordered = before ++ unitId :: after →
        IsLeast {candidate | index.Available before candidate} unitId := by
  obtain ⟨_, ordered, ran, ended⟩ := (sorting_initial consistent).run consistent (Nat.zero_add _).ge
  refine ⟨ordered, fun order => ?_, ended.processed, fun unitId available => ?_, ended.least⟩
  · rw [topologicalSort, loaded order]
    change (sortReady index index.units.length index.prerequisiteCounts _ [] >>= _) = _
    rw [ran]
    rfl
  · exact List.not_mem_nil ((ended.mem_ready unitId).mpr available)

/-- The sort succeeds exactly on the graphs without a cycle, with the least order of dependency; all
its errors report a cycle. The result does not depend on the order the maps are iterated in. -/
theorem topologicalSort_correct (graph : RegisteredGraph) : ∃ result,
    (∀ order, topologicalSort graph.1 order = result) ∧
    ((∃ ordered, result = .ok ordered) ↔ Acyclic graph.1.DependsOn) ∧
    (∀ ordered, result = .ok ordered → graph.1.IsDependencyOrder ordered) ∧
    ∀ failure, result = .error failure → ∃ component, failure = .dependencyCycleDetected component := by
  obtain ⟨index, loaded, consistent, reflects⟩ := loadDependencyIndex_ok graph
  obtain ⟨ordered, sorts, processed, stuck, least⟩ := topologicalSort_eq loaded consistent
  refine ⟨unlessCyclic index ordered ordered, sorts, ?_⟩
  rcases unlessCyclic_eq consistent processed stuck ordered with
    ⟨acyclic, all, ended⟩ | ⟨cyclic, component, _, -, ended⟩
  · rw [ended, ← reflects.edge_eq]
    refine ⟨iff_of_true ⟨ordered, rfl⟩ acyclic, ?_, nofun⟩
    rintro _ ⟨⟩
    have perm := (List.subperm_of_subset processed.nodup processed.within).perm_of_length_le all.ge
    refine ⟨processed.nodup, fun unitId => perm.mem_iff.trans (reflects.mem_units unitId), ?_, ?_⟩
    · intro before unitId after split prerequisite depends
      exact processed.ordered before unitId after split prerequisite ((reflects.mem_neighbors _ _).mpr depends)
    · intro before unitId after split
      simpa only [reflects.available_iff] using least before unitId after split
  · rw [ended, ← reflects.edge_eq]
    refine ⟨iff_of_false (by rintro ⟨_, ⟨⟩⟩) cyclic, nofun, ?_⟩
    rintro _ ⟨⟩
    exact ⟨component, rfl⟩

end Aios.Sgr
