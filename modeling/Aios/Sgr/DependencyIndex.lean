import Aios.Sgr.ServiceGraph
import Mathlib.Data.Finset.Card
import Mathlib.Data.List.Destutter
import Mathlib.Data.List.Sort
import Mathlib.Data.String.Basic

/-! # The dependency index

What the graph evaluator loads before it sorts or looks for cycles: the units in order, the edges by
source and by target, the number of prerequisites of each unit and the units that depend on themselves.
The loaded index is consistent, reflects the graph and does not depend on the order of any map.
-/

namespace Aios.Sgr

section

variable {ν : Type} (unitIds : List UnitId) (graph : InMemoryServiceGraph)

/-! ## Sorting -/

def sortUnitIds (unitIds : List UnitId) : List UnitId := unitIds.mergeSort fun left right => left ≤ right

/-- `sort_and_dedup_unit_ids`; `Vec::dedup` drops repetitions of the element before. -/
def sortAndDedupUnitIds (unitIds : List UnitId) : List UnitId := (sortUnitIds unitIds).destutter (· ≠ ·)

def dependencyKindRank : DependencyKind → ℕ
  | .requiresHealthy => 0
  | .requiresRunning => 1
  | .ordersAfter => 2

def sortDependencyEdges (edges : List DependencyEdge) : List DependencyEdge :=
  edges.mergeSort fun left right =>
    ((compare left.toUnitId right.toUnitId).then
      (compare (dependencyKindRank left.kind) (dependencyKindRank right.kind))).isLE

theorem sortUnitIds_perm : (sortUnitIds unitIds).Perm unitIds := List.mergeSort_perm ..

theorem sortUnitIds_sorted : (sortUnitIds unitIds).Pairwise (· ≤ ·) := by
  refine (List.pairwise_mergeSort ?_ ?_ unitIds).imp fun ordered => of_decide_eq_true ordered
  · intro first second third lower upper
    exact decide_eq_true ((of_decide_eq_true lower).trans (of_decide_eq_true upper))
  · intro first second
    simpa using le_total first second

theorem sortUnitIds_strict {unitIds : List UnitId} (nodup : unitIds.Nodup) :
    (sortUnitIds unitIds).Pairwise (· < ·) := by
  have distinct : (sortUnitIds unitIds).Nodup := (sortUnitIds_perm unitIds).nodup_iff.mpr nodup
  exact (List.Pairwise.and (sortUnitIds_sorted unitIds) distinct).imp fun both => lt_of_le_of_ne both.1 both.2

/-- Sorting forgets the order of its input. -/
theorem sortUnitIds_congr {left right : List UnitId} (perm : left.Perm right) :
    sortUnitIds left = sortUnitIds right := by
  have both : (sortUnitIds left).Perm (sortUnitIds right) :=
    (sortUnitIds_perm left).trans (perm.trans (sortUnitIds_perm right).symm)
  exact both.eq_of_pairwise (fun _ _ _ _ => le_antisymm) (sortUnitIds_sorted left) (sortUnitIds_sorted right)

/-- Dropping repetitions of the element before leaves a sorted list strictly sorted, with the same elements. -/
theorem destutter'_of_sorted {first : UnitId} {rest : List UnitId} (sorted : (first :: rest).Pairwise (· ≤ ·)) :
    (rest.destutter' (· ≠ ·) first).Pairwise (· < ·) ∧
      ∀ unitId, unitId ∈ rest.destutter' (· ≠ ·) first ↔ unitId ∈ first :: rest := by
  induction rest generalizing first with
  | nil => simp
  | cons second rest ih =>
    obtain ⟨least, tail⟩ := List.pairwise_cons.mp sorted
    by_cases same : first = second
    · subst same
      rw [List.destutter'_cons_neg _ (not_not.mpr rfl)]
      obtain ⟨strict, members⟩ := ih tail
      exact ⟨strict, fun unitId => by simp [members unitId]⟩
    · rw [List.destutter'_cons_pos _ same]
      obtain ⟨strict, members⟩ := ih tail
      refine ⟨List.pairwise_cons.mpr ⟨fun unitId member => ?_, strict⟩, fun unitId => ?_⟩
      · have less : first < second := lt_of_le_of_ne (least second List.mem_cons_self) same
        rcases List.mem_cons.mp ((members unitId).mp member) with rfl | later
        · exact less
        · exact less.trans_le ((List.pairwise_cons.mp tail).1 unitId later)
      · rw [List.mem_cons, members, List.mem_cons (l := second :: rest)]

theorem sortAndDedupUnitIds_spec :
    (sortAndDedupUnitIds unitIds).Pairwise (· < ·) ∧ ∀ unitId, unitId ∈ sortAndDedupUnitIds unitIds ↔
    unitId ∈ unitIds := by
  have sorted := sortUnitIds_sorted unitIds
  simp only [← (sortUnitIds_perm unitIds).mem_iff, sortAndDedupUnitIds]
  generalize sortUnitIds unitIds = listed at sorted
  cases listed with
  | nil => simp
  | cons first rest => exact destutter'_of_sorted sorted

/-! ## Loading -/

structure DependencyIndex where
  units : List UnitId
  adjacency : Table UnitId (List UnitId)
  dependents : Table UnitId (List UnitId)
  prerequisiteCounts : Table UnitId ℕ
  selfLoops : Finset UnitId

def missingIndexEntry (label : String) (unitId : UnitId) : SgrError := .internal s!"missing {label} for {unitId}"

/-- `get(unit_id).ok_or_else(missing_index_entry)`. -/
def indexEntry (label : String) (table : Table UnitId ν) (unitId : UnitId) : Except SgrError ν :=
  match table.lookup unitId with
  | some value => .ok value
  | none => .error (missingIndexEntry label unitId)

/-- The map that stores one value for every unit. -/
def tableOf (units : List UnitId) (value : ν) : Table UnitId ν :=
  units.foldl (fun table unitId => table.insert unitId value) ∅

/-- The body of the loop over the edges of a unit. -/
def addEdge (unitSet : Finset UnitId) (unitId : UnitId) (index : DependencyIndex) (edge : DependencyEdge) :
    Except SgrError DependencyIndex :=
  if edge.fromUnitId ≠ unitId then
    .error (.internal s!"dependency edge source mismatch: expected {unitId}, got {edge.fromUnitId}")
  else if edge.toUnitId ∉ unitSet then
    .error (.dependencyTargetNotRegistered edge.toUnitId)
  else do
    let targets ← indexEntry "adjacency" index.adjacency unitId
    let sources ← indexEntry "dependents" index.dependents edge.toUnitId
    let count ← indexEntry "prerequisite count" index.prerequisiteCounts unitId
    return { index with
      adjacency := index.adjacency.insert unitId (targets ++ [edge.toUnitId])
      dependents := index.dependents.insert edge.toUnitId (sources ++ [unitId])
      prerequisiteCounts := index.prerequisiteCounts.insert unitId (count + 1)
      selfLoops := if edge.toUnitId = unitId then insert unitId index.selfLoops else index.selfLoops }

/-- The body of the loop over the units. -/
def addUnit (unitSet : Finset UnitId) (index : DependencyIndex) (unitId : UnitId) :
    Except SgrError DependencyIndex := do
  let edges ← graph.listDependencies unitId
  (sortDependencyEdges edges).foldlM (addEdge unitSet unitId) index

/-- The loops over `values_mut`. -/
def DependencyIndex.sortLists (index : DependencyIndex) : DependencyIndex :=
  { index with
    adjacency := index.adjacency.mapValues sortUnitIds
    dependents := index.dependents.mapValues sortUnitIds }

def loadDependencyIndex (order : IterationOrder ServiceUnit) :
    Except SgrError DependencyIndex := do
  let units := sortUnitIds ((graph.listUnits order).map (·.unitId))
  let index ← units.foldlM (addUnit graph units.toFinset)
    ⟨units, tableOf units [], tableOf units [], tableOf units 0, ∅⟩
  return index.sortLists

/-! ## What an index says -/

end

namespace DependencyIndex

/-- The prerequisites of a unit, one for each edge. -/
def neighbors (index : DependencyIndex) (unitId : UnitId) : List UnitId := (index.adjacency.lookup unitId).getD []

/-- The maps of an index describe one multigraph on its units. -/
structure Consistent (index : DependencyIndex) : Prop where
  sorted : index.units.Pairwise (· < ·)
  adjacency : ∀ unitId ∈ index.units, index.adjacency.lookup unitId = some (index.neighbors unitId)
  closed : ∀ unitId, ∀ prerequisite ∈ index.neighbors unitId, unitId ∈ index.units ∧ prerequisite ∈ index.units
  dependents : ∀ unitId ∈ index.units, ∃ sources, index.dependents.lookup unitId = some sources ∧
    ∀ source, sources.count source = (index.neighbors source).count unitId
  counts : ∀ unitId ∈ index.units, index.prerequisiteCounts.lookup unitId = some (index.neighbors unitId).length
  selfLoops : ∀ unitId, unitId ∈ index.selfLoops ↔ unitId ∈ index.neighbors unitId

/-- The index is one of the graph. -/
structure Reflects (index : DependencyIndex) (graph : InMemoryServiceGraph) : Prop where
  mem_units : ∀ unitId, unitId ∈ index.units ↔ graph.IsRegistered unitId
  mem_neighbors : ∀ unitId prerequisite, prerequisite ∈ index.neighbors unitId ↔ graph.DependsOn unitId prerequisite

end DependencyIndex

/-! ## The loops -/

theorem indexEntry_of_lookup {ν : Type} {label : String} {table : Table UnitId ν} {unitId : UnitId} {value : ν}
    (stored : table.lookup unitId = some value) : indexEntry label table unitId = .ok value := by
  rw [indexEntry, stored]

theorem lookup_tableOf {ν : Type} (units : List UnitId) (value : ν) (unitId : UnitId) :
    (tableOf units value).lookup unitId = if unitId ∈ units then some value else none := by
  cases stored : (tableOf units value).lookup unitId with
  | none =>
    rw [if_neg]
    intro member
    have filled : ((tableOf units value).lookup unitId).isSome = true :=
      Table.isSome_lookup_foldl_insert.mpr (.inl ⟨unitId, member, rfl⟩)
    rw [stored] at filled
    cases filled
  | some found =>
    obtain ⟨listed, member, rfl, rfl⟩ | impossible := Table.exists_of_lookup_foldl_insert stored
    · rw [if_pos member]
    · cases impossible

/-- What the maps hold after the loops have been through a list of edges. -/
structure Loaded (units : List UnitId) (edges : List DependencyEdge) (index : DependencyIndex) : Prop where
  units_eq : index.units = units
  adjacency : ∀ unitId, index.adjacency.lookup unitId =
    if unitId ∈ units then some ((edges.filter (·.fromUnitId = unitId)).map (·.toUnitId)) else none
  dependents : ∀ unitId, index.dependents.lookup unitId =
    if unitId ∈ units then some ((edges.filter (·.toUnitId = unitId)).map (·.fromUnitId)) else none
  counts : ∀ unitId, index.prerequisiteCounts.lookup unitId =
    if unitId ∈ units then some (edges.filter (·.fromUnitId = unitId)).length else none
  selfLoops : ∀ unitId, unitId ∈ index.selfLoops ↔ ∃ edge ∈ edges, edge.fromUnitId = unitId ∧ edge.toUnitId = unitId

section Loops

variable {units : List UnitId} {edges : List DependencyEdge} {index : DependencyIndex}

theorem loaded_empty (units : List UnitId) :
    Loaded units [] ⟨units, tableOf units [], tableOf units [], tableOf units 0, ∅⟩ where
  units_eq := rfl
  adjacency := lookup_tableOf units []
  dependents := lookup_tableOf units []
  counts := lookup_tableOf units 0
  selfLoops := by simp

theorem addEdge_eq_ok {unitSet : Finset UnitId} {edge : DependencyEdge} {targets sources : List UnitId} {count : ℕ}
    (target : edge.toUnitId ∈ unitSet) (adjacency : index.adjacency.lookup edge.fromUnitId = some targets)
    (dependents : index.dependents.lookup edge.toUnitId = some sources)
    (counts : index.prerequisiteCounts.lookup edge.fromUnitId = some count) :
    addEdge unitSet edge.fromUnitId index edge = .ok { index with
      adjacency := index.adjacency.insert edge.fromUnitId (targets ++ [edge.toUnitId])
      dependents := index.dependents.insert edge.toUnitId (sources ++ [edge.fromUnitId])
      prerequisiteCounts := index.prerequisiteCounts.insert edge.fromUnitId (count + 1)
      selfLoops := if edge.toUnitId = edge.fromUnitId then insert edge.fromUnitId index.selfLoops else
        index.selfLoops } := by
  rw [addEdge, if_neg (not_not.mpr rfl), if_neg (not_not.mpr target), indexEntry_of_lookup adjacency,
    indexEntry_of_lookup dependents, indexEntry_of_lookup counts]
  rfl

theorem Loaded.addEdge (loaded : Loaded units edges index) {edge : DependencyEdge}
    (source : edge.fromUnitId ∈ units) (target : edge.toUnitId ∈ units) :
    ∃ next, Sgr.addEdge units.toFinset edge.fromUnitId index edge = .ok next ∧ Loaded units (edges ++ [edge]) next := by
  have targets := loaded.adjacency edge.fromUnitId
  have sources := loaded.dependents edge.toUnitId
  have count := loaded.counts edge.fromUnitId
  rw [if_pos source] at targets count
  rw [if_pos target] at sources
  refine ⟨_, addEdge_eq_ok (List.mem_toFinset.mpr target) targets sources count, ?_⟩
  refine ⟨loaded.units_eq, fun unitId => ?_, fun unitId => ?_, fun unitId => ?_, fun unitId => ?_⟩
  · rw [Table.lookup_insert_eq, loaded.adjacency, List.filter_append]
    by_cases same : unitId = edge.fromUnitId
    · simp [same, source]
    · simp [same, Ne.symm same]
  · rw [Table.lookup_insert_eq, loaded.dependents, List.filter_append]
    by_cases same : unitId = edge.toUnitId
    · simp [same, target]
    · simp [same, Ne.symm same]
  · rw [Table.lookup_insert_eq, loaded.counts, List.filter_append]
    by_cases same : unitId = edge.fromUnitId
    · simp [same, source]
    · simp [same, Ne.symm same]
  · dsimp only
    split_ifs with loop
    · rw [Finset.mem_insert, loaded.selfLoops]
      simp [or_and_right, exists_or, loop, or_comm, eq_comm]
    · rw [loaded.selfLoops]
      simp only [List.mem_append, List.mem_singleton, or_and_right, exists_or, exists_eq_left]
      refine (or_iff_left fun both => loop ?_).symm
      exact both.2.trans both.1.symm

theorem Loaded.addEdges (loaded : Loaded units edges index) {unitId : UnitId} (source : unitId ∈ units)
    {added : List DependencyEdge} (fit : ∀ edge ∈ added, edge.fromUnitId = unitId ∧ edge.toUnitId ∈ units) :
    ∃ next, added.foldlM (Sgr.addEdge units.toFinset unitId) index = .ok next ∧ Loaded units (edges ++ added) next := by
  induction added generalizing edges index with
  | nil => exact ⟨index, rfl, by simpa using loaded⟩
  | cons edge added ih =>
    obtain ⟨rfl, target⟩ := fit edge List.mem_cons_self
    obtain ⟨middle, ran, held⟩ := loaded.addEdge source target
    obtain ⟨next, rest, held⟩ := ih held fun edge member => fit edge (List.mem_cons_of_mem _ member)
    refine ⟨next, ?_, by simpa using held⟩
    rw [List.foldlM_cons, ran]
    exact rest

/-- The loop over the units goes through the edges of each, sorted. -/
theorem Loaded.addUnits {graph : InMemoryServiceGraph} (wellFormed : graph.WellFormed)
    (registered : ∀ unitId, unitId ∈ units ↔ graph.IsRegistered unitId) (loaded : Loaded units edges index)
    {added : List UnitId} (within : ∀ unitId ∈ added, unitId ∈ units) :
    ∃ next, added.foldlM (addUnit graph units.toFinset) index = .ok next ∧
      Loaded units (edges ++ added.flatMap fun unitId => sortDependencyEdges (graph.edgesFrom unitId)) next := by
  induction added generalizing edges index with
  | nil => exact ⟨index, rfl, by simpa using loaded⟩
  | cons unitId added ih =>
    have member := within unitId List.mem_cons_self
    have fit : ∀ edge ∈ sortDependencyEdges (graph.edgesFrom unitId), edge.fromUnitId = unitId ∧
        edge.toUnitId ∈ units := by
      intro edge listed
      obtain ⟨source, -, target⟩ := wellFormed.declared unitId edge ((List.mergeSort_perm ..).mem_iff.mp listed)
      exact ⟨source, (registered _).mpr target⟩
    obtain ⟨middle, ran, held⟩ := loaded.addEdges member fit
    obtain ⟨next, rest, held⟩ := ih held fun unitId later => within unitId (List.mem_cons_of_mem _ later)
    have known : ¬ (graph.units.lookup unitId).isNone = true := by
      have stored := (registered unitId).mp member
      rw [InMemoryServiceGraph.IsRegistered] at stored
      simp [Option.isSome_iff_ne_none.mp stored]
    have first : addUnit graph units.toFinset index unitId = .ok middle := by
      rw [addUnit, InMemoryServiceGraph.listDependencies, if_neg known]
      exact ran
    refine ⟨next, ?_, by simpa using held⟩
    rw [List.foldlM_cons, first]
    exact rest

end Loops

/-! ## The loaded index -/

theorem InMemoryServiceGraph.WellFormed.unitIds_eq_keys {graph : InMemoryServiceGraph} (wellFormed : graph.WellFormed) :
    graph.units.values.map (·.unitId) = graph.units.keys := by
  rw [Table.values, List.map_map, AList.keys, List.keys]
  refine List.map_congr_left fun entry member => ?_
  exact wellFormed.keyed entry.1 entry.2 (AList.mem_lookup_iff.mpr member)

/-- The maps after the loops, with their lists sorted, describe one multigraph. -/
theorem Loaded.consistent {units : List UnitId} {edges : List DependencyEdge} {index : DependencyIndex}
    (loaded : Loaded units edges index) (sorted : units.Pairwise (· < ·))
    (within : ∀ edge ∈ edges, edge.fromUnitId ∈ units ∧ edge.toUnitId ∈ units) :
    index.sortLists.Consistent ∧ ∀ unitId prerequisite, prerequisite ∈ index.sortLists.neighbors unitId ↔
      ∃ edge ∈ edges, edge.fromUnitId = unitId ∧ edge.toUnitId = prerequisite := by
  have adjacency (unitId : UnitId) : index.sortLists.adjacency.lookup unitId =
      (index.adjacency.lookup unitId).map sortUnitIds := Table.lookup_mapValues ..
  have neighbors {unitId : UnitId} (member : unitId ∈ units) :
      index.sortLists.neighbors unitId = sortUnitIds ((edges.filter (·.fromUnitId = unitId)).map (·.toUnitId)) := by
    rw [DependencyIndex.neighbors, adjacency, loaded.adjacency, if_pos member]
    rfl
  have outside {unitId : UnitId} (absent : unitId ∉ units) : index.sortLists.neighbors unitId = [] := by
    rw [DependencyIndex.neighbors, adjacency, loaded.adjacency, if_neg absent]
    rfl
  have mem_neighbors (unitId prerequisite : UnitId) : prerequisite ∈ index.sortLists.neighbors unitId ↔
      ∃ edge ∈ edges, edge.fromUnitId = unitId ∧ edge.toUnitId = prerequisite := by
    by_cases member : unitId ∈ units
    · rw [neighbors member, (sortUnitIds_perm _).mem_iff]
      simp [and_assoc]
    · rw [outside member]
      refine iff_of_false List.not_mem_nil ?_
      rintro ⟨edge, listed, rfl, -⟩
      exact member (within edge listed).1
  have count_neighbors (source target : UnitId) : (index.sortLists.neighbors source).count target =
      edges.countP fun edge => decide (edge.fromUnitId = source) && (edge.toUnitId == target) := by
    by_cases member : source ∈ units
    · rw [neighbors member, (sortUnitIds_perm _).count_eq, List.count_eq_countP, List.countP_map, List.countP_filter]
      simp [Bool.and_comm]
    · rw [outside member, List.count_nil, eq_comm, List.countP_eq_zero]
      rintro edge listed both
      rw [Bool.and_eq_true, decide_eq_true_eq] at both
      exact member (both.1 ▸ (within edge listed).1)
  refine ⟨⟨?_, fun unitId member => ?_, fun unitId prerequisite near => ?_, fun unitId member =>
    ?_, fun unitId member => ?_,
    fun unitId => ?_⟩, mem_neighbors⟩
  · exact loaded.units_eq ▸ sorted
  · have listed : unitId ∈ units := loaded.units_eq ▸ member
    rw [neighbors listed, adjacency, loaded.adjacency, if_pos listed]
    rfl
  · obtain ⟨edge, listed, rfl, rfl⟩ := (mem_neighbors unitId prerequisite).mp near
    exact loaded.units_eq ▸ within edge listed
  · have listed : unitId ∈ units := loaded.units_eq ▸ member
    refine ⟨sortUnitIds ((edges.filter (·.toUnitId = unitId)).map (·.fromUnitId)), ?_, fun source => ?_⟩
    · rw [DependencyIndex.sortLists, Table.lookup_mapValues, loaded.dependents, if_pos listed]
      rfl
    · rw [count_neighbors, (sortUnitIds_perm _).count_eq, List.count_eq_countP, List.countP_map, List.countP_filter]
      refine List.countP_congr fun edge _ => ?_
      simp
  · have listed : unitId ∈ units := loaded.units_eq ▸ member
    rw [neighbors listed, (sortUnitIds_perm _).length_eq, List.length_map]
    exact (loaded.counts unitId).trans (if_pos listed)
  · rw [mem_neighbors]
    exact loaded.selfLoops unitId

/-- Loading succeeds with one index, whatever the order the units are listed in. -/
theorem loadDependencyIndex_ok (graph : RegisteredGraph) :
    ∃ index, (∀ order, loadDependencyIndex graph.1 order = .ok index) ∧ index.Consistent ∧ index.Reflects graph.1 := by
  obtain ⟨graph, wellFormed⟩ := graph
  have keys := wellFormed.unitIds_eq_keys
  set units := sortUnitIds (graph.units.values.map (·.unitId)) with units_eq
  have sameUnits (order : IterationOrder ServiceUnit) : sortUnitIds ((graph.listUnits order).map (·.unitId)) = units :=
    sortUnitIds_congr ((order.perm graph.units.values).map _)
  have registered (unitId : UnitId) : unitId ∈ units ↔ graph.IsRegistered unitId := by
    rw [units_eq, (sortUnitIds_perm _).mem_iff, keys]
    exact Table.mem_keys_iff graph.units unitId
  have sorted : units.Pairwise (· < ·) := sortUnitIds_strict (keys ▸ graph.units.keys_nodup)
  obtain ⟨index, ran, loaded⟩ :=
    (loaded_empty units).addUnits wellFormed registered fun unitId (member : unitId ∈ units) => member
  rw [List.nil_append] at loaded
  have listed (edge : DependencyEdge) :
      edge ∈ units.flatMap (fun unitId => sortDependencyEdges (graph.edgesFrom unitId)) ↔
        edge ∈ graph.edgesFrom edge.fromUnitId := by
    simp only [List.mem_flatMap, sortDependencyEdges, (List.mergeSort_perm ..).mem_iff]
    constructor
    · rintro ⟨unitId, -, member⟩
      exact (wellFormed.declared unitId edge member).1 ▸ member
    · exact fun member => ⟨_, (registered _).mpr (wellFormed.declared _ edge member).2.1, member⟩
  have within : ∀ edge ∈ units.flatMap (fun unitId => sortDependencyEdges (graph.edgesFrom unitId)),
      edge.fromUnitId ∈ units ∧ edge.toUnitId ∈ units := by
    intro edge member
    obtain ⟨-, source, target⟩ := wellFormed.declared _ edge ((listed edge).mp member)
    exact ⟨(registered _).mpr source, (registered _).mpr target⟩
  obtain ⟨consistent, mem_neighbors⟩ := loaded.consistent sorted within
  refine ⟨_, fun order => ?_, consistent, fun unitId => ?_, fun unitId prerequisite => ?_⟩
  · rw [loadDependencyIndex]
    simp only [sameUnits order]
    rw [ran]
    rfl
  · rw [← registered, ← loaded.units_eq]
    rfl
  · rw [mem_neighbors]
    constructor
    · rintro ⟨edge, member, rfl, rfl⟩
      exact ⟨edge, (listed edge).mp member, rfl⟩
    · rintro ⟨edge, member, rfl⟩
      obtain ⟨rfl, -, -⟩ := wellFormed.declared unitId edge member
      exact ⟨edge, (listed edge).mpr member, rfl, rfl⟩

end Aios.Sgr
