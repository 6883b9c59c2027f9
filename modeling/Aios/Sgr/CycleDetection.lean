import Aios.Lib.Digraph
import Aios.Sgr.DependencyIndex
import Mathlib.Algebra.BigOperators.Group.List.Basic
import Mathlib.Algebra.Order.BigOperators.Group.Finset

/-! # Cycle detection

The iterative walk for strongly connected components over a dependency index. Every iteration is made of
actions of the abstract search, so the walk ends without an internal error and what it returns is exactly
the components that hold a cycle.
-/

namespace Aios.Sgr

open Digraphs

section

variable (index : DependencyIndex)

structure TarjanFrame where
  node : UnitId
  nextNeighbor : ℕ

/-- The variables of the walk, its frames apart. -/
structure TarjanWalk where
  nextIndex : ℕ
  indexes : Table UnitId ℕ
  lowlinks : Table UnitId ℕ
  /-- Last pushed first. -/
  componentStack : List UnitId
  onStack : Finset UnitId
  components : List (List UnitId)

def pushTarjanNode (node : UnitId) (walk : TarjanWalk) : TarjanWalk :=
  { walk with
    nextIndex := walk.nextIndex + 1
    indexes := walk.indexes.insert node walk.nextIndex
    lowlinks := walk.lowlinks.insert node walk.nextIndex
    componentStack := node :: walk.componentStack
    onStack := insert node walk.onStack }

/-- The loop of `pop_component`, from what it has popped before. -/
def popUntilRoot (root : UnitId) : List UnitId → Finset UnitId → List UnitId →
    Except SgrError (List UnitId × List UnitId × Finset UnitId)
  | [], _, _ => .error (.internal "empty Tarjan component stack")
  | node :: stack, onStack, component =>
    if node = root then .ok (component ++ [node], stack, onStack.erase node)
    else popUntilRoot root stack (onStack.erase node) (component ++ [node])

def popComponent (root : UnitId) (walk : TarjanWalk) : Except SgrError (List UnitId × TarjanWalk) := do
  let (component, stack, onStack) ← popUntilRoot root walk.componentStack walk.onStack []
  return (sortUnitIds component, { walk with componentStack := stack, onStack := onStack })

def tarjanValue (values : Table UnitId ℕ) (unitId : UnitId) (label : String) : Except SgrError ℕ :=
  indexEntry label values unitId

def lowerLowlink (lowlinks : Table UnitId ℕ) (unitId : UnitId) (candidate : ℕ) : Except SgrError (Table UnitId ℕ) := do
  let current ← indexEntry "lowlink" lowlinks unitId
  return if candidate < current then lowlinks.insert unitId candidate else lowlinks

/-- The part of an iteration that follows an edge. -/
def followNeighbor (node neighbor : UnitId) (frames : List TarjanFrame) (walk : TarjanWalk) :
    Except SgrError (List TarjanFrame × TarjanWalk) :=
  if (walk.indexes.lookup neighbor).isNone then
    return (⟨neighbor, 0⟩ :: frames, pushTarjanNode neighbor walk)
  else if neighbor ∈ walk.onStack then do
    let neighborIndex ← tarjanValue walk.indexes neighbor "index"
    let lowlinks ← lowerLowlink walk.lowlinks node neighborIndex
    return (frames, { walk with lowlinks := lowlinks })
  else
    return (frames, walk)

def closeIfRoot (node : UnitId) (walk : TarjanWalk) : Except SgrError TarjanWalk := do
  let lowlink ← tarjanValue walk.lowlinks node "lowlink"
  let nodeIndex ← tarjanValue walk.indexes node "index"
  if lowlink = nodeIndex then
    let (component, walk) ← popComponent node walk
    return { walk with components := walk.components ++ [component] }
  else
    return walk

/-- The part of an iteration that leaves a node; `frames` are those below it. -/
def leaveNode (node : UnitId) (frames : List TarjanFrame) (walk : TarjanWalk) :
    Except SgrError (List TarjanFrame × TarjanWalk) := do
  let walk ← closeIfRoot node walk
  match frames with
  | [] => return ([], walk)
  | parent :: _ =>
    let childLowlink ← tarjanValue walk.lowlinks node "lowlink"
    let lowlinks ← lowerLowlink walk.lowlinks parent.node childLowlink
    return (frames, { walk with lowlinks := lowlinks })

/-- An iteration of the loop over the frames. -/
def tarjanStep (frame : TarjanFrame) (below : List TarjanFrame) (walk : TarjanWalk) :
    Except SgrError (List TarjanFrame × TarjanWalk) := do
  let neighbors ← indexEntry "adjacency" index.adjacency frame.node
  match neighbors[frame.nextNeighbor]? with
  | some neighbor => followNeighbor frame.node neighbor (⟨frame.node, frame.nextNeighbor + 1⟩ :: below) walk
  | none => leaveNode frame.node below walk

/-- The loop over the frames, innermost first. -/
def walkFrames (index : DependencyIndex) : ℕ → List TarjanFrame → TarjanWalk → Except SgrError TarjanWalk
  | _, [], walk => .ok walk
  | 0, _ :: _, _ => .error .outOfFuel
  | fuel + 1, frame :: below, walk => do
    let (frames, walk) ← tarjanStep index frame below walk
    walkFrames index fuel frames walk

/-- One iteration for each unit and each edge. -/
def DependencyIndex.walkBound : ℕ :=
  (index.units.map fun unitId => (index.neighbors unitId).length + 1).sum

/-- The body of the loop over the units. -/
def visitUnit (walk : TarjanWalk) (start : UnitId) : Except SgrError TarjanWalk :=
  if (walk.indexes.lookup start).isSome then .ok walk
  else walkFrames index index.walkBound [⟨start, 0⟩] (pushTarjanNode start walk)

def TarjanWalk.new : TarjanWalk := ⟨0, ∅, ∅, [], ∅, []⟩

def detectCyclesInIndex : Except SgrError (List (List UnitId)) := do
  let walk ← index.units.foldlM (visitUnit index) .new
  return walk.components.filter fun component =>
    2 ≤ component.length || component.head?.any (· ∈ index.selfLoops)

/-! ## The walk as a search -/

/-- What the variables say of the abstract search. -/
def TarjanWalk.view (frames : List TarjanFrame) (walk : TarjanWalk) : Tarjan.State UnitId where
  visited := walk.indexes.keys.toFinset
  index unitId := (walk.indexes.lookup unitId).getD 0
  low unitId := (walk.lowlinks.lookup unitId).getD 0
  next := walk.nextIndex
  stack := walk.componentStack
  frames := frames.map fun frame => (frame.node, (index.neighbors frame.node).drop frame.nextNeighbor)
  components := walk.components

/-- The redundant variables agree, and the search they describe keeps its invariant. -/
structure Walks (index : DependencyIndex) (frames : List TarjanFrame) (walk : TarjanWalk) : Prop where
  inv : Tarjan.Inv index.neighbors (walk.view index frames)
  lowlinks : ∀ unitId, (walk.lowlinks.lookup unitId).isSome ↔ (walk.indexes.lookup unitId).isSome
  onStack : ∀ unitId, unitId ∈ walk.onStack ↔ unitId ∈ walk.componentStack
  within : ∀ unitId, (walk.indexes.lookup unitId).isSome → unitId ∈ index.units
  sorted : ∀ component ∈ walk.components, component.Pairwise (· < ·)

end

section Steps

variable {index : DependencyIndex} {frames below : List TarjanFrame} {walk : TarjanWalk} {node neighbor : UnitId}

theorem mem_visited {unitId : UnitId} :
    unitId ∈ (walk.view index frames).visited ↔ (walk.indexes.lookup unitId).isSome := by
  rw [TarjanWalk.view, List.mem_toFinset, Table.mem_keys_iff]

theorem view_push : (pushTarjanNode node walk).view index (⟨node, 0⟩ :: frames) =
    (walk.view index frames).push index.neighbors node := by
  have visited : ((pushTarjanNode node walk).view index (⟨node, 0⟩ :: frames)).visited =
      insert node (walk.view index frames).visited := by
    ext unitId
    rw [Finset.mem_insert, mem_visited, mem_visited, pushTarjanNode, Table.lookup_insert_eq]
    split_ifs with same
    · simp [same]
    · simp [same]
  have numbered (table : Table UnitId ℕ) : (fun unitId => ((table.insert node walk.nextIndex).lookup unitId).getD 0) =
      Function.update (fun unitId => (table.lookup unitId).getD 0) node walk.nextIndex := by
    funext unitId
    rw [Table.lookup_insert_eq, Function.update_apply]
    split_ifs
    · rfl
    · rfl
  rw [Tarjan.State.push, ← visited]
  simp only [TarjanWalk.view, pushTarjanNode, numbered, List.map_cons, List.drop_zero]

theorem index_of_visited (index : DependencyIndex) (frames : List TarjanFrame)
    (seen : (walk.indexes.lookup node).isSome) :
    walk.indexes.lookup node = some ((walk.view index frames).index node) := by
  obtain ⟨value, stored⟩ := Option.isSome_iff_exists.mp seen
  simp [TarjanWalk.view, stored]

namespace Walks

theorem visited_of_open (walks : Walks index frames walk) {frame : TarjanFrame} (member : frame ∈ frames) :
    (walk.indexes.lookup frame.node).isSome := by
  have onPath : frame.node ∈ (walk.view index frames).path :=
    List.mem_map.mpr ⟨_, List.mem_map_of_mem member, rfl⟩
  exact mem_visited.mp (walks.inv.stack_visited _ (walks.inv.path_stack _ onPath))

theorem low_of_visited (walks : Walks index frames walk) (seen : (walk.indexes.lookup node).isSome) :
    walk.lowlinks.lookup node = some ((walk.view index frames).low node) := by
  obtain ⟨value, stored⟩ := Option.isSome_iff_exists.mp ((walks.lowlinks node).mpr seen)
  simp [TarjanWalk.view, stored]

/-- Lowering a lowlink is the abstract action. -/
theorem lowerLowlink_ok (walks : Walks index frames walk) (seen : (walk.indexes.lookup node).isSome) (candidate : ℕ) :
    ∃ lowlinks, lowerLowlink walk.lowlinks node candidate = .ok lowlinks ∧
      TarjanWalk.view index frames { walk with lowlinks := lowlinks } =
        (walk.view index frames).tighten node candidate ∧
      ∀ unitId, (lowlinks.lookup unitId).isSome ↔ (walk.lowlinks.lookup unitId).isSome := by
  have stored := walks.low_of_visited seen
  set current := (walk.view index frames).low node with current_eq
  refine ⟨if candidate < current then walk.lowlinks.insert node candidate else walk.lowlinks, ?_, ?_, fun unitId => ?_⟩
  · rw [lowerLowlink, indexEntry_of_lookup stored]
    rfl
  · have low : (TarjanWalk.view index frames { walk with
        lowlinks := if candidate < current then walk.lowlinks.insert node candidate else walk.lowlinks }).low =
        Function.update (walk.view index frames).low node (min current candidate) := by
      funext unitId
      rw [Function.update_apply]
      simp only [TarjanWalk.view]
      split_ifs with less same same
      · rw [Table.lookup_insert_eq, if_pos same, min_eq_right less.le]
        rfl
      · rw [Table.lookup_insert_eq, if_neg same]
      · rw [same, stored, min_eq_left (not_lt.mp less)]
        rfl
      · rfl
    rw [Tarjan.State.tighten, ← current_eq, ← low]
    rfl
  · split_ifs
    · rw [Table.lookup_insert_eq]
      split_ifs with same
      · subst same
        simp [stored]
      · rfl
    · rfl

end Walks

/-- One walk follows from another by a step that loses nothing and leaves less to do. -/
structure Advances (index : DependencyIndex) (frames : List TarjanFrame) (walk : TarjanWalk)
    (frames' : List TarjanFrame) (walk' : TarjanWalk) : Prop where
  walks : Walks index frames' walk'
  kept : ∀ unitId, (walk.indexes.lookup unitId).isSome → (walk'.indexes.lookup unitId).isSome
  work : (walk'.view index frames').work index.neighbors index.units.toFinset <
    (walk.view index frames).work index.neighbors index.units.toFinset

theorem view_frames_cons {next : ℕ} (near : (index.neighbors node)[next]? = some neighbor) :
    (walk.view index (⟨node, next⟩ :: below)).frames =
      (node, neighbor :: (index.neighbors node).drop (next + 1)) :: (walk.view index below).frames := by
  obtain ⟨bound, read⟩ := List.getElem?_eq_some_iff.mp near
  rw [TarjanWalk.view, List.map_cons, List.drop_eq_getElem_cons bound, read]
  rfl

namespace Walks

/-- Following an edge to a unit that was not visited opens the unit. -/
theorem follow_new (consistent : index.Consistent) {next : ℕ} (walks : Walks index (⟨node, next⟩ :: below) walk)
    (near : (index.neighbors node)[next]? = some neighbor) (fresh : walk.indexes.lookup neighbor = none) :
    Advances index (⟨node, next⟩ :: below) walk (⟨neighbor, 0⟩ :: ⟨node, next + 1⟩ :: below)
      (pushTarjanNode neighbor walk) := by
  set s := walk.view index (⟨node, next⟩ :: below) with s_eq
  have opened : s.frames = (node, neighbor :: (index.neighbors node).drop (next + 1)) ::
    (walk.view index below).frames :=
    view_frames_cons near
  have unvisited : neighbor ∉ s.visited := by
    rw [mem_visited, fresh]
    simp
  have listed : neighbor ∈ index.units := (consistent.closed node neighbor (List.mem_of_getElem? near)).2
  have seen := walks.visited_of_open List.mem_cons_self
  have apart : node ≠ neighbor := by
    rintro rfl
    exact unvisited (mem_visited.mpr seen)
  have onStack : node ∈ s.stack := walks.inv.path_stack node
    (Tarjan.State.mem_path.mpr ⟨_, opened ▸ List.mem_cons_self⟩)
  have framed : (s.push index.neighbors neighbor).frames = [(neighbor, index.neighbors neighbor)] ++
      (node, neighbor :: (index.neighbors node).drop (next + 1)) :: (walk.view index below).frames := by
    rw [← opened]
    rfl
  have state : (pushTarjanNode neighbor walk).view index (⟨neighbor, 0⟩ :: ⟨node, next + 1⟩ :: below) =
      { s.push index.neighbors neighbor with
        frames := [(neighbor, index.neighbors neighbor)] ++
          (node, (index.neighbors node).drop (next + 1)) :: (walk.view index below).frames } := by
    rw [s_eq, ← view_push]
    rfl
  refine ⟨⟨?_, fun unitId => ?_, fun unitId => ?_, fun unitId => ?_, walks.sorted⟩, fun unitId => ?_, ?_⟩
  · rw [state]
    refine (walks.inv.push unvisited (walks.inv.reaches_pending opened)).advance framed
      (Finset.mem_insert_self ..) fun _ => ?_
    have low : (s.push index.neighbors neighbor).low node = s.low node := Function.update_of_ne apart _ _
    have number : (s.push index.neighbors neighbor).index neighbor = s.next := Function.update_self ..
    have atMost : s.low node ≤ s.index node := walks.inv.low_le node onStack
    have less : s.index node < s.next := walks.inv.index_lt node (walks.inv.stack_visited node onStack)
    exact low.trans_le (atMost.trans (less.le.trans number.ge))
  · rw [pushTarjanNode, Table.lookup_insert_eq, Table.lookup_insert_eq]
    split_ifs
    · rfl
    · exact walks.lowlinks unitId
  · rw [pushTarjanNode, Finset.mem_insert, List.mem_cons, walks.onStack]
  · rw [pushTarjanNode, Table.lookup_insert_eq]
    split_ifs with same
    · exact fun _ => same ▸ listed
    · exact walks.within unitId
  · rw [pushTarjanNode, Table.lookup_insert_eq]
    split_ifs
    · exact fun _ => rfl
    · exact id
  · have pushed : (s.push index.neighbors neighbor).work index.neighbors index.units.toFinset =
        s.work index.neighbors index.units.toFinset :=
      Tarjan.State.work_push (List.mem_toFinset.mpr listed) unvisited
    rw [state, ← pushed, Tarjan.State.work, Tarjan.State.work, framed]
    simp only [List.map_append, List.map_cons, List.sum_append, List.sum_cons, List.length_cons]
    omega

/-- An edge to a visited unit is passed over once the lowlink covers it. -/
theorem pass {next : ℕ} (walks : Walks index (⟨node, next⟩ :: below) walk)
    (near : (index.neighbors node)[next]? = some neighbor) (seen : (walk.indexes.lookup neighbor).isSome)
    (low : neighbor ∈ walk.componentStack →
      (walk.view index (⟨node, next⟩ :: below)).low node ≤ (walk.view index (⟨node, next⟩ :: below)).index neighbor) :
    Advances index (⟨node, next⟩ :: below) walk (⟨node, next + 1⟩ :: below) walk := by
  have opened := @view_frames_cons index below walk node neighbor next near
  have framed : (walk.view index (⟨node, next⟩ :: below)).frames =
      [] ++ (node, neighbor :: (index.neighbors node).drop (next + 1)) :: (walk.view index below).frames := opened
  refine ⟨⟨?_, walks.lowlinks, walks.onStack, walks.within, walks.sorted⟩, fun _ => id, ?_⟩
  · exact walks.inv.advance framed (mem_visited.mpr seen) low
  · rw [Tarjan.State.work, Tarjan.State.work, opened]
    simp only [TarjanWalk.view, List.map_cons, List.sum_cons, List.length_cons]
    omega

theorem follow (consistent : index.Consistent) {next : ℕ} (walks : Walks index (⟨node, next⟩ :: below) walk)
    (near : (index.neighbors node)[next]? = some neighbor) :
    ∃ frames' walk', followNeighbor node neighbor (⟨node, next + 1⟩ :: below) walk = .ok (frames', walk') ∧
      Advances index (⟨node, next⟩ :: below) walk frames' walk' := by
  rw [followNeighbor]
  split_ifs with fresh stacked
  · exact ⟨_, _, rfl, walks.follow_new consistent near (Option.isNone_iff_eq_none.mp fresh)⟩
  · have seen : (walk.indexes.lookup neighbor).isSome :=
      Option.isSome_iff_ne_none.mpr fun absent => fresh (Option.isNone_iff_eq_none.mpr absent)
    have opened' : (walk.indexes.lookup node).isSome := walks.visited_of_open List.mem_cons_self
    have onStack := (walks.onStack neighbor).mp stacked
    have known := index_of_visited index (⟨node, next⟩ :: below) seen
    obtain ⟨lowlinks, ran, view, keys⟩ := walks.lowerLowlink_ok opened'
      ((walk.view index (⟨node, next⟩ :: below)).index neighbor)
    have opened := @view_frames_cons index below walk node neighbor next near
    have open' : node ∈ (walk.view index (⟨node, next⟩ :: below)).path :=
      Tarjan.State.mem_path.mpr ⟨_, opened ▸ List.mem_cons_self⟩
    have tightened : Walks index (⟨node, next⟩ :: below) { walk with lowlinks := lowlinks } := by
      refine ⟨?_, fun unitId => (keys unitId).trans (walks.lowlinks unitId), walks.onStack, walks.within, walks.sorted⟩
      rw [view]
      exact walks.inv.tighten onStack (walks.inv.reaches_pending opened node open')
    refine ⟨⟨node, next + 1⟩ :: below, { walk with lowlinks := lowlinks }, ?_, ?_⟩
    · rw [tarjanValue, indexEntry_of_lookup known]
      change (lowerLowlink walk.lowlinks node _ >>= _) = _
      rw [ran]
      rfl
    · have passed := tightened.pass near seen ?_
      · exact ⟨passed.walks, passed.kept, passed.work⟩
      · rw [view]
        intro _
        simp [Tarjan.State.tighten]
  · have seen : (walk.indexes.lookup neighbor).isSome :=
      Option.isSome_iff_ne_none.mpr fun absent => fresh (Option.isNone_iff_eq_none.mpr absent)
    refine ⟨_, _, rfl, walks.pass near seen fun onStack => ?_⟩
    exact absurd ((walks.onStack neighbor).mpr onStack) stacked

end Walks

theorem view_frames_ended {next : ℕ} (ended : (index.neighbors node)[next]? = none) :
    (walk.view index (⟨node, next⟩ :: below)).frames = (node, []) :: (walk.view index below).frames := by
  rw [TarjanWalk.view, List.map_cons, List.drop_eq_nil_of_le (List.getElem?_eq_none_iff.mp ended)]
  rfl

/-- The pops stop at the root, which is on the stack once. -/
theorem popUntilRoot_eq {root : UnitId} {above under : List UnitId} (absent : root ∉ above) (onStack : Finset UnitId)
    (component : List UnitId) : ∃ onStack', popUntilRoot root (above ++ root :: under) onStack component =
        .ok (component ++ (above ++ [root]), under, onStack') ∧
      ∀ unitId, unitId ∈ onStack' ↔ unitId ∈ onStack ∧ unitId ∉ above ++ [root] := by
  induction above generalizing onStack component with
  | nil =>
    refine ⟨onStack.erase root, ?_, fun unitId => by simp [and_comm]⟩
    rw [List.nil_append, List.nil_append, popUntilRoot, if_pos rfl]
  | cons node above ih =>
    rw [List.mem_cons, not_or] at absent
    obtain ⟨different, absent⟩ := absent
    obtain ⟨onStack', ran, members⟩ := ih absent (onStack.erase node) (component ++ [node])
    refine ⟨onStack', ?_, fun unitId => ?_⟩
    · rw [List.cons_append, popUntilRoot, if_neg (Ne.symm different), ran, List.append_assoc]
      rfl
    · rw [members, Finset.mem_erase, List.cons_append, List.mem_cons, not_or]
      tauto

theorem leaveNode_last {walk' : TarjanWalk} (ran : closeIfRoot node walk = .ok walk') :
    leaveNode node [] walk = .ok ([], walk') := by
  rw [leaveNode, ran]
  rfl

theorem leaveNode_parent {parent : TarjanFrame} {rest : List TarjanFrame} {walk' : TarjanWalk} {low : ℕ}
    {lowered : Table UnitId ℕ} (ran : closeIfRoot node walk = .ok walk')
    (value : tarjanValue walk'.lowlinks node "lowlink" = .ok low)
    (lowers : lowerLowlink walk'.lowlinks parent.node low = .ok lowered) :
    leaveNode node (parent :: rest) walk = .ok (parent :: rest, { walk' with lowlinks := lowered }) := by
  rw [leaveNode, ran]
  change (tarjanValue walk'.lowlinks node "lowlink" >>= _) = _
  rw [value]
  change (lowerLowlink walk'.lowlinks parent.node low >>= _) = _
  rw [lowers]
  rfl

namespace Walks

variable {next : ℕ}

/-- At the root of a component, the walk closes it. -/
theorem close_root (walks : Walks index (⟨node, next⟩ :: below) walk) (ended : (index.neighbors node)[next]? = none)
    (root : (walk.view index (⟨node, next⟩ :: below)).low node = (walk.view index (⟨node, next⟩ :: below)).index node) :
    ∃ walk', closeIfRoot node walk = .ok walk' ∧ Walks index below walk' ∧ walk'.indexes = walk.indexes ∧
      walk'.lowlinks = walk.lowlinks := by
  have opened := @view_frames_ended index below walk node next ended
  have seen : (walk.indexes.lookup node).isSome := walks.visited_of_open List.mem_cons_self
  have known := index_of_visited index (⟨node, next⟩ :: below) seen
  have onStack : node ∈ walk.componentStack :=
    walks.inv.path_stack node (Tarjan.State.mem_path.mpr ⟨_, opened ▸ List.mem_cons_self⟩)
  obtain ⟨above, under, stack⟩ := List.append_of_mem onStack
  have decreasing := walks.inv.sorted
  have absent : node ∉ above := by
    have stack' : (walk.view index (⟨node, next⟩ :: below)).stack = above ++ node :: under := stack
    rw [stack'] at decreasing
    intro member
    exact ((List.pairwise_append.mp decreasing).2.2 node member node List.mem_cons_self).false
  obtain ⟨remaining, popped, members⟩ := @popUntilRoot_eq node above under absent walk.onStack []
  have nodup : walk.componentStack.Nodup := walks.inv.sorted.imp fun less same => (same ▸ less).false
  refine ⟨{ walk with
    componentStack := under, onStack := remaining, components := walk.components ++ [sortUnitIds (above ++ [node])] },
    ?_, ⟨?_, walks.lowlinks, fun unitId => ?_, walks.within, fun component member => ?_⟩, rfl, rfl⟩
  · rw [closeIfRoot, tarjanValue, tarjanValue, indexEntry_of_lookup (walks.low_of_visited seen),
      indexEntry_of_lookup known]
    change (if _ then (popComponent node walk >>= _) else _) = _
    rw [if_pos root, popComponent, stack, popped]
    rfl
  · exact walks.inv.close opened root stack (sortUnitIds_perm _)
  · rw [members, walks.onStack, stack]
    rw [stack, List.nodup_append] at nodup
    simp only [List.mem_append, List.mem_cons, List.not_mem_nil, or_false, not_or]
    constructor
    · tauto
    · intro later
      refine ⟨.inr (.inr later), fun earlier => ?_, ?_⟩
      · exact nodup.2.2 unitId earlier unitId (List.mem_cons_of_mem _ later) rfl
      · rintro rfl
        exact (List.nodup_cons.mp nodup.2.1).1 later
  · rcases List.mem_append.mp member with old | new
    · exact walks.sorted component old
    · rw [List.mem_singleton.mp new]
      rw [stack] at nodup
      exact sortUnitIds_strict (nodup.sublist
        ((List.Sublist.refl above).append (List.singleton_sublist.mpr List.mem_cons_self)))

theorem work_leave {walk' : TarjanWalk} (ended : (index.neighbors node)[next]? = none)
    (indexes : walk'.indexes = walk.indexes) :
    (walk'.view index below).work index.neighbors index.units.toFinset <
      (walk.view index (⟨node, next⟩ :: below)).work index.neighbors index.units.toFinset := by
  have opened := @view_frames_ended index below walk node next ended
  rw [Tarjan.State.work, Tarjan.State.work, opened]
  simp only [TarjanWalk.view, indexes, List.map_cons, List.sum_cons, List.length_nil]
  omega

/-- Closing a component leaves the frame below as it is: its lowlink is lower already. -/
theorem leave_root (walks : Walks index (⟨node, next⟩ :: below) walk) (ended : (index.neighbors node)[next]? = none)
    (root : (walk.view index (⟨node, next⟩ :: below)).low node = (walk.view index (⟨node, next⟩ :: below)).index node) :
    ∃ walk', leaveNode node below walk = .ok (below, walk') ∧
      Advances index (⟨node, next⟩ :: below) walk below walk' := by
  have opened := @view_frames_ended index below walk node next ended
  have seen : (walk.indexes.lookup node).isSome := walks.visited_of_open List.mem_cons_self
  obtain ⟨closed, ran, held, indexes, lowlinks⟩ := walks.close_root ended root
  have kept : ∀ unitId, (walk.indexes.lookup unitId).isSome → (closed.indexes.lookup unitId).isSome := by
    rw [indexes]
    exact fun _ => id
  cases below with
  | nil => exact ⟨closed, leaveNode_last ran, held, kept, work_leave ended indexes⟩
  | cons parent rest =>
    obtain ⟨lowered, ran', view, keys⟩ := held.lowerLowlink_ok (held.visited_of_open List.mem_cons_self)
      ((walk.view index (⟨node, next⟩ :: parent :: rest)).low node)
    have value : tarjanValue closed.lowlinks node "lowlink" =
        .ok ((walk.view index (⟨node, next⟩ :: parent :: rest)).low node) := by
      rw [tarjanValue, lowlinks]
      exact indexEntry_of_lookup (walks.low_of_visited seen)
    have covered : (closed.view index (parent :: rest)).low parent.node ≤
        (walk.view index (⟨node, next⟩ :: parent :: rest)).low node := by
      have onPath : parent.node ∈ (closed.view index (parent :: rest)).path := List.mem_cons_self
      have atMost := held.inv.low_le _ (held.inv.path_stack _ onPath)
      have less := walks.inv.below_lt opened parent.node List.mem_cons_self
      have same : (closed.view index (parent :: rest)).index parent.node =
          (walk.view index (⟨node, next⟩ :: parent :: rest)).index parent.node := by
        simp only [TarjanWalk.view, indexes]
      omega
    rw [Tarjan.State.tighten_of_le covered] at view
    exact ⟨{ closed with lowlinks := lowered }, leaveNode_parent ran value ran',
      ⟨view ▸ held.inv, fun unitId => (keys unitId).trans (held.lowlinks unitId), held.onStack, held.within,
        held.sorted⟩,
      kept, work_leave ended indexes⟩

/-- A node that is not the root of its component hands its lowlink to the frame below. -/
theorem leave_inner {next : ℕ} (walks : Walks index (⟨node, next⟩ :: below) walk)
    (ended : (index.neighbors node)[next]? = none)
    (inner : (walk.view index (⟨node, next⟩ :: below)).low node ≠
      (walk.view index (⟨node, next⟩ :: below)).index node) :
    ∃ walk', leaveNode node below walk = .ok (below, walk') ∧
      Advances index (⟨node, next⟩ :: below) walk below walk' := by
  have opened := @view_frames_ended index below walk node next ended
  have seen : (walk.indexes.lookup node).isSome := walks.visited_of_open List.mem_cons_self
  have lowKnown := walks.low_of_visited seen
  have stacked := walks.inv.path_stack node (Tarjan.State.mem_path.mpr ⟨_, opened ▸ List.mem_cons_self⟩)
  have less := lt_of_le_of_ne (walks.inv.low_le node stacked) inner
  have ran : closeIfRoot node walk = .ok walk := by
    rw [closeIfRoot, tarjanValue, tarjanValue, indexEntry_of_lookup lowKnown,
      indexEntry_of_lookup (index_of_visited index (⟨node, next⟩ :: below) seen)]
    exact if_neg inner
  cases below with
  | nil =>
    refine ⟨walk, leaveNode_last ran, ⟨?_, walks.lowlinks, walks.onStack, walks.within, walks.sorted⟩, fun _ => id,
      work_leave ended rfl⟩
    exact walks.inv.leave opened less fun _ _ impossible => by cases impossible
  | cons parent rest =>
    obtain ⟨lowered, ran', view, keys⟩ := walks.lowerLowlink_ok (walks.visited_of_open (by simp) :
      (walk.indexes.lookup parent.node).isSome) ((walk.view index (⟨node, next⟩ :: parent :: rest)).low node)
    have outer : parent.node ∈ (walk.view index (⟨node, next⟩ :: parent :: rest)).path := by
      rw [Tarjan.path_eq_of_leave opened]
      exact List.mem_cons_of_mem _ List.mem_cons_self
    have apart : node ≠ parent.node := by
      intro same
      have := walks.inv.below_lt opened parent.node List.mem_cons_self
      rw [same] at this
      exact this.false
    obtain ⟨w, onStack, lowest, reaches⟩ := walks.inv.low_reaches node stacked
    have tightened := walks.inv.tighten onStack ((walks.inv.reaches_top opened _ outer).trans reaches)
    rw [lowest, ← view] at tightened
    have kept : (TarjanWalk.view index (⟨node, next⟩ :: parent :: rest) { walk with lowlinks := lowered }).low node =
        (walk.view index (⟨node, next⟩ :: parent :: rest)).low node := by
      rw [view]
      exact Function.update_of_ne apart _ _
    refine ⟨{ walk with lowlinks := lowered }, leaveNode_parent ran (indexEntry_of_lookup lowKnown) ran',
      ⟨?_, fun unitId => (keys unitId).trans (walks.lowlinks unitId), walks.onStack, walks.within, walks.sorted⟩,
      fun _ => id, work_leave ended rfl⟩
    have opened' := @view_frames_ended index (parent :: rest) { walk with lowlinks := lowered } node next ended
    refine tightened.leave opened' (kept.trans_lt less) fun u pending top => ?_
    obtain ⟨rfl, -⟩ := Prod.mk.inj (Option.some.inj top)
    rw [kept, view]
    exact (Function.update_self ..).trans_le (min_le_right _ _)

/-- Every iteration succeeds. -/
theorem step (consistent : index.Consistent) {frame : TarjanFrame} (walks : Walks index (frame :: below) walk) :
    ∃ frames' walk', tarjanStep index frame below walk = .ok (frames', walk') ∧
      Advances index (frame :: below) walk frames' walk' := by
  obtain ⟨node, next⟩ := frame
  have seen : (walk.indexes.lookup node).isSome := walks.visited_of_open List.mem_cons_self
  have stored := consistent.adjacency node (walks.within node seen)
  rw [tarjanStep, indexEntry_of_lookup stored]
  change ∃ frames' walk', (match (index.neighbors node)[next]? with
    | some neighbor => followNeighbor node neighbor (⟨node, next + 1⟩ :: below) walk
    | none => leaveNode node below walk) = .ok (frames', walk') ∧ _
  cases near : (index.neighbors node)[next]? with
  | some neighbor => exact walks.follow consistent near
  | none =>
    by_cases root : (walk.view index (⟨node, next⟩ :: below)).low node =
      (walk.view index (⟨node, next⟩ :: below)).index node
    · exact ⟨below, walks.leave_root near root⟩
    · exact ⟨below, walks.leave_inner near root⟩

/-- The loop over the frames ends within the work that is left. -/
theorem run (consistent : index.Consistent) {fuel : ℕ} (walks : Walks index frames walk)
    (enough : (walk.view index frames).work index.neighbors index.units.toFinset ≤ fuel) :
    ∃ walk', walkFrames index fuel frames walk = .ok walk' ∧ Walks index [] walk' ∧
      ∀ unitId, (walk.indexes.lookup unitId).isSome → (walk'.indexes.lookup unitId).isSome := by
  induction fuel generalizing frames walk with
  | zero =>
    cases frames with
    | nil => exact ⟨walk, rfl, walks, fun _ => id⟩
    | cons frame below =>
      rw [Tarjan.State.work, TarjanWalk.view, List.map_cons, List.map_cons, List.sum_cons] at enough
      omega
  | succ fuel ih =>
    cases frames with
    | nil => exact ⟨walk, rfl, walks, fun _ => id⟩
    | cons frame below =>
      obtain ⟨frames', middle, stepped, advances⟩ := walks.step consistent
      have less := advances.work
      obtain ⟨walk', ran, held, kept⟩ := ih advances.walks (by omega)
      refine ⟨walk', ?_, held, fun unitId seen => kept unitId (advances.kept unitId seen)⟩
      rw [walkFrames, stepped]
      exact ran

theorem new : Walks index [] .new where
  inv := Tarjan.inv_initial
  lowlinks := by simp [TarjanWalk.new]
  onStack := by simp [TarjanWalk.new]
  within := by simp [TarjanWalk.new]
  sorted := by simp [TarjanWalk.new]

/-- Between two starts, opening a unit is a step of the search too. -/
theorem start {start : UnitId} (walks : Walks index [] walk) (listed : start ∈ index.units)
    (fresh : start ∉ (walk.view index []).visited) : Walks index [⟨start, 0⟩] (pushTarjanNode start walk) where
  inv := view_push ▸ walks.inv.push fresh (fun p open' => by cases open')
  lowlinks unitId := by
    rw [pushTarjanNode, Table.lookup_insert_eq, Table.lookup_insert_eq]
    split_ifs
    · rfl
    · exact walks.lowlinks unitId
  onStack unitId := by rw [pushTarjanNode, Finset.mem_insert, List.mem_cons, walks.onStack]
  within unitId := by
    rw [pushTarjanNode, Table.lookup_insert_eq]
    split_ifs with same
    · exact fun _ => same ▸ listed
    · exact walks.within unitId
  sorted := walks.sorted

theorem visitUnit (consistent : index.Consistent) (walks : Walks index [] walk) {start : UnitId}
    (listed : start ∈ index.units) : ∃ walk', Sgr.visitUnit index walk start = .ok walk' ∧ Walks index [] walk' ∧
      (walk'.indexes.lookup start).isSome ∧
      ∀ unitId, (walk.indexes.lookup unitId).isSome → (walk'.indexes.lookup unitId).isSome := by
  rw [Sgr.visitUnit]
  split_ifs with seen
  · exact ⟨walk, rfl, walks, seen, fun _ => id⟩
  · have fresh : start ∉ (walk.view index []).visited := fun member => seen (mem_visited.mp member)
    have bound : (TarjanWalk.view index [⟨start, 0⟩] (pushTarjanNode start walk)).work index.neighbors
        index.units.toFinset ≤ index.walkBound := by
      rw [view_push, Tarjan.State.work_push (List.mem_toFinset.mpr listed) fresh, Tarjan.State.work]
      have all : ∑ unitId ∈ index.units.toFinset, ((index.neighbors unitId).length + 1) = index.walkBound :=
        List.sum_toFinset _ (consistent.sorted.imp ne_of_lt)
      refine (Nat.add_le_add_right (Finset.sum_le_sum_of_subset Finset.sdiff_subset) _).trans ?_
      rw [all]
      rfl
    obtain ⟨walk', ran, held, kept⟩ := (walks.start listed fresh).run consistent bound
    have opened : ∀ unitId, unitId = start ∨ (walk.indexes.lookup unitId).isSome →
        ((pushTarjanNode start walk).indexes.lookup unitId).isSome := by
      intro unitId
      rw [pushTarjanNode, Table.lookup_insert_eq]
      split_ifs with same
      · exact fun _ => rfl
      · exact fun known => known.resolve_left same
    exact ⟨walk', ran, held, kept start (opened start (.inl rfl)), fun unitId known =>
      kept unitId (opened unitId (.inr known))⟩

theorem visitUnits (consistent : index.Consistent) (walks : Walks index [] walk) {starts : List UnitId}
    (listed : ∀ start ∈ starts, start ∈ index.units) : ∃ walk', starts.foldlM (Sgr.visitUnit index) walk = .ok walk' ∧
      Walks index [] walk' ∧ (∀ start ∈ starts, (walk'.indexes.lookup start).isSome) ∧
      ∀ unitId, (walk.indexes.lookup unitId).isSome → (walk'.indexes.lookup unitId).isSome := by
  induction starts generalizing walk with
  | nil => exact ⟨walk, rfl, walks, by simp, fun _ => id⟩
  | cons start starts ih =>
    obtain ⟨middle, first, held, visited, kept⟩ := walks.visitUnit consistent (listed start List.mem_cons_self)
    obtain ⟨walk', rest, held', later, kept'⟩ := ih held fun start member =>
      listed start (List.mem_cons_of_mem _ member)
    refine ⟨walk', ?_, held', fun unitId member => ?_, fun unitId seen => kept' unitId (kept unitId seen)⟩
    · rw [List.foldlM_cons, first]
      exact rest
    · rcases List.mem_cons.mp member with rfl | member
      · exact kept' unitId visited
      · exact later unitId member

end Walks

end Steps

/-! ## The components it returns -/

/-- The detection succeeds; it returns each component that holds a cycle once, sorted. -/
theorem detectCyclesInIndex_ok {index : DependencyIndex} (consistent : index.Consistent) :
    ∃ cycles, detectCyclesInIndex index = .ok cycles ∧ cycles.Nodup ∧ ∀ component, component ∈ cycles ↔
      component.Pairwise (· < ·) ∧ IsComponent (Tarjan.Edge index.neighbors) component ∧
        (2 ≤ component.length ∨ ∃ unitId ∈ component, unitId ∈ index.neighbors unitId) := by
  obtain ⟨walk, ran, walks, visited, -⟩ :=
    Walks.new.visitUnits consistent fun start (member : start ∈ index.units) => member
  have isComponent : ∀ component ∈ walk.components, IsComponent (Tarjan.Edge index.neighbors) component :=
    walks.inv.isComponent
  have kept (component : List UnitId) (member : component ∈ walk.components) :
      (2 ≤ component.length || component.head?.any (· ∈ index.selfLoops)) = true ↔
        2 ≤ component.length ∨ ∃ unitId ∈ component, unitId ∈ index.neighbors unitId := by
    rw [Bool.or_eq_true, decide_eq_true_eq]
    match component, (isComponent component member).nonempty with
    | [only], _ => simp [consistent.selfLoops]
    | _ :: _ :: _, _ => simp
  refine ⟨_, by rw [detectCyclesInIndex, ran]; rfl, ?_, fun component => ?_⟩
  · have nodup : walk.components.Nodup := by
      refine walks.inv.disjoint.imp_of_mem fun first second disjoint same => ?_
      obtain ⟨unitId, member⟩ := List.exists_mem_of_ne_nil _ (isComponent _ first).nonempty
      exact disjoint member (same ▸ member)
    exact nodup.filter _
  · rw [List.mem_filter]
    constructor
    · rintro ⟨member, test⟩
      exact ⟨walks.sorted component member, isComponent component member, (kept component member).mp test⟩
    · rintro ⟨sorted, found, cyclic⟩
      obtain ⟨unitId, inside, listed⟩ : ∃ unitId ∈ component, unitId ∈ index.units := by
        rcases cyclic with two | ⟨unitId, inside, loop⟩
        · obtain ⟨unitId, inside⟩ := List.exists_mem_of_ne_nil _ found.nonempty
          obtain ⟨next, edge, -⟩ := Relation.TransGen.head'_iff.mp ((found.transGen_self_iff inside).mpr (.inl two))
          exact ⟨unitId, inside, (consistent.closed unitId next edge).1⟩
        · exact ⟨unitId, inside, (consistent.closed unitId unitId loop).1⟩
      obtain ⟨other, member, shared⟩ := (walks.inv.done_of_visited rfl).mp (mem_visited.mpr (visited unitId listed))
      have perm : component.Perm other := (List.perm_ext_iff_of_nodup found.nodup (isComponent other member).nodup).mpr
        (found.mem_iff_mem (isComponent other member) inside shared)
      obtain rfl : component = other := perm.eq_of_pairwise (fun _ _ _ _ less greater => absurd greater less.asymm)
        sorted (walks.sorted other member)
      exact ⟨member, (kept component member).mpr cyclic⟩

end Aios.Sgr
