import Mathlib.Algebra.BigOperators.Group.Finset.Basic
import Mathlib.Algebra.GroupWithZero.Nat
import Mathlib.Data.Finset.SDiff
import Mathlib.Data.Fintype.Card
import Mathlib.Data.Fintype.EquivFin
import Mathlib.Data.Fintype.Sets
import Mathlib.Logic.Relation
import Mathlib.Order.Bounds.Defs
import Mathlib.Order.WellFounded

/-! # Finite directed graphs

Reachability, strongly connected components given as lists, cycles, and the lengths of longest walks, for
an edge relation over an arbitrary type of nodes.
-/

namespace Digraphs

open Relation

variable {α : Type*} {edge : α → α → Prop} {a b : α}

/-- Each of the two nodes is reached from the other. -/
def Connected (edge : α → α → Prop) (a b : α) : Prop := ReflTransGen edge a b ∧ ReflTransGen edge b a

theorem Connected.symm (connected : Connected edge a b) : Connected edge b a := ⟨connected.2, connected.1⟩

theorem Connected.trans {c : α} (first : Connected edge a b) (second : Connected edge b c) : Connected edge a c :=
  ⟨first.1.trans second.1, second.2.trans first.2⟩

def Acyclic (edge : α → α → Prop) : Prop := ∀ a, ¬ TransGen edge a a

/-- The list holds each node of one strongly connected component once. -/
structure IsComponent (edge : α → α → Prop) (component : List α) : Prop where
  nonempty : component ≠ []
  nodup : component.Nodup
  mem_iff : ∀ a ∈ component, ∀ b, b ∈ component ↔ Connected edge a b

theorem isComponent_filter {nodes : List α} (nodup : nodes.Nodup) (closed : ∀ a ∈ nodes, ∀ b, edge a b → b ∈ nodes)
    (member : a ∈ nodes) [DecidablePred (Connected edge a)] : IsComponent edge (nodes.filter (Connected edge a ·)) where
  nonempty := List.ne_nil_of_mem (List.mem_filter.mpr ⟨member, decide_eq_true ⟨.refl, .refl⟩⟩)
  nodup := nodup.filter _
  mem_iff x inside y := by
    simp only [List.mem_filter, decide_eq_true_eq] at inside ⊢
    obtain ⟨listed, connected⟩ := inside
    constructor
    · exact fun other => connected.symm.trans other.2
    · intro other
      have reached : y ∈ nodes := by
        obtain ⟨there, -⟩ := other
        induction there with
        | refl => exact listed
        | @tail b c _ step ih => exact closed b ih c step
      exact ⟨reached, connected.trans other⟩

/-- Two components that share a node have the same nodes. -/
theorem IsComponent.mem_iff_mem {component other : List α} (isComponent : IsComponent edge component)
    (isOther : IsComponent edge other) (member : a ∈ component) (shared : a ∈ other) (b : α) :
    b ∈ component ↔ b ∈ other :=
  (isComponent.mem_iff a member b).trans (isOther.mem_iff a shared b).symm

/-- A node lies on a cycle exactly if its component has a second node or it has an edge to itself. -/
theorem IsComponent.transGen_self_iff {component : List α} (isComponent : IsComponent edge component)
    (member : a ∈ component) : TransGen edge a a ↔ 2 ≤ component.length ∨ edge a a := by
  constructor
  · intro cycle
    obtain ⟨b, first, back⟩ := TransGen.head'_iff.mp cycle
    by_cases same : b = a
    · exact .inr (same ▸ first)
    · left
      have second : b ∈ component := (isComponent.mem_iff a member b).mpr ⟨.single first, back⟩
      match component, member, second with
      | [], member, _ => cases member
      | [only], member, second =>
        exact absurd ((List.mem_singleton.mp second).trans (List.mem_singleton.mp member).symm) same
      | _ :: _ :: _, _, _ => simp
  · rintro (two | loop)
    · have other : ∃ b ∈ component, b ≠ a := by
        by_contra alone
        push Not at alone
        match component, two, isComponent.nodup, alone with
        | x :: y :: _, _, nodup, alone =>
          have same : x = y := (alone x (by simp)).trans (alone y (by simp)).symm
          simp [same] at nodup
      obtain ⟨b, member', different⟩ := other
      obtain ⟨there, back⟩ := (isComponent.mem_iff a member b).mp member'
      obtain rfl | there := reflTransGen_iff_eq_or_transGen.mp there
      · exact absurd rfl different
      · exact there.trans_left back
    · exact .single loop

/-- Finitely many nodes, each with an edge to one of them, hold a cycle. -/
theorem exists_cycle {nodes : Finset α} (nonempty : nodes.Nonempty)
    (next : ∀ a ∈ nodes, ∃ b ∈ nodes, edge a b) : ∃ a ∈ nodes, TransGen edge a a := by
  by_contra none
  push Not at none
  let Below (a b : nodes) : Prop := TransGen edge b.1 a.1
  have trans : IsTrans nodes Below := ⟨fun _ _ _ first second => second.trans first⟩
  have irrefl : Std.Irrefl Below := ⟨fun a => none a.1 a.2⟩
  have wellFounded : WellFounded Below := Finite.wellFounded_of_trans_of_irrefl Below
  obtain ⟨start, member⟩ := nonempty
  obtain ⟨least, -, isLeast⟩ := wellFounded.has_min Set.univ ⟨⟨start, member⟩, trivial⟩
  obtain ⟨b, member', step⟩ := next least.1 least.2
  exact isLeast ⟨b, member'⟩ trivial (TransGen.single step)

/-- Nodes numbered against their edges lie on no cycle. -/
theorem not_transGen_self_of_rank {rank : α → ℕ} {Within : α → Prop}
    (closed : ∀ a b, Within a → edge a b → Within b) (descends : ∀ a b, Within a → edge a b → rank b < rank a)
    (within : Within a) : ¬ TransGen edge a a := by
  have below : ∀ b, TransGen edge a b → Within b ∧ rank b < rank a := by
    intro b path
    induction path with
    | single step => exact ⟨closed _ _ within step, descends _ _ within step⟩
    | tail _ step ih => exact ⟨closed _ _ ih.1 step, (descends _ _ ih.1 step).trans ih.2⟩
  exact fun cycle => (below a cycle).2.false

/-! ## Heights -/

/-- The longest walk from a node has a given number of edges. -/
def IsHeight (edge : α → α → Prop) (a : α) (height : ℕ) : Prop :=
  IsGreatest {length | ∃ walk, List.IsChain edge (a :: walk) ∧ walk.length = length} height

/-- Nodes stand on levels such that every edge descends, and some edge descends by one from each level
but the lowest: the level of a node is its height. -/
theorem isHeight_of_levels {On : α → ℕ → Prop}
    (descends : ∀ a b level, On a level → edge a b → ∃ lower < level, On b lower)
    (attained : ∀ a level, On a (level + 1) → ∃ b, edge a b ∧ On b level) {level : ℕ} (on : On a level) :
    IsHeight edge a level := by
  constructor
  · induction level generalizing a with
    | zero => exact ⟨[], .singleton a, rfl⟩
    | succ level ih =>
      obtain ⟨b, step, below⟩ := attained a level on
      obtain ⟨walk, chain, length⟩ := ih below
      exact ⟨b :: walk, List.isChain_cons_cons.mpr ⟨step, chain⟩, by rw [List.length_cons, length]⟩
  · rintro length ⟨walk, chain, rfl⟩
    induction walk generalizing a level with
    | nil => exact Nat.zero_le level
    | cons b rest ih =>
      obtain ⟨step, chain⟩ := List.isChain_cons_cons.mp chain
      obtain ⟨lower, below, onLower⟩ := descends a b level on step
      have bound := ih onLower chain
      rw [List.length_cons]
      omega

end Digraphs

/-! ## Depth-first search for strongly connected components

The state of an iterative search with lowlinks, over an arbitrary successor function, and the actions
such a search is made of: opening a node, lowering a lowlink, passing over a followed successor, leaving
a node that is not the root of its component, and closing a component. Each keeps one invariant; a
search that ends without an open node has closed exactly the strongly connected components of what it
visited.
-/

namespace Tarjan

open Relation Digraphs

variable {α : Type*}

structure State (α : Type*) where
  visited : Finset α
  index : α → ℕ
  low : α → ℕ
  next : ℕ
  /-- Visited nodes whose component is not closed, latest first. -/
  stack : List α
  /-- The open nodes, innermost first, with the successors each has still to follow. -/
  frames : List (α × List α)
  components : List (List α)

/-- The edges of a successor function. -/
def Edge (succ : α → List α) (a b : α) : Prop := b ∈ succ a

def Reaches (succ : α → List α) : α → α → Prop := ReflTransGen (Edge succ)

namespace State

/-- The open nodes. -/
def path (s : State α) : List α := s.frames.map Prod.fst

/-- The component of the node is closed. -/
def Done (s : State α) (v : α) : Prop := ∃ component ∈ s.components, v ∈ component

/-- The edge is one the search has been through. -/
def Followed (s : State α) (succ : α → List α) (v w : α) : Prop :=
  w ∈ succ v ∧ ∀ rest, (v, rest) ∈ s.frames → w ∉ rest

theorem mem_path {s : State α} {v : α} : v ∈ s.path ↔ ∃ rest, (v, rest) ∈ s.frames := by
  simp [path]

def initial : State α := ⟨∅, fun _ => 0, fun _ => 0, 0, [], [], []⟩

/-- Take a component off the stack. -/
def close (s : State α) (component under : List α) (below : List (α × List α)) : State α :=
  { s with stack := under, frames := below, components := s.components ++ [component] }

variable [DecidableEq α]

variable (s : State α) (succ : α → List α) (v : α)

/-- The steps the search has still to take: one for each edge and one for each node. -/
def work (nodes : Finset α) : ℕ :=
  (∑ v ∈ nodes \ s.visited, ((succ v).length + 1)) + (s.frames.map fun frame => frame.2.length + 1).sum

/-- Number a node and open it. -/
def push : State α where
  visited := insert v s.visited
  index := Function.update s.index v s.next
  low := Function.update s.low v s.next
  next := s.next + 1
  stack := v :: s.stack
  frames := (v, succ v) :: s.frames
  components := s.components

/-- Lower a lowlink to a bound. -/
def tighten (bound : ℕ) : State α :=
  { s with low := Function.update s.low v (min (s.low v) bound) }

end State

/-- What holds of the numbering, the stack and the closed components. -/
structure Base (succ : α → List α) (s : State α) : Prop where
  index_lt : ∀ v ∈ s.visited, s.index v < s.next
  sorted : s.stack.Pairwise fun upper lower => s.index lower < s.index upper
  stack_visited : ∀ v ∈ s.stack, v ∈ s.visited
  done_iff : ∀ v, s.Done v ↔ v ∈ s.visited ∧ v ∉ s.stack
  done_closed : ∀ v w, s.Done v → w ∈ succ v → s.Done w
  isComponent : ∀ component ∈ s.components, IsComponent (Edge succ) component
  disjoint : s.components.Pairwise List.Disjoint

/-- What holds of the open nodes and the lowlinks. A lowlink is the index of a node on the stack that is
reached; every edge followed back into the stack is covered by the lowlink of an open node. -/
structure Labels (succ : α → List α) (s : State α) : Prop where
  path_sorted : s.path.Pairwise fun inner outer => s.index outer < s.index inner
  path_stack : ∀ v ∈ s.path, v ∈ s.stack
  pending : ∀ v rest, (v, rest) ∈ s.frames → ∀ w ∈ rest, w ∈ succ v
  followed_visited : ∀ v ∈ s.visited, ∀ w, s.Followed succ v w → w ∈ s.visited
  low_le : ∀ v ∈ s.stack, s.low v ≤ s.index v
  low_reaches : ∀ v ∈ s.stack, ∃ w ∈ s.stack, s.index w = s.low v ∧ Reaches succ v w
  low_lt : ∀ v ∈ s.stack, v ∉ s.path → s.low v < s.index v
  path_reaches : ∀ p ∈ s.path, ∀ w ∈ s.stack, s.index p ≤ s.index w → Reaches succ p w
  covered : ∀ v ∈ s.stack, ∀ w ∈ s.stack, s.Followed succ v w → ∀ p ∈ s.path, s.index p ≤ s.index v →
    ∃ q ∈ s.path, s.index p ≤ s.index q ∧ s.low q ≤ s.index w

structure Inv (succ : α → List α) (s : State α) : Prop extends Base succ s, Labels succ s

variable {succ : α → List α} {s : State α} {u v w : α} {rest : List α} {below : List (α × List α)}

theorem inv_initial : Inv succ State.initial where
  index_lt := by simp [State.initial]
  sorted := .nil
  stack_visited := by simp [State.initial]
  done_iff := by simp [State.initial, State.Done]
  done_closed := by simp [State.initial, State.Done]
  isComponent := by simp [State.initial]
  disjoint := .nil
  path_sorted := .nil
  path_stack := by simp [State.initial, State.path]
  pending := by simp [State.initial]
  followed_visited := by simp [State.initial]
  low_le := by simp [State.initial]
  low_reaches := by simp [State.initial]
  low_lt := by simp [State.initial]
  path_reaches := by simp [State.initial]
  covered := by simp [State.initial]

theorem Base.relabel (base : Base succ s) (low : α → ℕ) (frames : List (α × List α)) :
    Base succ { s with low := low, frames := frames } :=
  ⟨base.index_lt, base.sorted, base.stack_visited, base.done_iff, base.done_closed, base.isComponent, base.disjoint⟩

/-! ### Opening a node -/

section Push

variable [DecidableEq α]

theorem Base.push (base : Base succ s) (fresh : v ∉ s.visited) : Base succ (s.push succ v) := by
  have apart : ∀ x ∈ s.visited, x ≠ v := fun x seen same => fresh (same ▸ seen)
  have kept : ∀ x ∈ s.visited, (s.push succ v).index x = s.index x := fun x seen =>
    Function.update_of_ne (apart x seen) _ _
  have new : (s.push succ v).index v = s.next := Function.update_self ..
  refine ⟨?_, ?_, ?_, ?_, base.done_closed, base.isComponent, base.disjoint⟩
  · intro x member
    have less : s.next < (s.push succ v).next := Nat.lt_succ_self _
    rcases Finset.mem_insert.mp member with rfl | seen
    · rw [new]
      exact less
    · rw [kept x seen]
      exact (base.index_lt x seen).trans less
  · refine List.pairwise_cons.mpr ⟨fun x member => ?_, base.sorted.imp_of_mem fun upper lower less => ?_⟩
    · have seen := base.stack_visited x member
      rw [new, kept x seen]
      exact base.index_lt x seen
    · rwa [kept _ (base.stack_visited _ lower), kept _ (base.stack_visited _ upper)]
  · intro x member
    rcases List.mem_cons.mp member with rfl | member
    · exact Finset.mem_insert_self ..
    · exact Finset.mem_insert_of_mem (base.stack_visited x member)
  · intro x
    refine (base.done_iff x).trans ?_
    constructor
    · rintro ⟨seen, off⟩
      refine ⟨Finset.mem_insert_of_mem seen, fun member => ?_⟩
      rcases List.mem_cons.mp member with rfl | member
      · exact fresh seen
      · exact off member
    · rintro ⟨seen, off⟩
      rw [show (s.push succ v).stack = v :: s.stack from rfl, List.mem_cons, not_or] at off
      exact ⟨(Finset.mem_insert.mp seen).resolve_left off.1, off.2⟩

theorem Inv.push (inv : Inv succ s) (fresh : v ∉ s.visited) (reached : ∀ p ∈ s.path, Reaches succ p v) :
    Inv succ (s.push succ v) := by
  have apart : ∀ x ∈ s.visited, x ≠ v := fun x seen same => fresh (same ▸ seen)
  have kept : ∀ x ∈ s.stack, (s.push succ v).index x = s.index x := fun x member =>
    Function.update_of_ne (apart x (inv.stack_visited x member)) _ _
  have keptLow : ∀ x ∈ s.stack, (s.push succ v).low x = s.low x := fun x member =>
    Function.update_of_ne (apart x (inv.stack_visited x member)) _ _
  have new : (s.push succ v).index v = s.next := Function.update_self ..
  have newLow : (s.push succ v).low v = s.next := Function.update_self ..
  have below : ∀ x ∈ s.stack, s.index x < s.next := fun x member => inv.index_lt x (inv.stack_visited x member)
  have unfollowed : ∀ w, ¬ (s.push succ v).Followed succ v w := fun w followed =>
    followed.2 (succ v) List.mem_cons_self followed.1
  have before : ∀ x w, (s.push succ v).Followed succ x w → s.Followed succ x w := fun x w followed =>
    ⟨followed.1, fun rest member => followed.2 rest (List.mem_cons_of_mem _ member)⟩
  have top : v ∈ (s.push succ v).stack := List.mem_cons_self
  refine ⟨inv.toBase.push fresh, ?_, ?_, ?_, ?_, ?_, ?_, ?_, ?_, ?_⟩
  · refine List.pairwise_cons.mpr ⟨fun p open' => ?_, inv.path_sorted.imp_of_mem fun inner outer less => ?_⟩
    · rw [new, kept p (inv.path_stack p open')]
      exact below p (inv.path_stack p open')
    · rwa [kept _ (inv.path_stack _ outer), kept _ (inv.path_stack _ inner)]
  · intro p open'
    rcases List.mem_cons.mp open' with rfl | open'
    · exact top
    · exact List.mem_cons_of_mem _ (inv.path_stack p open')
  · intro x rest member w listed
    rcases List.mem_cons.mp member with same | member
    · cases same
      exact listed
    · exact inv.pending x rest member w listed
  · intro x seen w followed
    rcases Finset.mem_insert.mp seen with rfl | seen
    · exact absurd followed (unfollowed w)
    · exact Finset.mem_insert_of_mem (inv.followed_visited x seen w (before x w followed))
  · intro x member
    rcases List.mem_cons.mp member with rfl | member
    · rw [newLow, new]
    · rw [keptLow x member, kept x member]
      exact inv.low_le x member
  · intro x member
    rcases List.mem_cons.mp member with rfl | member
    · exact ⟨x, top, new.trans newLow.symm, .refl⟩
    · obtain ⟨w, stacked, same, reaches⟩ := inv.low_reaches x member
      refine ⟨w, List.mem_cons_of_mem _ stacked, ?_, reaches⟩
      rw [kept w stacked, keptLow x member, same]
  · intro x member closed
    rcases List.mem_cons.mp member with rfl | member
    · exact absurd List.mem_cons_self closed
    · rw [keptLow x member, kept x member]
      exact inv.low_lt x member fun open' => closed (List.mem_cons_of_mem _ open')
  · intro p open' w stacked order
    rcases List.mem_cons.mp stacked with rfl | member
    · rcases List.mem_cons.mp open' with rfl | open'
      · exact .refl
      · exact reached p open'
    · rw [kept w member] at order
      rcases List.mem_cons.mp open' with rfl | open'
      · rw [new] at order
        exact absurd (below w member) (by omega)
      · rw [kept p (inv.path_stack p open')] at order
        exact inv.path_reaches p open' w member order
  · intro x upper w stacked followed p open' order
    rcases List.mem_cons.mp upper with rfl | member
    · exact absurd followed (unfollowed w)
    · have seen := inv.followed_visited x (inv.stack_visited x member) w (before x w followed)
      have stacked : w ∈ s.stack := (List.mem_cons.mp stacked).resolve_left (apart w seen)
      rw [kept x member] at order
      rcases List.mem_cons.mp open' with rfl | open'
      · rw [new] at order
        exact absurd (below x member) (by omega)
      · rw [kept p (inv.path_stack p open')] at order ⊢
        obtain ⟨q, open'', above, low⟩ := inv.covered x member w stacked (before x w followed) p open' order
        refine ⟨q, List.mem_cons_of_mem _ open'', ?_, ?_⟩
        · rwa [kept q (inv.path_stack q open'')]
        · rwa [keptLow q (inv.path_stack q open''), kept w stacked]

end Push

/-- The node at the head of the path is reached from every open node. -/
theorem Inv.reaches_top (inv : Inv succ s) (opened : s.frames = (v, rest) :: below) :
    ∀ p ∈ s.path, Reaches succ p v := by
  have path : s.path = v :: below.map Prod.fst := by simp [State.path, opened]
  have top : v ∈ s.path := path ▸ List.mem_cons_self
  intro p open'
  refine inv.path_reaches p open' v (inv.path_stack v top) ?_
  have sorted := inv.path_sorted
  rw [path] at open' sorted
  rcases List.mem_cons.mp open' with rfl | outer
  · exact le_rfl
  · exact ((List.pairwise_cons.mp sorted).1 p outer).le

/-- A successor still to be followed is reached from every open node. -/
theorem Inv.reaches_pending (inv : Inv succ s) (opened : s.frames = (v, w :: rest) :: below) :
    ∀ p ∈ s.path, Reaches succ p w := by
  intro p open'
  have member : (v, w :: rest) ∈ s.frames := opened ▸ List.mem_cons_self
  exact (inv.reaches_top opened p open').tail (inv.pending v _ member w List.mem_cons_self)

/-! ### Lowering a lowlink -/

theorem Inv.tighten [DecidableEq α] (inv : Inv succ s) (stacked : w ∈ s.stack) (reaches : Reaches succ v w) :
    Inv succ (s.tighten v (s.index w)) := by
  have atMost : ∀ x, (s.tighten v (s.index w)).low x ≤ s.low x := by
    intro x
    rw [State.tighten]
    by_cases same : x = v
    · subst same
      simp
    · simp [same]
  refine ⟨inv.toBase.relabel _ _, inv.path_sorted, inv.path_stack, inv.pending, inv.followed_visited, ?_, ?_, ?_,
    inv.path_reaches, ?_⟩
  · exact fun x member => (atMost x).trans (inv.low_le x member)
  · intro x member
    obtain ⟨y, below, same, path⟩ := inv.low_reaches x member
    by_cases changed : x = v
    · subst changed
      rcases min_choice (s.low x) (s.index w) with old | new
      · exact ⟨y, below, by simp [State.tighten, old, same], path⟩
      · exact ⟨w, stacked, by simp [State.tighten, new], reaches⟩
    · exact ⟨y, below, by simp [State.tighten, changed, same], path⟩
  · exact fun x member closed => (atMost x).trans_lt (inv.low_lt x member closed)
  · intro x member y below followed p open' order
    obtain ⟨q, open'', above, low⟩ := inv.covered x member y below followed p open' order
    exact ⟨q, open'', above, (atMost q).trans low⟩

theorem State.tighten_of_le [DecidableEq α] {bound : ℕ} (atMost : s.low v ≤ bound) : s.tighten v bound = s := by
  rw [State.tighten, min_eq_left atMost, Function.update_eq_self]

/-! ### Passing over a successor -/

/-- A visited successor may be passed over once the lowlink covers it. -/
theorem Inv.advance {above : List (α × List α)} (inv : Inv succ s)
    (opened : s.frames = above ++ (v, w :: rest) :: below) (seen : w ∈ s.visited)
    (low : w ∈ s.stack → s.low v ≤ s.index w) :
    Inv succ { s with frames := above ++ (v, rest) :: below } := by
  have path : ({ s with frames := above ++ (v, rest) :: below } : State α).path = s.path := by
    simp [State.path, opened]
  have open' : v ∈ s.path := by simp [State.path, opened]
  have before {x y : α} (followed : ({ s with frames := above ++ (v, rest) :: below } : State α).Followed succ x y) :
      s.Followed succ x y ∨ x = v ∧ y = w := by
    refine or_iff_not_imp_right.mpr fun other => ⟨followed.1, fun rest' member listed => ?_⟩
    rw [opened] at member
    have kept := followed.2 rest'
    simp only [List.mem_append, List.mem_cons] at member kept
    rcases member with member | same | member
    · exact kept (.inl member) listed
    · obtain ⟨rfl, rfl⟩ := Prod.mk.inj same
      rcases List.mem_cons.mp listed with rfl | later
      · exact other ⟨rfl, rfl⟩
      · exact followed.2 rest (by simp) later
    · exact kept (.inr (.inr member)) listed
  refine ⟨inv.toBase.relabel _ _, ?_, ?_, ?_, ?_, inv.low_le, inv.low_reaches, ?_, ?_, ?_⟩
  · rw [path]
    exact inv.path_sorted
  · rw [path]
    exact inv.path_stack
  · intro x rest' member y listed
    simp only [List.mem_append, List.mem_cons] at member
    rcases member with member | same | member
    · exact inv.pending x rest' (by simp [opened, member]) y listed
    · obtain ⟨rfl, rfl⟩ := Prod.mk.inj same
      exact inv.pending x (w :: rest') (by simp [opened]) y (List.mem_cons_of_mem _ listed)
    · exact inv.pending x rest' (by simp [opened, member]) y listed
  · intro x visited y followed
    rcases before followed with old | ⟨rfl, rfl⟩
    · exact inv.followed_visited x visited y old
    · exact seen
  · rw [path]
    exact inv.low_lt
  · rw [path]
    exact inv.path_reaches
  · rw [path]
    intro x member y stacked followed p onPath order
    rcases before followed with old | ⟨rfl, rfl⟩
    · exact inv.covered x member y stacked old p onPath order
    · exact ⟨x, open', order, low stacked⟩

/-! ### Leaving a node -/

section Leave

variable (opened : s.frames = (v, []) :: below)

include opened

variable {x y : α}

theorem followed_of_leave (followed : ({ s with frames := below } : State α).Followed succ x y) :
    s.Followed succ x y := by
  refine ⟨followed.1, fun rest' member listed => ?_⟩
  rw [opened] at member
  rcases List.mem_cons.mp member with same | member
  · rw [(Prod.mk.inj same).2] at listed
    cases listed
  · exact followed.2 rest' member listed

theorem path_eq_of_leave : s.path = v :: below.map Prod.fst := by simp [State.path, opened]

theorem Labels.below_lt (labels : Labels succ s) : ∀ p ∈ below.map Prod.fst, s.index p < s.index v := by
  have sorted := labels.path_sorted
  rw [path_eq_of_leave opened] at sorted
  exact (List.pairwise_cons.mp sorted).1

/-- A node with a lowlink below its index stays on the stack; the next open node takes over its lowlink. -/
theorem Inv.leave (inv : Inv succ s) (less : s.low v < s.index v)
    (inherited : ∀ u rest, below.head? = some (u, rest) → s.low u ≤ s.low v) :
    Inv succ { s with frames := below } := by
  have path := path_eq_of_leave opened
  have sub : ∀ p ∈ below.map Prod.fst, p ∈ s.path := fun p member => path ▸ List.mem_cons_of_mem _ member
  refine ⟨inv.toBase.relabel _ _, ?_, ?_, ?_, ?_, inv.low_le, inv.low_reaches, ?_, ?_, ?_⟩
  · have sorted := inv.path_sorted
    rw [path] at sorted
    exact (List.pairwise_cons.mp sorted).2
  · exact fun p open' => inv.path_stack p (sub p open')
  · exact fun x rest member => inv.pending x rest (opened ▸ List.mem_cons_of_mem _ member)
  · exact fun x seen y followed => inv.followed_visited x seen y (followed_of_leave opened followed)
  · intro x member closed
    by_cases left : x = v
    · exact left ▸ less
    · refine inv.low_lt x member fun open' => ?_
      rw [path] at open'
      exact closed ((List.mem_cons.mp open').resolve_left left)
  · exact fun p open' => inv.path_reaches p (sub p open')
  · intro x member y stacked followed p open' order
    obtain ⟨q, open'', above, low⟩ :=
      inv.covered x member y stacked (followed_of_leave opened followed) p (sub p open') order
    rw [path] at open''
    rcases List.mem_cons.mp open'' with rfl | open''
    · cases below with
      | nil => cases open'
      | cons frame below =>
        have sorted := inv.path_sorted
        rw [path] at sorted
        have outer := (List.pairwise_cons.mp (List.pairwise_cons.mp sorted).2).1
        refine ⟨frame.1, List.mem_cons_self, ?_, (inherited frame.1 frame.2 rfl).trans low⟩
        rcases List.mem_cons.mp open' with rfl | open'
        · exact le_rfl
        · exact (outer p open').le
    · exact ⟨q, open'', above, low⟩

/-! ### Closing a component -/

/-- At the root of a component, the stack from the root on has no way back below the root. -/
theorem Inv.segment_step (inv : Inv succ s) (root : s.low v = s.index v) (member : x ∈ s.stack)
    (above : s.index v ≤ s.index x) (edge : y ∈ succ x) : (y ∈ s.stack ∧ s.index v ≤ s.index y) ∨ s.Done y := by
  have path := path_eq_of_leave opened
  have followed : s.Followed succ x y := by
    refine ⟨edge, fun rest' framed listed => ?_⟩
    rw [opened] at framed
    rcases List.mem_cons.mp framed with same | outer
    · rw [(Prod.mk.inj same).2] at listed
      cases listed
    · have := inv.below_lt opened x (List.mem_map_of_mem outer)
      omega
  have seen := inv.followed_visited x (inv.stack_visited x member) y followed
  by_cases stacked : y ∈ s.stack
  · have top : v ∈ s.path := path ▸ List.mem_cons_self
    obtain ⟨q, open', order, low⟩ := inv.covered x member y stacked followed v top above
    rw [path] at open'
    rcases List.mem_cons.mp open' with rfl | outer
    · exact .inl ⟨stacked, root ▸ low⟩
    · have := inv.below_lt opened q outer
      omega
  · exact .inr ((inv.done_iff y).mpr ⟨seen, stacked⟩)

theorem Inv.segment_reaches (inv : Inv succ s) (root : s.low v = s.index v) (member : x ∈ s.stack)
    (above : s.index v ≤ s.index x) (reaches : Reaches succ x y) :
    (y ∈ s.stack ∧ s.index v ≤ s.index y) ∨ s.Done y := by
  induction reaches with
  | refl => exact .inl ⟨member, above⟩
  | @tail y z _ edge ih =>
    rcases ih with ⟨stacked, order⟩ | done
    · exact inv.segment_step opened root stacked order edge
    · exact .inr (inv.done_closed y z done edge)

/-- By induction on the index: a node that is not the root has its lowlink below its index. -/
theorem Inv.segment_returns (inv : Inv succ s) (root : s.low v = s.index v) (member : x ∈ s.stack)
    (above : s.index v ≤ s.index x) : Reaches succ x v := by
  induction index : s.index x using Nat.strong_induction_on generalizing x with
  | _ n ih =>
    by_cases same : x = v
    · exact same ▸ .refl
    · have closed : x ∉ s.path := by
        rw [path_eq_of_leave opened, List.mem_cons, not_or]
        refine ⟨same, fun outer => ?_⟩
        have := inv.below_lt opened x outer
        omega
      have less := inv.low_lt x member closed
      obtain ⟨w, stacked, lowest, reaches⟩ := inv.low_reaches x member
      rcases inv.segment_reaches opened root member above reaches with ⟨-, order⟩ | done
      · exact reaches.trans (ih (s.index w) (by omega) stacked order rfl)
      · exact absurd stacked ((inv.done_iff w).mp done).2

omit opened in
theorem Inv.done_reaches (inv : Inv succ s) (done : s.Done x) (reaches : Reaches succ x y) : s.Done y := by
  induction reaches with
  | refl => exact done
  | @tail y z _ edge ih => exact inv.done_closed y z ih edge

theorem Inv.segment_connected (inv : Inv succ s) (root : s.low v = s.index v) (member : x ∈ s.stack)
    (above : s.index v ≤ s.index x) (y : α) : (y ∈ s.stack ∧ s.index v ≤ s.index y) ↔ Connected (Edge succ) x y := by
  have top : v ∈ s.path := path_eq_of_leave opened ▸ List.mem_cons_self
  constructor
  · rintro ⟨stacked, order⟩
    have down : Reaches succ x v := inv.segment_returns opened root member above
    have up : Reaches succ y v := inv.segment_returns opened root stacked order
    exact ⟨down.trans (inv.path_reaches v top y stacked order), up.trans (inv.path_reaches v top x member above)⟩
  · rintro ⟨there, back⟩
    rcases inv.segment_reaches opened root member above there with inside | done
    · exact inside
    · exact absurd member ((inv.done_iff x).mp (inv.done_reaches done back)).2

/-- At the root of a component, the stack from the root on is the component. -/
theorem Inv.close (inv : Inv succ s) (root : s.low v = s.index v) {above under component : List α}
    (stack : s.stack = above ++ v :: under) (perm : component.Perm (above ++ [v])) :
    Inv succ (s.close component under below) := by
  have path := path_eq_of_leave opened
  have sub : ∀ p ∈ below.map Prod.fst, p ∈ s.path := fun p member => path ▸ List.mem_cons_of_mem _ member
  have sorted := inv.sorted
  rw [stack] at sorted
  obtain ⟨upper, lower, between⟩ := List.pairwise_append.mp sorted
  obtain ⟨under_lt, underSorted⟩ := List.pairwise_cons.mp lower
  have mem_under (x : α) : x ∈ under ↔ x ∈ s.stack ∧ s.index x < s.index v := by
    rw [stack, List.mem_append, List.mem_cons]
    constructor
    · exact fun member => ⟨.inr (.inr member), under_lt x member⟩
    · rintro ⟨member | rfl | member, less⟩
      · have := between x member v List.mem_cons_self
        omega
      · omega
      · exact member
  have mem_component (x : α) : x ∈ component ↔ x ∈ s.stack ∧ s.index v ≤ s.index x := by
    rw [perm.mem_iff, stack]
    simp only [List.mem_append, List.mem_cons, List.not_mem_nil, or_false]
    constructor
    · rintro (member | rfl)
      · exact ⟨.inl member, (between x member v List.mem_cons_self).le⟩
      · exact ⟨.inr (.inl rfl), le_rfl⟩
    · rintro ⟨member | rfl | member, order⟩
      · exact .inl member
      · exact .inr rfl
      · have := under_lt x member
        omega
  have done_iff (x : α) : (s.close component under below).Done x ↔ s.Done x ∨ x ∈ component := by
    simp [State.Done, State.close, or_and_right, exists_or]
  have isComponent : IsComponent (Edge succ) component := by
    refine ⟨fun empty => ?_, ?_, fun x member y => ?_⟩
    · have := perm.length_eq
      simp [empty] at this
    · refine perm.nodup_iff.mpr ?_
      have nodup : s.stack.Nodup := inv.sorted.imp fun less same => (same ▸ less).false
      rw [stack] at nodup
      exact nodup.sublist ((List.Sublist.refl above).append (List.singleton_sublist.mpr List.mem_cons_self))
    · obtain ⟨stacked, order⟩ := (mem_component x).mp member
      rw [mem_component]
      exact inv.segment_connected opened root stacked order y
  refine ⟨⟨inv.index_lt, underSorted, ?_, ?_, ?_, ?_, ?_⟩, ⟨?_, ?_, ?_, ?_, ?_, ?_, ?_, ?_, ?_⟩⟩
  · exact fun x member => inv.stack_visited x ((mem_under x).mp member).1
  · intro x
    rw [done_iff, inv.done_iff, mem_component]
    show _ ↔ x ∈ s.visited ∧ x ∉ under
    rw [mem_under]
    have seen := inv.stack_visited x
    by_cases stacked : x ∈ s.stack
    · simp [stacked, seen stacked]
    · simp [stacked]
  · intro x y done edge
    rw [done_iff] at done ⊢
    rcases done with done | member
    · exact .inl (inv.done_closed x y done edge)
    · obtain ⟨stacked, order⟩ := (mem_component x).mp member
      rw [mem_component]
      exact (inv.segment_step opened root stacked order edge).symm
  · intro other member
    rcases List.mem_append.mp member with old | new
    · exact inv.isComponent other old
    · rwa [List.mem_singleton.mp new]
  · refine List.pairwise_append.mpr ⟨inv.disjoint, List.pairwise_singleton ..,
      fun other old new member x inOther inNew => ?_⟩
    rw [List.mem_singleton.mp member, mem_component] at inNew
    exact ((inv.done_iff x).mp ⟨other, old, inOther⟩).2 inNew.1
  · have pathSorted := inv.path_sorted
    rw [path] at pathSorted
    exact (List.pairwise_cons.mp pathSorted).2
  · exact fun p open' => (mem_under p).mpr ⟨inv.path_stack p (sub p open'), inv.below_lt opened p open'⟩
  · exact fun x rest member => inv.pending x rest (opened ▸ List.mem_cons_of_mem _ member)
  · exact fun x seen y followed => inv.followed_visited x seen y (followed_of_leave opened followed)
  · exact fun x member => inv.low_le x ((mem_under x).mp member).1
  · intro x member
    obtain ⟨stacked, less⟩ := (mem_under x).mp member
    obtain ⟨w, inStack, lowest, reaches⟩ := inv.low_reaches x stacked
    have := inv.low_le x stacked
    exact ⟨w, (mem_under w).mpr ⟨inStack, by omega⟩, lowest, reaches⟩
  · intro x member closed
    obtain ⟨stacked, less⟩ := (mem_under x).mp member
    refine inv.low_lt x stacked fun open' => ?_
    rw [path] at open'
    rcases List.mem_cons.mp open' with rfl | open'
    · exact less.false
    · exact closed open'
  · exact fun p open' w member => inv.path_reaches p (sub p open') w ((mem_under w).mp member).1
  · intro x member y inUnder followed p open' order
    obtain ⟨stacked, less⟩ := (mem_under y).mp inUnder
    obtain ⟨q, open'', atMost, low⟩ := inv.covered x ((mem_under x).mp member).1 y stacked
      (followed_of_leave opened followed) p (sub p open') order
    rw [path] at open''
    rcases List.mem_cons.mp open'' with rfl | open''
    · omega
    · exact ⟨q, open'', atMost, low⟩

end Leave

/-! ### The end of the search -/

/-- Opening a node only moves its share of the work into its frame. -/
theorem State.work_push [DecidableEq α] {nodes : Finset α} (member : v ∈ nodes) (fresh : v ∉ s.visited) :
    (s.push succ v).work succ nodes = s.work succ nodes := by
  have listed : v ∈ nodes \ s.visited := Finset.mem_sdiff.mpr ⟨member, fresh⟩
  have unvisited : nodes \ (s.push succ v).visited = (nodes \ s.visited).erase v := by
    ext x
    simp only [State.push, Finset.mem_sdiff, Finset.mem_insert, Finset.mem_erase]
    tauto
  have split : (succ v).length + 1 + ∑ x ∈ (nodes \ s.visited).erase v, ((succ x).length + 1) =
      ∑ x ∈ nodes \ s.visited, ((succ x).length + 1) :=
    Finset.add_sum_erase _ (fun x => (succ x).length + 1) listed
  have framed : ((s.push succ v).frames.map fun frame => frame.2.length + 1).sum =
      (succ v).length + 1 + (s.frames.map fun frame => frame.2.length + 1).sum := List.sum_cons
  rw [State.work, State.work, unvisited, framed]
  omega

/-- Without an open node the stack is empty: its lowest node would have a lowlink below all indices. -/
theorem Inv.stack_eq_nil (inv : Inv succ s) (ended : s.frames = []) : s.stack = [] := by
  have none : ∀ n, ∀ x ∈ s.stack, s.index x = n → False := by
    intro n
    induction n using Nat.strong_induction_on with
    | _ n ih =>
      rintro x member rfl
      have less := inv.low_lt x member (by simp [State.path, ended])
      obtain ⟨w, stacked, lowest, -⟩ := inv.low_reaches x member
      exact ih (s.index w) (by omega) w stacked rfl
  exact List.eq_nil_iff_forall_not_mem.mpr fun x member => none _ x member rfl

/-- A search that has ended has closed the component of every node it visited. -/
theorem Inv.done_of_visited (inv : Inv succ s) (ended : s.frames = []) : v ∈ s.visited ↔ s.Done v := by
  rw [inv.done_iff, inv.stack_eq_nil ended]
  simp

end Tarjan
