import Mathlib.Data.Finset.Card
import Mathlib.Logic.Relation

/-! # Forests given by parent links and child lists

A forest over an arbitrary type of nodes is read off two redundant maps, the parent of each node
and the list of its children. `WellFormed` states that the two agree and that the parent links
descend in rank. The two traversals are the explicit-stack walk over children, `drain`, and the
walk over parents, `climb`; both take fuel and both are total on a well-formed forest.
-/

namespace ParentForest

variable {α : Type*}

/-- `a` is a proper ancestor of `d` along parent links. -/
def Ancestor (parent : α → Option α) (a d : α) : Prop :=
  Relation.TransGen (fun upper lower => parent lower = some upper) a d

/-- Both maps describe one forest on `nodes`, and every link raises the rank. -/
structure WellFormed (nodes : Finset α) (parent : α → Option α) (children : α → List α)
    (rank : α → ℕ) : Prop where
  children_iff : ∀ a b, b ∈ children a ↔ parent b = some a
  children_nodup : ∀ a, (children a).Nodup
  child_mem : ∀ a b, parent b = some a → b ∈ nodes
  parent_mem : ∀ a b, parent b = some a → a ∈ nodes
  rank_lt : ∀ a b, parent b = some a → rank a < rank b

section Ancestors

variable {parent : α → Option α} {a b d : α}

theorem Ancestor.single (link : parent d = some a) : Ancestor parent a d := Relation.TransGen.single link

theorem Ancestor.tail (above : Ancestor parent a b) (link : parent d = some b) :
    Ancestor parent a d := Relation.TransGen.tail above link

theorem Ancestor.trans (upper : Ancestor parent a b) (lower : Ancestor parent b d) :
    Ancestor parent a d := Relation.TransGen.trans upper lower

/-- An ancestor is the parent or an ancestor of the parent. -/
theorem ancestor_iff_parent : Ancestor parent a d ↔ ∃ p, parent d = some p ∧ (a = p ∨ Ancestor parent a p) := by
  constructor
  · intro above
    cases above with
    | single link => exact ⟨a, link, .inl rfl⟩
    | tail above link => exact ⟨_, link, .inr above⟩
  · rintro ⟨p, link, rfl | above⟩
    · exact .single link
    · exact above.tail link

/-- A descendant is a child or a descendant of a child. -/
theorem ancestor_iff_child : Ancestor parent a d ↔ ∃ c, parent c = some a ∧ (c = d ∨ Ancestor parent c d) := by
  constructor
  · intro above
    obtain ⟨c, link, below⟩ := Relation.TransGen.head'_iff.mp above
    exact ⟨c, link, (Relation.reflTransGen_iff_eq_or_transGen.mp below).imp Eq.symm id⟩
  · rintro ⟨c, link, rfl | below⟩
    · exact .single link
    · exact .trans (.single link) below

/-- Cutting the links of a set that is closed downwards hides no descendant outside the set. -/
theorem ancestor_cut {parent cut : α → Option α} {Gone : α → Prop} (closed : ∀ a b, parent b = some a → Gone a → Gone b)
    (kept : ∀ b, ¬ Gone b → cut b = parent b) (lost : ∀ b, Gone b → cut b = none) :
    (Gone d ∨ Ancestor cut a d) ↔ (Gone d ∨ Ancestor parent a d) := by
  constructor
  · rintro (gone | above)
    · exact .inl gone
    · refine .inr (Relation.TransGen.mono ?_ a d above)
      intro upper lower link
      have present : ¬ Gone lower := fun gone => by simp [lost lower gone] at link
      exact (kept lower present).symm.trans link
  · rintro (gone | above)
    · exact .inl gone
    · induction above with
      | @single d link =>
        by_cases gone : Gone d
        · exact .inl gone
        · exact .inr (.single ((kept d gone).trans link))
      | @tail b d _ link ih =>
        by_cases gone : Gone d
        · exact .inl gone
        · have reached := ih.resolve_left fun above => gone (closed b d link above)
          exact .inr (reached.tail ((kept d gone).trans link))

end Ancestors

namespace WellFormed

variable {nodes : Finset α} {parent : α → Option α} {children : α → List α} {rank : α → ℕ} {a b d : α}

theorem ancestor_rank_lt (wf : WellFormed nodes parent children rank) (above : Ancestor parent a d) :
    rank a < rank d := by
  induction above with
  | single link => exact wf.rank_lt _ _ link
  | tail _ link ih => exact ih.trans (wf.rank_lt _ _ link)

theorem ancestor_irrefl (wf : WellFormed nodes parent children rank) : ¬ Ancestor parent a a :=
  fun cycle => (wf.ancestor_rank_lt cycle).false

theorem descendant_mem (wf : WellFormed nodes parent children rank) (above : Ancestor parent a d) : d ∈ nodes := by
  cases above with
  | single link => exact wf.child_mem _ _ link
  | tail _ link => exact wf.child_mem _ _ link

end WellFormed

/-! ## Walking down with an explicit stack -/

/-- Pop the top of the stack, record it and push its children in list order; the head is the top. -/
def drain (children : α → List α) : ℕ → List α → Option (List α)
  | _, [] => some []
  | 0, _ :: _ => none
  | fuel + 1, top :: rest =>
      (drain children fuel ((children top).reverse ++ rest)).map (top :: ·)

/-- Whatever the shape of the child lists, a finished walk has met exactly the nodes at or below
its initial stack. -/
theorem mem_drain_iff {parent : α → Option α} {children : α → List α}
    (agree : ∀ a b, b ∈ children a ↔ parent b = some a) {fuel : ℕ} {stack out : List α}
    (done : drain children fuel stack = some out) (d : α) :
    d ∈ out ↔ ∃ s ∈ stack, s = d ∨ Ancestor parent s d := by
  induction fuel generalizing stack out with
  | zero =>
    cases stack with
    | nil => simp_all [drain]
    | cons top rest => simp [drain] at done
  | succ fuel ih =>
    cases stack with
    | nil => simp_all [drain]
    | cons top rest =>
      obtain ⟨later, walked, rfl⟩ := Option.map_eq_some_iff.mp done
      have below : Ancestor parent top d ↔ ∃ c ∈ children top, c = d ∨ Ancestor parent c d := by
        simp only [agree]
        exact ancestor_iff_child
      rw [List.mem_cons, ih walked]
      simp only [List.mem_append, List.mem_reverse, List.mem_cons, or_and_right, exists_or,
        exists_eq_left, below, eq_comm (a := d), or_assoc]

/-- What the walk keeps: stacked subtrees are disjoint from each other and from the visited nodes. -/
structure Frontier (parent : α → Option α) (nodes visited : Finset α) (stack : List α) : Prop where
  nodup : stack.Nodup
  stacked : ∀ s ∈ stack, s ∈ nodes
  fresh : ∀ s ∈ stack, s ∉ visited
  below_fresh : ∀ s ∈ stack, ∀ d, Ancestor parent s d → d ∉ visited
  below_unstacked : ∀ s ∈ stack, ∀ d, Ancestor parent s d → d ∉ stack

section Drain

variable [DecidableEq α] {nodes visited : Finset α} {parent : α → Option α}
  {children : α → List α} {rank : α → ℕ}

/-- Replacing the top of the stack by its children keeps the frontier. -/
theorem Frontier.pop (wf : WellFormed nodes parent children rank) {top : α} {rest : List α}
    (frontier : Frontier parent nodes visited (top :: rest)) :
    Frontier parent nodes (insert top visited) ((children top).reverse ++ rest) := by
  have childOf : ∀ c, c ∈ children top → Ancestor parent top c :=
    fun c member => .single ((wf.children_iff top c).mp member)
  have restNodup := List.nodup_cons.mp frontier.nodup
  have topBelow := fun d (below : Ancestor parent top d) =>
    frontier.below_unstacked top List.mem_cons_self d below
  refine ⟨?_, ?_, ?_, ?_, ?_⟩
  · refine List.Nodup.append (List.nodup_reverse.mpr (wf.children_nodup top)) restNodup.2 ?_
    intro c child stacked
    exact topBelow c (childOf c (List.mem_reverse.mp child)) (List.mem_cons_of_mem _ stacked)
  · intro s member
    rcases List.mem_append.mp member with child | stacked
    · exact wf.descendant_mem (childOf s (List.mem_reverse.mp child))
    · exact frontier.stacked s (List.mem_cons_of_mem _ stacked)
  · intro s member seen
    rcases List.mem_append.mp member with child | stacked
    · have below := childOf s (List.mem_reverse.mp child)
      rcases Finset.mem_insert.mp seen with rfl | seen
      · exact wf.ancestor_irrefl below
      · exact frontier.below_fresh top List.mem_cons_self s below seen
    · rcases Finset.mem_insert.mp seen with rfl | seen
      · exact restNodup.1 stacked
      · exact frontier.fresh s (List.mem_cons_of_mem _ stacked) seen
  · intro s member d above seen
    rcases List.mem_append.mp member with child | stacked
    · have below := (childOf s (List.mem_reverse.mp child)).trans above
      rcases Finset.mem_insert.mp seen with rfl | seen
      · exact wf.ancestor_irrefl below
      · exact frontier.below_fresh top List.mem_cons_self d below seen
    · rcases Finset.mem_insert.mp seen with rfl | seen
      · exact frontier.below_unstacked s (List.mem_cons_of_mem _ stacked) d above List.mem_cons_self
      · exact frontier.below_fresh s (List.mem_cons_of_mem _ stacked) d above seen
  · intro s member d above again
    rcases List.mem_append.mp again with sibling | restacked
    · -- `d` hangs directly under `top`, so whatever is above it is `top` or above `top`
      have link := (wf.children_iff top d).mp (List.mem_reverse.mp sibling)
      obtain ⟨p, plink, reaches⟩ := ancestor_iff_parent.mp above
      obtain rfl : top = p := Option.some.inj (link.symm.trans plink)
      rcases List.mem_append.mp member with child | stacked
      · have below := childOf s (List.mem_reverse.mp child)
        rcases reaches with rfl | reaches
        · exact wf.ancestor_irrefl below
        · exact wf.ancestor_irrefl (below.trans reaches)
      · rcases reaches with rfl | reaches
        · exact restNodup.1 stacked
        · exact frontier.below_unstacked s (List.mem_cons_of_mem _ stacked) top reaches List.mem_cons_self
    · rcases List.mem_append.mp member with child | stacked
      · exact topBelow d ((childOf s (List.mem_reverse.mp child)).trans above)
          (List.mem_cons_of_mem _ restacked)
      · exact frontier.below_unstacked s (List.mem_cons_of_mem _ stacked) d above
          (List.mem_cons_of_mem _ restacked)

/-- Fuel for the unvisited nodes is enough, and no node is met twice or again. -/
theorem Frontier.drain_total (wf : WellFormed nodes parent children rank) {fuel : ℕ} {stack : List α}
    (frontier : Frontier parent nodes visited stack) (enough : (nodes \ visited).card ≤ fuel) :
    ∃ out, drain children fuel stack = some out ∧ out.Nodup ∧ ∀ d ∈ out, d ∉ visited := by
  induction fuel generalizing stack visited with
  | zero =>
    cases stack with
    | nil => exact ⟨[], rfl, List.nodup_nil, by simp⟩
    | cons top rest =>
      have unvisited : top ∈ nodes \ visited :=
        Finset.mem_sdiff.mpr ⟨frontier.stacked top List.mem_cons_self, frontier.fresh top List.mem_cons_self⟩
      have positive := Finset.card_pos.mpr ⟨top, unvisited⟩
      omega
  | succ fuel ih =>
    cases stack with
    | nil => exact ⟨[], rfl, List.nodup_nil, by simp⟩
    | cons top rest =>
      have unvisited : top ∈ nodes \ visited :=
        Finset.mem_sdiff.mpr ⟨frontier.stacked top List.mem_cons_self, frontier.fresh top List.mem_cons_self⟩
      have smaller : (nodes \ insert top visited).card + 1 = (nodes \ visited).card := by
        rw [Finset.sdiff_insert]
        exact Finset.card_erase_add_one unvisited
      obtain ⟨out, walked, nodup, avoids⟩ := ih (frontier.pop wf) (by omega)
      refine ⟨top :: out, by simp [drain, walked], ?_, ?_⟩
      · refine List.nodup_cons.mpr ⟨fun again => ?_, nodup⟩
        exact avoids top again (Finset.mem_insert_self top visited)
      · intro d member
        rcases List.mem_cons.mp member with rfl | member
        · exact frontier.fresh d List.mem_cons_self
        · exact fun seen => avoids d member (Finset.mem_insert_of_mem seen)

/-- The walk started at the children of `a` lists exactly the descendants of `a`, each once. -/
theorem drain_children (wf : WellFormed nodes parent children rank) (a : α) {fuel : ℕ} (enough : nodes.card ≤ fuel) :
    ∃ out, drain children fuel (children a).reverse = some out ∧ out.Nodup ∧
      ∀ d, d ∈ out ↔ Ancestor parent a d := by
  have childOf : ∀ c, c ∈ (children a).reverse → parent c = some a :=
    fun c member => (wf.children_iff a c).mp (List.mem_reverse.mp member)
  have frontier : Frontier parent nodes ∅ (children a).reverse := by
    refine ⟨List.nodup_reverse.mpr (wf.children_nodup a), fun s member => ?_, by simp, by simp, ?_⟩
    · exact wf.child_mem a s (childOf s member)
    · intro s member d above again
      obtain ⟨p, link, reaches⟩ := ancestor_iff_parent.mp above
      obtain rfl : a = p := Option.some.inj ((childOf d again).symm.trans link)
      have below : Ancestor parent a s := .single (childOf s member)
      rcases reaches with rfl | reaches
      · exact wf.ancestor_irrefl below
      · exact wf.ancestor_irrefl (below.trans reaches)
  obtain ⟨out, walked, nodup, _⟩ := frontier.drain_total wf (by simpa using enough)
  refine ⟨out, walked, nodup, fun d => ?_⟩
  rw [mem_drain_iff wf.children_iff walked, ancestor_iff_child]
  simp only [List.mem_reverse, wf.children_iff]

end Drain

section

variable {parent : α → Option α} {stop : α → Bool} {fuel : ℕ} {node : α} (height : α → ℕ) (Inside : α → Prop)

/-! ## Walking up the parent links -/

/-- Follow parent links until a node satisfies `stop`; running off the top answers `false`. -/
def climb (parent : α → Option α) (stop : α → Bool) : ℕ → Option α → Option Bool
  | _, none => some false
  | 0, some _ => none
  | fuel + 1, some node => if stop node then some true else climb parent stop fuel (parent node)

/-- When every parentless node of a link-closed set is a stop, a climb inside it with fuel above
the height succeeds. -/
theorem climb_true (closed : ∀ a b, Inside b → parent b = some a → Inside a)
    (rises : ∀ a b, parent b = some a → height a < height b) (top : ∀ a, Inside a → parent a = none → stop a = true)
    (inside : Inside node) (enough : height node < fuel) : climb parent stop fuel (some node) = some true := by
  induction fuel generalizing node with
  | zero => omega
  | succ fuel ih =>
    by_cases stopped : stop node = true
    · simp [climb, stopped]
    · cases link : parent node with
      | none => exact absurd (top node inside link) stopped
      | some next =>
        have lower := rises next node link
        simp only [climb, stopped, Bool.false_eq_true, ↓reduceIte, link]
        exact ih (closed next node inside link) (by omega)

/-- The walk up from a node of a well-formed forest reaches a stop, given one step of fuel for each
node. -/
theorem WellFormed.climb_true {nodes : Finset α} {children : α → List α} {rank : α → ℕ}
    (wf : WellFormed nodes parent children rank) (top : ∀ a ∈ nodes, parent a = none → stop a = true)
    (member : node ∈ nodes) (enough : nodes.card ≤ fuel) : climb parent stop fuel (some node) = some true := by
  have lower : ∀ a b, a ∈ nodes → rank a < rank b →
      (nodes.filter (rank · < rank a)).card < (nodes.filter (rank · < rank b)).card := by
    intro a b stored less
    apply Finset.card_lt_card
    refine Finset.ssubset_iff_of_subset ?_ |>.mpr ⟨a, by simp [stored, less], by simp⟩
    exact Finset.monotone_filter_right _ fun x _ below => below.trans less
  have bounded : (nodes.filter (rank · < rank node)).card < nodes.card := by
    apply Finset.card_lt_card
    exact Finset.filter_ssubset.mpr ⟨node, member, by simp⟩
  exact ParentForest.climb_true (fun a => (nodes.filter (rank · < rank a)).card) (· ∈ nodes)
    (fun a b _ link => wf.parent_mem a b link)
    (fun a b link => lower a b (wf.parent_mem a b link) (wf.rank_lt a b link)) top member (by omega)

/-- The node a number of links above. -/
def linksUp (parent : α → Option α) : ℕ → α → Option α
  | 0, node => some node
  | count + 1, node => (parent node).bind (linksUp parent count)

/-- A height that counts links locally counts them to the top. -/
theorem linksUp_height (closed : ∀ a b, Inside b → parent b = some a → Inside a ∧ height b = height a + 1)
    (top : ∀ a, Inside a → parent a = none → height a = 0) (inside : Inside node) :
    ∃ root, linksUp parent (height node) node = some root ∧ Inside root ∧ parent root = none := by
  induction high : height node generalizing node with
  | zero =>
    refine ⟨node, rfl, inside, ?_⟩
    cases link : parent node with
    | none => rfl
    | some next =>
      have := (closed next node inside link).2
      omega
  | succ count ih =>
    cases link : parent node with
    | none =>
      have := top node inside link
      omega
    | some next =>
      obtain ⟨nextInside, rises⟩ := closed next node inside link
      obtain ⟨root, up, rootInside, rootTop⟩ := ih nextInside (by omega)
      exact ⟨root, by simp [linksUp, link, up], rootInside, rootTop⟩

/-! ## The line of ancestors -/

/-- The parents met one after the other on the way up. -/
def trace (parent : α → Option α) : ℕ → α → Option (List α)
  | 0, _ => none
  | fuel + 1, node =>
    match parent node with
    | none => some []
    | some next => (trace parent fuel next).map (next :: ·)

end

section Trace

variable {parent : α → Option α}

variable {fuel : ℕ} {node : α}

/-- A finished trace has met exactly the ancestors. -/
theorem mem_trace_iff {line : List α} (done : trace parent fuel node = some line) (a : α) :
    a ∈ line ↔ Ancestor parent a node := by
  induction fuel generalizing node line with
  | zero => cases done
  | succ fuel ih =>
    rw [trace] at done
    rw [ancestor_iff_parent]
    cases link : parent node with
    | none =>
      rw [link] at done
      cases done
      simp
    | some next =>
      rw [link] at done
      obtain ⟨rest, walked, rfl⟩ := Option.map_eq_some_iff.mp done
      rw [List.mem_cons, ih walked]
      simp

/-- A trace that meets a cycle does not end. -/
theorem trace_cycle {a : α} (cycle : Ancestor parent a a) (reaches : a = node ∨ Ancestor parent a node) (fuel : ℕ) :
    trace parent fuel node = none := by
  induction fuel generalizing node with
  | zero => rfl
  | succ fuel ih =>
    have above : Ancestor parent a node := by
      rcases reaches with rfl | above
      · exact cycle
      · exact above
    obtain ⟨next, link, further⟩ := ancestor_iff_parent.mp above
    simp [trace, link, ih further]

/-- Without a cycle at or above the node, one step of fuel for each node that has a parent and one
more end the trace. -/
theorem trace_total [DecidableEq α] {nodes : Finset α} (visited : Finset α)
    (inner : ∀ a b, parent b = some a → b ∈ nodes)
    (acyclic : ∀ a, a = node ∨ Ancestor parent a node → ¬ Ancestor parent a a)
    (below : ∀ b ∈ visited, Ancestor parent node b) (enough : (nodes \ visited).card < fuel) :
    ∃ line, trace parent fuel node = some line := by
  induction fuel generalizing node visited with
  | zero => omega
  | succ fuel ih =>
    rw [trace]
    cases link : parent node with
    | none => exact ⟨[], rfl⟩
    | some next =>
      have unvisited : node ∈ nodes \ visited :=
        Finset.mem_sdiff.mpr ⟨inner next node link, fun seen => acyclic node (.inl rfl) (below node seen)⟩
      have smaller : (nodes \ insert node visited).card + 1 = (nodes \ visited).card := by
        rw [Finset.sdiff_insert]
        exact Finset.card_erase_add_one unvisited
      have acyclicNext : ∀ a, a = next ∨ Ancestor parent a next → ¬ Ancestor parent a a := by
        intro a reaches
        exact acyclic a (.inr (ancestor_iff_parent.mpr ⟨next, link, reaches⟩))
      have belowNext : ∀ b ∈ insert node visited, Ancestor parent next b := by
        intro b seen
        rcases Finset.mem_insert.mp seen with rfl | seen
        · exact .single link
        · exact .trans (.single link) (below b seen)
      obtain ⟨line, walked⟩ := ih (insert node visited) acyclicNext belowNext (by omega)
      exact ⟨next :: line, by simp [walked]⟩

end Trace

end ParentForest
