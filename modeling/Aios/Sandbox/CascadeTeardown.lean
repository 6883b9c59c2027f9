import Aios.Sandbox.Tree

/-! # The teardown of a subtree

On a tree, `destroy_cascade` removes the subtree of its target and counts it. It counts a target that
is not registered too, though there is nothing to remove.
-/

namespace Aios.Sandbox

open ParentForest

namespace SandboxHierarchy

variable {self after : SandboxHierarchy} {id : CapsuleId}

variable {fuel : ℕ} {result : SandboxHierarchy × ℕ} {other : CapsuleId}

open Classical in
/-- The cascade ends, removes the target and what is below it, takes the target off the list of its
parent, leaves every other sandbox as it is, and returns how many sandboxes there are less. -/
def TeardownExact (self : SandboxHierarchy) (id : CapsuleId) : Prop :=
  ∃ after count, (∀ fuel, MAX_DEPTH < fuel → self.destroyCascade fuel id = some (after, count)) ∧
    (∀ other, after.get other = if self.Subtree id other then none else
      if self.parentOf id = some other then (self.get other).map (·.removeChild id |>.1) else self.get other) ∧
    count + after.sandboxCount = self.sandboxCount

/-! ## More fuel changes nothing -/

theorem foldlM_mono {σ α : Type} {turn turn' : σ → α → Option σ}
    (le : ∀ state item result, turn state item = some result → turn' state item = some result) (items : List α)
    {start result : σ} (folded : items.foldlM turn start = some result) : items.foldlM turn' start = some result := by
  induction items generalizing start with
  | nil => exact folded
  | cons item rest ih =>
    rw [List.foldlM_cons, Option.bind_eq_bind, Option.bind_eq_some_iff] at folded ⊢
    obtain ⟨next, first, later⟩ := folded
    exact ⟨next, le start item next first, ih later⟩

theorem destroyCascade_mono (ran : self.destroyCascade fuel id = some result) :
    self.destroyCascade (fuel + 1) id = some result := by
  induction fuel generalizing self id result with
  | zero => simp [destroyCascade] at ran
  | succ fuel ih =>
    rw [destroyCascade, Option.bind_eq_bind, Option.bind_eq_some_iff] at ran ⊢
    obtain ⟨emptied, folded, ended⟩ := ran
    refine ⟨emptied, foldlM_mono (fun progress childId next first => ?_) _ folded, ended⟩
    rw [Option.bind_eq_some_iff] at first ⊢
    obtain ⟨destroyed, below, added⟩ := first
    exact ⟨destroyed, ih below, added⟩

theorem destroyCascade_of_le {more : ℕ} (ran : self.destroyCascade fuel id = some result) (le : fuel ≤ more) :
    self.destroyCascade more id = some result := by
  induction more, le using Nat.le_induction with
  | base => exact ran
  | succ more _ ih => exact destroyCascade_mono ih

/-! ## What pruning a subtree does -/

/-- Of the children of a sandbox that stays, only the target leaves. -/
theorem WellFormed.subtree_child_iff (wf : self.WellFormed) {childId : CapsuleId} (kept : ¬ self.Subtree id other)
    (listed : childId ∈ self.childrenOf other) : self.Subtree id childId ↔ childId = id := by
  refine ⟨?_, .inl⟩
  rintro (same | above)
  · exact same
  · obtain ⟨upper, link, inside⟩ := ancestor_iff_parent.mp above
    obtain rfl := Option.some.inj (link.symm.trans ((wf.mem_childrenOf_iff other childId).mp listed))
    exact absurd (inside.imp Eq.symm fun below => below) kept

/-- A sandbox that stays loses the target if it is the parent, and nothing else. -/
theorem WellFormed.get_pruned (wf : self.WellFormed) (pruned : Prunes self after (self.Subtree id))
    (kept : ¬ self.Subtree id other) :
    after.get other =
      if self.parentOf id = some other then (self.get other).map (·.removeChild id |>.1) else self.get other := by
  classical
  rw [pruned other, if_neg kept]
  cases stored : self.get other with
  | none => simp
  | some sandbox =>
    have listed : self.childrenOf other = sandbox.children := by rw [childrenOf, stored, Option.elim_some]
    have filtered : sandbox.children.filter (fun childId => decide (¬ self.Subtree id childId)) =
        sandbox.children.filter (· != id) := by
      refine List.filter_congr fun childId member => ?_
      rw [Bool.eq_iff_iff, decide_eq_true_iff, bne_iff_ne, wf.subtree_child_iff kept (listed ▸ member)]
    simp only [Option.map_some, filtered]
    split_ifs with parent
    · rfl
    · have absent : id ∉ sandbox.children := fun member =>
        parent ((wf.mem_childrenOf_iff other id).mp (listed ▸ member))
      have whole : sandbox.children.filter (· != id) = sandbox.children :=
        List.filter_eq_self.mpr fun childId member => bne_iff_ne.mpr fun same => absent (same ▸ member)
      rw [whole]

/-- An id that is not registered ends the cascade at once; it is counted. -/
theorem destroyCascade_absent (absent : self.get id = none) (fuel : ℕ) :
    self.destroyCascade (fuel + 1) id = some (self, 1) := by
  have childless : self.childrenOf id = [] := by rw [childrenOf, absent, Option.elim_none]
  have orphan : self.parentOf id = none := by rw [parentOf, absent, Option.bind_none]
  have same : self.sandboxes.erase id = self.sandboxes := Table.erase_of_absent absent
  rw [destroyCascade, childless, List.foldlM_nil]
  simp only [detach, orphan, same, Option.pure_def, Option.bind_eq_bind, Option.bind_some]

/-- In every hierarchy that a run reaches, the teardown of an id is exact if and only if the id is
registered. -/
theorem teardownExact_iff (ops : List SandboxOp) (id : CapsuleId) :
    (runFrom ops).TeardownExact id ↔ ((runFrom ops).get id).isSome := by
  have wf := runFrom_wellFormed ops
  generalize runFrom ops = self at wf
  constructor
  · rintro ⟨after, count, ran, -, counted⟩
    by_contra absent
    have ended := destroyCascade_absent (Option.not_isSome_iff_eq_none.mp absent) MAX_DEPTH
    obtain ⟨rfl, rfl⟩ := Prod.mk.inj (Option.some.inj ((ran _ (Nat.lt_succ_self _)).symm.trans ended))
    omega
  · intro registered
    have enough : MAX_DEPTH < MAX_DEPTH + 1 + WellFormed.depthOf self id := by omega
    obtain ⟨after, count, ran, pruned, counted⟩ := wf.destroyCascade_prunes id enough
    refine ⟨after, count, fun fuel enough => destroyCascade_of_le ran enough, fun other => ?_, counted registered⟩
    split_ifs with gone parent
    · exact pruned.get_gone gone
    · rw [wf.get_pruned pruned gone, if_pos parent]
    · rw [wf.get_pruned pruned gone, if_neg parent]

/-- Nothing is registered, and one sandbox is reported destroyed. -/
theorem not_teardownExact_empty : ¬ ∀ ops id, (runFrom ops).TeardownExact id := by
  intro exact_
  obtain ⟨after, count, ran, -, counted⟩ := exact_ [] 7
  obtain ⟨rfl, rfl⟩ := Prod.mk.inj (Option.some.inj ((ran 9 (by decide)).symm.trans (destroyCascade_absent rfl 8)))
  exact absurd counted (by decide)

end SandboxHierarchy

end Aios.Sandbox
