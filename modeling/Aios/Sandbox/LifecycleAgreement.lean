import Aios.Sandbox.Lifecycle

/-! # Lifecycle states against sandboxes

`destroy_capsule` marks one capsule while the cascade it starts takes the sandboxes of the whole
subtree. So the two maps agree along a run exactly when every capsule that is destroyed has a sandbox
without children.
-/

namespace Aios.Sandbox

open ParentForest SandboxHierarchy

namespace CapsuleLifecycleManager

/-- The capsule has a sandbox in the hierarchy, linked to its parent both ways. -/
def HasSandboxUnder (self : CapsuleLifecycleManager) (id parentId : CapsuleId) : Prop :=
  ∃ sandbox parent, self.sandboxHierarchy.get id = some sandbox ∧ sandbox.parentId = some parentId ∧
    self.sandboxHierarchy.get parentId = some parent ∧ id ∈ parent.children

/-- Exactly the capsules that are not destroyed have a sandbox under their recorded parent. -/
def Agrees (self : CapsuleLifecycleManager) : Prop :=
  ∀ id capsule, self.capsules.lookup id = some capsule →
    (self.HasSandboxUnder id (capsule.parentId.getD 0) ↔ capsule.state ≠ .destroyed)

/-- What every run keeps: the sandboxes form a tree, and each sandbox with a parent belongs to a
capsule that records this parent. -/
structure Consistent (manager : CapsuleLifecycleManager) : Prop where
  tree : manager.sandboxHierarchy.WellFormed
  owned : ∀ id parentId, manager.sandboxHierarchy.parentOf id = some parentId →
    ∃ capsule, manager.capsules.lookup id = some capsule ∧ capsule.parentId.getD 0 = parentId

variable {self after : CapsuleLifecycleManager}

theorem Consistent.hasSandboxUnder_iff (consistent : self.Consistent) {id parentId : CapsuleId} :
    self.HasSandboxUnder id parentId ↔ self.sandboxHierarchy.parentOf id = some parentId := by
  rw [parentOf_eq_some_iff]
  constructor
  · rintro ⟨sandbox, parent, stored, link, -⟩
    exact ⟨sandbox, stored, link⟩
  · rintro ⟨sandbox, stored, link⟩
    obtain ⟨parent, above, -, listed⟩ := consistent.tree.parent_stored id sandbox parentId stored link
    exact ⟨sandbox, parent, stored, link, above, listed⟩

/-! ## What one call keeps -/

theorem Creates.parentOf {id : CapsuleId} {recorded : Option CapsuleId} (creates : Creates id recorded self after)
    (other : CapsuleId) :
    after.sandboxHierarchy.parentOf other =
      if other = id then some (recorded.getD 0) else self.sandboxHierarchy.parentOf other := by
  obtain ⟨-, ⟨child, success⟩, -⟩ := creates
  obtain refused | ⟨parent, hierarchy, created, ran, -, above, -, link, -, -, read⟩ :=
    createChild_cases self.sandboxHierarchy id (recorded.getD 0)
  · rw [refused] at success
    cases success
  · obtain ⟨rfl, rfl⟩ : hierarchy = after.sandboxHierarchy ∧ created = child := by
      rw [ran] at success
      simpa using success
    rw [SandboxHierarchy.parentOf, read]
    split_ifs with isChild isParent
    · exact link
    · rw [SandboxHierarchy.parentOf, isParent, above, parent.addChild_frame]
      rfl
    · rfl

theorem Consistent.step (consistent : self.Consistent) (op : CapsuleOp) : (self.step op).Consistent := by
  unfold CapsuleLifecycleManager.step
  obtain ⟨message, failed⟩ | ⟨after, ran, effect⟩ := call_cases self op
  · rw [failed]
    exact consistent
  rw [ran]
  change after.Consistent
  obtain ⟨id, mechanism, recorded, -, creates⟩ | ⟨-, same, id, capsule, state, stored, -, -, read⟩ |
    ⟨id, -, same, capsule, stored, -, read⟩ := effect
  · have parentOf := creates.parentOf
    obtain ⟨-, ⟨child, success⟩, capsule, -, parent, read⟩ := creates
    refine ⟨consistent.tree.createChild success, fun other parentId link => ?_⟩
    rw [parentOf] at link
    rw [read]
    split_ifs at link ⊢ with isNew
    · exact ⟨capsule, rfl, by rw [parent]; exact Option.some.inj link⟩
    · exact consistent.owned other parentId link
  · refine ⟨same ▸ consistent.tree, fun other parentId link => ?_⟩
    obtain ⟨owner, found, records⟩ := consistent.owned other parentId (same ▸ link)
    rw [read]
    split_ifs with isMoved
    · obtain rfl : capsule = owner := Option.some.inj (stored.symm.trans (isMoved ▸ found))
      exact ⟨_, rfl, records⟩
    · exact ⟨owner, found, records⟩
  · have pruned := consistent.tree.destroyCascade_step id
    refine ⟨same ▸ consistent.tree.step (.destroyCascade id), fun other parentId link => ?_⟩
    rw [same] at link
    by_cases gone : self.sandboxHierarchy.Subtree id other
    · rw [pruned.parentOf_gone gone] at link
      cases link
    rw [pruned.parentOf_kept gone] at link
    obtain ⟨owner, found, records⟩ := consistent.owned other parentId link
    rw [read]
    split_ifs with isTarget
    · obtain rfl : capsule = owner := Option.some.inj (stored.symm.trans (isTarget ▸ found))
      exact ⟨_, rfl, records⟩
    · exact ⟨owner, found, records⟩

theorem new_consistent : new.Consistent := by
  refine ⟨new_wellFormed.createRoot 0, fun id parentId link => ?_⟩
  obtain ⟨sandbox, stored, linked⟩ := parentOf_eq_some_iff.mp link
  obtain same | ⟨-, read⟩ := createRoot_cases SandboxHierarchy.new 0
  · change (SandboxHierarchy.new.createRoot 0).1.get id = some sandbox at stored
    rw [same] at stored
    cases stored
  · change (SandboxHierarchy.new.createRoot 0).1.get id = some sandbox at stored
    rw [read] at stored
    split_ifs at stored
    · cases stored
      cases linked
    · cases stored

theorem runFrom_consistent (ops : List CapsuleOp) : (runFrom ops).Consistent :=
  StepRun.run_invariant Consistent (fun _ op consistent => consistent.step op) new_consistent ops

/-- The call destroys a capsule only if its sandbox has no children. -/
def DestroysLeaf (self : CapsuleLifecycleManager) (op : CapsuleOp) : Prop :=
  ∀ id capsule sandbox, op = .destroy id → self.capsules.lookup id = some capsule →
    capsule.state.canTransitionTo .destroyed = true → self.sandboxHierarchy.get id = some sandbox →
      sandbox.children = []

/-- Nothing lies below a sandbox without children. -/
theorem Consistent.subtree_leaf (consistent : self.Consistent) {id other : CapsuleId}
    (leaf : ∀ sandbox, self.sandboxHierarchy.get id = some sandbox → sandbox.children = []) :
    self.sandboxHierarchy.Subtree id other ↔ other = id := by
  refine or_iff_left fun above => ?_
  obtain ⟨childId, link, -⟩ := ancestor_iff_child.mp above
  have listed := (consistent.tree.mem_childrenOf_iff id childId).mpr link
  cases stored : self.sandboxHierarchy.get id with
  | none => simp [childrenOf, stored] at listed
  | some sandbox => simp [childrenOf, stored, leaf sandbox stored] at listed

/-- A call that destroys no inner node keeps the two maps in step. -/
theorem Agrees.step (consistent : self.Consistent) (agrees : self.Agrees) {op : CapsuleOp}
    (leaf : self.DestroysLeaf op) : (self.step op).Agrees := by
  have consistentAfter := consistent.step op
  unfold CapsuleLifecycleManager.step at *
  obtain ⟨message, failed⟩ | ⟨after, ran, effect⟩ := call_cases self op
  · rw [failed]
    exact agrees
  rw [ran] at consistentAfter ⊢
  change after.Consistent at consistentAfter
  change after.Agrees
  have before : ∀ id capsule, self.capsules.lookup id = some capsule →
      (self.sandboxHierarchy.parentOf id = some (capsule.parentId.getD 0) ↔ capsule.state ≠ .destroyed) :=
    fun id capsule stored => consistent.hasSandboxUnder_iff.symm.trans (agrees id capsule stored)
  intro other found lookup
  rw [consistentAfter.hasSandboxUnder_iff]
  obtain ⟨id, mechanism, recorded, -, creates⟩ | ⟨-, same, id, capsule, state, stored, alive, live, read⟩ |
    ⟨id, rfl, same, capsule, stored, valid, read⟩ := effect
  · rw [creates.parentOf]
    obtain ⟨-, -, capsule, created, parent, read⟩ := creates
    rw [read] at lookup
    split_ifs at lookup ⊢ with isNew
    · cases lookup
      simp [created, parent]
    · exact before other found lookup
  · rw [same]
    rw [read] at lookup
    split_ifs at lookup with isMoved
    · cases lookup
      have settled := before id capsule stored
      simp only [alive, ne_eq, not_false_eq_true, iff_true] at settled
      simp [isMoved, settled, live]
    · exact before other found lookup
  · have pruned := consistent.tree.destroyCascade_step id
    have alone : ∀ other, self.sandboxHierarchy.Subtree id other ↔ other = id := fun _ =>
      consistent.subtree_leaf fun sandbox => leaf id capsule sandbox rfl stored valid
    rw [same]
    rw [read] at lookup
    split_ifs at lookup with isTarget
    · cases lookup
      rw [pruned.parentOf_gone ((alone other).mpr isTarget)]
      simp
    · rw [pruned.parentOf_kept fun gone => isTarget ((alone other).mp gone)]
      exact before other found lookup

/-- Destroying a capsule with a child sandbox leaves the child's capsule without one. -/
theorem Agrees.destroysLeaf (consistent : self.Consistent) (agrees : self.Agrees) {op : CapsuleOp}
    (agreesAfter : (self.step op).Agrees) : self.DestroysLeaf op := by
  rintro id capsule sandbox rfl stored valid found
  refine List.eq_nil_iff_forall_not_mem.mpr fun childId listed => ?_
  have link : self.sandboxHierarchy.parentOf childId = some id :=
    (consistent.tree.mem_childrenOf_iff id childId).mp (by simpa [childrenOf, found] using listed)
  obtain ⟨owner, owned, records⟩ := consistent.owned childId id link
  have alive := (agrees childId owner owned).mp (consistent.hasSandboxUnder_iff.mpr (records ▸ link))
  have different : childId ≠ id := by
    rintro rfl
    have deeper := consistent.tree.depthOf_link link
    omega
  have consistentAfter := consistent.step (.destroy id)
  unfold CapsuleLifecycleManager.step at agreesAfter consistentAfter
  obtain ⟨after, ran, same, lookup⟩ : ∃ after, call (.destroy id) self = .ok () after ∧
      after.sandboxHierarchy = self.sandboxHierarchy.step (.destroyCascade id) ∧
      after.capsules.lookup childId = some owner := by
    obtain ⟨message, failed⟩ | ⟨after, ran, effect⟩ := call_cases self (.destroy id)
    · obtain ⟨message, refused⟩ | ⟨capsule', -, -, entered⟩ := enter_cases self id .destroyed
      · simp only [enter, Stateful.get_bind_apply, stored, valid] at refused
        cases refused
      · simp only [call, destroyCapsule, Stateful.bind_apply, entered] at failed
        cases failed
    · obtain ⟨other, mechanism, recorded, impossible, -⟩ | ⟨impossible, -⟩
        | ⟨other, sameOp, same, _, _, _, read⟩ := effect
      · cases impossible
      · exact absurd rfl (impossible id)
      · cases sameOp
        exact ⟨after, ran, same, by rw [read, if_neg different, owned]⟩
  rw [ran] at agreesAfter consistentAfter
  change after.Agrees at agreesAfter
  change after.Consistent at consistentAfter
  have kept := consistentAfter.hasSandboxUnder_iff.mp ((agreesAfter childId owner lookup).mpr alive)
  have gone := (consistent.tree.destroyCascade_step id).parentOf_gone (.inr (.single link))
  rw [same, gone] at kept
  cases kept

end CapsuleLifecycleManager

/-! ## Over whole runs -/

open CapsuleLifecycleManager

variable (ops : List CapsuleOp)

/-- The two maps agree in every state of the run, and a failing call changes nothing. -/
def LifecycleInStep : Prop :=
  (∀ before, before <+: ops → (CapsuleLifecycleManager.runFrom before).Agrees) ∧
    ∀ before op rest, ops = before ++ op :: rest → ∀ message after,
      call op (CapsuleLifecycleManager.runFrom before) = .error message after →
        after = CapsuleLifecycleManager.runFrom before

/-- Every capsule the run destroys has a sandbox without children at that moment. -/
def DestroysLeaves : Prop :=
  ∀ before op rest, ops = before ++ op :: rest → (CapsuleLifecycleManager.runFrom before).DestroysLeaf op

theorem call_error_unchanged {manager after : CapsuleLifecycleManager} {op : CapsuleOp} {message : String}
    (failed : call op manager = .error message after) : after = manager := by
  obtain ⟨other, refused⟩ | ⟨next, ran, -⟩ := call_cases manager op
  · rw [refused] at failed
    cases failed
    rfl
  · rw [ran] at failed
    cases failed

theorem new_agrees : CapsuleLifecycleManager.new.Agrees := by
  intro id capsule stored
  cases stored

/-- Lifecycle states and sandboxes stay in step exactly in the runs that destroy only leaves. -/
theorem lifecycleInStep_iff : LifecycleInStep ops ↔ DestroysLeaves ops := by
  have inStep : (∀ before, before <+: ops → (CapsuleLifecycleManager.runFrom before).Agrees) ↔ DestroysLeaves ops := by
    apply StepRun.forall_prefix_iff_cut new_agrees
    intro before op rest split agrees
    constructor
    · exact agrees.destroysLeaf (runFrom_consistent before)
    · exact agrees.step (runFrom_consistent before)
  constructor
  · rintro ⟨agree, -⟩
    exact inStep.mp agree
  · intro leaves
    exact ⟨inStep.mpr leaves, fun before op rest _ message after failed => call_error_unchanged failed⟩

/-- A capsule is destroyed while its child is alive. -/
def orphaningRun : List CapsuleOp :=
  [.create 1 .typeSafe none, .create 2 .typeSafe (some 1), .configure 1 [] [], .destroy 1]

theorem not_lifecycleInStep_orphaningRun : ¬ LifecycleInStep orphaningRun := by
  rintro ⟨agree, -⟩
  have stored : (CapsuleLifecycleManager.runFrom orphaningRun).capsules.lookup 2 =
      some ⟨2, .created, .typeSafe, some 1, 0, 0⟩ := by decide
  obtain ⟨sandbox, parent, found, -⟩ := (agree orphaningRun List.prefix_rfl 2 _ stored).mpr (by decide)
  have absent : (CapsuleLifecycleManager.runFrom orphaningRun).sandboxHierarchy.get 2 = none := by decide
  rw [absent] at found
  cases found

end Aios.Sandbox
