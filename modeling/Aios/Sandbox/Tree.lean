import Aios.Sandbox.Hierarchy

/-! # The sandboxes form a tree

Parent links and child lists agree in every reachable hierarchy, and a link goes down one level.
From this the cascade ends within `MAX_DEPTH + 1` nested calls and removes exactly the subtree of
its target.
-/

namespace Aios.Sandbox

open ParentForest

namespace RecursiveSandbox

variable (self : RecursiveSandbox)

/-- A grant touches the capabilities and nothing else. -/
theorem grantCapability_frame (cap : SandboxCapability) :
    (self.grantCapability cap).1 = { self with capabilities := (self.grantCapability cap).1.capabilities } := by
  unfold grantCapability
  split_ifs <;> rfl

theorem mem_grantCapability {cap held : SandboxCapability} :
    held ∈ (self.grantCapability cap).1.capabilities ↔
      held ∈ self.capabilities ∨ self.hasCapability cap.label = false ∧ held = cap := by
  unfold grantCapability hasCapability
  split_ifs with present
  · simp [present]
  · simp [present]

/-- Adding a child touches the child list and nothing else. -/
theorem addChild_frame (childId : CapsuleId) :
    self.addChild childId = { self with children := (self.addChild childId).children } := by
  unfold addChild
  split_ifs <;> rfl

theorem mem_addChild {childId other : CapsuleId} :
    other ∈ (self.addChild childId).children ↔ other ∈ self.children ∨ other = childId := by
  unfold addChild
  split_ifs with present
  · have listed : childId ∈ self.children := by simpa using present
    constructor
    · exact .inl
    · rintro (member | rfl)
      · exact member
      · exact listed
  · simp

theorem addChild_nodup {childId : CapsuleId} (nodup : self.children.Nodup) :
    (self.addChild childId).children.Nodup := by
  unfold addChild
  split_ifs with present
  · exact nodup
  · have absent : childId ∉ self.children := by simpa using present
    simpa [List.nodup_append, nodup] using fun other member (same : other = childId) => absent (same ▸ member)

end RecursiveSandbox

namespace SandboxHierarchy

/-- Parent links and child lists describe one tree, with the levels counting the links. -/
structure WellFormed (hierarchy : SandboxHierarchy) : Prop where
  root_level : ∀ id sandbox, hierarchy.get id = some sandbox → sandbox.parentId = none → sandbox.level.depth = 0
  parent_stored : ∀ id sandbox parentId, hierarchy.get id = some sandbox → sandbox.parentId = some parentId →
    ∃ parent, hierarchy.get parentId = some parent ∧ sandbox.level.depth = parent.level.depth + 1 ∧
      id ∈ parent.children
  child_stored : ∀ id sandbox childId, hierarchy.get id = some sandbox → childId ∈ sandbox.children →
    ∃ child, hierarchy.get childId = some child ∧ child.parentId = some id
  children_nodup : ∀ id sandbox, hierarchy.get id = some sandbox → sandbox.children.Nodup

variable {self : SandboxHierarchy}

theorem parentOf_eq_some_iff {id parentId : CapsuleId} :
    self.parentOf id = some parentId ↔
      ∃ sandbox, self.get id = some sandbox ∧ sandbox.parentId = some parentId := by
  rw [parentOf, Option.bind_eq_some_iff]

namespace WellFormed

theorem mem_childrenOf_iff (wf : self.WellFormed) (id childId : CapsuleId) :
    childId ∈ self.childrenOf id ↔ self.parentOf childId = some id := by
  rw [parentOf_eq_some_iff]
  constructor
  · intro listed
    cases stored : self.get id with
    | none => simp [childrenOf, stored] at listed
    | some sandbox => exact wf.child_stored id sandbox childId stored (by simpa [childrenOf, stored] using listed)
  · rintro ⟨child, stored, link⟩
    obtain ⟨parent, found, -, listed⟩ := wf.parent_stored childId child id stored link
    simpa [childrenOf, found] using listed

/-- The depth of an id, zero for an absent one. -/
def depthOf (self : SandboxHierarchy) (id : CapsuleId) : ℕ := (self.get id).elim 0 (·.level.depth)

theorem depthOf_link (wf : self.WellFormed) {id parentId : CapsuleId} (link : self.parentOf id = some parentId) :
    depthOf self id = depthOf self parentId + 1 := by
  obtain ⟨sandbox, stored, parentLink⟩ := parentOf_eq_some_iff.mp link
  obtain ⟨parent, found, deeper, -⟩ := wf.parent_stored id sandbox parentId stored parentLink
  simpa [depthOf, stored, found] using deeper

theorem depthOf_le (self : SandboxHierarchy) (id : CapsuleId) : depthOf self id ≤ MAX_DEPTH := by
  cases stored : self.get id with
  | none => simp [depthOf, stored]
  | some sandbox => simpa [depthOf, stored] using sandbox.level.le_max

theorem depthOf_lt (wf : self.WellFormed) {above below : CapsuleId} (link : Ancestor self.parentOf above below) :
    depthOf self above < depthOf self below := by
  induction link with
  | single link =>
    have := wf.depthOf_link link
    omega
  | tail _ link ih =>
    have := wf.depthOf_link link
    omega

theorem not_ancestor_self (wf : self.WellFormed) (id : CapsuleId) : ¬ Ancestor self.parentOf id id := fun above =>
  (wf.depthOf_lt above).false

/-- A hierarchy without a sandbox at the root level is empty. -/
theorem empty_of_rootless (wf : self.WellFormed)
    (rootless : ∀ id sandbox, self.get id = some sandbox → sandbox.level.depth ≠ 0) (id : CapsuleId) :
    self.get id = none := by
  have climb : ∀ depth id sandbox, self.get id = some sandbox → sandbox.level.depth ≠ depth := by
    intro depth
    induction depth with
    | zero => exact rootless
    | succ depth ih =>
      intro id sandbox stored level
      cases link : sandbox.parentId with
      | none => exact rootless id sandbox stored (wf.root_level id sandbox stored link)
      | some parentId =>
        obtain ⟨parent, found, deeper, -⟩ := wf.parent_stored id sandbox parentId stored link
        exact ih parentId parent found (by omega)
  cases stored : self.get id with
  | none => rfl
  | some sandbox => exact absurd rfl (climb _ id sandbox stored)

end WellFormed

/-! ## Pruning -/

open Classical in
/-- `after` is `before` without the sandboxes of `Gone`, which also leave the child lists. -/
def Prunes (before after : SandboxHierarchy) (Gone : CapsuleId → Prop) : Prop :=
  ∀ id, after.get id = if Gone id then none else
    (before.get id).map fun sandbox => { sandbox with children := sandbox.children.filter (¬ Gone ·) }

namespace Prunes

variable {before middle after : SandboxHierarchy} {Gone More : CapsuleId → Prop} {id : CapsuleId}

theorem get_gone (pruned : Prunes before after Gone) (gone : Gone id) : after.get id = none := by
  rw [pruned id, if_pos gone]

/-- What is stored afterwards was stored before, with the same fields but for the child list. -/
theorem get_eq_some (pruned : Prunes before after Gone) {sandbox : RecursiveSandbox}
    (stored : after.get id = some sandbox) :
    ¬ Gone id ∧ ∃ old, before.get id = some old ∧ sandbox = { old with children := sandbox.children } ∧
      (∀ childId, childId ∈ sandbox.children ↔ childId ∈ old.children ∧ ¬ Gone childId) ∧
      sandbox.children.Sublist old.children := by
  rw [pruned id] at stored
  split_ifs at stored with gone
  obtain ⟨old, found, rfl⟩ := Option.map_eq_some_iff.mp stored
  exact ⟨gone, old, found, rfl, fun childId => by simp, List.filter_sublist⟩

theorem get_kept (pruned : Prunes before after Gone) (kept : ¬ Gone id) {old : RecursiveSandbox}
    (stored : before.get id = some old) :
    ∃ sandbox, after.get id = some sandbox ∧ sandbox = { old with children := sandbox.children } ∧
      ∀ childId, childId ∈ sandbox.children ↔ childId ∈ old.children ∧ ¬ Gone childId := by
  rw [pruned id, if_neg kept, stored, Option.map_some]
  exact ⟨_, rfl, rfl, fun childId => by simp⟩

theorem parentOf_gone (pruned : Prunes before after Gone) (gone : Gone id) : after.parentOf id = none := by
  rw [parentOf, pruned.get_gone gone, Option.bind_none]

theorem parentOf_kept (pruned : Prunes before after Gone) (kept : ¬ Gone id) :
    after.parentOf id = before.parentOf id := by
  rw [parentOf, parentOf, pruned id, if_neg kept]
  cases before.get id <;> rfl

theorem refl (self : SandboxHierarchy) : Prunes self self fun _ => False := by
  intro id
  cases stored : self.get id <;> simp

theorem trans (first : Prunes before middle Gone) (second : Prunes middle after More) :
    Prunes before after fun id => Gone id ∨ More id := by
  intro id
  rw [second id, first id]
  by_cases gone : Gone id
  · simp [gone]
  · by_cases more : More id
    · simp [more]
    · simp only [gone, more, or_self, if_false, Option.map_map]
      congr 1
      funext sandbox
      simp only [Function.comp, List.filter_filter, RecursiveSandbox.mk.injEq, true_and]
      apply List.filter_congr
      intro childId _
      by_cases Gone childId <;> simp_all

theorem congr (pruned : Prunes before after Gone) (same : ∀ id, Gone id ↔ More id) : Prunes before after More := by
  obtain rfl : Gone = More := funext fun id => propext (same id)
  exact pruned

/-- Pruning whole subtrees keeps the tree well formed. -/
theorem wellFormed (pruned : Prunes before after Gone) (wf : before.WellFormed)
    (closed : ∀ id parentId, before.parentOf id = some parentId → Gone parentId → Gone id) :
    after.WellFormed where
  root_level := by
    intro id sandbox stored top
    obtain ⟨-, old, found, same, -⟩ := pruned.get_eq_some stored
    rw [same] at top ⊢
    exact wf.root_level id old found top
  parent_stored := by
    intro id sandbox parentId stored link
    obtain ⟨kept, old, found, same, -⟩ := pruned.get_eq_some stored
    rw [same] at link ⊢
    obtain ⟨parent, above, deeper, listed⟩ := wf.parent_stored id old parentId found link
    have keptParent : ¬ Gone parentId := fun gone =>
      kept (closed id parentId (parentOf_eq_some_iff.mpr ⟨old, found, link⟩) gone)
    obtain ⟨next, after, sameParent, children⟩ := pruned.get_kept keptParent above
    refine ⟨next, after, ?_, (children id).mpr ⟨listed, kept⟩⟩
    rw [sameParent]
    exact deeper
  child_stored := by
    intro id sandbox childId stored listed
    obtain ⟨-, old, found, -, children, -⟩ := pruned.get_eq_some stored
    obtain ⟨member, keptChild⟩ := (children childId).mp listed
    obtain ⟨child, below, link⟩ := wf.child_stored id old childId found member
    obtain ⟨next, after, sameChild, -⟩ := pruned.get_kept keptChild below
    refine ⟨next, after, ?_⟩
    rw [sameChild]
    exact link
  children_nodup := by
    intro id sandbox stored
    obtain ⟨-, old, found, -, -, sublist⟩ := pruned.get_eq_some stored
    exact (wf.children_nodup id old found).sublist sublist

theorem depthOf_kept (pruned : Prunes before after Gone) (kept : ¬ Gone id) :
    WellFormed.depthOf after id = WellFormed.depthOf before id := by
  rw [WellFormed.depthOf, WellFormed.depthOf, pruned id, if_neg kept]
  cases before.get id <;> rfl

end Prunes

variable {fuel : ℕ} {childId parentId : CapsuleId} {sandbox parent created : RecursiveSandbox}
  {after result : SandboxHierarchy}

/-! ## The cascade -/

theorem get_detach (self : SandboxHierarchy) (id other : CapsuleId) :
    (self.detach id).get other = if other = id then none else
      if self.parentOf id = some other then (self.get other).map (·.removeChild id |>.1) else self.get other := by
  cases link : self.parentOf id with
  | none => simp [detach, link, get, Table.lookup_erase_eq]
  | some parentId =>
    simp only [detach, link, get, Table.lookup_erase_eq, Table.lookup_modify, Option.some.injEq]
    by_cases same : other = parentId
    · subst same
      simp
    · simp [same, Ne.symm same]

/-- The target leaves its parent's list and the map, and nothing else changes. -/
theorem WellFormed.detach_prunes (wf : self.WellFormed) (id : CapsuleId) : Prunes self (self.detach id) (· = id) := by
  intro other
  rw [get_detach]
  split_ifs with same link
  · rfl
  · congr 1
    funext sandbox
    simp [RecursiveSandbox.removeChild, bne, BEq.beq]
  · cases stored : self.get other with
    | none => rfl
    | some sandbox =>
      have absent : id ∉ sandbox.children := fun listed =>
        link ((wf.mem_childrenOf_iff other id).mp (by simpa [childrenOf, stored] using listed))
      have unchanged : sandbox.children.filter (¬ · = id) = sandbox.children := by
        refine List.filter_eq_self.mpr fun childId member => ?_
        simpa using fun (same : childId = id) => absent (same ▸ member)
      simp only [Option.map_some, Option.some.injEq]
      convert rfl using 2
      convert unchanged

theorem sandboxCount_detach {id : CapsuleId} (stored : self.get id = some sandbox) :
    (self.detach id).sandboxCount + 1 = self.sandboxCount := by
  unfold detach sandboxCount
  cases self.parentOf id with
  | none => exact Table.length_erase stored
  | some parentId =>
    have kept : ((self.sandboxes.modify parentId (·.removeChild id |>.1)).lookup id).isSome := by
      rw [Table.lookup_modify]
      split_ifs with same
      · rw [← same, Option.isSome_map]
        exact Option.isSome_of_eq_some stored
      · exact Option.isSome_of_eq_some stored
    obtain ⟨value, present⟩ := Option.isSome_iff_exists.mp kept
    exact (Table.length_erase present).trans (Table.length_modify _ _ _)

/-- The sandbox itself and everything below it. -/
def Subtree (self : SandboxHierarchy) (id other : CapsuleId) : Prop :=
  other = id ∨ Ancestor self.parentOf id other

theorem Subtree.closed {id other : CapsuleId} (link : self.parentOf childId = some other)
    (inside : self.Subtree id other) : self.Subtree id childId := by
  obtain rfl | above := inside
  · exact .inr (.single link)
  · exact .inr (above.tail link)

/-- Destroying the children one after the other prunes their subtrees, given that one call prunes
one subtree. -/
theorem destroyChildren_prunes
    (one : ∀ (hierarchy : SandboxHierarchy) id, hierarchy.WellFormed →
      MAX_DEPTH < fuel + WellFormed.depthOf hierarchy id →
      ∃ after count, hierarchy.destroyCascade fuel id = some (after, count) ∧
        Prunes hierarchy after (hierarchy.Subtree id) ∧
        ((hierarchy.get id).isSome → count + after.sandboxCount = hierarchy.sandboxCount))
    (children : List CapsuleId) (wf : self.WellFormed) (count : ℕ)
    (deep : MAX_DEPTH < fuel + (WellFormed.depthOf self parentId + 1)) (nodup : children.Nodup)
    (linked : ∀ childId ∈ children, self.parentOf childId = some parentId) :
    ∃ after total, children.foldlM (fun (progress : SandboxHierarchy × ℕ) childId => do
        let (next, destroyed) ← destroyCascade fuel progress.1 childId
        some (next, progress.2 + destroyed)) (self, count) = some (after, total) ∧
      Prunes self after (fun id => ∃ childId ∈ children, self.Subtree childId id) ∧
      total + after.sandboxCount = count + self.sandboxCount := by
  induction children generalizing self count with
  | nil => exact ⟨self, count, rfl, (Prunes.refl self).congr fun id => by simp, rfl⟩
  | cons childId rest ih =>
    have link := linked childId List.mem_cons_self
    obtain ⟨next, destroyed, ran, pruned, counted⟩ := one self childId wf (by rw [wf.depthOf_link link]; exact deep)
    obtain ⟨fresh, restNodup⟩ := List.nodup_cons.mp nodup
    have sibling : ∀ other, self.parentOf other = some parentId → other ≠ childId →
        ¬ self.Subtree childId other := by
      rintro other otherLink different (same | above)
      · exact different same
      · have deeper := wf.depthOf_lt above
        rw [wf.depthOf_link link, wf.depthOf_link otherLink] at deeper
        exact deeper.false
    have parentKept : ¬ self.Subtree childId parentId := by
      rintro (rfl | above)
      · have := wf.depthOf_link link
        omega
      · have := wf.depthOf_lt above
        have := wf.depthOf_link link
        omega
    have restKept : ∀ other ∈ rest, ¬ self.Subtree childId other := fun other member =>
      sibling other (linked other (List.mem_cons_of_mem _ member)) fun same => fresh (same ▸ member)
    have restLinked : ∀ other ∈ rest, next.parentOf other = some parentId := fun other member => by
      rw [pruned.parentOf_kept (restKept other member)]
      exact linked other (List.mem_cons_of_mem _ member)
    have nextWf := pruned.wellFormed wf fun _ _ => Subtree.closed
    obtain ⟨after, total, folded, prunedRest, countedRest⟩ := ih nextWf (count + destroyed)
      (by rw [pruned.depthOf_kept parentKept]; exact deep) restNodup restLinked
    refine ⟨after, total, ?_, (pruned.trans prunedRest).congr ?_, ?_⟩
    · simp only [List.foldlM_cons, ran, Option.bind_eq_bind, Option.bind_some]
      exact folded
    · intro id
      have uncut : ∀ other, (self.Subtree childId id ∨ Ancestor next.parentOf other id) ↔
          (self.Subtree childId id ∨ Ancestor self.parentOf other id) := fun _ =>
        ancestor_cut (fun _ _ => Subtree.closed) (fun _ => pruned.parentOf_kept) (fun _ => pruned.parentOf_gone)
      by_cases gone : self.Subtree childId id
      · simp [gone]
      · simp only [gone, false_or] at uncut
        simp only [List.mem_cons, exists_eq_or_imp, Subtree, uncut]
    · obtain ⟨child, stored, -⟩ := parentOf_eq_some_iff.mp link
      have removed := counted (Option.isSome_of_eq_some stored)
      omega

/-- The cascade ends within `MAX_DEPTH + 1` nested calls and removes exactly the subtree. -/
theorem WellFormed.destroyCascade_prunes (wf : self.WellFormed) (id : CapsuleId)
    (enough : MAX_DEPTH < fuel + depthOf self id) :
    ∃ after count, self.destroyCascade fuel id = some (after, count) ∧ Prunes self after (self.Subtree id) ∧
      ((self.get id).isSome → count + after.sandboxCount = self.sandboxCount) := by
  induction fuel generalizing self id with
  | zero =>
    have := depthOf_le self id
    omega
  | succ fuel ih =>
    have nodup : (self.childrenOf id).Nodup := by
      cases stored : self.get id with
      | none => simp [childrenOf, stored]
      | some sandbox => simpa [childrenOf, stored] using wf.children_nodup id sandbox stored
    obtain ⟨emptied, count, folded, pruned, counted⟩ := destroyChildren_prunes (fun _ id wf => ih wf id)
      (self.childrenOf id) wf 0 (by omega) nodup fun childId => (wf.mem_childrenOf_iff id childId).mp
    have below : Prunes self emptied (Ancestor self.parentOf id) := pruned.congr fun other => by
      rw [ancestor_iff_child]
      simp only [wf.mem_childrenOf_iff, Subtree, eq_comm (a := other)]
    have emptiedWf := below.wellFormed wf fun childId parentId link above => above.tail link
    refine ⟨emptied.detach id, count + 1, ?_, (below.trans (emptiedWf.detach_prunes id)).congr ?_, fun stored => ?_⟩
    · simp only [destroyCascade, Option.bind_eq_bind] at folded ⊢
      rw [folded, Option.bind_some]
    · exact fun other => or_comm
    · obtain ⟨sandbox, found⟩ := Option.isSome_iff_exists.mp stored
      obtain ⟨kept, remains, -⟩ := below.get_kept (wf.not_ancestor_self id) found
      have removed := sandboxCount_detach remains
      omega

/-! ## What each operation does -/

theorem createRoot_cases (self : SandboxHierarchy) (id : CapsuleId) :
    (self.createRoot id).1 = self ∨
      (∀ other sandbox, self.get other = some sandbox → sandbox.level.depth ≠ 0) ∧
        ∀ other, (self.createRoot id).1.get other = if other = id then some (.root id) else self.get other := by
  unfold createRoot
  split_ifs with taken
  · exact .inl rfl
  · refine .inr ⟨fun other sandbox stored top => taken ?_, fun other => Table.lookup_insert_eq _ _ _ _⟩
    refine List.any_eq_true.mpr ⟨sandbox, (Table.mem_values_iff _ _).mpr ⟨other, stored⟩, ?_⟩
    rw [beq_iff_eq]
    cases level : sandbox.level with
    | mk depth bound =>
      rw [level] at top
      subst top
      rfl

theorem createChild_cases (self : SandboxHierarchy) (childId parentId : CapsuleId) :
    self.createChild childId parentId = none ∨
      ∃ parent after child, self.createChild childId parentId = some (after, child) ∧
        self.get childId = none ∧ self.get parentId = some parent ∧ child.level.depth = parent.level.depth + 1 ∧
        child.parentId = some parentId ∧ child.capabilities = [] ∧ child.children = [] ∧
        ∀ other, after.get other = if other = childId then some child else
          if other = parentId then some (parent.addChild childId) else self.get other := by
  unfold createChild
  split_ifs with present
  · exact .inl rfl
  have fresh : self.get childId = none := by simpa using present
  cases found : self.get parentId with
  | none => exact .inl rfl
  | some parent =>
    simp only [Option.bind_eq_bind, Option.bind_some]
    split_ifs with deep
    · exact .inl rfl
    · refine .inr ⟨parent, _, _, rfl, fresh, rfl, ?_, rfl, rfl, rfl, ?_⟩
      · simp [RecursiveSandbox.child, SandboxLevel.next_of_lt (Nat.lt_of_not_ge deep)]
      · intro other
        have different : parentId ≠ childId := by
          rintro rfl
          rw [fresh] at found
          cases found
        have above : self.sandboxes.lookup parentId = some parent := found
        simp only [get, Table.lookup_modify, Table.lookup_insert_eq, different, if_false, above, Option.map_some]
        by_cases isParent : other = parentId
        · simp [isParent, different]
        · simp [isParent]

/-- A grant does nothing, or it reaches a stored sandbox that has no parent or a parent that may
delegate the resource. -/
theorem grantCapability_cases (self : SandboxHierarchy) (childId : CapsuleId) (cap : SandboxCapability) :
    self.grantCapability childId cap = (self, false) ∨
      ∃ child, self.get childId = some child ∧ (self.grantCapability childId cap).2 = true ∧
        (∀ parentId, child.parentId = some parentId →
          ∃ parent, self.get parentId = some parent ∧ parent.canDelegate cap = true) ∧
        ∀ other, (self.grantCapability childId cap).1.get other =
          if other = childId then some (child.grantCapability cap).1 else self.get other := by
  unfold grantCapability
  cases stored : self.get childId with
  | none => exact .inl rfl
  | some child =>
    have read : ∀ other, (SandboxHierarchy.mk
        (self.sandboxes.modify childId (·.grantCapability cap |>.1))).get other =
          if other = childId then some (child.grantCapability cap).1 else self.get other := by
      intro other
      have found : self.sandboxes.lookup childId = some child := stored
      simp [get, Table.lookup_modify, found]
    dsimp only
    cases link : child.parentId with
    | none => exact .inr ⟨child, rfl, rfl, fun parentId linked => by simp [link] at linked, read⟩
    | some parentId =>
      dsimp only
      cases above : self.get parentId with
      | none => exact .inl rfl
      | some parent =>
        dsimp only
        split_ifs with delegates
        · refine .inr ⟨child, rfl, rfl, fun linked same => ?_, read⟩
          obtain rfl : parentId = linked := Option.some.inj (link.symm.trans same)
          exact ⟨parent, above, delegates⟩
        · exact .inl rfl

theorem get_revokeCapability (self : SandboxHierarchy) (id : CapsuleId) (label : String) (other : CapsuleId) :
    (self.revokeCapability id label).1.get other =
      if other = id then (self.get id).map (·.revokeCapability label |>.1) else self.get other := by
  unfold revokeCapability
  cases stored : self.get id with
  | none =>
    by_cases same : other = id
    · simp [same, stored]
    · simp [same]
  | some sandbox =>
    have found : self.sandboxes.lookup id = some sandbox := stored
    simp [get, Table.lookup_modify, found]

/-! ## Well-formedness over runs -/

/-- A sandbox without its capabilities. -/
def bare (sandbox : RecursiveSandbox) : RecursiveSandbox := { sandbox with capabilities := [] }

/-- The tree does not see capabilities. -/
theorem WellFormed.of_bare {before : SandboxHierarchy} (wf : before.WellFormed)
    (same : ∀ id, (after.get id).map bare = (before.get id).map bare) : after.WellFormed := by
  have back : ∀ id sandbox, after.get id = some sandbox →
      ∃ old, before.get id = some old ∧ bare sandbox = bare old := by
    intro id sandbox stored
    have mapped := same id
    rw [stored, Option.map_some] at mapped
    obtain ⟨old, found, equal⟩ := Option.map_eq_some_iff.mp mapped.symm
    exact ⟨old, found, equal.symm⟩
  have forth : ∀ id old, before.get id = some old →
      ∃ sandbox, after.get id = some sandbox ∧ bare sandbox = bare old := by
    intro id old stored
    have mapped := same id
    rw [stored, Option.map_some] at mapped
    exact Option.map_eq_some_iff.mp mapped
  refine ⟨?_, ?_, ?_, ?_⟩
  · intro id sandbox stored top
    obtain ⟨old, found, equal⟩ := back id sandbox stored
    simp only [bare, RecursiveSandbox.mk.injEq] at equal
    rw [equal.2.1]
    exact wf.root_level id old found (equal.2.2.1 ▸ top)
  · intro id sandbox parentId stored link
    obtain ⟨old, found, equal⟩ := back id sandbox stored
    simp only [bare, RecursiveSandbox.mk.injEq] at equal
    obtain ⟨parent, above, deeper, listed⟩ := wf.parent_stored id old parentId found (equal.2.2.1 ▸ link)
    obtain ⟨next, stays, equalParent⟩ := forth parentId parent above
    simp only [bare, RecursiveSandbox.mk.injEq] at equalParent
    refine ⟨next, stays, ?_, ?_⟩
    · rw [equal.2.1, equalParent.2.1]
      exact deeper
    · rw [equalParent.2.2.2.2]
      exact listed
  · intro id sandbox childId stored listed
    obtain ⟨old, found, equal⟩ := back id sandbox stored
    simp only [bare, RecursiveSandbox.mk.injEq] at equal
    obtain ⟨child, below, link⟩ := wf.child_stored id old childId found (equal.2.2.2.2 ▸ listed)
    obtain ⟨next, stays, equalChild⟩ := forth childId child below
    simp only [bare, RecursiveSandbox.mk.injEq] at equalChild
    exact ⟨next, stays, equalChild.2.2.1 ▸ link⟩
  · intro id sandbox stored
    obtain ⟨old, found, equal⟩ := back id sandbox stored
    simp only [bare, RecursiveSandbox.mk.injEq] at equal
    rw [equal.2.2.2.2]
    exact wf.children_nodup id old found

/-- A root sandbox is created only in an empty hierarchy. -/
theorem WellFormed.createRoot (wf : self.WellFormed) (id : CapsuleId) : (self.createRoot id).1.WellFormed := by
  obtain same | ⟨rootless, read⟩ := createRoot_cases self id
  · rw [same]
    exact wf
  have only : ∀ other sandbox, (self.createRoot id).1.get other = some sandbox → sandbox = .root id := by
    intro other sandbox stored
    rw [read, wf.empty_of_rootless rootless] at stored
    split_ifs at stored
    exact (Option.some.inj stored).symm
  refine ⟨?_, ?_, ?_, ?_⟩
  · intro other sandbox stored _
    rw [only other sandbox stored]
    rfl
  · intro other sandbox parentId stored link
    rw [only other sandbox stored] at link
    cases link
  · intro other sandbox childId stored listed
    rw [only other sandbox stored] at listed
    cases listed
  · intro other sandbox stored
    rw [only other sandbox stored]
    exact List.nodup_nil

/-- What a new child leaves stored is the child, or an old sandbox whose list may have gained the child. -/
theorem WellFormed.get_createChild_back (wf : self.WellFormed) {id : CapsuleId}
    (above : self.get parentId = some parent)
    (read : ∀ id, result.get id = if id = childId then some created else if id = parentId then
      some (parent.addChild childId) else self.get id)
    (stored : result.get id = some sandbox) :
    id = childId ∧ sandbox = created ∨
      id ≠ childId ∧ ∃ old, self.get id = some old ∧ sandbox = { old with children := sandbox.children } ∧
        sandbox.children.Nodup ∧
        ∀ other, other ∈ sandbox.children ↔ other ∈ old.children ∨ id = parentId ∧ other = childId := by
  rw [read] at stored
  split_ifs at stored with isChild isParent
  · exact .inl ⟨isChild, (Option.some.inj stored).symm⟩
  · cases stored
    refine .inr ⟨isChild, parent, isParent ▸ above, parent.addChild_frame childId,
      parent.addChild_nodup (wf.children_nodup parentId parent above), fun other => ?_⟩
    simp [parent.mem_addChild, isParent]
  · exact .inr ⟨isChild, sandbox, stored, rfl, wf.children_nodup id sandbox stored, fun other => by simp [isParent]⟩

/-- An old sandbox is still stored beside a new child. -/
theorem get_createChild_forth {id : CapsuleId} {old : RecursiveSandbox} (fresh : self.get childId = none)
    (above : self.get parentId = some parent)
    (read : ∀ id, result.get id = if id = childId then some created else if id = parentId then
      some (parent.addChild childId) else self.get id)
    (stored : self.get id = some old) :
    ∃ sandbox, result.get id = some sandbox ∧ sandbox = { old with children := sandbox.children } ∧
      ∀ other, other ∈ sandbox.children ↔ other ∈ old.children ∨ id = parentId ∧ other = childId := by
  have different : id ≠ childId := by
    rintro rfl
    rw [fresh] at stored
    cases stored
  rw [read, if_neg different]
  split_ifs with isParent
  · obtain rfl : parent = old := Option.some.inj (above.symm.trans (isParent ▸ stored))
    exact ⟨_, rfl, parent.addChild_frame childId, fun other => by simp [parent.mem_addChild, isParent]⟩
  · exact ⟨old, stored, rfl, fun other => by simp [isParent]⟩

theorem WellFormed.createChild (wf : self.WellFormed) {child : RecursiveSandbox}
    (success : self.createChild childId parentId = some (after, child)) : after.WellFormed := by
  obtain refused | ⟨parent, result, created, ran, fresh, above, deeper, link, -, childless, read⟩ :=
    createChild_cases self childId parentId
  · rw [refused] at success
    cases success
  obtain ⟨rfl, rfl⟩ : result = after ∧ created = child := by
    rw [ran] at success
    simpa using success
  obtain ⟨nextParent, storedParent, sameParent, listed⟩ := get_createChild_forth fresh above read above
  refine ⟨?_, ?_, ?_, ?_⟩
  · intro id sandbox stored top
    obtain ⟨-, rfl⟩ | ⟨-, old, found, same, -⟩ := wf.get_createChild_back above read stored
    · rw [link] at top
      cases top
    · rw [same] at top ⊢
      exact wf.root_level id old found top
  · intro id sandbox upper stored linked
    obtain ⟨rfl, rfl⟩ | ⟨-, old, found, same, -⟩ := wf.get_createChild_back above read stored
    · obtain rfl : parentId = upper := Option.some.inj (link.symm.trans linked)
      refine ⟨nextParent, storedParent, ?_, (listed id).mpr (.inr ⟨rfl, rfl⟩)⟩
      rw [sameParent]
      exact deeper
    · rw [same] at linked ⊢
      obtain ⟨mother, motherStored, motherLevel, member⟩ := wf.parent_stored id old upper found linked
      obtain ⟨next, nextStored, sameNext, children⟩ := get_createChild_forth fresh above read motherStored
      refine ⟨next, nextStored, ?_, (children id).mpr (.inl member)⟩
      rw [sameNext]
      exact motherLevel
  · intro id sandbox lower stored member
    obtain ⟨-, rfl⟩ | ⟨-, old, found, -, -, children⟩ := wf.get_createChild_back above read stored
    · rw [childless] at member
      cases member
    · obtain inOld | ⟨rfl, rfl⟩ := (children lower).mp member
      · obtain ⟨grown, grownStored, grownLink⟩ := wf.child_stored id old lower found inOld
        obtain ⟨next, nextStored, sameNext, -⟩ := get_createChild_forth fresh above read grownStored
        refine ⟨next, nextStored, ?_⟩
        rw [sameNext]
        exact grownLink
      · refine ⟨created, ?_, link⟩
        rw [read, if_pos rfl]
  · intro id sandbox stored
    obtain ⟨-, rfl⟩ | ⟨-, old, -, -, nodup, -⟩ := wf.get_createChild_back above read stored
    · rw [childless]
      exact List.nodup_nil
    · exact nodup

theorem WellFormed.grantCapability (wf : self.WellFormed) (childId : CapsuleId) (cap : SandboxCapability) :
    (self.grantCapability childId cap).1.WellFormed := by
  obtain refused | ⟨child, stored, -, -, read⟩ := grantCapability_cases self childId cap
  · rw [refused]
    exact wf
  · refine wf.of_bare fun id => ?_
    rw [read]
    split_ifs with same
    · subst same
      rw [stored, Option.map_some, Option.map_some, child.grantCapability_frame cap]
      rfl
    · rfl

theorem WellFormed.revokeCapability (wf : self.WellFormed) (id : CapsuleId) (label : String) :
    (self.revokeCapability id label).1.WellFormed := by
  refine wf.of_bare fun other => ?_
  rw [get_revokeCapability]
  split_ifs with same
  · subst same
    cases self.get other <;> rfl
  · rfl

/-- The cascade of a run never runs out of fuel. -/
theorem WellFormed.destroyCascade_step (wf : self.WellFormed) (id : CapsuleId) :
    Prunes self (self.step (.destroyCascade id)) (self.Subtree id) := by
  have enough : MAX_DEPTH < MAX_DEPTH + 1 + depthOf self id := by omega
  obtain ⟨after, count, ran, pruned, -⟩ := wf.destroyCascade_prunes id enough
  simpa only [step, ran, Option.map_some, Option.getD_some] using pruned

theorem WellFormed.step (wf : self.WellFormed) (op : SandboxOp) : (self.step op).WellFormed := by
  cases op with
  | createRoot id => exact wf.createRoot id
  | createChild childId parentId =>
    cases created : self.createChild childId parentId with
    | none => simpa only [SandboxHierarchy.step, created, Option.map_none, Option.getD_none] using wf
    | some result =>
      have grown := wf.createChild created
      simpa only [SandboxHierarchy.step, created, Option.map_some, Option.getD_some] using grown
  | grantCapability childId cap => exact wf.grantCapability childId cap
  | revokeCapability id label => exact wf.revokeCapability id label
  | destroyCascade id => exact (wf.destroyCascade_step id).wellFormed wf fun _ _ => Subtree.closed

theorem new_wellFormed : new.WellFormed := by
  refine ⟨?_, ?_, ?_, ?_⟩ <;> intro id sandbox <;> simp [new, get]

theorem runFrom_wellFormed (ops : List SandboxOp) : (runFrom ops).WellFormed :=
  StepRun.run_invariant WellFormed (fun _ op wf => wf.step op) new_wellFormed ops

end SandboxHierarchy

end Aios.Sandbox
