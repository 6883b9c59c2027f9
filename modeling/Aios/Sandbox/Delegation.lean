import Aios.Sandbox.Tree

/-! # Delegation down the sandbox tree

`grant_capability` asks that the parent hold a capability with the `Grant` right for the same
resource. It does not compare the rights, so the delegation rule of the module header holds of a run
exactly when every grant that passes asks for no more than such a capability of the parent carries.
-/

namespace Aios.Sandbox

open ParentForest

/-- A grantable capability for the resource whose rights include all those of `cap`. -/
def SandboxCapability.Covers (held cap : SandboxCapability) : Prop :=
  held.resource = cap.resource ∧ .grant ∈ held.rights ∧ ∀ right ∈ cap.rights, right ∈ held.rights

instance (held cap : SandboxCapability) : Decidable (held.Covers cap) := inferInstanceAs (Decidable (_ ∧ _))

namespace SandboxHierarchy

variable {self : SandboxHierarchy}

variable {id : CapsuleId} {cap : SandboxCapability}

/-- The sandbox holds the capability after the step and did not hold it before. -/
def Acquires (before after : SandboxHierarchy) (id : CapsuleId) (cap : SandboxCapability) : Prop :=
  (∃ sandbox, after.get id = some sandbox ∧ cap ∈ sandbox.capabilities) ∧
    ∀ sandbox, before.get id = some sandbox → cap ∉ sandbox.capabilities

/-- Capabilities that all come from an earlier sandbox of the same id are not acquired. -/
theorem not_acquires_of_back {before after : SandboxHierarchy} {id : CapsuleId} {cap : SandboxCapability}
    (back : ∀ sandbox, after.get id = some sandbox → cap ∈ sandbox.capabilities →
      ∃ old, before.get id = some old ∧ cap ∈ old.capabilities) : ¬ Acquires before after id cap := by
  rintro ⟨⟨sandbox, stored, held⟩, new⟩
  obtain ⟨old, found, before⟩ := back sandbox stored held
  exact new old found before

/-- A grant hands out its capability exactly if the sandbox lacks the label and the parent may delegate. -/
theorem acquires_grantCapability_iff {childId : CapsuleId} {granted : SandboxCapability} :
    Acquires self (self.grantCapability childId granted).1 id cap ↔
      (childId = id ∧ granted = cap) ∧ ∃ child, self.get id = some child ∧ child.hasCapability cap.label = false ∧
        ∀ parentId, child.parentId = some parentId →
          ∃ parent, self.get parentId = some parent ∧ parent.canDelegate cap = true := by
  obtain refused | ⟨child, stored, -, checked, read⟩ := grantCapability_cases self childId granted
  · refine iff_of_false (not_acquires_of_back fun sandbox stored held => ?_) ?_
    · exact ⟨sandbox, by rwa [refused] at stored, held⟩
    · rintro ⟨⟨rfl, rfl⟩, child, stored, -, delegated⟩
      have success : (self.grantCapability childId granted).2 = true := by
        simp only [SandboxHierarchy.grantCapability, stored]
        cases link : child.parentId with
        | none => rfl
        | some parentId =>
          obtain ⟨parent, above, delegates⟩ := delegated parentId link
          simp [above, delegates]
      rw [refused] at success
      cases success
  · constructor
    · rintro ⟨⟨sandbox, after, held⟩, new⟩
      rw [read] at after
      split_ifs at after with same
      · subst same
        cases after
        obtain before | ⟨fresh, rfl⟩ := child.mem_grantCapability.mp held
        · exact absurd before (new child stored)
        · exact ⟨⟨rfl, rfl⟩, child, stored, fresh, checked⟩
      · exact absurd held (new sandbox after)
    · rintro ⟨⟨rfl, rfl⟩, found, stored', fresh, -⟩
      obtain rfl : child = found := Option.some.inj (stored.symm.trans stored')
      refine ⟨⟨(child.grantCapability granted).1, by rw [read, if_pos rfl], ?_⟩, fun sandbox found held => ?_⟩
      · exact child.mem_grantCapability.mpr (.inr ⟨fresh, rfl⟩)
      · obtain rfl : child = sandbox := Option.some.inj (stored.symm.trans found)
        have present : child.hasCapability granted.label = true :=
          List.any_eq_true.mpr ⟨granted, held, by simp⟩
        rw [present] at fresh
        cases fresh

/-- Only a grant hands out a capability: to the sandbox it names, under a label that sandbox does
not have, and past the delegation check of the parent. -/
theorem acquires_iff (wf : self.WellFormed) {op : SandboxOp} :
    Acquires self (self.step op) id cap ↔
      op = .grantCapability id cap ∧ ∃ child, self.get id = some child ∧ child.hasCapability cap.label = false ∧
        ∀ parentId, child.parentId = some parentId →
          ∃ parent, self.get parentId = some parent ∧ parent.canDelegate cap = true := by
  cases op with
  | createRoot rootId =>
    refine iff_of_false (not_acquires_of_back fun sandbox stored held => ?_) (fun impossible => by cases impossible.1)
    obtain same | ⟨-, read⟩ := createRoot_cases self rootId
    · exact ⟨sandbox, by rwa [step, same] at stored, held⟩
    · rw [step, read] at stored
      split_ifs at stored
      · cases stored
        cases held
      · exact ⟨sandbox, stored, held⟩
  | createChild childId parentId =>
    refine iff_of_false (not_acquires_of_back fun sandbox stored held => ?_) (fun impossible => by cases impossible.1)
    obtain refused | ⟨parent, after, child, ran, -, above, -, -, empty, -, read⟩ :=
      createChild_cases self childId parentId
    · simp only [step, refused, Option.map_none, Option.getD_none] at stored
      exact ⟨sandbox, stored, held⟩
    · simp only [step, ran, Option.map_some, Option.getD_some, read] at stored
      split_ifs at stored with isChild isParent
      · cases stored
        rw [empty] at held
        cases held
      · cases stored
        rw [parent.addChild_frame] at held
        exact ⟨parent, isParent ▸ above, held⟩
      · exact ⟨sandbox, stored, held⟩
  | revokeCapability capsuleId label =>
    refine iff_of_false (not_acquires_of_back fun sandbox stored held => ?_) (fun impossible => by cases impossible.1)
    rw [step, get_revokeCapability] at stored
    split_ifs at stored with same
    · obtain ⟨old, found, rfl⟩ := Option.map_eq_some_iff.mp stored
      exact ⟨old, same ▸ found, (List.mem_filter.mp held).1⟩
    · exact ⟨sandbox, stored, held⟩
  | destroyCascade capsuleId =>
    refine iff_of_false (not_acquires_of_back fun sandbox stored held => ?_) (fun impossible => by cases impossible.1)
    obtain ⟨-, old, found, same, -⟩ := (wf.destroyCascade_step capsuleId).get_eq_some stored
    rw [same] at held
    exact ⟨old, found, held⟩
  | grantCapability childId granted =>
    simp only [SandboxOp.grantCapability.injEq, step]
    exact acquires_grantCapability_iff

/-- A grant moves no sandbox. -/
theorem parentOf_grantCapability (self : SandboxHierarchy) (childId : CapsuleId) (cap : SandboxCapability)
    (id : CapsuleId) : (self.step (.grantCapability childId cap)).parentOf id = self.parentOf id := by
  rw [step, parentOf, parentOf]
  obtain refused | ⟨child, stored, -, -, read⟩ := grantCapability_cases self childId cap
  · rw [refused]
  · rw [read]
    split_ifs with same
    · rw [same, stored, child.grantCapability_frame]
      rfl
    · rfl

end SandboxHierarchy

/-! ## Over whole runs -/

open SandboxHierarchy

variable (ops : List SandboxOp)

/-- Each capability that a step gives to a sandbox with a parent is covered by a capability that the
parent holds when the step is taken. -/
def NoAmplification : Prop :=
  ∀ before op rest, ops = before ++ op :: rest →
    ∀ id cap parentId, Acquires (runFrom before) ((runFrom before).step op) id cap →
      ((runFrom before).step op).parentOf id = some parentId →
        ∃ parent held, (runFrom before).get parentId = some parent ∧ held ∈ parent.capabilities ∧ held.Covers cap

/-- Each grant of a new label that passes the delegation check asks for rights that one grantable
capability of the parent for the resource carries. -/
def GrantsWithinParent : Prop :=
  ∀ before childId cap rest, ops = before ++ .grantCapability childId cap :: rest →
    ∀ child parentId parent, (runFrom before).get childId = some child → child.parentId = some parentId →
      (runFrom before).get parentId = some parent → child.hasCapability cap.label = false →
        parent.canDelegate cap = true → ∃ held ∈ parent.capabilities, held.Covers cap

/-- No run amplifies a capability exactly when its grants stay within the rights of the parent. -/
theorem noAmplification_iff : NoAmplification ops ↔ GrantsWithinParent ops := by
  constructor
  · intro safe before childId cap rest split child parentId parent stored link above fresh delegates
    have acquired : Acquires (runFrom before) ((runFrom before).step (.grantCapability childId cap)) childId cap := by
      refine (acquires_iff (runFrom_wellFormed before)).mpr ⟨rfl, child, stored, fresh, fun upper linked => ?_⟩
      obtain rfl : parentId = upper := Option.some.inj (link.symm.trans linked)
      exact ⟨parent, above, delegates⟩
    have linked : ((runFrom before).step (.grantCapability childId cap)).parentOf childId = some parentId := by
      rw [parentOf_grantCapability]
      exact parentOf_eq_some_iff.mpr ⟨child, stored, link⟩
    obtain ⟨holder, held, found, member, covers⟩ := safe before _ rest split childId cap parentId acquired linked
    obtain rfl : parent = holder := Option.some.inj (above.symm.trans found)
    exact ⟨held, member, covers⟩
  · intro within before op rest split id cap parentId acquired link
    obtain ⟨rfl, child, stored, fresh, delegated⟩ := (acquires_iff (runFrom_wellFormed before)).mp acquired
    rw [parentOf_grantCapability] at link
    obtain ⟨found, stored', childLink⟩ := parentOf_eq_some_iff.mp link
    obtain rfl : child = found := Option.some.inj (stored.symm.trans stored')
    obtain ⟨parent, above, delegates⟩ := delegated parentId childLink
    obtain ⟨held, member, covers⟩ :=
      within before id cap rest split child parentId parent stored childLink above fresh delegates
    exact ⟨parent, held, above, member, covers⟩

/-- A root that may read and grant the GPU delegates a right to write it. -/
def amplifyingRun : List SandboxOp :=
  [.createRoot 0, .grantCapability 0 ⟨"gpu", .gpu, [.read, .grant], none⟩, .createChild 1 0,
    .grantCapability 1 ⟨"gpu", .gpu, [.write], some 0⟩]

theorem not_noAmplification_amplifyingRun : ¬ NoAmplification amplifyingRun := by
  intro safe
  have stored : (runFrom (amplifyingRun.take 3)).get 0 =
      some ⟨0, .ROOT, none, [⟨"gpu", .gpu, [.read, .grant], none⟩], [1]⟩ := by decide
  have acquired : Acquires (runFrom (amplifyingRun.take 3))
      ((runFrom (amplifyingRun.take 3)).step (.grantCapability 1 ⟨"gpu", .gpu, [.write], some 0⟩)) 1
      ⟨"gpu", .gpu, [.write], some 0⟩ := by
    refine (acquires_iff (runFrom_wellFormed _)).mpr
      ⟨rfl, .child 1 0 .ROOT, by decide, by decide, fun parentId link => ?_⟩
    obtain rfl : 0 = parentId := by simpa [RecursiveSandbox.child] using link
    exact ⟨_, stored, by decide⟩
  obtain ⟨parent, held, found, member, covers⟩ := safe (amplifyingRun.take 3) _ [] rfl 1 _ 0 acquired (by decide)
  obtain rfl := Option.some.inj (stored.symm.trans found)
  obtain rfl := List.mem_singleton.mp member
  exact absurd covers (by decide)

end Aios.Sandbox
