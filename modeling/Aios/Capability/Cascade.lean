import Aios.Capability.Derivation

/-! # What a revocation cascade reaches

`revoke_cascade` collects every descendant and then calls `revoke` on each, and `revoke` refuses a
token that lacks the `Destroy` right. So the cascade law of the module header holds of a run
exactly when no cascade meets a live descendant without that right.
-/

namespace Aios.Capability

open ParentForest

namespace CapTokenTree

variable (tree : CapTokenTree) (target : CapTokenId)

/-- A cascade of `target` revokes it and all its descendants and changes no other token. -/
def CascadeRevokes : Prop :=
  ∀ fuel, tree.len ≤ fuel → ∃ after count, tree.revokeCascade fuel target = some (after, count) ∧
    (∀ d, d = target ∨ Ancestor tree.parentOf target d →
      ∃ token, after.get d = some token ∧ token.revoked = true) ∧
    ∀ d, d ≠ target → ¬ Ancestor tree.parentOf target d → after.get d = tree.get d

/-- No alive token has a revoked ancestor. -/
def NoLiveOrphan : Prop :=
  ∀ a d upper token, Ancestor tree.parentOf a d → tree.get a = some upper → tree.get d = some token →
    upper.revoked = true → token.revoked = true

/-- Every alive descendant of `target` carries the right its revocation needs. -/
def DestroyableBelow : Prop :=
  ∀ d token, Ancestor tree.parentOf target d → tree.get d = some token → token.isAlive = true →
    token.rights.has .destroy = true

/-- `NoLiveOrphan` over single links, the form the steps preserve. -/
def RevokedLinks : Prop :=
  ∀ id token parentId parent, tree.get id = some token → token.parentId = some parentId →
    tree.get parentId = some parent → parent.revoked = true → token.revoked = true

theorem RevokedLinks.noLiveOrphan {space : CapSpace} (wf : space.WellFormed)
    (links : RevokedLinks space.tree) : NoLiveOrphan space.tree := by
  intro a d upper token above read stored gone
  induction above generalizing token with
  | single link =>
    obtain ⟨found, stored', parentLink⟩ := parentOf_eq_some_iff.mp link
    obtain rfl : found = token := Option.some.inj (stored'.symm.trans stored)
    exact links _ _ _ _ stored parentLink read gone
  | tail _ link ih =>
    obtain ⟨found, stored', parentLink⟩ := parentOf_eq_some_iff.mp link
    obtain rfl : found = token := Option.some.inj (stored'.symm.trans stored)
    obtain ⟨middle, readMiddle, -⟩ := wf.derived_token _ _ _ stored parentLink
    exact links _ _ _ _ stored parentLink readMiddle (ih middle readMiddle)

end CapTokenTree

namespace CapSpace

open CapTokenTree

variable {space : CapSpace}

variable {target : CapTokenId}

/-- A token the counter hands out fresh is under no stored token but the parent it is derived from,
so only that one link is new. -/
theorem WellFormed.revokedLinks_insertFresh (wf : WellFormed space) (links : RevokedLinks space.tree)
    {after : CapTokenTree} (token : CapToken)
    (read : ∀ id, after.get id = if id = space.nextTokenId then some token else space.tree.get id)
    (alive : ∀ parentId parent, token.parentId = some parentId → space.tree.get parentId = some parent →
      parent.revoked = false)
    (notSelf : token.parentId ≠ some space.nextTokenId) : RevokedLinks after := by
  intro id found parentId parent stored link above gone
  rw [read] at stored above
  split_ifs at stored above with same sameParent sameParent
  · cases stored
    exact absurd (sameParent ▸ link) notSelf
  · cases stored
    rw [alive parentId parent link above] at gone
    cases gone
  · obtain ⟨upper, readUpper, -⟩ := wf.derived_token id found parentId stored link
    rw [sameParent, wf.get_fresh] at readUpper
    cases readUpper
  · exact links id found parentId parent stored link above gone

/-- A token newly revoked by a cascade certifies that the target was revocable. -/
theorem WellFormed.revocable_of_reached (wf : WellFormed space) (links : RevokedLinks space.tree) {id : CapTokenId}
    {token : CapToken} (reached : id = target ∨ Ancestor space.tree.parentOf target id)
    (stored : space.tree.get id = some token) (alive : token.revoked = false)
    (destroy : token.rights.has .destroy = true) : ∃ top, space.tree.get target = some top ∧ top.Revocable := by
  obtain rfl | above := reached
  · exact ⟨token, stored, alive, destroy⟩
  · obtain ⟨top, read, contained⟩ := wf.rights_subset above stored
    refine ⟨top, read, ?_, CapRights.has_of_subset contained destroy⟩
    cases gone : top.revoked with
    | false => rfl
    | true =>
      have orphan := links.noLiveOrphan wf target id top token above read stored gone
      rw [alive] at orphan
      cases orphan

theorem WellFormed.revokedLinks_cascade (wf : WellFormed space) (links : RevokedLinks space.tree)
    (destroyable : ∀ top, space.tree.get target = some top → top.Revocable → DestroyableBelow space.tree target) :
    RevokedLinks (space.step (.revokeCascade target)).tree := by
  obtain ⟨after, count, success, inside, outside, -, -⟩ := wf.revokeCascade_total target le_rfl
  simp only [CapSpace.step, success]
  have back : ∀ id token, after.get id = some token → ∃ old, space.tree.get id = some old ∧
      token.parentId = old.parentId ∧ (old.revoked = true → token.revoked = true) ∧
      (token.revoked = true → old.revoked = true ∨
        (id = target ∨ Ancestor space.tree.parentOf target id) ∧ old.rights.has .destroy = true) := by
    intro id token found
    by_cases reached : id = target ∨ Ancestor space.tree.parentOf target id
    · rw [inside id reached] at found
      obtain ⟨old, stored, rfl⟩ := Option.map_eq_some_iff.mp found
      refine ⟨old, stored, old.revoke_parentId, ?_⟩
      rw [old.revoke_revoked]
      cases old.revoked <;> simp [reached]
    · rw [outside id (fun same => reached (.inl same)) (fun above => reached (.inr above))] at found
      exact ⟨token, found, rfl, fun gone => gone, .inl⟩
  intro id token parentId parent stored link above gone
  obtain ⟨old, readOld, sameParent, kept, -⟩ := back id token stored
  obtain ⟨oldParent, readParent, -, -, why⟩ := back parentId parent above
  rw [sameParent] at link
  by_cases before : oldParent.revoked = true
  · exact kept (links id old parentId oldParent readOld link readParent before)
  · -- the parent falls in this cascade, so its child is below a revocable target
    obtain ⟨reached, destroy⟩ := (why gone).resolve_left before
    have alive : oldParent.revoked = false := by simpa using before
    obtain ⟨top, readTop, revocable⟩ := wf.revocable_of_reached links reached readParent alive destroy
    have parentLink : space.tree.parentOf id = some parentId := parentOf_eq_some_iff.mpr ⟨old, readOld, link⟩
    have below : Ancestor space.tree.parentOf target id := by
      obtain rfl | upper := reached
      · exact .single parentLink
      · exact upper.tail parentLink
    have fell : token = old.revoke.1 := by
      rw [inside id (.inr below), readOld] at stored
      exact (Option.some.inj stored).symm
    rw [fell, old.revoke_revoked]
    cases flag : old.revoked with
    | true => rfl
    | false => exact destroyable top readTop revocable id old below readOld (by simp [CapToken.isAlive, flag])

/-- One cascade of a revocable token meets the law exactly when every live descendant can be
destroyed. -/
theorem WellFormed.cascadeRevokes_iff (wf : WellFormed space) {top : CapToken} (read : space.tree.get target = some top)
    (revocable : top.Revocable) : CascadeRevokes space.tree target ↔ DestroyableBelow space.tree target := by
  constructor
  · intro revokes d token above stored alive
    obtain ⟨after, count, success, gone, -⟩ := revokes _ le_rfl
    obtain ⟨after', count', success', inside, -⟩ := wf.revokeCascade_total target le_rfl
    obtain ⟨rfl, rfl⟩ : after = after' ∧ count = count' := by simpa [success] using success'
    obtain ⟨result, found, revoked⟩ := gone d (.inr above)
    rw [inside d (.inr above), stored, Option.map_some, Option.some.injEq] at found
    rw [← found, token.revoke_revoked] at revoked
    simp only [CapToken.isAlive, Bool.not_eq_true'] at alive
    simpa [alive] using revoked
  · intro destroyable fuel enough
    obtain ⟨after, count, success, inside, outside, -⟩ := wf.revokeCascade_total target enough
    refine ⟨after, count, success, ?_, outside⟩
    intro d reached
    rw [inside d reached]
    obtain rfl | above := reached
    · refine ⟨top.revoke.1, by rw [read]; rfl, ?_⟩
      rw [top.revoke_revoked, revocable.2, Bool.or_true]
    · obtain ⟨token, stored⟩ := Option.isSome_iff_exists.mp (wf.get_descendant above)
      refine ⟨token.revoke.1, by rw [stored]; rfl, ?_⟩
      rw [token.revoke_revoked]
      cases flag : token.revoked with
      | true => rfl
      | false => exact destroyable d token above stored (by simp [CapToken.isAlive, flag])

end CapSpace

/-! ## The law over whole runs -/

open CapTokenTree CapSpace

variable (counter : ℕ) (ops : List CapOp)

/-- The cascade law of a run: each cascade of a revocable token revokes exactly its subtree, and no
state on the way has an alive token under a revoked one. -/
def CascadeLaw : Prop :=
  (∀ before target rest top, ops = before ++ .revokeCascade target :: rest →
    (runFrom counter before).tree.get target = some top → top.Revocable →
      CascadeRevokes (runFrom counter before).tree target) ∧
  ∀ before, before <+: ops → NoLiveOrphan (runFrom counter before).tree

/-- Each cascade of a revocable token finds the `Destroy` right on every alive descendant. -/
def CascadesDestroyable : Prop :=
  ∀ before target rest top, ops = before ++ .revokeCascade target :: rest →
    (runFrom counter before).tree.get target = some top → top.Revocable →
      DestroyableBelow (runFrom counter before).tree target

/-- Steps whose cascades are destroyable keep revocation closed under links. -/
theorem CapSpace.WellFormed.revokedLinks_step {space : CapSpace} (wf : space.WellFormed)
    (links : RevokedLinks space.tree) (op : CapOp)
    (destroyable : ∀ target top, op = .revokeCascade target → space.tree.get target = some top →
      top.Revocable → DestroyableBelow space.tree target) :
    RevokedLinks (space.step op).tree := by
  cases op with
  | createRoot label =>
    apply wf.revokedLinks_insertFresh links _ (space.tree.get_createRoot space.nextTokenId label)
    · intro parentId parent link
      cases link
    · simp [CapToken.newRoot]
  | derive parentId mask label =>
    simp only [CapSpace.step]
    split
    · next tree id success =>
      obtain ⟨parent, child, above, derived, -, read, -⟩ := derive_eq_some success
      obtain ⟨alive, -, -, -, rfl⟩ := CapToken.derive_eq_some derived
      have parentKey := wf.keyed parentId parent above
      apply wf.revokedLinks_insertFresh links _ read
      · intro upper found link stored
        obtain rfl : parentId = upper := parentKey.symm.trans (Option.some.inj link)
        obtain rfl : parent = found := Option.some.inj (above.symm.trans stored)
        exact alive
      · simpa [parentKey] using (wf.below_counter parentId parent above).ne
    · exact links
  | revokeCascade target => exact wf.revokedLinks_cascade links fun top => destroyable target top rfl
  | mintElsewhere => exact links

/-- A run meets the cascade law exactly when each of its cascades is destroyable. -/
theorem cascadeLaw_iff : CascadeLaw counter ops ↔ CascadesDestroyable counter ops := by
  constructor
  · rintro ⟨revokes, -⟩ before target rest top split read revocable
    have wf := runFrom_wellFormed counter before
    exact (wf.cascadeRevokes_iff read revocable).mp (revokes before target rest top split read revocable)
  · intro destroyable
    have links : ∀ before, before <+: ops → RevokedLinks (runFrom counter before).tree := by
      apply StepRun.run_invariant_cut fun space : CapSpace => RevokedLinks space.tree
      · intro id token parentId parent stored
        cases stored
      · intro before op rest split links
        apply (runFrom_wellFormed counter before).revokedLinks_step links op
        rintro target top rfl read revocable
        exact destroyable before target rest top split read revocable
    refine ⟨?_, ?_⟩
    · intro before target rest top split read revocable
      exact ((runFrom_wellFormed counter before).cascadeRevokes_iff read revocable).mpr
        (destroyable before target rest top split read revocable)
    · intro before cut
      exact (links before cut).noLiveOrphan (runFrom_wellFormed counter before)

/-- A root, a read-only child, and a cascade of the root: the child stays alive under it. -/
theorem cascadeLaw_readOnlyChild :
    ¬ CascadeLaw 1 [.createRoot "root", .derive 1 ⟨{.read}⟩ "reader", .revokeCascade 1] := by
  intro law
  have orphan := law.2 _ List.prefix_rfl 1 2 _ _ (.single rfl) rfl rfl rfl
  cases orphan

end Aios.Capability
