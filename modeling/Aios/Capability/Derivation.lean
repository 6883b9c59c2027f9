import Aios.Capability.TokenTree

/-! # The derivation forest of a capability tree

`CapSpace.WellFormed` is the joint invariant of the three maps and the counter; every operation
keeps it, whatever ids and masks it is called with. `DerivationForest` is what a user of the tree
sees of it: attenuation along whole ancestor chains, depth as distance to a root, agreement of the
two link maps, and exactness of both traversals.
-/

namespace Aios.Capability

open ParentForest

namespace CapTokenTree

variable {tree after : CapTokenTree} {parentId : CapTokenId} (targets : List CapTokenId) (progress : CapTokenTree × ℕ)
  (target : CapTokenId)

theorem parentOf_eq_some_iff {id : CapTokenId} :
    tree.parentOf id = some parentId ↔
      ∃ token, tree.get id = some token ∧ token.parentId = some parentId := by
  simp only [parentOf, Option.bind_eq_some_iff]

theorem get_createRoot (tree : CapTokenTree) (fresh : CapTokenId) (label : String) (id : CapTokenId) :
    (tree.createRoot fresh label).1.get id =
      if id = fresh then some (CapToken.newRoot fresh label) else tree.get id :=
  Table.lookup_insert_eq _ _ _ _

/-- The two map updates of a successful derivation, with the checks that let it through. -/
theorem derive_eq_some {fresh id : CapTokenId} {mask : CapRights} {label : String}
    (success : tree.derive fresh parentId mask label = some (after, id)) :
    ∃ parent child, tree.get parentId = some parent ∧ parent.derive fresh mask label = some child ∧
      after.roots = tree.roots ∧
      (∀ other, after.get other = if other = child.id then some child else tree.get other) ∧
      ∀ other, after.childrenOf other =
        if other = parentId then tree.childrenOf parentId ++ [child.id] else tree.childrenOf other := by
  obtain ⟨parent, stored, rest⟩ := Option.bind_eq_some_iff.mp success
  obtain ⟨child, derived, rest⟩ := Option.bind_eq_some_iff.mp rest
  cases rest
  refine ⟨parent, child, stored, derived, rfl, ?_, ?_⟩
  · intro other
    exact Table.lookup_insert_eq _ _ _ _
  · intro other
    simp only [childrenOf, Table.lookup_insert_eq]
    split_ifs with same
    · rfl
    · rfl

/-! ## What a cascade does to the maps -/

theorem revokeOne_get (id : CapTokenId) :
    (revokeOne progress target).1.get id =
      if id = target then (progress.1.get id).map (·.revoke.1) else progress.1.get id := by
  unfold revokeOne
  cases stored : progress.1.tokens.lookup target with
  | none =>
    split_ifs with same
    · subst same
      simp only [get, stored, Option.map_none]
    · rfl
  | some token =>
    simp only [get, Table.lookup_insert_eq]
    split_ifs with same
    · subst same
      simp only [stored, Option.map_some]
    · rfl

theorem revokeOne_links :
    (revokeOne progress target).1.children = progress.1.children ∧
      (revokeOne progress target).1.roots = progress.1.roots := by
  unfold revokeOne
  split <;> exact ⟨rfl, rfl⟩

theorem revokeAll_get (id : CapTokenId) :
    (targets.foldl revokeOne progress).1.get id =
      if id ∈ targets then (progress.1.get id).map (·.revoke.1) else progress.1.get id := by
  induction targets generalizing progress with
  | nil => simp
  | cons target rest ih =>
    rw [List.foldl_cons, ih, revokeOne_get]
    by_cases first : id = target
    · subst first
      simp [Function.comp_def, CapToken.revoke_revoke]
    · simp [first]

theorem revokeAll_links :
    (targets.foldl revokeOne progress).1.children = progress.1.children ∧
      (targets.foldl revokeOne progress).1.roots = progress.1.roots := by
  induction targets generalizing progress with
  | nil => exact ⟨rfl, rfl⟩
  | cons target rest ih =>
    rw [List.foldl_cons, (ih _).1, (ih _).2]
    exact revokeOne_links progress target

/-- A cascade applies `revoke` to the target and to every token the walk listed, and leaves the
links alone. -/
theorem revokeCascade_eq {fuel count : ℕ} {target : CapTokenId} {listed : List CapTokenId}
    (walked : tree.descendants fuel target = some listed)
    (success : tree.revokeCascade fuel target = some (after, count)) :
    (∀ id, after.get id =
      if id = target ∨ id ∈ listed then (tree.get id).map (·.revoke.1) else tree.get id) ∧
      after.children = tree.children ∧ after.roots = tree.roots := by
  simp only [revokeCascade, walked, Option.bind_eq_bind, Option.bind_some, Option.some.injEq] at success
  have first : after = (revokeOne (listed.foldl revokeOne (tree, 0)) target).1 := by rw [success]
  subst first
  refine ⟨fun id => ?_, ?_, ?_⟩
  · rw [revokeOne_get, revokeAll_get]
    by_cases same : id = target
    · by_cases member : id ∈ listed <;> simp [same ▸ member, same, Function.comp_def, CapToken.revoke_revoke]
    · simp [same]
  · rw [(revokeOne_links _ _).1, (revokeAll_links _ _).1]
  · rw [(revokeOne_links _ _).2, (revokeAll_links _ _).2]

end CapTokenTree

/-! ## The joint invariant -/

/-- The maps and the counter describe one forest of attenuated tokens. -/
structure CapSpace.WellFormed (space : CapSpace) : Prop where
  keyed : ∀ id token, space.tree.get id = some token → token.id = id
  below_counter : ∀ id token, space.tree.get id = some token → id < space.nextTokenId
  depth_le : ∀ id token, space.tree.get id = some token → token.depth ≤ CapToken.MAX_DEPTH
  root_token : ∀ id token, space.tree.get id = some token → token.parentId = none →
    token.depth = 0 ∧ id ∈ space.tree.roots
  derived_token : ∀ id token parentId, space.tree.get id = some token → token.parentId = some parentId →
    ∃ parent, space.tree.get parentId = some parent ∧ token.rights.rights ⊆ parent.rights.rights ∧
      token.depth = parent.depth + 1 ∧ parentId < id
  children_iff : ∀ parentId id,
    id ∈ space.tree.childrenOf parentId ↔ space.tree.parentOf id = some parentId
  children_nodup : ∀ parentId, (space.tree.childrenOf parentId).Nodup

namespace CapSpace

theorem wellFormed_new (counter : ℕ) : WellFormed (new counter) := by
  refine ⟨?_, ?_, ?_, ?_, ?_, ?_, ?_⟩ <;>
    simp [new, CapTokenTree.new, CapTokenTree.get, CapTokenTree.parentOf, CapTokenTree.childrenOf]

namespace WellFormed

variable {space : CapSpace}

variable {after : CapTokenTree} {a d : CapTokenId} {fuel : ℕ} {token : CapToken}

/-- An id the counter has not handed out is neither stored nor linked. -/
theorem get_fresh (wf : WellFormed space) : space.tree.get space.nextTokenId = none := by
  cases stored : space.tree.get space.nextTokenId with
  | none => rfl
  | some token => exact absurd (wf.below_counter _ _ stored) (Nat.lt_irrefl _)

theorem not_child_fresh (wf : WellFormed space) (parentId : CapTokenId) :
    space.nextTokenId ∉ space.tree.childrenOf parentId := by
  rw [wf.children_iff, CapTokenTree.parentOf, wf.get_fresh]
  simp

theorem mint (wf : WellFormed space) : WellFormed ⟨space.tree, space.nextTokenId + 1⟩ :=
  { wf with below_counter := fun id token stored => Nat.lt_succ_of_lt (wf.below_counter id token stored) }

/-- Storing one token under the fresh id, with its link appended to its parent's children, keeps the
invariant when the token is itself a root at depth zero or attenuates a stored parent. -/
theorem insertFresh (wf : WellFormed space) {after : CapTokenTree} (token : CapToken)
    (key : token.id = space.nextTokenId)
    (read : ∀ id, after.get id = if id = space.nextTokenId then some token else space.tree.get id)
    (linked : ∀ parentId, after.childrenOf parentId =
      space.tree.childrenOf parentId ++ if token.parentId = some parentId then [space.nextTokenId] else [])
    (rootsKept : ∀ id ∈ space.tree.roots, id ∈ after.roots)
    (shallow : token.depth ≤ CapToken.MAX_DEPTH)
    (asRoot : token.parentId = none → token.depth = 0 ∧ space.nextTokenId ∈ after.roots)
    (asChild : ∀ parentId, token.parentId = some parentId →
      ∃ parent, space.tree.get parentId = some parent ∧ token.rights.rights ⊆ parent.rights.rights ∧
        token.depth = parent.depth + 1) :
    WellFormed ⟨after, space.nextTokenId + 1⟩ := by
  have readOld : ∀ id stored, space.tree.get id = some stored → after.get id = some stored := by
    intro id stored found
    rw [read, if_neg (wf.below_counter id stored found).ne, found]
  have parentRead : ∀ id, after.parentOf id =
      if id = space.nextTokenId then token.parentId else space.tree.parentOf id := by
    intro id
    simp only [CapTokenTree.parentOf, read]
    split_ifs <;> rfl
  refine ⟨?_, ?_, ?_, ?_, ?_, ?_, ?_⟩
  · intro id stored found
    rw [read] at found
    split_ifs at found with same
    · cases found
      exact key.trans same.symm
    · exact wf.keyed id stored found
  · intro id stored found
    rw [read] at found
    split_ifs at found with same
    · exact same ▸ Nat.lt_succ_self _
    · exact Nat.lt_succ_of_lt (wf.below_counter id stored found)
  · intro id stored found
    rw [read] at found
    split_ifs at found with same
    · cases found
      exact shallow
    · exact wf.depth_le id stored found
  · intro id stored found top
    rw [read] at found
    split_ifs at found with same
    · cases found
      exact same ▸ asRoot top
    · exact (wf.root_token id stored found top).imp_right (rootsKept id)
  · intro id stored parentId found link
    rw [read] at found
    split_ifs at found with same
    · cases found
      obtain ⟨parent, above, contained, deeper⟩ := asChild parentId link
      exact ⟨parent, readOld _ _ above, contained, deeper, same ▸ wf.below_counter _ _ above⟩
    · obtain ⟨parent, above, rest⟩ := wf.derived_token id stored parentId found link
      exact ⟨parent, readOld _ _ above, rest⟩
  · intro parentId id
    rw [linked, parentRead, List.mem_append, wf.children_iff]
    split_ifs with link same same
    · simp [link, same, CapTokenTree.parentOf, wf.get_fresh]
    · simp [same]
    · simp [link, same, CapTokenTree.parentOf, wf.get_fresh]
    · simp
  · intro parentId
    rw [linked]
    refine List.Nodup.append (wf.children_nodup parentId) ?_ ?_
    · split_ifs <;> simp
    · split_ifs
      · simpa using wf.not_child_fresh parentId
      · simp

theorem createRoot (wf : WellFormed space) (label : String) :
    WellFormed ⟨(space.tree.createRoot space.nextTokenId label).1, space.nextTokenId + 1⟩ := by
  apply wf.insertFresh (CapToken.newRoot space.nextTokenId label)
  · rfl
  · exact space.tree.get_createRoot space.nextTokenId label
  · intro parentId
    exact (List.append_nil _).symm
  · exact fun id member => List.mem_append_left _ member
  · exact Nat.zero_le _
  · exact fun _ => ⟨rfl, List.mem_append_right _ (List.mem_singleton.mpr rfl)⟩
  · intro parentId link
    cases link

theorem derive (wf : WellFormed space) {id parentId : CapTokenId} {mask : CapRights} {label : String}
    (success : space.tree.derive space.nextTokenId parentId mask label = some (after, id)) :
    WellFormed ⟨after, space.nextTokenId + 1⟩ := by
  obtain ⟨parent, child, above, derived, rootsSame, read, linked⟩ := CapTokenTree.derive_eq_some success
  obtain ⟨-, contained, -, shallow, rfl⟩ := CapToken.derive_eq_some derived
  have parentKey := wf.keyed parentId parent above
  apply wf.insertFresh _ rfl read
  · intro upper
    rw [linked]
    by_cases same : upper = parentId
    · simp [same, parentKey]
    · simp [same, parentKey, eq_comm (a := parentId)]
  · exact fun root member => rootsSame ▸ member
  · exact shallow
  · intro top
    cases top
  · intro upper link
    obtain rfl : parentId = upper := parentKey.symm.trans (Option.some.inj link)
    exact ⟨parent, above, contained, rfl⟩

/-- The invariant reads nothing of a token but what revocation leaves unchanged. -/
theorem of_revocations (wf : WellFormed space) (rev : CapTokenId → Bool)
    (read : ∀ id, after.get id = if rev id then (space.tree.get id).map (·.revoke.1) else space.tree.get id)
    (childrenSame : after.children = space.tree.children) (rootsSame : after.roots = space.tree.roots) :
    WellFormed ⟨after, space.nextTokenId⟩ := by
  have back : ∀ id token, after.get id = some token → ∃ old, space.tree.get id = some old ∧
      token.id = old.id ∧ token.depth = old.depth ∧ token.parentId = old.parentId ∧
      token.rights = old.rights := by
    intro id token found
    rw [read] at found
    split_ifs at found
    · obtain ⟨old, stored, rfl⟩ := Option.map_eq_some_iff.mp found
      exact ⟨old, stored, by simp⟩
    · exact ⟨token, found, by simp⟩
  have parentSame : ∀ id, after.parentOf id = space.tree.parentOf id := by
    intro id
    simp only [CapTokenTree.parentOf, read]
    split_ifs
    · cases space.tree.get id <;> simp
    · rfl
  refine ⟨?_, ?_, ?_, ?_, ?_, ?_, ?_⟩
  · intro id token found
    obtain ⟨old, stored, sameId, -⟩ := back id token found
    exact sameId.trans (wf.keyed id old stored)
  · intro id token found
    obtain ⟨old, stored, -⟩ := back id token found
    exact wf.below_counter id old stored
  · intro id token found
    obtain ⟨old, stored, -, sameDepth, -⟩ := back id token found
    exact sameDepth ▸ wf.depth_le id old stored
  · intro id token found top
    obtain ⟨old, stored, -, sameDepth, sameParent, -⟩ := back id token found
    rw [sameDepth, rootsSame]
    exact wf.root_token id old stored (sameParent ▸ top)
  · intro id token parentId found link
    obtain ⟨old, stored, -, sameDepth, sameParent, sameRights⟩ := back id token found
    obtain ⟨parent, above, contained, deeper, older⟩ :=
      wf.derived_token id old parentId stored (sameParent ▸ link)
    rw [sameDepth, sameRights]
    refine ⟨if rev parentId then parent.revoke.1 else parent, ?_, ?_, ?_, older⟩
    · rw [read, above]
      split_ifs <;> rfl
    · split_ifs <;> simpa using contained
    · split_ifs <;> simpa using deeper
  · intro parentId id
    rw [parentSame, CapTokenTree.childrenOf, childrenSame]
    exact wf.children_iff parentId id
  · intro parentId
    rw [CapTokenTree.childrenOf, childrenSame]
    exact wf.children_nodup parentId

/-- The stored tokens form a well-formed forest in which ids rank the nodes. -/
theorem forest (wf : WellFormed space) :
    ParentForest.WellFormed space.tree.tokens.keys.toFinset space.tree.parentOf space.tree.childrenOf id := by
  have member : ∀ id token, space.tree.get id = some token → id ∈ space.tree.tokens.keys.toFinset := by
    intro id token stored
    rw [List.mem_toFinset, Table.mem_keys_iff]
    exact Option.isSome_of_eq_some stored
  refine ⟨wf.children_iff, wf.children_nodup, ?_, ?_, ?_⟩ <;> intro a b link <;>
    obtain ⟨token, stored, parentLink⟩ := CapTokenTree.parentOf_eq_some_iff.mp link <;>
    obtain ⟨parent, above, -, -, older⟩ := wf.derived_token b token a stored parentLink
  · exact member b token stored
  · exact member a parent above
  · exact older

theorem card_nodes (tree : CapTokenTree) : tree.tokens.keys.toFinset.card = tree.len :=
  List.toFinset_card_of_nodup tree.tokens.keys_nodup

theorem get_descendant (wf : WellFormed space) (above : Ancestor space.tree.parentOf a d) :
    (space.tree.get d).isSome := by
  have member := wf.forest.descendant_mem above
  rwa [List.mem_toFinset, Table.mem_keys_iff] at member

/-- The stack walk lists the proper descendants, each once, on any fuel from the token count on. -/
theorem descendants_exact (wf : WellFormed space) (target : CapTokenId) (enough : space.tree.len ≤ fuel) :
    ∃ listed, space.tree.descendants fuel target = some listed ∧ listed.Nodup ∧
      ∀ d, d ∈ listed ↔ Ancestor space.tree.parentOf target d :=
  drain_children wf.forest target ((card_nodes space.tree).trans_le enough)

/-- A cascade always ends, and it applies `revoke` to the target and its descendants. -/
theorem revokeCascade_total (wf : WellFormed space) (target : CapTokenId) (enough : space.tree.len ≤ fuel) :
    ∃ after count, space.tree.revokeCascade fuel target = some (after, count) ∧
      (∀ d, d = target ∨ Ancestor space.tree.parentOf target d →
        after.get d = (space.tree.get d).map (·.revoke.1)) ∧
      (∀ d, d ≠ target → ¬ Ancestor space.tree.parentOf target d → after.get d = space.tree.get d) ∧
      after.children = space.tree.children ∧ after.roots = space.tree.roots := by
  obtain ⟨listed, walked, -, exactly⟩ := wf.descendants_exact target enough
  obtain ⟨after, count, success⟩ : ∃ after count, space.tree.revokeCascade fuel target = some (after, count) := by
    simp only [CapTokenTree.revokeCascade, walked, Option.bind_eq_bind, Option.bind_some]
    exact ⟨_, _, rfl⟩
  obtain ⟨read, childrenSame, rootsSame⟩ := CapTokenTree.revokeCascade_eq walked success
  refine ⟨after, count, success, ?_, ?_, childrenSame, rootsSame⟩
  · intro d reached
    rw [read, if_pos (reached.imp_right (exactly d).mpr)]
  · intro d other outside
    rw [read, if_neg (not_or.mpr ⟨other, fun member => outside ((exactly d).mp member)⟩)]

/-- Every operation keeps the invariant, whatever its arguments. -/
theorem step (wf : WellFormed space) (op : CapOp) : WellFormed (space.step op) := by
  cases op with
  | createRoot label => exact wf.createRoot label
  | derive parentId mask label =>
    simp only [CapSpace.step]
    split
    · next success => exact wf.derive success
    · exact wf
  | revokeCascade target =>
    obtain ⟨listed, walked, -, -⟩ := wf.descendants_exact target le_rfl
    obtain ⟨after, count, success, -⟩ := wf.revokeCascade_total target le_rfl
    obtain ⟨read, childrenSame, rootsSame⟩ := CapTokenTree.revokeCascade_eq walked success
    simp only [CapSpace.step, success]
    exact wf.of_revocations (fun id => decide (id = target ∨ id ∈ listed)) (by simpa using read)
      childrenSame rootsSame
  | mintElsewhere => exact wf.mint

/-- Rights shrink along whole ancestor chains, not only along one link. -/
theorem rights_subset (wf : WellFormed space) (above : Ancestor space.tree.parentOf a d)
    (stored : space.tree.get d = some token) :
    ∃ upper, space.tree.get a = some upper ∧ token.rights.rights ⊆ upper.rights.rights := by
  induction above generalizing token with
  | single link =>
    obtain ⟨found, stored', parentLink⟩ := CapTokenTree.parentOf_eq_some_iff.mp link
    obtain rfl : found = token := Option.some.inj (stored'.symm.trans stored)
    obtain ⟨upper, read, contained, -⟩ := wf.derived_token _ _ _ stored parentLink
    exact ⟨upper, read, contained⟩
  | tail _ link ih =>
    obtain ⟨found, stored', parentLink⟩ := CapTokenTree.parentOf_eq_some_iff.mp link
    obtain rfl : found = token := Option.some.inj (stored'.symm.trans stored)
    obtain ⟨middle, read, contained, -⟩ := wf.derived_token _ _ _ stored parentLink
    obtain ⟨upper, readUpper, containedUpper⟩ := ih read
    exact ⟨upper, readUpper, contained.trans containedUpper⟩

/-- The depth field counts the links up to a root. -/
theorem depth_distance (wf : WellFormed space) {id : CapTokenId} (stored : space.tree.get id = some token) :
    ∃ root ∈ space.tree.roots, linksUp space.tree.parentOf token.depth id = some root ∧
      space.tree.parentOf root = none := by
  let depthOf := fun other => ((space.tree.get other).map CapToken.depth).getD 0
  have closed : ∀ a b, (space.tree.get b).isSome → space.tree.parentOf b = some a →
      (space.tree.get a).isSome ∧ depthOf b = depthOf a + 1 := by
    intro a b _ link
    obtain ⟨lower, found, parentLink⟩ := CapTokenTree.parentOf_eq_some_iff.mp link
    obtain ⟨upper, above, -, deeper, -⟩ := wf.derived_token b lower a found parentLink
    simp [depthOf, found, above, deeper]
  have parentless : ∀ a, (space.tree.get a).isSome → space.tree.parentOf a = none →
      depthOf a = 0 ∧ a ∈ space.tree.roots := by
    intro a found top
    obtain ⟨rootToken, read⟩ := Option.isSome_iff_exists.mp found
    rw [CapTokenTree.parentOf, read, Option.bind_some] at top
    simpa [depthOf, read] using wf.root_token a rootToken read top
  obtain ⟨root, up, inside, top⟩ := linksUp_height depthOf (fun a => (space.tree.get a).isSome) closed
    (fun a found top => (parentless a found top).1) (Option.isSome_of_eq_some stored)
  refine ⟨root, (parentless root inside top).2, ?_, top⟩
  simpa [depthOf, stored] using up

/-- The walk up the parent chain ends at a root for every stored token. -/
theorem isReachable_stored (wf : WellFormed space) {id : CapTokenId} (stored : space.tree.get id = some token)
    (enough : space.tree.len ≤ fuel) : space.tree.isReachable fuel id = some true := by
  simp only [CapTokenTree.isReachable, stored]
  cases link : token.parentId with
  | none =>
    have member := (wf.root_token id token stored link).2
    simp [member]
  | some parentId =>
    obtain ⟨parent, above, -⟩ := wf.derived_token id token parentId stored link
    have inside : parentId ∈ space.tree.tokens.keys.toFinset := by
      rw [List.mem_toFinset, Table.mem_keys_iff]
      exact Option.isSome_of_eq_some above
    rw [if_neg (by simp)]
    apply wf.forest.climb_true _ inside ((card_nodes space.tree).trans_le enough)
    intro a member top
    rw [List.mem_toFinset, Table.mem_keys_iff] at member
    obtain ⟨rootToken, read⟩ := Option.isSome_iff_exists.mp member
    have parentless : rootToken.parentId = none := by
      rw [CapTokenTree.parentOf] at top
      change (space.tree.get a).bind CapToken.parentId = none at top
      have read' : space.tree.get a = some rootToken := read
      rwa [read', Option.bind_some] at top
    simpa using (wf.root_token a rootToken read parentless).2

/-- What an operation leaves of a stored token. -/
theorem get_step (wf : WellFormed space) (op : CapOp) {id : CapTokenId} (stored : space.tree.get id = some token) :
    ∃ later, (space.step op).tree.get id = some later ∧ token.Kept later := by
  have old : id ≠ space.nextTokenId := by
    rintro rfl
    rw [wf.get_fresh] at stored
    cases stored
  cases op with
  | createRoot label =>
    refine ⟨token, ?_, .refl⟩
    rw [CapSpace.step, CapTokenTree.get_createRoot, if_neg old, stored]
  | derive parentId mask label =>
    refine ⟨token, ?_, .refl⟩
    rw [CapSpace.step]
    split
    · next tree child success =>
      obtain ⟨parent, made, -, derived, -, read, -⟩ := CapTokenTree.derive_eq_some success
      obtain ⟨-, -, -, -, rfl⟩ := CapToken.derive_eq_some derived
      rw [read, if_neg old, stored]
    · exact stored
  | revokeCascade target =>
    obtain ⟨after, count, success, hit, spared, -⟩ := wf.revokeCascade_total target le_rfl
    simp only [CapSpace.step, success]
    by_cases reached : id = target ∨ Ancestor space.tree.parentOf target id
    · exact ⟨token.revoke.1, by rw [hit id reached, stored]; rfl, .revoke⟩
    · rw [not_or] at reached
      exact ⟨token, (spared id reached.1 reached.2).trans stored, .refl⟩
  | mintElsewhere => exact ⟨token, stored, .refl⟩

end WellFormed

theorem runFrom_wellFormed (counter : ℕ) (ops : List CapOp) : WellFormed (runFrom counter ops) :=
  StepRun.run_invariant _ (fun _ op wf => wf.step op) (wellFormed_new counter) ops

/-- No operation takes a token away or changes its rights, its parent or its depth. A revoked token stays revoked, and
one without the right to destroy is never revoked. -/
theorem token_kept (counter : ℕ) (ops later : List CapOp) {id : CapTokenId} {token : CapToken}
    (stored : (runFrom counter ops).tree.get id = some token) :
    ∃ kept, (runFrom counter (ops ++ later)).tree.get id = some kept ∧ token.Kept kept := by
  rw [runFrom, StepRun.run_append]
  refine (StepRun.run_invariant
    (fun space => WellFormed space ∧ ∃ kept, space.tree.get id = some kept ∧ token.Kept kept) ?_
    ⟨runFrom_wellFormed counter ops, token, stored, .refl⟩ later).2
  rintro space op ⟨wf, middle, held, kept⟩
  obtain ⟨last, found, moved⟩ := wf.get_step op held
  exact ⟨wf.step op, last, found, kept.trans moved⟩

/-- A root that is revoked, and then revoked again and derived from. -/
theorem token_kept_revoked :
    ∃ kept, (runFrom 1 ([.createRoot "r", .revokeCascade 1] ++ [.revokeCascade 1, .derive 1 .full "c"])).tree.get 1 =
      some kept ∧ CapToken.Kept { CapToken.newRoot 1 "r" with revoked := true } kept :=
  token_kept 1 [.createRoot "r", .revokeCascade 1] [.revokeCascade 1, .derive 1 .full "c"] rfl

/-- The tree's own attenuation audit never reports anything. -/
theorem verifyAttenuation_nil (counter : ℕ) (ops : List CapOp) : (runFrom counter ops).tree.verifyAttenuation = [] := by
  have wf := runFrom_wellFormed counter ops
  rw [CapTokenTree.verifyAttenuation, List.filterMap_eq_nil_iff]
  rintro ⟨id, token⟩ member
  have stored : (runFrom counter ops).tree.get id = some token := AList.mem_lookup_iff.mpr member
  cases link : token.parentId with
  | none => simp [link]
  | some parentId =>
    obtain ⟨parent, above, contained, -⟩ := wf.derived_token id token parentId stored link
    have read : (runFrom counter ops).tree.tokens.lookup parentId = some parent := above
    simp [link, read, CapRights.isSupersetOf, contained]

end CapSpace

/-! ## The forest as its users see it -/

/-- Every law of the derivation forest that the tree's queries expose. -/
structure DerivationForest (tree : CapTokenTree) : Prop where
  /-- A stored token's rights are within the rights of each of its ancestors. -/
  attenuated : ∀ a d token, Ancestor tree.parentOf a d → tree.get d = some token →
    ∃ upper, tree.get a = some upper ∧ token.rights.rights ⊆ upper.rights.rights
  /-- The depth of a token is its number of links up to a root. -/
  depth_distance : ∀ id token, tree.get id = some token →
    ∃ root ∈ tree.roots, linksUp tree.parentOf token.depth id = some root ∧ tree.parentOf root = none
  depth_le : ∀ id token, tree.get id = some token → token.depth ≤ CapToken.MAX_DEPTH
  /-- The children map and the parent links say the same, without repetition. -/
  links_agree : ∀ parentId id, id ∈ tree.childrenOf parentId ↔ tree.parentOf id = some parentId
  links_nodup : ∀ parentId, (tree.childrenOf parentId).Nodup
  acyclic : ∀ id, ¬ Ancestor tree.parentOf id id
  /-- The reachability walk ends, and accepts every stored token. -/
  reachable : ∀ id token, tree.get id = some token →
    ∀ fuel, tree.len ≤ fuel → tree.isReachable fuel id = some true
  /-- The descendants walk ends, and lists the proper descendants once each. -/
  descendants_exact : ∀ id fuel, tree.len ≤ fuel →
    ∃ listed, tree.descendants fuel id = some listed ∧ listed.Nodup ∧
      ∀ d, d ∈ listed ↔ (tree.get d).isSome ∧ Ancestor tree.parentOf id d

/-- Every sequence of operations, with arbitrary ids and masks, leaves a derivation forest. -/
theorem runFrom_derivationForest (counter : ℕ) (ops : List CapOp) :
    DerivationForest (CapSpace.runFrom counter ops).tree := by
  have wf := CapSpace.runFrom_wellFormed counter ops
  refine
    { attenuated := fun a d token above stored => wf.rights_subset above stored
      depth_distance := fun id token stored => wf.depth_distance stored
      depth_le := wf.depth_le
      links_agree := wf.children_iff
      links_nodup := wf.children_nodup
      acyclic := fun id => wf.forest.ancestor_irrefl
      reachable := fun id token stored fuel enough => wf.isReachable_stored stored enough
      descendants_exact := ?_ }
  intro id fuel enough
  obtain ⟨listed, walked, nodup, exactly⟩ := wf.descendants_exact id enough
  refine ⟨listed, walked, nodup, fun d => ?_⟩
  rw [exactly]
  exact ⟨fun above => ⟨wf.get_descendant above, above⟩, And.right⟩

end Aios.Capability
