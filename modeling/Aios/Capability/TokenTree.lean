import Mathlib.Data.Finset.Basic
import Aios.Lib.Forest
import Aios.Lib.Run
import Aios.Lib.Table

/-! # Capability tokens and their derivation tree

The embedding of `sel4_cap_model.rs`: rights, tokens, and the tree of three maps (`tokens`,
`children`, `roots`) with its operations. Token ids come from one process-wide counter that every
tree shares, so a tree together with the counter forms the state of a run and other users of the
counter appear as an operation of their own. The counter is unbounded here; the source's `u64`
would wrap only after `2 ^ 64` tokens have been minted.

The source's `while` loops take fuel. Running out is `none`; the derivation-forest results show
that the number of stored tokens is always enough.
-/

namespace Aios.Capability

/-- Individual rights a capability token can grant. -/
inductive CapRight where
  | read
  | write
  | execute
  | grant
  | destroy
  | transfer
deriving DecidableEq, Repr

/-- A set of capability rights. -/
structure CapRights where
  rights : Finset CapRight
deriving DecidableEq

namespace CapRights

variable (self : CapRights)

def full : CapRights := ⟨{.read, .write, .execute, .grant, .destroy, .transfer}⟩

def empty : CapRights := ⟨∅⟩

def has (right : CapRight) : Bool := decide (right ∈ self.rights)

/-- The mask itself, if it asks for nothing beyond `self`. -/
def attenuate (mask : CapRights) : Option CapRights :=
  if mask.rights ⊆ self.rights then some ⟨mask.rights⟩ else none

def isSupersetOf (other : CapRights) : Bool := decide (other.rights ⊆ self.rights)

theorem attenuate_eq_some {self mask result : CapRights} (success : self.attenuate mask = some result) :
    result = mask ∧ mask.rights ⊆ self.rights := by
  unfold attenuate at success
  split_ifs at success with contained
  cases success
  exact ⟨rfl, contained⟩

theorem has_of_subset {small large : CapRights} (contained : small.rights ⊆ large.rights)
    {right : CapRight} (held : small.has right = true) : large.has right = true := by
  simp only [has, decide_eq_true_eq] at held ⊢
  exact contained held

end CapRights

abbrev CapTokenId := ℕ

structure CapToken where
  id : CapTokenId
  rights : CapRights
  parentId : Option CapTokenId
  depth : ℕ
  revoked : Bool
  label : String
deriving DecidableEq

namespace CapToken

variable (self : CapToken)

/-- Maximum derivation depth. -/
def MAX_DEPTH : ℕ := 16

def newRoot (id : CapTokenId) (label : String) : CapToken :=
  { id, rights := CapRights.full, parentId := none, depth := 0, revoked := false, label }

/-- Derive a child with attenuated rights; `id` is the counter value minted on success. -/
def derive (id : CapTokenId) (mask : CapRights) (label : String) : Option CapToken :=
  if self.revoked then none
  else do
    let attenuated ← self.rights.attenuate mask
    if !self.rights.has .grant then none
    else if self.depth ≥ MAX_DEPTH then none
    else some { id, rights := attenuated, parentId := some self.id, depth := self.depth + 1,
                revoked := false, label }

/-- Revoke the token; the answer says whether this call revoked it. -/
def revoke : CapToken × Bool :=
  if self.revoked then (self, false)
  else if !self.rights.has .destroy then (self, false)
  else ({ self with revoked := true }, true)

def isAlive : Bool := !self.revoked

/-- A token its own `revoke` call would revoke. -/
def Revocable : Prop := self.revoked = false ∧ self.rights.has .destroy = true

instance (self : CapToken) : Decidable self.Revocable := inferInstanceAs (Decidable (_ ∧ _))

theorem derive_eq_some {self child : CapToken} {id : CapTokenId} {mask : CapRights} {label : String}
    (success : self.derive id mask label = some child) :
    self.revoked = false ∧ mask.rights ⊆ self.rights.rights ∧ self.rights.has .grant = true ∧
      self.depth < MAX_DEPTH ∧
      child = { id, rights := mask, parentId := some self.id, depth := self.depth + 1,
                revoked := false, label } := by
  unfold derive at success
  by_cases revoked : self.revoked = true
  · simp [revoked] at success
  rw [if_neg revoked] at success
  obtain ⟨attenuated, masked, built⟩ := Option.bind_eq_some_iff.mp success
  obtain ⟨rfl, contained⟩ := CapRights.attenuate_eq_some masked
  split_ifs at built with granted deep
  cases built
  exact ⟨by simpa using revoked, contained, by simpa using granted, Nat.lt_of_not_ge deep, rfl⟩

theorem revoke_revoked : self.revoke.1.revoked = (self.revoked || self.rights.has .destroy) := by
  unfold revoke
  split_ifs with revoked destroy <;> simp_all

/-- Revocation touches the `revoked` flag and nothing else. -/
theorem revoke_frame : self.revoke.1 = { self with revoked := self.revoke.1.revoked } := by
  unfold revoke
  split_ifs <;> rfl

@[simp] theorem revoke_id : self.revoke.1.id = self.id := by rw [revoke_frame]
@[simp] theorem revoke_rights : self.revoke.1.rights = self.rights := by rw [revoke_frame]
@[simp] theorem revoke_parentId : self.revoke.1.parentId = self.parentId := by
  rw [revoke_frame]
@[simp] theorem revoke_depth : self.revoke.1.depth = self.depth := by rw [revoke_frame]

theorem revoke_revoke : self.revoke.1.revoke.1 = self.revoke.1 := by
  have settled : self.revoke.1.revoke.1.revoked = self.revoke.1.revoked := by
    rw [revoke_revoked, revoke_rights, revoke_revoked, Bool.or_assoc, Bool.or_self]
  rw [revoke_frame self.revoke.1, settled]

/-- What may become of a token: all but the revocation stays, a revoked token stays revoked, and one without the right
to destroy is not revoked. -/
structure Kept (token later : CapToken) : Prop where
  same : later = { token with revoked := later.revoked }
  revoked : token.revoked = true → later.revoked = true
  spared : token.rights.has .destroy = false → later.revoked = token.revoked

variable {token later last : CapToken}

theorem Kept.refl : token.Kept token := ⟨rfl, fun held => held, fun _ => rfl⟩

theorem Kept.trans (first : token.Kept later) (second : later.Kept last) : token.Kept last := by
  have rights : later.rights = token.rights := by rw [first.same]
  refine ⟨?_, fun held => second.revoked (first.revoked held), fun spared => ?_⟩
  · rw [second.same, first.same]
  · rw [second.spared (rights ▸ spared), first.spared spared]

theorem Kept.revoke : token.Kept token.revoke.1 := by
  refine ⟨revoke_frame token, fun held => ?_, fun spared => ?_⟩
  · rw [revoke_revoked, held, Bool.true_or]
  · rw [revoke_revoked, spared, Bool.or_false]

end CapToken

/-- The three maps of a capability derivation tree. -/
structure CapTokenTree where
  tokens : Table CapTokenId CapToken := ∅
  children : Table CapTokenId (List CapTokenId) := ∅
  roots : List CapTokenId := []

namespace CapTokenTree

variable (self : CapTokenTree)

def new : CapTokenTree := {}

def createRoot (id : CapTokenId) (label : String) : CapTokenTree × CapTokenId :=
  let token := CapToken.newRoot id label
  ({ self with roots := self.roots ++ [token.id], tokens := self.tokens.insert token.id token }, token.id)

/-- `children.get(id)`, an absent entry being read as no children. -/
def childrenOf (id : CapTokenId) : List CapTokenId :=
  (self.children.lookup id).getD []

def derive (id parentId : CapTokenId) (mask : CapRights) (label : String) : Option (CapTokenTree × CapTokenId) := do
  let parent ← self.tokens.lookup parentId
  let child ← parent.derive id mask label
  some ({ self with
          children := self.children.insert parentId (self.childrenOf parentId ++ [child.id])
          tokens := self.tokens.insert child.id child }, child.id)

/-- All descendant ids of a token, in the order the explicit stack pops them. -/
def descendants (fuel : ℕ) (tokenId : CapTokenId) : Option (List CapTokenId) :=
  ParentForest.drain self.childrenOf fuel (self.childrenOf tokenId).reverse

/-- `tokens.get_mut(id)` followed by `token.revoke()`, with the running count. -/
def revokeOne (progress : CapTokenTree × ℕ) (tokenId : CapTokenId) : CapTokenTree × ℕ :=
  match progress.1.tokens.lookup tokenId with
  | none => progress
  | some token =>
      ({ progress.1 with tokens := progress.1.tokens.insert tokenId token.revoke.1 },
        if token.revoke.2 then progress.2 + 1 else progress.2)

/-- Revoke the descendants first, then the target; the count is the number of tokens this call
revoked. -/
def revokeCascade (fuel : ℕ) (tokenId : CapTokenId) : Option (CapTokenTree × ℕ) := do
  let toRevoke ← self.descendants fuel tokenId
  some (revokeOne (toRevoke.foldl revokeOne (self, 0)) tokenId)

def get (tokenId : CapTokenId) : Option CapToken := self.tokens.lookup tokenId

/-- The stored parent link of an id. -/
def parentOf (tokenId : CapTokenId) : Option CapTokenId :=
  (self.get tokenId).bind CapToken.parentId

/-- Non-forgeability check: walk up the parent chain to a root. -/
def isReachable (fuel : ℕ) (tokenId : CapTokenId) : Option Bool :=
  match self.get tokenId with
  | none => some false
  | some token =>
      if token.parentId.isNone && self.roots.contains tokenId then some true
      else ParentForest.climb self.parentOf (fun id => self.roots.contains id) fuel token.parentId

/-- Child and parent id of every stored token whose rights are not within its parent's. -/
def verifyAttenuation : List (CapTokenId × CapTokenId) :=
  self.tokens.entries.filterMap fun ⟨childId, token⟩ => do
    let parentId ← token.parentId
    let parent ← self.tokens.lookup parentId
    if parent.rights.isSupersetOf token.rights then none else some (childId, parentId)

def len : ℕ := self.tokens.keys.length

end CapTokenTree

/-! ## Runs -/

/-- A tree and the process-wide token counter. -/
structure CapSpace where
  tree : CapTokenTree
  nextTokenId : ℕ

inductive CapOp where
  | createRoot (label : String)
  | derive (parentId : CapTokenId) (mask : CapRights) (label : String)
  | revokeCascade (tokenId : CapTokenId)
  /-- Another holder of the counter mints an id. -/
  | mintElsewhere

namespace CapSpace

/-- A new tree, made when the counter stands at `counter`. -/
def new (counter : ℕ) : CapSpace := ⟨CapTokenTree.new, counter⟩

def step (space : CapSpace) : CapOp → CapSpace
  | .createRoot label =>
      ⟨(space.tree.createRoot space.nextTokenId label).1, space.nextTokenId + 1⟩
  | .derive parentId mask label =>
      match space.tree.derive space.nextTokenId parentId mask label with
      | some (tree, _) => ⟨tree, space.nextTokenId + 1⟩
      | none => space
  | .revokeCascade tokenId =>
      match space.tree.revokeCascade space.tree.len tokenId with
      | some (tree, _) => ⟨tree, space.nextTokenId⟩
      | none => space
  | .mintElsewhere => ⟨space.tree, space.nextTokenId + 1⟩

/-- The state after a sequence of operations on a new tree. -/
def runFrom (counter : ℕ) (ops : List CapOp) : CapSpace := StepRun.run step (new counter) ops

end CapSpace

end Aios.Capability
