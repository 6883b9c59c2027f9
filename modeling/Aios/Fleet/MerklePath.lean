import Aios.Fleet.MerkleInclusion

/-! # The loops of the Merkle tree

`build_merkle_tree`, `build_merkle_proof` and `compute_merkle_root_from_proof` as they are written: three loops with
their indexing, each of which may step outside a level. All three follow the levels of the one tree, so none does, and
the path of every leaf leads to the root that both of the others return.
-/

namespace Aios.Fleet.MerklePath

open Merkle

/-- How a loop may end without a result. -/
inductive LoopFault where
  /-- An index panics. -/
  | outOfRange (index length : ℕ)
  /-- Not a fault of the code: a loop ran longer than its bound. -/
  | outOfFuel
  deriving DecidableEq, Repr

variable (codec : Codec)

section

variable (current leaves : List Hash)

/-! ## Levels -/

/-- `level[index]`. -/
def indexed {α : Type} (level : List α) (index : ℕ) : Except LoopFault α :=
  match level[index]? with
  | some item => .ok item
  | none => .error (.outOfRange index level.length)

/-- `slice::chunks(2)`. -/
def chunksOfTwo {α : Type} : List α → List (List α)
  | [] => []
  | [last] => [[last]]
  | left :: right :: rest => [left, right] :: chunksOfTwo rest

/-- The body of the `for` loop over the chunks. -/
def chunkHash (chunk : List Hash) : Except LoopFault Hash := do
  let left ← indexed chunk 0
  let right := chunk[1]?.getD left
  return codec.blake3 (joinHashes left right)

def nextLevel : Except LoopFault (List Hash) := (chunksOfTwo current).mapM (chunkHash codec)

/-- `current.into_iter().next()`, or the hash of nothing. -/
def rootOf : Hash :=
  match current with
  | root :: _ => root
  | [] => codec.blake3 ""

/-! ## The three loops -/

/-- The `while` loop of `build_merkle_tree`. -/
def treeLoop : ℕ → List Hash → Except LoopFault (List Hash)
  | 0, current => if 1 < current.length then .error .outOfFuel else .ok current
  | fuel + 1, current =>
    if 1 < current.length then do
      let next ← nextLevel codec current
      treeLoop fuel next
    else .ok current

def buildMerkleTree : Except LoopFault Hash := do
  let current ← treeLoop codec leaves.length leaves
  return rootOf codec current

/-- The label that is pushed for a level: the one beside `idx`, or `current[idx]` where there is none. -/
def siblingAt (idx : ℕ) : Except LoopFault Hash :=
  let siblingIdx := if idx % 2 = 0 then idx + 1 else idx - 1
  match current[siblingIdx]? with
  | some sibling => .ok sibling
  | none => indexed current idx

/-- The `while` loop of `build_merkle_proof`. -/
def proofLoop : ℕ → List Hash → List Hash → ℕ → Except LoopFault (List Hash × List Hash)
  | 0, siblings, current, _ => if 1 < current.length then .error .outOfFuel else .ok (siblings, current)
  | fuel + 1, siblings, current, idx =>
    if 1 < current.length then do
      let sibling ← siblingAt current idx
      let next ← nextLevel codec current
      proofLoop fuel (siblings ++ [sibling]) next (idx / 2)
    else .ok (siblings, current)

def buildMerkleProof (leafIndex : ℕ) : Except LoopFault (List Hash × Hash) := do
  let (siblings, current) ← proofLoop codec leaves.length [] leaves leafIndex
  return (siblings, rootOf codec current)

/-- One round of the `for` loop of `compute_merkle_root_from_proof`. -/
def pathStep (state : Hash × ℕ) (sibling : Hash) : Hash × ℕ :=
  let (current, index) := state
  let combined := if index % 2 = 0 then joinHashes current sibling else joinHashes sibling current
  (codec.blake3 combined, index / 2)

def computeMerkleRootFromProof (leafHash : Hash) (siblings : List Hash) (index : ℕ) : Hash :=
  (siblings.foldl (pathStep codec) (leafHash, index)).1

/-! ## One tree -/

end

variable {codec}

variable {level : List Hash} {fuel index : ℕ}

/-- A chunk is never empty, so its first item is there. -/
theorem nextLevel_eq (current : List Hash) : nextLevel codec current = .ok (codec.scheme.levelUp current) := by
  rw [nextLevel, Scheme.levelUp]
  induction current using Scheme.levelTexts.induct with
  | case1 => rfl
  | case2 last => rfl
  | case3 left right rest ih =>
    rw [chunksOfTwo, List.mapM_cons, ih]
    rfl

theorem treeLoop_eq {current : List Hash} (enough : current.length ≤ fuel + 1) :
    treeLoop codec fuel current = .ok (codec.scheme.rise fuel current) := by
  induction fuel generalizing current with
  | zero => exact if_neg (Nat.not_lt.mpr enough)
  | succ fuel ih =>
    rw [treeLoop, Scheme.rise]
    split_ifs with many
    · have shorter : (codec.scheme.levelUp current).length ≤ fuel + 1 := by
        rw [Scheme.levelUp, List.length_map, Scheme.levelTexts_length]
        omega
      rw [nextLevel_eq]
      exact ih shorter
    · rfl

/-- No index is out of range at a place that the level has. -/
theorem siblingAt_eq {sibling : Hash} (beside : Scheme.neighbour level index = some sibling) :
    siblingAt level index = .ok sibling := by
  rw [Scheme.neighbour] at beside
  rw [siblingAt]
  cases found : level[if index % 2 = 0 then index + 1 else index - 1]? with
  | some other =>
    rw [found, Option.some_or] at beside
    exact congrArg Except.ok (Option.some.inj beside)
  | none =>
    rw [found, Option.none_or] at beside
    dsimp only
    rw [indexed, beside]

/-- The loop collects the neighbours on the way up, and rises as the loop over the tree does. -/
theorem proofLoop_eq {collected siblings : List Hash} (enough : level.length ≤ fuel + 1)
    (proved : codec.scheme.proof fuel level index = some siblings) :
    proofLoop codec fuel collected level index = .ok (collected ++ siblings, codec.scheme.rise fuel level) := by
  induction fuel generalizing collected level siblings index with
  | zero =>
    cases proved
    rw [proofLoop, if_neg (Nat.not_lt.mpr enough), List.append_nil, Scheme.rise]
  | succ fuel ih =>
    rw [Scheme.proof] at proved
    rw [proofLoop, Scheme.rise]
    by_cases many : 1 < level.length
    · rw [if_pos many] at proved ⊢
      rw [if_pos many]
      obtain ⟨sibling, beside, proved⟩ := Option.bind_eq_some_iff.mp proved
      obtain ⟨others, above, same⟩ := Option.bind_eq_some_iff.mp proved
      cases same
      have shorter : (codec.scheme.levelUp level).length ≤ fuel + 1 := by
        rw [Scheme.levelUp, List.length_map, Scheme.levelTexts_length]
        omega
      rw [siblingAt_eq beside, nextLevel_eq, List.append_cons]
      exact ih shorter above
    · rw [if_neg many] at proved ⊢
      cases proved
      rw [if_neg many, List.append_nil]

theorem computeMerkleRootFromProof_eq (leafHash : Hash) (siblings : List Hash) (index : ℕ) :
    computeMerkleRootFromProof codec leafHash siblings index = codec.scheme.pathRoot leafHash siblings index := by
  rw [computeMerkleRootFromProof]
  induction siblings generalizing leafHash index with
  | nil => rfl
  | cons sibling rest ih => exact ih _ _

/-- For every leaf the proof is built without stepping outside a level, and it leads from the leaf to the root that is
returned with it, which is the root of the tree. -/
theorem path_recomputed (codec : Codec) (leaves : List Hash) (index : Fin leaves.length) :
    ∃ siblings root, buildMerkleProof codec leaves index = .ok (siblings, root) ∧
      buildMerkleTree codec leaves = .ok root ∧
      computeMerkleRootFromProof codec (leaves.get index) siblings index = root := by
  have placed : leaves[index.val]? = some (leaves.get index) := List.getElem?_eq_getElem index.isLt
  obtain ⟨siblings, proved, risen, -⟩ := codec.scheme.proof_spec placed (Nat.le_succ _)
  refine ⟨siblings, codec.scheme.pathRoot (leaves.get index) siblings index, ?_, ?_, ?_⟩
  · rw [buildMerkleProof, proofLoop_eq (Nat.le_succ _) proved, risen]
    rfl
  · rw [buildMerkleTree, treeLoop_eq (Nat.le_succ _), risen]
    rfl
  · exact computeMerkleRootFromProof_eq _ _ _

end Aios.Fleet.MerklePath
