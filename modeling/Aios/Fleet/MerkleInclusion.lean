import Aios.Fleet.DagIntegrity

/-! # Inclusion proofs

Nothing in the log tags leaves and inner nodes of the Merkle tree. What keeps them apart is that a
node id is the hash of a JSON object, while an inner node is the hash of a text that starts and ends
with a digest. The results assume that the texts hashed in a run have different hashes; this is what
injectivity of the hash says about them.
-/

namespace Aios.Fleet

open Merkle Aios.Rust

variable {codec : Codec}

/-! ## Texts -/

theorem unjoined_of_object {text : String} (opens : text.toList.head? = some '{')
    (closes : text.toList.getLast? = some '}') : codec.scheme.Unjoined text := by
  intro label sibling digest
  obtain ⟨size, digits⟩ : label.toList.length = 64 ∧ ∀ c ∈ label.toList, c ∈ hexDigits := digest
  have nonempty : label.toList ≠ [] := by
    intro empty
    simp [empty] at size
  constructor
  · rintro rfl
    change (joinHashes label sibling).toList.head? = some '{' at opens
    rw [joinHashes_toList, List.head?_append_of_ne_nil _ nonempty] at opens
    have digit := digits _ (List.mem_of_head? opens)
    revert digit
    decide
  · rintro rfl
    change (joinHashes sibling label).toList.getLast? = some '}' at closes
    rw [joinHashes_toList, List.getLast?_append_of_ne_nil _ (List.cons_ne_nil _ _),
      List.getLast?_cons_of_ne_nil nonempty] at closes
    have digit := digits _ (List.mem_of_getLast? closes)
    revert digit
    decide

theorem stepText_ne_empty (label sibling : Hash) (index : ℕ) : codec.scheme.stepText label sibling index ≠ "" := by
  intro empty
  have lists := congrArg String.toList empty
  rw [Scheme.stepText] at lists
  split_ifs at lists
  · change (joinHashes label sibling).toList = [] at lists
    simp [joinHashes_toList] at lists
  · change (joinHashes sibling label).toList = [] at lists
    simp [joinHashes_toList] at lists

namespace DistributedEvidenceLog

variable {self : DistributedEvidenceLog}

variable {texts : List String} {siblings : List Hash} {index : ℕ}

/-- The text whose hash is the content hash of a node. -/
def nodeTexts (codec : Codec) (node : DagNode) : List String :=
  match codec.serialize node.preimage with
  | .ok text => [text]
  | .error _ => []

theorem nodeTexts_of_recomputed {node : DagNode} {hash : Hash} (recomputed : node.recomputeNodeId codec = .ok hash) :
    ∃ text ∈ nodeTexts codec node, hash = codec.blake3 text ∧ codec.scheme.Unjoined text ∧ text ≠ "" := by
  obtain ⟨text, written, rfl⟩ := DagNode.recomputeNodeId_eq_ok_iff.mp recomputed
  obtain ⟨opens, closes⟩ := codec.serialize_object node.preimage text written
  refine ⟨text, by simp [nodeTexts, written], rfl, unjoined_of_object opens closes, ?_⟩
  rintro rfl
  simp at opens

/-! ## What a run stores -/

/-- The nodes a call hands to the log. -/
def offered : LogOp → List DagNode
  | .addNode node => [node]
  | .replicateFromPeer node _ _ => [node]
  | .mergeConsistent other => other.dagNodes
  | .signCheckpoint _ _ => []

/-- A stored id is the content hash of a node that a call has offered. -/
theorem nodeIds_step {op : LogOp} {id : Hash} (stored : id ∈ (self.step codec op).nodeIds) :
    id ∈ self.nodeIds ∨ ∃ node ∈ offered op, node.recomputeNodeId codec = .ok id := by
  cases op with
  | addNode node =>
    obtain same | ⟨admits, -, same⟩ := step_addNode codec self node
    · rw [same] at stored
      exact .inl stored
    · rw [same, append_nodeIds] at stored
      rcases List.mem_append.mp stored with kept | new
      · exact .inl kept
      · rw [List.mem_singleton.mp new]
        exact .inr ⟨node, List.mem_singleton_self node, admits.1⟩
  | replicateFromPeer node localHostId localHeadSegment =>
    obtain ⟨-, same⟩ | ⟨admits, same⟩ := step_replicateFromPeer codec self node localHostId localHeadSegment
    · rw [same] at stored
      exact .inl stored
    · rw [same, append_nodeIds, withParent_nodeId] at stored
      rcases List.mem_append.mp stored with kept | new
      · exact .inl kept
      · rw [List.mem_singleton.mp new]
        exact .inr ⟨node, List.mem_singleton_self node, admits.1⟩
  | mergeConsistent other =>
    rw [step_mergeConsistent, nodeIds_extend] at stored
    rcases List.mem_append.mp stored with kept | new
    · exact .inl kept
    · obtain ⟨node, taken, rfl⟩ := List.mem_map.mp new
      exact .inr ⟨node, takeOver_subset codec self other _ taken, (takeOver_spec codec self other _).1 node taken⟩
  | signCheckpoint clusterRootKey now => exact .inl stored

theorem nodeIds_runFrom (codec : Codec) (ops : List LogOp) :
    ∀ id ∈ (runFrom codec ops).nodeIds, ∃ node ∈ ops.flatMap offered, node.recomputeNodeId codec = .ok id := by
  apply StepRun.run_invariant_along
    (fun before (log : DistributedEvidenceLog) =>
      ∀ id ∈ log.nodeIds, ∃ node ∈ before.flatMap offered, node.recomputeNodeId codec = .ok id)
    (by simp [new, nodeIds]) _ ops List.prefix_rfl
  intro before op rest _ origin id stored
  rw [List.flatMap_append]
  rcases nodeIds_step stored with kept | ⟨node, given, recomputed⟩
  · obtain ⟨node, given, recomputed⟩ := origin id kept
    exact ⟨node, List.mem_append_left _ given, recomputed⟩
  · exact ⟨node, List.mem_append_right _ (by simpa using given), recomputed⟩

/-- The checkpoint that `sign_checkpoint` makes of the log. -/
def checkpointOf (codec : Codec) (self : DistributedEvidenceLog) (clusterRootKey : SigningKey) (now : DateTime) :
    ClusterCheckpoint :=
  .new codec (computeMerkleRoot codec self.dagNodes) clusterRootKey .merkleInclusion now

theorem checkpoints_step (codec : Codec) (self : DistributedEvidenceLog) (op : LogOp) :
    (self.step codec op).checkpoints = self.checkpoints ∨
      ∃ clusterRootKey now, op = .signCheckpoint clusterRootKey now ∧
        (self.step codec op).checkpoints = self.checkpoints ++ [self.checkpointOf codec clusterRootKey now] := by
  cases op with
  | addNode node =>
    refine .inl ?_
    obtain same | ⟨-, -, same⟩ := step_addNode codec self node
    · rw [same]
    · rw [same]
      rfl
  | replicateFromPeer node localHostId localHeadSegment =>
    refine .inl ?_
    obtain ⟨-, same⟩ | ⟨-, same⟩ := step_replicateFromPeer codec self node localHostId localHeadSegment
    · rw [same]
    · rw [same]
      rfl
  | mergeConsistent other =>
    refine .inl ?_
    rw [step_mergeConsistent]
    rfl
  | signCheckpoint clusterRootKey now => exact .inr ⟨clusterRootKey, now, rfl, rfl⟩

theorem computeMerkleRoot_isDigest {nodes : List DagNode} (digests : ∀ node ∈ nodes, IsHexDigest node.nodeId) :
    IsHexDigest (computeMerkleRoot codec nodes) := by
  unfold computeMerkleRoot buildMerkleTree
  split_ifs
  · exact codec.blake3_hex ""
  · split
    next root rest risen =>
      refine codec.scheme.rise_isDigest (fun label listed => ?_) root (by rw [risen]; exact List.mem_cons_self)
      obtain ⟨node, stored, rfl⟩ := List.mem_map.mp listed
      exact digests node stored
    next => exact codec.blake3_hex ""

/-- A checkpoint is stored under the hash of its root and time, and the root is a digest. -/
def Sealed (codec : Codec) (checkpoint : ClusterCheckpoint) : Prop :=
  checkpoint.checkpointId = codec.blake3 (ClusterCheckpoint.preimage codec checkpoint.merkleRoot checkpoint.timestamp) ∧
    IsHexDigest checkpoint.merkleRoot

theorem checkpointOf_sealed (codec : Codec) (ops : List LogOp) (clusterRootKey : SigningKey) (now : DateTime) :
    Sealed codec ((runFrom codec ops).checkpointOf codec clusterRootKey now) := by
  refine ⟨rfl, computeMerkleRoot_isDigest fun node stored => ?_⟩
  obtain ⟨origin, -, recomputed⟩ := nodeIds_runFrom codec ops node.nodeId (List.mem_map_of_mem stored)
  obtain ⟨text, -, same⟩ := DagNode.recomputeNodeId_eq_ok_iff.mp recomputed
  rw [same]
  exact codec.blake3_hex text

theorem checkpoints_sealed (codec : Codec) (ops : List LogOp) :
    ∀ checkpoint ∈ (runFrom codec ops).checkpoints, Sealed codec checkpoint := by
  apply StepRun.run_invariant_cut (fun log : DistributedEvidenceLog =>
    ∀ checkpoint ∈ log.checkpoints, Sealed codec checkpoint)
    (by simp [new]) _ ops List.prefix_rfl
  intro before op rest _ sealed
  obtain same | ⟨clusterRootKey, now, -, same⟩ := checkpoints_step codec (runFrom codec before) op
  · rw [runFrom] at same
    rw [same]
    exact sealed
  · rw [runFrom] at same
    rw [same]
    intro checkpoint member
    rcases List.mem_append.mp member with kept | new
    · exact sealed checkpoint kept
    · rw [List.mem_singleton.mp new]
      exact checkpointOf_sealed codec before clusterRootKey now

/-- Checkpoints are never dropped. -/
theorem checkpointOf_mem (codec : Codec) (before : List LogOp) (clusterRootKey : SigningKey) (now : DateTime)
    (after : List LogOp) :
    (runFrom codec before).checkpointOf codec clusterRootKey now ∈
      (runFrom codec (before ++ .signCheckpoint clusterRootKey now :: after)).checkpoints := by
  rw [runFrom, StepRun.run_append, StepRun.run_cons]
  apply StepRun.run_invariant (fun log : DistributedEvidenceLog =>
    (runFrom codec before).checkpointOf codec clusterRootKey now ∈ log.checkpoints)
  · intro log op member
    obtain same | ⟨key, time, -, same⟩ := checkpoints_step codec log op
    · rw [same]
      exact member
    · rw [same]
      exact List.mem_append_left _ member
  · exact List.mem_append_right _ (List.mem_singleton_self _)

/-! ## What an accepted proof shows -/

/-- The root of a tree is the hash of the empty text or a label of the tree. -/
theorem computeMerkleRoot_cases
    (hashed : ∀ text ∈ codec.scheme.treeTexts self.nodeIds.length self.nodeIds, text ∈ texts) :
    computeMerkleRoot codec self.dagNodes = codec.blake3 "" ∨
      codec.scheme.Built self.nodeIds texts (computeMerkleRoot codec self.dagNodes) := by
  unfold computeMerkleRoot buildMerkleTree
  split_ifs
  · exact .inl rfl
  · split
    next root rest risen =>
      refine .inr (Scheme.Built.rise (fun label listed => .leaf listed) hashed root ?_)
      change root ∈ codec.scheme.rise (self.dagNodes.map (·.nodeId)).length (self.dagNodes.map (·.nodeId))
      rw [risen]
      exact List.mem_cons_self
    next => exact .inl rfl

/-- No proof ends in the root of an empty log. -/
theorem pathRoot_ne_empty (free : codec.scheme.CollisionFree texts) (empty : "" ∈ texts) {text : String}
    (known : text ∈ texts) (nonempty : text ≠ "")
    (hashed : ∀ step ∈ codec.scheme.pathTexts (codec.blake3 text) siblings index, step ∈ texts) :
    codec.scheme.pathRoot (codec.blake3 text) siblings index ≠ codec.blake3 "" := by
  intro root
  obtain same | ⟨last, sibling, place, -, member, same⟩ := Scheme.pathRoot_cases (codec.scheme.hash_isDigest text)
  · exact nonempty (free text known "" empty (same.symm.trans root))
  · exact stepText_ne_empty last sibling place (free _ (hashed _ member) "" empty (same.symm.trans root))

/-- An accepted proof leads to the root of a stored checkpoint with the given id. -/
theorem verifyInclusion_ok {nodeId checkpointId : Hash}
    (verified : self.verifyInclusion codec nodeId checkpointId siblings index = .ok ()) :
    ∃ checkpoint ∈ self.checkpoints, checkpoint.checkpointId = checkpointId ∧
      codec.scheme.pathRoot nodeId siblings index = checkpoint.merkleRoot := by
  unfold verifyInclusion at verified
  cases found : self.checkpoints.find? (fun checkpoint => checkpoint.checkpointId = checkpointId) with
  | none =>
    rw [found] at verified
    cases verified
  | some checkpoint =>
    simp only [found] at verified
    split_ifs at verified with same
    · exact ⟨checkpoint, List.mem_of_find?_eq_some found, by simpa using List.find?_some found, not_not.mp same⟩

/-- Every leaf of a run is the content hash of an offered node. -/
theorem nodeIds_hashed (codec : Codec) {ops : List LogOp}
    (hashed : ∀ text ∈ (ops.flatMap offered).flatMap (nodeTexts codec), text ∈ texts) :
    codec.scheme.HashedLeaves (runFrom codec ops).nodeIds texts := by
  intro id leaf
  obtain ⟨origin, given, recomputed⟩ := nodeIds_runFrom codec ops id leaf
  obtain ⟨text, member, same, unjoined, -⟩ := nodeTexts_of_recomputed recomputed
  exact ⟨text, hashed text (List.mem_flatMap.mpr ⟨origin, given, member⟩), same, unjoined⟩

/-- A checkpoint found under the id of a signed one may be an earlier one, with the same root and time. -/
theorem merkleRoot_of_checkpointId {before after : List LogOp} {clusterRootKey : SigningKey} {now : DateTime}
    (free : codec.scheme.CollisionFree texts)
    (hashed : ∀ checkpoint ∈ (runFrom codec (before ++ .signCheckpoint clusterRootKey now :: after)).checkpoints,
      ClusterCheckpoint.preimage codec checkpoint.merkleRoot checkpoint.timestamp ∈ texts)
    {checkpoint : ClusterCheckpoint}
    (stored : checkpoint ∈ (runFrom codec (before ++ .signCheckpoint clusterRootKey now :: after)).checkpoints)
    (sameId : checkpoint.checkpointId = ((runFrom codec before).checkpointOf codec clusterRootKey now).checkpointId) :
    checkpoint.merkleRoot = computeMerkleRoot codec (runFrom codec before).dagNodes := by
  obtain ⟨id, rootDigest⟩ := checkpoints_sealed codec _ checkpoint stored
  have signedStored := checkpointOf_mem codec before clusterRootKey now after
  obtain ⟨-, signedDigest⟩ := checkpointOf_sealed codec before clusterRootKey now
  have samePreimage := free _ (hashed _ stored) _ (hashed _ signedStored) (id.symm.trans sameId)
  exact codec.scheme.join_left _ _ _ _ rootDigest signedDigest samePreimage

/-- A proof that ends in the root of a log starts from one of its ids. -/
theorem mem_nodeIds_of_pathRoot (free : codec.scheme.CollisionFree texts) (empty : "" ∈ texts)
    (genuine : codec.scheme.HashedLeaves self.nodeIds texts)
    (hashedTree : ∀ text ∈ codec.scheme.treeTexts self.nodeIds.length self.nodeIds, text ∈ texts) {node : DagNode}
    (own : node.recomputeNodeId codec = .ok node.nodeId) (hashedNode : ∀ text ∈ nodeTexts codec node, text ∈ texts)
    (hashedPath : ∀ text ∈ codec.scheme.pathTexts node.nodeId siblings index, text ∈ texts)
    (reached : codec.scheme.pathRoot node.nodeId siblings index = computeMerkleRoot codec self.dagNodes) :
    node.nodeId ∈ self.nodeIds := by
  obtain ⟨text, written, same, unjoined, nonempty⟩ := nodeTexts_of_recomputed own
  have known := hashedNode text written
  obtain isEmpty | built := computeMerkleRoot_cases hashedTree
  · rw [same] at hashedPath reached
    exact absurd (reached.trans isEmpty) (pathRoot_ne_empty free empty known nonempty hashedPath)
  · have digest : IsHexDigest node.nodeId := by
      rw [same]
      exact codec.blake3_hex text
    rw [← reached] at built
    exact (Scheme.Built.of_pathRoot free genuine digest hashedPath built).mem_leaves free known unjoined genuine same

/-- The texts hashed in a run up to a check of a proof: of the nodes offered and of the node in
question, of the tree that was signed, of the proof, and of the checkpoints. -/
def hashedTexts (codec : Codec) (ops : List LogOp) (signed : DistributedEvidenceLog) (node : DagNode)
    (siblings : List Hash) (index : ℕ) : List String :=
  "" :: nodeTexts codec node ++ (ops.flatMap offered).flatMap (nodeTexts codec) ++
    codec.scheme.treeTexts signed.nodeIds.length signed.nodeIds ++
    codec.scheme.pathTexts node.nodeId siblings index ++
    (runFrom codec ops).checkpoints.map fun checkpoint =>
      ClusterCheckpoint.preimage codec checkpoint.merkleRoot checkpoint.timestamp

/-- If the hashed texts have different hashes, an inclusion proof that is accepted for the content
hash of a node, with siblings and an index of any kind, shows that this id was a leaf when the
checkpoint was signed. -/
theorem verifyInclusion_sound (codec : Codec) (before after : List LogOp) (clusterRootKey : SigningKey)
    (now : DateTime) (node : DagNode) (siblings : List Hash) (index : ℕ)
    (own : node.recomputeNodeId codec = .ok node.nodeId)
    (free : codec.scheme.CollisionFree (hashedTexts codec (before ++ .signCheckpoint clusterRootKey now :: after)
      (runFrom codec before) node siblings index))
    (verified : (runFrom codec (before ++ .signCheckpoint clusterRootKey now :: after)).verifyInclusion codec
      node.nodeId
      ((runFrom codec before).checkpointOf codec clusterRootKey now).checkpointId siblings index = .ok ()) :
    node.nodeId ∈ (runFrom codec before).nodeIds := by
  have listed : ∀ text ∈ ((before ++ LogOp.signCheckpoint clusterRootKey now :: after).flatMap offered).flatMap
      (nodeTexts codec), text ∈ hashedTexts codec (before ++ .signCheckpoint clusterRootKey now :: after)
        (runFrom codec before) node siblings index := by
    intro text member
    simp only [hashedTexts, List.mem_append]
    exact .inl (.inl (.inl (.inr member)))
  have reached : codec.scheme.pathRoot node.nodeId siblings index =
      computeMerkleRoot codec (runFrom codec before).dagNodes := by
    obtain ⟨checkpoint, stored, sameId, root⟩ := verifyInclusion_ok verified
    rw [root]
    refine merkleRoot_of_checkpointId free (fun checkpoint stored => ?_) stored sameId
    exact List.mem_append_right _ (List.mem_map_of_mem stored)
  refine mem_nodeIds_of_pathRoot free (by simp [hashedTexts]) (nodeIds_hashed codec fun text member => ?_)
    (fun text member => ?_) own (fun text member => ?_) (fun text member => ?_) reached
  · apply listed
    rw [List.flatMap_append, List.flatMap_append]
    exact List.mem_append_left _ member
  · simp [hashedTexts, member]
  · simp [hashedTexts, member]
  · simp [hashedTexts, member]

/-- A checkpoint over two genesis nodes, and the proof for the first. -/
theorem verifyInclusion_sound_genesis :
    localNode.nodeId ∈ (runFrom sampleCodec [.addNode localNode, .addNode peerNode]).nodeIds :=
  verifyInclusion_sound sampleCodec [.addNode localNode, .addNode peerNode] [] ⟨fun _ => "sig"⟩ 0 localNode
    [peerNode.nodeId] 0 (by decide +kernel) (by decide +kernel) (by decide +kernel)

end DistributedEvidenceLog

end Aios.Fleet

/-! ## Completeness of inclusion proofs

`build_inclusion_proof` proves a node in the tree over the nodes of the log as it is now, not in the
tree a checkpoint was signed over. A checkpoint keeps its proofs exactly until a node is added.
-/

namespace Aios.Fleet

open Merkle Aios.Rust

/-- The sibling path and the root; an index outside the leaves panics. -/
def buildMerkleProof (codec : Codec) (leaves : List Hash) (leafIndex : ℕ) : Option (List Hash × Hash) := do
  let siblings ← codec.scheme.proof leaves.length leaves leafIndex
  some (siblings, buildMerkleTree codec leaves)

namespace DistributedEvidenceLog

variable {codec : Codec} {self : DistributedEvidenceLog}

section

variable {nodeId checkpointId : Hash}

/-- The proof for the first node of an id, with its place; `none` is a panic. -/
def buildInclusionProof (codec : Codec) (self : DistributedEvidenceLog) (nodeId : Hash) :
    Option (Except DagError (List Hash × ℕ)) :=
  match self.dagNodes.findIdx? (fun node => node.nodeId = nodeId) with
  | none => some (.error (.inclusionProofFailed "n/a" nodeId "node not found in DAG"))
  | some pos => do
    let (siblings, _) ← buildMerkleProof codec self.nodeIds pos
    some (.ok (siblings, pos))

/-- The log builds a proof for the node that it accepts against the checkpoint. -/
def Provable (codec : Codec) (self : DistributedEvidenceLog) (checkpointId nodeId : Hash) : Prop :=
  ∃ siblings index, self.buildInclusionProof codec nodeId = some (.ok (siblings, index)) ∧
    self.verifyInclusion codec nodeId checkpointId siblings index = .ok ()

theorem rise_nodeIds (nonempty : self.nodeIds ≠ []) :
    codec.scheme.rise self.nodeIds.length self.nodeIds = [computeMerkleRoot codec self.dagNodes] := by
  obtain ⟨first, rest, split⟩ := List.exists_cons_of_ne_nil nonempty
  have placed : self.nodeIds[0]? = some first := by rw [split, List.getElem?_cons_zero]
  obtain ⟨siblings, -, risen, -⟩ := codec.scheme.proof_spec placed (Nat.le_succ _)
  have leaves : self.dagNodes.map DagNode.nodeId = self.nodeIds := rfl
  have stored : self.dagNodes.isEmpty = false := by
    rw [← List.isEmpty_map, leaves, split, List.isEmpty_cons]
  rw [computeMerkleRoot, stored, if_neg Bool.false_ne_true, buildMerkleTree, leaves, risen]

theorem buildInclusionProof_spec (codec : Codec) (stored : nodeId ∈ self.nodeIds) :
    ∃ siblings index, self.buildInclusionProof codec nodeId = some (.ok (siblings, index)) ∧
      codec.scheme.pathRoot nodeId siblings index = computeMerkleRoot codec self.dagNodes ∧
      ∀ text ∈ codec.scheme.pathTexts nodeId siblings index,
        text ∈ codec.scheme.treeTexts self.nodeIds.length self.nodeIds := by
  obtain ⟨node, member, rfl⟩ := List.mem_map.mp stored
  cases found : self.dagNodes.findIdx? (fun other => other.nodeId = node.nodeId) with
  | none => simpa using List.findIdx?_eq_none_iff.mp found node member
  | some pos =>
    have placed : self.nodeIds[pos]? = some node.nodeId := by
      obtain ⟨inside, same, -⟩ := List.findIdx?_eq_some_iff_getElem.mp found
      rw [nodeIds, List.getElem?_map, List.getElem?_eq_getElem inside, Option.map_some, of_decide_eq_true same]
    obtain ⟨siblings, proved, risen, hashed⟩ := codec.scheme.proof_spec placed (Nat.le_succ _)
    refine ⟨siblings, pos, ?_, ?_, hashed⟩
    · rw [buildInclusionProof, found]
      dsimp only
      rw [buildMerkleProof, proved]
      rfl
    · exact (List.cons.inj (risen.symm.trans (rise_nodeIds (List.ne_nil_of_mem stored)))).1

theorem verifyInclusion_eq_ok_iff {siblings : List Hash} {index : ℕ} :
    self.verifyInclusion codec nodeId checkpointId siblings index = .ok () ↔
      ∃ checkpoint, self.checkpoints.find? (fun other => other.checkpointId = checkpointId) = some checkpoint ∧
        codec.scheme.pathRoot nodeId siblings index = checkpoint.merkleRoot := by
  unfold verifyInclusion computeMerkleRootFromProof
  cases self.checkpoints.find? (fun checkpoint => checkpoint.checkpointId = checkpointId) with
  | none => simp
  | some checkpoint =>
    dsimp only
    split_ifs with differs
    · simpa using differs
    · simpa using differs

/-- A proof leads to the root of the log as it is now, so it is accepted against the checkpoints of
that root. -/
theorem provable_iff (stored : nodeId ∈ self.nodeIds) :
    self.Provable codec checkpointId nodeId ↔
      ∃ checkpoint, self.checkpoints.find? (fun other => other.checkpointId = checkpointId) = some checkpoint ∧
        checkpoint.merkleRoot = computeMerkleRoot codec self.dagNodes := by
  obtain ⟨siblings, index, built, root, -⟩ := buildInclusionProof_spec codec stored
  unfold Provable
  constructor
  · rintro ⟨siblings', index', built', verified⟩
    obtain ⟨rfl, rfl⟩ := Prod.mk.inj (Except.ok.inj (Option.some.inj (built.symm.trans built')))
    obtain ⟨checkpoint, found, same⟩ := verifyInclusion_eq_ok_iff.mp verified
    exact ⟨checkpoint, found, same.symm.trans root⟩
  · rintro ⟨checkpoint, found, same⟩
    exact ⟨siblings, index, built, verifyInclusion_eq_ok_iff.mpr ⟨checkpoint, found, root.trans same.symm⟩⟩

/-! ### Adding nodes -/

/-- Added nodes come after those of the log, under new ids; there are none exactly if the log accepts
none of the nodes offered. -/
theorem run_addNode_spec (codec : Codec) (self : DistributedEvidenceLog) (added : List DagNode) :
    ∃ extra : List DagNode,
      (StepRun.run (step codec) self (added.map .addNode)).dagNodes = self.dagNodes ++ extra ∧
      (StepRun.run (step codec) self (added.map .addNode)).checkpoints = self.checkpoints ∧
      (∀ node ∈ extra, node ∈ added ∧ self.Admits codec node) ∧
      (extra = [] ↔ ∀ node ∈ added, ¬ self.Accepts codec node) := by
  induction added generalizing self with
  | nil => exact ⟨[], by simp⟩
  | cons first rest ih =>
    rw [List.map_cons, StepRun.run_cons]
    obtain ⟨refuses, same⟩ | ⟨accepts, same⟩ := step_addNode_cases codec self first
    · rw [same]
      obtain ⟨extra, nodes, checkpoints, new, empty⟩ := ih self
      refine ⟨extra, nodes, checkpoints, fun node member => ?_, ?_⟩
      · exact ⟨List.mem_cons_of_mem _ (new node member).1, (new node member).2⟩
      · rw [empty, List.forall_mem_cons, and_iff_right refuses]
    · rw [same]
      obtain ⟨extra, nodes, checkpoints, new, -⟩ := ih (self.append first.hostId first)
      refine ⟨first :: extra, ?_, checkpoints, ?_, ?_⟩
      · rw [nodes, append, List.append_assoc, List.singleton_append]
      · intro node member
        rcases List.mem_cons.mp member with rfl | later
        · exact ⟨List.mem_cons_self, accepts.1⟩
        · obtain ⟨offered, recomputed, fresh⟩ := new node later
          rw [append_nodeIds, List.mem_append, not_or] at fresh
          exact ⟨List.mem_cons_of_mem _ offered, recomputed, fresh.1⟩
      · exact iff_of_false (List.cons_ne_nil _ _) fun none_ => none_ first List.mem_cons_self accepts

/-! ### Which checkpoints keep their proofs -/

/-- A run that signs a checkpoint and goes on to add nodes. -/
abbrev signThenAdd (before : List LogOp) (clusterRootKey : SigningKey) (now : DateTime) (added : List DagNode) :
    List LogOp :=
  before ++ .signCheckpoint clusterRootKey now :: added.map .addNode

/-- The texts hashed in a run that signs a checkpoint and adds nodes: of the nodes offered, of the tree
signed and of the tree of the log as it is in the end, and of the checkpoints. -/
def grownTexts (codec : Codec) (before : List LogOp) (clusterRootKey : SigningKey) (now : DateTime)
    (added : List DagNode) : List String :=
  let ops := signThenAdd before clusterRootKey now added
  "" :: (ops.flatMap offered).flatMap (nodeTexts codec) ++
    codec.scheme.treeTexts (runFrom codec before).nodeIds.length (runFrom codec before).nodeIds ++
    codec.scheme.treeTexts (runFrom codec ops).nodeIds.length (runFrom codec ops).nodeIds ++
    (runFrom codec ops).checkpoints.map fun checkpoint =>
      ClusterCheckpoint.preimage codec checkpoint.merkleRoot checkpoint.timestamp

end

section

variable {before : List LogOp} {clusterRootKey : SigningKey} {now : DateTime} {added : List DagNode}
  (free : codec.scheme.CollisionFree (grownTexts codec before clusterRootKey now added))
include free

/-- A stored node can be proved exactly if the log still has the root that was signed. -/
theorem provable_iff_sameRoot {nodeId : Hash}
    (stored : nodeId ∈ (runFrom codec (signThenAdd before clusterRootKey now added)).nodeIds) :
    (runFrom codec (signThenAdd before clusterRootKey now added)).Provable codec
        ((runFrom codec before).checkpointOf codec clusterRootKey now).checkpointId nodeId ↔
      computeMerkleRoot codec (runFrom codec before).dagNodes =
        computeMerkleRoot codec (runFrom codec (signThenAdd before clusterRootKey now added)).dagNodes := by
  have signed (checkpoint : ClusterCheckpoint)
      (found : (runFrom codec (signThenAdd before clusterRootKey now added)).checkpoints.find?
        (fun other => other.checkpointId =
          ((runFrom codec before).checkpointOf codec clusterRootKey now).checkpointId) = some checkpoint) :
      checkpoint.merkleRoot = computeMerkleRoot codec (runFrom codec before).dagNodes := by
    refine merkleRoot_of_checkpointId free (fun checkpoint stored => ?_) (List.mem_of_find?_eq_some found)
      (by simpa using List.find?_some found)
    exact List.mem_append_right _ (List.mem_map_of_mem stored)
  rw [provable_iff stored]
  constructor
  · rintro ⟨checkpoint, found, same⟩
    exact (signed checkpoint found).symm.trans same
  · intro same
    have kept := checkpointOf_mem codec before clusterRootKey now (added.map .addNode)
    have isStored : ((runFrom codec (signThenAdd before clusterRootKey now added)).checkpoints.find?
        fun other => other.checkpointId =
          ((runFrom codec before).checkpointOf codec clusterRootKey now).checkpointId).isSome := by
      exact List.find?_isSome.mpr ⟨_, kept, by simp⟩
    obtain ⟨checkpoint, found⟩ := Option.isSome_iff_exists.mp isStored
    exact ⟨checkpoint, found, (signed checkpoint found).trans same⟩

/-- The root does not survive a new node: its proof would lead to a root that it is not under. -/
theorem root_ne_of_added {extra : List DagNode} {node : DagNode}
    (nodes : (runFrom codec (signThenAdd before clusterRootKey now added)).dagNodes =
      (runFrom codec before).dagNodes ++ extra)
    (member : node ∈ extra) (offered_ : node ∈ added) (admits : (runFrom codec before).Admits codec node) :
    computeMerkleRoot codec (runFrom codec before).dagNodes ≠
      computeMerkleRoot codec (runFrom codec (signThenAdd before clusterRootKey now added)).dagNodes := by
  intro same
  have stored : node.nodeId ∈ (runFrom codec (signThenAdd before clusterRootKey now added)).nodeIds := by
    rw [nodeIds, nodes]
    exact List.mem_map_of_mem (List.mem_append_right _ member)
  have listed : ∀ text ∈ ((signThenAdd before clusterRootKey now added).flatMap
      offered).flatMap (nodeTexts codec), text ∈ grownTexts codec before clusterRootKey now added := by
    intro text given
    simp only [grownTexts, List.mem_append, List.mem_cons]
    exact .inl (.inl (.inl (.inr given)))
  obtain ⟨siblings, index, -, root, hashedPath⟩ := buildInclusionProof_spec codec stored
  refine admits.2 (mem_nodeIds_of_pathRoot free (by simp [grownTexts]) (nodeIds_hashed codec fun text given => ?_)
    (fun text given => ?_) admits.1 (fun text given => ?_) (fun text given => ?_) (root.trans same.symm))
  · apply listed
    rw [List.flatMap_append, List.flatMap_append]
    exact List.mem_append_left _ given
  · simp only [grownTexts, List.mem_append]
    exact .inl (.inl (.inr given))
  · apply listed
    refine List.mem_flatMap.mpr ⟨node, List.mem_flatMap.mpr ⟨.addNode node, ?_, List.mem_singleton_self node⟩, given⟩
    exact List.mem_append_right _ (List.mem_cons_of_mem _ (List.mem_map_of_mem offered_))
  · simp only [grownTexts, List.mem_append]
    exact .inl (.inr (hashedPath text given))

end

/-- If the hashed texts have different hashes, all nodes of a checkpoint can be proved after further
calls of `add_node` exactly if none of the calls stores a node, or the checkpoint has no node. -/
theorem proofs_complete_iff (codec : Codec) (before : List LogOp) (clusterRootKey : SigningKey) (now : DateTime)
    (added : List DagNode) (free : codec.scheme.CollisionFree (grownTexts codec before clusterRootKey now added)) :
    (∀ nodeId ∈ (runFrom codec before).nodeIds,
      (runFrom codec (signThenAdd before clusterRootKey now added)).Provable codec
        ((runFrom codec before).checkpointOf codec clusterRootKey now).checkpointId nodeId) ↔
      (runFrom codec before).nodeIds = [] ∨ ∀ node ∈ added, ¬ (runFrom codec before).Accepts codec node := by
  obtain ⟨extra, nodes, -, fresh, empty⟩ :=
    ((runFrom codec before).step codec (.signCheckpoint clusterRootKey now)).run_addNode_spec codec added
  have grown : (runFrom codec (signThenAdd before clusterRootKey now added)).dagNodes =
      (runFrom codec before).dagNodes ++ extra := by
    rw [runFrom, StepRun.run_append, StepRun.run_cons]
    exact nodes
  have kept {nodeId : Hash} (stored : nodeId ∈ (runFrom codec before).nodeIds) :
      nodeId ∈ (runFrom codec (signThenAdd before clusterRootKey now added)).nodeIds := by
    rw [nodeIds, grown, List.map_append]
    exact List.mem_append_left _ stored
  constructor
  · intro complete
    by_contra! grew
    obtain ⟨some_, node, given, accepts⟩ := grew
    obtain ⟨nodeId, stored⟩ := List.exists_mem_of_ne_nil _ some_
    cases extra with
    | nil => exact empty.mp rfl node given accepts
    | cons first rest =>
      obtain ⟨offered_, admits⟩ := fresh first List.mem_cons_self
      exact root_ne_of_added free grown List.mem_cons_self offered_ admits
        ((provable_iff_sameRoot free (kept stored)).mp (complete nodeId stored))
  · rintro (none_ | refuses) nodeId stored
    · rw [none_] at stored
      cases stored
    · rw [provable_iff_sameRoot free (kept stored), grown, empty.mpr refuses, List.append_nil]

/-- A node that is offered again is refused, and the first of the two genesis nodes can still be proved. -/
theorem proofs_complete_genesis :
    (runFrom sampleCodec (signThenAdd [.addNode localNode, .addNode peerNode] ⟨fun _ => "sig"⟩ 0
      [peerNode])).Provable sampleCodec
      ((runFrom sampleCodec [.addNode localNode, .addNode peerNode]).checkpointOf sampleCodec ⟨fun _ => "sig"⟩
        0).checkpointId localNode.nodeId := by
  refine (proofs_complete_iff sampleCodec [.addNode localNode, .addNode peerNode] ⟨fun _ => "sig"⟩ 0 [peerNode]
    (by decide +kernel)).mpr ?_ localNode.nodeId (by decide +kernel)
  refine .inr fun node offered_ accepts => accepts.1.2 ?_
  rw [List.mem_singleton.mp offered_]
  decide +kernel

/-- A checkpoint is signed over the genesis node of one host, and the genesis node of another is added:
the first can no longer be proved. -/
theorem proofs_incomplete_grown :
    ¬ ∀ before clusterRootKey now added, ∀ nodeId ∈ (runFrom sampleCodec before).nodeIds,
      (runFrom sampleCodec (signThenAdd before clusterRootKey now added)).Provable sampleCodec
        ((runFrom sampleCodec before).checkpointOf sampleCodec clusterRootKey now).checkpointId nodeId := by
  intro complete
  have proved := complete [.addNode localNode] ⟨fun _ => "sig"⟩ 0 [peerNode] localNode.nodeId (by decide +kernel)
  obtain ⟨checkpoint, found, same⟩ := (provable_iff (by decide +kernel)).mp proved
  have root : checkpoint.merkleRoot = localNode.nodeId := by
    have listed := congrArg (Option.map ClusterCheckpoint.merkleRoot) found
    exact Option.some.inj (listed.symm.trans (by decide +kernel))
  rw [root] at same
  revert same
  decide +kernel

/-! ## What a root binds

A root does not say how many leaves it is over, and an odd last leaf counts twice. But a log holds no node twice, so
two runs that sign one root hold the same node ids in the same order.
-/

variable {ops ops' : List LogOp} {texts : List String}

theorem nodup_nodeIds (codec : Codec) (ops : List LogOp) : (runFrom codec ops).nodeIds.Nodup := by
  have initial : (new : DistributedEvidenceLog).nodeIds.Nodup := List.nodup_nil
  refine StepRun.run_invariant (fun log : DistributedEvidenceLog => log.nodeIds.Nodup) (fun log op distinct => ?_)
    initial ops
  have extended {id : Hash} (fresh : id ∉ log.nodeIds) : (log.nodeIds ++ [id]).Nodup :=
    List.nodup_append'.mpr ⟨distinct, List.nodup_singleton id, by simpa using fresh⟩
  cases op with
  | addNode node =>
    obtain same | ⟨admits, -, same⟩ := step_addNode codec log node
    · rwa [same]
    · rw [same, append_nodeIds]
      exact extended admits.2
  | replicateFromPeer node localHostId localHeadSegment =>
    obtain ⟨-, same⟩ | ⟨admits, same⟩ := step_replicateFromPeer codec log node localHostId localHeadSegment
    · rwa [same]
    · rw [same, append_nodeIds, withParent_nodeId]
      exact extended admits.2
  | mergeConsistent other =>
    have merged := (takeOver_spec codec log other other.dagNodes).2 distinct
    rw [nodeIds_extend] at merged
    rwa [step_mergeConsistent, nodeIds_extend]
  | signCheckpoint clusterRootKey now => exact distinct

/-- The texts hashed for the nodes a run is offered and for its tree. -/
def loggedTexts (codec : Codec) (ops : List LogOp) : List String :=
  (ops.flatMap offered).flatMap (nodeTexts codec) ++
    codec.scheme.treeTexts (runFrom codec ops).nodeIds.length (runFrom codec ops).nodeIds

/-- Each node of the one run is a node of the other. -/
theorem nodeIds_subset_of_root (free : codec.scheme.CollisionFree texts) (empty : "" ∈ texts)
    (here : loggedTexts codec ops ⊆ texts) (there : loggedTexts codec ops' ⊆ texts)
    (same : computeMerkleRoot codec (runFrom codec ops).dagNodes =
      computeMerkleRoot codec (runFrom codec ops').dagNodes) :
    (runFrom codec ops).nodeIds ⊆ (runFrom codec ops').nodeIds := by
  intro id stored
  obtain ⟨origin, given, recomputed⟩ := nodeIds_runFrom codec ops id stored
  obtain ⟨text, written, own, unjoined, nonempty⟩ := nodeTexts_of_recomputed recomputed
  have known : text ∈ texts := here (List.mem_append_left _ (List.mem_flatMap.mpr ⟨origin, given, written⟩))
  obtain ⟨siblings, index, -, root, path⟩ := buildInclusionProof_spec codec stored
  have hashedPath : ∀ step ∈ codec.scheme.pathTexts id siblings index, step ∈ texts :=
    fun step member => here (List.mem_append_right _ (path step member))
  have genuine := nodeIds_hashed codec fun text member => there (List.mem_append_left _ member)
  obtain isEmpty | built := computeMerkleRoot_cases fun text member => there (List.mem_append_right _ member)
  · rw [own] at root hashedPath
    exact absurd ((root.trans same).trans isEmpty) (pathRoot_ne_empty free empty known nonempty hashedPath)
  · rw [← same, ← root] at built
    have digest : IsHexDigest id := own ▸ codec.blake3_hex text
    exact (Scheme.Built.of_pathRoot free genuine digest hashedPath built).mem_leaves free known unjoined genuine own

/-- If the hashed texts have different hashes, two runs that sign checkpoints with one root hold the same node ids in
the same order. -/
theorem checkpoint_binds_log (codec : Codec) (ops ops' : List LogOp) (clusterRootKey clusterRootKey' : SigningKey)
    (now now' : DateTime)
    (free : codec.scheme.CollisionFree ("" :: loggedTexts codec ops ++ loggedTexts codec ops'))
    (same : ((runFrom codec ops).checkpointOf codec clusterRootKey now).merkleRoot =
      ((runFrom codec ops').checkpointOf codec clusterRootKey' now').merkleRoot) :
    (runFrom codec ops).nodeIds = (runFrom codec ops').nodeIds := by
  have here : loggedTexts codec ops ⊆ "" :: loggedTexts codec ops ++ loggedTexts codec ops' :=
    fun text member => List.mem_append_left _ (List.mem_cons_of_mem _ member)
  have there : loggedTexts codec ops' ⊆ "" :: loggedTexts codec ops ++ loggedTexts codec ops' :=
    fun text member => List.mem_append_right _ member
  have roots : computeMerkleRoot codec (runFrom codec ops).dagNodes =
      computeMerkleRoot codec (runFrom codec ops').dagNodes := same
  have inside := nodeIds_subset_of_root free List.mem_cons_self here there roots
  have inside' := nodeIds_subset_of_root free List.mem_cons_self there here roots.symm
  have sizes : (runFrom codec ops).nodeIds.length = (runFrom codec ops').nodeIds.length :=
    ((List.perm_ext_iff_of_nodup (nodup_nodeIds codec ops) (nodup_nodeIds codec ops')).mpr
      fun id => ⟨fun member => inside member, fun member => inside' member⟩).length_eq
  by_cases none_ : (runFrom codec ops).nodeIds = []
  · rw [none_, List.length_nil] at sizes
    rw [none_, List.length_eq_zero_iff.mp sizes.symm]
  · have some_ : (runFrom codec ops').nodeIds ≠ [] := fun empty => none_ (by simpa [empty] using sizes)
    have genuine := nodeIds_hashed codec fun text member => here (List.mem_append_left _ member)
    have genuine' := nodeIds_hashed codec fun text member => there (List.mem_append_left _ member)
    refine Scheme.rise_injective free (fun id leaf => (Scheme.Built.leaf leaf).isDigest genuine)
      (fun id leaf => (Scheme.Built.leaf leaf).isDigest genuine') sizes
      (fun text member => here (List.mem_append_right _ member))
      (fun text member => there (List.mem_append_right _ (sizes ▸ member))) ?_
    rw [rise_nodeIds none_, sizes, rise_nodeIds some_, roots]

/-- A refused node and a checkpoint on the way make no difference. -/
theorem checkpoint_binds_log_genesis :
    (runFrom sampleCodec [.addNode localNode, .addNode peerNode]).nodeIds =
      (runFrom sampleCodec
        [.addNode localNode, .signCheckpoint ⟨fun _ => "sig"⟩ 0, .addNode localNode, .addNode peerNode]).nodeIds :=
  checkpoint_binds_log sampleCodec _ _ ⟨fun _ => "sig"⟩ ⟨fun _ => "sig"⟩ 0 1 (by decide +kernel) (by decide +kernel)

end DistributedEvidenceLog

end Aios.Fleet
