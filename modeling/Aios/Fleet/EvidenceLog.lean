import Aios.Lib.Merkle
import Aios.Lib.Run
import Aios.Lib.Stateful
import Aios.Rust.Basic

/-! # The distributed evidence log

The embedding of `distributed_evidence.rs`: a content-addressed DAG of nodes, one head for each host,
and checkpoints over the Merkle root of all node ids. A failing call keeps the state it has reached:
a merge that is refused half-way leaves the nodes it has already pushed.
-/

namespace Aios.Fleet

open Aios.Rust

/-- BLAKE3 content hash, in hex. -/
abbrev Hash := String

inductive DagError where
  | duplicateNode (nodeId : Hash)
  | missingParent (nodeId parentId : Hash)
  | missingHostChain (hostId : String)
  | inclusionProofFailed (checkpointId nodeId detail : String)
  | forkDetected (hostA hostB ancestorA ancestorB : String)
  | inconsistentMerge (forkPoint : String)
  | encodingFailure (message : String)
deriving DecidableEq, Repr

/-! ## Hashing and serialization -/

/-- What is serialized and hashed for the identity of a node. -/
structure DagNodePreimage where
  hostId : String
  segmentHash : Hash
  parents : List Hash
  timestamp : DateTime
deriving DecidableEq

def hexDigits : List Char := "0123456789abcdef".toList

/-- 64 lowercase hex characters. -/
def IsHexDigest (text : String) : Prop := text.toList.length = 64 ∧ ∀ c ∈ text.toList, c ∈ hexDigits

instance (text : String) : Decidable (IsHexDigest text) :=
  haveI : Decidable (∀ c ∈ text.toList, c ∈ hexDigits) := List.decidableBAll _ _
  inferInstanceAs (Decidable (_ ∧ _))

/-- The library functions behind the log: `serde_json::to_string` of a preimage, `blake3::hash` with
`to_hex`, and the `Display` form of a time. A digest is 64 hex characters, and a serialized struct is
a JSON object. -/
structure Codec where
  serialize : DagNodePreimage → Except String String
  blake3 : String → Hash
  displayTime : DateTime → String
  blake3_hex : ∀ text, IsHexDigest (blake3 text)
  serialize_object : ∀ preimage text, serialize preimage = .ok text →
    text.toList.head? = some '{' ∧ text.toList.getLast? = some '}'

/-- An Ed25519 signing key: the signature of a message, in hex. -/
structure SigningKey where
  sign : String → String

/-! ## Nodes -/

structure DagNode where
  nodeId : Hash
  hostId : String
  segmentHash : Hash
  parents : List Hash
  timestamp : DateTime
  signature : String
deriving DecidableEq

namespace DagNode

variable (codec : Codec)

def preimage (self : DagNode) : DagNodePreimage where
  hostId := self.hostId
  segmentHash := self.segmentHash
  parents := self.parents
  timestamp := self.timestamp

def recomputeNodeId (self : DagNode) : Except DagError Hash :=
  match codec.serialize self.preimage with
  | .error message => .error (.encodingFailure message)
  | .ok canonical => .ok (codec.blake3 canonical)

/-- A content hash is the hash of a serialized preimage. -/
theorem recomputeNodeId_eq_ok_iff {codec : Codec} {self : DagNode} {hash : Hash} :
    self.recomputeNodeId codec = .ok hash ↔
      ∃ canonical, codec.serialize self.preimage = .ok canonical ∧ hash = codec.blake3 canonical := by
  unfold recomputeNodeId
  cases codec.serialize self.preimage with
  | error message => simp
  | ok canonical => simp [eq_comm]

end DagNode

section

variable (codec : Codec)

/-! ## Merkle trees -/

/-- `format!("{left}|{right}")`. -/
def joinHashes (left right : Hash) : String := left ++ "|" ++ right

theorem joinHashes_toList (left right : Hash) :
    (joinHashes left right).toList = left.toList ++ '|' :: right.toList := by
  simp [joinHashes]

def Codec.scheme : Merkle.Scheme Hash String where
  hash := codec.blake3
  join := joinHashes
  IsDigest := IsHexDigest
  hash_isDigest := codec.blake3_hex
  join_left := by
    intro label sibling left right digest leftDigest same
    have lists := congrArg String.toList same
    rw [joinHashes_toList, joinHashes_toList] at lists
    exact String.toList_injective (List.append_inj lists (digest.1.trans leftDigest.1.symm)).1
  join_right := by
    intro label sibling left right digest rightDigest same
    have lists := congrArg String.toList same
    rw [joinHashes_toList, joinHashes_toList] at lists
    have equal := (List.append_inj' lists (by simp [digest.1, rightDigest.1])).2
    exact String.toList_injective (List.cons.inj equal).2

/-- The `while` loop over the levels; it ends within one round for each leaf. -/
def buildMerkleTree (leaves : List Hash) : Hash :=
  match codec.scheme.rise leaves.length leaves with
  | root :: _ => root
  | [] => codec.blake3 ""

def computeMerkleRoot (nodes : List DagNode) : Hash :=
  if nodes.isEmpty then codec.blake3 "" else buildMerkleTree codec (nodes.map (·.nodeId))

def computeMerkleRootFromProof (leafHash : Hash) (siblings : List Hash) (index : ℕ) : Hash :=
  codec.scheme.pathRoot leafHash siblings index

/-! ## The log -/

structure HostChainHead where
  hostId : String
  headHash : Hash
  sealedSegmentCount : ℕ
deriving DecidableEq

inductive ProofScheme where
  | merkleInclusion
deriving DecidableEq, Repr

structure ClusterCheckpoint where
  checkpointId : Hash
  merkleRoot : Hash
  clusterRootSignature : String
  timestamp : DateTime
  inclusionProofScheme : ProofScheme
deriving DecidableEq

def ClusterCheckpoint.preimage (merkleRoot : Hash) (timestamp : DateTime) : String :=
  merkleRoot ++ "|" ++ codec.displayTime timestamp

def ClusterCheckpoint.new (merkleRoot : Hash) (clusterRootKey : SigningKey) (scheme : ProofScheme)
    (timestamp : DateTime) : ClusterCheckpoint where
  checkpointId := codec.blake3 (preimage codec merkleRoot timestamp)
  merkleRoot := merkleRoot
  clusterRootSignature := clusterRootKey.sign merkleRoot
  timestamp := timestamp
  inclusionProofScheme := scheme

inductive ConsistencyState where
  | consistent
  | forkDetected (forkPoint : Hash) (hosts : List String)
  | reconciling (anchor : Hash)
deriving DecidableEq

structure DistributedEvidenceLog where
  hostChains : List HostChainHead
  dagNodes : List DagNode
  checkpoints : List ClusterCheckpoint
  consistency : ConsistencyState
deriving DecidableEq

end

namespace DistributedEvidenceLog

variable (codec : Codec) (self : DistributedEvidenceLog)

def new : DistributedEvidenceLog where
  hostChains := []
  dagNodes := []
  checkpoints := []
  consistency := .consistent

/-- `dag_nodes.iter().find(|n| n.node_id == id)`. -/
def find (id : Hash) : Option DagNode :=
  self.dagNodes.find? fun node => node.nodeId = id

/-- `dag_nodes.iter().any(|n| n.node_id == id)`. -/
def contains (id : Hash) : Bool :=
  self.dagNodes.any fun node => node.nodeId = id

def hostHead (hostId : String) : Option HostChainHead :=
  self.hostChains.find? fun head => head.hostId = hostId

/-- Move the first head of the host to the node, or start a chain for the host. -/
def advanceHead (hostId : String) (nodeId : Hash) : List HostChainHead → List HostChainHead
  | [] => [⟨hostId, nodeId, 1⟩]
  | head :: rest =>
    if head.hostId = hostId then
      { head with headHash := nodeId, sealedSegmentCount := head.sealedSegmentCount + 1 } :: rest
    else head :: advanceHead hostId nodeId rest

/-- Store the node as the head of a host. -/
def append (hostId : String) (node : DagNode) : DistributedEvidenceLog :=
  { self with
    hostChains := advanceHead hostId node.nodeId self.hostChains
    dagNodes := self.dagNodes ++ [node] }

/-- A call on the log: a value, or an error with the log as the failing call left it. -/
abbrev Call (α : Type) := EStateM DagError DistributedEvidenceLog α

/-- The checks with which `add_node` and `replicate_from_peer` open: the node's content hash is its
id, and the id is new. -/
def checkIncoming (what : String) (node : DagNode) : Call Unit := do
  match node.recomputeNodeId codec with
  | .error failure => throw failure
  | .ok recomputed =>
    if recomputed ≠ node.nodeId then
      throw (.encodingFailure (what ++ " mismatch: stored " ++ node.nodeId ++ " but recomputed " ++ recomputed))
    if (← get).contains node.nodeId then throw (.duplicateNode node.nodeId)

def addNode (node : DagNode) : Call Unit := do
  checkIncoming codec "node_id" node
  let self ← get
  match node.parents.find? (fun parentId => !self.contains parentId) with
  | some parentId => throw (.missingParent node.nodeId parentId)
  | none => modify (·.append node.hostId node)

/-- The node that `replicate_from_peer` stores: its id is the one computed before the local head
joined its parents. -/
def withParent (node : DagNode) (localHeadSegment : Hash) : DagNode :=
  if localHeadSegment ∈ node.parents then node else { node with parents := node.parents ++ [localHeadSegment] }

def replicateFromPeer (node : DagNode) (localHostId : String) (localHeadSegment : Hash) :
    Call Unit := do
  checkIncoming codec "replicated node_id" node
  modify (·.append localHostId (withParent node localHeadSegment))

/-- Some parent is known to both logs and has more than one child here. -/
def hasConflict (other : DistributedEvidenceLog) (node : DagNode) : Bool :=
  node.parents.any fun parentId =>
    self.contains parentId && other.contains parentId &&
      decide (1 < (self.dagNodes.filter fun stored => stored.parents.contains parentId).length)

/-- The loop of `merge_consistent` over the foreign nodes. -/
def mergeNodes (codec : Codec) (other : DistributedEvidenceLog) : List DagNode → ℕ → Call ℕ
  | [], added => return added
  | node :: rest, added => do
    if (← get).contains node.nodeId then mergeNodes codec other rest added
    else
      match node.recomputeNodeId codec with
      | .error failure => throw failure
      | .ok recomputed =>
        if recomputed ≠ node.nodeId then
          throw (.inconsistentMerge ("node_id mismatch in foreign DAG node " ++ node.nodeId))
        if (← get).hasConflict other node then
          throw (.inconsistentMerge ("node " ++ node.nodeId ++ " has conflicting parent references"))
        modify fun self => { self with dagNodes := self.dagNodes ++ [node] }
        mergeNodes codec other rest (added + 1)

/-- The loop of `merge_consistent` over the foreign heads: hosts tracked so far keep their own. -/
def adoptHeads (hostChains : List HostChainHead) : List HostChainHead → List HostChainHead
  | [] => hostChains
  | head :: rest =>
    if hostChains.any (fun own => own.hostId = head.hostId) then adoptHeads hostChains rest
    else adoptHeads (hostChains ++ [head]) rest

def mergeConsistent (other : DistributedEvidenceLog) : Call ℕ := do
  let added ← mergeNodes codec other other.dagNodes 0
  modify fun self => { self with hostChains := adoptHeads self.hostChains other.hostChains }
  return added

def signCheckpoint (clusterRootKey : SigningKey) (now : DateTime) : Call ClusterCheckpoint := do
  let merkleRoot := computeMerkleRoot codec (← get).dagNodes
  let checkpoint := ClusterCheckpoint.new codec merkleRoot clusterRootKey .merkleInclusion now
  modify fun self => { self with checkpoints := self.checkpoints ++ [checkpoint] }
  return checkpoint

def verifyInclusion (self : DistributedEvidenceLog) (nodeId checkpointId : Hash) (proofSiblings : List Hash)
    (proofIndex : ℕ) : Except DagError Unit :=
  match self.checkpoints.find? (fun checkpoint => checkpoint.checkpointId = checkpointId) with
  | none => .error (.inclusionProofFailed checkpointId nodeId "checkpoint not found")
  | some checkpoint =>
    let computedRoot := computeMerkleRootFromProof codec nodeId proofSiblings proofIndex
    if computedRoot ≠ checkpoint.merkleRoot then
      .error (.inclusionProofFailed checkpointId nodeId
        ("computed root " ++ computedRoot ++ " does not match checkpoint root " ++ checkpoint.merkleRoot))
    else .ok ()

end DistributedEvidenceLog

/-! ## Runs -/

inductive LogOp where
  | addNode (node : DagNode)
  | replicateFromPeer (node : DagNode) (localHostId : String) (localHeadSegment : Hash)
  | mergeConsistent (other : DistributedEvidenceLog)
  | signCheckpoint (clusterRootKey : SigningKey) (now : DateTime)

namespace DistributedEvidenceLog

def call (codec : Codec) : LogOp → Call Unit
  | .addNode node => addNode codec node
  | .replicateFromPeer node localHostId localHeadSegment => replicateFromPeer codec node localHostId localHeadSegment
  | .mergeConsistent other => do let _ ← mergeConsistent codec other
  | .signCheckpoint clusterRootKey now => do let _ ← signCheckpoint codec clusterRootKey now

/-- A call of a run; a failing one goes on from the state it leaves. -/
def step (codec : Codec) (self : DistributedEvidenceLog) (op : LogOp) : DistributedEvidenceLog :=
  Stateful.finalState (call codec op self)

/-- The log after a sequence of calls on a new one. -/
def runFrom (codec : Codec) (ops : List LogOp) : DistributedEvidenceLog := StepRun.run (step codec) new ops

end DistributedEvidenceLog

/-! ## A codec to run the log with

The JSON writer for texts that need no escape, and BLAKE3 on the texts that the concrete runs hash.
-/

def quoted (text : String) : String := "\"" ++ text ++ "\""

def writePreimage (preimage : DagNodePreimage) : String :=
  "\x7b" ++ ("\"host_id\":" ++ quoted preimage.hostId ++ ",\"segment_hash\":" ++ quoted preimage.segmentHash ++
    ",\"parents\":[" ++ ",".intercalate (preimage.parents.map quoted) ++
    "],\"timestamp\":\"1970-01-01T00:00:00Z\"") ++ "\x7d"

/-- The genesis node of a host, the one of another host with its child, and children of the first on two hosts. -/
def localNode : DagNode :=
  ⟨"742ff1a81436a82f229a681076945231ac3e69b473e8c19b1b26053012316f7d", "host_01", "seg_1", [], 0, "sig"⟩

def peerNode : DagNode :=
  ⟨"680768fe5d3ca0b63a9f62211e3f8631b6009c756f1149f7b56d05f1e6ed28a4", "host_02", "seg_2", [], 0, "sig"⟩

def peerChild : DagNode :=
  ⟨"cdbbae0299d3ebeb8e31cb679fb59a41de4e7c0508f921f30e58cedf72bddbd9", "host_02", "seg_4", [peerNode.nodeId], 0, "sig"⟩

def secondChild : DagNode :=
  ⟨"cba9d6d5c6faeffae9abd625f524c6737a89c1492fb00804a1aca1857c8d44c2", "host_02", "seg_2", [localNode.nodeId], 0, "sig"⟩

def thirdChild : DagNode :=
  ⟨"f376f595391f29c339cd0e67da0395efcc0280e35a72e19ccc7862cff959b61f", "host_03", "seg_3", [localNode.nodeId], 0, "sig"⟩

/-- The root over the two genesis nodes. -/
def genesisRoot : Hash := "52d207e431ec5088b775c4668a8289e0be1033bb067d90b8c4b56e9e9c887eed"

def sampleDigests : List (String × Hash) :=
  [localNode, peerNode, peerChild, secondChild, thirdChild].map
      (fun node => (writePreimage node.preimage, node.nodeId)) ++
    [(joinHashes localNode.nodeId peerNode.nodeId, genesisRoot),
      (genesisRoot ++ "|1970-01-01 00:00:00 UTC", "307a7de196d3b3c914b103a396d9b21818f23e6e240c6d491bf62346645473d1")]

/-- The digest of the empty text stands for every text not listed. -/
def sampleBlake3 (text : String) : Hash :=
  (sampleDigests.lookup text).getD "af1349b9f5f9a1a6a0404dea36dcc9499bcb25c9adc112b7cc9a93cae41f3262"

theorem sampleBlake3_hex (text : String) : IsHexDigest (sampleBlake3 text) := by
  have listed : ∀ entry ∈ sampleDigests, IsHexDigest entry.2 := by decide +kernel
  rw [sampleBlake3]
  cases found : sampleDigests.lookup text with
  | none => decide +kernel
  | some digest =>
    obtain ⟨before, after, split, -⟩ := List.lookup_eq_some_iff.mp found
    exact listed (text, digest) (by simp [split])

def sampleCodec : Codec where
  serialize preimage := .ok (writePreimage preimage)
  blake3 := sampleBlake3
  displayTime _ := "1970-01-01 00:00:00 UTC"
  blake3_hex := sampleBlake3_hex
  serialize_object := by
    intro preimage text written
    obtain rfl := Except.ok.inj written
    simp only [writePreimage, String.toList_append]
    exact ⟨rfl, List.getLast?_concat⟩

end Aios.Fleet
