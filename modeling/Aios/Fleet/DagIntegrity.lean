import Aios.Fleet.EvidenceLog
import Mathlib.Data.List.Nodup

/-! # Integrity of the evidence DAG

`add_node` checks everything it stores. `replicate_from_peer` changes the node after its content hash
was checked and looks at no parent, and `merge_consistent` looks at no foreign link. So the DAG is
intact along a run exactly when the replicated nodes and the merged logs bring no broken link.
-/

namespace Aios.Fleet

namespace DistributedEvidenceLog

variable {codec : Codec} {self other : DistributedEvidenceLog}

variable {hostId : String} {chains : List HostChainHead} {head : HostChainHead} (hostChains : List HostChainHead)
  (nodes : List DagNode)

def nodeIds (self : DistributedEvidenceLog) : List Hash := self.dagNodes.map (·.nodeId)

/-- Every node is stored under its content hash, no two under one id, and parents and heads are
stored. -/
structure DagIntegrity (codec : Codec) (log : DistributedEvidenceLog) : Prop where
  recomputed : ∀ node ∈ log.dagNodes, node.recomputeNodeId codec = .ok node.nodeId
  distinct : log.nodeIds.Nodup
  parents : ∀ node ∈ log.dagNodes, ∀ parentId ∈ node.parents, parentId ∈ log.nodeIds
  heads : ∀ head ∈ log.hostChains, head.headHash ∈ log.nodeIds

theorem new_dagIntegrity : DagIntegrity codec new := by
  refine ⟨?_, List.nodup_nil, ?_, ?_⟩ <;> simp [new]

theorem contains_iff {id : Hash} : self.contains id = true ↔ id ∈ self.nodeIds := by
  simp [contains, nodeIds]

/-- The log with further nodes and other heads. -/
def extend (self : DistributedEvidenceLog) (hostChains : List HostChainHead) (nodes : List DagNode) :
    DistributedEvidenceLog :=
  { self with hostChains, dagNodes := self.dagNodes ++ nodes }

theorem nodeIds_extend : (self.extend hostChains nodes).nodeIds = self.nodeIds ++ nodes.map (·.nodeId) :=
  List.map_append

theorem extend_hostChains : (self.extend hostChains nodes).hostChains = hostChains := rfl

theorem extend_extend (hostChains' : List HostChainHead) (nodes nodes' : List DagNode) :
    (self.extend hostChains nodes).extend hostChains' nodes' = self.extend hostChains' (nodes ++ nodes') := by
  simp only [extend, List.append_assoc]

/-- What is left to check when an intact log grows. -/
theorem DagIntegrity.extend_iff (intact : DagIntegrity codec self) {hostChains : List HostChainHead}
    {nodes : List DagNode} :
    DagIntegrity codec (self.extend hostChains nodes) ↔
      (∀ node ∈ nodes, node.recomputeNodeId codec = .ok node.nodeId) ∧
        (self.extend hostChains nodes).nodeIds.Nodup ∧
        (∀ node ∈ nodes, ∀ parentId ∈ node.parents, parentId ∈ (self.extend hostChains nodes).nodeIds) ∧
        ∀ head ∈ hostChains, head.headHash ∈ (self.extend hostChains nodes).nodeIds := by
  constructor
  · rintro ⟨recomputed, distinct, parents, heads⟩
    exact ⟨fun node member => recomputed node (List.mem_append_right _ member), distinct,
      fun node member => parents node (List.mem_append_right _ member), heads⟩
  · rintro ⟨recomputed, distinct, parents, heads⟩
    refine ⟨fun node member => ?_, distinct, fun node member => ?_, heads⟩
    · exact (List.mem_append.mp member).elim (intact.recomputed node) (recomputed node)
    · rcases List.mem_append.mp member with stored | added
      · intro parentId listed
        rw [nodeIds_extend]
        exact List.mem_append_left _ (intact.parents node stored parentId listed)
      · exact parents node added

/-! ## What one call does -/

theorem mem_advanceHead {nodeId : Hash} (member : head ∈ advanceHead hostId nodeId chains) :
    head.headHash = nodeId ∨ head ∈ chains := by
  induction chains with
  | nil =>
    rw [advanceHead, List.mem_singleton] at member
    exact .inl (by rw [member])
  | cons first rest ih =>
    rw [advanceHead] at member
    split_ifs at member with same
    · rcases List.mem_cons.mp member with rfl | later
      · exact .inl rfl
      · exact .inr (List.mem_cons_of_mem _ later)
    · rcases List.mem_cons.mp member with rfl | later
      · exact .inr List.mem_cons_self
      · exact (ih later).imp_right (List.mem_cons_of_mem _)

/-- The node has its content hash as id, and the id is new to the log. -/
def Admits (codec : Codec) (self : DistributedEvidenceLog) (node : DagNode) : Prop :=
  node.recomputeNodeId codec = .ok node.nodeId ∧ node.nodeId ∉ self.nodeIds

theorem checkIncoming_cases (codec : Codec) (self : DistributedEvidenceLog) (what : String) (node : DagNode) :
    (¬ self.Admits codec node ∧ ∃ failure, checkIncoming codec what node self = .error failure self) ∨
      (self.Admits codec node ∧ checkIncoming codec what node self = .ok () self) := by
  unfold checkIncoming Admits
  rw [← contains_iff]
  cases node.recomputeNodeId codec with
  | error failure => exact .inl ⟨by simp, failure, rfl⟩
  | ok recomputed =>
    by_cases same : recomputed = node.nodeId
    · subst same
      cases stored : self.contains node.nodeId with
      | true => exact .inl ⟨by simp, .duplicateNode node.nodeId, by
          simp [Stateful.get_bind_apply, stored]; rfl⟩
      | false => exact .inr ⟨by simp, by simp [Stateful.get_bind_apply, stored]; rfl⟩
    · exact .inl ⟨by simp [same], _, by simp only [ne_eq, same, not_false_eq_true, if_true]; rfl⟩

/-- The log admits the node and stores its parents. -/
def Accepts (codec : Codec) (self : DistributedEvidenceLog) (node : DagNode) : Prop :=
  self.Admits codec node ∧ ∀ parentId ∈ node.parents, parentId ∈ self.nodeIds

theorem step_addNode_cases (codec : Codec) (self : DistributedEvidenceLog) (node : DagNode) :
    (¬ self.Accepts codec node ∧ self.step codec (.addNode node) = self) ∨
      (self.Accepts codec node ∧ self.step codec (.addNode node) = self.append node.hostId node) := by
  simp only [step, call, addNode]
  rw [Stateful.bind_apply]
  obtain ⟨refuses, failure, refused⟩ | ⟨admits, passed⟩ := checkIncoming_cases codec self "node_id" node
  · rw [refused]
    exact .inl ⟨fun accepts => refuses accepts.1, rfl⟩
  · rw [passed]
    dsimp only
    rw [Stateful.get_bind_apply]
    cases missing : node.parents.find? fun parentId => !self.contains parentId with
    | some parentId =>
      refine .inl ⟨fun accepts => ?_, rfl⟩
      have absent := List.find?_some missing
      rw [contains_iff.mpr (accepts.2 parentId (List.mem_of_find?_eq_some missing))] at absent
      exact Bool.false_ne_true absent
    | none =>
      refine .inr ⟨⟨admits, fun parentId listed => ?_⟩, rfl⟩
      rw [← contains_iff]
      simpa using List.find?_eq_none.mp missing parentId listed

theorem step_addNode (codec : Codec) (self : DistributedEvidenceLog) (node : DagNode) :
    self.step codec (.addNode node) = self ∨
      (self.Admits codec node ∧ (∀ parentId ∈ node.parents, parentId ∈ self.nodeIds) ∧
        self.step codec (.addNode node) = self.append node.hostId node) := by
  obtain ⟨-, same⟩ | ⟨⟨admits, stored⟩, same⟩ := step_addNode_cases codec self node
  · exact .inl same
  · exact .inr ⟨admits, stored, same⟩

theorem step_replicateFromPeer (codec : Codec) (self : DistributedEvidenceLog) (node : DagNode)
    (localHostId : String) (localHeadSegment : Hash) :
    (¬ self.Admits codec node ∧ self.step codec (.replicateFromPeer node localHostId localHeadSegment) = self) ∨
      (self.Admits codec node ∧ self.step codec (.replicateFromPeer node localHostId localHeadSegment) =
        self.append localHostId (withParent node localHeadSegment)) := by
  simp only [step, call, replicateFromPeer, Stateful.bind_apply]
  obtain ⟨refuses, failure, refused⟩ | ⟨admits, passed⟩ := checkIncoming_cases codec self "replicated node_id" node
  · rw [refused]
    exact .inl ⟨refuses, rfl⟩
  · rw [passed]
    exact .inr ⟨admits, rfl⟩

/-- A merge takes the node over: its content hash is its id, and it has no conflicting parent. -/
def Mergeable (codec : Codec) (self other : DistributedEvidenceLog) (node : DagNode) : Prop :=
  node.recomputeNodeId codec = .ok node.nodeId ∧ self.hasConflict other node = false

instance (node : DagNode) : Decidable (Mergeable codec self other node) := inferInstanceAs (Decidable (_ ∧ _))

/-- One round of the loop: a known node is passed by, a mergeable one is stored, any other ends it. -/
theorem mergeNodes_cons (codec : Codec) (self other : DistributedEvidenceLog) (node : DagNode)
    (rest : List DagNode) (added : ℕ) :
    (self.contains node.nodeId = true ∧
        mergeNodes codec other (node :: rest) added self = mergeNodes codec other rest added self) ∨
      (self.contains node.nodeId = false ∧ Mergeable codec self other node ∧
        mergeNodes codec other (node :: rest) added self =
          mergeNodes codec other rest (added + 1) (self.extend self.hostChains [node])) ∨
      (self.contains node.nodeId = false ∧ ¬ Mergeable codec self other node ∧
        ∃ failure, mergeNodes codec other (node :: rest) added self = .error failure self) := by
  unfold Mergeable
  rw [mergeNodes, Stateful.get_bind_apply]
  cases stored : self.contains node.nodeId with
  | true => exact .inl ⟨rfl, rfl⟩
  | false =>
    refine .inr ?_
    cases recomputed : node.recomputeNodeId codec with
    | error failure => exact .inr ⟨rfl, by simp, failure, rfl⟩
    | ok hash =>
      by_cases same : hash = node.nodeId
      · subst same
        cases conflict : self.hasConflict other node with
        | true =>
          refine .inr ⟨rfl, by simp, .inconsistentMerge
            ("node " ++ node.nodeId ++ " has conflicting parent references"), ?_⟩
          simp [Stateful.get_bind_apply, conflict]
          rfl
        | false =>
          refine .inl ⟨rfl, by simp, ?_⟩
          simp [Stateful.get_bind_apply, conflict]
          rfl
      · refine .inr ⟨rfl, by simp [same],
          .inconsistentMerge ("node_id mismatch in foreign DAG node " ++ node.nodeId), ?_⟩
        simp [same]
        rfl

/-- The foreign nodes that a merge stores, read in order up to the first one it refuses, and whether
it refuses none. -/
def takeOver (codec : Codec) (other : DistributedEvidenceLog) :
    DistributedEvidenceLog → List DagNode → List DagNode × Bool
  | _, [] => ([], true)
  | self, node :: rest =>
    if self.contains node.nodeId then takeOver codec other self rest
    else if Mergeable codec self other node then
      let later := takeOver codec other (self.extend self.hostChains [node]) rest
      (node :: later.1, later.2)
    else ([], false)

/-- The loop stores what it takes over, and ends with an error exactly if it refuses a node. -/
theorem mergeNodes_spec (codec : Codec) (self other : DistributedEvidenceLog) (nodes : List DagNode) (added : ℕ) :
    let taken := takeOver codec other self nodes
    (taken.2 = true ∧ ∃ total, mergeNodes codec other nodes added self =
        .ok total (self.extend self.hostChains taken.1)) ∨
      (taken.2 = false ∧ ∃ failure, mergeNodes codec other nodes added self =
        .error failure (self.extend self.hostChains taken.1)) := by
  induction nodes generalizing self added with
  | nil =>
    refine .inl ⟨rfl, added, ?_⟩
    simp only [takeOver, extend, List.append_nil]
    rfl
  | cons node rest ih =>
    obtain ⟨stored, same⟩ | ⟨fresh, mergeable, same⟩ | ⟨fresh, refused, failure, same⟩ :=
      mergeNodes_cons codec self other node rest added
    · rw [same]
      simp only [takeOver, stored, if_true]
      exact ih self added
    · rw [same]
      simp only [takeOver, fresh, mergeable, if_true, Bool.false_eq_true, if_false]
      have later := ih (self.extend self.hostChains [node]) (added + 1)
      simpa only [extend_extend, extend_hostChains, List.singleton_append] using later
    · rw [same]
      refine .inr ⟨by simp [takeOver, fresh, refused], failure, ?_⟩
      simp [takeOver, fresh, refused, extend]

/-- A merge stores what it takes over, and copies the heads of new hosts if it refuses nothing. -/
theorem step_mergeConsistent (codec : Codec) (self other : DistributedEvidenceLog) :
    let taken := takeOver codec other self other.dagNodes
    self.step codec (.mergeConsistent other) =
      self.extend (if taken.2 then adoptHeads self.hostChains other.hostChains else self.hostChains) taken.1 := by
  simp only [step, call, mergeConsistent]
  rw [Stateful.bind_apply, Stateful.bind_apply]
  obtain ⟨complete, total, ran⟩ | ⟨refused, failure, ran⟩ := mergeNodes_spec codec self other other.dagNodes 0
  · rw [ran, if_pos complete]
    rfl
  · rw [ran, if_neg (by simp [refused])]
    rfl

theorem takeOver_spec (codec : Codec) (self other : DistributedEvidenceLog) (nodes : List DagNode) :
    (∀ node ∈ (takeOver codec other self nodes).1, node.recomputeNodeId codec = .ok node.nodeId) ∧
      (self.nodeIds.Nodup → (self.extend self.hostChains (takeOver codec other self nodes).1).nodeIds.Nodup) := by
  induction nodes generalizing self with
  | nil => simp [takeOver, nodeIds_extend]
  | cons node rest ih =>
    rw [takeOver]
    split_ifs with stored mergeable
    · exact ih self
    · obtain ⟨recomputed, distinct⟩ := ih (self.extend self.hostChains [node])
      refine ⟨?_, fun nodup => ?_⟩
      · exact List.forall_mem_cons.mpr ⟨mergeable.1, recomputed⟩
      · rw [extend_extend] at distinct
        apply distinct
        rw [nodeIds_extend]
        have fresh : node.nodeId ∉ self.nodeIds := fun listed => stored (contains_iff.mpr listed)
        exact List.nodup_append'.mpr ⟨nodup, by simp, by simpa using fresh⟩
    · simp [nodeIds_extend]

theorem takeOver_subset (codec : Codec) (self other : DistributedEvidenceLog) (nodes : List DagNode) :
    (takeOver codec other self nodes).1 ⊆ nodes := by
  induction nodes generalizing self with
  | nil => simp [takeOver]
  | cons node rest ih =>
    rw [takeOver]
    split_ifs
    · exact List.Subset.trans (ih self) (List.subset_cons_self node rest)
    · exact List.cons_subset_cons node (ih _)
    · simp

/-- The heads after a merge: the own ones, and of each host without one the first foreign head. -/
theorem mem_adoptHeads_iff {heads : List HostChainHead} :
    head ∈ adoptHeads chains heads ↔
      head ∈ chains ∨ (chains.find? (fun own => own.hostId = head.hostId) = none ∧
        heads.find? (fun foreign => foreign.hostId = head.hostId) = some head) := by
  induction heads generalizing chains with
  | nil => simp [adoptHeads]
  | cons first rest ih =>
    rw [adoptHeads]
    by_cases same : first.hostId = head.hostId
    · split_ifs with tracked
      · have found : chains.find? (fun own => own.hostId = head.hostId) ≠ none := by
          simpa [List.find?_eq_none, same] using tracked
        rw [ih]
        simp only [found, false_and]
      · have untracked : chains.find? (fun own => own.hostId = head.hostId) = none := by
          simpa [List.find?_eq_none, same] using tracked
        have last : first = head ↔ head = first := eq_comm
        rw [ih]
        simp [untracked, same, List.find?_append, last]
    · split_ifs
      · rw [ih]
        simp [same]
      · have other : head ≠ first := fun equal => same (congrArg HostChainHead.hostId equal.symm)
        rw [ih]
        simp [same, other, List.find?_append]

/-! ## What one call keeps -/

/-- The call brings no broken link: a replicated node, with the local head among its parents, has its
content hash as id and stored parents; the nodes a merge takes over have stored parents, and the heads
it copies are stored. -/
def LinksStored (codec : Codec) (self : DistributedEvidenceLog) : LogOp → Prop
  | .addNode _ => True
  | .replicateFromPeer node _ localHeadSegment =>
    self.Admits codec node →
      (withParent node localHeadSegment).recomputeNodeId codec = .ok node.nodeId ∧
        ∀ parentId ∈ (withParent node localHeadSegment).parents, parentId ∈ self.nodeIds ∨ parentId = node.nodeId
  | .mergeConsistent other =>
    let taken := takeOver codec other self other.dagNodes
    (∀ node ∈ taken.1, ∀ parentId ∈ node.parents, parentId ∈ self.nodeIds ∨ ∃ near ∈ taken.1, near.nodeId = parentId) ∧
      (taken.2 = true → ∀ head, self.hostHead head.hostId = none → other.hostHead head.hostId = some head →
        head.headHash ∈ self.nodeIds ∨ ∃ near ∈ taken.1, near.nodeId = head.headHash)
  | .signCheckpoint _ _ => True

theorem withParent_nodeId (node : DagNode) (localHeadSegment : Hash) :
    (withParent node localHeadSegment).nodeId = node.nodeId := by
  unfold withParent
  split_ifs <;> rfl

theorem append_nodeIds (hostId : String) (node : DagNode) :
    (self.append hostId node).nodeIds = self.nodeIds ++ [node.nodeId] :=
  List.map_append

/-- Storing a new node as a head leaves the node itself to check. -/
theorem DagIntegrity.append_iff (intact : DagIntegrity codec self) {hostId : String} {node : DagNode}
    (fresh : node.nodeId ∉ self.nodeIds) :
    DagIntegrity codec (self.append hostId node) ↔
      node.recomputeNodeId codec = .ok node.nodeId ∧
        ∀ parentId ∈ node.parents, parentId ∈ self.nodeIds ∨ parentId = node.nodeId := by
  have extended : self.append hostId node = self.extend (advanceHead hostId node.nodeId self.hostChains) [node] := rfl
  have distinct : (self.nodeIds ++ [node.nodeId]).Nodup :=
    List.nodup_append'.mpr ⟨intact.distinct, by simp, by simpa using fresh⟩
  have heads : ∀ head ∈ advanceHead hostId node.nodeId self.hostChains,
      head.headHash ∈ self.nodeIds ++ [node.nodeId] := by
    intro head member
    rcases mem_advanceHead member with moved | kept
    · simp [moved]
    · exact List.mem_append_left _ (intact.heads head kept)
  rw [extended, intact.extend_iff, ← extended, append_nodeIds]
  rw [and_iff_right distinct, and_iff_left heads, List.forall_mem_singleton, List.forall_mem_singleton]
  simp only [List.mem_append, List.mem_singleton]

/-- A call keeps an intact log intact exactly if it brings no broken link. -/
theorem DagIntegrity.step_iff (intact : DagIntegrity codec self) (op : LogOp) :
    DagIntegrity codec (self.step codec op) ↔ self.LinksStored codec op := by
  cases op with
  | addNode node =>
    refine iff_of_true ?_ trivial
    obtain same | ⟨admits, stored, same⟩ := step_addNode codec self node
    · rw [same]
      exact intact
    · rw [same, intact.append_iff admits.2]
      exact ⟨admits.1, fun parentId listed => .inl (stored parentId listed)⟩
  | replicateFromPeer node localHostId localHeadSegment =>
    obtain ⟨refuses, same⟩ | ⟨admits, same⟩ :=
      step_replicateFromPeer codec self node localHostId localHeadSegment
    · rw [same]
      exact iff_of_true intact fun admits => absurd admits refuses
    · rw [same, intact.append_iff (by rw [withParent_nodeId]; exact admits.2), withParent_nodeId]
      simp only [LinksStored, admits, forall_const]
  | mergeConsistent other =>
    obtain ⟨recomputed, distinct⟩ := takeOver_spec codec self other other.dagNodes
    rw [step_mergeConsistent, intact.extend_iff, and_iff_right recomputed, nodeIds_extend]
    rw [nodeIds_extend] at distinct
    rw [and_iff_right (distinct intact.distinct)]
    simp only [LinksStored, List.mem_append, List.mem_map]
    refine and_congr_right fun _ => ?_
    cases complete : (takeOver codec other self other.dagNodes).2 with
    | false =>
      simp only [Bool.false_eq_true, if_false, false_implies, iff_true]
      exact fun head member => .inl (intact.heads head member)
    | true =>
      simp only [if_true, true_implies, mem_adoptHeads_iff]
      constructor
      · exact fun stored head untracked foreign => stored head (.inr ⟨untracked, foreign⟩)
      · rintro stored head (own | ⟨untracked, foreign⟩)
        · exact .inl (intact.heads head own)
        · exact stored head untracked foreign
  | signCheckpoint clusterRootKey now =>
    exact iff_of_true ⟨intact.recomputed, intact.distinct, intact.parents, intact.heads⟩ trivial

/-! ## Over whole runs -/

/-- The DAG is intact in every state of a run exactly when no call of it brings a broken link. -/
theorem dagIntegrity_iff (codec : Codec) (ops : List LogOp) :
    (∀ before, before <+: ops → DagIntegrity codec (runFrom codec before)) ↔
      ∀ before op rest, ops = before ++ op :: rest → (runFrom codec before).LinksStored codec op :=
  StepRun.forall_prefix_iff_cut new_dagIntegrity fun _ op _ _ intact => intact.step_iff op

/-- A peer's genesis node, replicated onto the local head, no longer hashes to its id. -/
theorem not_dagIntegrity_replicated :
    ¬ ∀ before, before <+: [.addNode localNode, .replicateFromPeer peerNode "host_01" localNode.nodeId] →
      DagIntegrity sampleCodec (runFrom sampleCodec before) := by
  intro intact
  have recomputed := (intact _ List.prefix_rfl).recomputed
  revert recomputed
  decide +kernel

end DistributedEvidenceLog

/-! ## Merging all or nothing

`merge_consistent` checks a foreign node and stores it in one round of its loop. A refusal keeps what
the rounds before it have stored, so a merge is atomic exactly if the first node it would store is
refused, or none is.
-/

namespace DistributedEvidenceLog

variable {codec : Codec} {self other : DistributedEvidenceLog}

/-- A refused merge leaves the log as it was; a merge that succeeds adds nodes at the end, and then
the log knows what either log knew. -/
def MergeAtomic (codec : Codec) (self other : DistributedEvidenceLog) : Prop :=
  match mergeConsistent codec other self with
  | .error _ after => after = self
  | .ok _ after =>
    self.dagNodes <+: after.dagNodes ∧ ∀ id, id ∈ after.nodeIds ↔ id ∈ self.nodeIds ∨ id ∈ other.nodeIds

/-! ### The nodes a merge has to store -/

/-- The nodes whose ids are not known, the first of each id. -/
def unseen (known : List Hash) : List DagNode → List DagNode
  | [] => []
  | node :: rest => if node.nodeId ∈ known then unseen known rest else node :: unseen (known ++ [node.nodeId]) rest

theorem mem_unseen_iff (known : List Hash) (nodes : List DagNode) (id : Hash) :
    id ∈ known ∨ id ∈ (unseen known nodes).map (·.nodeId) ↔ id ∈ known ∨ id ∈ nodes.map (·.nodeId) := by
  induction nodes generalizing known with
  | nil => rfl
  | cons node rest ih =>
    rw [unseen, List.map_cons, List.mem_cons]
    split_ifs with seen
    · rw [ih known]
      constructor
      · exact Or.imp_right .inr
      · rintro (old | rfl | later)
        · exact .inl old
        · exact .inl seen
        · exact .inr later
    · have grown := ih (known ++ [node.nodeId])
      rw [List.mem_append, List.mem_singleton, or_assoc, or_assoc] at grown
      rw [List.map_cons, List.mem_cons]
      exact grown

/-- Each of the nodes is mergeable once those before it are stored. -/
def MergesAll (codec : Codec) (other self : DistributedEvidenceLog) (nodes : List DagNode) : Prop :=
  ∀ before node rest, nodes = before ++ node :: rest →
    Mergeable codec (self.extend self.hostChains before) other node

theorem mergesAll_nil : MergesAll codec other self [] := by
  intro before node rest split
  simp at split

theorem mergesAll_cons {node : DagNode} {rest : List DagNode} :
    MergesAll codec other self (node :: rest) ↔
      Mergeable codec self other node ∧ MergesAll codec other (self.extend self.hostChains [node]) rest := by
  have none_ : self.extend self.hostChains [] = self := by rw [extend, List.append_nil]
  constructor
  · intro all
    refine ⟨none_ ▸ all [] node rest rfl, fun before next later split => ?_⟩
    rw [extend_extend, extend_hostChains]
    exact all (node :: before) next later (by rw [split, List.cons_append])
  · rintro ⟨first, later⟩ before next tail split
    cases before with
    | nil =>
      obtain ⟨rfl, rfl⟩ := List.cons.inj split
      rw [none_]
      exact first
    | cons head before =>
      obtain ⟨rfl, rfl⟩ := List.cons.inj split
      have merges := later before next tail rfl
      rwa [extend_extend, extend_hostChains] at merges

/-- The loop goes through to its end exactly if it merges every node it has to store, and then it
stores them. -/
theorem takeOver_complete_iff (codec : Codec) (self other : DistributedEvidenceLog) (nodes : List DagNode) :
    ((takeOver codec other self nodes).2 = true ↔ MergesAll codec other self (unseen self.nodeIds nodes)) ∧
      ((takeOver codec other self nodes).2 = true →
        (takeOver codec other self nodes).1 = unseen self.nodeIds nodes) := by
  induction nodes generalizing self with
  | nil => exact ⟨iff_of_true rfl mergesAll_nil, fun _ => rfl⟩
  | cons node rest ih =>
    rw [takeOver, unseen]
    simp only [contains_iff]
    split_ifs with seen mergeable
    · exact ih self
    · obtain ⟨completes, stores⟩ := ih (self.extend self.hostChains [node])
      rw [nodeIds_extend, List.map_singleton] at completes stores
      rw [mergesAll_cons, and_iff_right mergeable]
      exact ⟨completes, fun complete => congrArg (node :: ·) (stores complete)⟩
    · rw [mergesAll_cons]
      exact ⟨by simp [mergeable], by simp⟩

/-- The loop stores nothing exactly if there is nothing to store or the first node is refused. -/
theorem takeOver_eq_nil_iff (codec : Codec) (self other : DistributedEvidenceLog) (nodes : List DagNode) :
    (takeOver codec other self nodes).1 = [] ↔
      ∀ node, (unseen self.nodeIds nodes).head? = some node → ¬Mergeable codec self other node := by
  induction nodes with
  | nil => simp [takeOver, unseen]
  | cons node rest ih =>
    rw [takeOver, unseen]
    simp only [contains_iff]
    split_ifs with seen mergeable
    · exact ih
    · simp [mergeable]
    · simp [mergeable]

/-! ### When a merge is atomic -/

theorem mergeConsistent_cases (codec : Codec) (self other : DistributedEvidenceLog) :
    let taken := takeOver codec other self other.dagNodes
    (taken.2 = true ∧ ∃ total, mergeConsistent codec other self =
        .ok total (self.extend (adoptHeads self.hostChains other.hostChains) taken.1)) ∨
      (taken.2 = false ∧ ∃ failure, mergeConsistent codec other self =
        .error failure (self.extend self.hostChains taken.1)) := by
  unfold mergeConsistent
  rw [Stateful.bind_apply]
  obtain ⟨complete, total, ran⟩ | ⟨refused, failure, ran⟩ := mergeNodes_spec codec self other other.dagNodes 0
  · rw [ran]
    exact .inl ⟨complete, total, rfl⟩
  · rw [ran]
    exact .inr ⟨refused, failure, rfl⟩

/-- A merge is atomic exactly if it merges every node it has to store, or the first of them is refused
by the log as it stands. -/
theorem mergeAtomic_iff (codec : Codec) (self other : DistributedEvidenceLog) :
    MergeAtomic codec self other ↔
      MergesAll codec other self (unseen self.nodeIds other.dagNodes) ∨
        ∀ node, (unseen self.nodeIds other.dagNodes).head? = some node → ¬Mergeable codec self other node := by
  obtain ⟨completes, stores⟩ := takeOver_complete_iff codec self other other.dagNodes
  rw [← completes, ← takeOver_eq_nil_iff]
  unfold MergeAtomic
  obtain ⟨complete, total, ran⟩ | ⟨refused, failure, ran⟩ := mergeConsistent_cases codec self other
  · rw [ran]
    refine iff_of_true ⟨List.prefix_append _ _, fun id => ?_⟩ (.inl complete)
    rw [nodeIds_extend, stores complete, List.mem_append, mem_unseen_iff]
    rfl
  · rw [ran]
    dsimp only
    rw [refused, extend, or_iff_right Bool.false_ne_true]
    constructor
    · intro same
      exact List.append_right_eq_self.mp (congrArg dagNodes same)
    · intro nothing
      rw [nothing, List.append_nil]

/-- A foreign log with a genesis node and a node whose id was altered. -/
def alteredLog : DistributedEvidenceLog :=
  { new with dagNodes := [peerNode, { localNode with nodeId := secondChild.nodeId }] }

/-- The altered node is refused, and the genesis node stays. -/
theorem not_mergeAtomic_altered : ¬ ∀ self other, MergeAtomic sampleCodec self other := by
  intro atomic
  have merged := atomic new alteredLog
  obtain ⟨complete, -⟩ | ⟨-, failure, ran⟩ := mergeConsistent_cases sampleCodec new alteredLog
  · revert complete
    decide +kernel
  · rw [MergeAtomic, ran] at merged
    have kept := congrArg dagNodes merged
    revert kept
    decide +kernel

end DistributedEvidenceLog

end Aios.Fleet
