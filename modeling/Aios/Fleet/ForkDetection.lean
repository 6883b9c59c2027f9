import Aios.Fleet.EvidenceLog
import Aios.Lib.Forest

/-! # Fork detection between two hosts

`collect_ancestry` follows first parents and does not list the head it starts from; `detect_forks`
compares the two lists. It reports only histories without a common ancestor, and its walk ends only
where the first parents form no cycle, which `replicate_from_peer` and `merge_consistent` can break.
-/

namespace Aios.Fleet

open ParentForest

namespace DistributedEvidenceLog

variable {self : DistributedEvidenceLog}

variable {fuel : ℕ} {head : Hash} {hostA hostB : String} {headA headB : HostChainHead} {ancestryA ancestryB : List Hash}

/-! ## The walk and the comparison -/

def firstParent (self : DistributedEvidenceLog) (id : Hash) : Option Hash :=
  (self.find id).bind fun node => node.parents.head?

/-- The loop of `collect_ancestry`; no answer when the fuel is used up first. -/
def collectAncestry (self : DistributedEvidenceLog) (fuel : ℕ) (startHash : Hash) : Option (List Hash) :=
  trace self.firstParent fuel startHash

def detectForks (self : DistributedEvidenceLog) (fuel : ℕ) (hostA hostB : String) :
    Option (Except DagError (Option DagError) × DistributedEvidenceLog) :=
  match self.hostHead hostA with
  | none => some (.error (.missingHostChain hostA), self)
  | some headA =>
    match self.hostHead hostB with
    | none => some (.error (.missingHostChain hostB), self)
    | some headB => do
      let ancestryA ← self.collectAncestry fuel headA.headHash
      let ancestryB ← self.collectAncestry fuel headB.headHash
      let commonAncestors := ancestryA.filter fun hash => ancestryB.contains hash
      if commonAncestors.isEmpty && !ancestryA.isEmpty && !ancestryB.isEmpty then
        let fork := DagError.forkDetected hostA hostB (ancestryA.getLast?.getD "") (ancestryB.getLast?.getD "")
        some (.ok (some fork), { self with consistency := .forkDetected "no_common_ancestor" [hostA, hostB] })
      else some (.ok none, self)

/-! ## Lineages -/

/-- The id is on the first-parent path of the head, the head included. -/
def OnPath (self : DistributedEvidenceLog) (id head : Hash) : Prop :=
  id = head ∨ Ancestor self.firstParent id head

/-- Neither head is on the path of the other. -/
def Diverge (self : DistributedEvidenceLog) (headA headB : Hash) : Prop :=
  ¬ self.OnPath headA headB ∧ ¬ self.OnPath headB headA

/-- `detect_forks` ends, reports a fork if the heads diverge, and reports none if they do not. -/
def ForksDetected (self : DistributedEvidenceLog) (hostA hostB : String) (headA headB : Hash) : Prop :=
  ∃ fuel outcome after, self.detectForks fuel hostA hostB = some (.ok outcome, after) ∧
    (self.Diverge headA headB → ∃ ancestorA ancestorB, outcome = some (.forkDetected hostA hostB ancestorA ancestorB)) ∧
    (¬ self.Diverge headA headB → outcome = none)

/-- No node on the path of the head is above itself. -/
def Grounded (self : DistributedEvidenceLog) (head : Hash) : Prop :=
  ∀ id, self.OnPath id head → ¬ Ancestor self.firstParent id id

/-- Both lineages start above their heads and share nothing. -/
def Unrelated (self : DistributedEvidenceLog) (headA headB : Hash) : Prop :=
  self.firstParent headA ≠ none ∧ self.firstParent headB ≠ none ∧
    ∀ id, Ancestor self.firstParent id headA → ¬ Ancestor self.firstParent id headB

theorem exists_ancestor_iff : (∃ id, Ancestor self.firstParent id head) ↔ self.firstParent head ≠ none := by
  rw [Option.ne_none_iff_exists']
  constructor
  · rintro ⟨id, above⟩
    obtain ⟨parent, link, -⟩ := ancestor_iff_parent.mp above
    exact ⟨parent, link⟩
  · rintro ⟨parent, link⟩
    exact ⟨parent, .single link⟩

/-- The comparison finds a fork exactly between unrelated lineages. -/
theorem disjoint_ancestries_iff {headA headB : Hash} (walkedA : self.collectAncestry fuel headA = some ancestryA)
    (walkedB : self.collectAncestry fuel headB = some ancestryB) :
    ((ancestryA.filter fun hash => ancestryB.contains hash).isEmpty && !ancestryA.isEmpty &&
      !ancestryB.isEmpty) = true ↔
      self.Unrelated headA headB := by
  have membersA := mem_trace_iff walkedA
  have membersB := mem_trace_iff walkedB
  have nonemptyA : ancestryA ≠ [] ↔ self.firstParent headA ≠ none := by
    rw [← exists_ancestor_iff, ne_eq, List.eq_nil_iff_forall_not_mem, not_forall_not]
    exact exists_congr membersA
  have nonemptyB : ancestryB ≠ [] ↔ self.firstParent headB ≠ none := by
    rw [← exists_ancestor_iff, ne_eq, List.eq_nil_iff_forall_not_mem, not_forall_not]
    exact exists_congr membersB
  simp only [Unrelated, ← nonemptyA, ← nonemptyB, ← membersA, ← membersB, Bool.and_eq_true, Bool.not_eq_true',
    List.isEmpty_eq_false_iff, List.isEmpty_iff, List.filter_eq_nil_iff, List.contains_iff_mem]
  tauto

/-- Walking ends with some fuel exactly if the path has no cycle. -/
theorem collectAncestry_total_iff {headA headB : Hash} :
    (∃ fuel ancestryA ancestryB, self.collectAncestry fuel headA = some ancestryA ∧
        self.collectAncestry fuel headB = some ancestryB) ↔ self.Grounded headA ∧ self.Grounded headB := by
  constructor
  · rintro ⟨fuel, ancestryA, ancestryB, walkedA, walkedB⟩
    constructor
    · intro id onPath cycle
      rw [collectAncestry, trace_cycle cycle onPath] at walkedA
      cases walkedA
    · intro id onPath cycle
      rw [collectAncestry, trace_cycle cycle onPath] at walkedB
      cases walkedB
  · rintro ⟨groundedA, groundedB⟩
    have inner : ∀ a b, self.firstParent b = some a → b ∈ (self.dagNodes.map (·.nodeId)).toFinset := by
      intro a b link
      obtain ⟨node, found, -⟩ := Option.bind_eq_some_iff.mp link
      have stored := List.mem_of_find?_eq_some found
      have own := List.find?_some found
      simp only [decide_eq_true_eq] at own
      rw [List.mem_toFinset]
      exact List.mem_map.mpr ⟨node, stored, own⟩
    obtain ⟨ancestryA, walkedA⟩ := trace_total ∅ inner groundedA (by simp) (Nat.lt_succ_self _)
    obtain ⟨ancestryB, walkedB⟩ := trace_total ∅ inner groundedB (by simp) (Nat.lt_succ_self _)
    exact ⟨_, ancestryA, ancestryB, walkedA, walkedB⟩

/-! ## When forks are found -/

theorem detectForks_eq (trackedA : self.hostHead hostA = some headA) (trackedB : self.hostHead hostB = some headB)
    (walkedA : self.collectAncestry fuel headA.headHash = some ancestryA)
    (walkedB : self.collectAncestry fuel headB.headHash = some ancestryB) :
    (self.Unrelated headA.headHash headB.headHash → ∃ ancestorA ancestorB after,
        self.detectForks fuel hostA hostB = some (.ok (some (.forkDetected hostA hostB ancestorA ancestorB)), after)) ∧
      (¬ self.Unrelated headA.headHash headB.headHash → self.detectForks fuel hostA hostB = some (.ok none, self)) := by
  rw [← disjoint_ancestries_iff walkedA walkedB]
  simp only [detectForks, trackedA, trackedB, walkedA, walkedB, Option.bind_eq_bind, Option.bind_some]
  constructor
  · intro disjoint
    rw [if_pos disjoint]
    exact ⟨_, _, _, rfl⟩
  · intro related
    rw [if_neg related]

/-- Heads on one path have no unrelated lineages. -/
theorem Unrelated.diverge {headA headB : Hash} (unrelated : self.Unrelated headA headB) : self.Diverge headA headB := by
  obtain ⟨aboveA, aboveB, disjoint⟩ := unrelated
  obtain ⟨first, linkA⟩ := exists_ancestor_iff.mpr aboveA
  obtain ⟨second, linkB⟩ := exists_ancestor_iff.mpr aboveB
  constructor
  · rintro (rfl | above)
    · exact disjoint first linkA linkA
    · exact disjoint first linkA (linkA.trans above)
  · rintro (rfl | above)
    · exact disjoint second linkB linkB
    · exact disjoint second (linkB.trans above) linkB

theorem forksDetected_iff_of_heads (trackedA : self.hostHead hostA = some headA)
    (trackedB : self.hostHead hostB = some headB) :
    self.ForksDetected hostA hostB headA.headHash headB.headHash ↔
      (self.Grounded headA.headHash ∧ self.Grounded headB.headHash) ∧
        (self.Diverge headA.headHash headB.headHash → self.Unrelated headA.headHash headB.headHash) := by
  rw [← collectAncestry_total_iff]
  constructor
  · rintro ⟨fuel, outcome, after, ended, reports, -⟩
    obtain ⟨ancestryA, ancestryB, walkedA, walkedB⟩ : ∃ ancestryA ancestryB,
        self.collectAncestry fuel headA.headHash = some ancestryA ∧
          self.collectAncestry fuel headB.headHash = some ancestryB := by
      simp only [detectForks, trackedA, trackedB, Option.bind_eq_bind, Option.bind_eq_some_iff] at ended
      obtain ⟨ancestryA, walkedA, ancestryB, walkedB, -⟩ := ended
      exact ⟨ancestryA, ancestryB, walkedA, walkedB⟩
    refine ⟨⟨fuel, ancestryA, ancestryB, walkedA, walkedB⟩, fun diverge => ?_⟩
    by_contra related
    obtain ⟨ancestorA, ancestorB, rfl⟩ := reports diverge
    rw [(detectForks_eq trackedA trackedB walkedA walkedB).2 related] at ended
    simp at ended
  · rintro ⟨⟨fuel, ancestryA, ancestryB, walkedA, walkedB⟩, found⟩
    obtain ⟨reports, silent⟩ := detectForks_eq trackedA trackedB walkedA walkedB
    by_cases unrelated : self.Unrelated headA.headHash headB.headHash
    · obtain ⟨ancestorA, ancestorB, after, ended⟩ := reports unrelated
      exact ⟨fuel, _, after, ended, fun _ => ⟨ancestorA, ancestorB, rfl⟩, fun joined => absurd unrelated.diverge joined⟩
    · exact ⟨fuel, none, self, silent unrelated, fun diverge => absurd (found diverge) unrelated, fun _ => rfl⟩

/-- In every reachable log, `detect_forks` ends and reports exactly the diverging heads of two tracked
hosts if and only if no cycle lies on their paths and diverging heads have unrelated lineages. -/
theorem forksDetected_iff (codec : Codec) (ops : List LogOp) (hostA hostB : String) (headA headB : HostChainHead)
    (trackedA : (runFrom codec ops).hostHead hostA = some headA)
    (trackedB : (runFrom codec ops).hostHead hostB = some headB) :
    (runFrom codec ops).ForksDetected hostA hostB headA.headHash headB.headHash ↔
      ((runFrom codec ops).Grounded headA.headHash ∧ (runFrom codec ops).Grounded headB.headHash) ∧
        ((runFrom codec ops).Diverge headA.headHash headB.headHash →
          (runFrom codec ops).Unrelated headA.headHash headB.headHash) :=
  forksDetected_iff_of_heads trackedA trackedB

/-- Divergence is read off the walks. -/
theorem diverge_iff {headA headB : Hash} (walkedA : self.collectAncestry fuel headA = some ancestryA)
    (walkedB : self.collectAncestry fuel headB = some ancestryB) :
    self.Diverge headA headB ↔ headA ∉ headB :: ancestryB ∧ headB ∉ headA :: ancestryA := by
  simp only [Diverge, OnPath, List.mem_cons, mem_trace_iff walkedA, mem_trace_iff walkedB]

/-- Two hosts continue genesis nodes of their own. -/
def separateLineages : List LogOp :=
  [.addNode localNode, .addNode peerNode, .addNode peerChild, .addNode thirdChild]

/-- Their heads diverge, and the fork is reported. -/
theorem forksDetected_separateLineages :
    (runFrom sampleCodec separateLineages).Diverge peerChild.nodeId thirdChild.nodeId ∧
      (runFrom sampleCodec separateLineages).ForksDetected "host_02" "host_03" peerChild.nodeId thirdChild.nodeId := by
  have walkedPeer : (runFrom sampleCodec separateLineages).collectAncestry 2 peerChild.nodeId =
      some [peerNode.nodeId] := by decide +kernel
  have walkedThird : (runFrom sampleCodec separateLineages).collectAncestry 2 thirdChild.nodeId =
      some [localNode.nodeId] := by decide +kernel
  have grounded := collectAncestry_total_iff.mp ⟨2, _, _, walkedPeer, walkedThird⟩
  have unrelated := (disjoint_ancestries_iff walkedPeer walkedThird).mp (by decide +kernel)
  refine ⟨unrelated.diverge, ?_⟩
  apply (forksDetected_iff sampleCodec separateLineages "host_02" "host_03" ⟨"host_02", _, 2⟩
    ⟨"host_03", _, 1⟩ (by decide +kernel) (by decide +kernel)).mpr
  exact ⟨grounded, fun _ => unrelated⟩

/-- Two hosts continue one genesis node. -/
def forkAfterGenesis : DistributedEvidenceLog :=
  runFrom sampleCodec [.addNode localNode, .addNode secondChild, .addNode thirdChild]

/-- The common prefix hides the fork. -/
theorem not_forksDetected_afterGenesis :
    forkAfterGenesis.hostHead "host_02" = some ⟨"host_02", secondChild.nodeId, 1⟩ ∧
      forkAfterGenesis.hostHead "host_03" = some ⟨"host_03", thirdChild.nodeId, 1⟩ ∧
      ¬ forkAfterGenesis.ForksDetected "host_02" "host_03" secondChild.nodeId thirdChild.nodeId := by
  have second : forkAfterGenesis.hostHead "host_02" = some ⟨"host_02", secondChild.nodeId, 1⟩ := by decide +kernel
  have third : forkAfterGenesis.hostHead "host_03" = some ⟨"host_03", thirdChild.nodeId, 1⟩ := by decide +kernel
  have walkedSecond : forkAfterGenesis.collectAncestry 2 secondChild.nodeId = some [localNode.nodeId] := by
    decide +kernel
  have walkedThird : forkAfterGenesis.collectAncestry 2 thirdChild.nodeId = some [localNode.nodeId] := by
    decide +kernel
  have diverge := (diverge_iff walkedSecond walkedThird).mpr (by decide +kernel)
  refine ⟨second, third, fun detected => ?_⟩
  -- the walks share the genesis node
  have unrelated := ((forksDetected_iff_of_heads second third).mp detected).2 diverge
  rw [← disjoint_ancestries_iff walkedSecond walkedThird] at unrelated
  revert unrelated
  decide +kernel

end DistributedEvidenceLog

end Aios.Fleet
