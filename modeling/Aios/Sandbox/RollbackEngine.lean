import Aios.Sandbox.Lifecycle
import Mathlib.Data.List.Chain
import Mathlib.Data.UInt

/-! # The rollback engine

The embedding of `rollback_engine.rs` and of the part of `snapshot.rs` it calls. The engine counts
failures, keeps the time and the number of the rollbacks of each capsule, and looks into the snapshot
store for what to restore. Snapshot ids are counted without a bound; the counter would wrap only after
`2 ^ 64` snapshots.
-/

namespace Aios.Sandbox

namespace SnapshotStore

def list (self : SnapshotStore) (capsuleId : CapsuleId) : List CapsuleSnapshot :=
  (self.snapshots.lookup capsuleId).getD []

/-- The snapshot stored last for a capsule. -/
def latest (self : SnapshotStore) (capsuleId : CapsuleId) : Option CapsuleSnapshot :=
  (self.snapshots.lookup capsuleId).bind List.getLast?

/-- Remove the snapshot with the id from the first of the lists, in the order of the map, that has one. -/
def deleteSnapshot (order : IterationOrder (Σ _ : CapsuleId, List CapsuleSnapshot)) (self : SnapshotStore)
    (snapshotId : SnapshotId) : SnapshotStore × Bool :=
  match (order.arrange self.snapshots.entries).find? fun entry => entry.2.any (·.id = snapshotId) with
  | some entry =>
      ({ self with snapshots := self.snapshots.modify entry.1 (List.eraseP (·.id = snapshotId)) }, true)
  | none => (self, false)

end SnapshotStore

/-- Guardrails for the automated rollback. -/
structure RollbackPolicy where
  failureThreshold : UInt32 := 3
  cooldownSeconds : UInt64 := 60
  maxDepth : UInt32 := 5
deriving DecidableEq, Repr

inductive RollbackDecision where
  | rollback (snapshotId : SnapshotId)
  | noAction
  | thresholdNotReached
  | noSnapshotAvailable
deriving DecidableEq, Repr

structure RollbackResult where
  appliedSnapshotId : SnapshotId
  newSnapshot : CapsuleSnapshot
  timestamp : UInt64
deriving DecidableEq

structure RollbackEngine where
  snapshotStore : SnapshotStore
  failureCounts : Table CapsuleId UInt32
  lastRollback : Table CapsuleId UInt64
  rollbackDepth : Table CapsuleId UInt32
  policy : RollbackPolicy

/-- `u32::saturating_add(1)`. -/
def saturatingSucc32 (count : UInt32) : UInt32 := if count.toNat + 1 < UInt32.size then count + 1 else count

/-- `u64::saturating_add`. -/
def saturatingAdd64 (first second : UInt64) : UInt64 :=
  if first.toNat + second.toNat < UInt64.size then first + second else UInt64.ofNat (UInt64.size - 1)

namespace RollbackEngine

variable (self : RollbackEngine)

def withStore (store : SnapshotStore) : RollbackEngine := ⟨store, ∅, ∅, ∅, {}⟩

def new : RollbackEngine := withStore {}

def setPolicy (policy : RollbackPolicy) : RollbackEngine := { self with policy }

def failureCount (capsuleId : CapsuleId) : UInt32 :=
  (self.failureCounts.lookup capsuleId).getD 0

def rollbackDepthFor (capsuleId : CapsuleId) : UInt32 :=
  (self.rollbackDepth.lookup capsuleId).getD 0

/-- The branches of the source on the cooldown and on the depth are empty. -/
def shouldRollback (capsuleId : CapsuleId) : RollbackDecision :=
  if self.failureCount capsuleId < self.policy.failureThreshold then .thresholdNotReached
  else match self.snapshotStore.latest capsuleId with
    | some snapshot => .rollback snapshot.id
    | none => .noSnapshotAvailable

def shouldRollbackAt (capsuleId : CapsuleId) (now : UInt64) : RollbackDecision :=
  if self.failureCount capsuleId < self.policy.failureThreshold then .thresholdNotReached
  else if (self.lastRollback.lookup capsuleId).any fun last =>
      saturatingAdd64 last self.policy.cooldownSeconds > now then .noAction
  else if self.rollbackDepthFor capsuleId ≥ self.policy.maxDepth then .noAction
  else match self.snapshotStore.latest capsuleId with
    | some snapshot => .rollback snapshot.id
    | none => .noSnapshotAvailable

def recordFailure (capsuleId : CapsuleId) : RollbackEngine × RollbackDecision :=
  let counted : RollbackEngine :=
    { self with
      failureCounts := self.failureCounts.insert capsuleId (saturatingSucc32 (self.failureCount capsuleId)) }
  (counted, counted.shouldRollback capsuleId)

def recordSuccess (capsuleId : CapsuleId) : RollbackEngine :=
  { self with failureCounts := self.failureCounts.insert capsuleId 0 }

def executeRollback (capsuleId : CapsuleId) (now : UInt64) : RollbackEngine × Except String RollbackResult :=
  match self.snapshotStore.latest capsuleId with
  | none => (self, .error "no snapshot available for capsule")
  | some latest =>
    let (store, newSnapshot) := self.snapshotStore.freeze capsuleId s!"rollback-from-snap-{latest.id}" now.toNat
      (.capsuleState [] "application/aios-rollback-trace")
    ({ self with
       snapshotStore := store
       lastRollback := self.lastRollback.insert capsuleId now
       failureCounts := self.failureCounts.insert capsuleId 0
       rollbackDepth := self.rollbackDepth.insert capsuleId (saturatingSucc32 (self.rollbackDepthFor capsuleId)) },
      .ok { appliedSnapshotId := latest.id, newSnapshot, timestamp := now })

/-- Freeze a capsule in the store behind the engine. -/
def freeze (capsuleId : CapsuleId) (label : String) (frozenAt : UInt64) (payload : SnapshotPayload) :
    RollbackEngine × CapsuleSnapshot :=
  let (store, snapshot) := self.snapshotStore.freeze capsuleId label frozenAt.toNat payload
  ({ self with snapshotStore := store }, snapshot)

end RollbackEngine

/-! ## What the store holds -/

namespace SnapshotStore

variable {self : SnapshotStore} {capsuleId other : CapsuleId}

theorem latest_eq_getLast? : self.latest capsuleId = (self.list capsuleId).getLast? := by
  unfold latest list
  cases self.snapshots.lookup capsuleId <;> rfl

theorem list_freeze (label : String) (frozenAt : ℕ) (payload : SnapshotPayload) :
    (self.freeze capsuleId label frozenAt payload).1.list other =
      if other = capsuleId then
        self.list capsuleId ++ [(self.freeze capsuleId label frozenAt payload).2]
      else self.list other := by
  unfold list freeze
  dsimp only
  rw [Table.lookup_insert_eq]
  split_ifs <;> rfl

end SnapshotStore

end Aios.Sandbox

/-! ## Guardrails of the automated rollback

INV-RE-002 and INV-RE-004: between two rollbacks of a capsule the cooldown passes, and no capsule is
rolled back more than `max_depth` times. A caller that follows the documentation rolls back when
`record_failure` says so, and `record_failure` asks the query without a clock, which checks neither.
So the guardrails hold in the runs in which no failure asks for a rollback while one of them stands.
-/

namespace Aios.Sandbox.RollbackEngine

section

variable (store : SnapshotStore) (self : RollbackEngine)

/-- A call on the engine. A failure is recorded at a time, and the caller executes a rollback exactly when
the decision asks for one. -/
inductive EngineOp where
  | failure (capsuleId : CapsuleId) (now : UInt64)
  | success (capsuleId : CapsuleId)
  | freeze (capsuleId : CapsuleId) (label : String) (frozenAt : UInt64) (payload : SnapshotPayload)
deriving DecidableEq

/-- `record_failure`, and `execute_rollback` if the decision is to roll back. -/
def handleFailure (capsuleId : CapsuleId) (now : UInt64) : RollbackEngine × Option RollbackResult :=
  let (failed, decision) := self.recordFailure capsuleId
  match decision with
  | .rollback _ =>
    let (after, result) := failed.executeRollback capsuleId now
    (after, result.toOption)
  | _ => (failed, none)

def perform : EngineOp → RollbackEngine
  | .failure capsuleId now => (self.handleFailure capsuleId now).1
  | .success capsuleId => self.recordSuccess capsuleId
  | .freeze capsuleId label frozenAt payload => (self.freeze capsuleId label frozenAt payload).1

/-- The time of the rollback of a capsule that the call has executed. -/
def rolledBack (capsuleId : CapsuleId) (self : RollbackEngine) : EngineOp → Option UInt64
  | .failure other now => if other = capsuleId then (self.handleFailure other now).2.map (·.timestamp) else none
  | _ => none

/-- The engine after a run of calls under a policy, over a store that may hold snapshots already. -/
def runOver (policy : RollbackPolicy) (ops : List EngineOp) : RollbackEngine :=
  StepRun.run perform ((withStore store).setPolicy policy) ops

/-- The times of the rollbacks of a capsule, in order. -/
def rollbackTimes (policy : RollbackPolicy) (capsuleId : CapsuleId) (ops : List EngineOp) : List UInt64 :=
  (StepRun.trace perform (rolledBack capsuleId) ((withStore store).setPolicy policy) ops).filterMap Prod.snd

/-- The cooldown passes between two successive rollbacks of a capsule, and there are `max_depth` at most. -/
def Guardrails (policy : RollbackPolicy) (ops : List EngineOp) : Prop :=
  ∀ capsuleId,
    (rollbackTimes store policy capsuleId ops).IsChain
      (fun earlier later => earlier.toNat + policy.cooldownSeconds.toNat ≤ later.toNat) ∧
    (rollbackTimes store policy capsuleId ops).length ≤ policy.maxDepth.toNat

/-- The failure reaches the threshold, and there is a snapshot to restore. -/
def Triggers (capsuleId : CapsuleId) : Prop :=
  self.policy.failureThreshold ≤ saturatingSucc32 (self.failureCount capsuleId) ∧
    (self.snapshotStore.latest capsuleId).isSome

/-- A failure that asks for a rollback comes after the cooldown and before the depth is exhausted. -/
def Guarded : EngineOp → Prop
  | .failure capsuleId now => self.Triggers capsuleId →
      (∀ last, self.lastRollback.lookup capsuleId = some last →
        last.toNat + self.policy.cooldownSeconds.toNat ≤ now.toNat) ∧
      self.rollbackDepthFor capsuleId < self.policy.maxDepth
  | _ => True

/-! ### What a call does -/

end

variable {self : RollbackEngine} {capsuleId other : CapsuleId} {now : UInt64}

/-- What a rollback of a capsule does to the record: the capsule's time and depth move, and nobody else's. -/
structure Moved (before after : RollbackEngine) (capsuleId : CapsuleId) (now : UInt64) : Prop where
  policy : after.policy = before.policy
  last : after.lastRollback = before.lastRollback.insert capsuleId now
  depth : after.rollbackDepth =
    before.rollbackDepth.insert capsuleId (saturatingSucc32 (before.rollbackDepthFor capsuleId))

/-- The record of the rollbacks is as it was. -/
structure Unmoved (before after : RollbackEngine) : Prop where
  policy : after.policy = before.policy
  last : after.lastRollback = before.lastRollback
  depth : after.rollbackDepth = before.rollbackDepth

/-- A failure that asks for a rollback gets one. -/
theorem handleFailure_triggered (triggers : self.Triggers capsuleId) :
    (self.handleFailure capsuleId now).2.map (·.timestamp) = some now ∧
      self.Moved (self.handleFailure capsuleId now).1 capsuleId now := by
  obtain ⟨reached, available⟩ := triggers
  obtain ⟨latest, found⟩ := Option.isSome_iff_exists.mp available
  have decided : (self.recordFailure capsuleId).2 = .rollback latest.id := by
    simp only [recordFailure, shouldRollback, failureCount, AList.lookup_insert, Option.getD_some, found]
    exact if_neg (UInt32.not_lt.mpr reached)
  have stored : (self.recordFailure capsuleId).1.snapshotStore.latest capsuleId = some latest := found
  simp only [handleFailure, decided, executeRollback, stored]
  exact ⟨rfl, rfl, rfl, rfl⟩

/-- Any other failure is only counted. -/
theorem handleFailure_idle (idle : ¬ self.Triggers capsuleId) :
    self.handleFailure capsuleId now = ((self.recordFailure capsuleId).1, none) := by
  have decided : ∀ snapshotId, (self.recordFailure capsuleId).2 ≠ .rollback snapshotId := by
    intro snapshotId decided
    simp only [recordFailure, shouldRollback, failureCount, AList.lookup_insert, Option.getD_some] at decided
    split_ifs at decided with below
    cases found : self.snapshotStore.latest capsuleId with
    | none => simp [found] at decided
    | some latest => exact idle ⟨UInt32.not_lt.mp below, by rw [found]; rfl⟩
  unfold handleFailure
  generalize self.recordFailure capsuleId = recorded at decided
  obtain ⟨failed, decision⟩ := recorded
  cases decision with
  | rollback snapshotId => exact absurd rfl (decided snapshotId)
  | _ => rfl

/-- A call rolls a capsule back at a time or leaves the record of its rollbacks as it was. -/
theorem perform_cases (op : EngineOp) :
    (∃ capsuleId now, op = .failure capsuleId now ∧ self.Triggers capsuleId ∧
      (∀ other, rolledBack other self op = if capsuleId = other then some now else none) ∧
      self.Moved (self.perform op) capsuleId now) ∨
    ((∀ capsuleId now, op = .failure capsuleId now → ¬ self.Triggers capsuleId) ∧
      (∀ other, rolledBack other self op = none) ∧ self.Unmoved (self.perform op)) := by
  cases op with
  | failure capsuleId now =>
    by_cases triggers : self.Triggers capsuleId
    · obtain ⟨executed, moved⟩ := @handleFailure_triggered self capsuleId now triggers
      refine .inl ⟨capsuleId, now, rfl, triggers, fun other => ?_, moved⟩
      simp only [rolledBack, executed]
    · have idle := @handleFailure_idle self capsuleId now triggers
      refine .inr ⟨?_, fun other => ?_, ?_⟩
      · rintro _ _ same
        cases same
        exact triggers
      · simp only [rolledBack, idle, Option.map_none, ite_self]
      · simp only [perform, idle]
        exact ⟨rfl, rfl, rfl⟩
  | success capsuleId => exact .inr ⟨by simp, fun _ => rfl, rfl, rfl, rfl⟩
  | freeze capsuleId label frozenAt payload => exact .inr ⟨by simp, fun _ => rfl, rfl, rfl, rfl⟩

/-! ### The record of the rollbacks -/

variable {store : SnapshotStore} {policy : RollbackPolicy} {ops : List EngineOp} {op : EngineOp}

theorem toNat_saturatingSucc32 (count : UInt32) :
    (saturatingSucc32 count).toNat = min (count.toNat + 1) (UInt32.size - 1) := by
  have bound := count.toNat_lt_size
  unfold saturatingSucc32
  split_ifs with fits
  · rw [UInt32.toNat_add, UInt32.toNat_one, Nat.mod_eq_of_lt fits]
    omega
  · omega

theorem rollbackTimes_append_singleton :
    rollbackTimes store policy capsuleId (ops ++ [op]) =
      rollbackTimes store policy capsuleId ops ++ (rolledBack capsuleId (runOver store policy ops) op).toList := by
  rw [rollbackTimes, StepRun.trace_append_singleton, List.filterMap_append]
  congr 1

theorem runOver_append_singleton : runOver store policy (ops ++ [op]) = (runOver store policy ops).perform op :=
  StepRun.run_append ..

/-- The engine keeps the time of the last rollback of each capsule, and their number as far as it can. -/
structure Recorded (engine : RollbackEngine) (policy : RollbackPolicy) (times : CapsuleId → List UInt64) : Prop where
  inForce : engine.policy = policy
  last : ∀ capsuleId, engine.lastRollback.lookup capsuleId = (times capsuleId).getLast?
  depth : ∀ capsuleId, (engine.rollbackDepthFor capsuleId).toNat = min (times capsuleId).length (UInt32.size - 1)

variable {after : RollbackEngine} {times : CapsuleId → List UInt64}

/-- A bound on the depth that the engine keeps is one on the number of rollbacks. -/
theorem Recorded.depth_lt_iff (recorded : Recorded self policy times) {maxDepth : UInt32} :
    self.rollbackDepthFor capsuleId < maxDepth ↔ (times capsuleId).length < maxDepth.toNat := by
  have bound := maxDepth.toNat_lt_size
  rw [UInt32.lt_iff_toNat_lt, recorded.depth]
  omega

theorem recorded_start : Recorded ((withStore store).setPolicy policy) policy fun _ => [] :=
  ⟨rfl, fun _ => rfl, fun _ => rfl⟩

theorem Recorded.moved (recorded : Recorded self policy times) (moved : self.Moved after capsuleId now) :
    Recorded after policy fun other => times other ++ (if capsuleId = other then some now else none).toList := by
  refine ⟨moved.policy.trans recorded.inForce, fun other => ?_, fun other => ?_⟩
  · rw [moved.last, Table.lookup_insert_eq, recorded.last]
    by_cases same : other = capsuleId
    · simp [same]
    · simp [same, Ne.symm same]
  · have depth := recorded.depth other
    rw [rollbackDepthFor, moved.depth, Table.lookup_insert_eq]
    by_cases same : other = capsuleId
    · subst same
      simp only [if_true, Option.getD_some, toNat_saturatingSucc32, Option.toList_some, List.length_append,
        List.length_singleton]
      omega
    · rw [if_neg same, if_neg (Ne.symm same), Option.toList_none, List.append_nil]
      exact depth

theorem Recorded.unmoved (recorded : Recorded self policy times) (unmoved : self.Unmoved after) :
    Recorded after policy times := by
  refine ⟨unmoved.policy.trans recorded.inForce, fun other => ?_, fun other => ?_⟩
  · rw [unmoved.last, recorded.last]
  · rw [rollbackDepthFor, unmoved.depth]
    exact recorded.depth other

theorem runOver_recorded :
    Recorded (runOver store policy ops) policy fun capsuleId => rollbackTimes store policy capsuleId ops := by
  induction ops using List.reverseRecOn with
  | nil => exact recorded_start
  | append_singleton before op ih =>
    simp only [runOver_append_singleton, rollbackTimes_append_singleton]
    obtain ⟨capsuleId, now, -, -, rolled, moved⟩ | ⟨-, rolled, unmoved⟩ :=
      @perform_cases (runOver store policy before) op
    · simp only [rolled]
      exact ih.moved moved
    · simp only [rolled, Option.toList_none, List.append_nil]
      exact ih.unmoved unmoved

/-! ### Over whole runs -/

/-- Whether a failure that asks for a rollback is guarded can be read off the rollbacks made so far. -/
theorem Recorded.guarded_failure_iff (recorded : Recorded self policy times) (triggers : self.Triggers capsuleId) :
    self.Guarded (.failure capsuleId now) ↔
      (∀ last, (times capsuleId).getLast? = some last → last.toNat + policy.cooldownSeconds.toNat ≤ now.toNat) ∧
      (times capsuleId).length < policy.maxDepth.toNat := by
  rw [Guarded, recorded.inForce, recorded.last, recorded.depth_lt_iff]
  exact ⟨fun holds => holds triggers, fun holds _ => holds⟩

/-- One more time keeps the distance exactly if it keeps it from the last. -/
theorem isChain_append_singleton_iff {R : UInt64 → UInt64 → Prop} {times : List UInt64} {time : UInt64} :
    (times ++ [time]).IsChain R ↔ times.IsChain R ∧ ∀ last, times.getLast? = some last → R last time := by
  rw [List.isChain_append, and_iff_right (List.isChain_singleton time)]
  refine and_congr_right fun _ => ⟨fun holds last final => holds last final time rfl, ?_⟩
  intro holds last final next first
  obtain rfl : time = next := Option.some.inj first
  exact holds last final

/-- One more call keeps the guardrails exactly if it is guarded. -/
theorem guardrails_append_singleton :
    Guardrails store policy (ops ++ [op]) ↔
      Guardrails store policy ops ∧ (runOver store policy ops).Guarded op := by
  obtain ⟨capsuleId, now, rfl, triggers, rolled, -⟩ | ⟨idle, rolled, -⟩ :=
    @perform_cases (runOver store policy ops) op
  · have own : rollbackTimes store policy capsuleId (ops ++ [.failure capsuleId now]) =
        rollbackTimes store policy capsuleId ops ++ [now] := by
      rw [rollbackTimes_append_singleton, rolled, if_pos rfl]
      rfl
    rw [runOver_recorded.guarded_failure_iff triggers]
    constructor
    · intro kept
      refine ⟨fun other => ?_, ?_⟩
      · obtain ⟨chain, length⟩ := kept other
        rw [rollbackTimes_append_singleton] at chain length
        rw [List.length_append] at length
        exact ⟨chain.left_of_append, by omega⟩
      · obtain ⟨chain, length⟩ := kept capsuleId
        rw [own] at chain length
        rw [List.length_append] at length
        exact ⟨(isChain_append_singleton_iff.mp chain).2, length⟩
    · rintro ⟨kept, apart, fewer⟩ other
      obtain ⟨chain, length⟩ := kept other
      by_cases same : capsuleId = other
      · subst same
        rw [own, List.length_append]
        exact ⟨isChain_append_singleton_iff.mpr ⟨chain, apart⟩, fewer⟩
      · rw [rollbackTimes_append_singleton, rolled, if_neg same, Option.toList_none, List.append_nil]
        exact ⟨chain, length⟩
  · have same : ∀ capsuleId, rollbackTimes store policy capsuleId (ops ++ [op]) =
        rollbackTimes store policy capsuleId ops := by
      intro capsuleId
      rw [rollbackTimes_append_singleton, rolled, Option.toList_none, List.append_nil]
    have guarded : (runOver store policy ops).Guarded op := by
      cases op with
      | failure capsuleId now => exact fun triggers => absurd triggers (idle capsuleId now rfl)
      | _ => trivial
    simp only [Guardrails, same, guarded, and_true]

/-- A run keeps the guardrails exactly when each of its calls is guarded. -/
theorem guardrails_iff (store : SnapshotStore) (policy : RollbackPolicy) (ops : List EngineOp) :
    Guardrails store policy ops ↔
      ∀ before op rest, ops = before ++ op :: rest → (runOver store policy before).Guarded op := by
  refine Iff.trans ?_ (StepRun.along_iff_cut perform Guarded ((withStore store).setPolicy policy) ops)
  induction ops using List.reverseRecOn with
  | nil => exact iff_of_true (fun _ => ⟨.nil, Nat.zero_le _⟩) trivial
  | append_singleton before op ih =>
    rw [guardrails_append_singleton, ih, StepRun.along_append, StepRun.along_cons]
    simp only [StepRun.along_nil, and_true]
    rfl

/-- Two failures ten seconds apart under a threshold of one and a cooldown of sixty seconds. -/
def twoFailures : List EngineOp :=
  [.freeze 1 "baseline" 100 (.capsuleState [1, 2, 3] "application/octet-stream"), .failure 1 1000, .failure 1 1010]

theorem not_guardrails_twoFailures :
    ¬ Guardrails {} { failureThreshold := 1, cooldownSeconds := 60, maxDepth := 5 } twoFailures := by
  intro kept
  have apart := (kept 1).1
  revert apart
  decide

/-! ### A caller that asks with the clock -/

section

variable (store : SnapshotStore) (self : RollbackEngine)

/-- `record_failure`, and `execute_rollback` if `should_rollback_at` then asks for it. -/
def handleFailureAt (capsuleId : CapsuleId) (now : UInt64) : RollbackEngine × Option RollbackResult :=
  let (failed, _) := self.recordFailure capsuleId
  match failed.shouldRollbackAt capsuleId now with
  | .rollback _ =>
    let (after, result) := failed.executeRollback capsuleId now
    (after, result.toOption)
  | _ => (failed, none)

def performAt : EngineOp → RollbackEngine
  | .failure capsuleId now => (self.handleFailureAt capsuleId now).1
  | op => self.perform op

def rolledBackAt (capsuleId : CapsuleId) (self : RollbackEngine) : EngineOp → Option UInt64
  | .failure other now => if other = capsuleId then (self.handleFailureAt other now).2.map (·.timestamp) else none
  | _ => none

def runAt (policy : RollbackPolicy) (ops : List EngineOp) : RollbackEngine :=
  StepRun.run performAt ((withStore store).setPolicy policy) ops

def rollbackTimesAt (policy : RollbackPolicy) (capsuleId : CapsuleId) (ops : List EngineOp) : List UInt64 :=
  (StepRun.trace performAt (rolledBackAt capsuleId) ((withStore store).setPolicy policy) ops).filterMap Prod.snd

end

theorem toNat_saturatingAdd64 (first second : UInt64) :
    (saturatingAdd64 first second).toNat = min (first.toNat + second.toNat) (UInt64.size - 1) := by
  unfold saturatingAdd64
  split_ifs with fits
  · rw [UInt64.toNat_add, Nat.mod_eq_of_lt fits]
    omega
  · rw [min_eq_right (by omega)]
    rfl

/-- The end of the cooldown after a rollback, on a clock that stops at the largest time. -/
def cooledAt (policy : RollbackPolicy) (last : UInt64) : ℕ :=
  min (last.toNat + policy.cooldownSeconds.toNat) (UInt64.size - 1)

/-- The query asks for a rollback where there is a snapshot and both guardrails allow it. -/
theorem shouldRollbackAt_eq_rollback {snapshotId : SnapshotId}
    (asked : self.shouldRollbackAt capsuleId now = .rollback snapshotId) :
    (∃ latest, self.snapshotStore.latest capsuleId = some latest) ∧
      (∀ last, self.lastRollback.lookup capsuleId = some last → cooledAt self.policy last ≤ now.toNat) ∧
      self.rollbackDepthFor capsuleId < self.policy.maxDepth := by
  unfold shouldRollbackAt at asked
  split_ifs at asked with below cooling exhausted
  refine ⟨?_, fun last known => ?_, UInt32.not_le.mp exhausted⟩
  · cases found : self.snapshotStore.latest capsuleId with
    | none => simp [found] at asked
    | some latest => exact ⟨latest, rfl⟩
  · rw [known] at cooling
    have passed : ¬ saturatingAdd64 last self.policy.cooldownSeconds > now :=
      fun still => cooling (decide_eq_true still)
    rwa [gt_iff_lt, UInt64.not_lt, UInt64.le_iff_toNat_le, toNat_saturatingAdd64] at passed

/-- A call rolls a capsule back where the guardrails allow it, or leaves the record of the rollbacks as it was. -/
theorem performAt_cases (op : EngineOp) :
    (∃ capsuleId now, (∀ other, rolledBackAt other self op = if capsuleId = other then some now else none) ∧
      (∀ last, self.lastRollback.lookup capsuleId = some last → cooledAt self.policy last ≤ now.toNat) ∧
      self.rollbackDepthFor capsuleId < self.policy.maxDepth ∧ self.Moved (self.performAt op) capsuleId now) ∨
    ((∀ other, rolledBackAt other self op = none) ∧ self.Unmoved (self.performAt op)) := by
  cases op with
  | failure capsuleId now =>
    cases asked : (self.recordFailure capsuleId).1.shouldRollbackAt capsuleId now with
    | rollback snapshotId =>
      obtain ⟨⟨latest, stored⟩, cooled, fewer⟩ := shouldRollbackAt_eq_rollback asked
      refine .inl ⟨capsuleId, now, fun other => ?_, cooled, fewer, ?_⟩
      · simp only [rolledBackAt, handleFailureAt, asked, executeRollback, stored]
        rfl
      · simp only [performAt, handleFailureAt, asked, executeRollback, stored]
        exact ⟨rfl, rfl, rfl⟩
    | _ =>
      refine .inr ⟨fun other => ?_, ?_⟩
      · simp only [rolledBackAt, handleFailureAt, asked, Option.map_none, ite_self]
      · simp only [performAt, handleFailureAt, asked]
        exact ⟨rfl, rfl, rfl⟩
  | success capsuleId => exact .inr ⟨fun _ => rfl, rfl, rfl, rfl⟩
  | freeze capsuleId label frozenAt payload => exact .inr ⟨fun _ => rfl, rfl, rfl, rfl⟩

theorem rollbackTimesAt_append_singleton :
    rollbackTimesAt store policy capsuleId (ops ++ [op]) =
      rollbackTimesAt store policy capsuleId ops ++ (rolledBackAt capsuleId (runAt store policy ops) op).toList := by
  rw [rollbackTimesAt, StepRun.trace_append_singleton, List.filterMap_append]
  congr 1

/-- One more call keeps the record and both guardrails. -/
theorem runAt_recorded :
    Recorded (runAt store policy ops) policy (fun capsuleId => rollbackTimesAt store policy capsuleId ops) ∧
      ∀ capsuleId,
        (rollbackTimesAt store policy capsuleId ops).IsChain
          (fun earlier later => cooledAt policy earlier ≤ later.toNat) ∧
        (rollbackTimesAt store policy capsuleId ops).length ≤ policy.maxDepth.toNat := by
  induction ops using List.reverseRecOn with
  | nil => exact ⟨recorded_start, fun _ => ⟨.nil, Nat.zero_le _⟩⟩
  | append_singleton before op ih =>
    obtain ⟨recorded, kept⟩ := ih
    have after : runAt store policy (before ++ [op]) = (runAt store policy before).performAt op := StepRun.run_append ..
    simp only [after, rollbackTimesAt_append_singleton]
    obtain ⟨capsuleId, now, rolled, cooled, fewer, moved⟩ | ⟨rolled, unmoved⟩ :=
      @performAt_cases (runAt store policy before) op
    · simp only [rolled]
      refine ⟨recorded.moved moved, fun other => ?_⟩
      by_cases own : capsuleId = other
      · subst own
        rw [recorded.depth_lt_iff, recorded.inForce] at fewer
        rw [recorded.last, recorded.inForce] at cooled
        rw [if_pos rfl, Option.toList_some, List.length_append]
        exact ⟨isChain_append_singleton_iff.mpr ⟨(kept capsuleId).1, cooled⟩, fewer⟩
      · rw [if_neg own, Option.toList_none, List.append_nil]
        exact kept other
    · simp only [rolled, Option.toList_none, List.append_nil]
      exact ⟨recorded.unmoved unmoved, kept⟩

/-- A caller that asks with the clock after each failure keeps both guardrails. -/
theorem guardrails_of_clock (store : SnapshotStore) (policy : RollbackPolicy) (ops : List EngineOp)
    (capsuleId : CapsuleId) :
    (rollbackTimesAt store policy capsuleId ops).IsChain (fun earlier later => cooledAt policy earlier ≤ later.toNat) ∧
      (rollbackTimesAt store policy capsuleId ops).length ≤ policy.maxDepth.toNat :=
  runAt_recorded.2 capsuleId

example : rollbackTimesAt {} { failureThreshold := 1 } 1
    [.freeze 1 "baseline" 100 (.capsuleState [] ""), .failure 1 1000, .failure 1 1010, .failure 1 1060] =
      [1000, 1060] := by decide

end Aios.Sandbox.RollbackEngine
