import Aios.Lib.Run
import Aios.Lib.Table
import Mathlib.Data.UInt
import Mathlib.Order.Fin.Basic

/-! # The partition scheduler

The embedding of `scheduler.rs`. Capsules are kept in a map, ready capsules also in one queue for
each effective priority, and each partition counts its ready capsules. `next` indexes the maps; an
index of a missing key panics in the source and is an error here. Allocation counters and their sum
are machine words, and the budget comparison is the source's floating-point one.
-/

namespace Aios.Scheduler

abbrev CapsuleId := ℕ

/-- A scheduling priority, 0 to 119; the lower number is the higher priority. -/
abbrev CapsulePriority := Fin 120

namespace CapsulePriority

def new (level : ℕ) : Option CapsulePriority := if fits : level < 120 then some ⟨level, fits⟩ else none

/-- The first ten levels are the real-time band. -/
def isRealtime (self : CapsulePriority) : Bool := self.val < 10

/-- The higher of two priorities. -/
def max (self other : CapsulePriority) : CapsulePriority := if self.val ≤ other.val then self else other

end CapsulePriority

/-- A single schedulable capsule. -/
structure CapsuleSchedulingEntity where
  capsuleId : CapsuleId
  basePriority : CapsulePriority
  effectivePriority : CapsulePriority
  partitionName : String
  ready : Bool
deriving DecidableEq, Repr

namespace CapsuleSchedulingEntity

def new (capsuleId : CapsuleId) (basePriority : CapsulePriority) (partitionName : String) :
    CapsuleSchedulingEntity :=
  { capsuleId, basePriority, effectivePriority := basePriority, partitionName, ready := true }

def inheritFrom (self : CapsuleSchedulingEntity) (senderPriority : CapsulePriority) : CapsuleSchedulingEntity :=
  { self with effectivePriority := CapsulePriority.max self.basePriority senderPriority }

def clearInheritance (self : CapsuleSchedulingEntity) : CapsuleSchedulingEntity :=
  { self with effectivePriority := self.basePriority }

end CapsuleSchedulingEntity

/-- A named group of capsules that share a budget. -/
structure AdaptivePartition where
  name : String
  guaranteePct : UInt8
  maxPct : UInt8
  allocated : UInt64
  readyCount : ℕ
deriving DecidableEq, Repr

namespace AdaptivePartition

def new (name : String) (guaranteePct maxPct : UInt8) : Option AdaptivePartition :=
  if guaranteePct > maxPct ∨ maxPct > 100 then none
  else some { name, guaranteePct, maxPct, allocated := 0, readyCount := 0 }

/-- Whether the partition is below its guarantee and should be favoured. -/
def isBelowGuarantee (self : AdaptivePartition) (totalAllocated : UInt64) : Bool :=
  if totalAllocated = 0 then false
  else self.allocated.toFloat / totalAllocated.toFloat * 100.0 < self.guaranteePct.toFloat

end AdaptivePartition

inductive DecisionReason where
  | highestPriority
  | partitionGuarantee
  | priorityInheritance
  | onlyReady
  | idle
deriving DecidableEq, Repr

structure SchedulingDecision where
  capsuleId : CapsuleId
  priority : CapsulePriority
  partitionName : String
  reason : DecisionReason
deriving DecidableEq, Repr

/-- The ready capsules, one queue for each priority in use. -/
abbrev ReadyQueue := SortedTable CapsulePriority (List CapsuleId)

namespace ReadyQueue

/-- `entry(priority).or_default().push_back(id)`. -/
def pushBack (self : ReadyQueue) (priority : CapsulePriority) (id : CapsuleId) : ReadyQueue :=
  SortedTable.insert self priority ((SortedTable.lookup self priority).getD [] ++ [id])

/-- Take a capsule out of a queue, and the queue out of the map once it is empty. -/
def remove (self : ReadyQueue) (priority : CapsulePriority) (id : CapsuleId) : ReadyQueue :=
  match SortedTable.lookup self priority with
  | none => self
  | some queue =>
      let kept := queue.filter (· != id)
      if kept.isEmpty then SortedTable.erase self priority else SortedTable.insert self priority kept

end ReadyQueue

structure PartitionScheduler where
  entities : Table CapsuleId CapsuleSchedulingEntity
  partitions : Table String AdaptivePartition
  readyQueue : ReadyQueue

/-- The key a panicking index did not find. -/
inductive MissingKey where
  | capsule (id : CapsuleId)
  | partition (name : String)
deriving DecidableEq, Repr

namespace PartitionScheduler

variable (self : PartitionScheduler)

def new : PartitionScheduler := ⟨∅, ∅, .empty⟩

def addPartition (partition : AdaptivePartition) : PartitionScheduler × Bool :=
  if (self.partitions.lookup partition.name).isSome then (self, false)
  else ({ self with partitions := self.partitions.insert partition.name partition }, true)

/-- Register a capsule in a partition that exists. -/
def registerCapsule (entity : CapsuleSchedulingEntity) : PartitionScheduler × Bool :=
  if (self.entities.lookup entity.capsuleId).isSome then (self, false)
  else if (self.partitions.lookup entity.partitionName).isNone then (self, false)
  else
    let counted : PartitionScheduler :=
      if entity.ready then
        { self with
          partitions := self.partitions.modify entity.partitionName fun partition =>
            { partition with readyCount := partition.readyCount + 1 }
          readyQueue := self.readyQueue.pushBack entity.effectivePriority entity.capsuleId }
      else self
    ({ counted with entities := counted.entities.insert entity.capsuleId entity }, true)

/-- `ready_count.saturating_sub(1)` on a partition that may be missing. -/
def uncount (partitions : Table String AdaptivePartition) (name : String) : Table String AdaptivePartition :=
  partitions.modify name fun partition => { partition with readyCount := partition.readyCount - 1 }

def unregisterCapsule (id : CapsuleId) : PartitionScheduler × Bool :=
  match self.entities.lookup id with
  | none => (self, false)
  | some entity =>
    let removed : PartitionScheduler := { self with entities := self.entities.erase id }
    if entity.ready then
      ({ removed with
         readyQueue := removed.readyQueue.remove entity.effectivePriority id
         partitions := uncount removed.partitions entity.partitionName }, true)
    else (removed, true)

def setReady (id : CapsuleId) (ready : Bool) : PartitionScheduler × Bool :=
  match self.entities.lookup id with
  | none => (self, false)
  | some entity =>
    if entity.ready = ready then (self, true)
    else
      let marked : PartitionScheduler := { self with entities := self.entities.insert id { entity with ready } }
      if ready then
        ({ marked with
           readyQueue := marked.readyQueue.pushBack entity.effectivePriority id
           partitions := marked.partitions.modify entity.partitionName fun partition =>
             { partition with readyCount := partition.readyCount + 1 } }, true)
      else
        ({ marked with
           readyQueue := marked.readyQueue.remove entity.effectivePriority id
           partitions := uncount marked.partitions entity.partitionName }, true)

/-- The shared body of the two priority changes: store the entity with its new effective priority and
move it between the queues if it is ready. -/
def reprioritise (id : CapsuleId) (change : CapsuleSchedulingEntity → CapsuleSchedulingEntity) :
    PartitionScheduler × Bool :=
  match self.entities.lookup id with
  | none => (self, false)
  | some entity =>
    let changed := change entity
    let stored : PartitionScheduler := { self with entities := self.entities.insert id changed }
    if changed.effectivePriority = entity.effectivePriority then (stored, false)
    else if changed.ready then
      ({ stored with
         readyQueue :=
           (stored.readyQueue.remove entity.effectivePriority id).pushBack changed.effectivePriority id }, true)
    else (stored, true)

def inheritPriority (id : CapsuleId) (senderPriority : CapsulePriority) : PartitionScheduler × Bool :=
  self.reprioritise id (·.inheritFrom senderPriority)

def clearInheritance (self : PartitionScheduler) (id : CapsuleId) : PartitionScheduler × Bool :=
  self.reprioritise id (·.clearInheritance)

/-- The counter wraps, as in a release build. -/
def recordAllocation (decision : SchedulingDecision) : PartitionScheduler :=
  { self with
    partitions := self.partitions.modify decision.partitionName fun partition =>
      { partition with allocated := partition.allocated + 1 } }

/-! ## The scheduling decision -/

/-- `self.entities[&id]`. -/
def indexEntity (id : CapsuleId) : Except MissingKey CapsuleSchedulingEntity :=
  match self.entities.lookup id with
  | some entity => .ok entity
  | none => .error (.capsule id)

/-- `self.partitions[&name]`. -/
def indexPartition (name : String) : Except MissingKey AdaptivePartition :=
  match self.partitions.lookup name with
  | some partition => .ok partition
  | none => .error (.partition name)

def decisionFor (priority : CapsulePriority) (reason : DecisionReason) (id : CapsuleId) :
    Except MissingKey SchedulingDecision := do
  let entity ← self.indexEntity id
  return { capsuleId := id, priority, partitionName := entity.partitionName, reason }

/-- Pass 1: the first capsule of the real-time band. -/
def firstRealtime (self : PartitionScheduler) :
    List (CapsulePriority × List CapsuleId) → Except MissingKey (Option SchedulingDecision)
  | [] => return none
  | (priority, queue) :: rest =>
      if !CapsulePriority.isRealtime priority then return none
      else match queue.head? with
        | some id => some <$> self.decisionFor priority .highestPriority id
        | none => self.firstRealtime rest

/-- One turn of pass 2: keep the higher-priority capsule of a partition below its guarantee. -/
def favour (totalAllocated : UInt64) (priority : CapsulePriority) (best : Option SchedulingDecision) (id : CapsuleId) :
    Except MissingKey (Option SchedulingDecision) := do
  let entity ← self.indexEntity id
  let partition ← self.indexPartition entity.partitionName
  if partition.isBelowGuarantee totalAllocated then
    let decision : SchedulingDecision :=
      { capsuleId := id, priority, partitionName := entity.partitionName, reason := .partitionGuarantee }
    match best with
    | none => return some decision
    | some previous => return some (if priority < previous.priority then decision else previous)
  else return best

/-- Pass 2: the best capsule of the partitions below their guarantee. -/
def bestByGuarantee : Except MissingKey (Option SchedulingDecision) :=
  let totalAllocated := (self.partitions.values.map (·.allocated)).sum
  self.readyQueue.entries.foldlM
    (fun best bucket => bucket.2.foldlM (self.favour totalAllocated bucket.1) best) none

/-- Pass 3: the first capsule of all. -/
def firstOfAll (self : PartitionScheduler) :
    List (CapsulePriority × List CapsuleId) → Except MissingKey (Option SchedulingDecision)
  | [] => return none
  | (priority, queue) :: rest =>
      match queue.head? with
      | some id => some <$> self.decisionFor priority .highestPriority id
      | none => self.firstOfAll rest

/-- The sum of the counters wraps, as in a release build. -/
def next : Except MissingKey (Option SchedulingDecision) := do
  match ← self.firstRealtime self.readyQueue.entries with
  | some decision => return some decision
  | none =>
    match ← self.bestByGuarantee with
    | some decision => return some decision
    | none => self.firstOfAll self.readyQueue.entries

end PartitionScheduler

/-! ## Runs -/

inductive SchedulerOp where
  | addPartition (partition : AdaptivePartition)
  | registerCapsule (entity : CapsuleSchedulingEntity)
  | unregisterCapsule (id : CapsuleId)
  | setReady (id : CapsuleId) (ready : Bool)
  | inheritPriority (id : CapsuleId) (senderPriority : CapsulePriority)
  | clearInheritance (id : CapsuleId)
  | recordAllocation (decision : SchedulingDecision)

namespace PartitionScheduler

def step (self : PartitionScheduler) : SchedulerOp → PartitionScheduler
  | .addPartition partition => (self.addPartition partition).1
  | .registerCapsule entity => (self.registerCapsule entity).1
  | .unregisterCapsule id => (self.unregisterCapsule id).1
  | .setReady id ready => (self.setReady id ready).1
  | .inheritPriority id senderPriority => (self.inheritPriority id senderPriority).1
  | .clearInheritance id => (self.clearInheritance id).1
  | .recordAllocation decision => self.recordAllocation decision

/-- The scheduler after a sequence of operations on a new one. -/
def runFrom (ops : List SchedulerOp) : PartitionScheduler := StepRun.run step new ops

end PartitionScheduler

end Aios.Scheduler
