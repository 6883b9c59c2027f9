import Aios.Scheduler.PartitionScheduler
import Mathlib.Logic.Function.Basic

/-! # Scheduler integrity

The queues list exactly the ready capsules, each once and under its effective priority, in every
state a run reaches. A partition counts its ready capsules from the count it was added with:
`add_partition` stores the partition as it is given.
-/

namespace Aios.Scheduler

namespace ReadyQueue

/-- The capsules queued at a priority. -/
def queued (self : ReadyQueue) (priority : CapsulePriority) : List CapsuleId :=
  (SortedTable.lookup self priority).getD []

variable {self : ReadyQueue} {slot : CapsuleId → Option CapsulePriority} {priority : CapsulePriority} {id : CapsuleId}

/-- The queues list each capsule once at its slot and nowhere else, and none is empty. -/
structure Lists (queue : ReadyQueue) (slot : CapsuleId → Option CapsulePriority) : Prop where
  nonempty : ∀ priority, SortedTable.lookup queue priority ≠ some []
  nodup : ∀ priority, (queue.queued priority).Nodup
  listed : ∀ priority id, id ∈ queue.queued priority ↔ slot id = some priority

theorem queued_pushBack (other : CapsulePriority) :
    (self.pushBack priority id).queued other =
      if other = priority then self.queued priority ++ [id] else self.queued other := by
  simp only [queued, pushBack, SortedTable.lookup_insert]
  split_ifs <;> rfl

theorem queued_remove (other : CapsulePriority) :
    (self.remove priority id).queued other =
      if other = priority then (self.queued priority).filter (· != id) else self.queued other := by
  unfold remove
  cases stored : SortedTable.lookup self priority with
  | none =>
    by_cases same : other = priority
    · simp [queued, same, stored]
    · simp [same]
  | some queue =>
    by_cases same : other = priority
    · subst same
      by_cases empty : (queue.filter (· != id)).isEmpty
      · have nothing : queue.filter (· != id) = [] := by simpa using empty
        simp [nothing, queued, SortedTable.lookup_erase, stored]
      · simp [empty, queued, SortedTable.lookup_insert, stored]
    · dsimp only
      split_ifs
      · simp [queued, SortedTable.lookup_erase, same]
      · simp [queued, SortedTable.lookup_insert, same]

/-- Queueing a capsule that is in no queue. -/
theorem Lists.pushBack (lists : self.Lists slot) (unlisted : slot id = none) :
    (self.pushBack priority id).Lists (Function.update slot id (some priority)) where
  nonempty := by
    intro other
    simp only [ReadyQueue.pushBack, SortedTable.lookup_insert]
    split_ifs
    · simp
    · exact lists.nonempty other
  nodup := by
    intro other
    rw [queued_pushBack]
    split_ifs with same
    · have fresh : id ∉ self.queued priority := by
        rw [lists.listed, unlisted]
        simp
      refine List.Nodup.append (lists.nodup priority) (List.nodup_singleton id) ?_
      simpa using fresh
    · exact lists.nodup other
  listed := by
    intro other member
    rw [queued_pushBack]
    by_cases isNew : member = id
    · subst isNew
      rw [Function.update_self]
      split_ifs with same
      · simp [same]
      · rw [lists.listed, unlisted]
        simp [Ne.symm same]
    · rw [Function.update_of_ne isNew]
      split_ifs with same
      · simp [isNew, lists.listed, same]
      · exact lists.listed other member

/-- Taking a capsule out of the queue it is in. -/
theorem Lists.remove (lists : self.Lists slot) (queuedAt : slot id = some priority) :
    (self.remove priority id).Lists (Function.update slot id none) where
  nonempty := by
    intro other
    unfold ReadyQueue.remove
    cases stored : SortedTable.lookup self priority with
    | none => exact lists.nonempty other
    | some queue =>
      dsimp only
      split_ifs with empty
      · rw [SortedTable.lookup_erase]
        split_ifs
        · simp
        · exact lists.nonempty other
      · rw [SortedTable.lookup_insert]
        split_ifs
        · intro nothing
          rw [Option.some.inj nothing] at empty
          exact empty rfl
        · exact lists.nonempty other
  nodup := by
    intro other
    rw [queued_remove]
    split_ifs
    · exact (lists.nodup priority).filter _
    · exact lists.nodup other
  listed := by
    intro other member
    rw [queued_remove]
    by_cases isGone : member = id
    · subst isGone
      rw [Function.update_self]
      split_ifs with same
      · simp
      · rw [lists.listed, queuedAt]
        simp [Ne.symm same]
    · rw [Function.update_of_ne isGone]
      split_ifs with same
      · simp [isGone, lists.listed, same]
      · exact lists.listed other member

/-- A capsule that keeps its slot. -/
theorem Lists.unmoved (lists : self.Lists slot) {new : Option CapsulePriority} (same : new = slot id) :
    self.Lists (Function.update slot id new) := by
  rw [same, Function.update_eq_self]
  exact lists

end ReadyQueue

/-- Where a capsule is to be queued: nowhere unless it is ready. -/
def CapsuleSchedulingEntity.slot (self : CapsuleSchedulingEntity) : Option CapsulePriority :=
  if self.ready then some self.effectivePriority else none

theorem CapsuleSchedulingEntity.slot_ready {entity : CapsuleSchedulingEntity} (ready : entity.ready = true) :
    entity.slot = some entity.effectivePriority := if_pos ready

theorem CapsuleSchedulingEntity.slot_idle {entity : CapsuleSchedulingEntity} (idle : entity.ready = false) :
    entity.slot = none :=
  if_neg (by simp [idle])

namespace PartitionScheduler

open ReadyQueue

variable {self before after : PartitionScheduler} {id : CapsuleId} {entity : CapsuleSchedulingEntity}

variable {home : String} {added : String → Option ℕ} (ops : List SchedulerOp) (name : String)

def slot (self : PartitionScheduler) (id : CapsuleId) : Option CapsulePriority :=
  (self.entities.lookup id).bind CapsuleSchedulingEntity.slot

/-- The capsule is registered and ready. -/
def Ready (self : PartitionScheduler) (id : CapsuleId) (entity : CapsuleSchedulingEntity) : Prop :=
  self.entities.lookup id = some entity ∧ entity.ready = true

theorem slot_eq_some_iff {priority : CapsulePriority} :
    self.slot id = some priority ↔ ∃ entity, self.Ready id entity ∧ entity.effectivePriority = priority := by
  simp only [slot, Option.bind_eq_some_iff, CapsuleSchedulingEntity.slot, Ready]
  constructor
  · rintro ⟨entity, stored, queued⟩
    split_ifs at queued with ready
    exact ⟨entity, ⟨stored, ready⟩, Option.some.inj queued⟩
  · rintro ⟨entity, ⟨stored, ready⟩, rfl⟩
    exact ⟨entity, stored, if_pos ready⟩

theorem slot_of_stored (stored : self.entities.lookup id = some entity) : self.slot id = entity.slot := by
  rw [slot, stored, Option.bind_some]

theorem slot_assign {new : Option CapsuleSchedulingEntity} (assigned : after.entities = before.entities.assign id new) :
    after.slot = Function.update before.slot id (new.bind CapsuleSchedulingEntity.slot) := by
  funext other
  by_cases same : other = id
  · subst same
    simp [slot, assigned, Table.lookup_assign]
  · simp [slot, assigned, Table.lookup_assign, same]

/-- What every operation keeps of the queues and the partitions. -/
structure QueueSound (scheduler : PartitionScheduler) : Prop where
  lists : scheduler.readyQueue.Lists scheduler.slot
  partitioned : ∀ id entity, scheduler.entities.lookup id = some entity →
    (scheduler.partitions.lookup entity.partitionName).isSome

/-! ## Counting ready capsules -/

def countsIn (entity : CapsuleSchedulingEntity) : Bool :=
  entity.ready && entity.partitionName == name

/-- The number of ready capsules of a partition. -/
def readyIn (self : PartitionScheduler) (name : String) : ℕ :=
  self.entities.count fun _ entity => countsIn name entity

/-- The count of a partition that is stored. -/
def counts (self : PartitionScheduler) (name : String) : Option ℕ :=
  (self.partitions.lookup name).map (·.readyCount)

/-- Each stored partition counts its ready capsules on top of the number it was added with. -/
def Counted (self : PartitionScheduler) (added : String → Option ℕ) : Prop :=
  ∀ name, self.counts name = (added name).map (· + self.readyIn name)

/-- What a capsule contributes to the count of a partition. -/
def weight (entity : Option CapsuleSchedulingEntity) (name : String) : ℕ :=
  if entity.any (countsIn name) then 1 else 0

theorem weight_none : weight none name = 0 := rfl

theorem weight_ready (ready : entity.ready = true) (name : String) :
    weight (some entity) name = if name = entity.partitionName then 1 else 0 := by
  have counting : countsIn name entity = true ↔ name = entity.partitionName := by
    rw [countsIn, ready, Bool.true_and, beq_iff_eq]
    exact eq_comm
  simp only [weight, Option.any_some, counting]

theorem weight_idle (idle : entity.ready = false) (name : String) : weight (some entity) name = 0 := by
  simp [weight, countsIn, idle]

theorem readyIn_assign {new : Option CapsuleSchedulingEntity}
    (assigned : after.entities = before.entities.assign id new)
    (name : String) :
    after.readyIn name + weight (before.entities.lookup id) name = before.readyIn name + weight new name := by
  rw [readyIn, assigned]
  exact Table.count_assign _ _ _ _

theorem counts_raise
    (raised : after.partitions = before.partitions.modify home fun partition =>
      { partition with readyCount := partition.readyCount + 1 })
    (name : String) : after.counts name = (before.counts name).map (· + if name = home then 1 else 0) := by
  rw [counts, raised, Table.lookup_modify]
  by_cases same : name = home
  · subst same
    simp [counts, Function.comp_def]
  · simp [counts, same, Function.comp_def]

theorem counts_lower (lowered : after.partitions = uncount before.partitions home) (name : String) :
    after.counts name = (before.counts name).map (· - if name = home then 1 else 0) := by
  rw [counts, lowered, uncount, Table.lookup_modify]
  by_cases same : name = home
  · subst same
    simp [counts, Function.comp_def]
  · simp [counts, same, Function.comp_def]

/-! ## Operations on one capsule -/

/-- The operation puts `new` in the place of the capsule, moves it to the slot of `new`, and adjusts
the counter of its partition by the difference. -/
structure Reassigns (before after : PartitionScheduler) (id : CapsuleId) (new : Option CapsuleSchedulingEntity) :
    Prop where
  entities : after.entities = before.entities.assign id new
  requeued : before.readyQueue.Lists before.slot →
    after.readyQueue.Lists (Function.update before.slot id (new.bind CapsuleSchedulingEntity.slot))
  recounted : ∀ name, after.counts name = (before.counts name).map fun count =>
    count + weight new name - weight (before.entities.lookup id) name
  housed : ∀ entity, new = some entity → (before.partitions.lookup entity.partitionName).isSome

theorem isSome_counts (self : PartitionScheduler) (name : String) :
    (self.counts name).isSome = (self.partitions.lookup name).isSome := by
  rw [counts, Option.isSome_map]

theorem Reassigns.queueSound {new : Option CapsuleSchedulingEntity} (reassigns : Reassigns before after id new)
    (sound : before.QueueSound) : after.QueueSound := by
  have kept : ∀ name, (after.partitions.lookup name).isSome = (before.partitions.lookup name).isSome := by
    intro name
    rw [← isSome_counts, ← isSome_counts, reassigns.recounted, Option.isSome_map]
  refine ⟨?_, fun other entity stored => ?_⟩
  · rw [slot_assign reassigns.entities]
    exact reassigns.requeued sound.lists
  · rw [kept]
    rw [reassigns.entities, Table.lookup_assign] at stored
    split_ifs at stored
    · exact reassigns.housed entity stored
    · exact sound.partitioned other entity stored

theorem Reassigns.counted {new : Option CapsuleSchedulingEntity} (reassigns : Reassigns before after id new)
    (counted : before.Counted added) : after.Counted added := by
  intro name
  rw [reassigns.recounted, counted, Option.map_map]
  congr 1
  funext count
  have balance := readyIn_assign reassigns.entities name
  simp only [Function.comp_apply]
  omega

/-! ## What one operation keeps -/

theorem QueueSound.addPartition (sound : self.QueueSound) (partition : AdaptivePartition) :
    (self.addPartition partition).1.QueueSound := by
  unfold PartitionScheduler.addPartition
  split_ifs with taken
  · exact sound
  · refine ⟨sound.lists, fun id entity stored => ?_⟩
    rw [Table.lookup_insert_eq]
    split_ifs
    · rfl
    · exact sound.partitioned id entity stored

/-- Adding a partition starts its counter at the number the partition comes with. -/
theorem Counted.addPartition (sound : self.QueueSound) (counted : self.Counted added) (partition : AdaptivePartition) :
    (self.addPartition partition).1.Counted fun name =>
      (added name).or (if partition.name = name then some partition.readyCount else none) := by
  have present : ∀ name, (self.partitions.lookup name).isSome = (added name).isSome := by
    intro name
    have equal := congrArg Option.isSome (counted name)
    simpa [counts] using equal
  unfold PartitionScheduler.addPartition
  split_ifs with taken
  · intro name
    rw [counted]
    by_cases same : partition.name = name
    · subst same
      rw [present] at taken
      obtain ⟨count, known⟩ := Option.isSome_iff_exists.mp taken
      simp [known]
    · simp [same]
  · intro name
    change ((self.partitions.insert partition.name partition).lookup name).map (·.readyCount) =
      ((added name).or _).map (· + self.readyIn name)
    rw [Table.lookup_insert_eq]
    by_cases same : name = partition.name
    · subst same
      have unknown : added partition.name = none := by
        rw [present] at taken
        simpa using taken
      have nobody : self.readyIn partition.name = 0 := by
        rw [readyIn, Table.count, List.countP_eq_zero]
        intro entry member counting
        have stored : self.entities.lookup entry.1 = some entry.2 := AList.mem_lookup_iff.mpr member
        have belongs : entry.2.partitionName = partition.name := by
          simp only [countsIn, Bool.and_eq_true, beq_iff_eq] at counting
          exact counting.2
        have there := sound.partitioned entry.1 entry.2 stored
        rw [belongs] at there
        exact taken there
      simp [unknown, nobody]
    · have kept := counted name
      simp only [counts] at kept
      simp [same, Ne.symm same, kept]

theorem registerCapsule_effect (self : PartitionScheduler) (entity : CapsuleSchedulingEntity) :
    (self.registerCapsule entity).1 = self ∨
      Reassigns self (self.registerCapsule entity).1 entity.capsuleId (some entity) := by
  unfold PartitionScheduler.registerCapsule
  by_cases taken : (self.entities.lookup entity.capsuleId).isSome
  · exact .inl (by rw [if_pos taken])
  by_cases homeless : (self.partitions.lookup entity.partitionName).isNone
  · exact .inl (by rw [if_neg taken, if_pos homeless])
  have absent : self.entities.lookup entity.capsuleId = none := by simpa using taken
  have there : (self.partitions.lookup entity.partitionName).isSome := by
    simpa [Option.isSome_iff_ne_none] using homeless
  have unqueued : self.slot entity.capsuleId = none := by rw [slot, absent, Option.bind_none]
  right
  rw [if_neg taken, if_neg homeless]
  cases ready : entity.ready with
  | true =>
    refine ⟨rfl, fun lists => ?_, fun name => ?_, fun other same => Option.some.inj same ▸ there⟩
    · rw [Option.bind_some, CapsuleSchedulingEntity.slot_ready ready]
      exact lists.pushBack unqueued
    · rw [absent, weight_none, weight_ready ready]
      exact counts_raise rfl name
  | false =>
    refine ⟨rfl, fun lists => ?_, fun name => ?_, fun other same => Option.some.inj same ▸ there⟩
    · rw [Option.bind_some, CapsuleSchedulingEntity.slot_idle ready]
      exact lists.unmoved unqueued.symm
    · rw [absent, weight_none, weight_idle ready]
      exact Option.map_id'.symm

theorem unregisterCapsule_effect (self : PartitionScheduler) (id : CapsuleId) :
    (self.unregisterCapsule id).1 = self ∨ Reassigns self (self.unregisterCapsule id).1 id none := by
  unfold PartitionScheduler.unregisterCapsule
  cases stored : self.entities.lookup id with
  | none => exact .inl rfl
  | some entity =>
    have slotted := slot_of_stored stored
    right
    dsimp only
    cases ready : entity.ready with
    | true =>
      refine ⟨rfl, fun lists => ?_, fun name => ?_, fun other impossible => by cases impossible⟩
      · exact lists.remove (slotted.trans (CapsuleSchedulingEntity.slot_ready ready))
      · rw [stored, weight_none, weight_ready ready]
        exact counts_lower rfl name
    | false =>
      refine ⟨rfl, fun lists => ?_, fun name => ?_, fun other impossible => by cases impossible⟩
      · exact lists.unmoved (slotted.trans (CapsuleSchedulingEntity.slot_idle ready)).symm
      · rw [stored, weight_none, weight_idle ready]
        exact Option.map_id'.symm

theorem setReady_effect (sound : self.QueueSound) (id : CapsuleId) (ready : Bool) :
    (self.setReady id ready).1 = self ∨ ∃ entity, Reassigns self (self.setReady id ready).1 id (some entity) := by
  unfold PartitionScheduler.setReady
  cases stored : self.entities.lookup id with
  | none => exact .inl rfl
  | some entity =>
    have slotted := slot_of_stored stored
    have there := sound.partitioned id entity stored
    dsimp only
    by_cases same : entity.ready = ready
    · exact .inl (by rw [if_pos same])
    right
    refine ⟨{ entity with ready }, ?_⟩
    rw [if_neg same]
    cases ready with
    | true =>
      have idle : entity.ready = false := by simpa using same
      refine ⟨rfl, fun lists => ?_, fun name => ?_, fun other chosen => Option.some.inj chosen ▸ there⟩
      · exact lists.pushBack (slotted.trans (CapsuleSchedulingEntity.slot_idle idle))
      · rw [stored, weight_idle idle, weight_ready rfl]
        exact counts_raise rfl name
    | false =>
      have running : entity.ready = true := by simpa using same
      refine ⟨rfl, fun lists => ?_, fun name => ?_, fun other chosen => Option.some.inj chosen ▸ there⟩
      · exact lists.remove (slotted.trans (CapsuleSchedulingEntity.slot_ready running))
      · rw [stored, weight_ready running, weight_idle rfl]
        exact counts_lower rfl name

/-- A change of the effective priority alone moves the capsule between the queues. -/
theorem reprioritise_effect (sound : self.QueueSound) (id : CapsuleId)
    (change : CapsuleSchedulingEntity → CapsuleSchedulingEntity)
    (frame : ∀ entity, change entity = { entity with effectivePriority := (change entity).effectivePriority }) :
    (self.reprioritise id change).1 = self ∨
      ∃ entity, Reassigns self (self.reprioritise id change).1 id (some entity) := by
  unfold reprioritise
  cases stored : self.entities.lookup id with
  | none => exact .inl rfl
  | some entity =>
    have slotted := slot_of_stored stored
    have sameReady : (change entity).ready = entity.ready := by rw [frame]
    have samePartition : (change entity).partitionName = entity.partitionName := by rw [frame]
    have there : (self.partitions.lookup (change entity).partitionName).isSome := by
      rw [samePartition]
      exact sound.partitioned id entity stored
    have recounted : ∀ name, self.counts name = (self.counts name).map fun count =>
        count + weight (some (change entity)) name - weight (self.entities.lookup id) name := by
      intro name
      have same : weight (some (change entity)) name = weight (some entity) name := by
        have equal : countsIn name (change entity) = countsIn name entity := by
          rw [countsIn, countsIn, sameReady, samePartition]
        rw [weight, weight, Option.any_some, Option.any_some, equal]
      simp [stored, same]
    right
    refine ⟨change entity, ?_⟩
    dsimp only
    split_ifs with unmoved ready
    · refine ⟨rfl, fun lists => lists.unmoved ?_, recounted, fun other chosen => Option.some.inj chosen ▸ there⟩
      rw [slotted, Option.bind_some, CapsuleSchedulingEntity.slot, sameReady, unmoved]
      rfl
    · refine ⟨rfl, fun lists => ?_, recounted, fun other chosen => Option.some.inj chosen ▸ there⟩
      have running : entity.ready = true := sameReady ▸ ready
      have removed := lists.remove (slotted.trans (CapsuleSchedulingEntity.slot_ready running))
      have queued : ((self.readyQueue.remove entity.effectivePriority id).pushBack
          (change entity).effectivePriority id).Lists
          (Function.update (Function.update self.slot id none) id (some (change entity).effectivePriority)) :=
        removed.pushBack (Function.update_self id none self.slot)
      rw [Function.update_idem] at queued
      rw [Option.bind_some, CapsuleSchedulingEntity.slot_ready ready]
      exact queued
    · refine ⟨rfl, fun lists => lists.unmoved ?_, recounted, fun other chosen => Option.some.inj chosen ▸ there⟩
      have idle : (change entity).ready = false := by simpa using ready
      rw [slotted, Option.bind_some, CapsuleSchedulingEntity.slot_idle idle,
        CapsuleSchedulingEntity.slot_idle (sameReady ▸ idle)]

theorem counts_recordAllocation (self : PartitionScheduler) (decision : SchedulingDecision) (name : String) :
    (self.recordAllocation decision).counts name = self.counts name := by
  rw [counts, recordAllocation, Table.lookup_modify]
  by_cases same : name = decision.partitionName
  · subst same
    simp [counts, Function.comp_def]
  · simp [counts, same]

/-! ## Over whole runs -/

/-- An operation leaves the scheduler alone, reassigns one capsule, or is about partitions. -/
theorem step_cases (sound : self.QueueSound) (op : SchedulerOp) :
    self.step op = self ∨ (∃ id new, Reassigns self (self.step op) id new) ∨
      (∃ partition, op = .addPartition partition) ∨ ∃ decision, op = .recordAllocation decision := by
  cases op with
  | addPartition partition => exact .inr (.inr (.inl ⟨partition, rfl⟩))
  | recordAllocation decision => exact .inr (.inr (.inr ⟨decision, rfl⟩))
  | registerCapsule entity =>
    obtain same | reassigns := registerCapsule_effect self entity
    · exact .inl same
    · exact .inr (.inl ⟨_, _, reassigns⟩)
  | unregisterCapsule id =>
    obtain same | reassigns := unregisterCapsule_effect self id
    · exact .inl same
    · exact .inr (.inl ⟨_, _, reassigns⟩)
  | setReady id ready =>
    obtain same | ⟨entity, reassigns⟩ := setReady_effect sound id ready
    · exact .inl same
    · exact .inr (.inl ⟨_, _, reassigns⟩)
  | inheritPriority id senderPriority =>
    obtain same | ⟨entity, reassigns⟩ :=
      reprioritise_effect sound id (·.inheritFrom senderPriority) fun _ => rfl
    · exact .inl same
    · exact .inr (.inl ⟨_, _, reassigns⟩)
  | clearInheritance id =>
    obtain same | ⟨entity, reassigns⟩ := reprioritise_effect sound id (·.clearInheritance) fun _ => rfl
    · exact .inl same
    · exact .inr (.inl ⟨_, _, reassigns⟩)

theorem QueueSound.step (sound : self.QueueSound) (op : SchedulerOp) : (self.step op).QueueSound := by
  obtain same | ⟨id, new, reassigns⟩ | ⟨partition, rfl⟩ | ⟨decision, rfl⟩ := step_cases sound op
  · rw [same]
    exact sound
  · exact reassigns.queueSound sound
  · exact sound.addPartition partition
  · refine ⟨sound.lists, fun id entity stored => ?_⟩
    rw [← isSome_counts]
    change ((self.recordAllocation decision).counts entity.partitionName).isSome = true
    rw [counts_recordAllocation, isSome_counts]
    exact sound.partitioned id entity stored

/-- The count that the first partition added under a name brings along. -/
def addedCount : Option ℕ :=
  ops.findSome? fun
    | .addPartition partition => if partition.name = name then some partition.readyCount else none
    | _ => none

theorem Counted.step {ops : List SchedulerOp} (sound : self.QueueSound) (counted : self.Counted (addedCount ops))
    (op : SchedulerOp) : (self.step op).Counted (addedCount (ops ++ [op])) := by
  have unadded : (∀ partition, op ≠ .addPartition partition) → addedCount (ops ++ [op]) = addedCount ops := by
    intro other
    funext name
    rw [addedCount, List.findSome?_append, List.findSome?_singleton]
    cases op with
    | addPartition partition => exact absurd rfl (other partition)
    | _ => exact Option.or_none
  by_cases adding : ∃ partition, op = .addPartition partition
  · obtain ⟨partition, rfl⟩ := adding
    have grown := counted.addPartition sound partition
    intro name
    rw [addedCount, List.findSome?_append, List.findSome?_singleton]
    exact grown name
  · rw [unadded fun partition same => adding ⟨partition, same⟩]
    obtain same | ⟨id, new, reassigns⟩ | ⟨partition, rfl⟩ | ⟨decision, rfl⟩ := step_cases sound op
    · rw [same]
      exact counted
    · exact reassigns.counted counted
    · exact absurd ⟨partition, rfl⟩ adding
    · intro name
      change (self.recordAllocation decision).counts name = _
      rw [counts_recordAllocation]
      exact counted name

theorem new_queueSound : new.QueueSound := by
  refine ⟨⟨fun priority => ?_, fun priority => ?_, fun priority id => ?_⟩, fun id entity stored => ?_⟩
  · simp [new]
  · simp [new, queued]
  · simp [new, queued, slot]
  · cases stored

theorem runFrom_queueSound : (runFrom ops).QueueSound :=
  StepRun.run_invariant QueueSound (fun _ op sound => sound.step op) new_queueSound ops

theorem runFrom_counted : (runFrom ops).Counted (addedCount ops) := by
  refine StepRun.run_invariant_along (fun before (state : PartitionScheduler) =>
    state.Counted (addedCount before)) ?_ ?_ ops List.prefix_rfl
  · intro name
    rfl
  · intro before op rest _ counted
    exact counted.step (runFrom_queueSound before) op

end PartitionScheduler

end Aios.Scheduler
