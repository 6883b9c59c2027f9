import Aios.Lib.Deficit
import Aios.Lib.Fallible
import Aios.Scheduler.Integrity

/-! # The scheduling decision on a sound queue

On sound queues every index of `next` finds its key, the first queue has the least priority in use,
and its front is the capsule chosen whenever the real-time band is not empty.
-/

namespace Aios.Scheduler

open ReadyQueue

namespace PartitionScheduler

variable {self : PartitionScheduler} {priority : CapsulePriority} {queue : List CapsuleId} {id : CapsuleId}

theorem QueueSound.stored_nonempty (sound : self.QueueSound) (stored : (priority, queue) ∈ self.readyQueue.entries) :
    queue ≠ [] := by
  rintro rfl
  exact sound.lists.nonempty priority ((self.readyQueue.mem_entries_iff priority []).mp stored)

/-- A queued capsule is registered, ready and at the priority of its queue. -/
theorem QueueSound.queued_ready (sound : self.QueueSound) (stored : (priority, queue) ∈ self.readyQueue.entries)
    (member : id ∈ queue) : ∃ entity, self.Ready id entity ∧ entity.effectivePriority = priority := by
  have read := (self.readyQueue.mem_entries_iff priority queue).mp stored
  apply slot_eq_some_iff.mp
  apply (sound.lists.listed priority id).mp
  simpa [queued, read] using member

/-- A ready capsule is in the queue of its priority. -/
theorem QueueSound.ready_queued (sound : self.QueueSound) {entity : CapsuleSchedulingEntity}
    (ready : self.Ready id entity) :
    ∃ queue, self.readyQueue.lookup entity.effectivePriority = some queue ∧ id ∈ queue := by
  have listed := (sound.lists.listed entity.effectivePriority id).mpr (slot_eq_some_iff.mpr ⟨entity, ready, rfl⟩)
  cases read : self.readyQueue.lookup entity.effectivePriority with
  | none => simp [queued, read] at listed
  | some queue => exact ⟨queue, rfl, by simpa [queued, read] using listed⟩

/-! ## No index is missing -/

theorem QueueSound.decisionFor_ok (sound : self.QueueSound) (stored : (priority, queue) ∈ self.readyQueue.entries)
    (member : id ∈ queue) (reason : DecisionReason) :
    ∃ decision, self.decisionFor priority reason id = .ok decision ∧ decision.capsuleId = id := by
  obtain ⟨entity, ⟨found, -⟩, -⟩ := sound.queued_ready stored member
  refine ⟨{ capsuleId := id, priority, partitionName := entity.partitionName, reason }, ?_, rfl⟩
  simp only [decisionFor, indexEntity, found]
  rfl

theorem QueueSound.favour_ok (sound : self.QueueSound) (stored : (priority, queue) ∈ self.readyQueue.entries)
    (member : id ∈ queue) (totalAllocated : UInt64) (best : Option SchedulingDecision) :
    ∃ next, self.favour totalAllocated priority best id = .ok next := by
  obtain ⟨entity, ⟨found, -⟩, -⟩ := sound.queued_ready stored member
  obtain ⟨partition, home⟩ := Option.isSome_iff_exists.mp (sound.partitioned id entity found)
  have entered : self.indexEntity id = .ok entity := by simp only [indexEntity, found]
  have housed : self.indexPartition entity.partitionName = .ok partition := by simp only [indexPartition, home]
  simp only [favour, entered, housed, bind, Except.bind]
  split_ifs with below
  · cases best with
    | none => exact ⟨_, rfl⟩
    | some previous => exact ⟨_, rfl⟩
  · exact ⟨best, rfl⟩

theorem QueueSound.bestByGuarantee_ok (sound : self.QueueSound) : ∃ best, self.bestByGuarantee = .ok best := by
  apply Fallible.foldlM_ok
  intro bucket stored best
  apply Fallible.foldlM_ok
  intro id member best
  exact sound.favour_ok stored member _ best

/-- The front of the first queue. -/
theorem QueueSound.front (sound : self.QueueSound) {rest : List (CapsulePriority × List CapsuleId)}
    (listed : self.readyQueue.entries = (priority, queue) :: rest) :
    ∃ id decision, id ∈ queue ∧ queue.head? = some id ∧
      self.decisionFor priority .highestPriority id = .ok decision ∧ decision.capsuleId = id := by
  have stored : (priority, queue) ∈ self.readyQueue.entries := by simp [listed]
  cases queue with
  | nil => exact absurd rfl (sound.stored_nonempty stored)
  | cons id others =>
    obtain ⟨decision, decided, chosen⟩ := sound.decisionFor_ok stored List.mem_cons_self .highestPriority
    exact ⟨id, decision, List.mem_cons_self, rfl, decided, chosen⟩

/-- The decision on sound queues: nothing on empty queues, else some capsule, and the front of the
first queue if that is of the real-time band. -/
theorem QueueSound.next_cases (sound : self.QueueSound) :
    self.readyQueue.entries = [] ∧ self.next = .ok none ∨
      ∃ priority queue rest decision, self.readyQueue.entries = (priority, queue) :: rest ∧
        self.next = .ok (some decision) ∧
          (CapsulePriority.isRealtime priority = true → decision.capsuleId ∈ queue) := by
  cases listed : self.readyQueue.entries with
  | nil =>
    refine .inl ⟨rfl, ?_⟩
    simp only [next, listed, bestByGuarantee]
    rfl
  | cons bucket rest =>
    obtain ⟨priority, queue⟩ := bucket
    obtain ⟨id, front, member, head, decided, chosen⟩ := sound.front listed
    right
    cases realtime : CapsulePriority.isRealtime priority with
    | true =>
      refine ⟨priority, queue, rest, front, rfl, ?_, fun _ => chosen ▸ member⟩
      simp only [next, listed, firstRealtime, realtime, Bool.not_true, Bool.false_eq_true, if_false, head, decided]
      rfl
    | false =>
      obtain ⟨best, computed⟩ := sound.bestByGuarantee_ok
      have skipped : self.firstRealtime ((priority, queue) :: rest) = .ok none := by
        simp only [firstRealtime, realtime, Bool.not_false, if_true]
        rfl
      have last : self.firstOfAll ((priority, queue) :: rest) = .ok (some front) := by
        simp only [firstOfAll, head, decided]
        rfl
      cases best with
      | none =>
        refine ⟨priority, queue, rest, front, rfl, ?_, fun impossible => by simp [realtime] at impossible⟩
        simp only [next, listed, skipped, computed, last, bind, Except.bind]
      | some decision =>
        refine ⟨priority, queue, rest, decision, rfl, ?_, fun impossible => by simp [realtime] at impossible⟩
        simp only [next, listed, skipped, computed, bind, Except.bind]
        rfl

theorem QueueSound.entries_eq_nil_iff (sound : self.QueueSound) :
    self.readyQueue.entries = [] ↔ ∀ id entity, ¬ self.Ready id entity := by
  constructor
  · intro empty id entity ready
    obtain ⟨queue, read, -⟩ := sound.ready_queued ready
    have stored := (self.readyQueue.mem_entries_iff _ _).mpr read
    rw [empty] at stored
    cases stored
  · intro idle
    cases listed : self.readyQueue.entries with
    | nil => rfl
    | cons bucket rest =>
      obtain ⟨id, -, member, -⟩ := sound.front listed
      have stored : (bucket.1, bucket.2) ∈ self.readyQueue.entries := by simp [listed]
      obtain ⟨entity, ready, -⟩ := sound.queued_ready stored member
      exact absurd ready (idle id entity)

/-- A decision over a real-time capsule picks a ready capsule of least effective priority. -/
theorem QueueSound.next_realtime (sound : self.QueueSound) {urgent : CapsuleSchedulingEntity}
    (ready : self.Ready id urgent) (realtime : CapsulePriority.isRealtime urgent.effectivePriority = true) :
    ∃ decision entity, self.next = .ok (some decision) ∧ self.Ready decision.capsuleId entity ∧
      ∀ other waiting, self.Ready other waiting → entity.effectivePriority ≤ waiting.effectivePriority := by
  obtain ⟨empty, -⟩ | ⟨priority, queue, rest, decision, listed, ran, chosen⟩ := sound.next_cases
  · exact absurd ready (sound.entries_eq_nil_iff.mp empty id urgent)
  · have least : ∀ other waiting, self.Ready other waiting → priority ≤ waiting.effectivePriority := by
      intro other waiting isReady
      obtain ⟨line, read, -⟩ := sound.ready_queued isReady
      exact self.readyQueue.head_le listed read
    have below := least id urgent ready
    have band : CapsulePriority.isRealtime priority = true := by
      simp only [CapsulePriority.isRealtime, decide_eq_true_eq] at realtime ⊢
      have : priority.val ≤ urgent.effectivePriority.val := below
      omega
    have stored : (priority, queue) ∈ self.readyQueue.entries := by simp [listed]
    obtain ⟨entity, isReady, rfl⟩ := sound.queued_ready stored (chosen band)
    exact ⟨decision, entity, ran, isReady, least⟩

end PartitionScheduler

/-! ## Integrity of every reachable scheduler -/

open PartitionScheduler

/-- What the scheduler promises in the state after `ops`. -/
structure SchedulerIntegrity (ops : List SchedulerOp) (scheduler : PartitionScheduler) : Prop where
  listed_once : ∀ id entity, scheduler.Ready id entity →
    ∃ queue, scheduler.readyQueue.lookup entity.effectivePriority = some queue ∧ queue.count id = 1 ∧
      ∀ priority other, scheduler.readyQueue.lookup priority = some other → id ∈ other →
        priority = entity.effectivePriority
  only_ready : ∀ priority queue id, scheduler.readyQueue.lookup priority = some queue → id ∈ queue →
    ∃ entity, scheduler.Ready id entity
  no_empty : ∀ priority, scheduler.readyQueue.lookup priority ≠ some []
  ready_count : ∀ name partition, scheduler.partitions.lookup name = some partition → addedCount ops name = some 0 →
    partition.readyCount = scheduler.readyIn name
  next_indexed : ∃ decision, scheduler.next = .ok decision
  next_none_iff : scheduler.next = .ok none ↔ ∀ id entity, ¬ scheduler.Ready id entity
  next_least : ∀ id urgent, scheduler.Ready id urgent → CapsulePriority.isRealtime urgent.effectivePriority = true →
    ∃ decision entity, scheduler.next = .ok (some decision) ∧ scheduler.Ready decision.capsuleId entity ∧
      ∀ other waiting, scheduler.Ready other waiting → entity.effectivePriority ≤ waiting.effectivePriority

/-- Queues, counters of partitions that came with a count of zero, and decisions are right in every
state a run reaches. -/
theorem schedulerIntegrity_runFrom (ops : List SchedulerOp) : SchedulerIntegrity ops (runFrom ops) := by
  have sound := runFrom_queueSound ops
  refine ⟨?_, ?_, sound.lists.nonempty, ?_, ?_, ?_, fun id urgent ready => sound.next_realtime ready⟩
  · intro id entity ready
    obtain ⟨queue, read, member⟩ := sound.ready_queued ready
    have nodup := sound.lists.nodup entity.effectivePriority
    rw [queued, read, Option.getD_some] at nodup
    refine ⟨queue, read, List.count_eq_one_of_mem nodup member, fun priority other found again => ?_⟩
    have there := (sound.lists.listed priority id).mp (by simpa [queued, found] using again)
    have here := slot_eq_some_iff.mpr ⟨entity, ready, rfl⟩
    exact Option.some.inj (there.symm.trans here)
  · intro priority queue id read member
    obtain ⟨entity, ready, -⟩ := sound.queued_ready (((runFrom ops).readyQueue.mem_entries_iff _ _).mpr read) member
    exact ⟨entity, ready⟩
  · intro name partition stored fresh
    have counted := runFrom_counted ops name
    rw [counts, stored, fresh] at counted
    simpa using counted
  · obtain ⟨-, ran⟩ | ⟨-, -, -, decision, -, ran, -⟩ := sound.next_cases
    · exact ⟨none, ran⟩
    · exact ⟨some decision, ran⟩
  · rw [← sound.entries_eq_nil_iff]
    obtain ⟨empty, ran⟩ | ⟨priority, queue, rest, decision, listed, ran, -⟩ := sound.next_cases
    · simp [empty, ran]
    · simp [listed, ran]

/-- A partition added with a count of one has no ready capsule. -/
theorem readyCount_ne_readyIn_of_given :
    ¬ ∀ ops name partition, (runFrom ops).partitions.lookup name = some partition →
      partition.readyCount = (runFrom ops).readyIn name := by
  intro claimed
  have counted := claimed [.addPartition ⟨"ui", 10, 100, 0, 1⟩] "ui" ⟨"ui", 10, 100, 0, 1⟩ (by decide)
  revert counted
  decide

/-! ## The partition guarantee over rounds

INV-SCH-002: every partition receives at least its guaranteed share of the decisions. Here the shares
are compared exactly, and the `u64` counters are those of a build with overflow checks, where an
overflow panics. A round is `next` followed by `record_allocation`. What a partition is owed after a
round is its guaranteed share of the decisions less those it got, both in hundredths, and a round
serves by deficit in the order of the ready queues.
-/

/-- `is_below_guarantee` with the two percentages compared exactly. -/
def AdaptivePartition.isBelowGuaranteeExactly (self : AdaptivePartition) (totalAllocated : UInt64) : Bool :=
  if totalAllocated = 0 then false
  else 100 * self.allocated.toNat < self.guaranteePct.toNat * totalAllocated.toNat

/-- What stops a round. -/
inductive RoundPanic where
  | missing (key : MissingKey)
  | overflow
deriving DecidableEq, Repr

/-- `+` on `u64` where overflow is checked. -/
def checkedAdd (first second : UInt64) : Except RoundPanic UInt64 :=
  if first.toNat + second.toNat < UInt64.size then .ok (first + second) else .error .overflow

namespace PartitionScheduler

/-- `self.partitions.values().map(|p| p.allocated).sum()`. -/
def totalAllocated (self : PartitionScheduler) : Except RoundPanic UInt64 :=
  (self.partitions.values.map (·.allocated)).foldlM checkedAdd 0

section

variable (below : AdaptivePartition → UInt64 → Bool)

variable (self : PartitionScheduler)

/-- One turn of pass 2 under a test for being below the guarantee. -/
def favourBy (self : PartitionScheduler) (totalAllocated : UInt64) (priority : CapsulePriority)
    (best : Option SchedulingDecision) (id : CapsuleId) : Except MissingKey (Option SchedulingDecision) := do
  let entity ← self.indexEntity id
  let partition ← self.indexPartition entity.partitionName
  if below partition totalAllocated then
    let decision : SchedulingDecision :=
      { capsuleId := id, priority, partitionName := entity.partitionName, reason := .partitionGuarantee }
    match best with
    | none => return some decision
    | some previous => return some (if priority < previous.priority then decision else previous)
  else return best

/-- Pass 2 under a test for being below the guarantee. -/
def bestBy (totalAllocated : UInt64) : Except MissingKey (Option SchedulingDecision) :=
  self.readyQueue.entries.foldlM
    (fun best bucket => bucket.2.foldlM (self.favourBy below totalAllocated bucket.1) best) none

/-- `next` under a test for being below the guarantee, with the sum of the allocations checked. -/
def nextBy : Except RoundPanic (Option SchedulingDecision) := do
  match ← (self.firstRealtime self.readyQueue.entries).mapError .missing with
  | some decision => return some decision
  | none =>
    let totalAllocated ← self.totalAllocated
    match ← (self.bestBy below totalAllocated).mapError .missing with
    | some decision => return some decision
    | none => (self.firstOfAll self.readyQueue.entries).mapError .missing

end

variable {self : PartitionScheduler} {sum : UInt64} {partition : AdaptivePartition}

/-- `record_allocation` with the increment checked. -/
def recordChecked (self : PartitionScheduler) (decision : SchedulingDecision) :
    Except RoundPanic PartitionScheduler :=
  match self.partitions.lookup decision.partitionName with
  | none => return self
  | some partition => do
    let allocated ← checkedAdd partition.allocated 1
    return { self with partitions := self.partitions.insert decision.partitionName { partition with allocated } }

/-- One decision, taken and recorded. -/
def round (self : PartitionScheduler) : Except RoundPanic PartitionScheduler := do
  match ← self.nextBy AdaptivePartition.isBelowGuaranteeExactly with
  | none => return self
  | some decision => self.recordChecked decision

def rounds (self : PartitionScheduler) : ℕ → Except RoundPanic PartitionScheduler
  | 0 => return self
  | count + 1 => self.rounds count >>= round

/-! ### The checked operations and those of the scheduler -/

theorem checkedAdd_eq_ok_iff {first second : UInt64} :
    checkedAdd first second = .ok sum ↔ first.toNat + second.toNat = sum.toNat := by
  unfold checkedAdd
  split_ifs with fits
  · rw [Except.ok.injEq, ← UInt64.toNat_inj, UInt64.toNat_add, Nat.mod_eq_of_lt fits]
  · have := sum.toNat_lt_size
    simp only [false_iff]
    omega

/-- The allocations of all partitions together. -/
def allocations (self : PartitionScheduler) : ℕ := self.partitions.total fun _ partition => partition.allocated.toNat

theorem foldlM_checkedAdd_eq_ok_iff {terms : List UInt64} {start : UInt64} :
    terms.foldlM checkedAdd start = .ok sum ↔ start.toNat + (terms.map (·.toNat)).sum = sum.toNat := by
  induction terms generalizing start with
  | nil => simp [pure, Except.pure, ← UInt64.toNat_inj]
  | cons term rest ih =>
    rw [List.foldlM_cons, Fallible.bind_eq_ok_iff]
    simp only [checkedAdd_eq_ok_iff, ih, List.map_cons, List.sum_cons]
    constructor
    · rintro ⟨next, added, rest⟩
      omega
    · intro summed
      have bound := sum.toNat_lt_size
      have value : (UInt64.ofNat (start.toNat + term.toNat)).toNat = start.toNat + term.toNat :=
        UInt64.toNat_ofNat_of_lt' (by omega)
      exact ⟨_, value.symm, by omega⟩

theorem sum_allocated (self : PartitionScheduler) :
    ((self.partitions.values.map (·.allocated)).map (·.toNat)).sum = self.allocations := by
  rw [allocations, Table.total, Table.values, List.map_map, List.map_map, List.sum_eq_foldr, List.foldr_map]
  rfl

theorem totalAllocated_eq_ok_iff : self.totalAllocated = .ok sum ↔ self.allocations = sum.toNat := by
  rw [totalAllocated, foldlM_checkedAdd_eq_ok_iff, sum_allocated, UInt64.toNat_zero, Nat.zero_add]

/-- Where the sum does not overflow, the checked `next` is the `next` of the scheduler. -/
theorem nextBy_isBelowGuarantee (fits : self.allocations < UInt64.size) :
    self.nextBy AdaptivePartition.isBelowGuarantee = self.next.mapError .missing := by
  have summed : self.totalAllocated = .ok (self.partitions.values.map (·.allocated)).sum := by
    rw [totalAllocated_eq_ok_iff]
    have value : ∀ terms : List UInt64, (terms.map (·.toNat)).sum < UInt64.size →
        terms.sum.toNat = (terms.map (·.toNat)).sum := by
      intro terms
      induction terms with
      | nil => exact fun _ => rfl
      | cons term rest ih =>
        intro bound
        rw [List.map_cons, List.sum_cons] at bound
        have later := ih (by omega)
        rw [List.sum_cons, UInt64.toNat_add, later, Nat.mod_eq_of_lt bound, List.map_cons, List.sum_cons]
    rw [value _ (by rwa [sum_allocated]), sum_allocated]
  have pass : self.bestBy AdaptivePartition.isBelowGuarantee (self.partitions.values.map (·.allocated)).sum =
      self.bestByGuarantee := rfl
  simp only [nextBy, next, summed, bind, Except.bind]
  cases self.firstRealtime self.readyQueue.entries with
  | error key => rfl
  | ok first =>
    cases first with
    | some decision => rfl
    | none =>
      simp only [Except.mapError, pass]
      cases self.bestByGuarantee with
      | error key => rfl
      | ok best => cases best <;> rfl

theorem allocated_le {name : String} (stored : self.partitions.lookup name = some partition) :
    partition.allocated.toNat ≤ self.allocations :=
  Table.le_total stored fun _ partition => partition.allocated.toNat

/-- Where the counters do not overflow, the checked `record_allocation` is that of the scheduler. -/
theorem recordChecked_eq_ok (fits : self.allocations + 1 < UInt64.size) (decision : SchedulingDecision) :
    self.recordChecked decision = .ok (self.recordAllocation decision) := by
  unfold recordChecked recordAllocation Table.modify
  cases stored : self.partitions.lookup decision.partitionName with
  | none => rfl
  | some partition =>
    have small := allocated_le stored
    have raised : checkedAdd partition.allocated 1 = .ok (partition.allocated + 1) :=
      if_pos (by rw [UInt64.toNat_one]; omega)
    simp only [raised]
    rfl

/-- A recorded allocation is counted. -/
theorem recordChecked_spec {after : PartitionScheduler} {decision : SchedulingDecision}
    (stored : self.partitions.lookup decision.partitionName = some partition)
    (recorded : self.recordChecked decision = .ok after) :
    after = self.recordAllocation decision ∧ (partition.allocated + 1).toNat = partition.allocated.toNat + 1 := by
  unfold recordChecked at recorded
  rw [stored] at recorded
  obtain ⟨allocated, added, same⟩ := Fallible.bind_eq_ok_iff.mp recorded
  rw [Fallible.pure_eq_ok_iff] at same
  have value := checkedAdd_eq_ok_iff.mp added
  have sum : allocated = partition.allocated + 1 := by
    unfold checkedAdd at added
    split_ifs at added
    exact (Except.ok.inj added).symm
  rw [sum] at same value
  refine ⟨?_, value.symm⟩
  rw [← same, recordAllocation, Table.modify, stored]

end PartitionScheduler

end Aios.Scheduler
