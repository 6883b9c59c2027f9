import Aios.Scheduler.Decision
import Mathlib.Algebra.BigOperators.Ring.Finset

/-! # Every partition gets its guarantee

Pass 2 picks the first capsule, in the order of the queues, whose partition is below its guarantee;
pass 3 runs when there is none. So the rounds serve the partitions by deficit in the order in which
they first occur in the queues, and no partition is ever owed more than one decision for each
partition.
-/

namespace Aios.Scheduler.PartitionScheduler

variable {self : PartitionScheduler} {below : AdaptivePartition → UInt64 → Bool} {total : UInt64}
  {priority : CapsulePriority} {queue ids : List CapsuleId} {id : CapsuleId} {best : Option SchedulingDecision}

/-! ## The capsule that is favoured -/

/-- The ready capsules in the order of the queues. -/
def waiting (self : PartitionScheduler) : List CapsuleId := self.readyQueue.entries.flatMap Prod.snd

/-- The partition of a capsule. -/
def home (self : PartitionScheduler) (id : CapsuleId) : Option String :=
  (self.entities.lookup id).map (·.partitionName)

/-- The capsule is of a partition below its guarantee. -/
def Lacks (self : PartitionScheduler) (below : AdaptivePartition → UInt64 → Bool) (total : UInt64)
    (id : CapsuleId) : Prop :=
  ∃ name partition, self.home id = some name ∧ self.partitions.lookup name = some partition ∧
    below partition total = true

/-- The decision is for the first of the capsules that lacks its guarantee, if one does. -/
def Favours (self : PartitionScheduler) (below : AdaptivePartition → UInt64 → Bool) (total : UInt64)
    (ids : List CapsuleId) : Option SchedulingDecision → Prop
  | none => ∀ id ∈ ids, ¬ self.Lacks below total id
  | some decision => self.Lacks below total decision.capsuleId ∧
      self.home decision.capsuleId = some decision.partitionName ∧
      ∃ before after, ids = before ++ decision.capsuleId :: after ∧ ∀ id ∈ before, ¬ self.Lacks below total id

/-- A capsule that lacks nothing changes no choice, and none does once a choice is made. -/
theorem Favours.append_singleton (favours : self.Favours below total ids best)
    (passed : best = none → ¬ self.Lacks below total id) : self.Favours below total (ids ++ [id]) best := by
  cases best with
  | none =>
    intro other member
    obtain earlier | same := List.mem_append.mp member
    · exact favours other earlier
    · rw [List.mem_singleton.mp same]
      exact passed rfl
  | some decision =>
    obtain ⟨lacks, own, before, after, split, others⟩ := favours
    exact ⟨lacks, own, before, after ++ [id], by rw [split, List.append_assoc, List.cons_append], others⟩

/-- One turn of pass 2 on a capsule whose priority is no higher than that of the choice so far. -/
theorem QueueSound.favourBy_spec (sound : self.QueueSound) (stored : (priority, queue) ∈ self.readyQueue.entries)
    (member : id ∈ queue) (favours : self.Favours below total ids best)
    (ahead : ∀ decision, best = some decision → decision.priority ≤ priority) :
    ∃ next, self.favourBy below total priority best id = .ok next ∧
      self.Favours below total (ids ++ [id]) next ∧
      ∀ decision, next = some decision → decision.priority ≤ priority := by
  obtain ⟨entity, ⟨found, -⟩, -⟩ := sound.queued_ready stored member
  obtain ⟨partition, housed⟩ := Option.isSome_iff_exists.mp (sound.partitioned id entity found)
  have own : self.home id = some entity.partitionName := by rw [home, found, Option.map_some]
  have entered : self.indexEntity id = .ok entity := by simp only [indexEntity, found]
  have indexed : self.indexPartition entity.partitionName = .ok partition := by simp only [indexPartition, housed]
  simp only [favourBy, entered, indexed, bind, Except.bind]
  cases lacking : below partition total with
  | false =>
    have lacksNothing : ¬ self.Lacks below total id := by
      rintro ⟨name, other, homed, kept, isBelow⟩
      obtain rfl := Option.some.inj (own.symm.trans homed)
      obtain rfl := Option.some.inj (housed.symm.trans kept)
      rw [lacking] at isBelow
      cases isBelow
    exact ⟨best, rfl, favours.append_singleton fun _ => lacksNothing, ahead⟩
  | true =>
    cases best with
    | none =>
      refine ⟨_, rfl, ⟨⟨_, partition, own, housed, lacking⟩, own, ids, [], rfl, favours⟩, ?_⟩
      rintro decision same
      obtain rfl := Option.some.inj same
      exact le_rfl
    | some previous =>
      have kept : ¬ priority < previous.priority := not_lt.mpr (ahead previous rfl)
      refine ⟨some previous, ?_, favours.append_singleton (by simp), ahead⟩
      simp only [if_true, if_neg kept]
      rfl

/-- Pass 2 over one queue, after queues of higher priority. -/
theorem QueueSound.favourBy_queue (sound : self.QueueSound) (stored : (priority, queue) ∈ self.readyQueue.entries)
    (favours : self.Favours below total ids best)
    (ahead : ∀ decision, best = some decision → decision.priority ≤ priority) :
    ∃ next, queue.foldlM (self.favourBy below total priority) best = .ok next ∧
      self.Favours below total (ids ++ queue) next ∧
      ∀ decision, next = some decision → decision.priority ≤ priority := by
  refine Fallible.foldlM_invariant (fun behind best => self.Favours below total (ids ++ behind) best ∧
    ∀ decision, best = some decision → decision.priority ≤ priority) ?_ ?_
  · rw [List.append_nil]
    exact ⟨favours, ahead⟩
  · intro before id rest current split ⟨chosen, higher⟩
    rw [← List.append_assoc]
    exact sound.favourBy_spec stored (by simp [split]) chosen higher

/-- Pass 2 chooses the first capsule that lacks its guarantee. -/
theorem QueueSound.bestBy_spec (sound : self.QueueSound) :
    ∃ best, self.bestBy below total = .ok best ∧ self.Favours below total self.waiting best := by
  have each : ∀ before bucket rest best, self.readyQueue.entries = before ++ bucket :: rest →
      (self.Favours below total (before.flatMap Prod.snd) best ∧
        ∀ decision, best = some decision → ∃ earlier ∈ before, decision.priority ≤ earlier.1) →
      ∃ next, bucket.2.foldlM (self.favourBy below total bucket.1) best = .ok next ∧
        self.Favours below total ((before ++ [bucket]).flatMap Prod.snd) next ∧
        ∀ decision, next = some decision → ∃ earlier ∈ before ++ [bucket], decision.priority ≤ earlier.1 := by
    intro before bucket rest best split ⟨favours, earlier⟩
    have stored : (bucket.1, bucket.2) ∈ self.readyQueue.entries := by simp [split]
    have ahead : ∀ decision, best = some decision → decision.priority ≤ bucket.1 := by
      intro decision chosen
      obtain ⟨other, listed, higher⟩ := earlier decision chosen
      have sorted := self.readyQueue.sorted
      rw [split] at sorted
      have less := (List.pairwise_append.mp sorted).2.2 other listed bucket List.mem_cons_self
      exact higher.trans less.le
    obtain ⟨next, ran, chosen, higher⟩ := sound.favourBy_queue stored favours ahead
    refine ⟨next, ran, ?_, fun decision same => ⟨bucket, by simp, higher decision same⟩⟩
    simpa using chosen
  have start : self.Favours below total (([] : List (CapsulePriority × List CapsuleId)).flatMap Prod.snd) none ∧
      ∀ decision, (none : Option SchedulingDecision) = some decision →
        ∃ earlier ∈ ([] : List (CapsulePriority × List CapsuleId)), decision.priority ≤ earlier.1 := by
    simp [Favours]
  obtain ⟨best, ran, favours, -⟩ := Fallible.foldlM_invariant
    (fun buckets best => self.Favours below total (buckets.flatMap Prod.snd) best ∧
      ∀ decision, best = some decision → ∃ earlier ∈ buckets, decision.priority ≤ earlier.1) start each
  exact ⟨best, ran, favours⟩

/-! ## The decision -/

theorem decisionFor_home {reason : DecisionReason} {decision : SchedulingDecision}
    (decided : self.decisionFor priority reason id = .ok decision) :
    self.home decision.capsuleId = some decision.partitionName := by
  unfold decisionFor indexEntity at decided
  cases found : self.entities.lookup id with
  | none =>
    rw [found] at decided
    cases decided
  | some entity =>
    rw [found] at decided
    cases decided
    rw [home, found, Option.map_some]

/-- Pass 1 finds nothing where no ready capsule is of the real-time band. -/
theorem QueueSound.firstRealtime_none (sound : self.QueueSound)
    (ordinary : ∀ id entity, self.Ready id entity → CapsulePriority.isRealtime entity.effectivePriority = false) :
    self.firstRealtime self.readyQueue.entries = .ok none := by
  cases listed : self.readyQueue.entries with
  | nil => rfl
  | cons bucket rest =>
    obtain ⟨priority, queue⟩ := bucket
    have stored : (priority, queue) ∈ self.readyQueue.entries := by simp [listed]
    obtain ⟨id, -, member, -⟩ := sound.front listed
    obtain ⟨entity, ready, rfl⟩ := sound.queued_ready stored member
    simp only [firstRealtime, ordinary id entity ready, Bool.not_false, if_true]
    rfl

/-- Without real-time capsules `next` decides for the first capsule that lacks its guarantee, or for some
capsule if none does. -/
theorem QueueSound.nextBy_spec (sound : self.QueueSound) (busy : self.readyQueue.entries ≠ [])
    (ordinary : ∀ id entity, self.Ready id entity → CapsulePriority.isRealtime entity.effectivePriority = false)
    (summed : self.totalAllocated = .ok total) :
    ∃ decision, self.nextBy below = .ok (some decision) ∧
      self.home decision.capsuleId = some decision.partitionName ∧
      (self.Favours below total self.waiting (some decision) ∨ self.Favours below total self.waiting none) := by
  have first := sound.firstRealtime_none ordinary
  obtain ⟨best, computed, favours⟩ := @bestBy_spec self below total sound
  simp only [nextBy, first, summed, computed, Except.mapError, bind, Except.bind]
  cases best with
  | some decision => exact ⟨decision, rfl, favours.2.1, .inl favours⟩
  | none =>
    cases listed : self.readyQueue.entries with
    | nil => exact absurd listed busy
    | cons bucket rest =>
      obtain ⟨id, decision, -, head, decided, -⟩ := sound.front listed
      refine ⟨decision, ?_, decisionFor_home decided, .inr favours⟩
      simp only [firstOfAll, head, decided]
      rfl

/-! ## What the partitions are owed -/

def parties (self : PartitionScheduler) : Finset String := self.partitions.keys.toFinset

theorem mem_parties_iff {name : String} : name ∈ self.parties ↔ (self.partitions.lookup name).isSome := by
  rw [parties, List.mem_toFinset, Table.mem_keys_iff]

/-- Where a partition first occurs in the order of the queues. -/
def rank (self : PartitionScheduler) (name : String) : ℕ := self.waiting.findIdx fun id => self.home id = some name

/-- The guaranteed share of a partition. -/
def share (self : PartitionScheduler) (name : String) : ℕ :=
  (self.partitions.lookup name).elim 0 fun partition => partition.guaranteePct.toNat

/-- What a partition is owed after a number of decisions, in hundredths of a decision. -/
def owed (self : PartitionScheduler) (count : ℕ) (name : String) : ℤ :=
  (self.share name * count : ℕ) -
    (100 * (self.partitions.lookup name).elim 0 fun partition => partition.allocated.toNat : ℕ)

theorem lacks_iff : self.Lacks AdaptivePartition.isBelowGuaranteeExactly total id ↔
    ∃ name, self.home id = some name ∧ 0 < self.owed total.toNat name := by
  have exactly : ∀ partition : AdaptivePartition, partition.isBelowGuaranteeExactly total = true ↔
      100 * partition.allocated.toNat < partition.guaranteePct.toNat * total.toNat := by
    intro partition
    unfold AdaptivePartition.isBelowGuaranteeExactly
    split_ifs with zero
    · simp [zero]
    · exact decide_eq_true_iff
  constructor
  · rintro ⟨name, partition, own, stored, isBelow⟩
    refine ⟨name, own, ?_⟩
    have less := (exactly partition).mp isBelow
    simp only [owed, share, stored, Option.elim_some]
    omega
  · rintro ⟨name, own, due⟩
    cases stored : self.partitions.lookup name with
    | none => simp [owed, share, stored] at due
    | some partition =>
      refine ⟨name, partition, own, stored, (exactly partition).mpr ?_⟩
      simp only [owed, share, stored, Option.elim_some] at due
      omega

/-- The ready capsules stand for every partition. -/
def Covering (self : PartitionScheduler) : Prop :=
  ∀ name, (self.partitions.lookup name).isSome → ∃ id entity, self.Ready id entity ∧ entity.partitionName = name

theorem QueueSound.exists_waiting (sound : self.QueueSound) (covering : self.Covering) {name : String}
    (listed : name ∈ self.parties) : ∃ id ∈ self.waiting, self.home id = some name := by
  obtain ⟨id, entity, ready, rfl⟩ := covering name (mem_parties_iff.mp listed)
  obtain ⟨queue, read, member⟩ := sound.ready_queued ready
  have stored := (self.readyQueue.mem_entries_iff _ _).mpr read
  exact ⟨id, List.mem_flatMap.mpr ⟨_, stored, member⟩, by rw [home, ready.1, Option.map_some]⟩

/-- What is found before a place is found left of it. -/
theorem exists_before_of_findIdx_lt {α : Type} {before after : List α} {item : α} {test other : α → Bool}
    (earlier : (before ++ item :: after).findIdx test < (before ++ item :: after).findIdx other)
    (reached : other item = true) : ∃ found ∈ before, test found = true := by
  have upTo : (before ++ item :: after).findIdx other ≤ before.length := by
    rw [List.findIdx_append]
    split_ifs with found
    · exact found.le
    · simp [List.findIdx_cons, reached]
  have inside := earlier.trans_le upTo
  rw [List.findIdx_append] at inside
  split_ifs at inside with found
  · exact List.findIdx_lt_length.mp found
  · omega

/-- A decision of `next` serves the partitions by deficit. -/
theorem QueueSound.due (sound : self.QueueSound) (covering : self.Covering) {decision : SchedulingDecision}
    (favours : self.Favours AdaptivePartition.isBelowGuaranteeExactly total self.waiting (some decision) ∨
      self.Favours AdaptivePartition.isBelowGuaranteeExactly total self.waiting none) :
    Deficit.Due self.parties self.rank (self.owed total.toNat) decision.partitionName := by
  obtain ⟨lacks, own, before, after, split, others⟩ | nothing := favours
  · left
    obtain ⟨name, homed, due⟩ := lacks_iff.mp lacks
    obtain rfl := Option.some.inj (own.symm.trans homed)
    refine ⟨due, fun party listed earlier => ?_⟩
    by_contra owes
    have reached : (fun id => decide (self.home id = some decision.partitionName)) decision.capsuleId = true :=
      decide_eq_true own
    rw [rank, rank, split] at earlier
    obtain ⟨id, member, homeId⟩ := exists_before_of_findIdx_lt earlier reached
    exact others id member (lacks_iff.mpr ⟨party, of_decide_eq_true homeId, not_le.mp owes⟩)
  · right
    intro party listed
    by_contra owes
    obtain ⟨id, member, homeId⟩ := sound.exists_waiting covering listed
    exact nothing id member (lacks_iff.mpr ⟨party, homeId, not_le.mp owes⟩)

/-! ## Over the rounds -/

/-- The partitions have no allocations yet and guarantees of a hundred per cent at most, and the ready
capsules, none of them real-time, stand for all of them. -/
structure GuaranteeSetup (start : PartitionScheduler) : Prop where
  unallocated : ∀ name partition, start.partitions.lookup name = some partition → partition.allocated = 0
  guarantees : start.partitions.total (fun _ partition => partition.guaranteePct.toNat) ≤ 100
  covering : start.Covering
  ordinary : ∀ id entity, start.Ready id entity → CapsulePriority.isRealtime entity.effectivePriority = false

/-- What a number of rounds keeps, and what it counts. -/
structure Reached (start : PartitionScheduler) (count : ℕ) (after : PartitionScheduler) : Prop where
  entities : after.entities = start.entities
  readyQueue : after.readyQueue = start.readyQueue
  shares : ∀ name, (after.partitions.lookup name).map (·.guaranteePct) =
    (start.partitions.lookup name).map (·.guaranteePct)
  allocations : after.allocations = count
  levels : ∀ limit, Deficit.level start.parties 100 start.rank (after.owed count) limit ≤ 100

variable {start after : PartitionScheduler} {count : ℕ} {decision : SchedulingDecision}

theorem Reached.isSome (reached : Reached start count after) (name : String) :
    (after.partitions.lookup name).isSome = (start.partitions.lookup name).isSome := by
  have same := congrArg Option.isSome (reached.shares name)
  simpa using same

theorem Reached.share (reached : Reached start count after) (name : String) : after.share name = start.share name := by
  have same := reached.shares name
  unfold PartitionScheduler.share
  cases here : after.partitions.lookup name with
  | none =>
    rw [here] at same
    rw [Option.map_eq_none_iff.mp same.symm]
  | some partition =>
    rw [here] at same
    obtain ⟨other, there, equal⟩ := Option.map_eq_some_iff.mp same.symm
    rw [there, Option.elim_some, Option.elim_some, equal]

theorem Reached.queueSound (reached : Reached start count after) (sound : start.QueueSound) : after.QueueSound := by
  have slots : after.slot = start.slot := by
    funext id
    rw [slot, slot, reached.entities]
  refine ⟨?_, fun id entity stored => ?_⟩
  · rw [reached.readyQueue, slots]
    exact sound.lists
  · rw [reached.entities] at stored
    rw [reached.isSome]
    exact sound.partitioned id entity stored

theorem Reached.ready_iff (reached : Reached start count after) {entity : CapsuleSchedulingEntity} :
    after.Ready id entity ↔ start.Ready id entity := by
  rw [Ready, Ready, reached.entities]

theorem Reached.covering (reached : Reached start count after) (covering : start.Covering) : after.Covering := by
  intro name stored
  rw [reached.isSome] at stored
  obtain ⟨id, entity, ready, own⟩ := covering name stored
  exact ⟨id, entity, reached.ready_iff.mpr ready, own⟩

theorem Reached.rank (reached : Reached start count after) : after.rank = start.rank := by
  have homes : after.home = start.home := by
    funext id
    rw [home, home, reached.entities]
  funext name
  rw [PartitionScheduler.rank, PartitionScheduler.rank, waiting, waiting, reached.readyQueue, homes]

theorem Reached.parties (reached : Reached start count after) : after.parties = start.parties := by
  ext name
  rw [mem_parties_iff, mem_parties_iff, reached.isSome]

theorem reached_zero (setup : GuaranteeSetup start) : Reached start 0 start := by
  have owesNothing : start.owed 0 = fun _ => 0 := by
    funext name
    cases stored : start.partitions.lookup name with
    | none => simp [owed, stored]
    | some partition => simp [owed, stored, setup.unallocated name partition stored]
  refine ⟨rfl, rfl, fun _ => rfl, ?_, fun limit => ?_⟩
  · have same : start.allocations = start.partitions.total fun _ _ => 0 := by
      apply Table.total_congr
      intro name partition stored
      simp [setup.unallocated name partition stored]
    rw [same, Table.total]
    induction start.partitions.entries with
    | nil => rfl
    | cons entry rest ih => rw [List.foldr_cons, ih]
  · rw [owesNothing]
    exact Deficit.level_zero (by decide)

/-- The guarantees add up to a unit at most. -/
theorem GuaranteeSetup.sum_share (setup : GuaranteeSetup start) :
    ∑ name ∈ start.parties, (start.share name : ℤ) ≤ 100 := by
  have total := setup.guarantees
  rw [Table.total_eq_sum] at total
  have sum : ∑ name ∈ start.parties, start.share name ≤ 100 := total
  exact_mod_cast sum

/-- A recorded decision is a round of the deficits. -/
theorem owed_record {partition : AdaptivePartition}
    (stored : start.partitions.lookup decision.partitionName = some partition)
    (raised : (partition.allocated + 1).toNat = partition.allocated.toNat + 1) :
    (start.recordAllocation decision).owed (count + 1) =
      Deficit.round (fun name => (start.share name : ℤ)) 100 (start.owed count) decision.partitionName := by
  funext name
  have read : (start.recordAllocation decision).partitions.lookup name =
      if name = decision.partitionName then some { partition with allocated := partition.allocated + 1 }
      else start.partitions.lookup name := by
    rw [recordAllocation, Table.lookup_modify, stored]
    rfl
  by_cases same : name = decision.partitionName
  · subst same
    simp only [owed, share, read, if_true, Option.elim_some, raised, Deficit.round, stored]
    push_cast
    ring
  · simp only [owed, share, read, if_neg same, Deficit.round]
    push_cast
    ring

/-- A round that records a due decision counts it and keeps the levels. -/
theorem Reached.record (reached : Reached start count self) (setup : GuaranteeSetup start)
    {partition : AdaptivePartition} (stored : self.partitions.lookup decision.partitionName = some partition)
    (due : Deficit.Due start.parties start.rank (self.owed count) decision.partitionName)
    (recorded : self.recordChecked decision = .ok after) : Reached start (count + 1) after := by
  obtain ⟨rfl, raised⟩ := recordChecked_spec stored recorded
  refine ⟨reached.entities, reached.readyQueue, fun name => ?_, ?_, fun limit => ?_⟩
  · rw [← reached.shares, recordAllocation, Table.lookup_modify]
    by_cases same : name = decision.partitionName
    · subst same
      simp [stored]
    · rw [if_neg same]
  · have counted := Table.total_modify_add stored
      (fun partition => { partition with allocated := partition.allocated + 1 })
      (fun _ partition => partition.allocated.toNat)
    have before : self.partitions.total (fun _ partition => partition.allocated.toNat) = count := reached.allocations
    rw [PartitionScheduler.allocations, recordAllocation]
    dsimp only at counted ⊢
    omega
  · have member : decision.partitionName ∈ start.parties := by
      rw [← reached.parties, mem_parties_iff, stored]
      rfl
    have weights : (fun name => (self.share name : ℤ)) = fun name => (start.share name : ℤ) := by
      funext name
      rw [reached.share]
    rw [owed_record stored raised, weights]
    exact Deficit.level_round (by decide) (fun name _ => Int.natCast_nonneg _) setup.sum_share member due
      (reached.levels limit)

/-- The decision of a round, where the sum of the allocations does not overflow. -/
theorem Reached.decides (reached : Reached start count self) (setup : GuaranteeSetup start)
    (sound : start.QueueSound) (nonempty : start.parties.Nonempty) (summed : self.totalAllocated = .ok total) :
    ∃ decision partition, self.round = self.recordChecked decision ∧
      self.partitions.lookup decision.partitionName = some partition ∧
      Deficit.Due start.parties start.rank (self.owed count) decision.partitionName := by
  have selfSound := reached.queueSound sound
  have covering := reached.covering setup.covering
  have counted : total.toNat = count := by
    rw [← totalAllocated_eq_ok_iff.mp summed, reached.allocations]
  have busy : self.readyQueue.entries ≠ [] := by
    obtain ⟨name, listed⟩ := nonempty
    rw [← reached.parties] at listed
    obtain ⟨id, member, -⟩ := selfSound.exists_waiting covering listed
    intro empty
    rw [waiting, empty] at member
    cases member
  obtain ⟨decision, decided, own, favours⟩ := selfSound.nextBy_spec busy
    (fun id entity ready => setup.ordinary id entity (reached.ready_iff.mp ready)) summed
  obtain ⟨entity, found, same⟩ := Option.map_eq_some_iff.mp own
  obtain ⟨partition, stored⟩ := Option.isSome_iff_exists.mp (selfSound.partitioned _ entity found)
  rw [same] at stored
  refine ⟨decision, partition, ?_, stored, ?_⟩
  · rw [round, decided]
    rfl
  · rw [← counted, ← reached.parties, ← reached.rank]
    exact selfSound.due covering favours

theorem Reached.round_spec (reached : Reached start count self) (setup : GuaranteeSetup start)
    (sound : start.QueueSound) (nonempty : start.parties.Nonempty) (ran : self.round = .ok after) :
    Reached start (count + 1) after := by
  cases summed : self.totalAllocated with
  | error panic =>
    have first := (reached.queueSound sound).firstRealtime_none fun id entity ready =>
      setup.ordinary id entity (reached.ready_iff.mp ready)
    simp only [round, nextBy, first, summed, Except.mapError, bind, Except.bind, reduceCtorEq] at ran
  | ok total =>
    obtain ⟨decision, partition, same, stored, due⟩ := reached.decides setup sound nonempty summed
    exact reached.record setup stored due (same ▸ ran)

theorem rounds_reached (setup : GuaranteeSetup start) (sound : start.QueueSound) (nonempty : start.parties.Nonempty)
    (ran : start.rounds count = .ok after) : Reached start count after := by
  induction count generalizing after with
  | zero =>
    cases ran
    exact reached_zero setup
  | succ count ih =>
    obtain ⟨before, earlier, last⟩ := Fallible.bind_eq_ok_iff.mp ran
    exact (ih earlier).round_spec setup sound nonempty last

/-- A round goes through while the decisions so far fit the counters. -/
theorem Reached.round_ok (reached : Reached start count self) (setup : GuaranteeSetup start)
    (sound : start.QueueSound) (nonempty : start.parties.Nonempty) (fits : count + 1 < UInt64.size) :
    ∃ after, self.round = .ok after := by
  have value : (UInt64.ofNat count).toNat = count := UInt64.toNat_ofNat_of_lt' (by omega)
  have summed : self.totalAllocated = .ok (UInt64.ofNat count) := by
    rw [totalAllocated_eq_ok_iff, value, reached.allocations]
  obtain ⟨decision, partition, same, -, -⟩ := reached.decides setup sound nonempty summed
  rw [same, recordChecked_eq_ok (by rw [reached.allocations]; exact fits)]
  exact ⟨_, rfl⟩

/-- Without partitions there is nothing to decide. -/
theorem round_of_empty (sound : start.QueueSound) (nothing : start.partitions.entries = []) :
    start.round = .ok start := by
  have noPartition : ∀ name, start.partitions.lookup name = none := by
    intro name
    rw [AList.lookup_eq_none, AList.mem_keys, AList.keys, List.keys, nothing]
    exact List.not_mem_nil
  have idle : start.readyQueue.entries = [] := by
    rw [sound.entries_eq_nil_iff]
    rintro id entity ⟨found, -⟩
    have housed := sound.partitioned id entity found
    rw [noPartition] at housed
    cases housed
  have summed : start.totalAllocated = .ok 0 := by
    rw [totalAllocated, Table.values, nothing]
    rfl
  simp only [round, nextBy, idle, summed, bestBy]
  rfl

theorem rounds_ok (setup : GuaranteeSetup start) (sound : start.QueueSound) (fits : count < UInt64.size) :
    ∃ after, start.rounds count = .ok after := by
  by_cases empty : start.partitions.entries = []
  · refine ⟨start, ?_⟩
    clear fits
    induction count with
    | zero => rfl
    | succ count ih =>
      rw [rounds, ih]
      exact round_of_empty sound empty
  · have nonempty : start.parties.Nonempty := by
      obtain ⟨entry, listed⟩ := List.exists_mem_of_ne_nil _ empty
      exact ⟨entry.1, List.mem_toFinset.mpr (List.mem_map_of_mem listed)⟩
    induction count with
    | zero => exact ⟨start, rfl⟩
    | succ count ih =>
      obtain ⟨before, earlier⟩ := ih (by omega)
      obtain ⟨after, last⟩ := (rounds_reached setup sound nonempty earlier).round_ok setup sound nonempty fits
      exact ⟨after, by rw [rounds, earlier]; exact last⟩

/-- INV-SCH-002: after any number of rounds every partition has its guaranteed share of the decisions but
for one decision for each partition. The rounds go through while their number fits a `u64`. -/
theorem partitionGuarantee (ops : List SchedulerOp) (setup : GuaranteeSetup (runFrom ops)) (count : ℕ) :
    (count < UInt64.size → ∃ after, (runFrom ops).rounds count = .ok after) ∧
      ∀ after, (runFrom ops).rounds count = .ok after →
        ∀ name partition, (runFrom ops).partitions.lookup name = some partition →
          ∃ current, after.partitions.lookup name = some current ∧
            partition.guaranteePct.toNat * count ≤
              100 * current.allocated.toNat + 100 * (runFrom ops).partitions.keys.length := by
  have sound := runFrom_queueSound ops
  refine ⟨rounds_ok setup sound, fun after ran name partition stored => ?_⟩
  have listed : name ∈ (runFrom ops).parties := by
    rw [mem_parties_iff, stored]
    rfl
  have reached := rounds_reached setup sound ⟨name, listed⟩ ran
  obtain ⟨current, found⟩ := Option.isSome_iff_exists.mp ((reached.isSome name).trans (by rw [stored]; rfl))
  have bound := Deficit.owed_le (by decide) (reached.levels _) listed
  have size : (runFrom ops).parties.card = (runFrom ops).partitions.keys.length :=
    List.toFinset_card_of_nodup (runFrom ops).partitions.nodupKeys
  have same : after.share name = partition.guaranteePct.toNat := by
    rw [reached.share, share, stored, Option.elim_some]
  refine ⟨current, found, ?_⟩
  rw [owed, same, found, Option.elim_some, size] at bound
  omega

/-- Two partitions and a capsule in each, the one with the lower guarantee ahead. -/
def twoPartitions : List SchedulerOp :=
  [.addPartition { name := "ui", guaranteePct := 30, maxPct := 100, allocated := 0, readyCount := 0 },
    .addPartition { name := "inference", guaranteePct := 70, maxPct := 100, allocated := 0, readyCount := 0 },
    .registerCapsule (.new 1 20 "ui"), .registerCapsule (.new 2 60 "inference")]

theorem twoPartitions_setup : GuaranteeSetup (runFrom twoPartitions) := by
  have names : ∀ name, ((runFrom twoPartitions).partitions.lookup name).isSome → name = "ui" ∨ name = "inference" := by
    intro name stored
    rw [← Table.mem_keys_iff] at stored
    have keys : (runFrom twoPartitions).partitions.keys = ["inference", "ui"] := by decide
    rw [keys] at stored
    simpa [or_comm] using stored
  have entities : ∀ id entity, (runFrom twoPartitions).entities.lookup id = some entity →
      entity = .new 1 20 "ui" ∨ entity = .new 2 60 "inference" := by
    intro id entity stored
    have member : entity ∈ (runFrom twoPartitions).entities.values := (Table.mem_values_iff _ _).mpr ⟨id, stored⟩
    have values : (runFrom twoPartitions).entities.values = [.new 2 60 "inference", .new 1 20 "ui"] := by decide
    rw [values] at member
    simpa [or_comm] using member
  refine ⟨fun name partition stored => ?_, by decide, fun name stored => ?_, fun id entity ready => ?_⟩
  · obtain rfl | rfl := names name (by rw [stored]; rfl)
    · cases stored
      rfl
    · cases stored
      rfl
  · obtain rfl | rfl := names name stored
    · exact ⟨1, .new 1 20 "ui", ⟨rfl, rfl⟩, rfl⟩
    · exact ⟨2, .new 2 60 "inference", ⟨rfl, rfl⟩, rfl⟩
  · obtain rfl | rfl := entities id entity ready.1 <;> rfl

theorem partitionGuarantee_twoPartitions :
    ∃ after current, (runFrom twoPartitions).rounds 10 = .ok after ∧
      after.partitions.lookup "inference" = some current ∧ 70 * 10 ≤ 100 * current.allocated.toNat + 100 * 2 := by
  obtain ⟨completes, guaranteed⟩ := partitionGuarantee twoPartitions twoPartitions_setup 10
  obtain ⟨after, ran⟩ := completes (by decide)
  obtain ⟨current, found, bound⟩ := guaranteed after ran "inference" _ rfl
  exact ⟨after, current, ran, found, bound⟩

end Aios.Scheduler.PartitionScheduler
