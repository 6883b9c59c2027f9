import Aios.Lib.Since
import Aios.Scheduler.PartitionScheduler
import Mathlib.Order.Bounds.Basic

/-! # Priority inheritance

INV-SCH-003: while senders wait for a capsule, it runs at the highest of its own priority and theirs.
`inherit_from` compares the new sender with the base priority only, so the senders before it count
for nothing. The invariant holds in the runs whose every sender is at least as high as each sender
that still waits, unless the base priority is.
-/

namespace Aios.Scheduler.PartitionScheduler

variable {self : PartitionScheduler} {id : CapsuleId} {before : List SchedulerOp} {op : SchedulerOp}

variable {sender : CapsulePriority} {entity : CapsuleSchedulingEntity}

/-! ## What an operation leaves of a capsule -/

theorem lookup_registerCapsule (self : PartitionScheduler) (entity : CapsuleSchedulingEntity) (id : CapsuleId) :
    (self.registerCapsule entity).1.entities.lookup id =
      if entity.capsuleId = id ∧ (self.registerCapsule entity).2 = true then some entity
      else self.entities.lookup id := by
  unfold PartitionScheduler.registerCapsule
  by_cases taken : (self.entities.lookup entity.capsuleId).isSome
  · simp [taken]
  by_cases homeless : (self.partitions.lookup entity.partitionName).isNone
  · simp [taken, homeless]
  · have unmoved : ∀ counted : PartitionScheduler, counted.entities = self.entities →
        (counted.entities.insert entity.capsuleId entity).lookup id =
          if entity.capsuleId = id then some entity else self.entities.lookup id := by
      intro counted same
      rw [same, Table.lookup_insert_eq]
      simp only [eq_comm]
    rw [if_neg taken, if_neg homeless]
    simp only [and_true]
    apply unmoved
    split_ifs <;> rfl

theorem lookup_unregisterCapsule (self : PartitionScheduler) (other id : CapsuleId) :
    (self.unregisterCapsule other).1.entities.lookup id = if id = other then none else self.entities.lookup id := by
  unfold PartitionScheduler.unregisterCapsule
  cases stored : self.entities.lookup other with
  | none =>
    by_cases same : id = other
    · subst same
      simp [stored]
    · simp [same]
  | some entity =>
    dsimp only
    split_ifs with ready <;> simp_all [Table.lookup_erase_eq]

theorem lookup_setReady (self : PartitionScheduler) (other id : CapsuleId) (ready : Bool) :
    (self.setReady other ready).1.entities.lookup id =
      if id = other then (self.entities.lookup other).map fun entity => { entity with ready }
      else self.entities.lookup id := by
  unfold PartitionScheduler.setReady
  cases stored : self.entities.lookup other with
  | none =>
    by_cases same : id = other
    · subst same
      simp [stored]
    · simp [same]
  | some entity =>
    dsimp only
    by_cases unchanged : entity.ready = ready
    · subst unchanged
      rw [if_pos rfl]
      by_cases same : id = other
      · subst same
        simp [stored]
      · simp [same]
    · rw [if_neg unchanged]
      cases ready <;> simp [Table.lookup_insert_eq]

theorem lookup_reprioritise (self : PartitionScheduler) (other id : CapsuleId)
    (change : CapsuleSchedulingEntity → CapsuleSchedulingEntity) :
    (self.reprioritise other change).1.entities.lookup id =
      if id = other then (self.entities.lookup other).map change else self.entities.lookup id := by
  unfold reprioritise
  cases stored : self.entities.lookup other with
  | none =>
    by_cases same : id = other
    · subst same
      simp [stored]
    · simp [same]
  | some entity =>
    dsimp only
    have assigned := Table.lookup_insert_eq self.entities other id (change entity)
    split_ifs at assigned ⊢ <;> exact assigned

/-! ## The senders that wait -/

/-- The operation registers the capsule. -/
def Enters (before : List SchedulerOp) (id : CapsuleId) (op : SchedulerOp) : Prop :=
  ∃ entity, op = .registerCapsule entity ∧ entity.capsuleId = id ∧ ((runFrom before).registerCapsule entity).2 = true

/-- A sender priority given to the capsule since it was registered or its inheritance last cleared. -/
def Given (id : CapsuleId) (ops : List SchedulerOp) (sender : CapsulePriority) : Prop :=
  StepRun.Since (fun _ op => op = .inheritPriority id sender)
    (fun before op => op = .clearInheritance id ∨ Enters before id op) ops

/-- The capsule, if registered, runs at the highest of its base priority and the senders given since. -/
def Inherits (id : CapsuleId) (ops : List SchedulerOp) : Prop :=
  ∀ entity, (runFrom ops).entities.lookup id = some entity →
    IsLeast (insert entity.basePriority {sender | Given id ops sender}) entity.effectivePriority

/-- The capsule is registered at its base priority, and a new sender or the base priority is at least as
high as each sender given before. -/
def Fits (id : CapsuleId) (before : List SchedulerOp) : SchedulerOp → Prop
  | .registerCapsule entity => Enters before id (.registerCapsule entity) →
      entity.effectivePriority = entity.basePriority
  | .inheritPriority other sender => other = id →
      ∀ entity, (runFrom before).entities.lookup id = some entity →
        ∀ earlier, Given id before earlier → min entity.basePriority sender ≤ earlier
  | _ => True

theorem given_append_singleton :
    Given id (before ++ [op]) sender ↔ op = .inheritPriority id sender ∨
      Given id before sender ∧ ¬ (op = .clearInheritance id ∨ Enters before id op) :=
  StepRun.since_append_singleton

theorem not_enters (other : ∀ entity, op ≠ .registerCapsule entity) : ¬ Enters before id op := by
  rintro ⟨entity, rfl, -, -⟩
  exact other entity rfl

theorem runFrom_append (before : List SchedulerOp) (op : SchedulerOp) :
    runFrom (before ++ [op]) = (runFrom before).step op := StepRun.run_append ..

/-- An operation that gives no sender and clears none keeps the invariant, whatever it does to the rest of
the capsule. -/
theorem inherits_kept (inherits : Inherits id before) (noSender : ∀ sender, op ≠ .inheritPriority id sender)
    (noClear : op ≠ .clearInheritance id) (noEntry : ¬ Enters before id op)
    (kept : ∀ after, ((runFrom before).step op).entities.lookup id = some after →
      ∃ entity, (runFrom before).entities.lookup id = some entity ∧
        after.basePriority = entity.basePriority ∧ after.effectivePriority = entity.effectivePriority) :
    Inherits id (before ++ [op]) := by
  intro after stored
  rw [runFrom_append] at stored
  obtain ⟨entity, known, base, effective⟩ := kept after stored
  have same : {sender | Given id (before ++ [op]) sender} = {sender | Given id before sender} := by
    ext sender
    simp [given_append_singleton, noSender sender, noClear, noEntry]
  rw [same, base, effective]
  exact inherits entity known

theorem inherits_untouched (inherits : Inherits id before) (noSender : ∀ sender, op ≠ .inheritPriority id sender)
    (noClear : op ≠ .clearInheritance id) (noEntry : ¬ Enters before id op)
    (same : ((runFrom before).step op).entities.lookup id = (runFrom before).entities.lookup id) :
    Inherits id (before ++ [op]) :=
  inherits_kept inherits noSender noClear noEntry fun after stored => ⟨after, same.symm.trans stored, rfl, rfl⟩

theorem max_eq_min (self other : CapsulePriority) : CapsulePriority.max self other = min self other := by
  rw [CapsulePriority.max, min_def]
  rfl

theorem inherits_iff_of_stored {ops : List SchedulerOp} (stored : (runFrom ops).entities.lookup id = some entity) :
    Inherits id ops ↔ IsLeast (insert entity.basePriority {sender | Given id ops sender}) entity.effectivePriority := by
  constructor
  · exact fun inherits => inherits entity stored
  · intro least other found
    cases stored.symm.trans found
    exact least

/-- The lesser of two is the least of these two and some others if it is below the others. -/
theorem isLeast_min_iff {α : Type} [LinearOrder α] {first second : α} {others : Set α} :
    IsLeast (insert first (insert second others)) (min first second) ↔ ∀ other ∈ others, min first second ≤ other := by
  constructor
  · intro least other member
    exact least.2 (.inr (.inr member))
  · intro below
    refine ⟨?_, ?_⟩
    · obtain same | same := min_choice first second
      · exact .inl same
      · exact .inr (.inl same)
    · rintro other (rfl | rfl | member)
      · exact min_le_left _ _
      · exact min_le_right _ _
      · exact below other member

/-- A registration starts the capsule off right if it is at its base priority; a refused one changes
nothing. -/
theorem inherits_registerCapsule_iff (inherits : Inherits id before) (entity : CapsuleSchedulingEntity) :
    Inherits id (before ++ [.registerCapsule entity]) ↔ Fits id before (.registerCapsule entity) := by
  by_cases enters : Enters before id (.registerCapsule entity)
  · have nobody : {sender | Given id (before ++ [.registerCapsule entity]) sender} = ∅ := by
      ext sender
      simp [given_append_singleton, enters]
    have fits : Fits id before (.registerCapsule entity) ↔ entity.effectivePriority = entity.basePriority :=
      ⟨fun fits => fits enters, fun same _ => same⟩
    obtain ⟨registered, op, own, accepted⟩ := enters
    obtain rfl := SchedulerOp.registerCapsule.inj op
    have entered : (runFrom (before ++ [.registerCapsule entity])).entities.lookup id = some entity := by
      rw [runFrom_append]
      exact (lookup_registerCapsule _ _ _).trans (if_pos ⟨own, accepted⟩)
    rw [fits, inherits_iff_of_stored entered, nobody, insert_empty_eq]
    exact ⟨fun least => least.1, fun same => same ▸ isLeast_singleton⟩
  · refine iff_of_true (inherits_untouched inherits (by simp) (by simp) enters ?_) fun entry => absurd entry enters
    exact (lookup_registerCapsule _ _ _).trans (if_neg fun both => enters ⟨entity, rfl, both⟩)

/-- A new sender takes the place of those before, so the higher of it and the base has to be as high as
each of them. -/
theorem inherits_inheritPriority_iff (inherits : Inherits id before) (other : CapsuleId) (sender : CapsulePriority) :
    Inherits id (before ++ [.inheritPriority other sender]) ↔ Fits id before (.inheritPriority other sender) := by
  have after := lookup_reprioritise (runFrom before) other id (·.inheritFrom sender)
  by_cases same : other = id
  · subst same
    rw [if_pos rfl] at after
    cases known : (runFrom before).entities.lookup other with
    | none =>
      rw [known] at after
      refine iff_of_true (fun entity stored => ?_) fun _ entity stored => ?_
      · rw [runFrom_append] at stored
        cases stored.symm.trans after
      · cases known.symm.trans stored
    | some entity =>
      rw [known, Option.map_some] at after
      have inherited : (runFrom (before ++ [.inheritPriority other sender])).entities.lookup other =
          some (entity.inheritFrom sender) := by
        rw [runFrom_append]
        exact after
      have given : {earlier | Given other (before ++ [.inheritPriority other sender]) earlier} =
          insert sender {earlier | Given other before earlier} := by
        ext earlier
        have kept : ¬ Enters before other (.inheritPriority other sender) := not_enters (by simp)
        simp [given_append_singleton, kept, eq_comm]
      rw [inherits_iff_of_stored inherited, given]
      simp only [CapsuleSchedulingEntity.inheritFrom, max_eq_min, isLeast_min_iff]
      exact ⟨fun below _ found stored => by simpa [Option.some.inj (known.symm.trans stored)] using below,
        fun fits => fits rfl entity known⟩
  · rw [if_neg (Ne.symm same)] at after
    exact iff_of_true (inherits_untouched inherits (by simp [same]) (by simp) (not_enters (by simp)) after)
      fun isId => absurd isId same

/-- Clearing the inheritance leaves the base priority and no sender. -/
theorem inherits_clearInheritance (inherits : Inherits id before) (other : CapsuleId) :
    Inherits id (before ++ [.clearInheritance other]) := by
  have after := lookup_reprioritise (runFrom before) other id (·.clearInheritance)
  by_cases same : other = id
  · subst same
    intro entity stored
    rw [runFrom_append] at stored
    rw [if_pos rfl] at after
    obtain ⟨known, -, rfl⟩ := Option.map_eq_some_iff.mp (after.symm.trans stored)
    have nobody : {sender | Given other (before ++ [.clearInheritance other]) sender} = ∅ := by
      ext sender
      simp [given_append_singleton]
    rw [nobody, insert_empty_eq]
    exact isLeast_singleton
  · rw [if_neg (Ne.symm same)] at after
    exact inherits_untouched inherits (by simp) (by simp [same]) (not_enters (by simp)) after

/-- One operation keeps the invariant exactly if it fits the senders that wait. -/
theorem inherits_append_singleton (inherits : Inherits id before) :
    Inherits id (before ++ [op]) ↔ Fits id before op := by
  cases op with
  | addPartition partition =>
    have same : ((runFrom before).addPartition partition).1.entities = (runFrom before).entities := by
      unfold PartitionScheduler.addPartition
      split_ifs <;> rfl
    have untouched : ((runFrom before).step (.addPartition partition)).entities.lookup id =
        (runFrom before).entities.lookup id :=
      congrArg (fun entities => entities.lookup id) same
    exact iff_of_true (inherits_untouched inherits (by simp) (by simp) (not_enters (by simp)) untouched) trivial
  | recordAllocation decision =>
    exact iff_of_true (inherits_untouched inherits (by simp) (by simp) (not_enters (by simp)) rfl) trivial
  | unregisterCapsule other =>
    refine iff_of_true (inherits_kept inherits (by simp) (by simp) (not_enters (by simp)) ?_) trivial
    intro after stored
    change ((runFrom before).unregisterCapsule other).1.entities.lookup id = some after at stored
    rw [lookup_unregisterCapsule] at stored
    split_ifs at stored
    exact ⟨after, stored, rfl, rfl⟩
  | setReady other ready =>
    refine iff_of_true (inherits_kept inherits (by simp) (by simp) (not_enters (by simp)) ?_) trivial
    intro after stored
    change ((runFrom before).setReady other ready).1.entities.lookup id = some after at stored
    rw [lookup_setReady] at stored
    split_ifs at stored with same
    · obtain ⟨entity, known, rfl⟩ := Option.map_eq_some_iff.mp stored
      exact ⟨entity, same ▸ known, rfl, rfl⟩
    · exact ⟨after, stored, rfl, rfl⟩
  | registerCapsule entity => exact inherits_registerCapsule_iff inherits entity
  | inheritPriority other sender => exact inherits_inheritPriority_iff inherits other sender
  | clearInheritance other => exact iff_of_true (inherits_clearInheritance inherits other) trivial

/-! ## Over whole runs -/

/-- INV-SCH-003 in every state of a run: the capsule runs at the highest of its base priority and the
senders that wait, and no sender lowers it. -/
structure PriorityInheritance (id : CapsuleId) (ops : List SchedulerOp) : Prop where
  highest : ∀ before, before <+: ops → Inherits id before
  neverLowered : ∀ before sender rest entity after, ops = before ++ .inheritPriority id sender :: rest →
    (runFrom before).entities.lookup id = some entity →
    (runFrom (before ++ [.inheritPriority id sender])).entities.lookup id = some after →
    after.effectivePriority ≤ entity.effectivePriority

/-- A sender is one more that waits, so the highest of them is no lower. -/
theorem Inherits.not_lowered {after : CapsuleSchedulingEntity} (inherits : Inherits id before)
    (inheritsAfter : Inherits id (before ++ [.inheritPriority id sender]))
    (stored : (runFrom before).entities.lookup id = some entity)
    (storedAfter : (runFrom (before ++ [.inheritPriority id sender])).entities.lookup id = some after) :
    after.effectivePriority ≤ entity.effectivePriority := by
  have base : after.basePriority = entity.basePriority := by
    have read := lookup_reprioritise (runFrom before) id id (·.inheritFrom sender)
    rw [if_pos rfl, stored] at read
    rw [runFrom_append] at storedAfter
    cases read.symm.trans storedAfter
    rfl
  obtain same | given := (inherits entity stored).1
  · apply (inheritsAfter after storedAfter).2
    exact .inl (same.trans base.symm)
  · apply (inheritsAfter after storedAfter).2
    exact .inr (given_append_singleton.mpr (.inr ⟨given, by simp [not_enters]⟩))

/-- A capsule inherits the highest priority in every state of a run exactly when each operation of it
fits the senders that wait. -/
theorem priorityInheritance_iff (id : CapsuleId) (ops : List SchedulerOp) :
    PriorityInheritance id ops ↔ ∀ before op rest, ops = before ++ op :: rest → Fits id before op := by
  have everywhere : (∀ before, before <+: ops → Inherits id before) ↔
      ∀ before op rest, ops = before ++ op :: rest → Fits id before op :=
    @StepRun.forall_prefix_iff_along _ _ step (fun before _ => Inherits id before) (Fits id) new ops
      (fun entity stored => by cases stored) fun before op rest _ inherits => inherits_append_singleton inherits
  rw [← everywhere]
  constructor
  · exact PriorityInheritance.highest
  · intro highest
    refine ⟨highest, fun before sender rest entity after split stored storedAfter => ?_⟩
    exact (highest before ⟨_, split.symm⟩).not_lowered (highest _ (StepRun.upTo_of_cut split)) stored storedAfter

/-- A capsule of base priority 60 with two senders, the higher of them first. -/
def twoSenders : List SchedulerOp :=
  [.addPartition { name := "system", guaranteePct := 20, maxPct := 100, allocated := 0, readyCount := 0 },
    .registerCapsule (.new 1 ⟨60, by decide⟩ "system"), .inheritPriority 1 ⟨5, by decide⟩,
    .inheritPriority 1 ⟨20, by decide⟩]

theorem not_priorityInheritance_twoSenders : ¬ PriorityInheritance 1 twoSenders := by
  intro inherits
  have lowered := inherits.neverLowered (twoSenders.take 3) 20 [] _ _ rfl rfl rfl
  exact absurd lowered (by decide)

end Aios.Scheduler.PartitionScheduler
