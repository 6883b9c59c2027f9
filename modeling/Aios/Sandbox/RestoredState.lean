import Aios.Lib.Since
import Aios.Sandbox.RollbackEngine
import Mathlib.Order.Bounds.Basic

/-! # What a rollback restores

A rollback applies the snapshot stored last for the capsule and then stores an empty one of its own, the
record of its trace. The next rollback finds that record unless the owner has frozen the capsule in
between. Ids count up, so the later of two snapshots is the one with the greater id.
-/

namespace Aios.Sandbox

/-- The ids of the snapshots of a capsule, in order. -/
def SnapshotStore.ids (self : SnapshotStore) (capsuleId : CapsuleId) : List SnapshotId :=
  (self.list capsuleId).map (·.id)

namespace RollbackEngine

inductive StoreOp where
  | freeze (capsuleId : CapsuleId) (label : String) (frozenAt : UInt64) (payload : SnapshotPayload)
  | deleteSnapshot (snapshotId : SnapshotId)
  | executeRollback (capsuleId : CapsuleId) (now : UInt64)
deriving DecidableEq

section

variable (order : IterationOrder (Σ _ : CapsuleId, List CapsuleSnapshot))

def apply (self : RollbackEngine) : StoreOp → RollbackEngine
  | .freeze capsuleId label frozenAt payload => (self.freeze capsuleId label frozenAt payload).1
  | .deleteSnapshot snapshotId =>
      { self with snapshotStore := (self.snapshotStore.deleteSnapshot order snapshotId).1 }
  | .executeRollback capsuleId now => (self.executeRollback capsuleId now).1

/-- The engine after a run of operations on a new one. -/
def runStore (ops : List StoreOp) : RollbackEngine := StepRun.run (apply order) new ops

/-- The operation freezes the capsule for its owner. -/
def Freezes (capsuleId : CapsuleId) : StoreOp → Prop
  | .freeze other _ _ _ => other = capsuleId
  | _ => False

/-- The operation rolls the capsule back. -/
def RollsBack (self : RollbackEngine) (capsuleId : CapsuleId) : StoreOp → Prop
  | .executeRollback other _ => other = capsuleId ∧ (self.snapshotStore.latest capsuleId).isSome
  | _ => False

/-- The snapshot was frozen by the owner of the capsule and has not been deleted. -/
def OwnerSnapshot (capsuleId : CapsuleId) (ops : List StoreOp) (id : SnapshotId) : Prop :=
  StepRun.Since (fun before op => id = (runStore order before).snapshotStore.nextId ∧ Freezes capsuleId op)
    (fun _ op => op = .deleteSnapshot id) ops

/-- The snapshot is the trace record of a rollback of the capsule and has not been deleted. -/
def TraceRecord (capsuleId : CapsuleId) (ops : List StoreOp) (id : SnapshotId) : Prop :=
  StepRun.Since
    (fun before op => id = (runStore order before).snapshotStore.nextId ∧
      (runStore order before).RollsBack capsuleId op)
    (fun _ op => op = .deleteSnapshot id) ops

end

variable {order : IterationOrder (Σ _ : CapsuleId, List CapsuleSnapshot)}

/-! ## The ids in the store -/

/-- Every id is below the counter and occurs once, in the list of one capsule, in the order of creation. -/
structure IdsSound (store : SnapshotStore) : Prop where
  below : ∀ capsuleId id, id ∈ store.ids capsuleId → id < store.nextId
  increasing : ∀ capsuleId, (store.ids capsuleId).Pairwise (· < ·)
  unique : ∀ capsuleId other id, id ∈ store.ids capsuleId → id ∈ store.ids other → capsuleId = other

variable {store after : SnapshotStore} {capsuleId : CapsuleId}

theorem ids_of_stored {snapshots : List CapsuleSnapshot} (stored : store.snapshots.lookup capsuleId = some snapshots) :
    store.ids capsuleId = snapshots.map (·.id) := by
  rw [SnapshotStore.ids, SnapshotStore.list, stored, Option.getD_some]

theorem mem_ids_iff {id : SnapshotId} :
    id ∈ store.ids capsuleId ↔
      ∃ snapshots, store.snapshots.lookup capsuleId = some snapshots ∧ id ∈ snapshots.map (·.id) := by
  cases stored : store.snapshots.lookup capsuleId with
  | none => simp [SnapshotStore.ids, SnapshotStore.list, stored]
  | some snapshots => simp [ids_of_stored stored]

/-- Of distinct ids, the one that is erased is gone. -/
theorem map_id_eraseP {snapshots : List CapsuleSnapshot} (nodup : (snapshots.map (·.id)).Nodup)
    (snapshotId : SnapshotId) :
    (snapshots.eraseP (·.id = snapshotId)).map (·.id) = (snapshots.map (·.id)).filter (· ≠ snapshotId) := by
  calc (snapshots.eraseP (·.id = snapshotId)).map (·.id)
      = (snapshots.map (·.id)).eraseP (· = snapshotId) := by
        rw [List.eraseP_map]
        rfl
    _ = (snapshots.map (·.id)).erase snapshotId := by
        rw [List.erase_eq_eraseP']
        rfl
    _ = (snapshots.map (·.id)).filter (· ≠ snapshotId) := by
        rw [nodup.erase_eq_filter]
        exact List.filter_congr fun id _ => by simp [bne, beq_eq_decide]

/-- A deletion takes one id out of the lists. -/
theorem IdsSound.ids_deleteSnapshot (sound : IdsSound store) (snapshotId : SnapshotId) (capsuleId : CapsuleId) :
    (store.deleteSnapshot order snapshotId).1.ids capsuleId = (store.ids capsuleId).filter (· ≠ snapshotId) := by
  have untouched (absent : snapshotId ∉ store.ids capsuleId) :
      store.ids capsuleId = (store.ids capsuleId).filter (· ≠ snapshotId) := by
    refine (List.filter_eq_self.mpr fun id member => ?_).symm
    rw [decide_eq_true_iff]
    rintro rfl
    exact absent member
  unfold SnapshotStore.deleteSnapshot
  cases found : (order.arrange store.snapshots.entries).find? fun entry => entry.2.any (·.id = snapshotId) with
  | none =>
    apply untouched
    rw [mem_ids_iff]
    rintro ⟨snapshots, stored, member⟩
    obtain ⟨snapshot, listed, same⟩ := List.mem_map.mp member
    have entry := (order.perm store.snapshots.entries).mem_iff.mpr (AList.mem_lookup_iff.mp stored)
    exact List.find?_eq_none.mp found _ entry (List.any_eq_true.mpr ⟨snapshot, listed, decide_eq_true same⟩)
  | some entry =>
    have stored : store.snapshots.lookup entry.1 = some entry.2 :=
      AList.mem_lookup_iff.mpr ((order.perm store.snapshots.entries).mem_iff.mp (List.mem_of_find?_eq_some found))
    have holds : snapshotId ∈ store.ids entry.1 := by
      have met := List.find?_some found
      obtain ⟨snapshot, listed, same⟩ := List.any_eq_true.mp met
      exact mem_ids_iff.mpr ⟨entry.2, stored, List.mem_map.mpr ⟨snapshot, listed, of_decide_eq_true same⟩⟩
    by_cases same : capsuleId = entry.1
    · subst same
      have nodup : (entry.2.map (·.id)).Nodup := by
        rw [← ids_of_stored stored]
        exact (sound.increasing entry.1).imp fun less => ne_of_lt less
      change (((store.snapshots.modify entry.1 _).lookup entry.1).getD []).map (·.id) = _
      rw [Table.lookup_modify, if_pos rfl, stored, Option.map_some, Option.getD_some, ids_of_stored stored]
      exact map_id_eraseP nodup snapshotId
    · rw [← untouched fun member => same (sound.unique _ _ _ member holds)]
      change (((store.snapshots.modify entry.1 _).lookup capsuleId).getD []).map (·.id) = _
      rw [Table.lookup_modify, if_neg same]
      rfl

/-- A new snapshot takes the next id. -/
theorem ids_freeze (label : String) (frozenAt : ℕ) (payload : SnapshotPayload) (other : CapsuleId) :
    (store.freeze capsuleId label frozenAt payload).1.ids other =
      if other = capsuleId then store.ids capsuleId ++ [store.nextId] else store.ids other := by
  rw [SnapshotStore.ids, SnapshotStore.list_freeze]
  split_ifs
  · rw [List.map_append]
    rfl
  · rfl

theorem IdsSound.create (sound : IdsSound store) (counted : after.nextId = store.nextId + 1)
    (created : ∀ other, after.ids other =
      if other = capsuleId then store.ids capsuleId ++ [store.nextId] else store.ids other) : IdsSound after := by
  have member : ∀ other id, id ∈ after.ids other ↔
      id ∈ store.ids other ∨ other = capsuleId ∧ id = store.nextId := by
    intro other id
    rw [created]
    by_cases same : other = capsuleId
    · subst same
      simp
    · simp [same]
  refine ⟨fun other id listed => ?_, fun other => ?_, fun first second id here there => ?_⟩
  · obtain earlier | ⟨-, rfl⟩ := (member other id).mp listed
    · rw [counted]
      exact Nat.lt_succ_of_lt (sound.below other id earlier)
    · rw [counted]
      exact Nat.lt_succ_self _
  · rw [created]
    split_ifs
    · refine List.pairwise_append.mpr ⟨sound.increasing capsuleId, List.pairwise_singleton _ _, ?_⟩
      intro earlier listed new isNew
      rw [List.mem_singleton.mp isNew]
      exact sound.below capsuleId earlier listed
    · exact sound.increasing other
  · obtain here | ⟨rfl, rfl⟩ := (member first id).mp here
    · obtain there | ⟨-, rfl⟩ := (member second id).mp there
      · exact sound.unique first second id here there
      · exact absurd (sound.below first _ here) (lt_irrefl _)
    · obtain there | ⟨rfl, -⟩ := (member second _).mp there
      · exact absurd (sound.below second _ there) (lt_irrefl _)
      · rfl

theorem nextId_deleteSnapshot (store : SnapshotStore) (snapshotId : SnapshotId) :
    (store.deleteSnapshot order snapshotId).1.nextId = store.nextId := by
  unfold SnapshotStore.deleteSnapshot
  split <;> rfl

theorem IdsSound.delete (sound : IdsSound store) (snapshotId : SnapshotId) :
    IdsSound (store.deleteSnapshot order snapshotId).1 := by
  have sublist : ∀ capsuleId, ((store.deleteSnapshot order snapshotId).1.ids capsuleId).Sublist
      (store.ids capsuleId) := by
    intro capsuleId
    rw [sound.ids_deleteSnapshot]
    exact List.filter_sublist
  refine ⟨fun capsuleId id listed => ?_, fun capsuleId => ?_, fun first second id here there => ?_⟩
  · rw [nextId_deleteSnapshot]
    exact sound.below capsuleId id ((sublist capsuleId).subset listed)
  · exact (sound.increasing capsuleId).sublist (sublist capsuleId)
  · exact sound.unique first second id ((sublist first).subset here) ((sublist second).subset there)

/-! ## What is stored and where it came from -/

/-- What an operation does to the store: it creates a snapshot, deletes one, or finds nothing to do. -/
theorem apply_cases (self : RollbackEngine) (op : StoreOp) :
    (∃ capsuleId, (Freezes capsuleId op ∨ self.RollsBack capsuleId op) ∧ (∀ id, op ≠ .deleteSnapshot id) ∧
      (self.apply order op).snapshotStore.nextId = self.snapshotStore.nextId + 1 ∧
      ∀ other, (self.apply order op).snapshotStore.ids other =
        if other = capsuleId then self.snapshotStore.ids capsuleId ++ [self.snapshotStore.nextId]
        else self.snapshotStore.ids other) ∨
    (∃ id, op = .deleteSnapshot id) ∨
    ((∀ capsuleId, ¬ Freezes capsuleId op ∧ ¬ self.RollsBack capsuleId op) ∧ (∀ id, op ≠ .deleteSnapshot id) ∧
      (self.apply order op).snapshotStore = self.snapshotStore) := by
  cases op with
  | freeze capsuleId label frozenAt payload =>
    exact .inl ⟨capsuleId, .inl rfl, by simp, rfl, ids_freeze label frozenAt.toNat payload⟩
  | deleteSnapshot snapshotId => exact .inr (.inl ⟨snapshotId, rfl⟩)
  | executeRollback capsuleId now =>
    cases found : self.snapshotStore.latest capsuleId with
    | none =>
      refine .inr (.inr ⟨fun other => ⟨id, ?_⟩, by simp, ?_⟩)
      · rintro ⟨rfl, available⟩
        rw [found] at available
        cases available
      · simp only [apply, executeRollback, found]
    | some latest =>
      refine .inl ⟨capsuleId, .inr ⟨rfl, by rw [found]; rfl⟩, by simp, ?_, fun other => ?_⟩
      · simp only [apply, executeRollback, found]
        rfl
      · simp only [apply, executeRollback, found]
        exact ids_freeze _ _ _ other

variable {ops : List StoreOp} {op : StoreOp} {id : SnapshotId}

theorem runStore_append_singleton : runStore order (ops ++ [op]) = (runStore order ops).apply order op :=
  StepRun.run_append ..

theorem ownerSnapshot_append_singleton : OwnerSnapshot order capsuleId (ops ++ [op]) id ↔
    (id = (runStore order ops).snapshotStore.nextId ∧ Freezes capsuleId op) ∨
      OwnerSnapshot order capsuleId ops id ∧ op ≠ .deleteSnapshot id :=
  StepRun.since_append_singleton

theorem traceRecord_append_singleton : TraceRecord order capsuleId (ops ++ [op]) id ↔
    (id = (runStore order ops).snapshotStore.nextId ∧ (runStore order ops).RollsBack capsuleId op) ∨
      TraceRecord order capsuleId ops id ∧ op ≠ .deleteSnapshot id :=
  StepRun.since_append_singleton

/-- What every run keeps: the ids stored for a capsule are those of the owner's snapshots and of the trace
records, and none is both. -/
structure Originated (order : IterationOrder (Σ _ : CapsuleId, List CapsuleSnapshot)) (ops : List StoreOp) : Prop where
  sound : IdsSound (runStore order ops).snapshotStore
  listed : ∀ capsuleId id, id ∈ (runStore order ops).snapshotStore.ids capsuleId ↔
    OwnerSnapshot order capsuleId ops id ∨ TraceRecord order capsuleId ops id
  apart : ∀ capsuleId id, ¬ (OwnerSnapshot order capsuleId ops id ∧ TraceRecord order capsuleId ops id)

theorem Freezes.not_rollsBack {self : RollbackEngine} {other : CapsuleId} (freezes : Freezes capsuleId op) :
    ¬ self.RollsBack other op := by
  cases op with
  | freeze _ _ _ _ => exact id
  | _ => cases freezes

/-- A created snapshot is the one or the other kind. -/
theorem Originated.create (originated : Originated order ops)
    (made : Freezes capsuleId op ∨ (runStore order ops).RollsBack capsuleId op)
    (kept : ∀ id, op ≠ .deleteSnapshot id)
    (counted : ((runStore order ops).apply order op).snapshotStore.nextId =
      (runStore order ops).snapshotStore.nextId + 1)
    (created : ∀ other, ((runStore order ops).apply order op).snapshotStore.ids other =
      if other = capsuleId then (runStore order ops).snapshotStore.ids capsuleId ++
        [(runStore order ops).snapshotStore.nextId]
      else (runStore order ops).snapshotStore.ids other) : Originated order (ops ++ [op]) := by
  have fresh : ∀ capsuleId, ¬ OwnerSnapshot order capsuleId ops (runStore order ops).snapshotStore.nextId ∧
      ¬ TraceRecord order capsuleId ops (runStore order ops).snapshotStore.nextId := by
    intro capsuleId
    rw [← not_or, ← originated.listed]
    exact fun listed => lt_irrefl _ (originated.sound.below capsuleId _ listed)
  have exclusive : ∀ other, (Freezes other op → other = capsuleId) ∧
      ((runStore order ops).RollsBack other op → other = capsuleId) := by
    intro other
    cases op with
    | freeze own _ _ _ => exact ⟨fun same => same.symm.trans (made.resolve_right id), False.elim⟩
    | deleteSnapshot _ => exact ⟨False.elim, False.elim⟩
    | executeRollback own _ =>
      have isOwn : own = capsuleId := (made.resolve_left id).1
      exact ⟨False.elim, fun back => back.1.symm.trans isOwn⟩
  refine ⟨?_, fun other id => ?_, fun other id => ?_⟩
  · rw [runStore_append_singleton]
    exact originated.sound.create counted created
  · rw [runStore_append_singleton, created, ownerSnapshot_append_singleton, traceRecord_append_singleton]
    simp only [kept, ne_eq, not_false_iff, and_true]
    by_cases same : other = capsuleId
    · subst same
      rw [if_pos rfl, List.mem_append, List.mem_singleton, originated.listed]
      tauto
    · rw [if_neg same, originated.listed]
      have notHere := exclusive other
      tauto
  · rw [ownerSnapshot_append_singleton, traceRecord_append_singleton]
    rintro ⟨⟨rfl, freezes⟩ | ⟨owner, -⟩, ⟨new, back⟩ | ⟨trace, -⟩⟩
    · exact freezes.not_rollsBack back
    · exact (fresh other).2 trace
    · exact (fresh other).1 (new ▸ owner)
    · exact originated.apart other id ⟨owner, trace⟩

theorem Originated.step (originated : Originated order ops) (op : StoreOp) : Originated order (ops ++ [op]) := by
  obtain ⟨capsuleId, made, kept, counted, created⟩ | ⟨snapshotId, rfl⟩ | ⟨nothing, kept, same⟩ :=
    @apply_cases order (runStore order ops) op
  · exact originated.create made kept counted created
  · have unmade : ∀ capsuleId, ¬ Freezes capsuleId (.deleteSnapshot snapshotId) ∧
        ¬ (runStore order ops).RollsBack capsuleId (.deleteSnapshot snapshotId) := fun _ => ⟨id, id⟩
    refine ⟨?_, fun other id => ?_, fun other id => ?_⟩
    · rw [runStore_append_singleton]
      exact originated.sound.delete snapshotId
    · have deleted := @IdsSound.ids_deleteSnapshot order _ originated.sound snapshotId other
      rw [runStore_append_singleton]
      change id ∈ ((runStore order ops).snapshotStore.deleteSnapshot order snapshotId).1.ids other ↔ _
      rw [deleted, List.mem_filter, originated.listed, ownerSnapshot_append_singleton, traceRecord_append_singleton]
      have spared : StoreOp.deleteSnapshot snapshotId ≠ .deleteSnapshot id ↔ id ≠ snapshotId := by
        simp [eq_comm]
      simp only [unmade, and_false, false_or, spared, decide_eq_true_eq]
      tauto
    · rw [ownerSnapshot_append_singleton, traceRecord_append_singleton]
      rintro ⟨⟨-, impossible⟩ | ⟨owner, -⟩, ⟨-, impossible⟩ | ⟨trace, -⟩⟩
      · exact impossible
      · exact impossible
      · exact impossible
      · exact originated.apart other id ⟨owner, trace⟩
  · have owners : ∀ capsuleId id, OwnerSnapshot order capsuleId (ops ++ [op]) id ↔
        OwnerSnapshot order capsuleId ops id := by
      intro capsuleId id
      simp [ownerSnapshot_append_singleton, nothing, kept]
    have traces : ∀ capsuleId id, TraceRecord order capsuleId (ops ++ [op]) id ↔
        TraceRecord order capsuleId ops id := by
      intro capsuleId id
      simp [traceRecord_append_singleton, nothing, kept]
    refine ⟨?_, fun other id => ?_, fun other id => ?_⟩
    · rw [runStore_append_singleton, same]
      exact originated.sound
    · rw [runStore_append_singleton, same, owners, traces]
      exact originated.listed other id
    · rw [owners, traces]
      exact originated.apart other id

theorem runStore_originated : Originated order ops := by
  induction ops using List.reverseRecOn with
  | nil =>
    refine ⟨⟨fun capsuleId id listed => ?_, fun capsuleId => ?_, fun first second id listed => ?_⟩,
      fun capsuleId id => ?_, fun capsuleId id both => StepRun.not_since_nil both.1⟩
    · cases listed
    · exact .nil
    · cases listed
    · exact iff_of_false List.not_mem_nil fun made => made.elim StepRun.not_since_nil StepRun.not_since_nil
  | append_singleton before op ih => exact ih.step op

/-! ## What a rollback applies -/

/-- The greatest id of a list that counts up is its last. -/
theorem isGreatest_getLast {ids : List ℕ} (increasing : ids.Pairwise (· < ·)) {last : ℕ}
    (final : ids.getLast? = some last) : IsGreatest {id | id ∈ ids} last := by
  obtain ⟨before, rfl⟩ := List.getLast?_eq_some_iff.mp final
  refine ⟨by simp, fun id member => ?_⟩
  obtain earlier | same := List.mem_append.mp member
  · exact ((List.pairwise_append.mp increasing).2.2 id earlier last (List.mem_singleton_self last)).le
  · rw [List.mem_singleton.mp same]

/-- A rollback applies the greatest id stored for the capsule. -/
theorem applied_isGreatest {now : UInt64} {result : RollbackResult}
    (executed : ((runStore order ops).executeRollback capsuleId now).2 = .ok result) :
    IsGreatest {id | OwnerSnapshot order capsuleId ops id ∨ TraceRecord order capsuleId ops id}
      result.appliedSnapshotId := by
  have originated : Originated order ops := runStore_originated
  unfold executeRollback at executed
  cases found : (runStore order ops).snapshotStore.latest capsuleId with
  | none =>
    rw [found] at executed
    cases executed
  | some latest =>
    rw [found] at executed
    cases executed
    have last : ((runStore order ops).snapshotStore.ids capsuleId).getLast? = some latest.id := by
      rw [SnapshotStore.latest_eq_getLast?] at found
      rw [SnapshotStore.ids, List.getLast?_map, found, Option.map_some]
    have greatest := isGreatest_getLast (originated.sound.increasing capsuleId) last
    simpa only [originated.listed] using greatest

/-- Every rollback that succeeds applies the most recent snapshot that the owner of the capsule froze. -/
def RestoresOwnerState (order : IterationOrder (Σ _ : CapsuleId, List CapsuleSnapshot)) (ops : List StoreOp) : Prop :=
  ∀ before capsuleId now rest result, ops = before ++ .executeRollback capsuleId now :: rest →
    ((runStore order before).executeRollback capsuleId now).2 = .ok result →
    IsGreatest {id | OwnerSnapshot order capsuleId before id} result.appliedSnapshotId

/-- At every rollback, the owner has frozen a snapshot, not deleted, after each trace record not deleted. -/
def Refrozen (order : IterationOrder (Σ _ : CapsuleId, List CapsuleSnapshot)) (ops : List StoreOp) : Prop :=
  ∀ before capsuleId now rest, ops = before ++ .executeRollback capsuleId now :: rest →
    ∀ trace, TraceRecord order capsuleId before trace → ∃ id, OwnerSnapshot order capsuleId before id ∧ trace < id

/-- Rollbacks restore what the owner froze exactly where the owner has frozen the capsule again after each
rollback whose trace record is still stored. -/
theorem restoresOwnerState_iff (order : IterationOrder (Σ _ : CapsuleId, List CapsuleSnapshot)) (ops : List StoreOp) :
    RestoresOwnerState order ops ↔ Refrozen order ops := by
  constructor
  · intro restores before capsuleId now rest split trace made
    have originated : Originated order before := runStore_originated
    have member := (originated.listed capsuleId trace).mpr (.inr made)
    have available : ∃ latest, (runStore order before).snapshotStore.latest capsuleId = some latest := by
      rw [SnapshotStore.latest_eq_getLast?]
      cases stored : (runStore order before).snapshotStore.list capsuleId using List.reverseRecOn with
      | nil => simp [SnapshotStore.ids, stored] at member
      | append_singleton _ last _ => exact ⟨last, List.getLast?_concat⟩
    obtain ⟨latest, found⟩ := available
    obtain ⟨result, executed⟩ : ∃ result, ((runStore order before).executeRollback capsuleId now).2 = .ok result := by
      simp only [executeRollback, found]
      exact ⟨_, rfl⟩
    have greatest := restores before capsuleId now rest result split executed
    refine ⟨result.appliedSnapshotId, greatest.1, lt_of_le_of_ne ?_ ?_⟩
    · exact (applied_isGreatest executed).2 (.inr made)
    · rintro rfl
      exact originated.apart capsuleId _ ⟨greatest.1, made⟩
  · intro refrozen before capsuleId now rest result split executed
    have greatest := applied_isGreatest executed
    refine ⟨?_, fun id owner => greatest.2 (.inl owner)⟩
    obtain owner | trace := greatest.1
    · exact owner
    · obtain ⟨id, owner, later⟩ := refrozen before capsuleId now rest split _ trace
      exact absurd (greatest.2 (.inl owner)) (not_le.mpr later)

/-- Two rollbacks after one snapshot of the owner's. -/
def twoRollbacks : List StoreOp :=
  [.freeze 1 "baseline" 100 (.capsuleState [1, 2, 3] "application/octet-stream"), .executeRollback 1 1000,
    .executeRollback 1 2000]

theorem not_restoresOwnerState_twoRollbacks : ¬ RestoresOwnerState (.stored _) twoRollbacks := by
  intro restores
  have applied : OwnerSnapshot (.stored _) 1 (twoRollbacks.take 1 ++ [.executeRollback 1 1000]) 2 :=
    (restores (twoRollbacks.take 2) 1 2000 [] _ rfl rfl).1
  obtain ⟨-, impossible⟩ | ⟨owner, -⟩ := ownerSnapshot_append_singleton.mp applied
  · exact impossible
  · have first : OwnerSnapshot (.stored _) 1 ([] ++ twoRollbacks.take 1) 2 := owner
    obtain ⟨second, -⟩ | ⟨nothing, -⟩ := ownerSnapshot_append_singleton.mp first
    · exact absurd second (by decide)
    · exact StepRun.not_since_nil nothing

end RollbackEngine

end Aios.Sandbox
