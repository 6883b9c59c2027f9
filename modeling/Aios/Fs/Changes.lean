import Aios.Fs.Mutations
import Aios.Lib.Fallible

/-! # What the operations change

An operation either leaves the catalogs as they were or makes one change to them; a garbage-collection
pass makes a change for every version it purges and every chunk it reclaims. `Change` lists the
changes, `Enabled` the checks that precede each, and `step_effect` reads off what a step does.
Everything that is proved about runs goes through it.
-/

namespace Aios.Fs

open Aios.Rust

variable {prims : Primitives}

inductive Change where
  | captured
  | created (write : ObjectWriteRequest) (context : FsContext) (now : DateTime)
  | extended (write : ObjectWriteRequest) (context : FsContext) (now : DateTime) (objectId : ObjectId)
      (pointerId : PointerId) (replaced : VersionId)
  | entered (versionId : VersionId) (reason : String) (now : DateTime) (fallback : Option VersionId)
  | exited (versionId : VersionId) (disposition : QuarantineDisposition)
  | purged (versionId : VersionId) (chunkIds : List ChunkId)
  | reclaimed (chunkId : ChunkId)
  | decremented (chunkId : ChunkId)

namespace State

variable (store : State prims)

/-! ## The changes -/

def recordWrite (write : ObjectWriteRequest) (context : FsContext) (now : DateTime) (objectId : ObjectId)
    (pointerMove : Option PointerMoveOp) : State prims :=
  let versionId := store.versions.nextKey
  let transactionId := store.transactions.nextKey
  { store with
    versions := store.versions.add (newVersion prims write context now objectId versionId transactionId)
    transactions := store.transactions.add
      (newTransaction write context now objectId versionId transactionId pointerMove) }

def created (write : ObjectWriteRequest) (context : FsContext) (now : DateTime) : State prims :=
  ((store.registerChunks write.chunks now).createObjectPointerPair write store.objects.nextKey
    store.versions.nextKey store.transactions.nextKey now).recordWrite write context now store.objects.nextKey none

def extended (write : ObjectWriteRequest) (context : FsContext) (now : DateTime) (objectId : ObjectId)
    (pointerId : PointerId) (replaced : VersionId) : State prims :=
  { store.registerChunks write.chunks now with
    pointers := store.pointers.modify pointerId
      (·.moveTo store.versions.nextKey store.transactions.nextKey now) }.recordWrite write context now objectId
        (some ⟨pointerId, replaced, store.versions.nextKey⟩)

/-- Move all of the pointers. -/
def movePointers (target : VersionId) (transactionId : TransactionId) (now : DateTime) (pointerIds : List PointerId) :
    State prims :=
  { store with
    pointers := pointerIds.foldl (fun pointers id => pointers.modify id (·.moveTo target transactionId now))
      store.pointers }

def isolate (reason : String) (now : DateTime) (version : Version) : Version :=
  { version with state := .quarantined, quarantinedAt := some now, quarantineReason := some reason }

def isolated (versionId : VersionId) (reason : String) (now : DateTime) : State prims :=
  { store with transactions := store.transactions.skip }.setVersion versionId (isolate reason now)

def entered (versionId : VersionId) (reason : String) (now : DateTime) (fallback : Option VersionId) : State prims :=
  match fallback with
  | some target => (store.isolated versionId reason now).movePointers target store.transactions.nextKey now
      (store.currentOrStablePointersTo versionId)
  | none => store.isolated versionId reason now

/-- The state a disposition leads to. -/
def exitState : QuarantineDisposition → VersionState
  | .released => .verified
  | .purged => .retiredVersion

def leave (state : VersionState) (version : Version) : Version :=
  { version with state, quarantinedAt := none, quarantineReason := none }

def exited (versionId : VersionId) (disposition : QuarantineDisposition) : State prims :=
  store.setVersion versionId (leave (exitState disposition))

def purged (versionId : VersionId) (chunkIds : List ChunkId) : State prims :=
  { store.setVersion versionId (leave .retiredVersion) with
    chunks := chunkIds.foldl (fun chunks chunkId => chunks.modify chunkId decrement) store.chunks
    purgedVersions := insert versionId store.purgedVersions }

/-- The catalogs after a change. -/
def apply : Change → State prims
  | .captured => store.captureSnapshot
  | .created write context now => (store.created write context now).captureSnapshot
  | .extended write context now objectId pointerId replaced =>
      (store.extended write context now objectId pointerId replaced).captureSnapshot
  | .entered versionId reason now fallback => (store.entered versionId reason now fallback).captureSnapshot
  | .exited versionId disposition => (store.exited versionId disposition).captureSnapshot
  | .purged versionId chunkIds => (store.purged versionId chunkIds).captureSnapshot
  | .reclaimed chunkId => { store with chunks := store.chunks.erase chunkId }.captureSnapshot
  | .decremented chunkId => { store with chunks := store.chunks.modify chunkId decrement }.captureSnapshot

/-- The checks that precede a change. -/
def Enabled : Change → Prop
  | .captured => True
  | .created write context _ =>
      write.objectId = none ∧ ensureSnapshotCurrent context.expectedSnapshotId store.currentSnapshotId = .ok ()
  | .extended write context _ objectId pointerId replaced =>
      write.objectId = some objectId ∧
        ensureSnapshotCurrent context.expectedSnapshotId store.currentSnapshotId = .ok () ∧
        store.prepareExistingObjectWrite objectId write.parentVersionIds = .ok () ∧
        ∃ object pointer, store.objects.lookup objectId = some object ∧ object.currentPointerId = pointerId ∧
          store.pointers.lookup pointerId = some pointer ∧ pointer.currentVersionId = replaced
  | .entered versionId _ _ fallback =>
      ∃ version, store.versions.lookup versionId = some version ∧ version.state ≠ .quarantined ∧
        store.fallbackTarget version (store.currentOrStablePointersTo versionId) = .ok fallback ∧
        (fallback = none → store.currentOrStablePointersTo versionId = [])
  | .exited versionId _ => ∃ version, store.versions.lookup versionId = some version ∧ version.state = .quarantined
  | .purged versionId chunkIds =>
      versionId ∉ store.purgedVersions ∧
        ∃ version, store.versions.lookup versionId = some version ∧ version.chunkRefs = chunkIds ∧
          ∀ chunkId ∈ chunkIds, (store.chunks.lookup chunkId).isSome
  | .reclaimed chunkId => ∃ chunk, store.chunks.lookup chunkId = some chunk ∧ chunk.refCount = 0
  | .decremented chunkId => (store.chunks.lookup chunkId).isSome

end State

/-- The changes an operation may make. -/
def FsOp.Makes : FsOp → Change → Prop
  | .write request context now _, .created request' context' now' =>
      request = request' ∧ context = context' ∧ now = now'
  | .write request context now _, .extended request' context' now' _ _ _ =>
      request = request' ∧ context = context' ∧ now = now'
  | .quarantineEnter versionId _ reason now _ _, .entered versionId' reason' now' _ =>
      versionId = versionId' ∧ reason = reason' ∧ now = now'
  | .quarantineExit versionId disposition _ _ _ _, .exited versionId' disposition' =>
      versionId = versionId' ∧ disposition = disposition'
  | .purgeVersion versionId _, .purged versionId' _ => versionId = versionId'
  | .reclaimChunk chunkId, .reclaimed chunkId' => chunkId = chunkId'
  | .decrementChunkRefcount chunkId, .decremented chunkId' => chunkId = chunkId'
  | .gcPass .., .purged .. => True
  | .gcPass .., .reclaimed _ => True
  | .snapshot, .captured => True
  | _, _ => False

namespace State

variable {store : State prims}

variable {α : Type} {write : ObjectWriteRequest} {objectId : ObjectId} {context : FsContext} {pointerId : PointerId}
  (chunkId : ChunkId) (versionId : VersionId) (now : DateTime)

/-! ## Well-kept catalogs -/

/-- Every record is stored under its own id, and the CURRENT pointer of every object is there. -/
structure Keyed (store : State prims) : Prop where
  object : ∀ objectId object, store.objects.lookup objectId = some object → object.objectId = objectId
  version : ∀ versionId version, store.versions.lookup versionId = some version → version.versionId = versionId
  pointer : ∀ pointerId pointer, store.pointers.lookup pointerId = some pointer → pointer.pointerId = pointerId
  current : ∀ objectId object, store.objects.lookup objectId = some object →
    ∃ pointer, store.pointers.lookup object.currentPointerId = some pointer ∧ pointer.objectId = objectId

theorem finalState_thenEmit (section_ : EStateM FsError (State prims) α) (emitFailure : Option String)
    (store : State prims) :
    Stateful.finalState (thenEmit section_ emitFailure store) = Stateful.finalState (section_ store) := by
  rw [thenEmit, Stateful.bind_apply]
  cases section_ store with
  | error failure after => rfl
  | ok value after => cases emitFailure <;> rfl

/-! ## Writes -/

theorem versionForObject_eq_ok_iff {versionId : VersionId} {version : Version} :
    store.versionForObject objectId versionId = .ok version ↔
      store.versions.lookup versionId = some version ∧ version.objectId = objectId := by
  unfold versionForObject
  cases stored : store.versions.lookup versionId with
  | none => simp
  | some other => by_cases same : other.objectId = objectId <;> aesop

theorem prepareExistingObjectWrite_eq_ok_iff {parents : List VersionId} :
    store.prepareExistingObjectWrite objectId parents = .ok () ↔
      (store.objects.lookup objectId).isSome ∧ parents ≠ [] ∧
        ∀ parent ∈ parents, ∃ version, store.versions.lookup parent = some version ∧ version.objectId = objectId := by
  have checked (parent : VersionId) : (discard (store.versionForObject objectId parent) : Except FsError Unit) =
    .ok () ↔
      ∃ version, store.versions.lookup parent = some version ∧ version.objectId = objectId := by
    simp only [← versionForObject_eq_ok_iff]
    cases store.versionForObject objectId parent <;> simp [discard, Functor.discard, Functor.mapConst, Except.map]
  rw [prepareExistingObjectWrite, Fallible.check_eq_ok_iff, Fallible.check_eq_ok_iff, List.forM_eq_forM,
    Fallible.forM_eq_ok_iff]
  simp only [checked, List.isEmpty_iff, Option.isNone_iff_eq_none, Option.isSome_iff_ne_none]

theorem writeLocked_create (enabled : store.Enabled (.created write context now)) :
    writeLocked write context now store = .ok
      ⟨store.objects.nextKey, store.versions.nextKey, store.transactions.nextKey,
        (store.created write context now).computeSnapshotId⟩ (store.apply (.created write context now)) := by
  obtain ⟨creates, current⟩ := enabled
  rw [writeLocked, Stateful.get_bind_apply, current, Stateful.ofExcept_ok_bind_apply, creates]
  rfl

theorem promote_of_stored {object : Object} {pointer : Pointer} (stored : store.objects.lookup objectId = some object)
    (found : store.pointers.lookup object.currentPointerId = some pointer) (versionId : VersionId)
    (transactionId : TransactionId) (now : DateTime) :
    promoteExistingObjectPointer objectId versionId transactionId now store =
      .ok (some ⟨object.currentPointerId, pointer.currentVersionId, versionId⟩)
        { store with
          pointers := store.pointers.modify object.currentPointerId (·.moveTo versionId transactionId now) } := by
  rw [promoteExistingObjectPointer, Stateful.get_bind_apply, stored]
  dsimp only
  rw [found]
  rfl

theorem writeLocked_extend {replaced : VersionId}
    (enabled : store.Enabled (.extended write context now objectId pointerId replaced)) :
    writeLocked write context now store = .ok
      ⟨objectId, store.versions.nextKey, store.transactions.nextKey,
        (store.extended write context now objectId pointerId replaced).computeSnapshotId⟩
      (store.apply (.extended write context now objectId pointerId replaced)) := by
  obtain ⟨extends_, current, prepared, object, pointer, stored, rfl, found, rfl⟩ := enabled
  have promoted := @promote_of_stored _ (store.registerChunks write.chunks now) _ _ _ stored found
    store.versions.nextKey store.transactions.nextKey now
  rw [writeLocked, Stateful.get_bind_apply, current, Stateful.ofExcept_ok_bind_apply, extends_]
  dsimp only
  rw [prepared, Stateful.ofExcept_ok_bind_apply, Stateful.modify_bind_apply, Stateful.bind_apply, promoted]
  rfl

/-- A write fails and leaves the catalogs alone, or makes its change. -/
theorem writeLocked_cases (keyed : store.Keyed) (write : ObjectWriteRequest) (context : FsContext) (now : DateTime) :
    (∃ failure, writeLocked write context now store = .error failure store) ∨
    ∃ change, store.Enabled change ∧ (∀ emitFailure, (FsOp.write write context now emitFailure).Makes change) ∧
      ∃ result, writeLocked write context now store = .ok result (store.apply change) := by
  cases current : ensureSnapshotCurrent context.expectedSnapshotId store.currentSnapshotId with
  | error failure =>
    refine .inl ⟨failure, ?_⟩
    rw [writeLocked, Stateful.get_bind_apply, current, Stateful.ofExcept_error_bind_apply]
  | ok _ =>
    cases target : write.objectId with
    | none =>
      have enabled : store.Enabled (.created write context now) := ⟨target, current⟩
      exact .inr ⟨_, enabled, fun _ => ⟨rfl, rfl, rfl⟩, _, writeLocked_create now enabled⟩
    | some objectId =>
      cases prepared : store.prepareExistingObjectWrite objectId write.parentVersionIds with
      | error failure =>
        refine .inl ⟨failure, ?_⟩
        rw [writeLocked, Stateful.get_bind_apply, current, Stateful.ofExcept_ok_bind_apply, target]
        dsimp only
        rw [prepared, Stateful.ofExcept_error_bind_apply]
      | ok _ =>
        obtain ⟨present, -⟩ := prepareExistingObjectWrite_eq_ok_iff.mp prepared
        obtain ⟨object, stored⟩ := Option.isSome_iff_exists.mp present
        obtain ⟨pointer, found, -⟩ := keyed.current objectId object stored
        have enabled : store.Enabled (.extended write context now objectId object.currentPointerId
            pointer.currentVersionId) := ⟨target, current, prepared, object, pointer, stored, rfl, found, rfl⟩
        exact .inr ⟨_, enabled, fun _ => ⟨rfl, rfl, rfl⟩, _, writeLocked_extend now enabled⟩

/-! ## Quarantine -/

theorem mem_currentOrStablePointersTo_iff (keyed : store.Keyed) (versionId : VersionId) (pointerId : PointerId) :
    pointerId ∈ store.currentOrStablePointersTo versionId ↔ ∃ pointer, store.pointers.lookup pointerId = some pointer ∧
      (pointer.kind = .current ∨ pointer.kind = .stable) ∧ pointer.currentVersionId = versionId := by
  rw [currentOrStablePointersTo, List.mem_insertionSort, List.mem_map]
  simp only [List.mem_filter, decide_eq_true_eq, Table.mem_values_iff]
  constructor
  · rintro ⟨pointer, ⟨⟨key, stored⟩, fits⟩, rfl⟩
    rw [keyed.pointer key pointer stored]
    exact ⟨pointer, stored, fits⟩
  · rintro ⟨pointer, stored, fits⟩
    exact ⟨pointer, ⟨⟨pointerId, stored⟩, fits⟩, keyed.pointer pointerId pointer stored⟩

theorem movePointer_apply (present : (store.pointers.lookup pointerId).isSome) (target : VersionId)
    (transactionId : TransactionId) (now : DateTime) :
    movePointer target transactionId now pointerId store =
      .ok () (store.movePointers target transactionId now [pointerId]) := by
  obtain ⟨pointer, stored⟩ := Option.isSome_iff_exists.mp present
  rw [movePointer, Stateful.get_bind_apply, stored]
  rfl

theorem forM_movePointer {target : VersionId} {transactionId : TransactionId} {now : DateTime}
    {pointerIds : List PointerId} (present : ∀ pointerId ∈ pointerIds, (store.pointers.lookup pointerId).isSome) :
    pointerIds.forM (movePointer target transactionId now) store =
      .ok () (store.movePointers target transactionId now pointerIds) := by
  induction pointerIds generalizing store with
  | nil => rfl
  | cons pointerId rest ih =>
    rw [List.forM_eq_forM, List.forM_cons, Stateful.bind_apply,
      movePointer_apply (present pointerId List.mem_cons_self)]
    apply ih
    intro other listed
    change ((store.pointers.modify pointerId _).lookup other).isSome
    rw [Ledger.lookup_modify]
    split
    · rw [Option.isSome_map]
      exact present pointerId List.mem_cons_self
    · exact present other (List.mem_cons_of_mem _ listed)

/-- An entry fails and leaves the catalogs alone, or makes its change. -/
theorem applyQuarantineEntry_cases (keyed : store.Keyed) (versionId : VersionId) (trigger : QuarantineTrigger)
    (reason : String) (now : DateTime) (quarantineId : String) :
    (∃ failure, applyQuarantineEntry versionId trigger reason now quarantineId store = .error failure store ∧
      ∀ fallback, ¬store.Enabled (.entered versionId reason now fallback)) ∨
    ∃ fallback, store.Enabled (.entered versionId reason now fallback) ∧
      ∃ result, applyQuarantineEntry versionId trigger reason now quarantineId store =
        .ok result (store.apply (.entered versionId reason now fallback)) := by
  rw [applyQuarantineEntry, Stateful.get_bind_apply]
  cases stored : store.versions.lookup versionId with
  | none =>
    refine .inl ⟨_, rfl, ?_⟩
    rintro fallback ⟨version, found, -⟩
    rw [stored] at found
    cases found
  | some version =>
    dsimp only
    split
    · rename_i already
      refine .inl ⟨_, rfl, ?_⟩
      rintro fallback ⟨other, found, apart, -⟩
      obtain rfl := Option.some.inj (stored.symm.trans found)
      exact apart already
    · rename_i apart
      cases sought : store.fallbackTarget version (store.currentOrStablePointersTo versionId) with
      | error failure =>
        rw [Stateful.ofExcept_error_bind_apply]
        refine .inl ⟨_, rfl, ?_⟩
        rintro fallback ⟨other, found, -, sought', -⟩
        obtain rfl := Option.some.inj (stored.symm.trans found)
        cases sought.symm.trans sought'
      | ok fallback =>
        rw [Stateful.ofExcept_ok_bind_apply]
        split
        · rename_i stuck
          rw [Bool.and_eq_true, Bool.not_eq_true', List.isEmpty_eq_false_iff, Option.isNone_iff_eq_none] at stuck
          refine .inl ⟨_, rfl, ?_⟩
          rintro fallback' ⟨other, found, -, sought', unaffected⟩
          obtain rfl := Option.some.inj (stored.symm.trans found)
          obtain rfl := Except.ok.inj (sought.symm.trans sought')
          exact stuck.1 (unaffected stuck.2)
        · rename_i free
          rw [Bool.and_eq_true, Bool.not_eq_true', List.isEmpty_eq_false_iff, Option.isNone_iff_eq_none] at free
          refine .inr ⟨fallback, ⟨version, stored, apart, sought, fun none => by_contra fun some =>
            free ⟨some, none⟩⟩, ?_⟩
          rw [Stateful.modify_bind_apply, Stateful.modify_bind_apply]
          cases fallback with
          | none => exact ⟨_, rfl⟩
          | some target =>
            have present : ∀ pointerId ∈ store.currentOrStablePointersTo versionId,
                (store.pointers.lookup pointerId).isSome := by
              intro pointerId affected
              obtain ⟨pointer, found, -⟩ := (mem_currentOrStablePointersTo_iff keyed versionId pointerId).mp affected
              rw [found]
              rfl
            have moved := @forM_movePointer _
              (store.isolated versionId reason now) target store.transactions.nextKey now
              _ present
            exact ⟨_, (Stateful.bind_of_ok moved).trans rfl⟩

theorem applyQuarantineExit_cases (disposition : QuarantineDisposition) (operator : SubjectRef) (now : DateTime)
    (quarantineId : String) (store : State prims) :
    (∃ failure, applyQuarantineExit versionId disposition operator now quarantineId store = .error failure store) ∨
    store.Enabled (.exited versionId disposition) ∧
      ∃ result, applyQuarantineExit versionId disposition operator now quarantineId store =
        .ok result (store.apply (.exited versionId disposition)) := by
  unfold applyQuarantineExit
  rw [Stateful.get_bind_apply]
  cases stored : store.versions.lookup versionId with
  | none => exact .inl ⟨_, rfl⟩
  | some version =>
    dsimp only
    split
    · exact .inl ⟨_, rfl⟩
    · rename_i entered
      refine .inr ⟨⟨version, stored, not_not.mp entered⟩, ?_⟩
      cases disposition <;> exact ⟨_, rfl⟩

/-! ## Reference counts -/

theorem decrementStored_apply {chunkId : ChunkId} (present : (store.chunks.lookup chunkId).isSome) :
    decrementStored chunkId store = .ok () { store with chunks := store.chunks.modify chunkId decrement } := by
  obtain ⟨chunk, stored⟩ := Option.isSome_iff_exists.mp present
  rw [decrementStored, Stateful.get_bind_apply, stored]
  rfl

theorem forM_decrementStored {chunkIds : List ChunkId}
    (present : ∀ chunkId ∈ chunkIds, (store.chunks.lookup chunkId).isSome) :
    chunkIds.forM decrementStored store = .ok () { store with
      chunks := chunkIds.foldl (fun chunks chunkId => chunks.modify chunkId decrement) store.chunks } := by
  induction chunkIds generalizing store with
  | nil => rfl
  | cons chunkId rest ih =>
    rw [List.forM_eq_forM, List.forM_cons, Stateful.bind_apply,
      decrementStored_apply (present chunkId List.mem_cons_self)]
    apply ih
    intro other listed
    change ((store.chunks.modify chunkId decrement).lookup other).isSome
    rw [Table.lookup_modify]
    split
    · rw [Option.isSome_map]
      exact present chunkId List.mem_cons_self
    · exact present other (List.mem_cons_of_mem _ listed)

theorem purgeVersion_cases (reason : VersionPurgeReason) (store : State prims) :
    (∃ failure, purgeVersion versionId reason store = .error failure store) ∨
    ∃ chunkIds, store.Enabled (.purged versionId chunkIds) ∧
      purgeVersion versionId reason store = .ok chunkIds (store.apply (.purged versionId chunkIds)) := by
  rw [purgeVersion, Stateful.get_bind_apply]
  split
  · exact .inl ⟨_, rfl⟩
  · rename_i unpurged
    cases stored : store.versions.lookup versionId with
    | none => exact .inl ⟨_, rfl⟩
    | some version =>
      dsimp only
      cases missing : version.chunkRefs.find? fun chunkId => (store.chunks.lookup chunkId).isNone with
      | some chunkId => exact .inl ⟨_, rfl⟩
      | none =>
        have present : ∀ chunkId ∈ version.chunkRefs, (store.chunks.lookup chunkId).isSome := by
          intro chunkId listed
          simpa [Option.isSome_iff_ne_none] using List.find?_eq_none.mp missing chunkId listed
        refine .inr ⟨version.chunkRefs, ⟨unpurged, version, stored, rfl, present⟩, ?_⟩
        have decremented := @forM_decrementStored _ (store.setVersion versionId (leave .retiredVersion)) _ present
        exact (Stateful.bind_of_ok decremented).trans rfl

theorem reclaimChunk_cases (store : State prims) :
    (∃ failure, reclaimChunk chunkId store = .error failure store) ∨
    store.Enabled (.reclaimed chunkId) ∧ reclaimChunk chunkId store = .ok () (store.apply (.reclaimed chunkId)) := by
  rw [reclaimChunk, Stateful.get_bind_apply]
  cases stored : store.chunks.lookup chunkId with
  | none => exact .inl ⟨_, rfl⟩
  | some chunk =>
    dsimp only
    split
    · exact .inl ⟨_, rfl⟩
    · rename_i unreferenced
      exact .inr ⟨⟨chunk, stored, not_not.mp unreferenced⟩, rfl⟩

theorem decrementChunkRefcount_cases (store : State prims) :
    (∃ failure, decrementChunkRefcount chunkId store = .error failure store) ∨
    store.Enabled (.decremented chunkId) ∧
      ∃ count, decrementChunkRefcount chunkId store = .ok count (store.apply (.decremented chunkId)) := by
  cases stored : store.chunks.lookup chunkId with
  | none =>
    refine .inl ⟨.chunkUnknown chunkId, ?_⟩
    rw [decrementChunkRefcount, Stateful.bind_apply, decrementStored, Stateful.get_bind_apply, stored]
    rfl
  | some chunk =>
    have present : (store.chunks.lookup chunkId).isSome := by
      rw [stored]
      rfl
    refine .inr ⟨present, ?_⟩
    rw [decrementChunkRefcount, Stateful.bind_apply, decrementStored_apply present]
    exact ⟨_, rfl⟩

/-! ## Garbage collection -/

theorem finalState_purgeListed (store : State prims) :
    Stateful.finalState (purgeListed versionId store) =
      Stateful.finalState (purgeVersion versionId .retired store) := by
  rw [purgeListed, Stateful.tryCatch_apply, Stateful.bind_apply]
  cases purgeVersion versionId .retired store with
  | ok chunkIds after => rfl
  | error failure after => cases failure <;> rfl

theorem finalState_reclaimListed (store : State prims) :
    Stateful.finalState (reclaimListed chunkId store) = Stateful.finalState (reclaimChunk chunkId store) := by
  rw [reclaimListed, Stateful.tryCatch_apply, Stateful.bind_apply]
  cases reclaimChunk chunkId store with
  | ok value after => rfl
  | error failure after => cases failure <;> rfl

/-- The catalogs after the changes, in order. -/
def applyAll (store : State prims) (changes : List Change) : State prims := StepRun.run apply store changes

/-- Changes that a pass makes. -/
def Collects : Change → Prop
  | .purged .. => True
  | .reclaimed _ => True
  | _ => False

/-- A sequence of changes, each enabled where it is made. -/
def Collected (store after : State prims) : Prop :=
  ∃ changes, StepRun.Along apply Enabled store changes ∧ (∀ change ∈ changes, Collects change) ∧
    after = store.applyAll changes

theorem Collected.refl (store : State prims) : Collected store store :=
  ⟨[], trivial, fun _ listed => (nomatch listed), rfl⟩

theorem Collected.one {change : Change} (enabled : store.Enabled change) (collects : Collects change) :
    Collected store (store.apply change) :=
  ⟨[change], ⟨enabled, trivial⟩, fun _ listed => List.mem_singleton.mp listed ▸ collects, rfl⟩

theorem Collected.trans {first second third : State prims} (earlier : Collected first second)
    (later : Collected second third) : Collected first third := by
  obtain ⟨changes, enabled, collects, rfl⟩ := earlier
  obtain ⟨more, enabled', collects', rfl⟩ := later
  refine ⟨changes ++ more, StepRun.along_append.mpr ⟨enabled, enabled'⟩, ?_, ?_⟩
  · intro change listed
    exact (List.mem_append.mp listed).elim (collects change) (collects' change)
  · exact (StepRun.run_append _ _ _ _).symm

theorem collected_collect {round : α → EStateM FsError (State prims) (List GcReason)}
    (rounds : ∀ item store, Collected store (Stateful.finalState (round item store))) (items : List α)
    (store : State prims) : Collected store (Stateful.finalState (collect round items store)) := by
  induction items generalizing store with
  | nil => exact .refl store
  | cons item rest ih =>
    have here := rounds item store
    rw [collect, Stateful.bind_apply]
    cases ran : round item store with
    | error failure after =>
      rw [ran] at here
      exact here
    | ok reasons after =>
      rw [ran] at here
      have there := ih after
      dsimp only
      rw [Stateful.bind_apply]
      cases ran' : collect round rest after with
      | error failure final =>
        rw [ran'] at there
        exact here.trans there
      | ok others final =>
        rw [ran'] at there
        exact here.trans there

theorem collected_purgeListed (store : State prims) :
    Collected store (Stateful.finalState (purgeListed versionId store)) := by
  rw [finalState_purgeListed]
  obtain ⟨failure, ran⟩ | ⟨chunkIds, enabled, ran⟩ := purgeVersion_cases versionId .retired store
  · rw [ran]
    exact .refl store
  · rw [ran]
    exact .one enabled trivial

theorem collected_reclaimListed (store : State prims) :
    Collected store (Stateful.finalState (reclaimListed chunkId store)) := by
  rw [finalState_reclaimListed]
  obtain ⟨failure, ran⟩ | ⟨enabled, ran⟩ := reclaimChunk_cases chunkId store
  · rw [ran]
    exact .refl store
  · rw [ran]
    exact .one enabled trivial

/-- A pass purges and reclaims, and makes no other change. -/
theorem collected_runPass (driver : GcPassDriver) (passId : String) (startedAt completedAt : DateTime)
    (emitFailure : Option String) (store : State prims) :
    Collected store (Stateful.finalState (driver.runPass passId startedAt completedAt emitFailure store)) := by
  rw [GcPassDriver.runPass, finalState_thenEmit, Stateful.get_bind_apply, Stateful.bind_apply]
  have purges := collected_collect collected_purgeListed (store.retiredVersionIdsForGc driver.maxVersionsPerPass) store
  cases ran : collect purgeListed (store.retiredVersionIdsForGc driver.maxVersionsPerPass) store with
  | error failure after =>
    rw [ran] at purges
    exact purges
  | ok purged after =>
    rw [ran] at purges
    dsimp only
    rw [Stateful.get_bind_apply, Stateful.bind_apply]
    have reclaims := collected_collect collected_reclaimListed
      (after.zeroRefChunkIdsForGc driver.maxChunksPerPass) after
    cases ran' : collect reclaimListed (after.zeroRefChunkIdsForGc driver.maxChunksPerPass) after with
    | error failure final =>
      rw [ran'] at reclaims
      exact purges.trans reclaims
    | ok reclaimed final =>
      rw [ran'] at reclaims
      exact purges.trans reclaims

/-! ## Steps -/

/-- What a step does to the catalogs. -/
inductive Effect (store : State prims) (op : FsOp) : State prims → Prop
  | unchanged : Effect store op store
  | change {change : Change} (enabled : store.Enabled change) (makes : op.Makes change) :
      Effect store op (store.apply change)
  | collected {after : State prims} {driver : GcPassDriver} {passId : String} {startedAt completedAt : DateTime}
      {emitFailure : Option String} (pass : op = .gcPass driver passId startedAt completedAt emitFailure)
      (collected : Collected store after) : Effect store op after

theorem step_effect (keyed : store.Keyed) (op : FsOp) : Effect store op (store.step op) := by
  cases op with
  | write write context now emitFailure =>
    rw [step, writeObject, finalState_thenEmit]
    obtain ⟨failure, ran⟩ | ⟨change, enabled, makes, result, ran⟩ := writeLocked_cases keyed write context now
    · rw [ran]
      exact .unchanged
    · rw [ran]
      exact .change enabled (makes emitFailure)
  | quarantineEnter versionId trigger reason now quarantineId emitFailure =>
    rw [step, finalState_thenEmit]
    obtain ⟨failure, ran, -⟩ | ⟨fallback, enabled, result, ran⟩ :=
      applyQuarantineEntry_cases keyed versionId trigger reason now quarantineId
    · rw [ran]
      exact .unchanged
    · rw [ran]
      exact .change enabled ⟨rfl, rfl, rfl⟩
  | quarantineExit versionId disposition operator now quarantineId emitFailure =>
    rw [step, finalState_thenEmit]
    obtain ⟨failure, ran⟩ | ⟨enabled, result, ran⟩ :=
      applyQuarantineExit_cases versionId disposition operator now quarantineId store
    · rw [ran]
      exact .unchanged
    · rw [ran]
      exact .change enabled ⟨rfl, rfl⟩
  | purgeVersion versionId reason =>
    rw [step]
    obtain ⟨failure, ran⟩ | ⟨chunkIds, enabled, ran⟩ := purgeVersion_cases versionId reason store
    · rw [ran]
      exact .unchanged
    · rw [ran]
      exact .change enabled rfl
  | reclaimChunk chunkId =>
    rw [step]
    obtain ⟨failure, ran⟩ | ⟨enabled, ran⟩ := reclaimChunk_cases chunkId store
    · rw [ran]
      exact .unchanged
    · rw [ran]
      exact .change enabled rfl
  | decrementChunkRefcount chunkId =>
    rw [step]
    obtain ⟨failure, ran⟩ | ⟨enabled, count, ran⟩ := decrementChunkRefcount_cases chunkId store
    · rw [ran]
      exact .unchanged
    · rw [ran]
      exact .change enabled rfl
  | gcPass driver passId startedAt completedAt emitFailure =>
    exact .collected rfl (collected_runPass driver passId startedAt completedAt emitFailure store)
  | snapshot => exact @Effect.change _ _ _ .captured trivial trivial

end State

end Aios.Fs
