import Aios.Fs.Store
import Aios.Lib.Run

/-! # Quarantine, purging and garbage collection

`MutableAiosFs` on the in-memory store, the driver of one garbage-collection pass, and the operations
as the steps of a run. Each operation is one section under the write lock, except a pass, which takes
the lock anew for every version and every chunk.
-/

namespace Aios.Fs

open Aios.Rust

variable {prims : Primitives}

namespace State

variable (store : State prims)

/-! ## Quarantine -/

def currentOrStablePointersTo (versionId : VersionId) : List PointerId :=
  ((store.pointers.records.values.filter fun pointer =>
    (pointer.kind = .current ∨ pointer.kind = .stable) ∧ pointer.currentVersionId = versionId).map
      (·.pointerId)).insertionSort (· ≤ ·)

/-- The target of the first other pointer of a kind, in the order of the ids. -/
def pointerTargetForKind (objectId : ObjectId) (kind : PointerKind) (excludedVersionId : VersionId) :
    Except FsError (Option VersionId) :=
  let pointers := (store.pointers.records.values.filter fun pointer =>
    pointer.objectId = objectId ∧ pointer.kind = kind ∧ pointer.currentVersionId ≠ excludedVersionId).insertionSort
      fun left right => left.pointerId ≤ right.pointerId
  match pointers with
  | pointer :: _ => (store.versionForObject objectId pointer.currentVersionId).map fun target => some target.versionId
  | [] => .ok none

def priorVerifiedParent (store : State prims) (version : Version) : List VersionId → Except FsError (Option VersionId)
  | [] => .ok none
  | parentVersionId :: rest => do
    let parent ← store.versionForObject version.objectId parentVersionId
    if parent.state = .verified then .ok (some parent.versionId) else store.priorVerifiedParent version rest

def quarantinePointerFallback (version : Version) : Except FsError (Option VersionId) := do
  match ← store.pointerTargetForKind version.objectId .rollback version.versionId with
  | some rollbackTarget => .ok (some rollbackTarget)
  | none =>
    match ← store.pointerTargetForKind version.objectId .stable version.versionId with
    | some stableTarget => .ok (some stableTarget)
    | none => store.priorVerifiedParent version version.parentVersionIds

/-- Rewrite one version record. -/
def setVersion (versionId : VersionId) (update : Version → Version) : State prims :=
  { store with versions := store.versions.modify versionId update }

def movePointer (target : VersionId) (transactionId : TransactionId) (now : DateTime) (pointerId : PointerId) :
    EStateM FsError (State prims) Unit := do
  let store ← get
  match store.pointers.lookup pointerId with
  | none => throw (.pointerNotFound pointerId)
  | some _ =>
    modify fun store => { store with pointers := store.pointers.modify pointerId (·.moveTo target transactionId now) }

/-- The fallback of the affected pointers; none is looked for when no pointer is affected. -/
def fallbackTarget (version : Version) (affectedPointerIds : List PointerId) : Except FsError (Option VersionId) :=
  if affectedPointerIds.isEmpty then .ok none else store.quarantinePointerFallback version

def applyQuarantineEntry (versionId : VersionId) (trigger : QuarantineTrigger) (reason : String) (now : DateTime)
    (quarantineId : String) : EStateM FsError (State prims) QuarantineReceipt := do
  let store ← get
  let transactionId := store.transactions.nextKey
  match store.versions.lookup versionId with
  | none => throw (.versionNotFound versionId)
  | some version =>
    if version.state = .quarantined then throw (.quarantineAlreadyApplied versionId)
    else
      let affectedPointerIds := store.currentOrStablePointersTo versionId
      let fallback ← MonadExcept.ofExcept (store.fallbackTarget version affectedPointerIds)
      if !affectedPointerIds.isEmpty && fallback.isNone then throw (.noPriorStablePointer version.objectId)
      else
        modify fun store => { store with transactions := store.transactions.skip }
        modify (·.setVersion versionId fun version => { version with
          state := .quarantined, quarantinedAt := some now, quarantineReason := some reason })
        match fallback with
        | some target => affectedPointerIds.forM (movePointer target transactionId now)
        | none => pure ()
        modify captureSnapshot
        pure ⟨quarantineId, versionId, now, some trigger, none, reason⟩

def applyQuarantineExit (versionId : VersionId) (disposition : QuarantineDisposition) (operator : SubjectRef)
    (now : DateTime) (quarantineId : String) : EStateM FsError (State prims) QuarantineReceipt := do
  let store ← get
  match store.versions.lookup versionId with
  | none => throw (.versionNotFound versionId)
  | some version =>
    if version.state ≠ .quarantined then throw (.quarantineNotApplied versionId)
    else
      let state := match disposition with
        | .released => VersionState.verified
        | .purged => VersionState.retiredVersion
      modify (·.setVersion versionId fun version => { version with
        state, quarantinedAt := none, quarantineReason := none })
      modify captureSnapshot
      pure ⟨quarantineId, versionId, now, none, some disposition, "operator=" ++ operator⟩

/-! ## Reference counts -/

def decrement (chunk : Chunk) : Chunk :=
  if 0 < chunk.refCount then { chunk with refCount := chunk.refCount - 1 } else chunk

/-- A decrement inside a section that goes on. -/
def decrementStored (chunkId : ChunkId) : EStateM FsError (State prims) Unit := do
  let store ← get
  match store.chunks.lookup chunkId with
  | none => throw (.chunkUnknown chunkId)
  | some _ => modify fun store => { store with chunks := store.chunks.modify chunkId decrement }

def decrementChunkRefcount (chunkId : ChunkId) : EStateM FsError (State prims) ℕ := do
  decrementStored chunkId
  let store ← get
  modify captureSnapshot
  pure ((store.chunks.lookup chunkId).elim 0 Chunk.refCount)

def reclaimChunk (chunkId : ChunkId) : EStateM FsError (State prims) Unit := do
  let store ← get
  match store.chunks.lookup chunkId with
  | none => throw (.chunkUnknown chunkId)
  | some chunk =>
    if chunk.refCount ≠ 0 then throw (.chunkStillReferenced chunkId chunk.refCount)
    else
      modify fun store => { store with chunks := store.chunks.erase chunkId }
      modify captureSnapshot

/-- The reason is not read. -/
def purgeVersion (versionId : VersionId) (_reason : VersionPurgeReason) :
    EStateM FsError (State prims) (List ChunkId) := do
  let store ← get
  if versionId ∈ store.purgedVersions then throw (.versionAlreadyPurged versionId)
  else match store.versions.lookup versionId with
  | none => throw (.versionNotFound versionId)
  | some version =>
    let chunkIds := version.chunkRefs
    match chunkIds.find? fun chunkId => (store.chunks.lookup chunkId).isNone with
    | some missing => throw (.chunkUnknown missing)
    | none =>
      modify (·.setVersion versionId fun version => { version with
        state := .retiredVersion, quarantinedAt := none, quarantineReason := none })
      chunkIds.forM decrementStored
      modify fun store => { store with purgedVersions := insert versionId store.purgedVersions }
      modify captureSnapshot
      pure chunkIds

/-! ## A garbage-collection pass -/

def retiredVersionIdsForGc (maxVersions : ℕ) : List VersionId :=
  (((store.versions.records.values.filter fun version =>
    version.state = .retiredVersion ∧ version.versionId ∉ store.purgedVersions).map (·.versionId)).insertionSort
      (· ≤ ·)).take maxVersions

def zeroRefChunkIdsForGc (maxChunks : ℕ) : List ChunkId :=
  (((store.chunks.values.filter fun chunk => chunk.refCount = 0).map (·.chunkId)).insertionSort (· ≤ ·)).take maxChunks

/-- One round of the purge loop: a version purged meanwhile is passed over. -/
def purgeListed (versionId : VersionId) : EStateM FsError (State prims) (List GcReason) :=
  tryCatch
    (do
      let _ ← purgeVersion versionId .retired
      pure [.versionPurged versionId .retired])
    fun failure => match failure with
      | .versionAlreadyPurged _ => pure []
      | failure => throw failure

/-- One round of the reclaim loop: a chunk referenced again or gone meanwhile is passed over. -/
def reclaimListed (chunkId : ChunkId) : EStateM FsError (State prims) (List GcReason) :=
  tryCatch
    (do
      reclaimChunk chunkId
      pure [.orphanChunkReclaimed chunkId])
    fun failure => match failure with
      | .chunkStillReferenced _ _ => pure []
      | .chunkUnknown _ => pure []
      | failure => throw failure

/-- A loop that collects what its rounds report. -/
def collect {α : Type} (round : α → EStateM FsError (State prims) (List GcReason)) :
    List α → EStateM FsError (State prims) (List GcReason)
  | [] => pure []
  | item :: rest => do
    let first ← round item
    let others ← collect round rest
    pure (first ++ others)

end State

structure GcPassDriver where
  maxChunksPerPass : ℕ := 1024
  maxVersionsPerPass : ℕ := 1024
deriving DecidableEq, Repr

structure GcPassReport where
  passId : String
  startedAt : DateTime
  completedAt : DateTime
  chunksInspected : ℕ
  chunksReclaimed : ℕ
  versionsInspected : ℕ
  versionsPurged : ℕ
  reasons : List GcReason
deriving DecidableEq, Repr

/-- `run_pass`; each report of a loop is one version purged or one chunk reclaimed. -/
def GcPassDriver.runPass (driver : GcPassDriver) (passId : String) (startedAt completedAt : DateTime)
    (emitFailure : Option String) : EStateM FsError (State prims) GcPassReport :=
  State.thenEmit (do
    let store ← get
    let versionIds := store.retiredVersionIdsForGc driver.maxVersionsPerPass
    let purged ← State.collect State.purgeListed versionIds
    let store ← get
    let chunkIds := store.zeroRefChunkIdsForGc driver.maxChunksPerPass
    let reclaimed ← State.collect State.reclaimListed chunkIds
    pure {
      passId, startedAt, completedAt
      chunksInspected := chunkIds.length
      chunksReclaimed := reclaimed.length
      versionsInspected := versionIds.length
      versionsPurged := purged.length
      reasons := purged ++ reclaimed }) emitFailure

/-! ## Operations as steps -/

/-- A call of the filesystem, with the clock readings and fresh ids it draws and the failure of its
evidence, if any. -/
inductive FsOp where
  | write (write : ObjectWriteRequest) (context : FsContext) (now : DateTime) (emitFailure : Option String)
  | quarantineEnter (versionId : VersionId) (trigger : QuarantineTrigger) (reason : String) (now : DateTime)
      (quarantineId : String) (emitFailure : Option String)
  | quarantineExit (versionId : VersionId) (disposition : QuarantineDisposition) (operator : SubjectRef)
      (now : DateTime) (quarantineId : String) (emitFailure : Option String)
  | purgeVersion (versionId : VersionId) (reason : VersionPurgeReason)
  | reclaimChunk (chunkId : ChunkId)
  | decrementChunkRefcount (chunkId : ChunkId)
  | gcPass (driver : GcPassDriver) (passId : String) (startedAt completedAt : DateTime) (emitFailure : Option String)
  | snapshot

namespace State

/-- The state an operation leaves behind, whether it returns or fails. -/
def step (store : State prims) : FsOp → State prims
  | .write write context now emitFailure => Stateful.finalState (writeObject write context now emitFailure store)
  | .quarantineEnter versionId trigger reason now quarantineId emitFailure =>
      Stateful.finalState (thenEmit (applyQuarantineEntry versionId trigger reason now quarantineId) emitFailure store)
  | .quarantineExit versionId disposition operator now quarantineId emitFailure =>
      Stateful.finalState (thenEmit (applyQuarantineExit versionId disposition operator now quarantineId)
        emitFailure store)
  | .purgeVersion versionId reason => Stateful.finalState (purgeVersion versionId reason store)
  | .reclaimChunk chunkId => Stateful.finalState (reclaimChunk chunkId store)
  | .decrementChunkRefcount chunkId => Stateful.finalState (decrementChunkRefcount chunkId store)
  | .gcPass driver passId startedAt completedAt emitFailure =>
      Stateful.finalState (driver.runPass passId startedAt completedAt emitFailure store)
  | .snapshot => store.captureSnapshot

/-- The state after a sequence of operations. -/
def run (store : State prims) (ops : List FsOp) : State prims := StepRun.run step store ops

end State

end Aios.Fs
