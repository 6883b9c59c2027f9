import Aios.Fs.Records
import Aios.Lib.Ledger
import Aios.Lib.Stateful
import Mathlib.Data.Finset.Basic
import Mathlib.Data.List.Sort

/-! # The in-memory object filesystem

`InMemoryAiosFs`: the catalogs behind its write lock and the operations of `AiosFs` and
`MutableAiosFs` on them. Objects, versions, pointers and transactions are stored under ids minted one
after another; an id that a failing call mints and drops is in no state and not modelled. The digest
of a snapshot and the content hash are third-party code. The summaries that only `get_snapshot`
reads are left out; the fixtures for harnesses come with the live pointers that they set.

An operation keeps the state it has reached when it fails. Evidence is emitted after the lock is
released, so its failure is an input of the call.
-/

namespace Aios.Fs

open Aios.Rust

/-- The id sources and the digests a filesystem is built on. -/
structure Primitives where
  objectIds : ℕ ↪ ObjectId
  versionIds : ℕ ↪ VersionId
  pointerIds : ℕ ↪ PointerId
  transactionIds : ℕ ↪ TransactionId
  contentHash : List ChunkId → String
  snapshotDigest : List String → List String → List String → SnapshotId

structure State (prims : Primitives) where
  objects : Ledger prims.objectIds Object
  versions : Ledger prims.versionIds Version
  chunks : Table ChunkId Chunk
  purgedVersions : Finset VersionId
  pointers : Ledger prims.pointerIds Pointer
  transactions : Ledger prims.transactionIds Transaction
  headSnapshotId : Option SnapshotId

variable {prims : Primitives}

namespace State

variable (store : State prims)

/-! ## Snapshots -/

/-- `sorted_unique_strings`. -/
def sortedUniqueStrings (entries : List String) : List String := (entries.insertionSort (· ≤ ·)).dedup

def objectSnapshotEntries : List String :=
  store.objects.records.values.map fun object => object.objectId ++ ":" ++ object.currentPointerId

def pointerSnapshotEntries : List String :=
  store.pointers.records.values.map fun pointer =>
    pointer.pointerId ++ ":" ++ pointer.objectId ++ ":" ++ pointer.kind.label ++ ":" ++ pointer.currentVersionId

def versionSnapshotEntries : List String :=
  store.versions.records.values.map fun version =>
    version.versionId ++ ":" ++ version.objectId ++ ":" ++ version.state.label ++ ":" ++
      ",".intercalate version.chunkRefs

def computeSnapshotId : SnapshotId :=
  prims.snapshotDigest (sortedUniqueStrings store.objectSnapshotEntries)
    (sortedUniqueStrings store.pointerSnapshotEntries) (sortedUniqueStrings store.versionSnapshotEntries)

def captureSnapshot : State prims :=
  { store with headSnapshotId := some store.computeSnapshotId }

/-- `State::head_snapshot_id`. -/
def currentSnapshotId : SnapshotId := store.headSnapshotId.getD store.computeSnapshotId

/-- `InMemoryAiosFs::new`. -/
def new (prims : Primitives) : State prims :=
  captureSnapshot {
    objects := .empty _ _
    versions := .empty _ _
    chunks := ∅
    purgedVersions := ∅
    pointers := .empty _ _
    transactions := .empty _ _
    headSnapshotId := none }

/-! ## Checks -/

def ensureSnapshotCurrent (found : Option SnapshotId) (expected : SnapshotId) : Except FsError Unit :=
  match found with
  | some found => if found ≠ expected then .error (.snapshotStale expected found) else .ok ()
  | none => .ok ()

def versionForObject (objectId : ObjectId) (versionId : VersionId) : Except FsError Version :=
  match store.versions.lookup versionId with
  | none => .error (.versionNotFound versionId)
  | some version => if version.objectId ≠ objectId then .error (.versionNotFound versionId) else .ok version

def prepareExistingObjectWrite (objectId : ObjectId) (parentVersionIds : List VersionId) : Except FsError Unit :=
  if (store.objects.lookup objectId).isNone then .error (.objectNotFound objectId)
  else if parentVersionIds.isEmpty then .error .writeRequiresParent
  else parentVersionIds.forM fun parentVersionId => discard (store.versionForObject objectId parentVersionId)

def isRecoverySubject (subject : SubjectRef) : Bool :=
  startsWith subject "_system:recovery" || startsWith subject "agent:recovery"

/-- The subject of the creating transaction decides; without one, the creator of the object. -/
def denyQuarantinedReadUnlessRecovery (object : Object) (version : Version) : Except FsError Unit :=
  if version.state ≠ .quarantined then .ok ()
  else
    let subject := match version.createdByTransactionId.bind store.transactions.lookup with
      | some transaction => transaction.subject
      | none => object.createdBy
    if isRecoverySubject subject then .ok ()
    else .error (.quarantineViolation ("read of quarantined version " ++ version.versionId ++ " denied"))

/-- The stored chunk of a reference. -/
def chunkOf (chunkRef : ChunkRef) : Except FsError Chunk :=
  match store.chunks.lookup chunkRef with
  | some chunk => .ok chunk
  | none => .error (.chunkUnknown chunkRef)

def readObject (objectId : ObjectId) (snapshotId : Option SnapshotId) :
    Except FsError ObjectReadResult := do
  ensureSnapshotCurrent snapshotId store.currentSnapshotId
  match store.objects.lookup objectId with
  | none => .error (.objectNotFound objectId)
  | some object =>
    match store.pointers.lookup object.currentPointerId with
    | none => .error (.pointerNotFound object.currentPointerId)
    | some pointer =>
      match store.versions.lookup pointer.currentVersionId with
      | none => .error (.versionNotFound pointer.currentVersionId)
      | some version => do
        store.denyQuarantinedReadUnlessRecovery object version
        let chunks ← version.chunkRefs.mapM store.chunkOf
        .ok { object, version, chunks, snapshotId := store.currentSnapshotId }

/-! ## Writes -/

/-- One round of `register_chunks`: a saturating increment, or a new record. -/
def registerChunk (now : DateTime) (chunks : Table ChunkId Chunk) (chunkRef : ChunkRef) : Table ChunkId Chunk :=
  match chunks.lookup chunkRef with
  | some chunk => chunks.insert chunkRef { chunk with refCount := min (chunk.refCount + 1) U32_MAX }
  | none => chunks.insert chunkRef ⟨chunkRef, 0, 1, now⟩

def registerChunks (chunkRefs : List ChunkRef) (now : DateTime) : State prims :=
  { store with chunks := chunkRefs.foldl (registerChunk now) store.chunks }

def promoteExistingObjectPointer (objectId : ObjectId) (versionId : VersionId) (transactionId : TransactionId)
    (now : DateTime) : EStateM FsError (State prims) (Option PointerMoveOp) := do
  let store ← get
  match store.objects.lookup objectId with
  | none => throw (.objectNotFound objectId)
  | some object =>
    match store.pointers.lookup object.currentPointerId with
    | none => throw (.pointerNotFound object.currentPointerId)
    | some pointer =>
      modify fun store => { store with
        pointers := store.pointers.modify object.currentPointerId (·.moveTo versionId transactionId now) }
      pure (some ⟨object.currentPointerId, pointer.currentVersionId, versionId⟩)

def createObjectPointerPair (write : ObjectWriteRequest) (objectId : ObjectId) (versionId : VersionId)
    (transactionId : TransactionId) (now : DateTime) : State prims :=
  let pointerId := store.pointers.nextKey
  { store with
    pointers := store.pointers.add {
      pointerId
      objectId
      kind := .current
      currentVersionId := versionId
      lastPromotedAt := now
      lastPromotedByTransactionId := transactionId }
    objects := store.objects.add {
      objectId
      kind := objectKindFromDelta write.metadataDelta
      createdAt := now
      createdBy := write.subject
      currentPointerId := pointerId
      metadata := metadataFromDelta objectId write.metadataDelta
      privacyClass := privacyClassFromDelta write.metadataDelta
      scopeBinding := scopeBindingFromDelta write.metadataDelta
      policyTags := policyTagsFromDelta write.metadataDelta } }

/-- The version a write creates. -/
def newVersion (prims : Primitives) (write : ObjectWriteRequest) (context : FsContext) (now : DateTime)
    (objectId : ObjectId) (versionId : VersionId) (transactionId : TransactionId) : Version where
  versionId := versionId
  objectId := objectId
  parentVersionIds := write.parentVersionIds
  chunkRefs := write.chunks
  contentHash := prims.contentHash write.chunks
  metadataDelta := write.metadataDelta
  createdByActionId := write.actionId <|> context.actionId
  createdByTransactionId := some transactionId
  createdAt := now
  state := .verified
  quarantinedAt := none
  quarantineReason := none

/-- The transaction a write records. -/
def newTransaction (write : ObjectWriteRequest) (context : FsContext) (now : DateTime) (objectId : ObjectId)
    (versionId : VersionId) (transactionId : TransactionId) (pointerMove : Option PointerMoveOp) : Transaction where
  transactionId := transactionId
  subject := context.subject
  actionId := write.actionId <|> context.actionId
  startedAt := now
  completedAt := none
  state := .pendingTx
  writes := [⟨objectId, versionId, write.chunks⟩]
  pointerMoves := pointerMove.toList
  evidenceReceiptId := none

/-- The part of `write_object` under the lock. -/
def writeLocked (write : ObjectWriteRequest) (context : FsContext) (now : DateTime) :
    EStateM FsError (State prims) ObjectWriteResult := do
  let store ← get
  MonadExcept.ofExcept (ensureSnapshotCurrent context.expectedSnapshotId store.currentSnapshotId)
  let transactionId := store.transactions.nextKey
  let versionId := store.versions.nextKey
  match write.objectId with
  | some objectId =>
    MonadExcept.ofExcept (store.prepareExistingObjectWrite objectId write.parentVersionIds)
    modify (·.registerChunks write.chunks now)
    let pointerMove ← promoteExistingObjectPointer objectId versionId transactionId now
    recordWrite objectId versionId transactionId pointerMove
  | none =>
    let objectId := store.objects.nextKey
    modify (·.registerChunks write.chunks now)
    modify (·.createObjectPointerPair write objectId versionId transactionId now)
    recordWrite objectId versionId transactionId none
where
  /-- Both branches end alike. -/
  recordWrite (objectId : ObjectId) (versionId : VersionId) (transactionId : TransactionId)
      (pointerMove : Option PointerMoveOp) : EStateM FsError (State prims) ObjectWriteResult := do
    modify fun store => { store with
      versions := store.versions.add (newVersion prims write context now objectId versionId transactionId) }
    modify fun store => { store with
      transactions := store.transactions.add
        (newTransaction write context now objectId versionId transactionId pointerMove) }
    modify captureSnapshot
    let store ← get
    pure ⟨objectId, versionId, transactionId, store.currentSnapshotId⟩

/-- A call whose evidence is emitted after its section, and may fail there. -/
def thenEmit {α : Type} (section_ : EStateM FsError (State prims) α) (emitFailure : Option String) :
    EStateM FsError (State prims) α := do
  let result ← section_
  match emitFailure with
  | some failure => throw (.evidenceEmitFailed failure)
  | none => pure result

def writeObject (write : ObjectWriteRequest) (context : FsContext) (now : DateTime) (emitFailure : Option String) :
    EStateM FsError (State prims) ObjectWriteResult :=
  thenEmit (writeLocked write context now) emitFailure

end State

end Aios.Fs
