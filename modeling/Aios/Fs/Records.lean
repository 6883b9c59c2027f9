import Aios.Rust.Basic

/-! # Records of the object filesystem

The records of `aios_fs` and the readers of a write request's metadata delta. Ids are the strings the
source wraps.
-/

namespace Aios.Fs

open Aios.Rust

abbrev ObjectId := String
abbrev VersionId := String
abbrev PointerId := String
abbrev TransactionId := String
abbrev ChunkId := String
abbrev ChunkRef := ChunkId
abbrev SnapshotId := String
abbrev SubjectRef := String
abbrev ActionId := String

/-! ## Chunks, versions, pointers -/

structure Chunk where
  chunkId : ChunkId
  sizeBytes : ℕ
  refCount : ℕ
  createdAt : DateTime
deriving DecidableEq, Repr

inductive VersionState where
  | staged
  | verified
  | quarantined
  | retiredVersion
deriving DecidableEq, Repr

def VersionState.label : VersionState → String
  | staged => "STAGED"
  | verified => "VERIFIED"
  | quarantined => "QUARANTINED"
  | retiredVersion => "RETIRED_VERSION"

/-- An immutable version; only its state and its quarantine stamps change. -/
structure Version where
  versionId : VersionId
  objectId : ObjectId
  parentVersionIds : List VersionId
  chunkRefs : List ChunkRef
  contentHash : String
  metadataDelta : Json
  createdByActionId : Option ActionId
  createdByTransactionId : Option TransactionId
  createdAt : DateTime
  state : VersionState
  quarantinedAt : Option DateTime
  quarantineReason : Option String

inductive PointerKind where
  | current
  | stable
  | candidate
  | rollback
  | quarantine
deriving DecidableEq, Repr

def PointerKind.label : PointerKind → String
  | current => "CURRENT"
  | stable => "STABLE"
  | candidate => "CANDIDATE"
  | rollback => "ROLLBACK"
  | quarantine => "QUARANTINE"

structure Pointer where
  pointerId : PointerId
  objectId : ObjectId
  kind : PointerKind
  currentVersionId : VersionId
  lastPromotedAt : DateTime
  lastPromotedByTransactionId : TransactionId
deriving DecidableEq, Repr

/-- The assignments that move a pointer. -/
def Pointer.moveTo (pointer : Pointer) (versionId : VersionId) (transactionId : TransactionId) (now : DateTime) :
    Pointer :=
  { pointer with
    currentVersionId := versionId, lastPromotedAt := now, lastPromotedByTransactionId := transactionId }

/-! ## Transactions -/

inductive TransactionState where
  | pendingTx
  | committing
  | committed
  | aborted
deriving DecidableEq, Repr

structure WriteOp where
  objectId : ObjectId
  createdVersionId : VersionId
  chunkIdsWritten : List ChunkId
deriving DecidableEq, Repr

/-- A compare-and-swap pointer move. -/
structure PointerMoveOp where
  pointerId : PointerId
  expectedCurrentVersionId : VersionId
  newVersionId : VersionId
deriving DecidableEq, Repr

structure Transaction where
  transactionId : TransactionId
  subject : SubjectRef
  actionId : Option ActionId
  startedAt : DateTime
  completedAt : Option DateTime
  state : TransactionState
  writes : List WriteOp
  pointerMoves : List PointerMoveOp
  evidenceReceiptId : Option String
deriving DecidableEq, Repr

/-! ## Objects -/

inductive ObjectKind where
  | project
  | application
  | file
  | memory
  | policy
  | model
  | package
  | evidenceRef
  | workspace
  | config
deriving DecidableEq, Repr

inductive PrivacyClass where
  | «public»
  | internal
  | sensitive
  | secretBearing
  | classified
deriving DecidableEq, Repr

inductive ScopeKind where
  | system
  | group
  | user
deriving DecidableEq, Repr

structure ScopeBinding where
  scopeKind : ScopeKind
  groupId : Option String
  userId : Option String
deriving DecidableEq, Repr

structure ObjectMetadata where
  name : String
  labels : List String
  mime : String
  extra : Json

inductive LifecycleState where
  | active
  | retired
  | purged
deriving DecidableEq, Repr

/-- The logical object; `Object::new` fills the defaults. -/
structure Object where
  objectId : ObjectId
  kind : ObjectKind
  createdAt : DateTime
  createdBy : SubjectRef
  currentPointerId : PointerId
  metadata : ObjectMetadata
  policyTags : List String := []
  privacyClass : PrivacyClass
  lifecycleState : LifecycleState := .active
  retiredAt : Option DateTime := none
  purgeAt : Option DateTime := none
  indexHints : List String := []
  scopeBinding : ScopeBinding

/-! ## Requests and results -/

structure ObjectWriteRequest where
  objectId : Option ObjectId
  parentVersionIds : List VersionId
  chunks : List ChunkRef
  metadataDelta : Json
  actionId : Option ActionId
  subject : SubjectRef

/-- The caller's context; the requested consistency class is read by none of the operations. -/
structure FsContext where
  subject : SubjectRef
  actionId : Option ActionId
  expectedSnapshotId : Option SnapshotId

structure ObjectWriteResult where
  objectId : ObjectId
  versionId : VersionId
  transactionId : TransactionId
  snapshotIdAfter : SnapshotId
deriving DecidableEq, Repr

structure ObjectReadResult where
  object : Object
  version : Version
  chunks : List Chunk
  snapshotId : SnapshotId

/-- The errors the operations return. -/
inductive FsError where
  | objectNotFound (objectId : ObjectId)
  | versionNotFound (versionId : VersionId)
  | pointerNotFound (pointerId : PointerId)
  | snapshotStale (expected found : SnapshotId)
  | writeRequiresParent
  | chunkUnknown (chunkId : ChunkId)
  | chunkStillReferenced (chunkId : ChunkId) (refcount : ℕ)
  | versionAlreadyPurged (versionId : VersionId)
  | quarantineViolation (text : String)
  | quarantineAlreadyApplied (versionId : VersionId)
  | quarantineNotApplied (versionId : VersionId)
  | noPriorStablePointer (objectId : ObjectId)
  | evidenceEmitFailed (text : String)
deriving DecidableEq, Repr

/-! ## Quarantine and garbage collection -/

inductive QuarantineTrigger where
  | validationFailure
  | integrityFailure
  | policyViolation
  | attestationFailure
  | operatorManual
deriving DecidableEq, Repr

inductive QuarantineDisposition where
  | released
  | purged
deriving DecidableEq, Repr

structure QuarantineReceipt where
  quarantineId : String
  versionId : VersionId
  transitionedAt : DateTime
  trigger : Option QuarantineTrigger
  disposition : Option QuarantineDisposition
  reason : String
deriving DecidableEq, Repr

inductive VersionPurgeReason where
  | retired
  | quarantined
  | operatorRequested
deriving DecidableEq, Repr

inductive GcReason where
  | orphanChunkReclaimed (chunkId : ChunkId)
  | versionPurged (versionId : VersionId) (reason : VersionPurgeReason)
deriving DecidableEq, Repr

/-! ## The metadata delta -/

/-- `str::to_ascii_uppercase`. -/
def toAsciiUppercase (text : String) : String := String.ofList (text.toList.map Char.toUpper)

/-- The upper-cased text of a field, when it holds a text. -/
def upperField (delta : Json) (field : String) : Option String :=
  ((delta.get field).bind Json.asStr).map toAsciiUppercase

/-- The texts in a field, when it holds an array. -/
def textItems (delta : Json) (field : String) : List String :=
  match delta.get field with
  | some (.array values) => values.filterMap Json.asStr
  | _ => []

def objectKindFromDelta (delta : Json) : ObjectKind :=
  match upperField delta "kind" with
  | some "PROJECT" => .project
  | some "APPLICATION" => .application
  | some "MEMORY" => .memory
  | some "POLICY" => .policy
  | some "MODEL" => .model
  | some "PACKAGE" => .package
  | some "EVIDENCE_REF" => .evidenceRef
  | some "WORKSPACE" => .workspace
  | some "CONFIG" => .config
  | _ => .file

def privacyClassFromDelta (delta : Json) : PrivacyClass :=
  match upperField delta "privacy_class" with
  | some "PUBLIC" => .public
  | some "INTERNAL" => .internal
  | some "SECRET_BEARING" => .secretBearing
  | some "CLASSIFIED" => .classified
  | _ => .sensitive

def scopeBindingFromDelta (delta : Json) : ScopeBinding :=
  let scope := (delta.get "scope").getD .null
  let groupId := (scope.get "group_id").bind Json.asStr
  let userId := (scope.get "user_id").bind Json.asStr
  match upperField scope "kind" with
  | some "USER" => ⟨.user, groupId, userId⟩
  | some "GROUP" => ⟨.group, groupId, none⟩
  | _ => ⟨.system, none, none⟩

def policyTagsFromDelta (delta : Json) : List String := textItems delta "policy_tags"

def metadataFromDelta (objectId : ObjectId) (delta : Json) : ObjectMetadata where
  name := ((delta.get "name").bind Json.asStr).getD objectId
  labels := textItems delta "labels"
  mime := ((delta.get "mime").bind Json.asStr).getD "application/octet-stream"
  extra := delta

end Aios.Fs
