import Aios.Evidence.Segment
import Aios.Evidence.Service
import Aios.Lib.Table
import Mathlib.Algebra.Group.Nat.Defs

/-! # The persistent backend

The embedding of `persistence/encoding.rs`, `persistence/recovery.rs` and `persistence/rocksdb_backend.rs`. Each column
family is a finite map, and a row holds the value whose JSON text the source stores. A batch is written as a whole;
how its write ends is an argument of the operation, as are the fresh ids and clock readings. The number of sealed
segments is counted without the bound of 64 bits.
-/

namespace Aios.Evidence

open Aios.Rust

/-! ## Keys -/

/-- `to_be_bytes` of a number of `width` bytes. -/
def toBeBytes (width value : ℕ) : List UInt8 :=
  (List.range width).reverse.map fun place => UInt8.ofNat (value / 256 ^ place)

def I64_MIN : ℤ := -9223372036854775808

def I64_MAX : ℤ := 9223372036854775807

/-- `timestamp_nanos_opt`, or the seconds with a saturating product. -/
def timestampNanos (recordedAt : DateTime) : ℤ :=
  if I64_MIN ≤ recordedAt ∧ recordedAt ≤ I64_MAX then recordedAt
  else max I64_MIN (min I64_MAX (recordedAt / 1000000000 * 1000000000))

/-- The wire id, the time in two's complement, and the receipt id. -/
def recordTypeIndexKey (recordType : RecordType) (recordedAt : DateTime) (receiptId : EvidenceReceiptId) : List UInt8 :=
  toBeBytes 2 recordType.wireId ++ toBeBytes 8 (timestampNanos recordedAt % 18446744073709551616).toNat ++
    Hex.bytesOf receiptId

def EvidenceReceipt.indexKey (self : EvidenceReceipt) : List UInt8 :=
  recordTypeIndexKey self.recordType self.recordedAt self.receiptId

def SCHEMA_VERSION_V1ALPHA1 : String := "aios.evidence.v1alpha1"

theorem toBeBytes_length (width value : ℕ) : (toBeBytes width value).length = width := by simp [toBeBytes]

/-- An index key tells the receipt. -/
theorem EvidenceReceipt.receiptId_of_indexKey {receipt other : EvidenceReceipt}
    (same : receipt.indexKey = other.indexKey) :
    receipt.receiptId = other.receiptId := by
  rw [indexKey, indexKey, recordTypeIndexKey, recordTypeIndexKey] at same
  refine Hex.bytesOf_injective (List.append_inj_right same ?_)
  rw [List.length_append, List.length_append]
  simp only [toBeBytes_length]

/-! ## Rows -/

structure OpenSegmentSnapshot where
  retentionClass : RetentionClass
  receipts : List EvidenceReceipt

def OpenSegmentSnapshot.new (retentionClass : RetentionClass) : OpenSegmentSnapshot := ⟨retentionClass, []⟩

/-- The six column families, with the keys of `metadata` apart. -/
structure Disk where
  receipts : Table EvidenceReceiptId EvidenceReceipt
  segments : Table SegmentId SealedSegment
  currentSegment : Option OpenSegmentSnapshot
  chainHead : Option ℕ
  schemaVersion : Option String
  logId : Option String
  compactedAt : Table SegmentId String
  chainIndex : Table ℕ SegmentId
  recordTypeIndex : Table (List UInt8) Unit

inductive BatchOp where
  | putReceipt (id : EvidenceReceiptId) (receipt : EvidenceReceipt)
  | deleteReceipt (id : EvidenceReceiptId)
  | putIndex (key : List UInt8)
  | deleteIndex (key : List UInt8)
  | putCurrent (snapshot : OpenSegmentSnapshot)
  | putSegment (id : SegmentId) (segment : SealedSegment)
  | putChainIndex (position : ℕ) (id : SegmentId)
  | putChainHead (head : ℕ)
  | putCompactedAt (id : SegmentId) (time : String)
  | putSchemaVersion (version : String)
  | putLogId (id : String)

namespace Disk

/-- The database before it is first opened. -/
def blank : Disk := ⟨∅, ∅, none, none, none, none, ∅, ∅, ∅⟩

def apply (self : Disk) : BatchOp → Disk
  | .putReceipt id receipt => { self with receipts := self.receipts.insert id receipt }
  | .deleteReceipt id => { self with receipts := self.receipts.erase id }
  | .putIndex key => { self with recordTypeIndex := self.recordTypeIndex.insert key () }
  | .deleteIndex key => { self with recordTypeIndex := self.recordTypeIndex.erase key }
  | .putCurrent snapshot => { self with currentSegment := some snapshot }
  | .putSegment id segment => { self with segments := self.segments.insert id segment }
  | .putChainIndex position id => { self with chainIndex := self.chainIndex.insert position id }
  | .putChainHead head => { self with chainHead := some head }
  | .putCompactedAt id time => { self with compactedAt := self.compactedAt.insert id time }
  | .putSchemaVersion version => { self with schemaVersion := some version }
  | .putLogId id => { self with logId := some id }

def write (self : Disk) (batch : List BatchOp) : Disk := batch.foldl apply self

end Disk

/-! ## Writes -/

/-- How a write ends: the batch is written, the library refuses it, or the process stops in it, before or after the
batch is committed. -/
inductive WriteOutcome where
  | written
  | refused (message : String)
  | stopped (committed : Bool)

/-- Why a call does not return a value: it reports a failure, or the process has stopped. -/
inductive Halt (ε : Type) where
  | failed (failure : ε)
  | stopped

def Halt.map {ε ε' : Type} (change : ε → ε') : Halt ε → Halt ε'
  | failed failure => failed (change failure)
  | stopped => stopped

/-- `DB::write_opt` on one batch, with the label of its error text. -/
def writeOpt (outcome : WriteOutcome) (label : String) (batch : List BatchOp) :
    EStateM (Halt EvidenceError) Disk Unit :=
  match outcome with
  | .written => modify (Disk.write · batch)
  | .refused message => throw (.failed (.encodingFailed (label ++ ": " ++ message)))
  | .stopped committed => do
    if committed then modify (Disk.write · batch)
    throw .stopped

/-! ## Recovery -/

/-- Volatile state that mirrors the persisted view. -/
structure BackendState where
  current : OpenSegmentSnapshot
  chainHead : ℕ

section

variable (codec : Codec) (ed25519 : Ed25519)

/-- The segment at a position of the chain, by the two rows that lead to it. -/
def readSegmentAt (disk : Disk) (position : ℕ) : Except EvidenceError SealedSegment := do
  let text ← match disk.chainIndex.lookup position with
    | some text => .ok text
    | none => .error (.segmentChainBroken position "<missing chain_index row>" "<sealed segment id>")
  let segmentId ← SegmentId.parse text
  match disk.segments.lookup segmentId with
  | some segment => .ok segment
  | none =>
    .error (.segmentChainBroken position ("<missing segments row for `" ++ text ++ "`>") "<sealed segment JSON>")

def checkRecoveredHash (position : ℕ) (claimed expected : Option String) : Except EvidenceError Unit :=
  match position, claimed, expected with
  | 0, none, _ => .ok ()
  | 0, some _, _ =>
    .error (.segmentChainBroken 0 "<unexpected previous_segment_seal_hash on genesis>" "<none>")
  | position, some claimed, some expected =>
    if claimed = expected then .ok () else .error (.segmentChainBroken position claimed expected)
  | position, claimed, expected =>
    .error (.segmentChainBroken position (claimed.getD "<missing>") (expected.getD "<missing>"))

def checkRecoveredId (position : ℕ) (claimed expected : Option SegmentId) : Except EvidenceError Unit :=
  if position = 0 then .ok ()
  else if claimed.isSome && claimed == expected then .ok ()
  else .error (.segmentChainBroken position (claimed.getD "<missing>") (expected.getD "<missing>"))

/-- The loop of `recover_sealed_chain` over `count` positions from `position` on. -/
def recoverFrom (disk : Disk) (verifyingKey : VerifyingKey) (prevSealHash : Option String)
    (prevSegmentId : Option SegmentId) (position : ℕ) : ℕ → Except EvidenceError Unit
  | 0 => .ok ()
  | count + 1 => do
    let segment ← readSegmentAt disk position
    checkRecoveredHash position segment.previousSegmentSealHash prevSealHash
    checkRecoveredId position segment.previousSegmentId prevSegmentId
    segment.verifyFull codec ed25519 verifyingKey
    recoverFrom disk verifyingKey (some segment.segmentSealHash) (some segment.segmentId) (position + 1) count

def recoverSealedChain (disk : Disk) (chainHead : ℕ) (verifyingKey : VerifyingKey) : Except EvidenceError Unit :=
  recoverFrom codec ed25519 disk verifyingKey none none 0 chainHead

def restoreOpenSnapshot (disk : Disk) : Except EvidenceError OpenSegmentSnapshot :=
  match disk.currentSegment with
  | none => .ok (.new DEFAULT_RETENTION)
  | some snapshot =>
    if snapshot.receipts.isEmpty then .ok snapshot
    else do
      let chain ← Linked.collect (ReceiptChain.append codec) ReceiptChain.new snapshot.receipts
      chain.verifyIntegrity codec
      pure snapshot

def validateOrStampSchemaVersion (outcome : WriteOutcome) : EStateM (Halt EvidenceError) Disk Unit := do
  let disk ← get
  match disk.schemaVersion with
  | some version =>
    if version ≠ SCHEMA_VERSION_V1ALPHA1 then
      throw (.failed (.encodingFailed ("unknown on-disk schema version `" ++ version ++ "`; expected `" ++
        SCHEMA_VERSION_V1ALPHA1 ++ "`")))
  | none => writeOpt outcome "write schema_version" [.putSchemaVersion SCHEMA_VERSION_V1ALPHA1]

/-- `restore_or_mint_log_id`, from the text of the ULID a fresh id is made of. -/
def restoreOrMintLogId (ulid : String) (outcome : WriteOutcome) : EStateM (Halt EvidenceError) Disk String := do
  let disk ← get
  match disk.logId with
  | some id => pure id
  | none =>
    let id := "aios-evidence-log/" ++ EvidenceReceiptId.new ulid
    writeOpt outcome "write log_id" [.putLogId id]
    pure id

end

def orHalt {ε σ α : Type} : Except ε α → EStateM (Halt ε) σ α
  | .ok value => pure value
  | .error failure => throw (.failed failure)

/-- `open`, up to the state and the log id of the backend it returns. -/
def RocksDbEvidenceLog.open (codec : Codec) (ed25519 : Ed25519) (signingKey : SigningKey) (ulid : String)
    (schemaOutcome logIdOutcome : WriteOutcome) : EStateM (Halt EvidenceError) Disk (BackendState × String) := do
  validateOrStampSchemaVersion schemaOutcome
  let logId ← restoreOrMintLogId ulid logIdOutcome
  let disk ← get
  let chainHead := disk.chainHead.getD 0
  orHalt (recoverSealedChain codec ed25519 disk chainHead (ed25519.verifyingKey signingKey))
  let current ← orHalt (restoreOpenSnapshot codec disk)
  pure (⟨current, chainHead⟩, logId)

/-! ## Operations -/

structure RocksDbEvidenceLog where
  disk : Disk
  state : BackendState

namespace RocksDbEvidenceLog

variable (codec : Codec) (ed25519 : Ed25519) (signingKey : SigningKey)

variable (self : RocksDbEvidenceLog)

/-- A write of the backend, which leaves its memory alone. -/
def onDisk {ε α : Type} (program : EStateM ε Disk α) : EStateM ε RocksDbEvidenceLog α :=
  Stateful.zoom disk (fun self disk => { self with disk }) program

def setReceipts (receipts : List EvidenceReceipt) (self : RocksDbEvidenceLog) : RocksDbEvidenceLog :=
  { self with state := { self.state with current := { self.state.current with receipts } } }

def appendBatch (receipt : EvidenceReceipt) (snapshot : OpenSegmentSnapshot) : List BatchOp :=
  [.putReceipt receipt.receiptId receipt, .putIndex receipt.indexKey, .putCurrent snapshot]

def persistAppend (outcome : WriteOutcome) (receipt : EvidenceReceipt) (snapshot : OpenSegmentSnapshot) :
    EStateM (Halt EvidenceError) RocksDbEvidenceLog Unit :=
  onDisk (writeOpt outcome "rocksdb write_opt append" (appendBatch receipt snapshot))

/-- The part that `append` and `emit_approval_required` have in common: the receipt is pushed in memory, and popped
again if it cannot be persisted. -/
@[irreducible] def appendSealed (builder : ReceiptBuilder) (stamp : Stamp) (outcome : WriteOutcome) :
    EStateM (Halt EvidenceError) RocksDbEvidenceLog EvidenceReceipt := do
  let self ← get
  let receipt ← orHalt (builder.sealSigned codec ed25519 self.state.current.receipts.getLast? signingKey stamp)
  modify (setReceipts (self.state.current.receipts ++ [receipt]))
  let pushed ← get
  try persistAppend outcome receipt pushed.state.current
  catch
    | .failed failure => do
      modify (setReceipts pushed.state.current.receipts.dropLast)
      throw (.failed failure)
    | .stopped => throw .stopped
  pure receipt

def append (request : AppendRequest) (stamp : Stamp) (outcome : WriteOutcome) :
    EStateM (Halt Status) RocksDbEvidenceLog WireReceipt := do
  let builder ← orHalt (request.builder codec)
  let receipt ← EStateM.adaptExcept (Halt.map EvidenceError.toStatus)
    (appendSealed codec ed25519 signingKey builder stamp outcome)
  pure (receiptToProto receipt)

def COMPACTION_WORKER_SUBJECT : String := "_system:service:evidence-compaction-worker"

/-- The fields of the payload in the order of `serde_json::Map`, which sorts its keys. -/
def approvalRequiredBuilder (segmentId : SegmentId) : ReceiptBuilder where
  recordType := .compactionApprovalRequired
  retentionClass := .forever
  subjectCanonicalId := COMPACTION_WORKER_SUBJECT ++ "/" ++ segmentId
  payload := .object [("reason", .string "retention_horizon_passed"), ("segment_id", .string segmentId)]

def emitApprovalRequired (segmentId : SegmentId) (stamp : Stamp) (outcome : WriteOutcome) :
    EStateM (Halt EvidenceError) RocksDbEvidenceLog Unit := do
  let _ ← appendSealed codec ed25519 signingKey (approvalRequiredBuilder segmentId) stamp outcome

/-- The links of the next segment: the id and the seal hash of the last sealed one. -/
def previousLinks (disk : Disk) (chainHead : ℕ) : Except EvidenceError (Option SegmentId × Option String) :=
  if chainHead = 0 then .ok (none, none)
  else do
    let text ← match disk.chainIndex.lookup (chainHead - 1) with
      | some text => .ok text
      | none => .error (.encodingFailed "chain_index[prev] row missing during seal")
    let prevSegmentId ← SegmentId.parse text
    match disk.segments.lookup prevSegmentId with
    | some segment => .ok (some prevSegmentId, some segment.segmentSealHash)
    | none => .error (.encodingFailed "segments[prev] row missing during seal")

/-- What `seal_current_segment` does before it writes. -/
def sealOpen (sealedAt : DateTime) (stamp : Stamp) : Except EvidenceError SealedSegment :=
  if self.state.current.receipts.isEmpty then .error .emptySegment
  else do
    let segment ← Segment.ofReceipts self.state.current.retentionClass self.state.current.receipts
    let links ← previousLinks self.disk self.state.chainHead
    Segment.seal codec ed25519 segment links.1 links.2 signingKey sealedAt stamp

def sealBatch (segment : SealedSegment) (newChainHead : ℕ) (cleared : OpenSegmentSnapshot) : List BatchOp :=
  [.putSegment segment.segmentId segment, .putChainIndex (newChainHead - 1) segment.segmentId,
   .putChainHead newChainHead, .putCurrent cleared]

def persistSeal (outcome : WriteOutcome) (segment : SealedSegment) (newChainHead : ℕ) (cleared : OpenSegmentSnapshot) :
    EStateM (Halt EvidenceError) RocksDbEvidenceLog Unit :=
  onDisk (writeOpt outcome "rocksdb write_opt seal" (sealBatch segment newChainHead cleared))

def sealCurrentSegment (sealedAt : DateTime) (stamp : Stamp) (outcome : WriteOutcome) :
    EStateM (Halt EvidenceError) RocksDbEvidenceLog SealedSegment := do
  let self ← get
  let segment ← orHalt (self.sealOpen codec ed25519 signingKey sealedAt stamp)
  let newHead := self.state.chainHead + 1
  let cleared := OpenSegmentSnapshot.new self.state.current.retentionClass
  persistSeal outcome segment newHead cleared
  modify fun self => { self with state := ⟨cleared, newHead⟩ }
  pure segment

/-! ## Compaction -/

def segmentCompactedAt (disk : Disk) (segmentId : SegmentId) : Option String := disk.compactedAt.lookup segmentId

def compactBatch (segment : SealedSegment) (segmentId : SegmentId) (now : DateTime) : List BatchOp :=
  segment.receipts.flatMap (fun receipt => [.deleteReceipt receipt.receiptId, .deleteIndex receipt.indexKey]) ++
    [.putCompactedAt segmentId (codec.toRfc3339 now)]

/-- The counts of the rows that the batch deletes. -/
def compactSegment (segmentId : SegmentId) (now : DateTime) (outcome : WriteOutcome) :
    EStateM (Halt EvidenceError) RocksDbEvidenceLog (ℕ × ℕ) := do
  let self ← get
  match self.disk.segments.lookup segmentId with
  | none => throw (.failed (.encodingFailed ("compact_segment: unknown segment `" ++ segmentId ++ "`")))
  | some segment => do
    onDisk (writeOpt outcome "rocksdb write_opt compact" (compactBatch codec segment segmentId now))
    pure (segment.receipts.length, segment.receipts.length)

/-- One entry of `list_sealed_segments`, none for a segment that has been compacted. -/
def listedAt (disk : Disk) (position : ℕ) : Except EvidenceError (Option (SegmentId × RetentionClass × DateTime)) := do
  let text ← match disk.chainIndex.lookup position with
    | some text => .ok text
    | none =>
      .error (.encodingFailed ("chain_index[" ++ toString position ++ "] row missing during compaction scan"))
  let segmentId ← SegmentId.parse text
  let segment ← match disk.segments.lookup segmentId with
    | some segment => .ok segment
    | none => .error (.encodingFailed ("segments[" ++ text ++ "] row missing"))
  pure (if (segmentCompactedAt disk segmentId).isSome then none
    else some (segmentId, segment.retentionClass, segment.sealedAt))

def listSealedSegments (disk : Disk) : Except EvidenceError (List (SegmentId × RetentionClass × DateTime)) := do
  let entries ← (List.range (disk.chainHead.getD 0)).mapM (listedAt disk)
  pure (entries.filterMap id)

/-! ## Reads -/

def readReceipt (request : ReadReceiptRequest) : Except Status WireReceipt :=
  if request.receiptId = "" then .error receiptIdEmpty
  else
    match findReceipt self.state.current.receipts request.receiptId with
    | some receipt => .ok (receiptToProto receipt)
    | none =>
      match self.disk.receipts.lookup request.receiptId with
      | some receipt => .ok (receiptToProto receipt)
      | none => .error (receiptNotFound request.receiptId)

def query (request : QueryRequest) : Except Status QueryResponse :=
  request.answer codec self.state.current.receipts

def verifyChain : Except Status VerifyChainResponse :=
  match Linked.collect (ReceiptChain.append codec) ReceiptChain.new self.state.current.receipts with
  | .error failure => .error failure.toStatus
  | .ok chain =>
    verifyResponse "rocksdb_walk_link_hash" self.state.current.receipts
      (if chain.receipts.isEmpty then .ok () else chain.verifyIntegrity codec)

end RocksDbEvidenceLog

end Aios.Evidence
