import Aios.Evidence.Archive

/-! # The rows of an archive and the operations on them

How the column families represent an archive, and what each batch of the backend does to the archive its disk shows.
-/

namespace Aios.Evidence

open Aios.Rust

namespace Disk

variable {disk : Disk} {archive : Archive} (self : Disk)

/-- The open segment that the rows give. -/
def snapshot : OpenSegmentSnapshot := self.currentSegment.getD (.new DEFAULT_RETENTION)

/-- The volatile state that mirrors the rows. -/
def view : BackendState := ⟨self.snapshot, self.chainHead.getD 0⟩

/-- The rows represent the archive. -/
structure Shows (disk : Disk) (archive : Archive) : Prop where
  stores : disk.Stores archive.segments
  sealed : ∀ segmentId segment, disk.segments.lookup segmentId = some segment →
    segment ∈ archive.segments ∧ segment.segmentId = segmentId
  snapshot : disk.snapshot = ⟨DEFAULT_RETENTION, archive.openReceipts⟩
  compactedAt : ∀ segmentId, (disk.compactedAt.lookup segmentId).isSome ↔ segmentId ∈ archive.compacted
  receipts : ∀ id receipt, disk.receipts.lookup id = some receipt ↔ receipt ∈ archive.warm ∧ receipt.receiptId = id
  index : ∀ key, (disk.recordTypeIndex.lookup key).isSome ↔ ∃ receipt ∈ archive.warm, receipt.indexKey = key

theorem Shows.view (rows : disk.Shows archive) :
    disk.view = ⟨⟨DEFAULT_RETENTION, archive.openReceipts⟩, archive.segments.length⟩ := by
  rw [Disk.view, rows.snapshot, rows.stores.chainHead]

theorem shows_blank : blank.Shows .empty where
  stores := stores_blank
  sealed segmentId segment found := by simp [blank] at found
  snapshot := rfl
  compactedAt segmentId := by simp [blank, Archive.empty]
  receipts id receipt := by simp [blank, Archive.warm, Archive.empty]
  index key := by simp [blank, Archive.warm, Archive.empty]

/-- The rows of an append, for a receipt with an id of its own. -/
theorem Shows.append (rows : disk.Shows archive) {receipt : EvidenceReceipt}
    (fresh : ∀ other ∈ archive.warm, other.receiptId ≠ receipt.receiptId) :
    (disk.write (RocksDbEvidenceLog.appendBatch receipt ⟨DEFAULT_RETENTION, archive.openReceipts ++ [receipt]⟩)).Shows
      (archive.append receipt) where
  stores := ⟨rows.stores.chainHead, rows.stores.indexed, rows.stores.stored⟩
  sealed := rows.sealed
  snapshot := rfl
  compactedAt := rows.compactedAt
  receipts id other := by
    change (disk.receipts.insert receipt.receiptId receipt).lookup id = some other ↔ _
    rw [Table.lookup_insert_eq, Archive.mem_warm_append]
    by_cases same : id = receipt.receiptId
    · rw [if_pos same, Option.some.injEq]
      constructor
      · rintro rfl
        exact ⟨.inr rfl, same.symm⟩
      · rintro ⟨member | rfl, named⟩
        · exact absurd (named.trans same) (fresh other member)
        · rfl
    · rw [if_neg same, rows.receipts]
      constructor
      · exact fun ⟨member, named⟩ => ⟨.inl member, named⟩
      · rintro ⟨member | rfl, named⟩
        · exact ⟨member, named⟩
        · exact absurd named.symm same
  index key := by
    change ((disk.recordTypeIndex.insert receipt.indexKey ()).lookup key).isSome ↔ _
    simp only [Table.lookup_insert_eq, Archive.mem_warm_append]
    by_cases same : key = receipt.indexKey
    · rw [if_pos same]
      exact iff_of_true rfl ⟨receipt, .inr rfl, same.symm⟩
    · rw [if_neg same, rows.index]
      constructor
      · exact fun ⟨other, member, named⟩ => ⟨other, .inl member, named⟩
      · rintro ⟨other, member | rfl, named⟩
        · exact ⟨other, member, named⟩
        · exact absurd named.symm same

end Disk

namespace Archive

variable {segment : SealedSegment} {receipt : EvidenceReceipt}

/-- A seal moves the open receipts, and takes none of them away. -/
theorem mem_warm_close {self : Archive} (body : segment.receiptsExcludingTerminal = self.openReceipts)
    (uncompacted : segment.segmentId ∉ self.compacted) : receipt ∈ (self.close segment).warm ↔ receipt ∈ self.warm := by
  simp only [mem_warm, close, List.mem_append, List.mem_singleton, List.not_mem_nil, or_false]
  constructor
  · rintro ⟨other, listed | rfl, warm, inside⟩
    · exact .inl ⟨other, listed, warm, inside⟩
    · exact .inr (body ▸ inside)
  · rintro (⟨other, listed, warm, inside⟩ | inside)
    · exact ⟨other, .inl listed, warm, inside⟩
    · exact ⟨segment, .inr rfl, uncompacted, body ▸ inside⟩

/-- A compaction takes the receipts of the segment away. -/
theorem mem_warm_compact {codec : Codec} {ed25519 : Ed25519} {verifyingKey : VerifyingKey} {ulids : List String}
    {times : List DateTime} {archive : Archive} (sound : archive.Sound codec ed25519 verifyingKey ulids times)
    (told : SeedsTold codec ulids times) (listed : segment ∈ archive.segments) :
    receipt ∈ (archive.compact segment.segmentId).warm ↔ receipt ∈ archive.warm ∧ receipt ∉ segment.receipts := by
  simp only [mem_warm, compact, List.mem_cons, not_or]
  constructor
  · rintro (⟨other, listed', ⟨different, warm⟩, inside⟩ | inside)
    · refine ⟨.inl ⟨other, listed', warm, inside⟩, fun member => different ?_⟩
      rw [sound.eq_of_mem listed' listed (SealedSegment.mem_receipts_of_excluding inside) member]
    · exact ⟨.inr inside, fun member => sound.not_mem_open listed member inside⟩
  · rintro ⟨⟨other, listed', warm, inside⟩ | inside, kept⟩
    · refine .inl ⟨other, listed', ⟨fun same => kept ?_, warm⟩, inside⟩
      rw [← sound.eq_of_segmentId told listed' listed same]
      exact SealedSegment.mem_receipts_of_excluding inside
    · exact .inr inside

end Archive

namespace Disk

variable {disk : Disk} {archive : Archive} {segment : SealedSegment}

/-- The rows of a seal, for a segment with an id of its own. -/
theorem Shows.close (rows : disk.Shows archive)
    (fresh : ∀ other ∈ archive.segments, other.segmentId ≠ segment.segmentId)
    (body : segment.receiptsExcludingTerminal = archive.openReceipts) (warm : segment.segmentId ∉ archive.compacted) :
    (disk.write (RocksDbEvidenceLog.sealBatch segment (archive.segments.length + 1) (.new DEFAULT_RETENTION))).Shows
      (archive.close segment) where
  stores := rows.stores.close fresh _
  sealed segmentId other found := by
    change (disk.segments.insert segment.segmentId segment).lookup segmentId = some other at found
    rw [Table.lookup_insert_eq] at found
    split at found
    · next same =>
      obtain rfl := Option.some.inj found
      exact ⟨List.mem_append_right _ (List.mem_singleton_self _), same.symm⟩
    · obtain ⟨listed, named⟩ := rows.sealed segmentId other found
      exact ⟨List.mem_append_left _ listed, named⟩
  snapshot := rfl
  compactedAt := rows.compactedAt
  receipts id receipt := by
    rw [Archive.mem_warm_close body warm]
    exact rows.receipts id receipt
  index key := by
    simp only [Archive.mem_warm_close body warm]
    exact rows.index key

theorem write_append (disk : Disk) (first second : List BatchOp) :
    disk.write (first ++ second) = (disk.write first).write second := List.foldl_append

/-- The rows that a compaction leaves. -/
theorem write_deletes (disk : Disk) (receipts : List EvidenceReceipt) :
    disk.write (receipts.flatMap fun receipt => [.deleteReceipt receipt.receiptId, .deleteIndex receipt.indexKey]) =
      { disk with
        receipts := disk.receipts.eraseAll (receipts.map EvidenceReceipt.receiptId)
        recordTypeIndex := disk.recordTypeIndex.eraseAll (receipts.map EvidenceReceipt.indexKey) } := by
  induction receipts generalizing disk with
  | nil => rfl
  | cons receipt rest ih =>
    rw [List.flatMap_cons, write_append, ih]
    rfl

/-- The rows of a compaction. -/
theorem Shows.compact {codec : Codec} {ed25519 : Ed25519} {verifyingKey : VerifyingKey} {ulids : List String}
    {times : List DateTime} (rows : disk.Shows archive) (sound : archive.Sound codec ed25519 verifyingKey ulids times)
    (told : SeedsTold codec ulids times) (listed : segment ∈ archive.segments) (now : DateTime) :
    (disk.write (RocksDbEvidenceLog.compactBatch codec segment segment.segmentId now)).Shows
      (archive.compact segment.segmentId) := by
  have named : ∀ receipt ∈ archive.warm, ∀ other ∈ segment.receipts, other.receiptId = receipt.receiptId →
      receipt ∈ segment.receipts := by
    intro receipt warm other inside same
    have both : other = receipt := sound.eq_of_receiptId (Archive.mem_receipts.mpr (.inl ⟨segment, listed, inside⟩))
      (Archive.mem_receipts_of_warm warm) same
    exact both ▸ inside
  rw [RocksDbEvidenceLog.compactBatch, write_append, write_deletes]
  refine ⟨⟨rows.stores.chainHead, rows.stores.indexed, rows.stores.stored⟩, rows.sealed, rows.snapshot, ?_, ?_, ?_⟩
  · intro segmentId
    change ((disk.compactedAt.insert segment.segmentId (codec.toRfc3339 now)).lookup segmentId).isSome ↔ _
    rw [Table.lookup_insert_eq, Archive.compact, List.mem_cons, ← rows.compactedAt]
    by_cases same : segmentId = segment.segmentId <;> simp [same]
  · intro id receipt
    change (disk.receipts.eraseAll (segment.receipts.map EvidenceReceipt.receiptId)).lookup id = some receipt ↔ _
    rw [Table.lookup_eraseAll, Archive.mem_warm_compact sound told listed]
    by_cases erased : id ∈ segment.receipts.map EvidenceReceipt.receiptId
    · rw [if_pos erased]
      obtain ⟨other, inside, same⟩ := List.mem_map.mp erased
      exact iff_of_false (by simp) fun ⟨⟨warm, kept⟩, id⟩ => kept (named receipt warm other inside (same.trans id.symm))
    · rw [if_neg erased, rows.receipts]
      constructor
      · rintro ⟨warm, rfl⟩
        exact ⟨⟨warm, fun inside => erased (List.mem_map_of_mem inside)⟩, rfl⟩
      · exact fun ⟨⟨warm, _⟩, id⟩ => ⟨warm, id⟩
  · intro key
    change ((disk.recordTypeIndex.eraseAll (segment.receipts.map EvidenceReceipt.indexKey)).lookup key).isSome ↔ _
    simp only [Table.lookup_eraseAll, Archive.mem_warm_compact sound told listed]
    by_cases erased : key ∈ segment.receipts.map EvidenceReceipt.indexKey
    · rw [if_pos erased]
      obtain ⟨other, inside, same⟩ := List.mem_map.mp erased
      refine iff_of_false (by simp) fun ⟨receipt, ⟨warm, kept⟩, keyed⟩ => kept ?_
      exact named receipt warm other inside (EvidenceReceipt.receiptId_of_indexKey (same.trans keyed.symm))
    · rw [if_neg erased, rows.index]
      constructor
      · rintro ⟨receipt, warm, rfl⟩
        exact ⟨receipt, ⟨warm, fun inside => erased (List.mem_map_of_mem inside)⟩, rfl⟩
      · exact fun ⟨receipt, ⟨warm, _⟩, keyed⟩ => ⟨receipt, warm, keyed⟩

end Disk

/-! ## Operations as transactions

Each operation of the persistent log plans one batch and the memory that goes with it, and then writes. Whatever the
outcome of the write, the log is left as it was, or with the batch and that memory; only where the process stops is
the memory of no account.
-/

namespace RocksDbEvidenceLog

theorem onDisk_writeOpt (outcome : WriteOutcome) (label : String) (batch : List BatchOp) (log : RocksDbEvidenceLog) :
    onDisk (writeOpt outcome label batch) log = match outcome with
      | .written => .ok () { log with disk := log.disk.write batch }
      | .refused message => .error (.failed (.encodingFailed (label ++ ": " ++ message))) log
      | .stopped committed => .error .stopped
          { log with disk := if committed then log.disk.write batch else log.disk } := by
  cases outcome with
  | written => rfl
  | refused message => rfl
  | stopped committed => cases committed <;> rfl

/-- How a call ends that has planned its batch: `after` is the log with the batch written. -/
inductive Transaction {ε α : Type} (outcome : WriteOutcome) (log after : RocksDbEvidenceLog) (value : α) :
    EStateM.Result (Halt ε) RocksDbEvidenceLog α → Prop
  | written (done : outcome = .written) : Transaction outcome log after value (.ok value after)
  | refused (message : String) (failure : ε) (refused : outcome = .refused message) :
      Transaction outcome log after value (.error (.failed failure) log)
  | stopped (committed : Bool) (last : RocksDbEvidenceLog) (stops : outcome = .stopped committed)
      (disk : last.disk = if committed then after.disk else log.disk) :
      Transaction outcome log after value (.error .stopped last)

/-- A write that is carried out ends the call. -/
theorem Transaction.eq_of_written {ε α : Type} {log after : RocksDbEvidenceLog} {value : α}
    {result : EStateM.Result (Halt ε) RocksDbEvidenceLog α} (done : Transaction .written log after value result) :
    result = .ok value after := by
  cases done with
  | written done => rfl
  | refused message failure refused => cases refused
  | stopped committed last stops => cases stops

variable (codec : Codec) (ed25519 : Ed25519) (signingKey : SigningKey)

variable (self : RocksDbEvidenceLog)

/-- The log with a receipt in its open segment. -/
def appended (receipt : EvidenceReceipt) : RocksDbEvidenceLog :=
  let snapshot := { self.state.current with receipts := self.state.current.receipts ++ [receipt] }
  ⟨self.disk.write (appendBatch receipt snapshot), { self.state with current := snapshot }⟩

theorem appendSealed_cases (builder : ReceiptBuilder) (stamp : Stamp) (outcome : WriteOutcome)
    (log : RocksDbEvidenceLog) :
    (∃ failure, builder.sealSigned codec ed25519 log.state.current.receipts.getLast? signingKey stamp = .error failure ∧
      appendSealed codec ed25519 signingKey builder stamp outcome log = .error (.failed failure) log) ∨
    ∃ receipt, builder.sealSigned codec ed25519 log.state.current.receipts.getLast? signingKey stamp = .ok receipt ∧
      Transaction outcome log (log.appended receipt) receipt
        (appendSealed codec ed25519 signingKey builder stamp outcome log) := by
  rw [appendSealed, Stateful.get_bind_apply, Stateful.bind_apply]
  cases made : builder.sealSigned codec ed25519 log.state.current.receipts.getLast? signingKey stamp with
  | error failure => exact .inl ⟨failure, rfl, rfl⟩
  | ok receipt =>
    refine .inr ⟨receipt, rfl, ?_⟩
    change Transaction outcome log (log.appended receipt) receipt
      ((tryCatch (persistAppend outcome receipt (log.appended receipt).state.current) _ >>= fun _ => pure receipt)
        ⟨log.disk, (log.appended receipt).state⟩)
    have undone : (log.appended receipt).state.current.receipts.dropLast = log.state.current.receipts :=
      List.dropLast_concat
    rw [Stateful.bind_apply, Stateful.tryCatch_apply, persistAppend, onDisk_writeOpt]
    cases outcome with
    | written => exact .written rfl
    | refused message =>
      change Transaction (.refused message) log (log.appended receipt) receipt (.error (.failed _)
        (setReceipts (log.appended receipt).state.current.receipts.dropLast ⟨log.disk, (log.appended receipt).state⟩))
      rw [undone]
      exact .refused message _ rfl
    | stopped committed => exact .stopped committed _ rfl (by cases committed <;> rfl)

theorem append_apply (request : AppendRequest) (stamp : Stamp) (outcome : WriteOutcome) (log : RocksDbEvidenceLog) :
    append codec ed25519 signingKey request stamp outcome log =
      match request.builder codec with
      | .error status => .error (.failed status) log
      | .ok builder =>
        match appendSealed codec ed25519 signingKey builder stamp outcome log with
        | .ok receipt after => .ok (receiptToProto receipt) after
        | .error halt after => .error (halt.map EvidenceError.toStatus) after := by
  rw [append]
  cases request.builder codec with
  | error status => rfl
  | ok builder =>
    change (EStateM.adaptExcept (Halt.map EvidenceError.toStatus)
      (appendSealed codec ed25519 signingKey builder stamp outcome) >>= fun receipt =>
      pure (receiptToProto receipt)) log = _
    rw [Stateful.bind_apply, Stateful.adaptExcept_apply]
    dsimp only
    cases appendSealed codec ed25519 signingKey builder stamp outcome log with
    | ok receipt after => rfl
    | error halt after => rfl

/-- The log with its open segment sealed into `segment`. -/
def closed (segment : SealedSegment) : RocksDbEvidenceLog :=
  let newHead := self.state.chainHead + 1
  let cleared := OpenSegmentSnapshot.new self.state.current.retentionClass
  ⟨self.disk.write (sealBatch segment newHead cleared), ⟨cleared, newHead⟩⟩

theorem sealCurrentSegment_cases (sealedAt : DateTime) (stamp : Stamp) (outcome : WriteOutcome)
    (log : RocksDbEvidenceLog) :
    (∃ failure, log.sealOpen codec ed25519 signingKey sealedAt stamp = .error failure ∧
      sealCurrentSegment codec ed25519 signingKey sealedAt stamp outcome log = .error (.failed failure) log) ∨
    ∃ segment, log.sealOpen codec ed25519 signingKey sealedAt stamp = .ok segment ∧
      Transaction outcome log (log.closed segment) segment
        (sealCurrentSegment codec ed25519 signingKey sealedAt stamp outcome log) := by
  rw [sealCurrentSegment, Stateful.get_bind_apply, Stateful.bind_apply]
  cases made : log.sealOpen codec ed25519 signingKey sealedAt stamp with
  | error failure => exact .inl ⟨failure, rfl, rfl⟩
  | ok segment =>
    refine .inr ⟨segment, rfl, ?_⟩
    change Transaction outcome log (log.closed segment) segment
      ((persistSeal outcome segment (log.closed segment).state.chainHead
        (log.closed segment).state.current >>= fun _ => do
        modify fun self => { self with state := (log.closed segment).state }
        pure segment) log)
    rw [Stateful.bind_apply, persistSeal, onDisk_writeOpt]
    cases outcome with
    | written => exact .written rfl
    | refused message => exact .refused message _ rfl
    | stopped committed => exact .stopped committed _ rfl (by cases committed <;> rfl)

/-- The log with the rows of a segment deleted. -/
def pruned (segment : SealedSegment) (segmentId : SegmentId) (now : DateTime) : RocksDbEvidenceLog :=
  { self with disk := self.disk.write (compactBatch codec segment segmentId now) }

theorem compactSegment_cases (segmentId : SegmentId) (now : DateTime) (outcome : WriteOutcome)
    (log : RocksDbEvidenceLog) :
    (log.disk.segments.lookup segmentId = none ∧
      ∃ failure, compactSegment codec segmentId now outcome log = .error (.failed failure) log) ∨
    ∃ segment, log.disk.segments.lookup segmentId = some segment ∧
      Transaction outcome log (log.pruned codec segment segmentId now)
        (segment.receipts.length, segment.receipts.length)
        (compactSegment codec segmentId now outcome log) := by
  rw [compactSegment, Stateful.get_bind_apply]
  cases found : log.disk.segments.lookup segmentId with
  | none => exact .inl ⟨rfl, _, rfl⟩
  | some segment =>
    refine .inr ⟨segment, rfl, ?_⟩
    dsimp only
    rw [Stateful.bind_apply, onDisk_writeOpt]
    cases outcome with
    | written => exact .written rfl
    | refused message => exact .refused message _ rfl
    | stopped committed => exact .stopped committed _ rfl (by cases committed <;> rfl)

end RocksDbEvidenceLog

/-! ### The machine -/

/-- A database and the process that has it open, if one does. -/
structure Machine where
  disk : Disk
  process : Option BackendState

namespace Machine

open RocksDbEvidenceLog

/-- The machine after a call, whose memory is lost if the process has stopped. -/
def after {ε α : Type} : EStateM.Result (Halt ε) RocksDbEvidenceLog α → Machine
  | .ok _ log => ⟨log.disk, some log.state⟩
  | .error (.failed _) log => ⟨log.disk, some log.state⟩
  | .error .stopped log => ⟨log.disk, none⟩

def reports {ε α : Type} : EStateM.Result (Halt ε) RocksDbEvidenceLog α → Bool
  | .ok _ _ => true
  | .error _ _ => false

end Machine

/-- Where a planned call takes the machine. -/
def WriteOutcome.lands (outcome : WriteOutcome) (log after : RocksDbEvidenceLog) : Machine :=
  match outcome with
  | .written => ⟨after.disk, some after.state⟩
  | .refused _ => ⟨log.disk, some log.state⟩
  | .stopped committed => ⟨if committed then after.disk else log.disk, none⟩

def WriteOutcome.isWritten : WriteOutcome → Bool
  | .written => true
  | _ => false

theorem RocksDbEvidenceLog.Transaction.lands {ε α : Type} {outcome : WriteOutcome} {log after : RocksDbEvidenceLog}
    {value : α} {result : EStateM.Result (Halt ε) RocksDbEvidenceLog α}
    (done : Transaction outcome log after value result) :
    (Machine.after result, Machine.reports result) = (outcome.lands log after, outcome.isWritten) := by
  cases done with
  | written written =>
    subst written
    rfl
  | refused message failure refused =>
    subst refused
    rfl
  | stopped committed last stops disk =>
    subst stops
    rw [Machine.after, WriteOutcome.lands, disk]
    rfl

namespace Machine

variable {ε ε' α β : Type}

/-- Neither the error's type nor the value's matters to the machine. -/
theorem after_adapt (change : ε → ε') (next : α → β) (program : EStateM (Halt ε) RocksDbEvidenceLog α)
    (log : RocksDbEvidenceLog) :
    after ((EStateM.adaptExcept (Halt.map change) program >>= fun value => pure (next value)) log) =
      after (program log) ∧
    reports ((EStateM.adaptExcept (Halt.map change) program >>= fun value => pure (next value)) log) =
      reports (program log) := by
  rw [Stateful.bind_apply, Stateful.adaptExcept_apply]
  cases program log with
  | ok value last => exact ⟨rfl, rfl⟩
  | error halt last => cases halt <;> exact ⟨rfl, rfl⟩

end Machine

end Aios.Evidence
