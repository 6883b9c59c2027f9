import Aios.Evidence.Archive

/-! # The in-memory backend

The embedding of `service/impl_inmemory.rs`. The open chain and the link of the next segment are under the lock of the
state, the sealed segments under a lock of their own; a seal takes the two locks one after the other. A lock that is
poisoned by a panic is left out.
-/

namespace Aios.Evidence

open Aios.Rust

namespace InMemoryEvidenceLog

structure State where
  chain : ReceiptChain
  previousSegmentLink : Option (SegmentId × String)

/-- The sealed segments in the order they were recorded, with the counts of receipts and of index rows that compaction
has left of each. -/
structure SealedStore where
  sealed : List SealedSegment
  warmReceiptCount : Table SegmentId ℕ
  warmIndexCount : Table SegmentId ℕ

end InMemoryEvidenceLog

structure InMemoryEvidenceLog where
  state : InMemoryEvidenceLog.State
  sealedSegments : InMemoryEvidenceLog.SealedStore

namespace InMemoryEvidenceLog

def new : InMemoryEvidenceLog := ⟨⟨.new, none⟩, ⟨[], ∅, ∅⟩⟩

def onChain {ε α : Type} (program : EStateM ε ReceiptChain α) : EStateM ε State α :=
  Stateful.zoom State.chain (fun self chain => { self with chain }) program

def onState {ε α : Type} (program : EStateM ε State α) : EStateM ε InMemoryEvidenceLog α :=
  Stateful.zoom InMemoryEvidenceLog.state (fun self state => { self with state }) program

variable (codec : Codec) (ed25519 : Ed25519) (signingKey : SigningKey)

variable (self : InMemoryEvidenceLog)

/-- What `append` does under the lock of the state. -/
def appendSealed (builder : ReceiptBuilder) (stamp : Stamp) : EStateM EvidenceError State EvidenceReceipt := do
  let self ← get
  let receipt ← MonadExcept.ofExcept
    (builder.sealSigned codec ed25519 self.chain.receipts.getLast? signingKey stamp)
  onChain (ReceiptChain.append codec receipt)
  pure receipt

def append (request : AppendRequest) (stamp : Stamp) : EStateM Status State WireReceipt := do
  let builder ← MonadExcept.ofExcept (request.builder codec)
  let receipt ← EStateM.adaptExcept EvidenceError.toStatus (appendSealed codec ed25519 signingKey builder stamp)
  pure (receiptToProto receipt)

/-- What `seal_current_segment` does under the lock of the state. -/
def sealState (retentionClass : RetentionClass) (sealedAt : DateTime) (stamp : Stamp) :
    EStateM EvidenceError State SealedSegment := do
  let self ← get
  if self.chain.receipts.isEmpty then throw .emptySegment
  else do
    let segment ← MonadExcept.ofExcept (Segment.ofReceipts retentionClass self.chain.receipts)
    let segment ← MonadExcept.ofExcept (Segment.seal codec ed25519 segment (self.previousSegmentLink.map Prod.fst)
      (self.previousSegmentLink.map Prod.snd) signingKey sealedAt stamp)
    set ({ chain := .new, previousSegmentLink := some (segment.segmentId, segment.segmentSealHash) } : State)
    pure segment

/-- What it does under the lock of the sealed segments. -/
def SealedStore.record (self : SealedStore) (segment : SealedSegment) : SealedStore where
  sealed := self.sealed ++ [segment]
  warmReceiptCount := self.warmReceiptCount.insert segment.segmentId segment.receiptCount
  warmIndexCount := self.warmIndexCount.insert segment.segmentId segment.receiptCount

def sealCurrentSegment (retentionClass : RetentionClass) (sealedAt : DateTime) (stamp : Stamp) :
    EStateM EvidenceError InMemoryEvidenceLog SealedSegment := do
  let segment ← onState (sealState codec ed25519 signingKey retentionClass sealedAt stamp)
  modify fun self => { self with sealedSegments := self.sealedSegments.record segment }
  pure segment

def readReceipt (request : ReadReceiptRequest) : Except Status WireReceipt :=
  if request.receiptId = "" then .error receiptIdEmpty
  else
    match findReceipt self.state.chain.receipts request.receiptId with
    | some receipt => .ok (receiptToProto receipt)
    | none => .error (receiptNotFound request.receiptId)

def query (request : QueryRequest) : Except Status QueryResponse :=
  request.answer codec self.state.chain.receipts

def verifyChain : Except Status VerifyChainResponse :=
  verifyResponse "in_memory_walk_link_hash" self.state.chain.receipts (self.state.chain.verifyIntegrity codec)

end InMemoryEvidenceLog

/-! ## The archive of a state -/

/-- The open receipts of the archive are in the chain, and the link of the next segment leads to its last one. -/
structure InMemoryEvidenceLog.State.Shows (state : State) (archive : Archive) : Prop where
  chain : state.chain.receipts = archive.openReceipts
  link : state.previousSegmentLink =
    archive.segments.getLast?.map fun segment => (segment.segmentId, segment.segmentSealHash)

namespace InMemoryEvidenceLog

variable {codec : Codec} {ed25519 : Ed25519} {signingKey : SigningKey} {ulids : List String} {times : List DateTime}
  {archive : Archive} {self : State}

theorem shows_new : new.state.Shows .empty := ⟨rfl, rfl⟩

/-- An append ends where its seal does: the chain takes whatever is sealed behind it. -/
theorem appendSealed_apply (shown : self.Shows archive)
    (sound : archive.Sound codec ed25519 (ed25519.verifyingKey signingKey) ulids times) (builder : ReceiptBuilder)
    {stamp : Stamp} (fresh : stamp.ulid ∉ ulids) :
    appendSealed codec ed25519 signingKey builder stamp self =
      match builder.sealSigned codec ed25519 archive.openReceipts.getLast? signingKey stamp with
      | .error failure => .error failure self
      | .ok receipt => .ok receipt { self with chain := ⟨archive.openReceipts ++ [receipt]⟩ } := by
  rw [appendSealed, Stateful.get_bind_apply, shown.chain]
  cases made : builder.sealSigned codec ed25519 archive.openReceipts.getLast? signingKey stamp with
  | error failure => rw [Stateful.ofExcept_error_bind_apply]
  | ok receipt =>
    obtain ⟨-, fits, -⟩ := sound.appendSealed fresh made
    rw [← shown.chain] at fits
    have appended : ReceiptChain.append codec receipt self.chain = .ok () ⟨archive.openReceipts ++ [receipt]⟩ := by
      rw [ReceiptChain.append_ok_iff]
      exact ⟨fits, by rw [shown.chain]⟩
    rw [Stateful.ofExcept_ok_bind_apply, Stateful.bind_apply, onChain, Stateful.zoom, appended]
    rfl

theorem append_apply (shown : self.Shows archive)
    (sound : archive.Sound codec ed25519 (ed25519.verifyingKey signingKey) ulids times) (request : AppendRequest)
    {stamp : Stamp} (fresh : stamp.ulid ∉ ulids) :
    append codec ed25519 signingKey request stamp self =
      match request.builder codec with
      | .error status => .error status self
      | .ok builder =>
        match builder.sealSigned codec ed25519 archive.openReceipts.getLast? signingKey stamp with
        | .error failure => .error failure.toStatus self
        | .ok receipt => .ok (receiptToProto receipt) { self with chain := ⟨archive.openReceipts ++ [receipt]⟩ } := by
  rw [append]
  cases request.builder codec with
  | error status => rw [Stateful.ofExcept_error_bind_apply]
  | ok builder =>
    rw [Stateful.ofExcept_ok_bind_apply, Stateful.bind_apply, Stateful.adaptExcept_apply,
      appendSealed_apply shown sound builder fresh]
    dsimp only
    cases builder.sealSigned codec ed25519 archive.openReceipts.getLast? signingKey stamp with
    | error failure => rfl
    | ok receipt => rfl

/-- The state after an append. -/
theorem State.Shows.append (shown : self.Shows archive) (receipt : EvidenceReceipt) :
    State.Shows { self with chain := ⟨archive.openReceipts ++ [receipt]⟩ } (archive.append receipt) :=
  ⟨rfl, shown.link⟩

/-- A seal ends where `Segment::seal` does. -/
theorem sealState_apply (shown : self.Shows archive) (retentionClass : RetentionClass) (sealedAt : DateTime)
    (stamp : Stamp) :
    sealState codec ed25519 signingKey retentionClass sealedAt stamp self =
      if archive.openReceipts.isEmpty then .error .emptySegment self
      else
        match Segment.seal codec ed25519 ⟨retentionClass, archive.openReceipts, false⟩
          (archive.segments.getLast?.map SealedSegment.segmentId)
          (archive.segments.getLast?.map SealedSegment.segmentSealHash) signingKey sealedAt stamp with
        | .error failure => .error failure self
        | .ok segment => .ok segment ⟨.new, some (segment.segmentId, segment.segmentSealHash)⟩ := by
  have ids : self.previousSegmentLink.map Prod.fst = archive.segments.getLast?.map SealedSegment.segmentId := by
    rw [shown.link, Option.map_map]
    rfl
  have hashes : self.previousSegmentLink.map Prod.snd =
      archive.segments.getLast?.map SealedSegment.segmentSealHash := by
    rw [shown.link, Option.map_map]
    rfl
  rw [sealState, Stateful.get_bind_apply, shown.chain, Segment.ofReceipts_eq, ids, hashes]
  cases archive.openReceipts.isEmpty with
  | true => rfl
  | false =>
    simp only [Bool.false_eq_true, if_false]
    rw [Stateful.ofExcept_ok_bind_apply]
    cases Segment.seal codec ed25519 ⟨retentionClass, archive.openReceipts, false⟩
      (archive.segments.getLast?.map SealedSegment.segmentId)
      (archive.segments.getLast?.map SealedSegment.segmentSealHash) signingKey sealedAt stamp with
    | error failure => rw [Stateful.ofExcept_error_bind_apply]
    | ok segment =>
      rw [Stateful.ofExcept_ok_bind_apply]
      rfl

/-- The state after a seal. -/
theorem State.shows_close (archive : Archive) (segment : SealedSegment) :
    State.Shows ⟨.new, some (segment.segmentId, segment.segmentSealHash)⟩ (archive.close segment) := by
  refine ⟨rfl, ?_⟩
  rw [Archive.close, List.getLast?_concat]
  rfl

end InMemoryEvidenceLog

end Aios.Evidence
