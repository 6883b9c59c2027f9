import Aios.Evidence.RocksDb

/-! # What a seal and the checks of a chain bind

The seal hash covers a closed set of metadata: the id, the class, the number of receipts, the previous seal hash
with the zeros in place of none, and the hash of the receipts before the terminal one. Two verified segments with
the same seal hash agree in these, and need not agree in anything else.
-/

namespace Aios.Evidence

open Aios.Rust

theorem natText_injective : Function.Injective (toString : ℕ → String) := by
  intro first second same
  have digits : Nat.toDigits 10 first = Nat.toDigits 10 second := by
    rw [← Nat.toList_repr, ← Nat.toList_repr]
    exact congrArg String.toList same
  rw [← Nat.ofDigitChars_ten_toDigits (n := first), digits, Nat.ofDigitChars_ten_toDigits]

/-- The serialized metadata hold every field. -/
theorem SegmentSealMetadata.toValue_injective (codec : Codec) :
    Function.Injective (Serialize.toValue codec : SegmentSealMetadata → Json) := by
  intro first second same
  have fields := Json.object.inj same
  simp only [List.cons.injEq, Prod.mk.injEq, Json.string.injEq, Json.number.injEq, true_and, and_true] at fields
  obtain ⟨segmentId, retentionClass, count, previous, body⟩ := fields
  have receiptCount := natText_injective count
  cases first
  cases second
  simp_all

namespace SealedSegment

variable {codec : Codec} {ed25519 : Ed25519} {verifyingKey : VerifyingKey}

/-- A verified seal is the digest of the metadata over the digest of the receipts. -/
theorem sealHash_of_verifySeal {self : SealedSegment} (verified : self.verifySeal codec ed25519 verifyingKey = .ok ()) :
    ∃ digest metadata, self.recomputeAllReceiptsCanonicalHash codec = .ok digest ∧
      jcsCanonicalize codec (self.sealMetadata digest) = .ok metadata ∧
      self.segmentSealHash = blake3Hash codec metadata := by
  simp only [verifySeal, Fallible.bind_eq_ok_iff] at verified
  obtain ⟨digest, recomputed, metadata, writtenMeta, checked⟩ := verified
  refine ⟨digest, metadata, recomputed, writtenMeta, ?_⟩
  by_contra differ
  rw [if_pos (Ne.symm differ)] at checked
  cases checked

/-- The libraries tell apart what the seals of two segments hash. -/
structure SealsTold (codec : Codec) (first second : SealedSegment) : Prop where
  times : ∀ receipt ∈ first.receiptsExcludingTerminal, ∀ other ∈ second.receiptsExcludingTerminal,
    receipt.TimesTold codec other
  jcsBody : codec.JcsTells (Serialize.toValue codec first.receiptsExcludingTerminal)
    (Serialize.toValue codec second.receiptsExcludingTerminal)
  blake3Body : codec.Blake3Tells (Serialize.toValue codec first.receiptsExcludingTerminal)
    (Serialize.toValue codec second.receiptsExcludingTerminal)
  jcsMetadata : ∀ digest digest', first.recomputeAllReceiptsCanonicalHash codec = .ok digest →
    second.recomputeAllReceiptsCanonicalHash codec = .ok digest' →
    codec.JcsTells (Serialize.toValue codec (first.sealMetadata digest))
      (Serialize.toValue codec (second.sealMetadata digest'))
  blake3Metadata : ∀ digest digest', first.recomputeAllReceiptsCanonicalHash codec = .ok digest →
    second.recomputeAllReceiptsCanonicalHash codec = .ok digest' →
    codec.Blake3Tells (Serialize.toValue codec (first.sealMetadata digest))
      (Serialize.toValue codec (second.sealMetadata digest'))

/-- What two segments have in common when their seals are the same. -/
structure SameSealed (first second : SealedSegment) : Prop where
  segmentId : first.segmentId = second.segmentId
  retentionClass : first.retentionClass = second.retentionClass
  receiptCount : first.receiptCount = second.receiptCount
  body : first.receiptsExcludingTerminal = second.receiptsExcludingTerminal
  previousSegmentSealHash : first.previousSegmentSealHash.getD GENESIS_PREVIOUS_SEGMENT_SEAL_HASH =
    second.previousSegmentSealHash.getD GENESIS_PREVIOUS_SEGMENT_SEAL_HASH

theorem sameSealed_of_sealHash {first second : SealedSegment} (told : SealsTold codec first second)
    (verified : first.verifySeal codec ed25519 verifyingKey = .ok ())
    (verified' : second.verifySeal codec ed25519 verifyingKey = .ok ())
    (same : first.segmentSealHash = second.segmentSealHash) : SameSealed first second := by
  obtain ⟨digest, metadata, recomputed, writtenMeta, hashed⟩ := sealHash_of_verifySeal verified
  obtain ⟨digest', metadata', recomputed', writtenMeta', hashed'⟩ := sealHash_of_verifySeal verified'
  have digests : blake3Hash codec metadata = blake3Hash codec metadata' := by rw [← hashed, ← hashed', same]
  have sameMetadata := SegmentSealMetadata.toValue_injective codec
    (toValue_eq_of_digest (told.jcsMetadata _ _ recomputed recomputed') (told.blake3Metadata _ _ recomputed recomputed')
      writtenMeta writtenMeta' digests)
  simp only [sealMetadata, SegmentSealMetadata.mk.injEq] at sameMetadata
  obtain ⟨segmentId, retentionClass, receiptCount, previous, bodyDigests⟩ := sameMetadata
  simp only [recomputeAllReceiptsCanonicalHash, Fallible.bind_eq_ok_iff,
    Fallible.pure_eq_ok_iff] at recomputed recomputed'
  obtain ⟨body, written, rfl⟩ := recomputed
  obtain ⟨body', written', rfl⟩ := recomputed'
  have sameBody := toValue_eq_of_digest told.jcsBody told.blake3Body written written' bodyDigests
  exact ⟨segmentId, RetentionClass.asWireStr_injective retentionClass, receiptCount,
    EvidenceReceipt.eq_of_toValues_eq told.times (Json.array.inj sameBody), previous⟩

theorem verifySeal_of_verifyFull {self : SealedSegment}
    (verified : self.verifyFull codec ed25519 verifyingKey = .ok ()) :
    self.verifySeal codec ed25519 verifyingKey = .ok () := by
  rw [verifyFull, Fallible.then_eq_ok_iff] at verified
  exact verified.2

/-- Two segments that verify under one key and carry the same seal hash agree in their id, their class, the number
of their receipts, the receipts before the terminal one, and the previous seal hash. -/
theorem seal_binds (codec : Codec) (ed25519 : Ed25519) (verifyingKey : VerifyingKey) (first second : SealedSegment)
    (told : SealsTold codec first second) (verified : first.verifyFull codec ed25519 verifyingKey = .ok ())
    (verified' : second.verifyFull codec ed25519 verifyingKey = .ok ())
    (same : first.segmentSealHash = second.segmentSealHash) : SameSealed first second :=
  sameSealed_of_sealHash told (verifySeal_of_verifyFull verified) (verifySeal_of_verifyFull verified') same

end SealedSegment

/-! ## Two linked segments -/

def firstReceipt : EvidenceReceipt :=
  { ReceiptChain.sealedStep with
    contentHash := "03f88b99c3d8073bba8948d6e762aac443b265f606cc05abd4d172f03a4def6a"
    payload := .null
    signature := some ("5775a128f3a8af5158d8e1dd90e16fca0f3b4e57ca9df47f3737857c240801b2" ++
      "33a9a514148624977b825a88abf805b233e52f5e22024d4e040fdc4c1ba3110a") }

def firstTerminal : EvidenceReceipt where
  receiptId := "evr_01ARZ3NDEKTSV4RRFFQ69G5FAW"
  recordedAt := 0
  recordType := .segmentSealed
  retentionClass := .forever
  subjectCanonicalId := "_system:service:evidence-segment-signer"
  actionId := none
  previousReceiptHash := some "8a26226e99c0715c7f6a5bfa624f819c"
  contentHash := "9a04bc1da73be9fe5f99ddc8c49d5b1597fad77accbe7a8a01e3a497873d7463"
  payload := .object
    [("receipt_count", .number "1"), ("retention_class", .string "STANDARD_24M"),
     ("segment_id", .string "seg_4bee5ff1ed602bba38ab01e80f8ffdb2")]
  redactionProfile := .default
  signature := some ("da94188fe51416aeb36511e262e08055fcb9e9ef13b337da1cbabc8990475c35" ++
    "95bd5503f6b3627f09a96bd50f66d5442a31fdca369162ec352c9b534cae7000")

def firstSegment : SealedSegment where
  segmentId := "seg_4bee5ff1ed602bba38ab01e80f8ffdb2"
  retentionClass := .standard24M
  receipts := [firstReceipt, firstTerminal]
  segmentSealHash := "f17cbbc3dc2983fd6203fc885ea37fb47ea4ecab20f520bb3d8b064e69d823ea"
  segmentSignature := "dc9668f3a4d5da7de1366aa61eff04f2a596c54c8783030b256dd377b41f16a5" ++
    "f6e67a176275dc16244de467a0d0ec7ea505bd60e8737f0f8a6526a3b0a72301"
  previousSegmentId := none
  previousSegmentSealHash := none
  sealedAt := 0

/-- The receipt of the next segment. -/
def secondReceipt : EvidenceReceipt :=
  { firstReceipt with
    receiptId := "evr_01ARZ3NDEKTSV4RRFFQ69G5FAX"
    signature := some ("68c056639c737690b8b9a971afcc4b971e4239b1797aec7e73ca081aaf1235ee" ++
      "8b2f7b4740256b3b2b7a2b4ce88dd8da644f39ed119467c0181ab94a975ded03") }

def secondTerminal : EvidenceReceipt :=
  { firstTerminal with
    receiptId := "evr_01ARZ3NDEKTSV4RRFFQ69G5FAY"
    previousReceiptHash := some "78fecc2eb462ca0c826d68a2f8ec665c"
    contentHash := "b977dba1e14420643fe68f7539fc3b64223bee4a478aae7b0285307febad0bab"
    payload := .object
      [("previous_segment_id", .string firstSegment.segmentId),
       ("previous_segment_seal_hash", .string firstSegment.segmentSealHash), ("receipt_count", .number "1"),
       ("retention_class", .string "STANDARD_24M"), ("segment_id", .string "seg_2069a69c3cc3f18599fb33da61c4a377")]
    signature := some ("81d7bd5a308839aa2f8f0979e0e726c41007d532a07c1c1e4790f42040d6735f" ++
      "5e84a1f8b680820b98c90e812c9dbf851f1a677088f9a4ba776cafee52bfb70c") }

def secondSegment : SealedSegment where
  segmentId := "seg_2069a69c3cc3f18599fb33da61c4a377"
  retentionClass := .standard24M
  receipts := [secondReceipt, secondTerminal]
  segmentSealHash := "ddce3c2c218f28e0092d458556198941e37ffe6bfd9e100139a0caed14e5c76d"
  segmentSignature := "ec2a4dc82b98fb76b8328414e1bef1f5d3c759c7e4cd91d7d46036b9bb2d5bf1" ++
    "79cce9e3eb05d7b7660def9517aaf571adfc50d6955da55a34ee165433fa3c03"
  previousSegmentId := some firstSegment.segmentId
  previousSegmentSealHash := some firstSegment.segmentSealHash
  sealedAt := 0

/-- The digests of what is made on the way to a segment of one receipt. -/
def segmentDigests (receipt terminal : EvidenceReceipt) (segment : SealedSegment) (signed linked body sealed : String) :
    List (String × String) :=
  [(writeJson receipt.payload, receipt.contentHash),
   (writeJson (Serialize.toValue blankCodec receipt.forSigning), signed),
   (writeJson (Serialize.toValue blankCodec receipt), linked),
   (writeJson (Serialize.toValue blankCodec [receipt]), body),
   (writeJson terminal.payload, terminal.contentHash),
   (writeJson (Serialize.toValue blankCodec terminal.forSigning), sealed),
   (writeJson (Serialize.toValue blankCodec (segment.sealMetadata body)), segment.segmentSealHash)]

/-- The digests of the seeds of the segment ids. -/
def seedDigests : List (String × String) :=
  [("evr_01ARZ3NDEKTSV4RRFFQ69G5FAV1970-01-01T00:00:00+00:00",
    "4bee5ff1ed602bba38ab01e80f8ffdb2a3a7629e1bc41f1683435d5b53c83b0f"),
   ("evr_01ARZ3NDEKTSV4RRFFQ69G5FAW1970-01-01T00:00:00+00:00",
    "ed92c2d0fbc33a1c4c3e63b8034158a1968291a31391652a59295cf8dc177408"),
   ("evr_01ARZ3NDEKTSV4RRFFQ69G5FAX1970-01-01T00:00:00+00:00",
    "2069a69c3cc3f18599fb33da61c4a37742d076b925b7055523563a4d6a66e8b7"),
   ("evr_01ARZ3NDEKTSV4RRFFQ69G5FAY1970-01-01T00:00:00+00:00",
    "cdea98cfa0729551692931a88885e5f8c546db7342e2c3a59d6b459d8bc2d859")]

def sealCodec : Codec := tableCodec (seedDigests ++
  segmentDigests firstReceipt firstTerminal firstSegment
    "6f9d0b79817074934523ab9a2eecdbbff400e7909ff4ee58e5eaf458931166da"
    "8a26226e99c0715c7f6a5bfa624f819c3aa270f1334566d47bef8ebfea56606f"
    "b6ba85b7c6d18fcd25df02a3fc2a660d5766677477d1458d9c6df67fec24c7e5"
    "0038c2911b47417922431f23e757788a5a90155c9ba5feaa85ece0bed013ef70" ++
  segmentDigests secondReceipt secondTerminal secondSegment
    "f65ef0b12b867e14c5dcaaecd547cdfb58b8e39945afc30c6b8b3795357879a9"
    "78fecc2eb462ca0c826d68a2f8ec665c498c3a3fe70a295eab52ecbbe793a709"
    "1d0b9d0f84071770bcd34d880ae99ff232d65af6bc076cd7aadc09c833e43f29"
    "663c38b6f83b81ec467a59d3e03f2b1d16cd68488b77a5884ec2ce0502eb7381") (by decide +kernel)

/-- The seed of the signing key. -/
def logKey : SigningKey := List.replicate 32 55

def sealKey : VerifyingKey := hexBytes "2c848ad8664ee651e4896c13a84a89a2964aca5eb77a8b881e60ded5c81b4e9d"

def sealEd25519 : Ed25519 := tableEd25519 sealKey
  [("6f9d0b79817074934523ab9a2eecdbbff400e7909ff4ee58e5eaf458931166da", firstReceipt.signature.getD ""),
   ("0038c2911b47417922431f23e757788a5a90155c9ba5feaa85ece0bed013ef70", firstTerminal.signature.getD ""),
   (firstSegment.segmentSealHash, firstSegment.segmentSignature),
   ("f65ef0b12b867e14c5dcaaecd547cdfb58b8e39945afc30c6b8b3795357879a9", secondReceipt.signature.getD ""),
   ("663c38b6f83b81ec467a59d3e03f2b1d16cd68488b77a5884ec2ce0502eb7381", secondTerminal.signature.getD ""),
   (secondSegment.segmentSealHash, secondSegment.segmentSignature)] (by decide +kernel)

namespace SealedSegment

theorem firstSegment_verifies : firstSegment.verifyFull sealCodec sealEd25519 sealKey = .ok () := by
  decide +kernel

/-- The same segment under another date, naming a previous segment and the zeros for its seal hash. -/
def redatedSegment : SealedSegment :=
  { firstSegment with
    previousSegmentId := some "seg_00000000000000000000000000000000"
    previousSegmentSealHash := some GENESIS_PREVIOUS_SEGMENT_SEAL_HASH
    sealedAt := days 1000 }

theorem Codec.tells_self (codec : Codec) (value : Json) : codec.JcsTells value value ∧
    codec.Blake3Tells value value := by
  refine ⟨fun _ _ _ => rfl, fun canonical canonical' written written' _ => ?_⟩
  exact Except.ok.inj (written.symm.trans written')

theorem redatedSegment_told : SealsTold sealCodec firstSegment redatedSegment where
  times receipt member other member' := by
    have single : firstSegment.receiptsExcludingTerminal = [firstReceipt] := rfl
    have single' : redatedSegment.receiptsExcludingTerminal = [firstReceipt] := rfl
    rw [single, List.mem_singleton] at member
    rw [single', List.mem_singleton] at member'
    subst member member'
    exact fun _ => rfl
  jcsBody := (Codec.tells_self _ _).1
  blake3Body := (Codec.tells_self _ _).2
  jcsMetadata digest digest' recomputed recomputed' := by
    obtain rfl := Except.ok.inj (recomputed.symm.trans recomputed')
    exact (Codec.tells_self _ _).1
  blake3Metadata digest digest' recomputed recomputed' := by
    obtain rfl := Except.ok.inj (recomputed.symm.trans recomputed')
    exact (Codec.tells_self _ _).2

theorem redatedSegment_bound : SameSealed firstSegment redatedSegment :=
  seal_binds sealCodec sealEd25519 sealKey firstSegment redatedSegment redatedSegment_told firstSegment_verifies
    firstSegment_verifies rfl

/-- The date and the previous links of a segment are not bound by its seal. -/
theorem seal_leaves_free :
    ¬∀ (codec : Codec) (ed25519 : Ed25519) (verifyingKey : VerifyingKey) (first second : SealedSegment),
      SealsTold codec first second → first.verifyFull codec ed25519 verifyingKey = .ok () →
      second.verifyFull codec ed25519 verifyingKey = .ok () → first.segmentSealHash = second.segmentSealHash →
      first = second := by
  intro bound
  have same := bound sealCodec sealEd25519 sealKey firstSegment redatedSegment redatedSegment_told
    firstSegment_verifies firstSegment_verifies rfl
  have dates : (0 : DateTime) = days 1000 := congrArg sealedAt same
  revert dates
  decide

end SealedSegment

/-! ## The three checks of a segment chain

The fold of `SegmentChain::append`, the walk of `verify_chain` and the recovery from disk ask the same links of all
segments but the first. Recovery also reads every segment by its id and verifies its seal and its receipts.
-/

/-- The rows that lead recovery to the segments, in their order. -/
structure Disk.Stores (disk : Disk) (segments : List SealedSegment) : Prop where
  chainHead : disk.chainHead.getD 0 = segments.length
  indexed : ∀ position segment, segments[position]? = some segment →
    disk.chainIndex.lookup position = some segment.segmentId
  stored : ∀ segment ∈ segments, disk.segments.lookup segment.segmentId = some segment

theorem Disk.stores_blank : blank.Stores [] :=
  ⟨rfl, fun position segment taken => by simp at taken, List.forall_mem_nil _⟩

/-- The rows of a seal, for a segment with an id of its own. -/
theorem Disk.Stores.close {disk : Disk} {segments : List SealedSegment} {segment : SealedSegment}
    (stores : disk.Stores segments) (fresh : ∀ other ∈ segments, other.segmentId ≠ segment.segmentId)
    (cleared : OpenSegmentSnapshot) :
    (disk.write (RocksDbEvidenceLog.sealBatch segment (segments.length + 1) cleared)).Stores
      (segments ++ [segment]) where
  chainHead := by
    rw [List.length_append, List.length_singleton]
    rfl
  indexed := by
    intro position other taken
    change (disk.chainIndex.insert segments.length segment.segmentId).lookup position = _
    rw [Table.lookup_insert_eq]
    by_cases last : position = segments.length
    · rw [last, List.getElem?_concat_length, Option.some.injEq] at taken
      rw [if_pos last, taken]
    · have inside : position < segments.length := by
        have bound := (List.getElem?_eq_some_iff.mp taken).1
        rw [List.length_append, List.length_singleton] at bound
        omega
      rw [List.getElem?_append_left inside] at taken
      rw [if_neg last, stores.indexed position other taken]
  stored := by
    intro other member
    change (disk.segments.insert segment.segmentId segment).lookup other.segmentId = some other
    rw [Table.lookup_insert_eq]
    obtain member | member := List.mem_append.mp member
    · rw [if_neg (fresh other member), stores.stored other member]
    · rw [List.mem_singleton.mp member, if_pos rfl]

/-- What recovery asks of a segment apart from its links. -/
structure SealedSegment.Restorable (codec : Codec) (ed25519 : Ed25519) (verifyingKey : VerifyingKey)
    (segment : SealedSegment) : Prop where
  segmentId : SegmentId.parse segment.segmentId = .ok segment.segmentId
  verified : segment.verifyFull codec ed25519 verifyingKey = .ok ()

theorem SegmentId.eq_of_parse {input : String} {segmentId : SegmentId} (parsed : parse input = .ok segmentId) :
    segmentId = input := by
  rw [parse, Fallible.check_eq_ok_iff, Fallible.check_eq_ok_iff, Fallible.check_eq_ok_iff] at parsed
  dsimp only at parsed
  rw [Fallible.check_eq_ok_iff, Fallible.guard_eq_ok_iff] at parsed
  exact parsed.2.2.2.2.2.symm

variable {codec : Codec} {ed25519 : Ed25519} {verifyingKey : VerifyingKey} {disk : Disk}

section

variable {position : ℕ} {segments : List SealedSegment} {segment : SealedSegment}

/-- What a position of the chain leads to, where the rows are there. -/
theorem readSegmentAt_eq_ok_iff {found : SealedSegment}
    (indexed : disk.chainIndex.lookup position = some segment.segmentId)
    (stored : disk.segments.lookup segment.segmentId = some segment) :
    readSegmentAt disk position = .ok found ↔
      SegmentId.parse segment.segmentId = .ok segment.segmentId ∧ found = segment := by
  rw [readSegmentAt, indexed, Fallible.bind_eq_ok_iff]
  constructor
  · rintro ⟨text, same, read⟩
    obtain rfl := Except.ok.inj same
    obtain ⟨segmentId, parsed, looked⟩ := Fallible.bind_eq_ok_iff.mp read
    obtain rfl := SegmentId.eq_of_parse parsed
    rw [stored] at looked
    exact ⟨parsed, (Except.ok.inj looked).symm⟩
  · rintro ⟨parsed, rfl⟩
    refine ⟨_, rfl, Fallible.bind_eq_ok_iff.mpr ⟨_, parsed, ?_⟩⟩
    rw [stored]

theorem checkRecoveredHash_eq_ok_iff (later : position ≠ 0) {claimed : Option String} {expected : String} :
    checkRecoveredHash position claimed (some expected) = .ok () ↔ claimed = some expected := by
  obtain ⟨before, rfl⟩ := Nat.exists_eq_succ_of_ne_zero later
  cases claimed with
  | none => simp [checkRecoveredHash]
  | some claimed => simp [checkRecoveredHash]

theorem checkRecoveredId_eq_ok_iff (later : position ≠ 0) {claimed : Option SegmentId} {expected : SegmentId} :
    checkRecoveredId position claimed (some expected) = .ok () ↔ claimed = some expected := by
  rw [checkRecoveredId, if_neg later]
  cases claimed with
  | none => simp
  | some claimed => simp

/-- One round of the recovery loop. -/
theorem recoverFrom_succ_iff {prevSealHash : Option String} {prevSegmentId : Option SegmentId} {count : ℕ}
    (indexed : disk.chainIndex.lookup position = some segment.segmentId)
    (stored : disk.segments.lookup segment.segmentId = some segment) :
    recoverFrom codec ed25519 disk verifyingKey prevSealHash prevSegmentId position (count + 1) = .ok () ↔
      checkRecoveredHash position segment.previousSegmentSealHash prevSealHash = .ok () ∧
      checkRecoveredId position segment.previousSegmentId prevSegmentId = .ok () ∧
      segment.Restorable codec ed25519 verifyingKey ∧
      recoverFrom codec ed25519 disk verifyingKey (some segment.segmentSealHash) (some segment.segmentId) (position + 1)
        count = .ok () := by
  rw [recoverFrom, Fallible.bind_eq_ok_iff]
  constructor
  · rintro ⟨found, read, checked⟩
    obtain ⟨parsed, rfl⟩ := (readSegmentAt_eq_ok_iff indexed stored).mp read
    rw [Fallible.then_eq_ok_iff, Fallible.then_eq_ok_iff, Fallible.then_eq_ok_iff] at checked
    obtain ⟨hash, id, verified, recovered⟩ := checked
    exact ⟨hash, id, ⟨parsed, verified⟩, recovered⟩
  · rintro ⟨hash, id, ⟨parsed, verified⟩, recovered⟩
    refine ⟨segment, (readSegmentAt_eq_ok_iff indexed stored).mpr ⟨parsed, rfl⟩, ?_⟩
    rw [Fallible.then_eq_ok_iff, Fallible.then_eq_ok_iff, Fallible.then_eq_ok_iff]
    exact ⟨hash, id, verified, recovered⟩

/-- The loop of recovery behind a segment accepts what is linked to it. -/
theorem recoverFrom_eq_ok_iff (later : position ≠ 0) (prior : SealedSegment)
    (indexed : ∀ offset segment, segments[offset]? = some segment → disk.chainIndex.lookup (position + offset) =
      some segment.segmentId)
    (stored : ∀ segment ∈ segments, disk.segments.lookup segment.segmentId = some segment) :
    recoverFrom codec ed25519 disk verifyingKey (some prior.segmentSealHash) (some prior.segmentId) position
        segments.length = .ok () ↔
      (prior :: segments).IsChain SealedSegment.LinksTo ∧
        ∀ segment ∈ segments, segment.Restorable codec ed25519 verifyingKey := by
  induction segments generalizing position prior with
  | nil => simp [recoverFrom]
  | cons segment rest ih =>
    have shifted : ∀ offset other, rest[offset]? = some other →
        disk.chainIndex.lookup (position + 1 + offset) = some other.segmentId := by
      intro offset other taken
      rw [Nat.add_assoc, Nat.add_comm 1]
      exact indexed (offset + 1) other taken
    have here : disk.chainIndex.lookup position = some segment.segmentId := indexed 0 segment rfl
    rw [List.length_cons, recoverFrom_succ_iff here (stored segment List.mem_cons_self),
      checkRecoveredHash_eq_ok_iff later, checkRecoveredId_eq_ok_iff later,
      ih (by omega) segment shifted (fun other member => stored other (List.mem_cons_of_mem _ member)),
      List.isChain_cons_cons, List.forall_mem_cons]
    constructor
    · rintro ⟨hash, id, here, chain, others⟩
      exact ⟨⟨⟨hash, id⟩, chain⟩, here, others⟩
    · rintro ⟨⟨⟨hash, id⟩, chain⟩, here, others⟩
      exact ⟨hash, id, here, chain, others⟩

/-- The first segment on disk has no previous seal hash. -/
def SegmentChain.OpensOnDisk (segment : SealedSegment) : Prop := segment.previousSegmentSealHash = none

theorem recoverSealedChain_eq_ok_iff (stores : disk.Stores segments) :
    recoverSealedChain codec ed25519 disk segments.length verifyingKey = .ok () ↔
      Linked.Holds SegmentChain.OpensOnDisk SealedSegment.LinksTo segments ∧
        ∀ segment ∈ segments, segment.Restorable codec ed25519 verifyingKey := by
  cases segments with
  | nil => simp [recoverSealedChain, recoverFrom, Linked.holds_nil]
  | cons first rest =>
    have shifted : ∀ offset segment, rest[offset]? = some segment →
        disk.chainIndex.lookup (1 + offset) = some segment.segmentId := by
      intro offset segment taken
      rw [Nat.add_comm]
      exact stores.indexed (offset + 1) segment taken
    have opens : checkRecoveredHash 0 first.previousSegmentSealHash none = .ok () ↔ SegmentChain.OpensOnDisk first := by
      rw [SegmentChain.OpensOnDisk]
      cases first.previousSegmentSealHash <;> simp [checkRecoveredHash]
    rw [recoverSealedChain, List.length_cons,
      recoverFrom_succ_iff (stores.indexed 0 first rfl) (stores.stored first List.mem_cons_self), opens,
      recoverFrom_eq_ok_iff (by omega) first shifted
        (fun segment member => stores.stored segment (List.mem_cons_of_mem _ member)), List.forall_mem_cons]
    constructor
    · rintro ⟨genesis, -, here, chain, others⟩
      exact ⟨⟨fun _ opening => Option.some.inj opening ▸ genesis, chain⟩, here, others⟩
    · rintro ⟨⟨genesis, chain⟩, here, others⟩
      exact ⟨genesis first rfl, rfl, here, chain, others⟩

/-! ### Agreement -/

end

namespace SegmentChain

/-- The fold of `append` over the segments, from the empty chain. -/
def fold (segments : List SealedSegment) : Except EvidenceError SegmentChain := Linked.collect append new segments

theorem fold_accepts_iff {segments : List SealedSegment} :
    (∃ chain, fold segments = .ok chain) ↔ Linked.Holds Opens SealedSegment.LinksTo segments := by
  have empty : new.segments = [] := rfl
  rw [← append_appends.collect_iff empty]
  constructor
  · rintro ⟨chain, folded⟩
    have listed := append_appends.entriesOf_collect folded
    rw [empty, List.nil_append] at listed
    exact ⟨chain, folded, listed⟩
  · rintro ⟨chain, folded, -⟩
    exact ⟨chain, folded⟩

/-- The segment carries both previous links or neither. -/
def WholeLink (segment : SealedSegment) : Prop :=
  segment.previousSegmentId.isSome = segment.previousSegmentSealHash.isSome

/-- On a list whose first segment is not half linked the fold and the walk accept the same, and recovery accepts what
they accept if every id is well formed and every segment verifies. -/
theorem checkers_agree (codec : Codec) (ed25519 : Ed25519) (verifyingKey : VerifyingKey) (segments : List SealedSegment)
    (disk : Disk) (stores : disk.Stores segments) (whole : ∀ first ∈ segments.head?, WholeLink first) :
    ((∃ chain, fold segments = .ok chain) ↔ verifyChain ⟨segments⟩ = .ok ()) ∧
    (recoverSealedChain codec ed25519 disk (disk.chainHead.getD 0) verifyingKey = .ok () ↔
      verifyChain ⟨segments⟩ = .ok () ∧ ∀ segment ∈ segments,
        SegmentId.parse segment.segmentId = .ok segment.segmentId ∧
          segment.verifyFull codec ed25519 verifyingKey = .ok ()) := by
  have opens : ∀ first ∈ segments.head?,
      (OpensForWalk first ↔ Opens first) ∧ (OpensOnDisk first ↔ Opens first) := by
    intro first member
    have both := whole first member
    rw [WholeLink] at both
    rw [OpensForWalk, OpensOnDisk, Opens]
    cases id : first.previousSegmentId <;> cases hash : first.previousSegmentSealHash <;> simp_all
  have restorable : (∀ segment ∈ segments, segment.Restorable codec ed25519 verifyingKey) ↔
      ∀ segment ∈ segments, SegmentId.parse segment.segmentId = .ok segment.segmentId ∧
        segment.verifyFull codec ed25519 verifyingKey = .ok () :=
    forall₂_congr fun segment _ => ⟨fun held => ⟨held.segmentId, held.verified⟩, fun held => ⟨held.1, held.2⟩⟩
  rw [fold_accepts_iff, verifyChain_eq_ok_iff, stores.chainHead, recoverSealedChain_eq_ok_iff stores,
    Linked.holds_congr fun first member => (opens first member).1,
    Linked.holds_congr fun first member => (opens first member).2, restorable]
  exact ⟨Iff.rfl, Iff.rfl⟩

/-- The disk after the seal of a first segment. -/
def sealedDisk (segment : SealedSegment) : Disk :=
  Disk.blank.write (RocksDbEvidenceLog.sealBatch segment 1 (.new segment.retentionClass))

theorem sealedDisk_stores (segment : SealedSegment) : (sealedDisk segment).Stores [segment] :=
  Disk.stores_blank.close (List.forall_mem_nil _) _

/-- The disk after the seals of two linked segments. -/
def linkedDisk : Disk :=
  (sealedDisk firstSegment).write (RocksDbEvidenceLog.sealBatch secondSegment 2 (.new secondSegment.retentionClass))

/-- The fold, the walk and recovery accept two linked segments. -/
theorem linkedSegments_accepted :
    (∃ chain, fold [firstSegment, secondSegment] = .ok chain) ∧
      verifyChain ⟨[firstSegment, secondSegment]⟩ = .ok () ∧
      recoverSealedChain sealCodec sealEd25519 linkedDisk 2 sealKey = .ok () := by
  have stores : linkedDisk.Stores [firstSegment, secondSegment] :=
    (sealedDisk_stores firstSegment).close (by decide +kernel) _
  have agree := checkers_agree sealCodec sealEd25519 sealKey [firstSegment, secondSegment] linkedDisk stores
    fun first opens => by
      obtain rfl := Option.some.inj opens
      rfl
  have walked : verifyChain ⟨[firstSegment, secondSegment]⟩ = .ok () := by decide +kernel
  have verified : ∀ segment ∈ [firstSegment, secondSegment], SegmentId.parse segment.segmentId = .ok segment.segmentId ∧
      segment.verifyFull sealCodec sealEd25519 sealKey = .ok () := by
    rw [List.forall_mem_cons, List.forall_mem_singleton]
    exact ⟨⟨by decide +kernel, SealedSegment.firstSegment_verifies⟩, by decide +kernel⟩
  exact ⟨agree.1.mpr walked, walked, agree.2.mpr ⟨walked, verified⟩⟩

/-- The segment with a signature that is none. -/
def forgedSegment : SealedSegment := { firstSegment with segmentSignature := "00" }

/-- A segment that does not verify is appended and walked over, and not recovered. -/
theorem forgedSegment_not_recovered :
    ¬∀ (codec : Codec) (ed25519 : Ed25519) (verifyingKey : VerifyingKey) (segments : List SealedSegment) (disk : Disk),
      disk.Stores segments →
      ((∃ chain, fold segments = .ok chain) ↔ verifyChain ⟨segments⟩ = .ok ()) ∧
      (verifyChain ⟨segments⟩ = .ok () ↔
        recoverSealedChain codec ed25519 disk (disk.chainHead.getD 0) verifyingKey = .ok ()) := by
  intro agree
  have walked : verifyChain ⟨[forgedSegment]⟩ = .ok () := rfl
  have recovered := (agree sealCodec sealEd25519 sealKey [forgedSegment] (sealedDisk forgedSegment)
    (sealedDisk_stores forgedSegment)).2.mp walked
  have stopped : recoverSealedChain sealCodec sealEd25519 (sealedDisk forgedSegment) 1 sealKey ≠ .ok () := by
    decide +kernel
  exact stopped recovered

end SegmentChain

end Aios.Evidence
