import Aios.Evidence.ReceiptChain

/-! # Segments and their chain

The embedding of `segment.rs`: an open list of receipts, its seal, and what a sealed segment verifies. A seal adds a
terminal receipt, and hashes and signs a closed set of metadata. The clock readings and the fresh id it takes are
arguments.
-/

namespace Aios.Evidence

open Aios.Rust

def GENESIS_PREVIOUS_SEGMENT_SEAL_HASH : String := "0000000000000000000000000000000000000000000000000000000000000000"

abbrev SegmentId := String

namespace SegmentId

def PREFIX : String := "seg_"

def BODY_LEN : ℕ := 32

def fromContent (codec : Codec) (seed : String) : SegmentId := PREFIX ++ blake3Truncated codec seed

def parse (input : String) : Except EvidenceError SegmentId :=
  if input = "" then .error (.invalidReceiptId "segment id is empty")
  else if startsWith input "seg:" then
    .error (.invalidReceiptId ("colon-separated segment id form is forbidden: `" ++ input ++ "`"))
  else if !startsWith input PREFIX then
    .error (.invalidReceiptId ("expected `seg_` prefix, got `" ++ input ++ "`"))
  else
    let body := String.ofList (input.toList.drop PREFIX.toList.length)
    let length := (Hex.bytesOf body).length
    if length ≠ BODY_LEN then
      .error (.invalidReceiptId ("expected " ++ toString BODY_LEN ++ "-char lowercase hex body, got " ++
        toString length ++ " chars"))
    else if !body.toList.all (fun c => c.isDigit || ('a' ≤ c && c ≤ 'f')) then
      .error (.invalidReceiptId ("segment id body must be lowercase hex [0-9a-f] only: `" ++ body ++ "`"))
    else .ok input

/-- An id is read back as it was minted. -/
theorem parse_fromContent (codec : Codec) (seed : String) :
    parse (fromContent codec seed) = .ok (fromContent codec seed) := by
  have hexText : IsHex 32 (blake3Truncated codec seed) := blake3Truncated_hex seed
  obtain ⟨length, digits⟩ := hexText
  have chars : (fromContent codec seed).toList = 's' :: 'e' :: 'g' :: '_' :: (blake3Truncated codec seed).toList := by
    rw [fromContent, String.toList_append]
    rfl
  have all : hexDigits.all (fun c => c.utf8Size == 1 && (c.isDigit || ('a' ≤ c && c ≤ 'f'))) = true := by decide
  have ascii : ∀ c ∈ hexDigits, c.utf8Size = 1 ∧ (c.isDigit || ('a' ≤ c && c ≤ 'f')) = true := by
    intro c member
    have tested := List.all_eq_true.mp all c member
    rw [Bool.and_eq_true] at tested
    exact ⟨beq_iff_eq.mp tested.1, tested.2⟩
  have filled : fromContent codec seed ≠ "" := by
    intro empty
    rw [empty] at chars
    cases chars
  have body : String.ofList ((fromContent codec seed).toList.drop PREFIX.toList.length) =
      blake3Truncated codec seed := by
    rw [chars]
    exact String.ofList_toList
  have sized : (Hex.bytesOf (blake3Truncated codec seed)).length = BODY_LEN := by
    rw [Hex.bytesOf_length_of_ascii fun c member => (ascii c (digits c member)).1, length, BODY_LEN]
  have hex : (blake3Truncated codec seed).toList.all (fun c => c.isDigit || ('a' ≤ c && c ≤ 'f')) = true :=
    List.all_eq_true.mpr fun c member => (ascii c (digits c member)).2
  have noColon : startsWith (fromContent codec seed) "seg:" = false := by
    rw [startsWith, chars]
    rfl
  have marked : startsWith (fromContent codec seed) PREFIX = true := by
    rw [startsWith, chars]
    rfl
  simp [parse, filled, noColon, marked, body, sized, hex]

end SegmentId

/-! ## Open segments -/

structure Segment where
  retentionClass : RetentionClass
  receipts : List EvidenceReceipt
  isSealed : Bool

namespace Segment

def new (retentionClass : RetentionClass) : Segment := ⟨retentionClass, [], false⟩

def append (receipt : EvidenceReceipt) : EStateM EvidenceError Segment Unit := do
  let self ← get
  if self.isSealed then throw .segmentAlreadySealed
  else set { self with receipts := self.receipts ++ [receipt] }

/-- A new segment to which the receipts have been appended. -/
def ofReceipts (retentionClass : RetentionClass) (receipts : List EvidenceReceipt) : Except EvidenceError Segment :=
  Linked.collect append (new retentionClass) receipts

theorem ofReceipts_eq (retentionClass : RetentionClass) (receipts : List EvidenceReceipt) :
    ofReceipts retentionClass receipts = .ok ⟨retentionClass, receipts, false⟩ := by
  have loop (front : List EvidenceReceipt) :
      (forM receipts append : EStateM EvidenceError Segment PUnit) ⟨retentionClass, front, false⟩ =
        .ok ⟨⟩ ⟨retentionClass, front ++ receipts, false⟩ := by
    induction receipts generalizing front with
    | nil =>
      rw [List.append_nil]
      rfl
    | cons receipt rest ih =>
      have next := ih (front ++ [receipt])
      rw [List.append_assoc] at next
      exact next
  rw [ofReceipts, Linked.collect_eq_ok_iff]
  exact loop []

end Segment

/-! ## Sealed segments -/

structure SealedSegment where
  segmentId : SegmentId
  retentionClass : RetentionClass
  receipts : List EvidenceReceipt
  segmentSealHash : String
  segmentSignature : String
  previousSegmentId : Option SegmentId
  previousSegmentSealHash : Option String
  sealedAt : DateTime

structure SegmentSealedPayload where
  segmentId : String
  retentionClass : String
  receiptCount : ℕ
  previousSegmentId : Option String
  previousSegmentSealHash : Option String

/-- `serde_json::to_value`, whose map sorts its keys. -/
def SegmentSealedPayload.toJson (self : SegmentSealedPayload) : Json := .object (
  fieldOrSkip "previous_segment_id" self.previousSegmentId ++
  fieldOrSkip "previous_segment_seal_hash" self.previousSegmentSealHash ++
  [("receipt_count", .number (toString self.receiptCount)),
   ("retention_class", .string self.retentionClass),
   ("segment_id", .string self.segmentId)])

structure SegmentSealMetadata where
  segmentId : String
  retentionClass : String
  receiptCount : ℕ
  previousSegmentSealHash : String
  allReceiptsCanonicalHash : String
deriving DecidableEq

instance : Serialize SegmentSealMetadata where
  toValue _ self := .object
    [("segment_id", .string self.segmentId),
     ("retention_class", .string self.retentionClass),
     ("receipt_count", .number (toString self.receiptCount)),
     ("previous_segment_seal_hash", .string self.previousSegmentSealHash),
     ("all_receipts_canonical_hash", .string self.allReceiptsCanonicalHash)]

/-- `chrono::Duration::days`. -/
def days (count : ℕ) : ℤ := seconds (count * 86400)

namespace SealedSegment

variable (codec : Codec) (ed25519 : Ed25519)

variable (self : SealedSegment)

def receiptCount : ℕ := self.receipts.length

def receiptsExcludingTerminal : List EvidenceReceipt :=
  match self.receipts.getLast? with
  | some last => if last.recordType = .segmentSealed then self.receipts.dropLast else self.receipts
  | none => self.receipts

def recomputeAllReceiptsCanonicalHash : Except EvidenceError String := do
  let canonical ← jcsCanonicalize codec self.receiptsExcludingTerminal
  pure (blake3Hash codec canonical)

/-- The metadata `verify_seal` reconstructs. A list of receipts is counted in 64 bits without loss. -/
def sealMetadata (allReceiptsCanonicalHash : String) : SegmentSealMetadata where
  segmentId := self.segmentId
  retentionClass := self.retentionClass.asWireStr
  receiptCount := self.receipts.length
  previousSegmentSealHash := self.previousSegmentSealHash.getD GENESIS_PREVIOUS_SEGMENT_SEAL_HASH
  allReceiptsCanonicalHash

def verifySeal (verifyingKey : VerifyingKey) : Except EvidenceError Unit := do
  let allReceiptsCanonicalHash ← self.recomputeAllReceiptsCanonicalHash codec
  let canonicalMeta ← jcsCanonicalize codec (self.sealMetadata allReceiptsCanonicalHash)
  let computedSealHash := blake3Hash codec canonicalMeta
  if computedSealHash ≠ self.segmentSealHash then
    .error (.segmentSealMismatch self.segmentSealHash computedSealHash)
  else do
    let signature ← decodeSignatureHex64 self.segmentSignature
    if ed25519.verify verifyingKey self.segmentSealHash signature then .ok () else .error .segmentSignatureMismatch

def verifyFull (verifyingKey : VerifyingKey) : Except EvidenceError Unit := do
  forM self.receipts fun receipt => receipt.verifySignature codec ed25519 verifyingKey
  self.verifySeal codec ed25519 verifyingKey

end SealedSegment

/-! ## Sealing -/

namespace Segment

variable (codec : Codec) (ed25519 : Ed25519)

/-- Both links or neither. -/
def checkLinkage (previousSegmentId : Option SegmentId) (previousSegmentSealHash : Option String) :
    Except EvidenceError Unit :=
  match previousSegmentId, previousSegmentSealHash with
  | some _, some _ | none, none => .ok ()
  | some id, none => .error (.segmentChainBroken 0 "<missing>" id)
  | none, some hash => .error (.segmentChainBroken 0 hash "<missing>")

def terminalBuilder (self : Segment) (segmentId : SegmentId) (previousSegmentId : Option SegmentId)
    (previousSegmentSealHash : Option String) : ReceiptBuilder where
  recordType := .segmentSealed
  retentionClass := .forever
  subjectCanonicalId := "_system:service:evidence-segment-signer"
  payload := SegmentSealedPayload.toJson {
    segmentId
    retentionClass := self.retentionClass.asWireStr
    receiptCount := min self.receipts.length U32_MAX
    previousSegmentId
    previousSegmentSealHash }

end Segment

section

variable {previousSegmentId : Option SegmentId} {previousSegmentSealHash : Option String}

def Segment.seal (codec : Codec) (ed25519 : Ed25519) (self : Segment) (previousSegmentId : Option SegmentId)
    (previousSegmentSealHash : Option String) (signingKey : SigningKey) (sealedAt : DateTime) (stamp : Stamp) :
    Except EvidenceError SealedSegment :=
  match self.receipts with
  | [] => .error .emptySegment
  | genesisReceipt :: _ => do
    Segment.checkLinkage previousSegmentId previousSegmentSealHash
    let canonicalReceipts ← jcsCanonicalize codec self.receipts
    let allReceiptsCanonicalHash := blake3Hash codec canonicalReceipts
    let segmentId := SegmentId.fromContent codec (genesisReceipt.receiptId ++ codec.toRfc3339 sealedAt)
    let terminalReceipt ← (self.terminalBuilder segmentId previousSegmentId previousSegmentSealHash).sealSigned codec
      ed25519 self.receipts.getLast? signingKey stamp
    let receipts := self.receipts ++ [terminalReceipt]
    let canonicalMeta ← jcsCanonicalize codec ({
      segmentId
      retentionClass := self.retentionClass.asWireStr
      receiptCount := receipts.length
      previousSegmentSealHash := previousSegmentSealHash.getD GENESIS_PREVIOUS_SEGMENT_SEAL_HASH
      allReceiptsCanonicalHash } : SegmentSealMetadata)
    let segmentSealHash := blake3Hash codec canonicalMeta
    pure {
      segmentId
      retentionClass := self.retentionClass
      receipts
      segmentSealHash
      segmentSignature := encodeSignatureHex64 (ed25519.sign signingKey segmentSealHash)
      previousSegmentId
      previousSegmentSealHash
      sealedAt }

/-! ## What a seal returns -/

/-- The last receipt of a sealed segment: the signed witness of the seal. -/
structure EvidenceReceipt.IsTerminalOf (codec : Codec) (ed25519 : Ed25519) (signingKey : SigningKey) (stamp : Stamp)
    (receipts : List EvidenceReceipt) (terminal : EvidenceReceipt) : Prop where
  receiptId : terminal.receiptId = .new stamp.ulid
  recordType : terminal.recordType = .segmentSealed
  retentionClass : terminal.retentionClass = .forever
  fits : EvidenceReceipt.FitsChain codec receipts terminal
  signed : terminal.verifySignature codec ed25519 (ed25519.verifyingKey signingKey) = .ok ()

structure Segment.SealsTo (codec : Codec) (ed25519 : Ed25519) (segment : Segment) (previousSegmentId : Option SegmentId)
    (previousSegmentSealHash : Option String) (signingKey : SigningKey) (sealedAt : DateTime) (stamp : Stamp)
    (result : SealedSegment) : Prop where
  segmentId : ∃ first rest, segment.receipts = first :: rest ∧
    result.segmentId = SegmentId.fromContent codec (first.receiptId ++ codec.toRfc3339 sealedAt)
  retentionClass : result.retentionClass = segment.retentionClass
  receipts : ∃ terminal, result.receipts = segment.receipts ++ [terminal] ∧
    terminal.IsTerminalOf codec ed25519 signingKey stamp segment.receipts
  linkage : previousSegmentId.isSome = previousSegmentSealHash.isSome
  previousSegmentId : result.previousSegmentId = previousSegmentId
  previousSegmentSealHash : result.previousSegmentSealHash = previousSegmentSealHash
  sealedAt : result.sealedAt = sealedAt
  verifies : result.verifySeal codec ed25519 (ed25519.verifyingKey signingKey) = .ok ()

theorem SealedSegment.receiptsExcludingTerminal_of_terminal {self : SealedSegment} {receipts : List EvidenceReceipt}
    {terminal : EvidenceReceipt} (listed : self.receipts = receipts ++ [terminal])
    (marked : terminal.recordType = .segmentSealed) : self.receiptsExcludingTerminal = receipts := by
  rw [receiptsExcludingTerminal, listed, List.getLast?_concat]
  simp [marked]

theorem Segment.checkLinkage_eq_ok_iff :
    Segment.checkLinkage previousSegmentId previousSegmentSealHash = .ok () ↔
      previousSegmentId.isSome = previousSegmentSealHash.isSome := by
  cases previousSegmentId <;> cases previousSegmentSealHash <;> simp [checkLinkage]

theorem Segment.seal_eq_ok {codec : Codec} {ed25519 : Ed25519} {self : Segment} {previousSegmentId : Option SegmentId}
    {previousSegmentSealHash : Option String} {signingKey : SigningKey} {sealedAt : DateTime} {stamp : Stamp}
    {result : SealedSegment}
    (returned : Segment.seal codec ed25519 self previousSegmentId previousSegmentSealHash signingKey sealedAt stamp =
      .ok result) :
    self.SealsTo codec ed25519 previousSegmentId previousSegmentSealHash signingKey sealedAt stamp result := by
  cases listed : self.receipts with
  | nil => simp [Segment.seal, listed] at returned
  | cons first rest =>
    simp only [Segment.seal, listed, Fallible.bind_eq_ok_iff, Fallible.pure_eq_ok_iff] at returned
    obtain ⟨_, linked, canonical, written, terminal, made, canonicalMeta, writtenMeta, rfl⟩ := returned
    rw [← listed] at made written
    obtain ⟨sealed, signed⟩ := ReceiptBuilder.sealSigned_eq_ok made
    have ended : terminal.IsTerminalOf codec ed25519 signingKey stamp self.receipts :=
      ⟨sealed.receiptId, sealed.recordType, sealed.retentionClass, EvidenceReceipt.fitsChain_of_sealed sealed, signed⟩
    refine ⟨⟨first, rest, listed, rfl⟩, rfl, ⟨terminal, by rw [listed], ended⟩,
      Segment.checkLinkage_eq_ok_iff.mp linked, rfl, rfl, rfl, ?_⟩
    have decoded (message : String) : decodeSignatureHex64 (encodeSignatureHex64 (ed25519.sign signingKey message)) =
        .ok (ed25519.sign signingKey message) := decodeHex_encode _ _ (ed25519.sign_length signingKey message)
    rw [SealedSegment.verifySeal, SealedSegment.recomputeAllReceiptsCanonicalHash,
      SealedSegment.receiptsExcludingTerminal_of_terminal rfl ended.recordType]
    simp only [← listed, written, SealedSegment.sealMetadata, bind, Except.bind, pure, Except.pure] at writtenMeta ⊢
    simp only [writtenMeta, ne_eq, not_true_eq_false, if_false, decoded, ed25519.verify_sign, if_true]

/-! ## The segment chain

The embedding of `segment_chain.rs`. An append checks both links of the new segment against the last one;
`verify_chain` walks all neighbours again. They ask the same of every segment but the first, where the walk also
takes the zeros for no link.
-/

/-- The segment names the one before it by its seal hash and its id. -/
def SealedSegment.LinksTo (prior self : SealedSegment) : Prop :=
  self.previousSegmentSealHash = some prior.segmentSealHash ∧ self.previousSegmentId = some prior.segmentId

structure SegmentChain where
  segments : List SealedSegment

end

namespace SegmentChain

variable {segment : SealedSegment} (index : ℕ) (self : SegmentChain)

def new : SegmentChain := ⟨[]⟩

/-- The checks of the two links of `curr`, at its position in the chain. -/
def checkLinks (prior curr : SealedSegment) : Except EvidenceError Unit :=
  match curr.previousSegmentSealHash with
  | none => .error (.segmentChainBroken index "<missing previous_segment_seal_hash>" prior.segmentSealHash)
  | some hash =>
    if hash ≠ prior.segmentSealHash then .error (.segmentChainBroken index hash prior.segmentSealHash)
    else match curr.previousSegmentId with
      | none => .error (.segmentChainBroken index "<missing previous_segment_id>" prior.segmentId)
      | some id =>
        if id ≠ prior.segmentId then .error (.segmentChainBroken index id prior.segmentId) else .ok ()

def genesisBroken (first : SealedSegment) : EvidenceError :=
  .segmentChainBroken 0 (first.previousSegmentSealHash.getD "<missing>")
    "<none — genesis segment must carry no previous link>"

/-- The checks of `append`, each of which fails or goes on to the push. -/
def checkAppend (segment : SealedSegment) : Except EvidenceError Unit :=
  match self.segments.getLast? with
  | none =>
    if segment.previousSegmentId.isSome || segment.previousSegmentSealHash.isSome then .error (genesisBroken segment)
    else .ok ()
  | some prior => checkLinks self.segments.length prior segment

def append (segment : SealedSegment) : EStateM EvidenceError SegmentChain Unit := do
  let self ← get
  match self.checkAppend segment with
  | .error failure => throw failure
  | .ok () => set (⟨self.segments ++ [segment]⟩ : SegmentChain)

def checkGenesis : Except EvidenceError Unit :=
  match self.segments.head? with
  | some first =>
    if first.previousSegmentId.isSome ||
        first.previousSegmentSealHash.any (· ≠ GENESIS_PREVIOUS_SEGMENT_SEAL_HASH) then
      .error (genesisBroken first)
    else .ok ()
  | none => .ok ()

def verifyChain : Except EvidenceError Unit := do
  self.checkGenesis
  Linked.walk (fun position prev curr => checkLinks (position + 1) prev curr) 0 self.segments

/-! ### What the checks accept -/

theorem checkLinks_eq_ok_iff (prior curr : SealedSegment) :
    checkLinks index prior curr = .ok () ↔ SealedSegment.LinksTo prior curr := by
  rw [checkLinks, SealedSegment.LinksTo]
  cases curr.previousSegmentSealHash with
  | none => simp
  | some hash =>
    rw [Fallible.check_eq_ok_iff]
    cases curr.previousSegmentId with
    | none => simp
    | some id => simp

/-- The first segment of a chain has no links. -/
def Opens (segment : SealedSegment) : Prop :=
  segment.previousSegmentId = none ∧ segment.previousSegmentSealHash = none

/-- The walk takes the zeros for no seal hash. -/
def OpensForWalk (segment : SealedSegment) : Prop :=
  segment.previousSegmentId = none ∧
    ∀ hash, segment.previousSegmentSealHash = some hash → hash = GENESIS_PREVIOUS_SEGMENT_SEAL_HASH

theorem checkAppend_eq_ok_iff {self : SegmentChain} :
    self.checkAppend segment = .ok () ↔ Linked.Fits Opens SealedSegment.LinksTo self.segments segment := by
  rw [checkAppend]
  cases ends : self.segments.getLast? with
  | none =>
    rw [Linked.Fits, ends, Fallible.guard_eq_ok_iff, Bool.or_eq_true, not_or]
    simp [Opens]
  | some prior => rw [Linked.fits_of_getLast? ends, checkLinks_eq_ok_iff]

/-- A segment fits the segments whose last one both of its links name. -/
theorem fits_iff {segments : List SealedSegment} :
    Linked.Fits Opens SealedSegment.LinksTo segments segment ↔
      segment.previousSegmentId = segments.getLast?.map SealedSegment.segmentId ∧
        segment.previousSegmentSealHash = segments.getLast?.map SealedSegment.segmentSealHash := by
  cases ends : segments.getLast? with
  | none =>
    rw [Linked.Fits, ends]
    exact Iff.rfl
  | some last =>
    rw [Linked.fits_of_getLast? ends]
    exact and_comm

theorem append_apply (segment : SealedSegment) :
    append segment self = match self.checkAppend segment with
      | .error failure => .error failure self
      | .ok () => .ok () ⟨self.segments ++ [segment]⟩ := by
  rw [append, Stateful.get_bind_apply]
  cases self.checkAppend segment <;> rfl

theorem append_appends : Linked.Appends Opens SealedSegment.LinksTo SegmentChain.segments append where
  accepts self segment := by
    rw [append_apply, ← checkAppend_eq_ok_iff]
    cases self.checkAppend segment <;> simp
  pushes self segment after returned := by
    rw [append_apply] at returned
    cases checked : self.checkAppend segment with
    | error failure =>
      rw [checked] at returned
      cases returned
    | ok value =>
      rw [checked] at returned
      cases returned
      rfl

theorem verifyChain_eq_ok_iff {self : SegmentChain} :
    self.verifyChain = .ok () ↔ Linked.Holds OpensForWalk SealedSegment.LinksTo self.segments := by
  have opens : self.checkGenesis = .ok () ↔ ∀ first ∈ self.segments.head?, OpensForWalk first := by
    rw [checkGenesis]
    cases self.segments.head? with
    | none => simp
    | some first =>
      rw [Fallible.guard_eq_ok_iff, Bool.or_eq_true, not_or]
      simp only [OpensForWalk, Option.mem_def, Option.some.injEq, forall_eq']
      cases first.previousSegmentSealHash <;> simp
  rw [verifyChain, Fallible.then_eq_ok_iff, opens, Linked.walk_eq_ok_iff fun _ => checkLinks_eq_ok_iff _]
  exact ⟨fun ⟨genesis, chain⟩ => ⟨genesis, chain⟩, fun ⟨genesis, chain⟩ => ⟨genesis, chain⟩⟩

end SegmentChain

end Aios.Evidence
