import Aios.Action.Envelope
import Aios.Evidence.Redaction

/-! # Receipts

The embedding of `receipt.rs`: the sealed envelope, its builder, the signature over everything but the signature,
and the two hashes a chain rests on. The ids and clock readings a seal takes are its arguments.
-/

namespace Aios.Evidence

open Aios.Rust
open Aios.Action (ActionId)

abbrev EvidenceReceiptId := String

/-- `EvidenceReceiptId::new`, from the text of the fresh ULID. -/
def EvidenceReceiptId.new (ulid : String) : EvidenceReceiptId := "evr_" ++ ulid

/-- What one seal reads: a fresh ULID and the clock. -/
structure Stamp where
  ulid : String
  recordedAt : DateTime
deriving DecidableEq

structure EvidenceReceipt where
  receiptId : EvidenceReceiptId
  recordedAt : DateTime
  recordType : RecordType
  retentionClass : RetentionClass
  subjectCanonicalId : String
  actionId : Option ActionId
  previousReceiptHash : Option String
  contentHash : String
  payload : Json
  redactionProfile : RedactionProfile
  signature : Option String

/-! ## Serialized forms -/

/-- `Option<String>`, which serializes as the text or as null. -/
def textOrNull : Option String → Json
  | some text => .string text
  | none => .null

/-- A field under `skip_serializing_if = "Option::is_none"`. -/
def fieldOrSkip (name : String) : Option String → List (String × Json)
  | some text => [(name, .string text)]
  | none => []

instance : Serialize EvidenceReceipt where
  toValue codec self := .object (
    [("receipt_id", .string self.receiptId),
     ("recorded_at", .string (codec.serializeTime self.recordedAt)),
     ("record_type", .string self.recordType.asWireStr),
     ("retention_class", .string self.retentionClass.asWireStr),
     ("subject_canonical_id", .string self.subjectCanonicalId),
     ("action_id", textOrNull self.actionId),
     ("previous_receipt_hash", textOrNull self.previousReceiptHash),
     ("content_hash", .string self.contentHash),
     ("payload", self.payload),
     ("redaction_profile", .string self.redactionProfile.asWireStr)] ++
    fieldOrSkip "signature" self.signature)

/-- The receipt without its signature. -/
structure ReceiptForSigning where
  receiptId : EvidenceReceiptId
  recordedAt : DateTime
  recordType : RecordType
  retentionClass : RetentionClass
  subjectCanonicalId : String
  actionId : Option ActionId
  previousReceiptHash : Option String
  contentHash : String
  payload : Json
  redactionProfile : RedactionProfile

instance : Serialize ReceiptForSigning where
  toValue codec self := .object (
    [("receipt_id", .string self.receiptId),
     ("recorded_at", .string (codec.serializeTime self.recordedAt)),
     ("record_type", .string self.recordType.asWireStr),
     ("retention_class", .string self.retentionClass.asWireStr),
     ("subject_canonical_id", .string self.subjectCanonicalId)] ++
    fieldOrSkip "action_id" self.actionId ++
    fieldOrSkip "previous_receipt_hash" self.previousReceiptHash ++
    [("content_hash", .string self.contentHash),
     ("payload", self.payload),
     ("redaction_profile", .string self.redactionProfile.asWireStr)])

/-- `ReceiptForSigning::from`. -/
def EvidenceReceipt.forSigning (self : EvidenceReceipt) : ReceiptForSigning where
  receiptId := self.receiptId
  recordedAt := self.recordedAt
  recordType := self.recordType
  retentionClass := self.retentionClass
  subjectCanonicalId := self.subjectCanonicalId
  actionId := self.actionId
  previousReceiptHash := self.previousReceiptHash
  contentHash := self.contentHash
  payload := self.payload
  redactionProfile := self.redactionProfile

theorem textOrNull_injective : Function.Injective textOrNull := by
  intro first second same
  cases first <;> cases second <;> simp_all [textOrNull]

theorem fieldOrSkip_injective (name : String) : Function.Injective (fieldOrSkip name) := by
  intro first second same
  cases first <;> cases second <;> simp_all [fieldOrSkip]

/-- The times of two receipts are the same if chrono writes them the same. -/
def EvidenceReceipt.TimesTold (codec : Codec) (first second : EvidenceReceipt) : Prop :=
  codec.serializeTime first.recordedAt = codec.serializeTime second.recordedAt → first.recordedAt = second.recordedAt

/-- The serialized form of a receipt holds every field of it, as far as the form of an instant holds the
instant. -/
theorem EvidenceReceipt.eq_of_toValue_eq {codec : Codec} {first second : EvidenceReceipt}
    (times : first.TimesTold codec second)
    (same : Serialize.toValue codec first = Serialize.toValue codec second) : first = second := by
  have fields := Json.object.inj same
  obtain ⟨front, back⟩ := List.append_inj fields rfl
  simp only [List.cons.injEq, Prod.mk.injEq, Json.string.injEq, true_and, and_true] at front
  obtain ⟨receiptId, recordedAt, recordType, retentionClass, subject, actionId, previous, contentHash, payload,
    profile⟩ :=
    front
  have recordedAt' := times recordedAt
  have recordType' := RecordType.asWireStr_injective recordType
  have retentionClass' := RetentionClass.asWireStr_injective retentionClass
  have actionId' := textOrNull_injective actionId
  have previous' := textOrNull_injective previous
  have profile' := RedactionProfile.asWireStr_injective profile
  have signature := fieldOrSkip_injective "signature" back
  cases first
  cases second
  simp_all

/-- The same for the serialized forms of two lists. -/
theorem EvidenceReceipt.eq_of_toValues_eq {codec : Codec} {first second : List EvidenceReceipt}
    (times : ∀ receipt ∈ first, ∀ other ∈ second, receipt.TimesTold codec other)
    (same : first.map (Serialize.toValue codec) = second.map (Serialize.toValue codec)) : first = second := by
  induction first generalizing second with
  | nil => exact (List.map_eq_nil_iff.mp same.symm).symm
  | cons receipt rest ih =>
    cases second with
    | nil => cases same
    | cons other others =>
      obtain ⟨head, tail⟩ := List.cons.inj same
      rw [eq_of_toValue_eq (times receipt List.mem_cons_self other List.mem_cons_self) head,
        ih (fun receipt member other member' =>
          times receipt (List.mem_cons_of_mem _ member) other (List.mem_cons_of_mem _ member')) tail]

/-! ## Hashes and signatures -/

namespace EvidenceReceipt

variable (codec : Codec) (ed25519 : Ed25519)

variable (self : EvidenceReceipt)

def signingDigest : Except EvidenceError String := do
  let canonical ← jcsCanonicalize codec self.forSigning
  pure (blake3Hash codec canonical)

def verifySignature (verifyingKey : VerifyingKey) : Except EvidenceError Unit := do
  let hexSig ← match self.signature with
    | some signature => .ok signature
    | none => .error .signatureMissing
  let signature ← decodeSignatureHex hexSig
  let digestHex ← self.signingDigest codec
  if ed25519.verify verifyingKey digestHex signature then .ok () else .error .signatureMismatch

def verifyContentHash : Except EvidenceError String := do
  let canonical ← jcsCanonicalize codec self.payload
  let computed := blake3Hash codec canonical
  if computed = self.contentHash then .ok computed else .error (.hashMismatch self.contentHash computed)

/-- The hash the next receipt links to. -/
def linkHash : Except EvidenceError String := do
  let canonical ← jcsCanonicalize codec self
  pure (blake3Truncated codec canonical)

theorem linkHash_eq_ok_iff {codec : Codec} {self : EvidenceReceipt} {link : String} :
    self.linkHash codec = .ok link ↔
      ∃ canonical, codec.jcs (Serialize.toValue codec self) = .ok canonical ∧
        link = blake3Truncated codec canonical := by
  simp only [linkHash, Fallible.bind_eq_ok_iff, Fallible.pure_eq_ok_iff, jcsCanonicalize_eq_ok_iff]
  simp only [eq_comm]

end EvidenceReceipt

/-! ## Building and sealing -/

structure ReceiptBuilder where
  recordType : RecordType
  retentionClass : RetentionClass
  subjectCanonicalId : String
  actionId : Option ActionId := none
  payload : Json := .null
  redactionProfile : RedactionProfile := .default

namespace ReceiptBuilder

variable (codec : Codec) (ed25519 : Ed25519)

variable (self : ReceiptBuilder)

/-- Step 1 of a seal. -/
def checkSubject : Except EvidenceError Unit :=
  if isBlank self.subjectCanonicalId then
    .error (.invalidSubject "subject_canonical_id is empty or whitespace-only")
  else .ok ()

def sealInner (previous : Option EvidenceReceipt) (signature : Option String) (stamp : Stamp) :
    Except EvidenceError EvidenceReceipt := do
  self.checkSubject
  let redactedPayload ← applyRedaction codec self.redactionProfile self.recordType self.payload
  let canonicalPayload ← jcsCanonicalize codec redactedPayload
  let previousReceiptHash ← previous.mapM (EvidenceReceipt.linkHash codec)
  pure {
    receiptId := .new stamp.ulid
    recordedAt := stamp.recordedAt
    recordType := self.recordType
    retentionClass := self.retentionClass
    subjectCanonicalId := self.subjectCanonicalId
    actionId := self.actionId
    previousReceiptHash
    contentHash := blake3Hash codec canonicalPayload
    payload := redactedPayload
    redactionProfile := self.redactionProfile
    signature }

def sealSigned (previous : Option EvidenceReceipt) (signingKey : SigningKey) (stamp : Stamp) :
    Except EvidenceError EvidenceReceipt := do
  let receipt ← self.sealInner codec previous none stamp
  let digestHex ← receipt.signingDigest codec
  pure { receipt with signature := some (encodeSignatureHex (ed25519.sign signingKey digestHex)) }

end ReceiptBuilder

variable {codec : Codec} {self : ReceiptBuilder} {previous : Option EvidenceReceipt} {stamp : Stamp}
  {receipt : EvidenceReceipt}

def ReceiptBuilder.seal (codec : Codec) (self : ReceiptBuilder) (previous : Option EvidenceReceipt) (stamp : Stamp) :
    Except EvidenceError EvidenceReceipt := self.sealInner codec previous none stamp

/-- What a seal returns: the builder's fields, with the redacted payload, its hash and the link. -/
structure ReceiptBuilder.Sealed (codec : Codec) (builder : ReceiptBuilder) (previous : Option EvidenceReceipt)
    (stamp : Stamp) (receipt : EvidenceReceipt) : Prop where
  subject : isBlank builder.subjectCanonicalId = false
  receiptId : receipt.receiptId = .new stamp.ulid
  recordedAt : receipt.recordedAt = stamp.recordedAt
  recordType : receipt.recordType = builder.recordType
  retentionClass : receipt.retentionClass = builder.retentionClass
  subjectCanonicalId : receipt.subjectCanonicalId = builder.subjectCanonicalId
  actionId : receipt.actionId = builder.actionId
  redactionProfile : receipt.redactionProfile = builder.redactionProfile
  payload : applyRedaction codec builder.redactionProfile builder.recordType builder.payload = .ok receipt.payload
  contentHash : receipt.verifyContentHash codec = .ok receipt.contentHash
  link : previous.mapM (EvidenceReceipt.linkHash codec) = .ok receipt.previousReceiptHash

theorem ReceiptBuilder.sealInner_eq_ok {signature : Option String}
    (returned : self.sealInner codec previous signature stamp = .ok receipt) :
    self.Sealed codec previous stamp receipt ∧ receipt.signature = signature := by
  simp only [sealInner, checkSubject, Fallible.guard_eq_ok_iff, and_true,
    Fallible.bind_eq_ok_iff, Fallible.pure_eq_ok_iff] at returned
  obtain ⟨-, subject, payload, redacted, canonical, hashed, link, linked, rfl⟩ := returned
  refine ⟨⟨by simpa using subject, rfl, rfl, rfl, rfl, rfl, rfl, rfl, redacted, ?_, linked⟩, rfl⟩
  rw [EvidenceReceipt.verifyContentHash, hashed]
  exact if_pos rfl

theorem ReceiptBuilder.sealSigned_eq_ok {ed25519 : Ed25519} {signingKey : SigningKey}
    (returned : self.sealSigned codec ed25519 previous signingKey stamp = .ok receipt) :
    self.Sealed codec previous stamp receipt ∧
      receipt.verifySignature codec ed25519 (ed25519.verifyingKey signingKey) = .ok () := by
  simp only [sealSigned, Fallible.bind_eq_ok_iff, Fallible.pure_eq_ok_iff] at returned
  obtain ⟨unsigned, made, digest, hashed, rfl⟩ := returned
  obtain ⟨⟨subject, receiptId, recordedAt, recordType, retention, id, actionId, profile, payload, content, link⟩, -⟩ :=
    sealInner_eq_ok made
  refine ⟨⟨subject, receiptId, recordedAt, recordType, retention, id, actionId, profile, payload, content, link⟩, ?_⟩
  have decoded : decodeSignatureHex (encodeSignatureHex (ed25519.sign signingKey digest)) =
      .ok (ed25519.sign signingKey digest) := decodeHex_encode _ _ (ed25519.sign_length signingKey digest)
  have digested : EvidenceReceipt.signingDigest codec
      { unsigned with signature := some (encodeSignatureHex (ed25519.sign signingKey digest)) } = .ok digest := hashed
  simp only [EvidenceReceipt.verifySignature, digested, decoded, bind, Except.bind]
  rw [if_pos (ed25519.verify_sign signingKey digest)]

end Aios.Evidence
