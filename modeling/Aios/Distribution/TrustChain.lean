import Aios.Distribution.Vocabulary
import Aios.Lib.Table
import Aios.Rust.Basic

/-! # The trust chain

The embedding of `trust_chain.rs`, `catalog.rs` and `verifier.rs`: the AIOS root signs publisher roots,
a publisher root signs package signing keys, and a signing key signs payloads. The verifier walks the
chain from the catalogs in a fixed order and answers with the first check that fails.

Ed25519 and the printing of instants by chrono are parameters.
-/

namespace Aios.Distribution

open Aios.Rust

/-- The UTF-8 bytes of a string. -/
def utf8 (text : String) : List UInt8 := text.toByteArray.data.toList

theorem utf8_injective : Function.Injective utf8 := by
  intro text other same
  apply String.toByteArray_inj.mp
  exact ByteArray.ext (Array.toList_inj.mp same)

theorem utf8_append (text other : String) : utf8 (text ++ other) = utf8 text ++ utf8 other := by
  rw [utf8, String.toByteArray_append, ByteArray.data_append, Array.toList_append]
  rfl

/-- `ed25519_dalek::VerifyingKey`. -/
abbrev VerifyingKey := { bytes : List UInt8 // bytes.length = 32 }

/-- `VerifyingKey::verify_strict`, on a message and a signature of 64 bytes. -/
structure Ed25519 where
  verifyStrict : VerifyingKey → List UInt8 → List UInt8 → Bool

/-- `DateTime::to_rfc3339` on a UTC instant, as its ASCII bytes: two instants are printed differently, and
on one line. -/
structure Rfc3339 where
  format : DateTime → List UInt8
  format_injective : Function.Injective format
  format_line : ∀ instant, 10 ∉ format instant

/-! ## Entries -/

structure AiosRootKey where
  publicKey : VerifyingKey

structure PublisherRoot where
  publisherRootId : PublisherRootId
  publicKey : VerifyingKey
  trustLevel : PublisherTrustLevel
  onboardingEvidencePointer : Option String
  activatedAt : DateTime
  retiredAt : Option DateTime
deriving DecidableEq

/-- Fields are set off by the byte 10, a line feed. -/
def PublisherRoot.canonicalEntryBytes (self : PublisherRoot) (clock : Rfc3339) : List UInt8 :=
  self.publicKey.val ++ 10 :: utf8 self.publisherRootId.value ++ 10 :: utf8 self.trustLevel.label ++
    10 :: clock.format self.activatedAt

structure PackageSigningKey where
  packageSigningKeyId : PackageSigningKeyId
  publicKey : VerifyingKey
  validFrom : DateTime
  validUntil : Option DateTime
  revokedAt : Option DateTime
deriving DecidableEq

def PackageSigningKey.canonicalEntryBytes (self : PackageSigningKey) (clock : Rfc3339) : List UInt8 :=
  self.publicKey.val ++ 10 :: utf8 self.packageSigningKeyId.value ++ 10 :: clock.format self.validFrom

structure LinkSignature where
  bytes : List UInt8

structure SignedPayload where
  payload : List UInt8
  signature : List UInt8
  packageSigningKeyId : PackageSigningKeyId
  publisherRootId : PublisherRootId

def MAX_CHAIN_DEPTH : ℕ := 3

def canonicalDepth : ℕ := 3

/-! ## Catalogs -/

structure PublisherCatalog where
  entries : List PublisherRoot

def PublisherCatalog.lookup (self : PublisherCatalog) (id : PublisherRootId) : Option PublisherRoot :=
  self.entries.find? fun entry => entry.publisherRootId = id

structure SigningKeyCatalog where
  vendor : String
  entries : List PackageSigningKey

def SigningKeyCatalog.lookup (self : SigningKeyCatalog) (id : PackageSigningKeyId) : Option PackageSigningKey :=
  self.entries.find? fun entry => entry.packageSigningKeyId = id

/-! ## The verifier -/

inductive PackageVerificationResult where
  | verifiedAiosRoot
  | verifiedPublisher
  | signatureFailed
  | trustChainBroken
  | trustChainTooDeep
  | publisherDeplatformed
  | hashMismatch
  | manifestForged
  | repositoryKindMismatch
  | capabilityLie
  | bundleTampered
deriving DecidableEq, Repr

def PackageVerificationResult.isSuccess : PackageVerificationResult → Bool
  | verifiedAiosRoot | verifiedPublisher => true
  | _ => false

structure TrustChainVerifier where
  aiosRoot : AiosRootKey
  publisherCatalog : PublisherCatalog
  signingCatalogs : Table String SigningKeyCatalog
  maxDepth : ℕ

/-- `Signature::from_slice` asks for 64 bytes. -/
def verifyEd25519 (crypto : Ed25519) (payload signatureBytes : List UInt8) (verifyingKey : VerifyingKey) : Bool :=
  signatureBytes.length == 64 && crypto.verifyStrict verifyingKey payload signatureBytes

/-- `str::strip_prefix`. -/
def stripPrefix (start text : String) : Option String :=
  if startsWith text start then some (String.ofList (text.toList.drop start.length)) else none

def vendorFromPublisherRootId (id : PublisherRootId) : String := (stripPrefix "pub:" id.value).getD id.value

def isBypass (aiosRootPubkey : VerifyingKey) (signingKey : PackageSigningKey) : Bool :=
  signingKey.publicKey == aiosRootPubkey

namespace TrustChainVerifier

def new (aiosRoot : AiosRootKey) (publisherCatalog : PublisherCatalog)
    (signingCatalogs : Table String SigningKeyCatalog) : TrustChainVerifier :=
  ⟨aiosRoot, publisherCatalog, signingCatalogs, MAX_CHAIN_DEPTH⟩

/-- Steps 6 to 12, on the two catalog entries. -/
def verifyEntries (self : TrustChainVerifier) (crypto : Ed25519) (clock : Rfc3339) (input : SignedPayload)
    (publisherRootLinkSig signingKeyLinkSig : LinkSignature) (issuedAt : DateTime)
    (publisherRoot : PublisherRoot) (signingKey : PackageSigningKey) : PackageVerificationResult :=
  if signingKey.revokedAt.any fun revokedAt => revokedAt ≤ issuedAt then .trustChainBroken
  else if !verifyEd25519 crypto (publisherRoot.canonicalEntryBytes clock) publisherRootLinkSig.bytes
      self.aiosRoot.publicKey then .signatureFailed
  else if !verifyEd25519 crypto (signingKey.canonicalEntryBytes clock) signingKeyLinkSig.bytes
      publisherRoot.publicKey then .signatureFailed
  else if !verifyEd25519 crypto input.payload input.signature signingKey.publicKey then .signatureFailed
  else if isBypass self.aiosRoot.publicKey signingKey then .trustChainBroken
  else if self.maxDepth < canonicalDepth then .trustChainTooDeep
  else if publisherRoot.trustLevel = .aiosRoot then .verifiedAiosRoot
  else .verifiedPublisher

def verify (self : TrustChainVerifier) (crypto : Ed25519) (clock : Rfc3339) (input : SignedPayload)
    (publisherRootLinkSig signingKeyLinkSig : LinkSignature) (issuedAt now : DateTime) :
    PackageVerificationResult :=
  match self.publisherCatalog.lookup input.publisherRootId with
  | none => .trustChainBroken
  | some publisherRoot =>
    if publisherRoot.retiredAt.any fun retiredAt => retiredAt ≤ now then .trustChainBroken
    else if publisherRoot.trustLevel = .deplatformed then .publisherDeplatformed
    else
      match self.signingCatalogs.lookup (vendorFromPublisherRootId input.publisherRootId) with
      | none => .trustChainBroken
      | some signingCatalog =>
        match signingCatalog.lookup input.packageSigningKeyId with
        | none => .trustChainBroken
        | some signingKey => self.verifyEntries crypto clock input publisherRootLinkSig signingKeyLinkSig issuedAt
            publisherRoot signingKey

end TrustChainVerifier

end Aios.Distribution
