import Aios.Distribution.TrustChain
import Aios.Distribution.Version

/-! # Package manifests

The embedding of `manifest.rs`, `canonical.rs` and `manifest_pipeline.rs`: the fields of a manifest, their
validation, and the verification of a manifest against the content that was fetched. The hash over the
canonical projection (`serde_json` and BLAKE3) is a parameter.
-/

namespace Aios.Distribution

open Aios.Rust

inductive RepositoryKind where
  | aiosRootRepo
  | aiosVerifiedRepo
  | aiosCommunityRepo
  | aiosRecoveryRepo
  | externalBridge
deriving DecidableEq, Repr

inductive UpdateChannel where
  | stable
  | beta
  | recoveryCritical
  | deprecatedRetention
deriving DecidableEq, Repr

inductive MirrorSemantic where
  | origin
  | cached
  | local
deriving DecidableEq, Repr

structure PackageManifest where
  packageId : String
  version : String
  kind : PackageKind
  publisherTrust : PublisherTrustLevel
  publisherRootId : PublisherRootId
  packageSigningKeyId : PackageSigningKeyId
  contentHash : String
  manifestCanonicalHash : String
  ed25519Signature : List UInt8
  installableScope : InstallScope
  requiredSandbox : String
  declaredCapabilities : List String
  networkManifest : String
  issuedAt : DateTime
  eolAt : Option DateTime
  channel : UpdateChannel
  originatingRepository : RepositoryKind
  mirrorUrl : String
  mirrorSemantic : MirrorSemantic
deriving DecidableEq

/-- The BLAKE3 hash of the JSON projection of a manifest, cut to 32 hexadecimal digits. -/
structure ManifestDigest where
  hash : PackageManifest → String

/-- The signature and the hash itself are left out of what is hashed. -/
def PackageManifest.canonicalHash (self : PackageManifest) (digest : ManifestDigest) : String :=
  digest.hash { self with ed25519Signature := [], manifestCanonicalHash := "" }

/-! ## Field validation -/

inductive ManifestField where
  | packageId
  | version
  | publisherRootId
  | packageSigningKeyId
  | contentHash
  | manifestCanonicalHash
  | installableScope
  | declaredCapabilities
  | issuedAt
  | channel
  | originatingRepository
deriving DecidableEq, Repr

abbrev Validation := Except (ManifestField × PackageVerificationResult) Unit

/-- One to `limit` lowercase letters, digits and hyphens. -/
def isSegment (limit : ℕ) (segment : String) : Bool :=
  !segment.isEmpty && segment.utf8ByteSize ≤ limit &&
    segment.toList.all fun c => (c.isLower || c.isDigit || c == '-')

/-- `<start><first>:<second>`, with the limits of the two segments. -/
def twoSegments (start : String) (firstLimit secondLimit : ℕ) (id : String) : Option (String × String) := do
  let rest ← stripPrefix start id
  let (first, second) ← splitOnce ':' rest.toList
  let first := String.ofList first
  let second := String.ofList second
  if isSegment firstLimit first && isSegment secondLimit second then some (first, second) else none

def validatePackageId (packageId publisherRootId : String) : Validation :=
  match twoSegments "pkg:" 64 128 packageId with
  | some (vendor, _) =>
    if vendor = (stripPrefix "pub:" publisherRootId).getD publisherRootId then .ok ()
    else .error (.packageId, .manifestForged)
  | none => .error (.packageId, .manifestForged)

def validatePublisherRootId (id : String) : Validation :=
  match stripPrefix "pub:" id with
  | some vendor => if isSegment 64 vendor then .ok () else .error (.publisherRootId, .trustChainBroken)
  | none => .error (.publisherRootId, .trustChainBroken)

def validatePackageSigningKeyId (id : String) : Validation :=
  match twoSegments "pks:" 64 64 id with
  | some _ => .ok ()
  | none => .error (.packageSigningKeyId, .trustChainBroken)

def validateInstallableScope : InstallScope → Validation
  | .systemOnly | .groupScoped | .either => .ok ()
  | .userScoped => .error (.installableScope, .manifestForged)

def validateRepositoryKindAdmission (kind : PackageKind) (repo : RepositoryKind) : Validation :=
  let needsPrivileged : Bool := match kind with
    | .kernelCandidate | .invariantBundle | .identityBundle | .capabilityCatalogDelta => true
    | _ => false
  if needsPrivileged && repo ≠ .aiosRootRepo && repo ≠ .aiosRecoveryRepo then
    .error (.originatingRepository, .repositoryKindMismatch)
  else .ok ()

def isNonNegativeInteger (s : List Char) : Bool := !s.isEmpty && s.all isAsciiDigit

def hasLeadingZero (s : List Char) : Bool := 1 < s.length && s.head? == some '0'

def isValidSemverIdentSegment (s : List Char) : Bool :=
  (s.splitOn '.').all fun part => !part.isEmpty && part.all fun c => (c.isAlpha || c.isDigit || c == '-')

/-- `splitn(3, '.')`, with an absent part read as empty. -/
def splitThree (numeric : List Char) : List Char × List Char × List Char :=
  match splitOnce '.' numeric with
  | none => (numeric, [], [])
  | some (major, rest) =>
    match splitOnce '.' rest with
    | none => (major, rest, [])
    | some (minor, patch) => (major, minor, patch)

/-- What stands before the mark, if what stands after it is well formed. -/
def withoutIdentifiers (mark : Char) (s : List Char) : Except (ManifestField × PackageVerificationResult) (List Char) :=
  match splitOnce mark s with
  | some (before, identifiers) =>
    if isValidSemverIdentSegment identifiers then .ok before else .error (.version, .manifestForged)
  | none => .ok s

def validateSemver (version : String) : Validation := do
  let core ← withoutIdentifiers '+' version.toList
  let numeric ← withoutIdentifiers '-' core
  let (major, minor, patch) := splitThree numeric
  if !(isNonNegativeInteger major && isNonNegativeInteger minor && isNonNegativeInteger patch) then
    .error (.version, .manifestForged)
  else if hasLeadingZero major || hasLeadingZero minor || hasLeadingZero patch then
    .error (.version, .manifestForged)
  else .ok ()

def is32LowerHex (s : String) : Bool :=
  s.utf8ByteSize = 32 && s.toList.all fun c => (c.isDigit || ('a' ≤ c && c ≤ 'f'))

def refuseIf (refused : Bool) (field : ManifestField) (result : PackageVerificationResult) : Validation :=
  if refused then .error (field, result) else .ok ()

/-- The field that fails first, with its result. -/
def validateFields (m : PackageManifest) (now : DateTime) (maxFutureDrift : ℤ) : Validation := do
  validatePackageId m.packageId m.publisherRootId.value
  validateSemver m.version
  validatePublisherRootId m.publisherRootId.value
  validatePackageSigningKeyId m.packageSigningKeyId.value
  refuseIf (!is32LowerHex m.contentHash) .contentHash .hashMismatch
  refuseIf (!is32LowerHex m.manifestCanonicalHash) .manifestCanonicalHash .manifestForged
  validateInstallableScope m.installableScope
  refuseIf (m.declaredCapabilities.isEmpty && m.kind ≠ .theme) .declaredCapabilities .bundleTampered
  refuseIf (now + maxFutureDrift < m.issuedAt) .issuedAt .manifestForged
  refuseIf (m.eolAt.any fun eol => eol ≤ m.issuedAt) .issuedAt .manifestForged
  refuseIf (m.channel = .recoveryCritical && m.originatingRepository ≠ .aiosRecoveryRepo) .channel .manifestForged
  validateRepositoryKindAdmission m.kind m.originatingRepository

/-- The result of a failed validation is a failure. -/
def Rejects {α : Type} (validation : Except (ManifestField × PackageVerificationResult) α) : Prop :=
  ∀ failure, validation = .error failure → failure.2.isSuccess = false

namespace Rejects

variable {α β : Type}

theorem ok (value : α) : Rejects (.ok value) := fun _ found => by cases found

theorem error {field : ManifestField} {result : PackageVerificationResult} (failed : result.isSuccess = false) :
    Rejects (α := α) (.error (field, result)) := by
  rintro failure ⟨rfl⟩
  exact failed

theorem bind {validation : Except (ManifestField × PackageVerificationResult) α}
    {next : α → Except (ManifestField × PackageVerificationResult) β} (rejects : Rejects validation)
    (rest : ∀ value, Rejects (next value)) : Rejects (validation >>= next) := by
  cases checked : validation with
  | ok value => exact rest value
  | error failure => exact fun _ found => rejects _ (checked.trans (congrArg _ (Except.error.inj found)))

theorem ite {condition : Prop} [Decidable condition] {yes no : Except (ManifestField × PackageVerificationResult) α}
    (rejects : Rejects yes) (rejects' : Rejects no) : Rejects (if condition then yes else no) := by
  split_ifs
  · exact rejects
  · exact rejects'

end Rejects

theorem validatePackageId_rejects (packageId publisherRootId : String) :
    Rejects (validatePackageId packageId publisherRootId) := by
  unfold validatePackageId
  split
  · exact .ite (.ok ()) (.error rfl)
  · exact .error rfl

theorem validatePublisherRootId_rejects (id : String) : Rejects (validatePublisherRootId id) := by
  unfold validatePublisherRootId
  split
  · exact .ite (.ok ()) (.error rfl)
  · exact .error rfl

theorem validatePackageSigningKeyId_rejects (id : String) : Rejects (validatePackageSigningKeyId id) := by
  unfold validatePackageSigningKeyId
  split
  · exact .ok ()
  · exact .error rfl

theorem validateInstallableScope_rejects (scope : InstallScope) : Rejects (validateInstallableScope scope) := by
  cases scope with
  | userScoped => exact .error rfl
  | _ => exact .ok ()

theorem withoutIdentifiers_rejects (mark : Char) (s : List Char) : Rejects (withoutIdentifiers mark s) := by
  unfold withoutIdentifiers
  split
  · exact .ite (.ok _) (.error rfl)
  · exact .ok _

theorem validateSemver_rejects (version : String) : Rejects (validateSemver version) := by
  unfold validateSemver
  apply Rejects.bind (withoutIdentifiers_rejects '+' _)
  intro core
  apply Rejects.bind (withoutIdentifiers_rejects '-' core)
  intro numeric
  exact .ite (.error rfl) (.ite (.error rfl) (.ok ()))

theorem validateRepositoryKindAdmission_rejects (kind : PackageKind) (repo : RepositoryKind) :
    Rejects (validateRepositoryKindAdmission kind repo) :=
  .ite (.error rfl) (.ok ())

theorem refuseIf_rejects {refused : Bool} {field : ManifestField} {result : PackageVerificationResult}
    (failed : result.isSuccess = false) : Rejects (refuseIf refused field result) :=
  .ite (.error failed) (.ok ())

/-- No failed validation is reported as a verified package. -/
theorem validateFields_rejects (m : PackageManifest) (now : DateTime) (maxFutureDrift : ℤ) :
    Rejects (validateFields m now maxFutureDrift) := by
  unfold validateFields
  apply Rejects.bind (validatePackageId_rejects _ _)
  intro _
  apply Rejects.bind (validateSemver_rejects _)
  intro _
  apply Rejects.bind (validatePublisherRootId_rejects _)
  intro _
  apply Rejects.bind (validatePackageSigningKeyId_rejects _)
  intro _
  apply Rejects.bind (refuseIf_rejects rfl)
  intro _
  apply Rejects.bind (refuseIf_rejects rfl)
  intro _
  apply Rejects.bind (validateInstallableScope_rejects _)
  intro _
  apply Rejects.bind (refuseIf_rejects rfl)
  intro _
  apply Rejects.bind (refuseIf_rejects rfl)
  intro _
  apply Rejects.bind (refuseIf_rejects rfl)
  intro _
  apply Rejects.bind (refuseIf_rejects rfl)
  intro _
  exact validateRepositoryKindAdmission_rejects _ _

/-! ## Verification -/

/-- Everything `verify_manifest` needs beyond the manifest and the fetched hash. -/
structure ChainContext where
  crypto : Ed25519
  clock : Rfc3339
  digest : ManifestDigest
  verifier : TrustChainVerifier
  publisherRootLinkSig : LinkSignature
  signingKeyLinkSig : LinkSignature

def verifyManifest (context : ChainContext) (m : PackageManifest) (fetchedContentHash : String) (now : DateTime) :
    PackageVerificationResult :=
  match validateFields m now (seconds 300) with
  | .error (_, result) => result
  | .ok () =>
    if m.canonicalHash context.digest ≠ m.manifestCanonicalHash then .manifestForged
    else if fetchedContentHash ≠ m.contentHash then .hashMismatch
    else
      context.verifier.verify context.crypto context.clock
        { payload := utf8 m.manifestCanonicalHash
          signature := m.ed25519Signature
          packageSigningKeyId := m.packageSigningKeyId
          publisherRootId := m.publisherRootId }
        context.publisherRootLinkSig context.signingKeyLinkSig m.issuedAt now

end Aios.Distribution
