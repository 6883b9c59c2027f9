import Aios.Distribution.InstallPipeline

/-! # Rotating and deplatforming publishers

The embedding of `rotation.rs`, `deplatform.rs` and of what they change in `catalog.rs`: a rotation
replaces the public key of a publisher, a deplatforming withdraws the publisher, and a health check
quarantines what it has installed.
-/

namespace Aios.Distribution

open Aios.Rust

section

variable {catalog : PublisherCatalog} {revokedKeys : List PackageSigningKeyId} {record : InstalledPackageRecord}
  (self : Signing)

/-- The signatures and the printing of instants that the events rest on, and which 32 bytes are a point
of the curve. -/
structure Signing where
  crypto : Ed25519
  clock : Rfc3339
  isPoint : VerifyingKey → Bool

/-- A failed check names the `operation` it was made for. -/
def Signing.verifyEd25519 (operation : String) (payload signatureBytes : List UInt8) (verifyingKey : VerifyingKey) :
    Except DistributionError Unit :=
  if signatureBytes.length ≠ 64 then .error (.signatureFailed s!"{operation}: malformed signature bytes")
  else if self.crypto.verifyStrict verifyingKey payload signatureBytes then .ok ()
  else .error (.signatureFailed s!"{operation}: Ed25519 verification failed")

/-- `VerifyingKey::from_bytes` on a field of a rotation event. -/
def Signing.verifyingKey (field : String) (bytes : List UInt8) : Except DistributionError VerifyingKey :=
  if fits : bytes.length = 32 then
    if self.isPoint ⟨bytes, fits⟩ then .ok ⟨bytes, fits⟩
    else .error (.signatureFailed s!"rotation: {field} is not a valid Ed25519 verifying key")
  else .error (.signatureFailed s!"rotation: {field} must be exactly 32 bytes")

def TakedownReason.label : TakedownReason → String
  | maliciousBehaviorDetected => "MALICIOUS_BEHAVIOR_DETECTED"
  | supplyChainCompromise => "SUPPLY_CHAIN_COMPROMISE"
  | capabilityLieDetected => "CAPABILITY_LIE_DETECTED"
  | legalRequirement => "LEGAL_REQUIREMENT"
  | publisherRequest => "PUBLISHER_REQUEST"
  | keyCompromise => "KEY_COMPROMISE"
  | abandonedAfterInactiveTtl => "ABANDONED_AFTER_INACTIVE_TTL"

/-! ## What changes in the catalogs -/

/-- `get_mut`: changes the entry that `lookup` finds. -/
def PublisherCatalog.modify (self : PublisherCatalog) (id : PublisherRootId) (change : PublisherRoot → PublisherRoot) :
    PublisherCatalog :=
  ⟨self.entries.replaceF fun entry => if entry.publisherRootId = id then some (change entry) else none⟩

/-- The catalog with its active keys revoked, and their identifiers. -/
def SigningKeyCatalog.revokeAllActive (self : SigningKeyCatalog) (revokedAt : DateTime) :
    SigningKeyCatalog × List PackageSigningKeyId :=
  (⟨self.vendor, self.entries.map fun entry =>
      if entry.revokedAt.isNone then { entry with revokedAt := some revokedAt } else entry⟩,
    (self.entries.filter fun entry => entry.revokedAt.isNone).map (·.packageSigningKeyId))

/-! ## Rotation -/

structure PublisherRotationEvent where
  publisherRootId : PublisherRootId
  oldPublicKey : List UInt8
  newPublicKey : List UInt8
  oldRootSignatureOverNew : List UInt8
  aiosRootSignature : List UInt8
  rotatedAt : DateTime
  reason : TakedownReason
  compromiseWindowStart : Option DateTime

structure RotationOutcome where
  revokedSigningKeyIds : List PackageSigningKeyId
  reactive : Bool

def rotationCanonicalBytes (clock : Rfc3339) (event : PublisherRotationEvent) : List UInt8 :=
  utf8 event.publisherRootId.value ++ 10 :: event.newPublicKey ++ 10 :: clock.format event.rotatedAt

def verifyRotationEvent (signing : Signing) (event : PublisherRotationEvent) (currentRoot : PublisherRoot)
    (aiosRoot : AiosRootKey) : Except DistributionError Unit := do
  let canonical := rotationCanonicalBytes signing.clock event
  let oldKey ← signing.verifyingKey "old_public_key" event.oldPublicKey
  signing.verifyEd25519 "rotation" canonical event.oldRootSignatureOverNew oldKey
  if oldKey ≠ currentRoot.publicKey then
    .error (.signatureFailed
      "rotation: old_public_key does not match the current publisher root's public key")
  else signing.verifyEd25519 "rotation" canonical event.aiosRootSignature aiosRoot.publicKey

/-- The catalogs after the rotation; an error leaves them as they were. -/
def applyPublisherRotation (signing : Signing) (catalog : PublisherCatalog) (signingCatalog : SigningKeyCatalog)
    (event : PublisherRotationEvent) (aiosRoot : AiosRootKey) :
    Except DistributionError (PublisherCatalog × SigningKeyCatalog × RotationOutcome) :=
  match catalog.lookup event.publisherRootId with
  | none => .error (.publisherNotFound
      s!"publisher {event.publisherRootId.value} not found in catalog — cannot rotate")
  | some publisher => do
    verifyRotationEvent signing event publisher aiosRoot
    let newKey ← signing.verifyingKey "new_public_key" event.newPublicKey
    let rotated := catalog.modify event.publisherRootId fun entry => { entry with publicKey := newKey }
    if event.reason = .keyCompromise then
      let (revoked, ids) := signingCatalog.revokeAllActive event.rotatedAt
      .ok (rotated, revoked, ⟨ids, true⟩)
    else .ok (rotated, signingCatalog, ⟨[], false⟩)

/-! ## Deplatforming -/

structure PublisherDeplatformEvent where
  publisherRootId : PublisherRootId
  reason : TakedownReason
  deplatformedAt : DateTime
  gracePeriodEndsAt : DateTime
  evidencePointer : String
  aiosRootSignature : List UInt8
deriving DecidableEq

def deplatformCanonicalBytes (clock : Rfc3339) (event : PublisherDeplatformEvent) : List UInt8 :=
  utf8 event.publisherRootId.value ++ 10 :: utf8 event.reason.label ++ 10 :: clock.format event.deplatformedAt ++
    10 :: clock.format event.gracePeriodEndsAt ++ 10 :: utf8 event.evidencePointer

def verifyDeplatformEvent (signing : Signing) (event : PublisherDeplatformEvent) (aiosRoot : AiosRootKey) :
    Except DistributionError Unit :=
  signing.verifyEd25519 "deplatform" (deplatformCanonicalBytes signing.clock event) event.aiosRootSignature
    aiosRoot.publicKey

/-- The catalog after the event; an error leaves it as it was. -/
def applyDeplatform (signing : Signing) (catalog : PublisherCatalog) (event : PublisherDeplatformEvent)
    (aiosRoot : AiosRootKey) : Except DistributionError PublisherCatalog := do
  verifyDeplatformEvent signing event aiosRoot
  match catalog.lookup event.publisherRootId with
  | none => .error (.publisherNotFound
      s!"publisher {event.publisherRootId.value} not found in catalog — cannot deplatform")
  | some _ => .ok (catalog.modify event.publisherRootId fun entry =>
      { entry with trustLevel := .deplatformed, retiredAt := some event.deplatformedAt })

/-! ## The health check -/

structure InstalledPackageRecord where
  packageId : PackageId
  publisherRootId : PublisherRootId
  signingKeyId : PackageSigningKeyId
  state : PackageInstallState
  installedAt : DateTime
deriving DecidableEq

def shouldQuarantine (catalog : PublisherCatalog) (revokedKeys : List PackageSigningKeyId)
    (record : InstalledPackageRecord) : Bool :=
  (catalog.lookup record.publisherRootId).any (·.trustLevel = .deplatformed) || revokedKeys.contains record.signingKeyId

/-- One round of the loop: the record, and its package where it was newly quarantined. -/
def checkRecord (catalog : PublisherCatalog) (revokedKeys : List PackageSigningKeyId)
    (record : InstalledPackageRecord) : InstalledPackageRecord × Option PackageId :=
  if record.state ≠ .active then (record, none)
  else if shouldQuarantine catalog revokedKeys record then
    match InstallFsm.apply record.state .quarantined with
    | .ok state => ({ record with state := state }, some record.packageId)
    | .error _ => (record, none)
  else (record, none)

def healthCheckQuarantine (installed : List InstalledPackageRecord) (catalog : PublisherCatalog)
    (revokedKeys : List PackageSigningKeyId) : List InstalledPackageRecord × List PackageId :=
  (installed.map fun record => (checkRecord catalog revokedKeys record).1,
    installed.filterMap fun record => (checkRecord catalog revokedKeys record).2)

/-! ## What a check does to a record -/

theorem checkRecord_of_quarantined (active : record.state = .active)
    (quarantined : shouldQuarantine catalog revokedKeys record = true) :
    checkRecord catalog revokedKeys record = ({ record with state := .quarantined }, some record.packageId) := by
  unfold checkRecord
  rw [if_neg (not_not.mpr active), if_pos quarantined, active]
  rfl

theorem checkRecord_of_kept (kept : shouldQuarantine catalog revokedKeys record = false) :
    checkRecord catalog revokedKeys record = (record, none) := by
  unfold checkRecord
  rw [kept, if_neg Bool.false_ne_true, ite_self]

/-- A check changes nothing of a record but its state. -/
theorem checkRecord_publisher (catalog : PublisherCatalog) (revokedKeys : List PackageSigningKeyId)
    (record : InstalledPackageRecord) :
    (checkRecord catalog revokedKeys record).1.publisherRootId = record.publisherRootId := by
  by_cases active : record.state = .active
  · cases quarantined : shouldQuarantine catalog revokedKeys record with
    | true => rw [checkRecord_of_quarantined active quarantined]
    | false => rw [checkRecord_of_kept quarantined]
  · unfold checkRecord
    rw [if_pos active]

/-- A record that is active after a check was active before it, and stood the check. -/
theorem checkRecord_active (active : (checkRecord catalog revokedKeys record).1.state = .active) :
    record.state = .active ∧ shouldQuarantine catalog revokedKeys record = false := by
  by_cases before : record.state = .active
  · refine ⟨before, ?_⟩
    cases quarantined : shouldQuarantine catalog revokedKeys record with
    | false => rfl
    | true =>
      rw [checkRecord_of_quarantined before quarantined] at active
      cases active
  · unfold checkRecord at active
    rw [if_pos before] at active
    exact absurd active before

/-! ## What the catalog says of a publisher -/

end

namespace PublisherCatalog

variable (self : PublisherCatalog) (id : PublisherRootId)

/-- The trust level and the retirement of a publisher, if it is listed. -/
def standing (id : PublisherRootId) : Option (PublisherTrustLevel × Option DateTime) :=
  (self.lookup id).map fun entry => (entry.trustLevel, entry.retiredAt)

theorem lookup_modify (other : PublisherRootId) (change : PublisherRoot → PublisherRoot)
    (keeps : ∀ entry, (change entry).publisherRootId = entry.publisherRootId) :
    (self.modify id change).lookup other = if other = id then (self.lookup id).map change else self.lookup other := by
  obtain ⟨entries⟩ := self
  change List.find? _ (List.replaceF _ entries) =
    if other = id then (List.find? _ entries).map change else List.find? _ entries
  induction entries with
  | nil => simp
  | cons head rest ih =>
    by_cases here : head.publisherRootId = id
    · have changed : (fun entry : PublisherRoot =>
        if entry.publisherRootId = id then some (change entry) else none) head =
          some (change head) := if_pos here
      rw [List.replaceF_cons_of_some _ changed]
      split_ifs with same
      · rw [List.find?_cons_of_pos (by simp [keeps, here, same]), List.find?_cons_of_pos (by simp [here])]
        rfl
      · have elsewhere : head.publisherRootId ≠ other := fun found => same (found.symm.trans here)
        rw [List.find?_cons_of_neg (by simp [keeps, elsewhere]), List.find?_cons_of_neg (by simp [elsewhere])]
    · have kept : (fun entry : PublisherRoot => if entry.publisherRootId = id then some (change entry) else none) head =
          none := if_neg here
      rw [List.replaceF_cons_of_none _ kept]
      by_cases found : head.publisherRootId = other
      · have different : other ≠ id := fun same => here (found.trans same)
        rw [if_neg different, List.find?_cons_of_pos (by simp [found]), List.find?_cons_of_pos (by simp [found])]
      · rw [List.find?_cons_of_neg (by simp [found]), ih, List.find?_cons_of_neg (by simp [here]),
          List.find?_cons_of_neg (by simp [found])]

/-- A new key leaves every publisher where it stood. -/
theorem standing_modify_key (other : PublisherRootId) (key : VerifyingKey) :
    (self.modify id fun entry => { entry with publicKey := key }).standing other = self.standing other := by
  unfold standing
  rw [lookup_modify self id other (fun entry => { entry with publicKey := key }) fun _ => rfl]
  split_ifs with same
  · rw [same, Option.map_map]
    rfl
  · rfl

end PublisherCatalog

variable {signing : Signing} {catalog : PublisherCatalog} {aiosRoot : AiosRootKey}

theorem applyPublisherRotation_standing {rotated : PublisherCatalog} {signingCatalog revoked : SigningKeyCatalog}
    {event : PublisherRotationEvent} {outcome : RotationOutcome}
    (applied : applyPublisherRotation signing catalog signingCatalog event aiosRoot = .ok (rotated, revoked, outcome))
    (publisher : PublisherRootId) : rotated.standing publisher = catalog.standing publisher := by
  unfold applyPublisherRotation at applied
  cases found : catalog.lookup event.publisherRootId with
  | none =>
    rw [found] at applied
    cases applied
  | some entry =>
    rw [found] at applied
    dsimp only at applied
    cases verified : verifyRotationEvent signing event entry aiosRoot with
    | error failure =>
      rw [verified] at applied
      cases applied
    | ok passed =>
      cases key : signing.verifyingKey "new_public_key" event.newPublicKey with
      | error failure =>
        rw [verified, key] at applied
        cases applied
      | ok newKey =>
        rw [verified, key] at applied
        change (if event.reason = .keyCompromise then _ else _) = _ at applied
        split_ifs at applied
        · cases applied
          exact catalog.standing_modify_key _ _ _
        · cases applied
          exact catalog.standing_modify_key _ _ _

/-- A deplatforming sets the standing of its publisher and of no other. -/
theorem applyDeplatform_standing {deplatformed : PublisherCatalog} {event : PublisherDeplatformEvent}
    (applied : applyDeplatform signing catalog event aiosRoot = .ok deplatformed) (publisher : PublisherRootId) :
    deplatformed.standing publisher = if publisher = event.publisherRootId
      then some (.deplatformed, some event.deplatformedAt) else catalog.standing publisher := by
  unfold applyDeplatform at applied
  cases verified : verifyDeplatformEvent signing event aiosRoot with
  | error failure =>
    rw [verified] at applied
    cases applied
  | ok passed =>
    rw [verified] at applied
    cases found : catalog.lookup event.publisherRootId with
    | none =>
      rw [show (Except.ok passed >>= fun _ => _) = _ from rfl, found] at applied
      cases applied
    | some entry =>
      rw [show (Except.ok passed >>= fun _ => _) = _ from rfl, found] at applied
      cases applied
      unfold PublisherCatalog.standing
      rw [PublisherCatalog.lookup_modify catalog event.publisherRootId publisher
        (fun entry => { entry with trustLevel := .deplatformed, retiredAt := some event.deplatformedAt }) fun _ => rfl,
        found]
      split_ifs <;> rfl

end Aios.Distribution
