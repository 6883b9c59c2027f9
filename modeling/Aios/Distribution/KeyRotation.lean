import Aios.Distribution.Deplatform
import Aios.Lib.Fallible
import Aios.Lib.Stateful

/-! # Key rotation

A rotation changes the two catalogs it is handed by reference, and only after its last check. Where the reason is a
compromised key it revokes every active key of the signing catalog, without a look at the compromise window or at the
vendor whose keys these are.
-/

namespace Aios.Distribution

open Aios.Rust

section

variable {signing : Signing} {event : PublisherRotationEvent} {signingKeys : SigningKeyCatalog}
  {catalogs before after : RotationCatalogs} {aiosRoot : AiosRootKey}
  {answer : Except DistributionError (PublisherCatalog × SigningKeyCatalog × RotationOutcome)}
  {outcome : RotationOutcome}

/-! ## On mutable catalogs -/

/-- The two catalogs that a rotation is handed. -/
structure RotationCatalogs where
  publishers : PublisherCatalog
  signingKeys : SigningKeyCatalog

/-- `apply_publisher_rotation`, with what an error leaves behind. -/
def applyPublisherRotationInPlace (signing : Signing) (event : PublisherRotationEvent) (aiosRoot : AiosRootKey) :
    EStateM DistributionError RotationCatalogs RotationOutcome := do
  let catalogs ← get
  match catalogs.publishers.lookup event.publisherRootId with
  | none => throw (.publisherNotFound
      s!"publisher {event.publisherRootId.value} not found in catalog — cannot rotate")
  | some publisher =>
    MonadExcept.ofExcept (verifyRotationEvent signing event publisher aiosRoot)
    let newKey ← MonadExcept.ofExcept (signing.verifyingKey "new_public_key" event.newPublicKey)
    -- `get_mut` finds the entry that `lookup` has found.
    modify fun catalogs => { catalogs with
      publishers := catalogs.publishers.modify event.publisherRootId fun entry => { entry with publicKey := newKey } }
    if event.reason = .keyCompromise then
      let catalogs ← get
      let (signingKeys, revoked) := catalogs.signingKeys.revokeAllActive event.rotatedAt
      set { catalogs with signingKeys }
      return ⟨revoked, true⟩
    else return ⟨[], false⟩

/-- The run that an answer with the new catalogs stands for. -/
def settle (before : RotationCatalogs) :
    Except DistributionError (PublisherCatalog × SigningKeyCatalog × RotationOutcome) →
      EStateM.Result DistributionError RotationCatalogs RotationOutcome
  | .ok (publishers, signingKeys, outcome) => .ok outcome ⟨publishers, signingKeys⟩
  | .error failure => .error failure before

theorem settle_eq_ok_iff :
    settle before answer = .ok outcome after ↔ answer = .ok (after.publishers, after.signingKeys, outcome) := by
  cases answer with
  | error failure => exact iff_of_false nofun nofun
  | ok result =>
    constructor
    · intro settled
      cases settled
      rfl
    · intro answered
      cases answered
      rfl

theorem settle_eq_error {failure : DistributionError} (settled : settle before answer = .error failure after) :
    after = before := by
  cases answer with
  | error _ =>
    cases settled
    rfl
  | ok _ => cases settled

/-- An error leaves both catalogs as they were. -/
theorem applyPublisherRotationInPlace_eq (signing : Signing) (event : PublisherRotationEvent) (aiosRoot : AiosRootKey)
    (catalogs : RotationCatalogs) :
    applyPublisherRotationInPlace signing event aiosRoot catalogs =
      settle catalogs (applyPublisherRotation signing catalogs.publishers catalogs.signingKeys event aiosRoot) := by
  unfold applyPublisherRotationInPlace applyPublisherRotation
  rw [Stateful.get_bind_apply]
  cases catalogs.publishers.lookup event.publisherRootId with
  | none => rfl
  | some publisher =>
    dsimp only
    cases verifyRotationEvent signing event publisher aiosRoot with
    | error failure => rfl
    | ok passed =>
      rw [Stateful.ofExcept_ok_bind_apply]
      cases signing.verifyingKey "new_public_key" event.newPublicKey with
      | error failure => rfl
      | ok newKey =>
        rw [Stateful.ofExcept_ok_bind_apply, Stateful.modify_bind_apply]
        change _ = settle catalogs (if event.reason = .keyCompromise then _ else _)
        by_cases compromised : event.reason = .keyCompromise
        · rw [if_pos compromised, if_pos compromised]
          rfl
        · rw [if_neg compromised, if_neg compromised]
          rfl

/-! ## When it succeeds -/

theorem verifyingKey_eq_ok_iff {field : String} {bytes : List UInt8} {key : VerifyingKey} :
    signing.verifyingKey field bytes = .ok key ↔ key.val = bytes ∧ signing.isPoint key = true := by
  unfold Signing.verifyingKey
  by_cases fits : bytes.length = 32
  · rw [dif_pos fits]
    constructor
    · intro parsed
      split_ifs at parsed with point
      cases parsed
      exact ⟨rfl, point⟩
    · rintro ⟨rfl, point⟩
      exact if_pos point
  · rw [dif_neg fits]
    constructor
    · intro parsed
      cases parsed
    · rintro ⟨rfl, -⟩
      exact absurd key.property fits

/-- The event states the key of the current root, and that root and the AIOS root have signed its bytes. -/
structure VerifiedRotation (signing : Signing) (event : PublisherRotationEvent) (currentRoot : PublisherRoot)
    (aiosRoot : AiosRootKey) : Prop where
  oldKey : currentRoot.publicKey.val = event.oldPublicKey
  point : signing.isPoint currentRoot.publicKey = true
  rootSigned : signing.verifyEd25519 "rotation" (rotationCanonicalBytes signing.clock event)
    event.oldRootSignatureOverNew currentRoot.publicKey = .ok ()
  aiosSigned : signing.verifyEd25519 "rotation" (rotationCanonicalBytes signing.clock event)
    event.aiosRootSignature aiosRoot.publicKey = .ok ()

theorem verifyRotationEvent_eq_ok_iff {currentRoot : PublisherRoot} :
    verifyRotationEvent signing event currentRoot aiosRoot = .ok () ↔
      VerifiedRotation signing event currentRoot aiosRoot := by
  unfold verifyRotationEvent
  simp only [Fallible.bind_eq_ok_iff, Fallible.check_eq_ok_iff, verifyingKey_eq_ok_iff]
  constructor
  · rintro ⟨oldKey, ⟨stated, point⟩, _, rootSigned, same, aiosSigned⟩
    obtain rfl := not_not.mp same
    exact ⟨stated, point, rootSigned, aiosSigned⟩
  · rintro ⟨stated, point, rootSigned, aiosSigned⟩
    exact ⟨currentRoot.publicKey, ⟨stated, point⟩, (), rootSigned, not_not.mpr rfl, aiosSigned⟩

/-- What a rotation needs: a listed publisher, a verified event and a new key. -/
structure Rotates (signing : Signing) (event : PublisherRotationEvent) (aiosRoot : AiosRootKey)
    (catalogs : RotationCatalogs) (publisher : PublisherRoot) (newKey : VerifyingKey) : Prop where
  found : catalogs.publishers.lookup event.publisherRootId = some publisher
  verified : VerifiedRotation signing event publisher aiosRoot
  stated : newKey.val = event.newPublicKey
  point : signing.isPoint newKey = true

/-- The signing keys after a rotation, and the identifiers of those that it revokes. -/
def rotatedKeys (event : PublisherRotationEvent) (signingKeys : SigningKeyCatalog) :
    SigningKeyCatalog × List PackageSigningKeyId :=
  if event.reason = .keyCompromise then signingKeys.revokeAllActive event.rotatedAt else (signingKeys, [])

theorem applyPublisherRotation_eq_ok_iff {result : PublisherCatalog × SigningKeyCatalog × RotationOutcome} :
    applyPublisherRotation signing catalogs.publishers catalogs.signingKeys event aiosRoot = .ok result ↔
      ∃ publisher newKey, Rotates signing event aiosRoot catalogs publisher newKey ∧
        result = (catalogs.publishers.modify event.publisherRootId fun entry => { entry with publicKey := newKey },
          (rotatedKeys event catalogs.signingKeys).1,
          ⟨(rotatedKeys event catalogs.signingKeys).2, decide (event.reason = .keyCompromise)⟩) := by
  unfold applyPublisherRotation
  cases found : catalogs.publishers.lookup event.publisherRootId with
  | none =>
    constructor
    · intro applied
      cases applied
    · rintro ⟨publisher, newKey, ⟨listed, -, -, -⟩, -⟩
      cases found.symm.trans listed
  | some publisher =>
    dsimp only
    rw [Fallible.then_eq_ok_iff, verifyRotationEvent_eq_ok_iff, Fallible.bind_eq_ok_iff]
    constructor
    · rintro ⟨verified, newKey, parsed, applied⟩
      obtain ⟨stated, point⟩ := verifyingKey_eq_ok_iff.mp parsed
      refine ⟨publisher, newKey, ⟨found, verified, stated, point⟩, ?_⟩
      unfold rotatedKeys
      by_cases compromised : event.reason = .keyCompromise
      · rw [if_pos compromised] at applied ⊢
        rw [decide_eq_true compromised]
        exact (Except.ok.inj applied).symm
      · rw [if_neg compromised] at applied ⊢
        rw [decide_eq_false compromised]
        exact (Except.ok.inj applied).symm
    · rintro ⟨publisher', newKey, ⟨listed, verified, stated, point⟩, rfl⟩
      obtain rfl := Option.some.inj (found.symm.trans listed)
      refine ⟨verified, newKey, verifyingKey_eq_ok_iff.mpr ⟨stated, point⟩, ?_⟩
      unfold rotatedKeys
      by_cases compromised : event.reason = .keyCompromise
      · rw [if_pos compromised, if_pos compromised, decide_eq_true compromised]
      · rw [if_neg compromised, if_neg compromised, decide_eq_false compromised]

/-- A rotation in place returns exactly if it has what it needs. -/
theorem applyPublisherRotationInPlace_eq_ok_iff :
    applyPublisherRotationInPlace signing event aiosRoot catalogs = .ok outcome after ↔
      ∃ publisher newKey, Rotates signing event aiosRoot catalogs publisher newKey ∧
        after = ⟨catalogs.publishers.modify event.publisherRootId fun entry => { entry with publicKey := newKey },
          (rotatedKeys event catalogs.signingKeys).1⟩ ∧
        outcome = ⟨(rotatedKeys event catalogs.signingKeys).2, decide (event.reason = .keyCompromise)⟩ := by
  rw [applyPublisherRotationInPlace_eq, settle_eq_ok_iff, applyPublisherRotation_eq_ok_iff]
  obtain ⟨publishers, signingKeys⟩ := after
  simp only [Prod.mk.injEq, RotationCatalogs.mk.injEq, and_assoc]

/-! ## What it changes -/

/-- `get_mut` changes the first entry with the identifier. -/
theorem PublisherCatalog.modify_of_lookup {catalog : PublisherCatalog} {id : PublisherRootId}
    {publisher : PublisherRoot} (found : catalog.lookup id = some publisher) (change : PublisherRoot → PublisherRoot) :
    ∃ front back, catalog.entries = front ++ publisher :: back ∧
      (catalog.modify id change).entries = front ++ change publisher :: back := by
  obtain ⟨listed, front, back, split, before⟩ := List.find?_eq_some_iff_append.mp found
  refine ⟨front, back, split, ?_⟩
  have here : publisher.publisherRootId = id := of_decide_eq_true listed
  change List.replaceF _ catalog.entries = _
  rw [split]
  clear split
  induction front with
  | nil => exact List.replaceF_cons_of_some _ (if_pos here)
  | cons head front ih =>
    have elsewhere : head.publisherRootId ≠ id := by
      have passed := before head List.mem_cons_self
      rwa [Bool.not_eq_true', decide_eq_false_iff_not] at passed
    have kept : (fun entry : PublisherRoot => if entry.publisherRootId = id then some (change entry) else none) head =
        none := if_neg elsewhere
    rw [List.cons_append, List.replaceF_cons_of_none _ kept,
      ih fun other member => before other (List.mem_cons_of_mem _ member)]
    rfl

/-- An active key of the publisher whose validity begins in the compromise window. -/
def InScope (event : PublisherRotationEvent) (signingKeys : SigningKeyCatalog) (entry : PackageSigningKey) : Prop :=
  entry.revokedAt = none ∧ signingKeys.vendor = vendorFromPublisherRootId event.publisherRootId ∧
    ∀ start ∈ event.compromiseWindowStart, start ≤ entry.validFrom

instance (event : PublisherRotationEvent) (signingKeys : SigningKeyCatalog) (entry : PackageSigningKey) :
    Decidable (InScope event signingKeys entry) :=
  inferInstanceAs (Decidable (_ ∧ _ ∧ _))

/-- The keys that a rotation is to revoke. -/
def ToRevoke (event : PublisherRotationEvent) (signingKeys : SigningKeyCatalog) (entry : PackageSigningKey) : Prop :=
  event.reason = .keyCompromise ∧ InScope event signingKeys entry

instance (event : PublisherRotationEvent) (signingKeys : SigningKeyCatalog) (entry : PackageSigningKey) :
    Decidable (ToRevoke event signingKeys entry) :=
  inferInstanceAs (Decidable (_ ∧ _))

/-- The entry, revoked if it is to be. -/
def revokedEntry (event : PublisherRotationEvent) (signingKeys : SigningKeyCatalog) (entry : PackageSigningKey) :
    PackageSigningKey :=
  if ToRevoke event signingKeys entry then { entry with revokedAt := some event.rotatedAt } else entry

/-- A rotation that succeeds has both signatures, replaces the one key, and revokes and returns the keys that it is
to revoke; a rotation that fails changes nothing. -/
structure RotationExact (signing : Signing) (event : PublisherRotationEvent) (aiosRoot : AiosRootKey)
    (catalogs : RotationCatalogs) : Prop where
  signed : ∀ outcome after, applyPublisherRotationInPlace signing event aiosRoot catalogs = .ok outcome after →
    ∃ publisher, catalogs.publishers.lookup event.publisherRootId = some publisher ∧
      VerifiedRotation signing event publisher aiosRoot
  publishers : ∀ outcome after, applyPublisherRotationInPlace signing event aiosRoot catalogs = .ok outcome after →
    ∃ front publisher back newKey, catalogs.publishers.lookup event.publisherRootId = some publisher ∧
      catalogs.publishers.entries = front ++ publisher :: back ∧
      after.publishers.entries = front ++ { publisher with publicKey := newKey } :: back ∧
      after.publishers.lookup event.publisherRootId = some { publisher with publicKey := newKey } ∧
      newKey.val = event.newPublicKey
  keys : ∀ outcome after, applyPublisherRotationInPlace signing event aiosRoot catalogs = .ok outcome after →
    after.signingKeys =
        ⟨catalogs.signingKeys.vendor, catalogs.signingKeys.entries.map (revokedEntry event catalogs.signingKeys)⟩ ∧
      outcome.revokedSigningKeyIds =
        (catalogs.signingKeys.entries.filter (ToRevoke event catalogs.signingKeys ·)).map (·.packageSigningKeyId)
  refused : ∀ failure after, applyPublisherRotationInPlace signing event aiosRoot catalogs = .error failure after →
    after = catalogs

/-- Every key that the code revokes is in scope. -/
def OnlyInScope (event : PublisherRotationEvent) (signingKeys : SigningKeyCatalog) : Prop :=
  event.reason = .keyCompromise →
    ∀ entry ∈ signingKeys.entries, entry.revokedAt = none → InScope event signingKeys entry

theorem rotatedKeys_of_onlyInScope (only : OnlyInScope event signingKeys) :
    rotatedKeys event signingKeys = (⟨signingKeys.vendor, signingKeys.entries.map (revokedEntry event signingKeys)⟩,
      (signingKeys.entries.filter (ToRevoke event signingKeys ·)).map (·.packageSigningKeyId)) := by
  unfold rotatedKeys
  by_cases compromised : event.reason = .keyCompromise
  · have active (entry : PackageSigningKey) (member : entry ∈ signingKeys.entries) :
        entry.revokedAt.isNone = true ↔ ToRevoke event signingKeys entry := by
      rw [Option.isNone_iff_eq_none]
      exact ⟨fun unrevoked => ⟨compromised, only compromised entry member unrevoked⟩, fun scope => scope.2.1⟩
    rw [if_pos compromised]
    unfold SigningKeyCatalog.revokeAllActive
    congr 1
    · congr 1
      refine List.map_congr_left fun entry member => ?_
      exact if_congr (active entry member) rfl rfl
    · congr 1
      refine List.filter_congr fun entry member => ?_
      rw [Bool.eq_iff_iff, decide_eq_true_eq]
      exact active entry member
  · have kept (entry : PackageSigningKey) : ¬ ToRevoke event signingKeys entry := fun scope => compromised scope.1
    have unchanged : signingKeys.entries.map (revokedEntry event signingKeys) = signingKeys.entries :=
      List.map_id'' (fun entry => if_neg (kept entry)) signingKeys.entries
    have nothing : signingKeys.entries.filter (ToRevoke event signingKeys ·) = [] :=
      List.filter_eq_nil_iff.mpr fun entry _ => by rw [decide_eq_true_eq]; exact kept entry
    rw [if_neg compromised, unchanged, nothing]
    rfl

/-- Were a key out of scope revoked, the entries would tell. -/
theorem onlyInScope_of_entries {event : PublisherRotationEvent} {signingKeys : SigningKeyCatalog}
    (same : (rotatedKeys event signingKeys).1 =
      ⟨signingKeys.vendor, signingKeys.entries.map (revokedEntry event signingKeys)⟩) :
    OnlyInScope event signingKeys := by
  intro compromised entry member unrevoked
  unfold rotatedKeys at same
  rw [if_pos compromised] at same
  have each := List.map_inj_left.mp (congrArg SigningKeyCatalog.entries same) entry member
  by_contra outside
  have kept : revokedEntry event signingKeys entry = entry := if_neg fun scope => outside scope.2
  rw [kept, unrevoked, if_pos Option.isNone_none] at each
  have revoked := congrArg PackageSigningKey.revokedAt each
  rw [unrevoked] at revoked
  cases revoked

/-! ## Exactness -/

end

variable {signing : Signing} {event : PublisherRotationEvent} {aiosRoot : AiosRootKey} {catalogs : RotationCatalogs}

/-- An exact rotation that takes place revokes no key out of scope. -/
theorem RotationExact.onlyInScope (exact : RotationExact signing event aiosRoot catalogs) {publisher : PublisherRoot}
    {newKey : VerifyingKey} (rotates : Rotates signing event aiosRoot catalogs publisher newKey) :
    OnlyInScope event catalogs.signingKeys := by
  have applied := applyPublisherRotationInPlace_eq_ok_iff.mpr ⟨publisher, newKey, rotates, rfl, rfl⟩
  exact onlyInScope_of_entries (exact.keys _ _ applied).1

/-- A rotation is exact exactly if it does not take place or finds no active key out of scope. -/
theorem rotationExact_iff (signing : Signing) (event : PublisherRotationEvent) (aiosRoot : AiosRootKey)
    (catalogs : RotationCatalogs) :
    RotationExact signing event aiosRoot catalogs ↔
      ∀ publisher newKey, Rotates signing event aiosRoot catalogs publisher newKey →
        OnlyInScope event catalogs.signingKeys := by
  constructor
  · exact fun exact _ _ rotates => exact.onlyInScope rotates
  · intro only
    refine ⟨fun outcome after applied => ?_, fun outcome after applied => ?_, fun outcome after applied => ?_,
      fun failure after refused => ?_⟩
    · obtain ⟨publisher, newKey, rotates, -, -⟩ := applyPublisherRotationInPlace_eq_ok_iff.mp applied
      exact ⟨publisher, rotates.found, rotates.verified⟩
    · obtain ⟨publisher, newKey, rotates, rfl, -⟩ := applyPublisherRotationInPlace_eq_ok_iff.mp applied
      obtain ⟨front, back, before, changed⟩ := PublisherCatalog.modify_of_lookup rotates.found
        fun entry => { entry with publicKey := newKey }
      refine ⟨front, publisher, back, newKey, rotates.found, before, changed, ?_, rotates.stated⟩
      have replaced := PublisherCatalog.lookup_modify catalogs.publishers event.publisherRootId event.publisherRootId
        (fun entry => { entry with publicKey := newKey }) fun _ => rfl
      rw [if_pos rfl, rotates.found] at replaced
      exact replaced
    · obtain ⟨publisher, newKey, rotates, rfl, rfl⟩ := applyPublisherRotationInPlace_eq_ok_iff.mp applied
      rw [rotatedKeys_of_onlyInScope (only publisher newKey rotates)]
      exact ⟨rfl, rfl⟩
    · rw [applyPublisherRotationInPlace_eq] at refused
      exact settle_eq_error refused

/-- The window begins at 10. -/
def windowedRotation : PublisherRotationEvent where
  publisherRootId := ⟨"pub:a"⟩
  oldPublicKey := (TrustChainVerifier.exampleKey 2).val
  newPublicKey := (TrustChainVerifier.exampleKey 4).val
  oldRootSignatureOverNew := TrustChainVerifier.exampleSignature 2
  aiosRootSignature := TrustChainVerifier.exampleSignature 1
  rotatedAt := 20
  reason := .keyCompromise
  compromiseWindowStart := some 10

/-- Accepts the signatures of the publisher and of the AIOS root over the event. -/
def rotationSigning : Signing where
  crypto :=
    { verifyStrict := fun key message signature =>
        message == rotationCanonicalBytes TrustChainVerifier.exampleClock windowedRotation &&
          ((key == TrustChainVerifier.exampleKey 2 && signature == TrustChainVerifier.exampleSignature 2) ||
            (key == TrustChainVerifier.exampleKey 1 && signature == TrustChainVerifier.exampleSignature 1)) }
  clock := TrustChainVerifier.exampleClock
  isPoint := fun _ => true

def rotationCatalogs : RotationCatalogs where
  publishers := ⟨[TrustChainVerifier.examplePublisher]⟩
  signingKeys := ⟨"a", [TrustChainVerifier.exampleSigningKey]⟩

/-- A key whose validity began at 0 is revoked. -/
theorem not_rotationExact_beforeWindow :
    ¬ RotationExact rotationSigning windowedRotation ⟨TrustChainVerifier.exampleKey 1⟩ rotationCatalogs := by
  intro exact
  have rotates : Rotates rotationSigning windowedRotation ⟨TrustChainVerifier.exampleKey 1⟩ rotationCatalogs
      TrustChainVerifier.examplePublisher (TrustChainVerifier.exampleKey 4) :=
    ⟨by decide +kernel, ⟨rfl, rfl, by decide +kernel, by decide +kernel⟩, rfl, rfl⟩
  have scope := exact.onlyInScope rotates rfl TrustChainVerifier.exampleSigningKey List.mem_cons_self rfl
  exact absurd (scope.2.2 10 rfl) (by decide)

end Aios.Distribution
