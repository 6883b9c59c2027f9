import Aios.Distribution.TrustChain

/-! # What a verified trust chain says

`verify` succeeds exactly when every check it makes passes on the two entries it finds. With signatures
that cannot be forged, success then says who signed what, and that neither the publisher nor the key was
withdrawn. No check reads the validity window of the signing key, so that part needs the condition that
is stated here. The bytes that are signed determine the signed fields of an entry of a known kind.
-/

namespace Aios.Distribution

open Aios.Rust

section

variable {α : Type} {mark : α} {before before' after after' : List α}

/-! ## Fields set off by a mark -/

/-- The first mark cuts a list in one way. -/
theorem mark_append_inj (free : mark ∉ before) (free' : mark ∉ before')
    (same : before ++ mark :: after = before' ++ mark :: after') : before = before' ∧ after = after' := by
  induction before generalizing before' with
  | nil =>
    cases before' with
    | nil => exact ⟨rfl, (List.cons.inj same).2⟩
    | cons head rest => exact absurd ((List.cons.inj same).1 ▸ List.mem_cons_self) free'
  | cons head rest ih =>
    cases before' with
    | nil => exact absurd ((List.cons.inj same).1 ▸ List.mem_cons_self) free
    | cons head' rest' =>
      obtain ⟨rfl, tails⟩ := List.cons.inj same
      obtain ⟨rfl, afters⟩ := ih (mt (List.mem_cons_of_mem _) free) (mt (List.mem_cons_of_mem _) free') tails
      exact ⟨rfl, afters⟩

/-- The last mark cuts a list in one way. -/
theorem append_mark_inj (free : mark ∉ after) (free' : mark ∉ after') :
    before ++ mark :: after = before' ++ mark :: after' ↔ before = before' ∧ after = after' := by
  constructor
  · intro same
    have backwards := congrArg List.reverse same
    simp only [List.reverse_append, List.reverse_cons, List.append_assoc, List.singleton_append] at backwards
    obtain ⟨afters, befores⟩ := mark_append_inj (mt List.mem_reverse.mp free) (mt List.mem_reverse.mp free') backwards
    exact ⟨List.reverse_injective befores, List.reverse_injective afters⟩
  · rintro ⟨rfl, rfl⟩
    rfl

/-! ## The signed bytes of an entry -/

/-- An entry of either catalog. -/
inductive CatalogEntry where
  | publisherRoot (entry : PublisherRoot)
  | packageSigningKey (entry : PackageSigningKey)

/-- What a signature over an entry is meant to bind. -/
inductive SignedFields where
  | publisherRoot (publicKey : VerifyingKey) (id : PublisherRootId) (trustLevel : PublisherTrustLevel)
    (activatedAt : DateTime)
  | packageSigningKey (publicKey : VerifyingKey) (id : PackageSigningKeyId) (validFrom : DateTime)

end

namespace CatalogEntry

def signedFields : CatalogEntry → SignedFields
  | publisherRoot entry => .publisherRoot entry.publicKey entry.publisherRootId entry.trustLevel entry.activatedAt
  | packageSigningKey entry => .packageSigningKey entry.publicKey entry.packageSigningKeyId entry.validFrom

def canonicalEntryBytes (clock : Rfc3339) : CatalogEntry → List UInt8
  | publisherRoot entry => entry.canonicalEntryBytes clock
  | packageSigningKey entry => entry.canonicalEntryBytes clock

/-- A signing key whose identifier runs over the identifier and the trust label of a publisher, on two
lines. -/
def RunsOver (publisher : PublisherRoot) (key : PackageSigningKey) : Prop :=
  key.publicKey = publisher.publicKey ∧ key.validFrom = publisher.activatedAt ∧
    key.packageSigningKeyId.value = publisher.publisherRootId.value ++ "\n" ++ publisher.trustLevel.label

/-- Entries of the two kinds with one text. -/
def Confusable : CatalogEntry → CatalogEntry → Prop
  | publisherRoot publisher, packageSigningKey key => RunsOver publisher key
  | packageSigningKey key, publisherRoot publisher => RunsOver publisher key
  | _, _ => False

end CatalogEntry

section

variable (clock : Rfc3339) (entry : PublisherRoot)

theorem label_line (level : PublisherTrustLevel) : 10 ∉ utf8 level.label := by
  cases level <;> decide +kernel

theorem label_injective : Function.Injective PublisherTrustLevel.label := by
  intro level other same
  cases level <;> cases other <;> first | rfl | exact absurd same (by decide)

/-- The key has a fixed length and the time stands on the last line, so both can be told from the rest. -/
theorem entry_bytes_inj {key key' : VerifyingKey} {middle middle' : List UInt8} {instant instant' : DateTime} :
    key.val ++ 10 :: middle ++ 10 :: clock.format instant = key'.val ++ 10 :: middle' ++ 10 :: clock.format instant' ↔
      key = key' ∧ middle = middle' ∧ instant = instant' := by
  rw [append_mark_inj (clock.format_line instant) (clock.format_line instant')]
  constructor
  · rintro ⟨same, times⟩
    obtain ⟨keys, middles⟩ := List.append_inj same (key.property.trans key'.property.symm)
    exact ⟨Subtype.ext keys, (List.cons.inj middles).2, clock.format_injective times⟩
  · rintro ⟨rfl, rfl, rfl⟩
    exact ⟨rfl, rfl⟩

theorem publisherRoot_bytes :
    entry.canonicalEntryBytes clock =
      entry.publicKey.val ++ 10 :: (utf8 entry.publisherRootId.value ++ 10 :: utf8 entry.trustLevel.label) ++
        10 :: clock.format entry.activatedAt := by
  simp only [PublisherRoot.canonicalEntryBytes, List.append_assoc, List.cons_append]

theorem publisherRoot_bytes_inj (other : PublisherRoot) :
    entry.canonicalEntryBytes clock = other.canonicalEntryBytes clock ↔
      entry.publicKey = other.publicKey ∧ entry.publisherRootId = other.publisherRootId ∧
        entry.trustLevel = other.trustLevel ∧ entry.activatedAt = other.activatedAt := by
  rw [publisherRoot_bytes, publisherRoot_bytes, entry_bytes_inj,
    append_mark_inj (label_line entry.trustLevel) (label_line other.trustLevel)]
  constructor
  · rintro ⟨keys, ⟨ids, labels⟩, times⟩
    refine ⟨keys, ?_, label_injective (utf8_injective labels), times⟩
    exact congrArg PublisherRootId.mk (utf8_injective ids)
  · rintro ⟨keys, ids, levels, times⟩
    rw [keys, ids, levels, times]
    exact ⟨rfl, ⟨rfl, rfl⟩, rfl⟩

theorem packageSigningKey_bytes_inj (entry other : PackageSigningKey) :
    entry.canonicalEntryBytes clock = other.canonicalEntryBytes clock ↔
      entry.publicKey = other.publicKey ∧ entry.packageSigningKeyId = other.packageSigningKeyId ∧
        entry.validFrom = other.validFrom := by
  rw [PackageSigningKey.canonicalEntryBytes, PackageSigningKey.canonicalEntryBytes, entry_bytes_inj]
  constructor
  · rintro ⟨keys, ids, times⟩
    refine ⟨keys, ?_, times⟩
    exact congrArg PackageSigningKeyId.mk (utf8_injective ids)
  · rintro ⟨keys, ids, times⟩
    rw [keys, ids, times]
    exact ⟨rfl, rfl, rfl⟩

theorem bytes_eq_iff_runsOver (publisher : PublisherRoot) (key : PackageSigningKey) :
    publisher.canonicalEntryBytes clock = key.canonicalEntryBytes clock ↔ CatalogEntry.RunsOver publisher key := by
  have lines : utf8 publisher.publisherRootId.value ++ 10 :: utf8 publisher.trustLevel.label =
      utf8 (publisher.publisherRootId.value ++ "\n" ++ publisher.trustLevel.label) := by
    rw [utf8_append, utf8_append, List.append_assoc]
    rfl
  rw [publisherRoot_bytes, PackageSigningKey.canonicalEntryBytes, entry_bytes_inj, lines]
  constructor
  · rintro ⟨keys, ids, times⟩
    exact ⟨keys.symm, times.symm, (utf8_injective ids).symm⟩
  · rintro ⟨keys, times, ids⟩
    exact ⟨keys.symm, congrArg utf8 ids.symm, times.symm⟩

/-- Two entries have the same signed bytes if their signed fields are the same, or if one is a signing key
that runs over the other. -/
theorem canonicalEntryBytes_eq_iff (entry other : CatalogEntry) :
    entry.canonicalEntryBytes clock = other.canonicalEntryBytes clock ↔
      entry.signedFields = other.signedFields ∨ entry.Confusable other := by
  cases entry with
  | publisherRoot entry =>
    cases other with
    | publisherRoot other =>
      refine (publisherRoot_bytes_inj clock entry other).trans ?_
      simp only [CatalogEntry.signedFields, CatalogEntry.Confusable, SignedFields.publisherRoot.injEq, or_false]
    | packageSigningKey key =>
      refine (bytes_eq_iff_runsOver clock entry key).trans ?_
      simp only [CatalogEntry.signedFields, CatalogEntry.Confusable, reduceCtorEq, false_or]
  | packageSigningKey key =>
    cases other with
    | publisherRoot other =>
      refine eq_comm.trans ((bytes_eq_iff_runsOver clock other key).trans ?_)
      simp only [CatalogEntry.signedFields, CatalogEntry.Confusable, reduceCtorEq, false_or]
    | packageSigningKey other =>
      refine (packageSigningKey_bytes_inj clock key other).trans ?_
      simp only [CatalogEntry.signedFields, CatalogEntry.Confusable, SignedFields.packageSigningKey.injEq, or_false]

/-! ## Success of the verifier -/

/-- What a call of `verify` is given. -/
structure VerifyInput where
  input : SignedPayload
  publisherRootLinkSig : LinkSignature
  signingKeyLinkSig : LinkSignature
  issuedAt : DateTime
  now : DateTime

end

namespace TrustChainVerifier

variable {verifier : TrustChainVerifier} {crypto : Ed25519} {signed : VerifyingKey → List UInt8 → Prop}
  {publisherRoot : PublisherRoot} {signingKey : PackageSigningKey} (self : TrustChainVerifier)

def result (crypto : Ed25519) (clock : Rfc3339) (call : VerifyInput) : PackageVerificationResult :=
  self.verify crypto clock call.input call.publisherRootLinkSig call.signingKeyLinkSig call.issuedAt call.now

/-- The two entries a call finds in the catalogs. -/
structure Finds (verifier : TrustChainVerifier) (input : SignedPayload) (publisherRoot : PublisherRoot)
    (signingKey : PackageSigningKey) : Prop where
  publisher : verifier.publisherCatalog.lookup input.publisherRootId = some publisherRoot
  key : ∃ catalog, verifier.signingCatalogs.lookup (vendorFromPublisherRootId input.publisherRootId) = some catalog ∧
    catalog.lookup input.packageSigningKeyId = some signingKey

/-- Neither the publisher nor the key has been withdrawn, and the key is not the root. -/
structure Standing (verifier : TrustChainVerifier) (call : VerifyInput) (publisherRoot : PublisherRoot)
    (signingKey : PackageSigningKey) : Prop where
  notRetired : ∀ retiredAt, publisherRoot.retiredAt = some retiredAt → call.now < retiredAt
  notDeplatformed : publisherRoot.trustLevel ≠ .deplatformed
  notRevoked : ∀ revokedAt, signingKey.revokedAt = some revokedAt → call.issuedAt < revokedAt
  notRoot : signingKey.publicKey ≠ verifier.aiosRoot.publicKey

/-- Every check of `verify` passes on the two entries. -/
structure Passes (verifier : TrustChainVerifier) (crypto : Ed25519) (clock : Rfc3339) (call : VerifyInput)
    (publisherRoot : PublisherRoot) (signingKey : PackageSigningKey) : Prop where
  finds : verifier.Finds call.input publisherRoot signingKey
  standing : verifier.Standing call publisherRoot signingKey
  rootLink : verifyEd25519 crypto (publisherRoot.canonicalEntryBytes clock) call.publisherRootLinkSig.bytes
    verifier.aiosRoot.publicKey = true
  keyLink : verifyEd25519 crypto (signingKey.canonicalEntryBytes clock) call.signingKeyLinkSig.bytes
    publisherRoot.publicKey = true
  payloadLink : verifyEd25519 crypto call.input.payload call.input.signature signingKey.publicKey = true
  depth : canonicalDepth ≤ verifier.maxDepth

theorem any_le_eq_false {bound : Option DateTime} {instant : DateTime} :
    (bound.any fun time => decide (time ≤ instant)) = false ↔ ∀ time, bound = some time → instant < time := by
  cases bound with
  | none => exact ⟨(fun _ _ found => by cases found), fun _ => rfl⟩
  | some time =>
    rw [Option.any_some, decide_eq_false_iff_not, Int.not_le]
    exact ⟨fun later _ found => Option.some.inj found ▸ later, fun later => later time rfl⟩

theorem verifyEntries_isSuccess_iff (crypto : Ed25519) (clock : Rfc3339) (call : VerifyInput)
    (publisherRoot : PublisherRoot) (signingKey : PackageSigningKey) :
    (self.verifyEntries crypto clock call.input call.publisherRootLinkSig call.signingKeyLinkSig call.issuedAt
      publisherRoot signingKey).isSuccess = true ↔
      (signingKey.revokedAt.any fun time => decide (time ≤ call.issuedAt)) = false ∧
      verifyEd25519 crypto (publisherRoot.canonicalEntryBytes clock) call.publisherRootLinkSig.bytes
        self.aiosRoot.publicKey = true ∧
      verifyEd25519 crypto (signingKey.canonicalEntryBytes clock) call.signingKeyLinkSig.bytes
        publisherRoot.publicKey = true ∧
      verifyEd25519 crypto call.input.payload call.input.signature signingKey.publicKey = true ∧
      isBypass self.aiosRoot.publicKey signingKey = false ∧ canonicalDepth ≤ self.maxDepth := by
  unfold verifyEntries
  -- each answer before the last two contradicts the check it reports
  split_ifs <;> simp_all [PackageVerificationResult.isSuccess]

/-- `verify` succeeds exactly if its checks pass on the entries it finds. -/
theorem result_isSuccess_iff (crypto : Ed25519) (clock : Rfc3339) (call : VerifyInput) :
    (self.result crypto clock call).isSuccess = true ↔
      ∃ publisherRoot signingKey, self.Passes crypto clock call publisherRoot signingKey := by
  constructor
  · intro success
    unfold result verify at success
    cases publisher : self.publisherCatalog.lookup call.input.publisherRootId with
    | none =>
      rw [publisher] at success
      cases success
    | some publisherRoot =>
      rw [publisher] at success
      dsimp only at success
      split_ifs at success with retired deplatformed
      · cases success
      · cases success
      · cases catalogs : self.signingCatalogs.lookup (vendorFromPublisherRootId call.input.publisherRootId) with
        | none =>
          rw [catalogs] at success
          cases success
        | some catalog =>
          rw [catalogs] at success
          dsimp only at success
          cases key : catalog.lookup call.input.packageSigningKeyId with
          | none =>
            rw [key] at success
            cases success
          | some signingKey =>
            rw [key] at success
            obtain ⟨live, rootLink, keyLink, payloadLink, bypass, depth⟩ :=
              (self.verifyEntries_isSuccess_iff crypto clock call publisherRoot signingKey).mp success
            refine ⟨publisherRoot, signingKey, ⟨publisher, catalog, catalogs, key⟩, ?_, rootLink, keyLink,
              payloadLink, depth⟩
            exact ⟨any_le_eq_false.mp (Bool.eq_false_iff.mpr retired), deplatformed, any_le_eq_false.mp live,
              beq_eq_false_iff_ne.mp bypass⟩
  · rintro ⟨publisherRoot, signingKey, ⟨publisher, catalog, catalogs, key⟩, standing, rootLink, keyLink,
      payloadLink, depth⟩
    unfold result verify
    rw [publisher]
    dsimp only
    rw [any_le_eq_false.mpr standing.notRetired, if_neg Bool.false_ne_true, if_neg standing.notDeplatformed, catalogs]
    dsimp only
    rw [key]
    apply (self.verifyEntries_isSuccess_iff crypto clock call publisherRoot signingKey).mpr
    exact ⟨any_le_eq_false.mpr standing.notRevoked, rootLink, keyLink, payloadLink,
      beq_eq_false_iff_ne.mpr standing.notRoot, depth⟩

/-! ## What success says -/

/-- Ed25519 cannot be forged: what verifies under a key was signed with it. -/
def Unforgeable (crypto : Ed25519) (signed : VerifyingKey → List UInt8 → Prop) : Prop :=
  ∀ key message signature, crypto.verifyStrict key message signature = true → signed key message

/-- The instant lies in the validity window of the key. -/
def InWindow (signingKey : PackageSigningKey) (instant : DateTime) : Prop :=
  signingKey.validFrom ≤ instant ∧ ∀ validUntil, signingKey.validUntil = some validUntil → instant ≤ validUntil

/-- The root signed the publisher's current entry, the publisher the key's entry and the key the payload;
neither has been withdrawn, the key was valid at the time of issue, and it is not the root. -/
structure Endorsed (verifier : TrustChainVerifier) (signed : VerifyingKey → List UInt8 → Prop) (clock : Rfc3339)
    (call : VerifyInput) (publisherRoot : PublisherRoot) (signingKey : PackageSigningKey) : Prop where
  finds : verifier.Finds call.input publisherRoot signingKey
  standing : verifier.Standing call publisherRoot signingKey
  rootSigned : signed verifier.aiosRoot.publicKey (publisherRoot.canonicalEntryBytes clock)
  publisherSigned : signed publisherRoot.publicKey (signingKey.canonicalEntryBytes clock)
  keySigned : signed signingKey.publicKey call.input.payload
  inWindow : InWindow signingKey call.issuedAt

/-- Success means an endorsed payload, and different entries have different signed bytes. -/
structure ChainSound (verifier : TrustChainVerifier) (crypto : Ed25519) (signed : VerifyingKey → List UInt8 → Prop)
    (clock : Rfc3339) (call : VerifyInput) (entry other : CatalogEntry) : Prop where
  endorsed : (verifier.result crypto clock call).isSuccess = true →
    ∃ publisherRoot signingKey, verifier.Endorsed signed clock call publisherRoot signingKey
  distinct : entry.signedFields ≠ other.signedFields →
    entry.canonicalEntryBytes clock ≠ other.canonicalEntryBytes clock

theorem Finds.unique {input : SignedPayload} {publisherRoot' : PublisherRoot} {signingKey' : PackageSigningKey}
    (found : verifier.Finds input publisherRoot signingKey) (found' : verifier.Finds input publisherRoot' signingKey') :
    publisherRoot = publisherRoot' ∧ signingKey = signingKey' := by
  obtain ⟨publisher, catalog, catalogs, key⟩ := found
  obtain ⟨publisher', catalog', catalogs', key'⟩ := found'
  obtain rfl : catalog = catalog' := Option.some.inj (catalogs.symm.trans catalogs')
  exact ⟨Option.some.inj (publisher.symm.trans publisher'), Option.some.inj (key.symm.trans key')⟩

/-- Without the window, success says all that it should. -/
theorem Passes.endorsed {verifier : TrustChainVerifier} {crypto : Ed25519} {signed : VerifyingKey → List UInt8 → Prop}
    {clock : Rfc3339} {call : VerifyInput} {publisherRoot : PublisherRoot} {signingKey : PackageSigningKey}
    (unforgeable : Unforgeable crypto signed) (passes : verifier.Passes crypto clock call publisherRoot signingKey)
    (inWindow : InWindow signingKey call.issuedAt) :
    verifier.Endorsed signed clock call publisherRoot signingKey := by
  have strict : ∀ {payload signature key}, verifyEd25519 crypto payload signature key = true → signed key payload := by
    intro payload signature key verified
    exact unforgeable key payload signature (Bool.and_eq_true_iff.mp verified).2
  exact ⟨passes.finds, passes.standing, strict passes.rootLink, strict passes.keyLink,
    strict passes.payloadLink, inWindow⟩

/-! ## An example chain -/

/-- The epoch as chrono prints it, and any other instant as some line of its own. -/
def exampleLine (instant : ℤ) : List UInt8 :=
  if instant = 0 then utf8 "1970-01-01T00:00:00+00:00"
  else 65 :: List.replicate (if 0 < instant then 2 * instant.toNat else 2 * (-instant).toNat + 1) 48

theorem exampleLine_injective : Function.Injective exampleLine := by
  have epoch : (utf8 "1970-01-01T00:00:00+00:00").head? ≠ some 65 := by decide +kernel
  intro instant other same
  unfold exampleLine at same
  by_cases zero : instant = 0
  · by_cases zero' : other = 0
    · rw [zero, zero']
    · rw [if_pos zero, if_neg zero'] at same
      exact absurd (congrArg List.head? same) epoch
  · by_cases zero' : other = 0
    · rw [if_neg zero, if_pos zero'] at same
      exact absurd (congrArg List.head? same).symm epoch
    · rw [if_neg zero, if_neg zero'] at same
      have lengths := congrArg List.length same
      simp only [List.length_cons, List.length_replicate] at lengths
      split_ifs at lengths <;> omega

theorem exampleLine_line (instant : ℤ) : 10 ∉ exampleLine instant := by
  unfold exampleLine
  split_ifs
  · decide +kernel
  · simp
  · simp

def exampleClock : Rfc3339 := ⟨exampleLine, exampleLine_injective, exampleLine_line⟩

def exampleKey (byte : UInt8) : VerifyingKey := ⟨List.replicate 32 byte, List.length_replicate⟩

def exampleSignature (byte : UInt8) : List UInt8 := List.replicate 64 byte

def examplePublisher : PublisherRoot :=
  ⟨⟨"pub:a"⟩, exampleKey 2, .verified, none, 0, none⟩

/-- A key that is valid until 10. -/
def exampleSigningKey : PackageSigningKey := ⟨⟨"pks:a:release"⟩, exampleKey 3, 0, some 10, none⟩

def examplePayload : List UInt8 := [1, 2, 3]

/-- Accepts the three signatures that were made in the example. -/
def exampleCrypto : Ed25519 where
  verifyStrict key message signature :=
    (key == exampleKey 1 && message == examplePublisher.canonicalEntryBytes exampleClock &&
      signature == exampleSignature 1) ||
    (key == exampleKey 2 && message == exampleSigningKey.canonicalEntryBytes exampleClock &&
      signature == exampleSignature 2) ||
    (key == exampleKey 3 && message == examplePayload && signature == exampleSignature 3)

def exampleSigned (key : VerifyingKey) (message : List UInt8) : Prop :=
  ∃ signature, exampleCrypto.verifyStrict key message signature = true

theorem exampleSigned_unforgeable : Unforgeable exampleCrypto exampleSigned :=
  fun _ _ signature verified => ⟨signature, verified⟩

def exampleVerifier : TrustChainVerifier :=
  new ⟨exampleKey 1⟩ ⟨[examplePublisher]⟩ ((∅ : Table String SigningKeyCatalog).insert "a" ⟨"a", [exampleSigningKey]⟩)

def exampleInput : SignedPayload := ⟨examplePayload, exampleSignature 3, ⟨"pks:a:release"⟩, ⟨"pub:a"⟩⟩

/-- The payload, as issued at an instant. -/
def exampleCall (issuedAt : DateTime) : VerifyInput where
  input := exampleInput
  publisherRootLinkSig := ⟨exampleSignature 1⟩
  signingKeyLinkSig := ⟨exampleSignature 2⟩
  issuedAt := issuedAt
  now := 100

theorem exampleFinds : exampleVerifier.Finds exampleInput examplePublisher exampleSigningKey :=
  ⟨by decide +kernel, ⟨"a", [exampleSigningKey]⟩, by rfl, by decide +kernel⟩

/-- A payload issued after the key has expired is verified. -/
theorem expiredKey_verified : ¬ exampleVerifier.ChainSound exampleCrypto exampleSigned exampleClock (exampleCall 20)
    (.publisherRoot examplePublisher) (.packageSigningKey exampleSigningKey) := by
  intro sound
  obtain ⟨publisherRoot, signingKey, endorsed⟩ := sound.endorsed (by decide +kernel)
  obtain ⟨-, rfl⟩ := exampleFinds.unique endorsed.finds
  exact absurd (endorsed.inWindow.2 10 rfl) (by decide)

/-- The chain is sound on a call and a pair of entries exactly if the key that every check passes on was
valid at the time of issue, and neither entry is a signing key that runs over the other. -/
theorem chainSound_iff (unforgeable : Unforgeable crypto signed) (verifier : TrustChainVerifier) (clock : Rfc3339)
    (call : VerifyInput) (entry other : CatalogEntry) :
    verifier.ChainSound crypto signed clock call entry other ↔
      (∀ publisherRoot signingKey, verifier.Passes crypto clock call publisherRoot signingKey →
        InWindow signingKey call.issuedAt) ∧ ¬ entry.Confusable other := by
  constructor
  · rintro ⟨endorsed, distinct⟩
    constructor
    · intro publisherRoot signingKey passes
      obtain ⟨publisherRoot', signingKey', endorsement⟩ :=
        endorsed ((verifier.result_isSuccess_iff crypto clock call).mpr ⟨publisherRoot, signingKey, passes⟩)
      obtain ⟨-, rfl⟩ := passes.finds.unique endorsement.finds
      exact endorsement.inWindow
    · intro confusable
      apply distinct
      · cases entry <;> cases other <;> first | exact confusable.elim | exact SignedFields.noConfusion
      · exact (canonicalEntryBytes_eq_iff clock entry other).mpr (.inr confusable)
  · rintro ⟨inWindow, apart⟩
    constructor
    · intro success
      obtain ⟨publisherRoot, signingKey, passes⟩ := (verifier.result_isSuccess_iff crypto clock call).mp success
      exact ⟨publisherRoot, signingKey, passes.endorsed unforgeable (inWindow publisherRoot signingKey passes)⟩
    · intro different same
      obtain fields | confusable := (canonicalEntryBytes_eq_iff clock entry other).mp same
      · exact different fields
      · exact apart confusable

/-- Within its window the same key endorses the payload. -/
theorem chainSound_iff_example : exampleVerifier.ChainSound exampleCrypto exampleSigned exampleClock (exampleCall 5)
    (.publisherRoot examplePublisher) (.packageSigningKey exampleSigningKey) := by
  apply (chainSound_iff exampleSigned_unforgeable exampleVerifier exampleClock (exampleCall 5) _ _).mpr
  constructor
  · intro publisherRoot signingKey passes
    obtain ⟨-, rfl⟩ := exampleFinds.unique passes.finds
    refine ⟨by decide, ?_⟩
    rintro validUntil ⟨rfl⟩
    decide
  · rintro ⟨keys, -⟩
    exact absurd keys (by decide +kernel)

end TrustChainVerifier

end Aios.Distribution
