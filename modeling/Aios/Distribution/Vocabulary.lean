/-! # The vocabulary of the distribution layer

The identifiers of `ids.rs` and the closed enumerations of `trust.rs`, `package_kind.rs`,
`takedown.rs` and `error.rs`.
-/

namespace Aios.Distribution

structure PackageId where
  value : String
deriving DecidableEq, Repr

structure PublisherId where
  value : String
deriving DecidableEq, Repr

structure PublisherRootId where
  value : String
deriving DecidableEq, Repr

structure PackageSigningKeyId where
  value : String
deriving DecidableEq, Repr

inductive PublisherTrustLevel where
  | aiosRoot
  | verified
  | community
  | deprecated
  | deplatformed
deriving DecidableEq, Repr

namespace PublisherTrustLevel

def label : PublisherTrustLevel → String
  | aiosRoot => "AIOS_ROOT"
  | verified => "VERIFIED"
  | community => "COMMUNITY"
  | deprecated => "DEPRECATED"
  | deplatformed => "DEPLATFORMED"

end PublisherTrustLevel

inductive PackageKind where
  | app
  | agent
  | theme
  | invariantBundle
  | policyBundle
  | identityBundle
  | kernelCandidate
  | adapter
  | capabilityCatalogDelta
deriving DecidableEq, Repr

inductive InstallScope where
  | systemOnly
  | groupScoped
  | userScoped
  | either
deriving DecidableEq, Repr

inductive TakedownReason where
  | maliciousBehaviorDetected
  | supplyChainCompromise
  | capabilityLieDetected
  | legalRequirement
  | publisherRequest
  | keyCompromise
  | abandonedAfterInactiveTtl
deriving DecidableEq, Repr

/-- Each error carries the text of its payload. -/
inductive DistributionError where
  | packageNotFound (message : String)
  | publisherNotFound (message : String)
  | signatureFailed (message : String)
  | trustChainTooDeep (message : String)
  | publisherDeplatformed (message : String)
  | hashMismatch (message : String)
  | manifestForged (message : String)
  | repositoryKindMismatch (message : String)
  | revokedKey (message : String)
  | installStateInvalidTransition (message : String)
  | mirrorReSignAttempt (message : String)
  | capabilityLieDetected (message : String)
  | takedownActive (message : String)
  | internal (message : String)
  | installScopeViolation (message : String)
  | bundleTampered (message : String)
  | mirrorBlacklisted (message : String)
  | packageDowngradeBlocked (message : String)
deriving DecidableEq, Repr

end Aios.Distribution
